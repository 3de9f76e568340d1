import Doctmcp.Channel.Objects

/-! # What the code between two awaits does

One lemma for each piece of code that runs between two awaits: the objects evolve, at most one
frame or callback about a credential goes out at its end, and the call stands where its objects
are. Two pieces are apart: `cancel` and `close` after their await remove an entry that the map may
no longer have, and `acknowledge` after its await finishes a delivery. -/

namespace Doctmcp.Channel
open Doctmcp.Lib Doctmcp.Lib.Operation Doctmcp.Schemas Doctmcp.Completion
set_option autoImplicit false

/-- The objects that a call goes on with are there. -/
def CallOk (c : Coordinator) : Call → Prop
  | .registerDigest session _ => session.state = .pending
  | .cancelSession e => ∃ id, c.sessionOf e = some id
  | .closeSession e rest => ∀ j ∈ e :: rest, ∃ id, c.sessionOf j = some id
  | .acknowledgeDelivery e d _ message | .deliveryAcknowledged e d _ message =>
    ∃ delivery, c.deliveries.get? d = some delivery ∧ delivery.entry = e ∧
      Segment.matchesDelivery message delivery.completed ∧
      delivery.completed.session.pairingSessionId = message.pairingSessionId
  | _ => True

/-- The call is going to remove an entry of the session. -/
def Held (c : Coordinator) : Call → PairingSessionId → Prop
  | .cancelSession e, id => c.sessionOf e = some id
  | .closeSession e rest, id => ∃ j ∈ e :: rest, c.sessionOf j = some id
  | _, _ => False

/-- The socket of an entry of the session that has a delivery. -/
def SentTo (c : Coordinator) (socket : Socket) (id : PairingSessionId) : Prop :=
  ∃ e entry, c.heap.get? e = some entry ∧ entry.session.pairingSessionId = id ∧
    entry.socket = some socket ∧ entry.delivery ≠ none

/-- A credential is sent to the socket of its session; the callback is called on a message from
that socket, about the credential that the message names. -/
def Justified (c : Coordinator) : Effect → Prop
  | .credential socket completed => SentTo c socket completed.session.pairingSessionId
  | .acknowledgeDelivery socket message input =>
    SentTo c socket message.pairingSessionId ∧
      ∃ completed, input = Segment.acknowledgeInput completed ∧
        Segment.matchesDelivery message completed ∧
        completed.session.pairingSessionId = message.pairingSessionId
  | _ => False

/-- The map has no other entry for the session of this one. -/
def Current (c : Coordinator) (e : ℕ) : Prop :=
  ∀ id, c.sessionOf e = some id → ∀ j, c.entries.get? id = some j → j = e

/-- The call stands at its callback, or after it has succeeded. -/
def Acknowledging : Call → Prop
  | .acknowledgeDelivery _ _ _ _ | .deliveryAcknowledged _ _ _ _ => True
  | _ => False

/-- The call was made in the effect. -/
def Told (c : Coordinator) (call : Call) (effect : Effect) : Prop :=
  ∃ e d delivery socket message, call = .acknowledgeDelivery e d socket message ∧
    c.deliveries.get? d = some delivery ∧
    effect = .acknowledgeDelivery socket message (Segment.acknowledgeInput delivery.completed)

/-- What a piece of code does that ends at an await, returns or throws. -/
inductive Ran (options : CoordinatorOptions) (safe : Prop) (drops holds : PairingSessionId → Prop)
    (c : Coordinator) : Except PairingChannelErrorCode Call × Coordinator → Prop
  | quiet {r : Except PairingChannelErrorCode Call} {c' : Coordinator}
      (evolves : Evolves options safe drops c c') (call : CallOk c' (standing r))
      (held : ∀ id, Held c' (standing r) id → holds id) (plain : ¬ Acknowledging (standing r)) :
      Ran options safe drops holds c (r, c')
  | sends {r : Except PairingChannelErrorCode Call} {c' : Coordinator}
      (evolves : Evolves options safe drops c c') (call : CallOk c' (standing r))
      (held : ∀ id, Held c' (standing r) id → holds id) {effect : Effect}
      (justified : Justified c' effect)
      (told : Acknowledging (standing r) → Told c' (standing r) effect) :
      Ran options safe drops holds c (r, c'.emit effect)

variable {options : CoordinatorOptions} {safe : Prop} {drops holds : PairingSessionId → Prop}
  {c c' : Coordinator}

namespace Ran

theorem after (h : Evolves options safe drops c c')
    {out : Except PairingChannelErrorCode Call × Coordinator}
    (hout : Ran options safe drops holds c' out) : Ran options safe drops holds c out := by
  cases hout with
  | quiet evolves call held plain => exact .quiet (h.trans evolves) call held plain
  | sends evolves call held justified told =>
    exact .sends (h.trans evolves) call held justified told

theorem weaken {safe' : Prop} {out : Except PairingChannelErrorCode Call × Coordinator}
    (hout : Ran options safe drops holds c out) (hsafe : safe' → safe) :
    Ran options safe' drops holds c out := by
  cases hout with
  | quiet evolves call held plain =>
    exact .quiet (evolves.weaken hsafe fun _ hdrop => hdrop) call held plain
  | sends evolves call held justified told =>
    exact .sends (evolves.weaken hsafe fun _ hdrop => hdrop) call held justified told

theorem throws (h : Evolves options safe drops c c') (code : PairingChannelErrorCode) :
    Ran options safe drops holds c (.error code, c') := .quiet h trivial (fun _ => False.elim) nofun

/-- A call that holds no entry and does not acknowledge. -/
def Simple : Call → Prop
  | .cancelSession _ | .closeSession _ _ | .acknowledgeDelivery _ _ _ _
  | .deliveryAcknowledged _ _ _ _ => False
  | _ => True

theorem stands (h : Evolves options safe drops c c') {call : Call} (hcall : CallOk c' call)
    (hsimple : Simple call) : Ran options safe drops holds c (.ok call, c') := by
  refine .quiet h hcall (fun id hid => ?_) fun hack => ?_
  · change Held c' call id at hid
    cases call <;> first | exact hid.elim | exact hsimple.elim
  · change Acknowledging call at hack
    cases call <;> first | exact hack.elim | exact hsimple.elim

theorem returns (h : Evolves options safe drops c c') :
    Ran options safe drops holds c (.ok .returned, c') := .stands h trivial trivial

end Ran

/-! ## Reading code -/

namespace Segment
variable {α β : Type}

theorem exec_update (f : Coordinator → Coordinator) (c : Coordinator) :
    exec (update f) c = (.ok (), f c) := by
  unfold update
  rw [exec_get_bind]
  rfl

theorem exec_update_bind (f : Coordinator → Coordinator) (k : Unit → Segment β)
    (c : Coordinator) : exec (update f >>= k) c = exec (k ()) (f c) := by
  rw [exec_bind, exec_update]

theorem exec_readEntry_bind {e : ℕ} {entry : PairingChannelEntry}
    (hentry : c.heap.get? e = some entry) (k : PairingChannelEntry → Segment β) :
    exec (readEntry e >>= k) c = exec (k entry) c := by
  have hread : exec (readEntry e) c = (.ok entry, c) := by
    unfold readEntry
    rw [exec_get_bind, hentry]
    rfl
  rw [exec_bind, hread]

theorem readEntry_cases {P : Except PairingChannelErrorCode β × Coordinator → Prop} {e : ℕ}
    {k : PairingChannelEntry → Segment β} (herror : P (.error .PAIRING_UNAVAILABLE, c))
    (hok : ∀ entry, c.heap.get? e = some entry → P (exec (k entry) c)) :
    P (exec (readEntry e >>= k) c) := by
  cases hentry : c.heap.get? e with
  | some entry =>
    rw [exec_readEntry_bind hentry]
    exact hok entry hentry
  | none =>
    have hread : exec (readEntry e) c = (.error .PAIRING_UNAVAILABLE, c) := by
      unfold readEntry
      rw [exec_get_bind, hentry]
      rfl
    rw [exec_bind, hread]
    exact herror

theorem exec_liveEntry (id : String) (now : JsDate) (c : Coordinator) :
    exec (liveEntry id now) c =
      match pairingSessionIdSchema id with
      | none => (.error .PAIRING_UNAVAILABLE, c)
      | some s =>
        match c.entryOf s, now with
        | some x, some t =>
          if x.2.deadlineMs ≤ t then (.error .PAIRING_UNAVAILABLE, c.expire s) else (.ok x, c)
        | _, _ => (.error .PAIRING_UNAVAILABLE, c) := by
  unfold liveEntry parseSessionId readTimestamp
  cases pairingSessionIdSchema id with
  | none => rfl
  | some s =>
    rw [orThrow_some, exec_lift_bind_eq rfl, exec_get_bind]
    dsimp only
    cases c.entryOf s with
    | none => rfl
    | some x =>
      rw [orThrow_some, exec_lift_bind_eq rfl]
      cases now with
      | none => rfl
      | some t =>
        rw [orThrow_some, exec_lift_bind_eq rfl]
        dsimp only
        split_ifs
        · rw [exec_update_bind, exec_throw]
        · rfl

/-- `#liveEntry` finds the entry of the session, or throws; then the entry may have expired. -/
theorem liveEntry_cases {P : Except PairingChannelErrorCode β × Coordinator → Prop}
    (h : Core options c) {id : String} {now : JsDate} {k : ℕ × PairingChannelEntry → Segment β}
    (hdrops : ∀ s, pairingSessionIdSchema id = some s → Due c s now → drops s)
    (herror : ∀ c', Evolves options True drops c c' → P (.error .PAIRING_UNAVAILABLE, c'))
    (hok : ∀ s e entry, pairingSessionIdSchema id = some s → c.entryOf s = some (e, entry) →
      P (exec (k (e, entry)) c)) : P (exec (liveEntry id now >>= k) c) := by
  have hrefl := herror c (.refl h)
  rw [exec_bind, exec_liveEntry]
  cases hid : pairingSessionIdSchema id with
  | none => exact hrefl
  | some s =>
    dsimp only
    cases hentry : c.entryOf s with
    | none => exact hrefl
    | some x =>
      cases now with
      | none => exact hrefl
      | some t =>
        dsimp only
        by_cases hdue : x.2.deadlineMs ≤ t
        · rw [if_pos hdue]
          exact herror _ (evolves_expire h s fun _ => hdrops s hid ⟨x, hentry, t, rfl, hdue⟩)
        · rw [if_neg hdue]
          exact hok s x.1 x.2 hid hentry

/-- `#pruneExpired` expires the sessions that are due. -/
theorem evolves_prune (h : Core options c) {t : ℤ} (ids : List PairingSessionId)
    (hdrops : ∀ id, Due c id (some t) → drops id) :
    Evolves options True drops c (ids.foldl (fun c id =>
      match c.entryOf id with
      | some (_, entry) => if entry.deadlineMs ≤ t then c.expire id else c
      | none => c) c) := by
  induction ids generalizing c with
  | nil => exact .refl h
  | cons id ids ih =>
    rw [List.foldl_cons]
    cases hentry : c.entryOf id with
    | none => exact ih h hdrops
    | some x =>
      obtain ⟨e, entry⟩ := x
      dsimp only
      by_cases hdue : entry.deadlineMs ≤ t
      · rw [if_pos hdue]
        have hexpire : Evolves options _ drops _ _ := evolves_expire h id fun _ =>
          hdrops id ⟨_, hentry, t, rfl, hdue⟩
        refine hexpire.trans (ih hexpire.core fun j hj => hdrops j ?_)
        obtain ⟨x, hx, hlate⟩ := hj
        exact ⟨x, entryOf_expire h hx, hlate⟩
      · rw [if_neg hdue]
        exact ih h hdrops

/-! ## Registering -/

theorem register_ran (h : Core options c) (session : PairingSession) (proof : String)
    (now : JsDate) : Ran options True drops holds c (exec (register session proof now) c) := by
  have hthrow : ∀ code, Ran options True drops holds c (.error code, c) := .throws (.refl h)
  unfold register ensureOpen
  simp only [bind_assoc]
  rw [exec_get_bind]
  refine exec_failIf_cases (fun _ => hthrow _) fun _ => ?_
  refine exec_failIf_cases (fun _ => hthrow _) fun hinput => ?_
  refine exec_bind_cases (fun code _ => hthrow code) fun t _ => ?_
  refine exec_failIf_cases (fun _ => hthrow _) fun _ => ?_
  have hpending : session.state = .pending := by
    by_contra hstate
    exact hinput (.inr (.inl hstate))
  exact .stands (.refl h) hpending trivial

theorem registerDigested_ran (h : Core options c) {session : PairingSession} {proof : String}
    {i : ℕ} (hcall : c.calls.get? i = some (.registerDigest session proof))
    (hpending : session.state = .pending) (prune check timer : JsDate)
    (hdrops : c.closed = false → ∀ id, Due c id prune → drops id) :
    Ran options True drops holds c
      (exec (registerDigested options session proof prune check timer) c) := by
  have hthrow : ∀ code, Ran options True drops holds c (.error code, c) := .throws (.refl h)
  unfold registerDigested ensureOpen pruneExpired readTimestamp
  simp only [bind_assoc]
  rw [exec_get_bind]
  refine exec_failIf_cases (fun _ => hthrow _) fun hclosed => ?_
  refine exec_bind_cases (fun code _ => hthrow code) fun t ht => ?_
  obtain rfl := orThrow_ok ht
  rw [exec_update_bind]
  have hprune := evolves_prune h c.entries.keys (hdrops (Bool.eq_false_iff.mpr hclosed))
  refine .after hprune ?_
  have hcore := hprune.core
  have hcalls := hprune.calls
  generalize c.entries.keys.foldl _ c = pruned at hcore hcalls
  have hthrow : ∀ code, Ran options True drops holds pruned (.error code, pruned) :=
    .throws (.refl hcore)
  refine exec_bind_cases (fun code _ => hthrow code) fun t _ => ?_
  rw [exec_get_bind]
  refine exec_failIf_cases (fun _ => hthrow _) fun hfree => ?_
  refine exec_failIf_cases (fun _ => hthrow _) fun hroom => ?_
  refine exec_bind_cases (fun code _ => hthrow code) fun t _ => ?_
  rw [exec_update_bind]
  have hunused : pruned.entries.has session.pairingSessionId = false :=
    Bool.eq_false_iff.mpr fun hhas => hfree (.inr hhas)
  have hknown : Known pruned proof := .inr ⟨i, _, hcalls ▸ hcall, rfl⟩
  exact .returns (evolves_register hcore hknown hpending hunused (by omega))

/-! ## Attaching -/

theorem touches_attaching (value : Bool) :
    Touches fun entry => { entry with attaching := value } where
  session _ := rfl
  proofDigest _ := rfl
  proof _ := rfl
  presented _ := rfl
  delivery _ := rfl
  socket _ := .inl rfl

theorem giveUp_cases (socket : Socket) (old : Option Socket) :
    (if old = some socket then none else old) = old ∨
      (if old = some socket then none else old) = none := by
  split_ifs
  · exact .inr rfl
  · exact .inl rfl

theorem attach_ran (h : Core options c) (id proof : String) (socket : Socket) (now : JsDate)
    (hdrops : c.closed = false → pairingChannelProofSchema proof = true →
      ∀ s, pairingSessionIdSchema id = some s → Due c s now → drops s) :
    Ran options True drops holds c (exec (attach id proof socket now) c) := by
  have hthrow : ∀ code, Ran options True drops holds c (.error code, c) := .throws (.refl h)
  unfold attach ensureOpen
  simp only [bind_assoc]
  rw [exec_get_bind]
  refine exec_failIf_cases (fun _ => hthrow _) fun hclosed => ?_
  refine exec_failIf_cases (fun _ => hthrow _) fun hinput => ?_
  have hproof : pairingChannelProofSchema proof = true := by
    by_contra hrefused
    exact hinput (.inr (Bool.eq_false_iff.mpr hrefused))
  refine liveEntry_cases h (hdrops (Bool.eq_false_iff.mpr hclosed) hproof)
    (fun c' hexpire => .throws hexpire _) fun s e entry _ _ => ?_
  refine exec_failIf_cases (fun _ => hthrow _) fun _ => ?_
  rw [exec_update_bind]
  exact .stands (evolves_touchEntry h e (touches_attaching true)) trivial trivial

theorem attachFailed_ran (h : Core options c) (e : ℕ) (socket : Socket) :
    Ran options safe drops holds c (exec (attachFailed e socket) c) := by
  unfold attachFailed
  rw [exec_update_bind]
  refine .throws (evolves_touchEntry h e ?_) _
  exact ⟨fun _ => rfl, fun _ => rfl, fun _ => rfl, fun _ => rfl, fun _ => rfl, fun entry =>
    giveUp_cases socket entry.socket⟩

theorem attachFinished_ran (h : Core options c) (e : ℕ) :
    Ran options safe drops holds c (exec (attachFinished e) c) := by
  unfold attachFinished
  rw [exec_update_bind]
  exact .returns (evolves_touchEntry h e (touches_attaching false))

theorem constantTimeHexEqual_iff {left right : String} :
    constantTimeHexEqual left right = true ↔
      JsString.length left = 64 ∧ JsString.length right = 64 ∧ left = right := decide_eq_true_iff

theorem attachDigested_ran (h : Core options c) (e : ℕ) (socket : Socket) {proof : String}
    (hknown : Known c proof) :
    Ran options safe drops holds c (exec (attachDigested e socket proof) c) := by
  unfold attachDigested
  rw [exec_get_bind]
  refine readEntry_cases (.throws (.refl h) _) fun entry hentry => ?_
  split_ifs with hrefused
  · exact attachFailed_ran h e socket
  · rw [exec_update_bind, exec_update_bind]
    have hmapped : c.entries.get? entry.session.pairingSessionId = some e := by
      by_contra hother
      exact hrefused (.inl hother)
    have hequal : constantTimeHexEqual entry.proofDigest (digestProof proof) = true := by
      by_contra hother
      exact hrefused (.inr (Bool.eq_false_iff.mpr hother))
    obtain ⟨hlength, -, hdigest⟩ := constantTimeHexEqual_iff.mp hequal
    have hproof : digestProof proof = digestProof entry.proof := by
      rcases h.digest e entry hentry with hregistered | hempty
      · exact hdigest.symm.trans hregistered
      · rw [hempty] at hlength
        exact absurd hlength (by decide)
    have hattach : Evolves options safe drops _ _ := evolves_attach h hentry hmapped socket hknown
      hproof
    have hsent := hattach.trans (evolves_emit hattach.core (.attached socket
      entry.session.pairingSessionId entry.session.expiresAt) id nofun)
    exact .stands hsent trivial trivial

/-! ## Sending a credential -/

theorem credentialDone_ran (h : Core options c) (e : ℕ) (waiter : Option ℕ) :
    Ran options safe drops holds c (exec (credentialDone e waiter) c) := by
  cases waiter with
  | some w => exact .stands (.refl h) trivial trivial
  | none => exact attachFinished_ran h e

theorem touches_sent (value : PendingDelivery → Option String) :
    TouchesDelivery fun delivery => { delivery with sentSocketId := value delivery } where
  entry _ := rfl
  completed _ := rfl
  waiters _ := rfl

theorem sendPendingDelivery_ran (h : Core options c) (e : ℕ) (socket : Socket)
    (waiter : Option ℕ) :
    Ran options safe drops holds c (exec (sendPendingDelivery e socket waiter) c) := by
  unfold sendPendingDelivery
  rw [exec_get_bind]
  refine readEntry_cases (.throws (.refl h) _) fun entry hentry => ?_
  cases hdelivery : entry.delivery with
  | none => exact credentialDone_ran h e waiter
  | some d =>
    obtain ⟨delivery, hd, howner⟩ := h.delivery e entry d hentry hdelivery
    rw [Option.bind_some, hd]
    dsimp only [Option.map_some]
    split_ifs with hskip
    · exact credentialDone_ran h e waiter
    · rw [exec_update_bind, exec_update_bind]
      have hsocket : entry.socket = some socket := by
        by_contra hother
        exact hskip (.inl hother)
      have hsession := h.owner d delivery hd
      rw [howner, Coordinator.sessionOf, hentry] at hsession
      have hsent : Evolves options safe drops _ _ := evolves_touchDelivery h d
        (touches_sent fun _ => some socket.id)
      refine .sends (r := .ok (.credentialSent e socket d waiter)) hsent trivial
        (fun _ => False.elim) ?_ False.elim
      refine ⟨e, entry, hentry, Option.some.inj hsession, hsocket, ?_⟩
      rw [hdelivery]
      exact Option.some_ne_none d

theorem credentialSettled_ran (h : Core options c) (e : ℕ) (socket : Socket) (d : ℕ)
    (waiter : Option ℕ) (ok : Bool) :
    Ran options safe drops holds c (exec (credentialSettled e socket d waiter ok) c) := by
  unfold credentialSettled
  split_ifs with hok
  · rw [exec_update_bind, exec_update_bind]
    have hgive : Evolves options safe drops _ _ := evolves_touchEntry h e
      (f := fun entry => { entry with
        socket := if entry.socket = some socket then none else entry.socket })
      ⟨fun _ => rfl, fun _ => rfl, fun _ => rfl, fun _ => rfl, fun _ => rfl, fun entry =>
        giveUp_cases socket entry.socket⟩
    have hsent : Evolves options safe drops _ _ := evolves_touchDelivery hgive.core d
      (touches_sent fun delivery =>
        if delivery.sentSocketId = some socket.id then none else delivery.sentSocketId)
    exact .after (hgive.trans hsent) (credentialDone_ran hsent.core e waiter)
  · exact credentialDone_ran h e waiter

theorem attachSettled_ran (h : Core options c) (e : ℕ) (socket : Socket) (ok : Bool) :
    Ran options safe drops holds c (exec (attachSettled e socket ok) c) := by
  unfold attachSettled
  split_ifs with hok
  · exact attachFailed_ran h e socket
  · refine readEntry_cases (.throws (.refl h) _) fun entry _ => ?_
    split_ifs
    · exact sendPendingDelivery_ran h e socket none
    · exact attachFinished_ran h e

theorem detach_ran (h : Core options c) (id : String) (socket : Socket) :
    Ran options safe drops holds c (exec (detach id socket) c) := by
  unfold detach
  cases pairingSessionIdSchema id with
  | none => exact .returns (.refl h)
  | some s =>
    dsimp only
    rw [exec_get_bind]
    cases c.entryOf s with
    | none => exact .returns (.refl h)
    | some x =>
      obtain ⟨e, entry⟩ := x
      dsimp only
      split_ifs with hother
      · exact .returns (.refl h)
      · rw [exec_update_bind]
        have hgive : Evolves options safe drops _ _ := evolves_touchEntry h e
          (f := fun entry => { entry with socket := none })
          ⟨fun _ => rfl, fun _ => rfl, fun _ => rfl, fun _ => rfl, fun _ => rfl, fun _ => .inr rfl⟩
        cases entry.delivery with
        | none => exact .returns hgive
        | some d =>
          dsimp only
          rw [exec_update_bind]
          exact .returns (hgive.trans (evolves_touchDelivery hgive.core d (touches_sent _)))

/-! ## Cancelling and closing -/

theorem cancelled_ran (h : Core options c) {e : ℕ}
    (hdrops : ∀ id, c.sessionOf e = some id → drops id) :
    Ran options (Current c e) drops holds c (exec (cancelled e) c) := by
  unfold cancelled
  refine readEntry_cases (.throws (.refl h) _) fun entry hentry => ?_
  rw [exec_update_bind]
  have hsession : c.sessionOf e = some entry.session.pairingSessionId := by
    rw [Coordinator.sessionOf, hentry]
    rfl
  exact .returns ((evolves_discard h hentry _ _ _ (hdrops _ hsession)).weaken
    (fun hcurrent => hcurrent _ hsession) fun _ hdrop => hdrop)

theorem cancel_ran (h : Core options c) (id : String) (socket : Option Socket)
    (hholds : ∀ s x, pairingSessionIdSchema id = some s → c.entryOf s = some x →
      (socket.isSome = true → x.2.socket = socket) → holds s) :
    Ran options True drops holds c (exec (cancel id socket) c) := by
  have hthrow : ∀ code, Ran options True drops holds c (.error code, c) := .throws (.refl h)
  unfold cancel parseSessionId
  refine exec_bind_cases (fun code _ => hthrow code) fun s hs => ?_
  rw [exec_get_bind]
  refine exec_bind_cases (fun code _ => hthrow code) fun x hx => ?_
  obtain ⟨e, entry⟩ := x
  have hs := orThrow_ok hs
  have hentry := orThrow_ok hx
  refine exec_failIf_cases (fun _ => hthrow _) fun hsocket => ?_
  have hsame : socket.isSome = true → entry.socket = socket := by
    intro hsome
    by_contra hne
    exact hsocket ⟨hsome, hne⟩
  have hheap := (entryOf_eq_some.mp hentry).2
  have hsession : c.sessionOf e = some s := h.mapped s e (entryOf_eq_some.mp hentry).1
  rw [if_pos (h.pending e entry hheap), exec_update_bind]
  have hemit : Evolves options True drops _ _ := evolves_emit h
    (.cancelPairingSession entry.session.pairingSessionId) (fun habout => habout) nofun
  show Ran options True drops holds c (.ok (.cancelSession e), _)
  refine .quiet hemit ⟨s, hsession⟩ (fun id hid => ?_) nofun
  obtain rfl : s = id := Option.some.inj (hsession.symm.trans hid)
  exact hholds s _ hs hentry hsame

/-- The entries in the loop of `close` are there, and their sessions may be held. -/
def Listed (c : Coordinator) (holds : PairingSessionId → Prop) (refs : List ℕ) : Prop :=
  ∀ j ∈ refs, ∃ id, c.sessionOf j = some id ∧ holds id

theorem Listed.evolves {refs : List ℕ} (hrefs : Listed c holds refs)
    (h : Evolves options safe drops c c') : Listed c' holds refs := by
  intro j hj
  obtain ⟨id, hsession, hid⟩ := hrefs j hj
  exact ⟨id, h.sessions j id hsession, hid⟩

theorem closeLoop_ran (h : Core options c) {refs : List ℕ} (hrefs : Listed c holds refs) :
    Ran options safe drops holds c (exec (closeLoop refs) c) := by
  cases refs with
  | nil => exact .returns (.refl h)
  | cons e rest =>
    unfold closeLoop
    refine readEntry_cases (.throws (.refl h) _) fun entry hentry => ?_
    rw [if_pos (h.pending e entry hentry), exec_update_bind]
    have hemit : Evolves options safe drops _ _ := evolves_emit h
      (.cancelPairingSession entry.session.pairingSessionId) id nofun
    have hlisted := hrefs.evolves hemit
    show Ran options safe drops holds c (.ok (.closeSession e rest), _)
    refine .quiet hemit (fun j hj => ?_) (fun id hid => ?_) nofun
    · obtain ⟨id, hsession, -⟩ := hlisted j hj
      exact ⟨id, hsession⟩
    · obtain ⟨j, hj, hsession⟩ := hid
      obtain ⟨id', hsession', hholds⟩ := hlisted j hj
      obtain rfl : id' = id := Option.some.inj (hsession'.symm.trans hsession)
      exact hholds

theorem evolves_closed (h : Core options c) :
    Evolves options safe drops c { c with closed := true } where
  core := ⟨h.mapped, h.pending, h.digest, h.attached, h.delivery, h.owner, h.current, h.waits,
    h.waiter, h.bounded⟩
  reset _ hreset := hreset
  calls := rfl
  sessions _ _ hsession := hsession
  deliveries _ delivery hdelivery := ⟨delivery, hdelivery, rfl, rfl⟩
  resolved _ waiter hwaiter hresolved := ⟨waiter, hwaiter, hresolved, rfl⟩
  forgets _ hforget := .inl hforget
  quiet _ heffect _ := heffect
  known _ hknown := hknown

theorem close_ran (h : Core options c)
    (hholds : c.closed = false → ∀ id, c.entries.has id = true → holds id) :
    Ran options True drops holds c (exec close c) := by
  unfold close
  rw [exec_get_bind]
  split_ifs with hclosed
  · exact .returns (.refl h)
  · rw [exec_update_bind]
    have hopen := hholds (Bool.eq_false_iff.mpr hclosed)
    have hevolves : Evolves options True drops _ _ := evolves_closed h
    refine .after hevolves (closeLoop_ran hevolves.core fun j hj => ?_)
    obtain ⟨id, hmapped⟩ := (OrderedMap.mem_values_iff _ _).mp hj
    exact ⟨id, h.mapped id j hmapped, hopen id ((OrderedMap.has_iff _ _).mpr ⟨j, hmapped⟩)⟩

theorem closeSession_ran (h : Core options c) {e : ℕ} {rest : List ℕ}
    (hdrops : ∀ id, c.sessionOf e = some id → drops id) (hrefs : Listed c holds rest) :
    Ran options (Current c e) drops holds c (exec (closeEntry e >>= fun _ => closeLoop rest) c) := by
  unfold closeEntry
  rw [bind_assoc]
  refine readEntry_cases (.throws (.refl h) _) fun entry hentry => ?_
  rw [exec_update_bind]
  have hsession : c.sessionOf e = some entry.session.pairingSessionId := by
    rw [Coordinator.sessionOf, hentry]
    rfl
  have hdiscard := (evolves_discard h hentry .SERVER_SHUTDOWN 1012 "Server shutdown"
    (hdrops _ hsession)).weaken (fun hcurrent : Current c e => hcurrent _ hsession)
      fun _ hdrop => hdrop
  exact .after hdiscard (closeLoop_ran hdiscard.core (hrefs.evolves hdiscard))

/-! ## Delivering -/

theorem awaitDelivery_ran (h : Core options c) {e d : ℕ} {delivery : PendingDelivery}
    (hd : c.deliveries.get? d = some delivery) (howner : delivery.entry = e)
    {entry : PairingChannelEntry} (hentry : c.heap.get? e = some entry)
    (hcurrent : entry.delivery = some d) :
    Ran options safe drops holds c (exec (awaitDelivery e d) c) := by
  subst howner
  unfold awaitDelivery createWaiter
  simp only [bind_assoc]
  rw [exec_get_bind, exec_update_bind]
  have hwaiter : Evolves options safe drops _ _ := evolves_newWaiter h hd hentry hcurrent
  refine .after hwaiter ?_
  rw [pure_bind]
  refine readEntry_cases (.throws (.refl hwaiter.core) _) fun entry' _ => ?_
  cases entry'.socket with
  | some socket => exact sendPendingDelivery_ran hwaiter.core _ socket _
  | none => exact .stands (.refl hwaiter.core) trivial trivial

/-- The first call of `deliver` for an entry, from its deadline on. -/
theorem newDelivery_ran (h : Core options c) {e : ℕ} {entry : PairingChannelEntry}
    (hentry : c.heap.get? e = some entry)
    (hmapped : c.entries.get? entry.session.pairingSessionId = some e)
    (hnone : entry.delivery = none) {completed : CompletedPairingCredential}
    (hsession : completed.session.pairingSessionId = entry.session.pairingSessionId) :
    Ran options safe drops holds c (exec (do
      let c ← get
      update fun c => { c with deliveries := c.deliveries.alloc (newDelivery e completed) }
      update (Coordinator.modifyEntry e fun entry =>
        { entry with delivery := some c.deliveries.next })
      awaitDelivery e c.deliveries.next) c) := by
  rw [exec_get_bind, exec_update_bind, exec_update_bind]
  have hnew : Evolves options safe drops c _ := evolves_newDelivery h hentry hmapped hnone hsession
  have hd : (c.deliveries.alloc (newDelivery e completed)).get? c.deliveries.next =
      some (newDelivery e completed) := by
    rw [Heap.get?_alloc, if_pos rfl]
  have hheap : (c.heap.modify e fun entry =>
      { entry with delivery := some c.deliveries.next }).get? e =
        some { entry with delivery := some c.deliveries.next } := by
    rw [Heap.get?_modify_self, hentry]
    rfl
  exact .after hnew (awaitDelivery_ran hnew.core hd rfl hheap rfl)

/-- The completed credential is one that `deliver` accepts, claimed at a time. -/
def Deliverable (completed : CompletedPairingCredential) (claimedAt : ℤ) : Prop :=
  completed.session.state = .claimed ∧
    completed.session.deviceId = some completed.device.deviceId ∧
    completed.session.claimedAt = some claimedAt ∧ claimedAt < completed.session.expiresAt

/-- `deliver` finds that the time for the delivery is over. -/
def Late (options : CoordinatorOptions) (c : Coordinator) (completed : CompletedPairingCredential)
    (live deadline : JsDate) : Prop :=
  c.closed = false ∧ ∃ claimedAt, Deliverable completed claimedAt ∧
    (Due c completed.session.pairingSessionId live ∨
      ∃ x, c.entryOf completed.session.pairingSessionId = some x ∧ x.2.delivery = none ∧
        ∃ t ∈ deadline, claimedAt + options.deliveryTimeoutMs ≤ t)

theorem deliver_ran (h : Core options c) (completed : CompletedPairingCredential)
    (live deadline timer : JsDate)
    (hdrops : Late options c completed live deadline →
      drops completed.session.pairingSessionId) :
    Ran options True drops holds c (exec (deliver options completed live deadline timer) c) := by
  have hthrow : ∀ code, Ran options True drops holds c (.error code, c) := .throws (.refl h)
  unfold deliver ensureOpen
  simp only [bind_assoc]
  rw [exec_get_bind]
  refine exec_failIf_cases (fun _ => hthrow _) fun hclosed => ?_
  refine exec_failIf_cases (fun _ => hthrow _) fun hclaimed => ?_
  refine exec_bind_cases (fun code _ => hthrow code) fun claimedAt hclaimedAt => ?_
  refine exec_failIf_cases (fun _ => hthrow _) fun hexpired => ?_
  have hdeliverable : Deliverable completed claimedAt := by
    refine ⟨?_, ?_, orThrow_ok hclaimedAt, by omega⟩
    · by_contra hstate
      exact hclaimed (.inl hstate)
    · by_contra hdevice
      exact hclaimed (.inr hdevice)
  have hopen : c.closed = false := Bool.eq_false_iff.mpr hclosed
  refine liveEntry_cases h (fun s hs hdue => ?_) (fun c' hexpire => .throws hexpire _)
    fun s e entry hs hentry => ?_
  · rw [pairingSessionIdSchema_value] at hs
    obtain rfl := Option.some.inj hs
    exact hdrops ⟨hopen, claimedAt, hdeliverable, .inl hdue⟩
  rw [pairingSessionIdSchema_value] at hs
  obtain rfl := Option.some.inj hs
  obtain ⟨hmapped, hheap⟩ := entryOf_eq_some.mp hentry
  have hsession := h.session_of_entryOf hentry
  refine exec_failIf_cases (fun _ => hthrow _) fun _ => ?_
  cases hdelivery : entry.delivery with
  | none =>
    refine exec_bind_cases (fun code _ => hthrow code) fun t ht => ?_
    have ht := orThrow_ok ht
    split_ifs with hlate
    · rw [exec_update_bind, hsession]
      exact .throws (evolves_expire h _ fun _ => hdrops
        ⟨hopen, claimedAt, hdeliverable, .inr ⟨_, hentry, hdelivery, t, ht, hlate⟩⟩) _
    · unfold setDeadline
      simp only [bind_assoc]
      rw [exec_update_bind]
      have hdeadline : Evolves options True drops _ _ := evolves_touchEntry h e
        (f := fun entry => { entry with
          expiryTimer := false
          deadlineMs := claimedAt + options.deliveryTimeoutMs })
        ⟨fun _ => rfl, fun _ => rfl, fun _ => rfl, fun _ => rfl, fun _ => rfl, fun _ => .inl rfl⟩
      refine .after hdeadline (exec_bind_cases (fun code _ => .throws (.refl hdeadline.core) code)
        fun _ _ => ?_)
      rw [exec_update_bind]
      have htimer : Evolves options True drops _ _ := evolves_touchEntry hdeadline.core e
        (f := fun entry => { entry with expiryTimer := true })
        ⟨fun _ => rfl, fun _ => rfl, fun _ => rfl, fun _ => rfl, fun _ => rfl, fun _ => .inl rfl⟩
      refine .after htimer ?_
      have htimed : ((c.modifyEntry e fun entry => { entry with
          expiryTimer := false
          deadlineMs := claimedAt + options.deliveryTimeoutMs }).modifyEntry e fun entry =>
          { entry with expiryTimer := true }).heap.get? e = some { entry with
            expiryTimer := true
            deadlineMs := claimedAt + options.deliveryTimeoutMs } := by
        unfold Coordinator.modifyEntry
        rw [Heap.get?_modify_self, Heap.get?_modify_self, hheap]
        rfl
      exact newDelivery_ran htimer.core htimed (hsession.symm ▸ hmapped) hdelivery hsession.symm
  | some d =>
    rw [exec_get_bind]
    obtain ⟨delivery, hd, howner⟩ := h.delivery e entry d hheap hdelivery
    rw [hd, orThrow_some, exec_lift_bind_eq rfl]
    refine exec_failIf_cases (fun _ => hthrow _) fun _ => ?_
    exact awaitDelivery_ran h hd howner hheap hdelivery

/-! ## Acknowledging -/

theorem acknowledge_ran (h : Core options c) (socket : Socket) (message : PairingAck)
    (now : JsDate)
    (hdrops : Due c message.pairingSessionId now → drops message.pairingSessionId) :
    Ran options True drops holds c (exec (acknowledge socket message now) c) := by
  have hthrow : ∀ code, Ran options True drops holds c (.error code, c) := .throws (.refl h)
  unfold acknowledge
  refine liveEntry_cases h (fun s hs hdue => ?_) (fun c' hexpire => .throws hexpire _)
    fun s e entry hs hentry => ?_
  · rw [pairingSessionIdSchema_value] at hs
    obtain rfl := Option.some.inj hs
    exact hdrops hdue
  rw [pairingSessionIdSchema_value] at hs
  obtain rfl := Option.some.inj hs
  obtain ⟨hmapped, hheap⟩ := entryOf_eq_some.mp hentry
  have hsession := h.session_of_entryOf hentry
  dsimp only
  rw [exec_get_bind]
  cases hdelivery : entry.delivery with
  | none => exact hthrow _
  | some d =>
    obtain ⟨delivery, hd, howner⟩ := h.delivery e entry d hheap hdelivery
    rw [Option.bind_some, hd, Option.map_some, orThrow_some, exec_lift_bind_eq rfl]
    refine exec_failIf_cases (fun _ => hthrow _) fun haccepted => ?_
    rw [exec_update_bind, exec_update_bind]
    have hsocket : entry.socket = some socket := by
      by_contra hother
      exact haccepted (.inl hother)
    have hmatches : matchesDelivery message delivery.completed := by
      by_contra hother
      exact haccepted (.inr (.inr hother))
    have hcompleted : delivery.completed.session.pairingSessionId = message.pairingSessionId := by
      have howned := h.owner d delivery hd
      rw [howner, Coordinator.sessionOf, hheap] at howned
      exact (Option.some.inj howned).symm.trans hsession
    have htouch : Evolves options True drops _ _ := evolves_touchDelivery h d
      (f := fun delivery => { delivery with acknowledging := true })
      ⟨fun _ => rfl, fun _ => rfl, fun _ => rfl⟩
    have hd' : (c.deliveries.modify d fun delivery => { delivery with acknowledging := true }).get? d =
        some { delivery with acknowledging := true } := by
      rw [Heap.get?_modify_self, hd]
      rfl
    refine .sends (r := .ok (.acknowledgeDelivery e d socket message)) htouch
      ⟨_, hd', howner, hmatches, hcompleted⟩ (fun _ => False.elim)
      ⟨⟨e, entry, hheap, hsession, hsocket, ?_⟩, delivery.completed, rfl, hmatches, hcompleted⟩
      fun _ => ⟨e, d, _, socket, message, rfl, hd', rfl⟩
    rw [hdelivery]
    exact Option.some_ne_none d

theorem deliveryRefused_ran (h : Core options c) (d : ℕ) :
    Ran options safe drops holds c (exec (deliveryRefused d) c) := by
  unfold deliveryRefused
  rw [exec_update_bind, exec_update_bind]
  have htouch : Evolves options safe drops _ _ := evolves_touchDelivery h d
    (f := fun delivery => { delivery with acknowledging := false })
    ⟨fun _ => rfl, fun _ => rfl, fun _ => rfl⟩
  exact .throws (htouch.trans (evolves_rejectWaiters htouch.core d _)) _

theorem closeSent_ran (h : Core options c) (socket : Socket) :
    Ran options safe drops holds c (exec (closeSent socket) c) := by
  unfold closeSent
  rw [exec_update_bind]
  exact .returns (evolves_emit h _ id nofun)

theorem reportClientError_ran (h : Core options c) (socket : Socket) :
    Ran options safe drops holds c (exec (reportClientError socket) c) := by
  unfold reportClientError
  rw [exec_get_bind]
  split
  · exact .throws (.refl h) _
  · rw [exec_update_bind]
    exact .returns (evolves_rejectDelivery h _ _)

/-! ## Proofs

Only `register` and `attach` return a call that goes on with a proof, and it is theirs. -/

/-- The call goes on with no proof. -/
def Proofless (call : Call) : Prop := call.proof = none

theorem returns_credentialDone (e : ℕ) (waiter : Option ℕ) :
    Returns Proofless (credentialDone e waiter) := by
  cases waiter with
  | none => exact .bind fun _ => .pure rfl
  | some w => exact .pure rfl

theorem returns_sendPendingDelivery (e : ℕ) (socket : Socket) (waiter : Option ℕ) :
    Returns Proofless (sendPendingDelivery e socket waiter) := by
  unfold sendPendingDelivery
  refine .bind fun c => .bind fun entry => ?_
  split
  · exact returns_credentialDone e waiter
  · exact .ite (returns_credentialDone e waiter) (.bind fun _ => .bind fun _ => .pure rfl)

theorem returns_attachFailed (e : ℕ) (socket : Socket) :
    Returns Proofless (attachFailed e socket) := .bind fun _ => .throw _ _

theorem returns_attachDigested (e : ℕ) (socket : Socket) (proof : String) :
    Returns Proofless (attachDigested e socket proof) := by
  refine .bind fun c => .bind fun entry => .ite (returns_attachFailed e socket) ?_
  exact .bind fun _ => .bind fun _ => .pure rfl

theorem returns_attachSettled (e : ℕ) (socket : Socket) (ok : Bool) :
    Returns Proofless (attachSettled e socket ok) := by
  refine .ite (returns_attachFailed e socket) (.bind fun entry => ?_)
  exact .ite (returns_sendPendingDelivery e socket none) (.bind fun _ => .pure rfl)

theorem returns_credentialSettled (e : ℕ) (socket : Socket) (d : ℕ) (waiter : Option ℕ)
    (ok : Bool) : Returns Proofless (credentialSettled e socket d waiter ok) :=
  .ite (.bind fun _ => .bind fun _ => returns_credentialDone e waiter)
    (returns_credentialDone e waiter)

theorem returns_cancelled (e : ℕ) : Returns Proofless (cancelled e) :=
  .bind fun _ => .bind fun _ => .pure rfl

theorem returns_closeLoop (refs : List ℕ) : Returns Proofless (closeLoop refs) := by
  induction refs with
  | nil => exact .pure rfl
  | cons e rest ih => exact .bind fun _ => .ite (.bind fun _ => .pure rfl) (.bind fun _ => ih)

theorem returns_awaitDelivery (e d : ℕ) : Returns Proofless (awaitDelivery e d) := by
  refine .bind fun waiter => .bind fun entry => ?_
  split
  · exact returns_sendPendingDelivery e _ _
  · exact .pure rfl

theorem returns_deliver (completed : CompletedPairingCredential)
    (live deadline timer : JsDate) : Returns Proofless (deliver options completed live deadline timer) := by
  unfold deliver
  refine .bind fun _ => .bind fun _ => .bind fun claimedAt => .bind fun _ => .bind fun x =>
    .bind fun _ => ?_
  split
  · refine .bind fun now => .ite (.bind fun _ => .throw _ _) ?_
    exact .bind fun _ => .bind fun _ => .bind fun _ => .bind fun _ => returns_awaitDelivery _ _
  · exact .bind fun _ => .bind fun _ => .bind fun _ => returns_awaitDelivery _ _

theorem returns_detach (id : String) (socket : Socket) : Returns Proofless (detach id socket) := by
  unfold detach
  split
  · exact .pure rfl
  · refine .bind fun c => ?_
    split
    · exact .pure rfl
    · refine .ite (.pure rfl) (.bind fun _ => ?_)
      split
      · exact .pure rfl
      · exact .bind fun _ => .pure rfl

/-- The proof of a call that goes on was known already. -/
theorem returns_resume {call : Call} (ok : Bool) (prune check timer : JsDate) :
    Returns Proofless (resume options ok prune check timer call) ∨
      resume options ok prune check timer call = pure call := by
  cases call with
  | registerDigest session proof =>
    refine .inl (.bind fun _ => .bind fun _ => .bind fun _ => .bind fun _ => .bind fun _ =>
      .bind fun _ => .bind fun _ => .bind fun _ => .pure rfl)
  | attachDigest e socket proof => exact .inl (returns_attachDigested e socket proof)
  | attachSent e socket => exact .inl (returns_attachSettled e socket ok)
  | credentialSent e socket d waiter => exact .inl (returns_credentialSettled e socket d waiter ok)
  | cancelSession e => exact .inl (returns_cancelled e)
  | closeSession e rest => exact .inl (.bind fun _ => returns_closeLoop rest)
  | acknowledgeDelivery e d socket message =>
    exact .inl (.ite (.bind fun _ => .pure rfl) (.pure rfl))
  | deliveryAcknowledged e d socket message =>
    exact .inl (.bind fun _ => .bind fun _ => .bind fun _ => .bind fun _ => .bind fun _ =>
      .bind fun _ => .pure rfl)
  | deliveryRefused d => exact .inl (.bind fun _ => .bind fun _ => .throw _ _)
  | closeSent socket => exact .inl (.bind fun _ => .pure rfl)
  | waiting _ | returned | threw _ => exact .inr rfl

end Segment

/-- The proof that is claimed in a request. -/
def Request.proof : Request → Option String
  | .register _ proof _ | .attach _ proof _ _ => some proof
  | _ => none

theorem Request.returns (request : Request) :
    Returns (fun call => call.proof = none ∨ call.proof = request.proof)
      (request.segment options) := by
  have hnone : ∀ {op : Segment Call}, Returns Segment.Proofless op →
      Returns (fun call => call.proof = none ∨ call.proof = request.proof) op :=
    fun hop s a s' ha => .inl (hop s a s' ha)
  cases request with
  | register session proof now =>
    exact .bind fun _ => .bind fun _ => .bind fun _ => .bind fun _ => .pure (.inr rfl)
  | attach id proof socket now =>
    exact .bind fun _ => .bind fun _ => .bind fun _ => .bind fun _ => .bind fun _ =>
      .pure (.inr rfl)
  | detach id socket => exact hnone (Segment.returns_detach id socket)
  | cancel id socket =>
    exact hnone (.bind fun _ => .bind fun _ => .bind fun _ => .bind fun _ =>
      .ite (.bind fun _ => .pure rfl) (Segment.returns_cancelled _))
  | deliver completed live deadline timer =>
    exact hnone (Segment.returns_deliver completed live deadline timer)
  | acknowledge socket message now =>
    exact hnone (.bind fun _ => .bind fun _ => .bind fun _ => .bind fun _ => .bind fun _ =>
      .bind fun _ => .pure rfl)
  | reportClientError socket =>
    refine hnone (.bind fun _ => ?_)
    split
    · exact .throw _ _
    · exact .bind fun _ => .pure rfl
  | close => exact hnone (.bind fun _ => .ite (.pure rfl) (.bind fun _ => Segment.returns_closeLoop _))

end Doctmcp.Channel

import Doctmcp.Lib.Runs
import Doctmcp.Channel.Segments

/-! # What one step of the coordinator does

The lemmas about pieces of code, put together for a step: which sessions it can forget, which calls
hold an entry after it, which frames and callbacks about a credential go out, and which waiters it
resolves. -/

namespace Doctmcp.Channel
open Doctmcp.Lib Doctmcp.Lib.Operation Doctmcp.Schemas Doctmcp.Completion
set_option autoImplicit false

variable {options : CoordinatorOptions} {c c' : Coordinator}

/-! ## Finishing a delivery -/

/-- What `acknowledge` does after its `try`, for the delivery `d` of the entry `e`. -/
structure Finishes (options : CoordinatorOptions) (e d : ℕ) (c c' : Coordinator) : Prop where
  core : Core options c'
  reset : Current c e → Reset c → Reset c'
  calls : c'.calls = c.calls
  sessions : ∀ e id, c.sessionOf e = some id → c'.sessionOf e = some id
  deliveries : ∀ d delivery, c.deliveries.get? d = some delivery →
    ∃ delivery', c'.deliveries.get? d = some delivery' ∧ delivery'.entry = delivery.entry ∧
      delivery'.completed = delivery.completed
  resolved : ∀ w waiter', c'.waiters.get? w = some waiter' → .resolved ∈ waiter'.settlements →
    ∃ waiter, c.waiters.get? w = some waiter ∧ waiter.delivery = waiter'.delivery ∧
      (.resolved ∈ waiter.settlements ∨ waiter.delivery = d)
  forgets : ∀ id, .forgetPendingCompletion id false ∈ c'.effects →
    .forgetPendingCompletion id false ∈ c.effects
  quiet : ∀ effect ∈ c'.effects, effect.AboutCredential → effect ∈ c.effects
  known : ∀ proof, Known c' proof → Known c proof

theorem settle_nil (settlement : Settlement) (c : Coordinator) : c.settle [] settlement = c := by
  unfold Coordinator.settle
  rw [Heap.modifyAll_nil]

theorem waitersOf_clearWaiters (d : ℕ) (c : Coordinator) : (c.clearWaiters d).waitersOf d = [] := by
  unfold Coordinator.waitersOf Coordinator.clearWaiters Coordinator.modifyDelivery
  dsimp only
  rw [Heap.get?_modify_self]
  cases c.deliveries.get? d <;> rfl

/-- Removing an entry whose delivery has no waiters settles none. -/
theorem removeEntry_quiet {e d : ℕ} {entry : PairingChannelEntry} (preserve : Bool)
    (hdelivery : entry.delivery = some d) (hnone : c.waitersOf d = []) :
    c.removeEntry e entry preserve =
      Coordinator.modifyEntry e Coordinator.removed (Coordinator.clearWaiters d
        (Coordinator.emit (.forgetPendingCompletion entry.session.pairingSessionId preserve)
          { c with entries := c.entries.delete entry.session.pairingSessionId })) := by
  unfold Coordinator.removeEntry Coordinator.rejectDelivery
  rw [hdelivery]
  dsimp only
  unfold Coordinator.rejectWaiters
  have hsame : (Coordinator.emit (.forgetPendingCompletion entry.session.pairingSessionId preserve)
      { c with entries := c.entries.delete entry.session.pairingSessionId }).waitersOf d = [] := hnone
  rw [hsame, settle_nil]

/-- The waiters may as well be resolved before the entry is removed. -/
theorem settle_removeEntry (h : Core options c) {e d : ℕ} {entry : PairingChannelEntry}
    (hentry : c.heap.get? e = some entry) {delivery : PendingDelivery}
    (hd : c.deliveries.get? d = some delivery) (howner : delivery.entry = e)
    (settlement : Settlement) :
    ((c.clearWaiters d).removeEntry e entry true).settle (c.waitersOf d) settlement =
      ((c.clearWaiters d).settle (c.waitersOf d) settlement).removeEntry e entry true := by
  by_cases hnone : c.waitersOf d = []
  · rw [hnone, settle_nil, settle_nil]
  · have hwaiters : delivery.waiters ≠ [] := by
      intro hnil
      apply hnone
      rw [Coordinator.waitersOf, hd]
      exact hnil
    obtain ⟨entry', hentry', hcurrent⟩ := h.current d delivery hd hwaiters
    rw [howner, hentry] at hentry'
    obtain rfl := Option.some.inj hentry'
    rw [removeEntry_quiet true hcurrent (waitersOf_clearWaiters d c),
      removeEntry_quiet true hcurrent]
    · rfl
    · exact waitersOf_clearWaiters d c

theorem deliveryAcknowledged_finishes (h : Core options c) {e d : ℕ} {delivery : PendingDelivery}
    (hd : c.deliveries.get? d = some delivery) (howner : delivery.entry = e) (socket : Socket) :
    ∃ c', exec (Segment.deliveryAcknowledged e d socket) c = (.ok (.closeSent socket), c') ∧
      Finishes options e d c c' := by
  have hsession := h.owner d delivery hd
  rw [howner] at hsession
  obtain ⟨entry, hentry, -⟩ := Option.map_eq_some_iff.mp hsession
  have hsessionOf : c.sessionOf e = some entry.session.pairingSessionId := by
    rw [Coordinator.sessionOf, hentry]
    rfl
  let settled := (c.clearWaiters d).settle (c.waitersOf d) .resolved
  have hsettled : Core options settled :=
    core_settled h d (dropsWaiters_clear _) (fun _ hw => hw) (kept_clear c d) .resolved
  have hremove : Evolves options _ (fun _ => False) settled (settled.removeEntry e entry true) :=
    evolves_removeEntry hsettled hentry true (by simp)
  have hclose := hremove.trans (evolves_emit hremove.core (.pairingClose socket)
    (fun habout => habout) (by simp))
  refine ⟨(settled.removeEntry e entry true).emit (.pairingClose socket), ?_, ?_⟩
  · unfold Segment.deliveryAcknowledged
    rw [exec_get_bind, Segment.exec_readEntry_bind hentry, Segment.exec_update_bind,
      Segment.exec_update_bind, Segment.exec_update_bind, Segment.exec_update_bind,
      settle_removeEntry h hentry hd howner]
    rfl
  · refine
      { core := hclose.core
        reset := fun hcurrent hreset => hclose.reset (hcurrent _ hsessionOf) hreset
        calls := hclose.calls
        sessions := hclose.sessions
        deliveries := fun j old hold => ?_
        resolved := fun w waiter' hwaiter' hresolved => ?_
        forgets := fun id hforget => (hclose.forgets id hforget).resolve_right False.elim
        quiet := hclose.quiet
        known := hclose.known }
    · have hcleared : ∃ delivery', settled.deliveries.get? j = some delivery' ∧
          delivery'.entry = old.entry ∧ delivery'.completed = old.completed := by
        refine ⟨_, (Heap.get?_modify_eq_some _ _ _).mpr ⟨old, hold, rfl⟩, ?_⟩
        split_ifs <;> exact ⟨rfl, rfl⟩
      obtain ⟨delivery', hdelivery', hentry', hcompleted'⟩ := hcleared
      obtain ⟨delivery'', hdelivery'', hentry'', hcompleted''⟩ :=
        hclose.deliveries j delivery' hdelivery'
      exact ⟨delivery'', hdelivery'', hentry''.trans hentry', hcompleted''.trans hcompleted'⟩
    · obtain ⟨waiter, hwaiter, hold, hsame⟩ := hclose.resolved w waiter' hwaiter' hresolved
      obtain ⟨before, hbefore, heq⟩ := (Heap.get?_modifyAll_eq_some _ _ _).mp hwaiter
      split_ifs at heq with hmem
      · subst heq
        obtain ⟨_, hdelivery, hw⟩ := mem_waitersOf.mp hmem
        obtain ⟨same, hwsame, howned, -⟩ := h.waits d _ w hdelivery hw
        obtain rfl : before = same := Option.some.inj (hbefore.symm.trans hwsame)
        exact ⟨before, hbefore, hsame, .inr howned⟩
      · subst heq
        exact ⟨before, hbefore, hsame, .inl hold⟩

/-! ## Which sessions a step touches -/

/-- The event begins to cancel or to close the entry of a session, or finds it expired. -/
def Ends (options : CoordinatorOptions) (c : Coordinator) : Event → PairingSessionId → Prop
  | .request (.attach id proof _ now), s => c.closed = false ∧
      pairingChannelProofSchema proof = true ∧ pairingSessionIdSchema id = some s ∧ Due c s now
  | .request (.cancel id socket), s => ∃ x, pairingSessionIdSchema id = some s ∧
      c.entryOf s = some x ∧ (socket.isSome = true → x.2.socket = socket)
  | .request (.deliver completed live deadline _), s =>
    completed.session.pairingSessionId = s ∧ Segment.Late options c completed live deadline
  | .request (.acknowledge _ message now), s => message.pairingSessionId = s ∧ Due c s now
  | .request .close, s => c.closed = false ∧ c.entries.has s = true
  | .resume i _ prune _ _, s => c.closed = false ∧
      (∃ session proof, c.calls.get? i = some (.registerDigest session proof)) ∧ Due c s prune
  | .expiryTimer e, s => ∃ entry x, c.heap.get? e = some entry ∧ entry.expiryTimer = true ∧
      entry.session.pairingSessionId = s ∧ c.entryOf s = some x
  | _, _ => False

/-- A call of the coordinator is going to remove an entry of the session. -/
def HeldBy (c : Coordinator) (s : PairingSessionId) : Prop :=
  ∃ i call, c.calls.get? i = some call ∧ Held c call s

/-- The entry that a call removes when it goes on. -/
def Call.removes : Call → Option ℕ
  | .cancelSession e | .closeSession e _ | .deliveryAcknowledged e _ _ _ => some e
  | _ => none

/-- The message whose callback succeeds. -/
def confirmed (c : Coordinator) : Event → Option PairingAck
  | .resume i true _ _ _ =>
    match c.calls.get? i with
    | some (.acknowledgeDelivery _ _ _ message) => some message
    | _ => none
  | _ => none

/-- A call goes on to remove an entry whose session the map has given to another entry. -/
def RemovesOther (c : Coordinator) : Event → Prop
  | .resume i _ _ _ _ => ∃ call e, c.calls.get? i = some call ∧ call.removes = some e ∧ ¬ Current c e
  | _ => False

/-! ## The timers -/

theorem fireExpiry_evolves (h : Core options c) {drops : PairingSessionId → Prop} (e : ℕ)
    (hdrops : ∀ s, Ends options c (.expiryTimer e) s → drops s) :
    Evolves options True drops c (c.fireExpiry e) := by
  unfold Coordinator.fireExpiry
  cases hentry : c.heap.get? e with
  | none => exact .refl h
  | some entry =>
    dsimp only
    split_ifs with htimer
    · have htouch : Evolves options True drops c _ := evolves_touchEntry h e
        (f := fun entry => { entry with expiryTimer := false })
        ⟨fun _ => rfl, fun _ => rfl, fun _ => rfl, fun _ => rfl, fun _ => rfl, fun _ => .inl rfl⟩
      refine htouch.trans (evolves_expire htouch.core _ fun hmapped => hdrops _ ?_)
      obtain ⟨x, hx⟩ := hmapped
      obtain ⟨hslot, hheap⟩ := entryOf_eq_some.mp hx
      obtain ⟨old, hold, -⟩ := (Heap.get?_modify_eq_some _ _ _).mp hheap
      exact ⟨entry, (x.1, old), hentry, htimer, rfl, entryOf_eq_some.mpr ⟨hslot, hold⟩⟩
    · exact .refl h

theorem fireWaiter_evolves (h : Core options c) {safe : Prop} {drops : PairingSessionId → Prop}
    (w : ℕ) : Evolves options safe drops c (c.fireWaiter w) := by
  unfold Coordinator.fireWaiter
  cases hwaiter : c.waiters.get? w with
  | none => exact .refl h
  | some waiter =>
    dsimp only
    split_ifs with htimer
    · obtain ⟨hopen, -, delivery, hd, hmem⟩ := h.waiter w waiter hwaiter
      have hdropped : DropsWaiters [w] fun delivery =>
          { delivery with waiters := delivery.waiters.filter (· ≠ w) } := by
        refine ⟨fun _ => rfl, fun _ => rfl, fun old v hv => ?_⟩
        obtain ⟨hold, hne⟩ := List.mem_filter.mp hv
        exact ⟨hold, fun hw => of_decide_eq_true hne (List.mem_singleton.mp hw)⟩
      refine evolves_settled h waiter.delivery hdropped ?_ ?_ .TIMEOUT
      · intro v hv
        obtain rfl := List.mem_singleton.mp hv
        exact mem_waitersOf.mpr ⟨delivery, hd, hmem (hopen.mp htimer)⟩
      · intro old _ v hv hne
        refine List.mem_filter.mpr ⟨hv, decide_eq_true fun heq => hne ?_⟩
        exact List.mem_singleton.mpr heq
    · exact .refl h

/-! ## A call goes on -/

theorem CallOk.mono {call : Call} (h : CallOk c call)
    (hsessions : ∀ e id, c.sessionOf e = some id → c'.sessionOf e = some id)
    (hdeliveries : ∀ d delivery, c.deliveries.get? d = some delivery →
      ∃ delivery', c'.deliveries.get? d = some delivery' ∧ delivery'.entry = delivery.entry ∧
        delivery'.completed = delivery.completed) : CallOk c' call := by
  cases call with
  | cancelSession e =>
    obtain ⟨id, hid⟩ := h
    exact ⟨id, hsessions e id hid⟩
  | closeSession e rest =>
    intro j hj
    obtain ⟨id, hid⟩ := h j hj
    exact ⟨id, hsessions j id hid⟩
  | acknowledgeDelivery e d socket message =>
    obtain ⟨delivery, hd, howner, hmatches, hsession⟩ := h
    obtain ⟨delivery', hd', howner', hcompleted⟩ := hdeliveries d delivery hd
    exact ⟨delivery', hd', howner'.trans howner, hcompleted ▸ hmatches, hcompleted ▸ hsession⟩
  | deliveryAcknowledged e d socket message =>
    obtain ⟨delivery, hd, howner, hmatches, hsession⟩ := h
    obtain ⟨delivery', hd', howner', hcompleted⟩ := hdeliveries d delivery hd
    exact ⟨delivery', hd', howner'.trans howner, hcompleted ▸ hmatches, hcompleted ▸ hsession⟩
  | registerDigest _ _ | attachDigest _ _ _ | attachSent _ _ | credentialSent _ _ _ _
  | deliveryRefused _ | closeSent _ | waiting _ | returned | threw _ => exact h

/-- What a call holds after a step it held before it. -/
theorem Held.back {call : Call} (hcall : CallOk c call)
    (hsessions : ∀ e id, c.sessionOf e = some id → c'.sessionOf e = some id)
    {id : PairingSessionId} (h : Held c' call id) : Held c call id := by
  have hsame : ∀ e, (∃ id, c.sessionOf e = some id) → c'.sessionOf e = some id →
      c.sessionOf e = some id := by
    rintro e ⟨other, hother⟩ hid
    rw [hsessions e other hother] at hid
    rw [hother, hid]
  cases call with
  | cancelSession e => exact hsame e hcall h
  | closeSession e rest =>
    obtain ⟨j, hj, hid⟩ := h
    exact ⟨j, hj, hsame j (hcall j hj) hid⟩
  | _ => exact h

theorem resume_ran (h : Core options c) {i : ℕ} {call : Call} (hcall : c.calls.get? i = some call)
    (hok : CallOk c call) (hplain : ¬ Acknowledging call) (ok : Bool)
    (prune check timer : JsDate) :
    Ran options (∀ e, call.removes = some e → Current c e)
      (fun s => Held c call s ∨ Ends options c (.resume i ok prune check timer) s) (Held c call) c
      (exec (Segment.resume options ok prune check timer call) c) := by
  cases call with
  | registerDigest session proof =>
    refine Ran.weaken (Segment.registerDigested_ran h hcall hok prune check timer ?_) fun _ => trivial
    exact fun hopen s hdue => .inr ⟨hopen, ⟨session, proof, hcall⟩, hdue⟩
  | attachDigest e socket proof =>
    exact Segment.attachDigested_ran h e socket (.inr ⟨i, _, hcall, rfl⟩)
  | attachSent e socket => exact Segment.attachSettled_ran h e socket ok
  | credentialSent e socket d waiter => exact Segment.credentialSettled_ran h e socket d waiter ok
  | cancelSession e =>
    refine Ran.weaken (Segment.cancelled_ran h ?_) fun hsafe => hsafe e rfl
    exact fun s hs => .inl hs
  | closeSession e rest =>
    refine Ran.weaken (Segment.closeSession_ran h (fun s hs => .inl ?_) fun j hj => ?_)
      fun hsafe => hsafe e rfl
    · exact ⟨e, List.mem_cons_self, hs⟩
    · have hmem : j ∈ e :: rest := List.mem_cons_of_mem e hj
      obtain ⟨s, hs⟩ := hok j hmem
      exact ⟨s, hs, j, hmem, hs⟩
  | acknowledgeDelivery _ _ _ _ | deliveryAcknowledged _ _ _ _ => exact absurd trivial hplain
  | deliveryRefused d => exact Segment.deliveryRefused_ran h d
  | closeSent socket => exact Segment.closeSent_ran h socket
  | waiting _ | returned | threw _ => exact .stands (.refl h) trivial trivial

/-- A request evolves the objects, and begins to hold only entries that it ends. -/
theorem request_ran (h : Core options c) (request : Request) :
    Ran options True (Ends options c (.request request)) (Ends options c (.request request)) c
      (exec (request.segment options) c) := by
  cases request with
  | register session proof now => exact Segment.register_ran h session proof now
  | attach id proof socket now =>
    refine Segment.attach_ran h id proof socket now ?_
    exact fun hopen hproof s hs hdue => ⟨hopen, hproof, hs, hdue⟩
  | detach id socket => exact Segment.detach_ran h id socket
  | cancel id socket =>
    exact Segment.cancel_ran h id socket fun s x hs hx hsocket => ⟨x, hs, hx, hsocket⟩
  | deliver completed live deadline timer =>
    exact Segment.deliver_ran h completed live deadline timer fun hlate => ⟨rfl, hlate⟩
  | acknowledge socket message now =>
    exact Segment.acknowledge_ran h socket message now fun hdue => ⟨rfl, hdue⟩
  | reportClientError socket => exact Segment.reportClientError_ran h socket
  | close => exact Segment.close_ran h fun hopen s hs => ⟨hopen, hs⟩

/-! ## One step -/

/-- The invariant of every state. -/
structure Invariant (options : CoordinatorOptions) (c : Coordinator) : Prop where
  core : Core options c
  calls : ∀ i call, c.calls.get? i = some call → CallOk c call

/-- What a step from `c` to `c'` does, in which the callbacks for the messages in `confirms`
succeed. -/
structure Stepped (options : CoordinatorOptions) (safe : Prop) (ends : PairingSessionId → Prop)
    (confirms : PairingAck → Prop) (c c' : Coordinator) : Prop where
  invariant : Invariant options c'
  reset : safe → Reset c → Reset c'
  deliveries : ∀ d delivery, c.deliveries.get? d = some delivery →
    ∃ delivery', c'.deliveries.get? d = some delivery' ∧ delivery'.entry = delivery.entry ∧
      delivery'.completed = delivery.completed
  forgets : ∀ s, .forgetPendingCompletion s false ∈ c'.effects → ends s ∨ HeldBy c s
  held : ∀ s, HeldBy c' s → HeldBy c s ∨ ends s
  about : ∀ effect ∈ c'.effects, effect.AboutCredential → Justified c' effect ∨
    ∃ message, confirms message ∧ effect = .deliveryAcknowledged message ∧ c'.effects = [effect]
  asked : ∀ i e d socket message,
    c'.calls.get? i = some (.acknowledgeDelivery e d socket message) →
      c.calls.get? i = some (.acknowledgeDelivery e d socket message) ∨
        ∃ delivery, c'.deliveries.get? d = some delivery ∧
          .acknowledgeDelivery socket message (Segment.acknowledgeInput delivery.completed) ∈
            c'.effects
  succeeded : ∀ i e d socket message,
    c'.calls.get? i = some (.deliveryAcknowledged e d socket message) →
      c.calls.get? i = some (.deliveryAcknowledged e d socket message) ∨
        (c.calls.get? i = some (.acknowledgeDelivery e d socket message) ∧
          .deliveryAcknowledged message ∈ c'.effects)
  resolved : ∀ w waiter', c'.waiters.get? w = some waiter' → .resolved ∈ waiter'.settlements →
    ∃ waiter, c.waiters.get? w = some waiter ∧ waiter.delivery = waiter'.delivery ∧
      (.resolved ∈ waiter.settlements ∨ ∃ i e socket message,
        c.calls.get? i = some (.deliveryAcknowledged e waiter.delivery socket message))
  known : ∀ e entry proof, c'.heap.get? e = some entry →
    (entry.proof = proof ∨ entry.presented = some proof) → Known c proof

/-- At the start of a step, before any effect of it. -/
def Coordinator.silent (c : Coordinator) : Coordinator := { c with effects := [] }

theorem Core.silent (h : Core options c) : Core options c.silent :=
  ⟨h.mapped, h.pending, h.digest, h.attached, h.delivery, h.owner, h.current, h.waits, h.waiter,
    h.bounded⟩

theorem Core.withCalls (h : Core options c) (calls : Heap Call) :
    Core options { c with calls := calls } :=
  ⟨h.mapped, h.pending, h.digest, h.attached, h.delivery, h.owner, h.current, h.waits, h.waiter,
    h.bounded⟩

theorem Core.emit (h : Core options c) (effect : Effect) : Core options (c.emit effect) :=
  ⟨h.mapped, h.pending, h.digest, h.attached, h.delivery, h.owner, h.current, h.waits, h.waiter,
    h.bounded⟩

section Ran
variable {safe : Prop} {ends drops holds : PairingSessionId → Prop} {calls : Heap Call}
  {last : Call} {confirms : PairingAck → Prop}

theorem callOk_of_evolves (h : Invariant options c) (hevolves : Evolves options safe drops c.silent c')
    (hlast : CallOk c' last) (hcalls : ∀ j call, calls.get? j = some call →
      c.calls.get? j = some call ∨ call = last) :
    ∀ j call, calls.get? j = some call → CallOk c' call := by
  intro j call hcall
  rcases hcalls j call hcall with hold | rfl
  · exact (h.calls j call hold).mono hevolves.sessions hevolves.deliveries
  · exact hlast

theorem held_of_evolves (h : Invariant options c) (hevolves : Evolves options safe drops c.silent c')
    (hlast : ∀ s, Held c' last s → HeldBy c s ∨ ends s)
    (hcalls : ∀ j call, calls.get? j = some call → c.calls.get? j = some call ∨ call = last) :
    ∀ s, HeldBy { c' with calls := calls } s → HeldBy c s ∨ ends s := by
  rintro s ⟨j, call, hcall, hheld⟩
  rcases hcalls j call hcall with hold | rfl
  · have hback : Held c.silent call s :=
      Held.back (c := c.silent) (h.calls j call hold) hevolves.sessions hheld
    exact .inl ⟨j, call, hold, hback⟩
  · exact hlast s hheld

/-- A piece of code runs, and its call is put where it stands. -/
theorem stepped_of_ran (h : Invariant options c)
    {out : Except PairingChannelErrorCode Call × Coordinator}
    (hout : Ran options safe drops holds c.silent out)
    (hdrops : ∀ s, drops s → ends s ∨ HeldBy c s) (hholds : ∀ s, holds s → HeldBy c s ∨ ends s)
    (hcalls : ∀ j call, calls.get? j = some call →
      c.calls.get? j = some call ∨ call = standing out.1) :
    Stepped options safe ends confirms c { out.2 with calls := calls } := by
  cases hout with
  | @quiet r c' evolves call held plain =>
    have hok : ∀ j other, calls.get? j = some other → CallOk c' other :=
      callOk_of_evolves h evolves call hcalls
    have hheld : ∀ s, HeldBy { c' with calls := calls } s → HeldBy c s ∨ ends s :=
      held_of_evolves h evolves (fun s hs => hholds s (held s hs)) hcalls
    have hforgets : ∀ s, .forgetPendingCompletion s false ∈ c'.effects → ends s ∨ HeldBy c s :=
      fun s hforget => hdrops s ((evolves.forgets s hforget).resolve_left List.not_mem_nil)
    exact
      { invariant := ⟨evolves.core.withCalls calls, hok⟩
        reset := evolves.reset
        deliveries := evolves.deliveries
        forgets := hforgets
        held := hheld
        about := fun effect heffect habout =>
          absurd (evolves.quiet effect heffect habout) List.not_mem_nil
        asked := fun i e d socket message hi =>
          (hcalls i _ hi).imp_right fun heq => absurd (heq ▸ trivial) plain
        succeeded := fun i e d socket message hi =>
          (hcalls i _ hi).imp_right fun heq => absurd (heq ▸ trivial) plain
        resolved := fun w waiter' hwaiter' hresolved => by
          obtain ⟨waiter, hwaiter, hold, hsame⟩ := evolves.resolved w waiter' hwaiter' hresolved
          exact ⟨waiter, hwaiter, hsame, .inl hold⟩
        known := fun e entry proof hentry hproof =>
          evolves.known proof (.inl ⟨e, entry, hentry, hproof⟩) }
  | @sends r c' evolves call held effect justified told =>
    have hok : ∀ j other, calls.get? j = some other → CallOk c' other :=
      callOk_of_evolves h evolves call hcalls
    have hheld : ∀ s, HeldBy { c' with calls := calls } s → HeldBy c s ∨ ends s :=
      held_of_evolves h evolves (fun s hs => hholds s (held s hs)) hcalls
    have hforgets : ∀ s, .forgetPendingCompletion s false ∈ (c'.emit effect).effects →
        ends s ∨ HeldBy c s := by
      intro s hforget
      rcases List.mem_cons.mp hforget with rfl | hforget
      · exact justified.elim
      · exact hdrops s ((evolves.forgets s hforget).resolve_left List.not_mem_nil)
    exact
      { invariant := ⟨(evolves.core.emit effect).withCalls calls, hok⟩
        reset := evolves.reset
        deliveries := evolves.deliveries
        forgets := hforgets
        held := hheld
        about := fun other hother habout => by
          rcases List.mem_cons.mp hother with rfl | hother
          · exact .inl justified
          · exact absurd (evolves.quiet other hother habout) List.not_mem_nil
        asked := fun i e d socket message hi => by
          refine (hcalls i _ hi).imp_right fun heq => ?_
          obtain ⟨e', d', delivery, socket', message', hstands, hd, rfl⟩ := told (heq ▸ trivial)
          obtain ⟨rfl, rfl, rfl, rfl⟩ := Call.acknowledgeDelivery.inj (heq.trans hstands)
          exact ⟨delivery, hd, List.mem_cons_self⟩
        succeeded := fun i e d socket message hi => by
          refine (hcalls i _ hi).imp_right fun heq => ?_
          obtain ⟨e', d', delivery, socket', message', hstands, -⟩ := told (heq ▸ trivial)
          cases heq.trans hstands
        resolved := fun w waiter' hwaiter' hresolved => by
          obtain ⟨waiter, hwaiter, hold, hsame⟩ := evolves.resolved w waiter' hwaiter' hresolved
          exact ⟨waiter, hwaiter, hsame, .inl hold⟩
        known := fun e entry proof hentry hproof =>
          evolves.known proof (.inl ⟨e, entry, hentry, hproof⟩) }

/-- A timer fires. -/
theorem stepped_of_evolves (h : Invariant options c)
    (hevolves : Evolves options safe drops c.silent c') (hdrops : ∀ s, drops s → ends s) :
    Stepped options safe ends confirms c c' := by
  have hcalls : c'.calls = c.calls := hevolves.calls
  have hran : Ran options safe drops (fun _ => False) c.silent (.ok .returned, c') :=
    .returns hevolves
  have hstepped : Stepped options safe ends confirms c { c' with calls := c.calls } :=
    stepped_of_ran h hran (fun s hs => .inl (hdrops s hs)) (fun s hs => hs.elim)
      (fun j call hj => .inl hj)
  rw [← hcalls] at hstepped
  exact hstepped

end Ran

theorem Ran.calls {safe : Prop} {drops holds : PairingSessionId → Prop}
    {out : Except PairingChannelErrorCode Call × Coordinator}
    (h : Ran options safe drops holds c out) : out.2.calls = c.calls := by
  cases h with
  | quiet evolves _ _ _ => exact evolves.calls
  | sends evolves _ _ _ _ => exact evolves.calls

theorem ends_silent (ev : Event) (s : PairingSessionId) :
    Ends options c.silent ev s ↔ Ends options c ev s := by
  cases ev with
  | request request => cases request <;> exact Iff.rfl
  | resume i ok prune check timer => exact Iff.rfl
  | expiryTimer e => exact Iff.rfl
  | waiterTimer w => exact Iff.rfl

/-- The callback of a call succeeds: nothing but the call changes. -/
theorem acknowledged_stepped (h : Invariant options c) {ends : PairingSessionId → Prop}
    {safe : Prop} {i e d : ℕ} {socket : Socket} {message : PairingAck}
    (hcall : c.calls.get? i = some (.acknowledgeDelivery e d socket message)) :
    Stepped options safe ends (· = message) c ((c.silent.emit (.deliveryAcknowledged message)).setCall i
      (.deliveryAcknowledged e d socket message)) := by
  have hcalls : ∀ j call, (c.calls.modify i fun _ =>
      .deliveryAcknowledged e d socket message).get? j = some call →
        c.calls.get? j = some call ∨ j = i ∧ call = .deliveryAcknowledged e d socket message := by
    intro j call hj
    obtain ⟨old, hold, heq⟩ := (Heap.get?_modify_eq_some _ _ _).mp hj
    split_ifs at heq with hji
    · exact .inr ⟨hji, heq.symm⟩
    · exact .inl (heq ▸ hold)
  refine
    { invariant := ⟨(h.core.silent.emit _).withCalls _, fun j call hj => ?_⟩
      reset := fun _ hreset => hreset
      deliveries := fun _ delivery hd => ⟨delivery, hd, rfl, rfl⟩
      forgets := fun s hforget => ?_
      held := fun s hs => ?_
      about := fun effect heffect _ => ?_
      asked := fun j e' d' socket' message' hj => ?_
      succeeded := fun j e' d' socket' message' hj => ?_
      resolved := fun _ waiter hwaiter hresolved => ⟨waiter, hwaiter, rfl, .inl hresolved⟩
      known := fun e entry proof hentry hproof => .inl ⟨e, entry, hentry, hproof⟩ }
  · rcases hcalls j call hj with hold | ⟨-, rfl⟩
    · exact h.calls j call hold
    · exact h.calls i _ hcall
  · cases List.mem_singleton.mp hforget
  · obtain ⟨j, call, hj, hheld⟩ := hs
    rcases hcalls j call hj with hold | ⟨-, rfl⟩
    · exact .inl ⟨j, call, hold, hheld⟩
    · exact hheld.elim
  · obtain rfl := List.mem_singleton.mp heffect
    exact .inr ⟨message, rfl, rfl, rfl⟩
  · rcases hcalls j _ hj with hold | ⟨-, heq⟩
    · exact .inl hold
    · cases heq
  · rcases hcalls j _ hj with hold | ⟨rfl, heq⟩
    · exact .inl hold
    · obtain ⟨rfl, rfl, rfl, rfl⟩ := Call.deliveryAcknowledged.inj heq
      exact .inr ⟨hcall, List.mem_cons_self⟩

/-- `acknowledge` goes on after its callback has succeeded. -/
theorem finished_stepped (h : Invariant options c) {ends : PairingSessionId → Prop}
    {confirms : PairingAck → Prop} {i e d : ℕ} {socket : Socket} {message : PairingAck}
    (hcall : c.calls.get? i = some (.deliveryAcknowledged e d socket message))
    (hfinishes : Finishes options e d c.silent c') :
    Stepped options (Current c e) ends confirms c (c'.setCall i (.closeSent socket)) := by
  have hcalls : ∀ j call, (c'.calls.modify i fun _ => .closeSent socket).get? j = some call →
      c.calls.get? j = some call ∨ call = .closeSent socket := by
    intro j call hj
    obtain ⟨old, hold, heq⟩ := (Heap.get?_modify_eq_some _ _ _).mp hj
    rw [hfinishes.calls] at hold
    split_ifs at heq
    · exact .inr heq.symm
    · exact .inl (heq ▸ hold)
  refine
    { invariant := ⟨hfinishes.core.withCalls _, fun j call hj => ?_⟩
      reset := hfinishes.reset
      deliveries := hfinishes.deliveries
      forgets := fun s hforget => ?_
      held := fun s hs => ?_
      about := fun effect heffect habout => ?_
      asked := fun j e' d' socket' message' hj => ?_
      succeeded := fun j e' d' socket' message' hj => ?_
      resolved := fun w waiter' hwaiter' hresolved => ?_
      known := fun e entry proof hentry hproof =>
        hfinishes.known proof (.inl ⟨e, entry, hentry, hproof⟩) }
  · rcases hcalls j call hj with hold | rfl
    · exact (h.calls j call hold).mono hfinishes.sessions hfinishes.deliveries
    · trivial
  · exact absurd (hfinishes.forgets s hforget) List.not_mem_nil
  · obtain ⟨j, call, hj, hheld⟩ := hs
    rcases hcalls j call hj with hold | rfl
    · have hback : Held c.silent call s :=
        Held.back (c := c.silent) (h.calls j call hold) hfinishes.sessions hheld
      exact .inl ⟨j, call, hold, hback⟩
    · exact hheld.elim
  · exact absurd (hfinishes.quiet effect heffect habout) List.not_mem_nil
  · rcases hcalls j _ hj with hold | heq
    · exact .inl hold
    · cases heq
  · rcases hcalls j _ hj with hold | heq
    · exact .inl hold
    · cases heq
  · obtain ⟨waiter, hwaiter, hsame, hresolved | rfl⟩ :=
      hfinishes.resolved w waiter' hwaiter' hresolved
    · exact ⟨waiter, hwaiter, hsame, .inl hresolved⟩
    · exact ⟨waiter, hwaiter, hsame, .inr ⟨i, e, socket, message, hcall⟩⟩

theorem Stepped.weaken {safe safe' : Prop} {ends : PairingSessionId → Prop}
    {confirms : PairingAck → Prop} (h : Stepped options safe ends confirms c c')
    (hsafe : safe' → safe) : Stepped options safe' ends confirms c c' :=
  { h with reset := fun hsafe' => h.reset (hsafe hsafe') }

theorem step_resume {i : ℕ} {call : Call} (hcall : c.calls.get? i = some call) (ok : Bool)
    (prune check timer : JsDate) :
    c.step options (.resume i ok prune check timer) =
      (exec (Segment.resume options ok prune check timer call) c.silent).2.setCall i
        (standing (exec (Segment.resume options ok prune check timer call) c.silent).1) := by
  unfold Coordinator.step
  dsimp only
  rw [hcall]
  rfl

theorem confirmed_of_call {i e d : ℕ} {socket : Socket} {message : PairingAck}
    (hcall : c.calls.get? i = some (.acknowledgeDelivery e d socket message))
    (prune check timer : JsDate) :
    confirmed c (.resume i true prune check timer) = some message := by
  show (match c.calls.get? i with
    | some (.acknowledgeDelivery _ _ _ message) => some message
    | _ => none) = some message
  rw [hcall]

theorem step_stepped (h : Invariant options c) (ev : Event) :
    Stepped options (¬ RemovesOther c ev) (Ends options c ev) (confirmed c ev = some ·) c
      (c.step options ev) := by
  cases ev with
  | request request =>
    have hran := request_ran h.core.silent request
    refine (stepped_of_ran h hran (fun s hs => .inl ((ends_silent _ s).mp hs))
      (fun s hs => .inr ((ends_silent _ s).mp hs)) fun j call hj => ?_).weaken fun _ => trivial
    have hcalls : (exec (request.segment options) c.silent).2.calls = c.calls := hran.calls
    rcases (Heap.get?_alloc_eq_some _ _).mp hj with ⟨-, rfl⟩ | hold
    · exact .inr rfl
    · exact .inl (hcalls ▸ hold)
  | resume i ok prune check timer =>
    cases hcall : c.calls.get? i with
    | none =>
      have hstep : c.step options (.resume i ok prune check timer) = c.silent := by
        unfold Coordinator.step
        dsimp only
        rw [hcall]
        rfl
      rw [hstep]
      exact stepped_of_evolves h (.refl h.core.silent) fun _ hfalse => hfalse
    | some call =>
      have hcurrent : ¬ RemovesOther c (.resume i ok prune check timer) →
          ∀ e, call.removes = some e → Current c e := by
        intro hsafe e he
        by_contra hother
        exact hsafe ⟨call, e, hcall, he, hother⟩
      rw [step_resume hcall]
      by_cases hplain : Acknowledging call
      · cases call with
        | acknowledgeDelivery e d socket message =>
          cases ok with
          | true =>
            have hmessage : (confirmed c (.resume i true prune check timer) = some ·) =
                (· = message) := by
              funext other
              rw [confirmed_of_call hcall]
              exact propext ⟨fun heq => (Option.some.inj heq).symm, fun heq => congrArg some heq.symm⟩
            rw [hmessage]
            exact acknowledged_stepped h hcall
          | false =>
            have hran : Ran options (¬ RemovesOther c (.resume i false prune check timer))
                (fun _ => False) (fun _ => False) c.silent (.ok (.deliveryRefused d), c.silent) :=
              .stands (.refl h.core.silent) trivial trivial
            refine stepped_of_ran h hran (fun _ => False.elim) (fun _ => False.elim)
              fun j other hj => ?_
            obtain ⟨old, hold, heq⟩ := (Heap.get?_modify_eq_some _ _ _).mp hj
            split_ifs at heq
            · exact .inr heq.symm
            · exact .inl (heq ▸ hold)
        | deliveryAcknowledged e d socket message =>
          obtain ⟨delivery, hd, howner, -⟩ := h.calls i _ hcall
          obtain ⟨c', hexec, hfinishes⟩ :=
            deliveryAcknowledged_finishes h.core.silent hd howner socket
          have hresume : exec (Segment.resume options ok prune check timer
              (.deliveryAcknowledged e d socket message)) c.silent =
                (.ok (.closeSent socket), c') := hexec
          rw [hresume]
          exact (finished_stepped h hcall hfinishes).weaken fun hsafe => hcurrent hsafe e rfl
        | _ => exact hplain.elim
      · have hran := resume_ran h.core.silent hcall (h.calls i call hcall) hplain ok prune check timer
        refine (stepped_of_ran h hran (fun s hs => ?_) (fun s hs => ?_) fun j other hj => ?_).weaken
          hcurrent
        · rcases hs with hheld | hends
          · exact .inr ⟨i, call, hcall, hheld⟩
          · exact .inl ((ends_silent _ s).mp hends)
        · exact .inl ⟨i, call, hcall, hs⟩
        · obtain ⟨old, hold, heq⟩ := (Heap.get?_modify_eq_some _ _ _).mp hj
          have hcalls : (exec (Segment.resume options ok prune check timer call) c.silent).2.calls =
              c.calls := hran.calls
          split_ifs at heq
          · exact .inr heq.symm
          · exact .inl (heq ▸ hcalls ▸ hold)
  | expiryTimer e =>
    have hfire : Evolves options True (Ends options c (.expiryTimer e)) c.silent
        (c.silent.fireExpiry e) :=
      fireExpiry_evolves h.core.silent e fun s hs => (ends_silent _ s).mp hs
    exact (stepped_of_evolves h hfire fun _ hs => hs).weaken fun _ => trivial
  | waiterTimer w =>
    have hfire : Evolves options True (Ends options c (.waiterTimer w)) c.silent
        (c.silent.fireWaiter w) := fireWaiter_evolves h.core.silent w
    exact (stepped_of_evolves h hfire fun _ hs => hs).weaken fun _ => trivial

/-- The proof that is claimed in the request of an event. -/
def Event.proof : Event → Option String
  | .request claimed => claimed.proof
  | _ => none

/-- The code of a call does not change where the others stand. -/
theorem resume_calls (h : Invariant options c) {i : ℕ} {call : Call}
    (hcall : c.calls.get? i = some call) (ok : Bool) (prune check timer : JsDate) :
    (exec (Segment.resume options ok prune check timer call) c.silent).2.calls = c.calls := by
  by_cases hplain : Acknowledging call
  · cases call with
    | acknowledgeDelivery e d socket message => cases ok <;> rfl
    | deliveryAcknowledged e d socket message =>
      obtain ⟨delivery, hd, howner, -⟩ := h.calls i _ hcall
      obtain ⟨c', hexec, hfinishes⟩ :=
        deliveryAcknowledged_finishes h.core.silent hd howner socket
      have hresume : exec (Segment.resume options ok prune check timer
          (.deliveryAcknowledged e d socket message)) c.silent = (.ok (.closeSent socket), c') :=
        hexec
      rw [hresume]
      exact hfinishes.calls
    | _ => exact hplain.elim
  · exact (resume_ran h.core.silent hcall (h.calls i call hcall) hplain ok prune check timer).calls

/-- A call goes on with a proof that was known before the step, or with the claimed one. -/
theorem call_learns (h : Invariant options c) {ev : Event} {i : ℕ} {call : Call} {proof : String}
    (hcall : (c.step options ev).calls.get? i = some call) (hproof : call.proof = some proof) :
    Known c proof ∨ ev.proof = some proof := by
  cases ev with
  | request request =>
    have hcalls : (exec (request.segment options) c.silent).2.calls = c.calls :=
      (request_ran h.core.silent request).calls
    rcases (Heap.get?_alloc_eq_some _ _).mp hcall with ⟨-, rfl⟩ | hold
    · rcases hout : exec (request.segment options) c.silent with ⟨r, c'⟩
      change (standing (exec (request.segment options) c.silent).1).proof = some proof at hproof
      rw [hout] at hproof
      cases r with
      | error code => cases hproof
      | ok next =>
        rcases request.returns _ next c' hout with hnone | hclaimed
        · cases hnone.symm.trans hproof
        · exact .inr (hclaimed.symm.trans hproof)
    · exact .inl (.inr ⟨i, call, hcalls ▸ hold, hproof⟩)
  | resume j ok prune check timer =>
    cases hj : c.calls.get? j with
    | none =>
      have hstep : c.step options (.resume j ok prune check timer) = c.silent := by
        unfold Coordinator.step
        dsimp only
        rw [hj]
        rfl
      rw [hstep] at hcall
      exact .inl (.inr ⟨i, call, hcall, hproof⟩)
    | some old =>
      have hcalls : (exec (Segment.resume options ok prune check timer old) c.silent).2.calls =
          c.calls := resume_calls h hj ok prune check timer
      rw [step_resume hj] at hcall
      obtain ⟨before, hbefore, heq⟩ := (Heap.get?_modify_eq_some _ _ _).mp hcall
      split_ifs at heq
      · subst heq
        rcases hout : exec (Segment.resume options ok prune check timer old) c.silent with ⟨r, c'⟩
        rw [hout] at hproof
        rcases Segment.returns_resume ok prune check timer with hless | hpure
        · cases r with
          | error code => cases hproof
          | ok next => cases (hless _ next c' hout).symm.trans hproof
        · rw [hpure] at hout
          cases hout
          exact .inl (.inr ⟨j, old, hj, hproof⟩)
      · subst heq
        exact .inl (.inr ⟨i, before, hcalls ▸ hbefore, hproof⟩)
  | expiryTimer e =>
    have hfire : Evolves options True (fun _ => True) c.silent (c.silent.fireExpiry e) :=
      fireExpiry_evolves h.core.silent e fun _ _ => trivial
    have hcalls : (c.silent.fireExpiry e).calls = c.calls := hfire.calls
    exact .inl (.inr ⟨i, call, hcalls ▸ hcall, hproof⟩)
  | waiterTimer w =>
    have hfire : Evolves options True (fun _ => True) c.silent (c.silent.fireWaiter w) :=
      fireWaiter_evolves h.core.silent w
    have hcalls : (c.silent.fireWaiter w).calls = c.calls := hfire.calls
    exact .inl (.inr ⟨i, call, hcalls ▸ hcall, hproof⟩)

theorem invariant_new (options : CoordinatorOptions) : Invariant options Coordinator.new := by
  have hentries : ∀ e entry, Coordinator.new.heap.get? e = some entry → False := by
    intro e entry hentry
    cases hentry
  have hdeliveries : ∀ d delivery, Coordinator.new.deliveries.get? d = some delivery → False := by
    intro d delivery hdelivery
    cases hdelivery
  exact
    { core :=
        { mapped := fun id e he => by cases he
          pending := fun e entry hentry => (hentries e entry hentry).elim
          digest := fun e entry hentry => (hentries e entry hentry).elim
          attached := fun e entry _ hentry => (hentries e entry hentry).elim
          delivery := fun e entry _ hentry => (hentries e entry hentry).elim
          owner := fun d delivery hd => (hdeliveries d delivery hd).elim
          current := fun d delivery hd => (hdeliveries d delivery hd).elim
          waits := fun d delivery _ hd => (hdeliveries d delivery hd).elim
          waiter := fun w waiter hwaiter => by cases hwaiter
          bounded := Nat.zero_le _ }
      calls := fun i call hcall => by cases hcall }

theorem reset_new : Reset Coordinator.new := by
  intro e entry hentry
  cases hentry

end Doctmcp.Channel

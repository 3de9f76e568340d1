import Doctmcp.Bridge.ClientTransport

/-! # The outgoing queue of the client transport

Every transport keeps its queue, its promises and its callbacks in order (`Sound`), whatever runs
between two of its turns. A `drainQueue` that is still to be left has failed, so it leaves no message
waiting (`Leaving`). -/

namespace Doctmcp.Bridge
open Doctmcp.Lib
set_option autoImplicit false

def Effect.isError : Effect → Bool
  | .onerror _ => true
  | _ => false

namespace BridgeClientTransport

/-- The transport will not be ready any more. -/
def Past (t : BridgeClientTransport) : Prop :=
  t.state = .closing ∨ t.state = .closed ∨ t.state = .failed

/-- The queue, the promises and the callbacks of a transport. -/
structure Steady (t : BridgeClientTransport) : Prop where
  outbox : t.outbox.Valid t.sending
  within : t.outbox.Within BRIDGE_MAX_QUEUED_MESSAGES BRIDGE_MAX_QUEUED_BYTES
  queued : t.outbox.queue ≠ [] → t.state = .ready
  /-- A waiting message has a drain that is scheduled or running. -/
  awake : t.outbox.queue ≠ [] → t.drainScheduled = true ∨ t.draining = true
  sending : t.sending ≠ none → t.draining = true
  closed : t.callbackClosed = true ↔ t.state = .closed
  onclose : t.effects.count .onclose = if t.callbackClosed = true then 1 else 0
  onerror : t.effects.countP Effect.isError = if t.errorReported = true then 1 else 0

/-- Between two turns a running drain waits for a sending, or has failed. -/
structure Sound (t : BridgeClientTransport) : Prop extends Steady t where
  running : t.draining = true → t.sending ≠ none ∨ t.Past

/-- Nothing is sent any more. -/
structure Leaving (t : BridgeClientTransport) : Prop where
  past : t.Past
  sending : t.sending = none

theorem sound_new : Sound new where
  outbox := Outbox.valid_empty
  within := Outbox.within_empty _ _
  queued h := absurd rfl h
  awake h := absurd rfl h
  sending h := absurd rfl h
  closed := ⟨fun h => (by cases h), fun h => (by cases h)⟩
  onclose := rfl
  onerror := rfl
  running h := by cases h

variable {t : BridgeClientTransport}

theorem Steady.sound (h : Steady t) (hpast : t.Past) : Sound t := ⟨h, fun _ => .inr hpast⟩

/-- Effects other than the two callbacks are not counted. -/
theorem Sound.emit (h : Sound t) {effect : Effect} (hclose : effect ≠ .onclose)
    (herror : effect.isError = false) : Sound (t.emit effect) :=
  { h with
    onclose := (List.count_cons_of_ne hclose).trans h.onclose
    onerror := by
      show (effect :: t.effects).countP _ = _
      rw [List.countP_cons_of_neg (by rw [herror]; exact Bool.false_ne_true)]
      exact h.onerror }

/-- The queue is emptied and the transport leaves `ready`, but is not closed yet. -/
theorem Steady.leave (h : Steady t) (hopen : t.state ≠ .closed) (error : BridgeClientTransportError)
    {state : BridgeTransportState} (hstate : state = .closing ∨ state = .failed) :
    Sound (rejectQueued error { t with state := state }) where
  outbox := h.outbox.rejectAll _
  within := h.outbox.rejectAll_within _
  queued hqueue := absurd (h.outbox.rejectAll_queue _) hqueue
  awake hqueue := absurd (h.outbox.rejectAll_queue _) hqueue
  sending := h.sending
  closed := by
    refine ⟨fun hcalled => absurd (h.closed.mp hcalled) hopen, fun hclosed => ?_⟩
    change state = .closed at hclosed
    rw [hclosed] at hstate
    exact absurd hstate (by decide)
  onclose := h.onclose
  onerror := h.onerror
  running _ := .inr (hstate.imp id .inr)

theorem Sound.reportError (h : Sound t) (error : BridgeClientTransportError) :
    Sound (reportError error t) := by
  unfold BridgeClientTransport.reportError
  split_ifs with hreported
  · exact h
  · have hcount := h.onerror
    rw [if_neg hreported] at hcount
    exact { h with
      onclose := (List.count_cons_of_ne (by intro hsame; cases hsame)).trans h.onclose
      onerror := by
        show (Effect.onerror error :: t.effects).countP _ = _
        rw [List.countP_cons_of_pos rfl, hcount]
        rfl }

theorem Sound.finalize (h : Sound t) (hopen : t.state ≠ .closed) :
    Sound { rejectQueued closedError t with state := .closed }.notifyClosed := by
  have hcallback : t.callbackClosed = false := Bool.eq_false_iff.mpr (mt h.closed.mp hopen)
  have hnotified : { rejectQueued closedError t with state := .closed }.notifyClosed =
      { rejectQueued closedError t with
        state := .closed
        callbackClosed := true
        effects := .onclose :: t.effects } := by
    show (if t.callbackClosed = true then _ else _) = _
    rw [hcallback]
    rfl
  have honclose := h.onclose
  rw [hcallback] at honclose
  rw [hnotified]
  exact
    { outbox := h.outbox.rejectAll _
      within := h.outbox.rejectAll_within _
      queued := fun hqueue => absurd (h.outbox.rejectAll_queue _) hqueue
      awake := fun hqueue => absurd (h.outbox.rejectAll_queue _) hqueue
      sending := h.sending
      closed := ⟨fun _ => rfl, fun _ => rfl⟩
      onclose := by
        show (Effect.onclose :: t.effects).count .onclose = 1
        rw [List.count_cons_self, honclose]
        rfl
      onerror := h.onerror
      running := fun _ => .inr (.inr (.inl rfl)) }

theorem not_past_idle (hidle : t.state = .idle) : ¬ t.Past := by
  unfold Past
  rw [hidle]
  decide

theorem Leaving.notReady (h : Leaving t) : t.state ≠ .ready := by
  intro hready
  rcases h.past with hstate | hstate | hstate
  · rw [hready] at hstate
    cases hstate
  · rw [hready] at hstate
    cases hstate
  · rw [hready] at hstate
    cases hstate

@[simp] theorem reportError_state (error : BridgeClientTransportError) (t : BridgeClientTransport) :
    (reportError error t).state = t.state := by
  unfold reportError
  split_ifs
  · rfl
  · rfl

@[simp] theorem reportError_sending (error : BridgeClientTransportError)
    (t : BridgeClientTransport) : (reportError error t).sending = t.sending := by
  unfold reportError
  split_ifs
  · rfl
  · rfl

theorem Leaving.congr {t' : BridgeClientTransport} (h : Leaving t) (hstate : t'.state = t.state)
    (hsending : t'.sending = t.sending) : Leaving t' where
  past := by
    unfold Past
    rw [hstate]
    exact h.past
  sending := hsending.trans h.sending

end BridgeClientTransport

/-! ## The functions -/

namespace Running
open BridgeClientTransport

/-- What every function of the transport does to it. -/
structure Keeps (r r' : Running) : Prop where
  sound : Sound r'.self
  leaving : Leaving r.self → Leaving r'.self
  drained : .drained ∈ r'.frames → Leaving r'.self

variable {r : Running} (ref : ℕ)

theorem keeps_refl (h : Sound r.self) (hframes : r.frames = []) : Keeps r r where
  sound := h
  leaving := id
  drained hmem := by
    rw [hframes] at hmem
    cases hmem

/-- A change that leaves the state and the sending alone. -/
theorem keeps_of_same {r' : Running} (h : Sound r'.self) (hstate : r'.self.state = r.self.state)
    (hsending : r'.self.sending = r.self.sending) (hdrained : .drained ∉ r'.frames) : Keeps r r' where
  sound := h
  leaving hleaving := hleaving.congr hstate hsending
  drained hmem := absurd hmem hdrained

theorem notifyClosed_same (t : BridgeClientTransport) :
    t.notifyClosed.state = t.state ∧ t.notifyClosed.sending = t.sending := by
  unfold notifyClosed
  split_ifs
  · exact ⟨rfl, rfl⟩
  · exact ⟨rfl, rfl⟩

theorem finalizeClose_keeps (h : Sound r.self) (hframes : r.frames = []) :
    Keeps r (finalizeClose ref r) := by
  unfold finalizeClose
  split_ifs with hclosed
  · exact keeps_refl h hframes
  · have hsame := notifyClosed_same { rejectQueued closedError r.self with state := .closed }
    refine ⟨h.finalize hclosed, ?_, fun hmem => ?_⟩
    · exact fun hleaving => ⟨.inr (.inl hsame.1), hsame.2.trans hleaving.sending⟩
    · rw [hframes] at hmem
      cases hmem

theorem fail_keeps (error : BridgeClientTransportError) (h : Steady r.self)
    (hframes : .drained ∈ r.frames → r.self.sending = none) : Keeps r (fail error r) := by
  unfold fail
  split_ifs with hclosed
  · have hpast : r.self.Past := hclosed.elim (fun hstate => .inr (.inl hstate)) .inl
    exact ⟨h.sound hpast, id, fun hmem => ⟨hpast, hframes hmem⟩⟩
  · have hopen : r.self.state ≠ .closed := fun hstate => hclosed (.inl hstate)
    have hfailed (hsending : r.self.sending = none) :
        Leaving (reportError error (rejectQueued error { r.self with state := .failed })) := by
      refine ⟨.inr (.inr ?_), ?_⟩
      · rw [reportError_state]
        rfl
      · rw [reportError_sending]
        exact hsending
    refine ⟨(h.leave hopen error (.inr rfl)).reportError error, ?_, ?_⟩
    · exact fun hleaving => hfailed hleaving.sending
    · intro hmem
      rcases List.mem_cons.mp hmem with hfirst | hmem
      · cases hfirst
      · rcases List.mem_cons.mp hmem with hsecond | hmem
        · cases hsecond
        · exact hfailed (hframes hmem)

/-- The state of a transport that was not started. -/
theorem sound_started (h : Sound r.self) (hidle : r.self.state = .idle)
    {state : BridgeTransportState} (hstate : state ≠ .closed) :
    Sound { r.self with state := state } := by
  have hempty : r.self.outbox.queue = [] := by
    by_contra hqueue
    rw [h.queued hqueue] at hidle
    cases hidle
  have hcallback : r.self.callbackClosed = false := by
    refine Bool.eq_false_iff.mpr fun hcalled => ?_
    rw [h.closed.mp hcalled] at hidle
    cases hidle
  exact { h with
    queued := fun hqueue => absurd hempty hqueue
    closed := by
      constructor
      · intro hcalled
        rw [hcallback] at hcalled
        cases hcalled
      · exact fun hclosed => absurd hclosed hstate
    running := by
      intro hdraining
      refine .inl ((h.running hdraining).resolve_right ?_)
      exact not_past_idle hidle }

theorem start_keeps (h : Sound r.self) (hframes : r.frames = []) : Keeps r (start ref r) := by
  have hdrained : .drained ∉ r.frames := by
    rw [hframes]
    exact List.not_mem_nil
  unfold start
  by_cases hidle : r.self.state = .idle
  · rw [if_neg (not_not.mpr hidle)]
    have hopen : ¬ Leaving r.self := fun hleaving => not_past_idle hidle hleaving.past
    have hmoved : ∀ (session : SessionObject) (state : BridgeTransportState) (effect : Effect),
        state ≠ .closed → effect ≠ .onclose → effect.isError = false →
        Keeps r ⟨session, { r.self with state := state }.emit effect, r.frames⟩ := by
      intro session state effect hstate hclose herror
      have hsound := (sound_started h hidle hstate).emit hclose herror
      exact ⟨hsound, fun hleaving => absurd hleaving hopen, fun hmem => absurd hmem hdrained⟩
    dsimp only
    split_ifs
    · exact hmoved _ _ _ (by decide) (by decide) rfl
    · exact hmoved _ _ _ (by decide) (by decide) rfl
    · exact hmoved _ _ _ (by decide) (by decide) rfl
  · rw [if_pos hidle]
    refine keeps_of_same ?_ rfl rfl hdrained
    exact h.emit (by decide) rfl

theorem scheduleDrain_cases (t : BridgeClientTransport) :
    (scheduleDrain t = t ∧ (t.drainScheduled = true ∨ t.draining = true)) ∨
      scheduleDrain t = { t with drainScheduled := true } := by
  unfold scheduleDrain
  split_ifs with hawake
  · exact .inl ⟨rfl, hawake⟩
  · exact .inr rfl

theorem send_keeps (message : JSONRPCMessage) (h : Sound r.self) (hframes : r.frames = []) :
    Keeps r (send message r) := by
  have hdrained : .drained ∉ r.frames := by
    rw [hframes]
    exact List.not_mem_nil
  have hrejected : ∀ error, Keeps r { r with self := r.self.emit (.sendRejected error) } := by
    intro error
    refine keeps_of_same ?_ rfl rfl hdrained
    exact h.emit (by intro hsame; cases hsame) rfl
  unfold send
  dsimp only
  by_cases hready : r.self.state = .ready
  · rw [if_neg (not_not.mpr hready)]
    cases serializeMcpMessage message with
    | error error => exact hrejected error
    | ok frame =>
      obtain ⟨message, bytes⟩ := frame
      dsimp only
      split_ifs with hfull
      · exact hrejected _
      · rw [not_or, ge_iff_le, Nat.not_le, gt_iff_lt, Int.not_lt] at hfull
        have hvalid := h.outbox.push message bytes
        have hwithin := Outbox.Within.push hfull.1 hfull.2 message
        rcases scheduleDrain_cases { r.self with outbox := r.self.outbox.push message bytes } with
          ⟨hsame, hawake⟩ | hscheduled
        · rw [hsame]
          refine keeps_of_same ?_ rfl rfl hdrained
          exact { h with
            outbox := hvalid
            within := hwithin
            queued := fun _ => hready
            awake := fun _ => hawake }
        · rw [hscheduled]
          refine keeps_of_same ?_ rfl rfl hdrained
          exact { h with
            outbox := hvalid
            within := hwithin
            queued := fun _ => hready
            awake := fun _ => .inl rfl }
  · rw [if_pos hready]
    exact hrejected _

/-- From the head of the loop: a message is handed over, or none is waiting. -/
theorem drainLoop_keeps (h : Steady r.self) (hsending : r.self.sending = none)
    (hdraining : r.self.draining = true) (hframes : r.frames = []) : Keeps r (drainLoop r) := by
  have hdrained : .drained ∉ r.frames := by
    rw [hframes]
    exact List.not_mem_nil
  have hleft : r.self.outbox.queue = [] →
      Keeps r { r with self := { r.self with draining := false } } := by
    intro hempty
    refine keeps_of_same ?_ rfl rfl hdrained
    exact { h with
      awake := fun hqueue => absurd hempty hqueue
      sending := fun hsome => absurd hsending hsome
      running := fun hfalse => by cases hfalse }
  unfold drainLoop
  dsimp only
  split_ifs with hready
  · refine hleft ?_
    by_contra hqueue
    exact hready (h.queued hqueue)
  · cases hhead : r.self.outbox.queue.head? with
    | none => exact hleft (List.head?_eq_none_iff.mp hhead)
    | some item =>
      refine ⟨?_, fun hleaving => absurd (not_not.mp hready) hleaving.notReady,
        fun hmem => absurd hmem hdrained⟩
      have hvalid := h.outbox
      rw [hsending] at hvalid
      exact { h with
        outbox := hvalid.hand hhead
        within := ⟨h.within.messages, h.within.bytes⟩
        awake := fun _ => .inr hdraining
        sending := fun _ => hdraining
        running := fun _ => .inl (Option.some_ne_none item) }

theorem drainMicrotask_keeps (h : Sound r.self) (hframes : r.frames = []) :
    Keeps r (drainMicrotask r) := by
  have hdrained : .drained ∉ r.frames := by
    rw [hframes]
    exact List.not_mem_nil
  unfold drainMicrotask drainQueue
  dsimp only
  split_ifs with hscheduled hdraining
  · refine keeps_of_same ?_ rfl rfl hdrained
    exact { h with awake := fun _ => .inr hdraining }
  · have hsending : r.self.sending = none := by
      by_contra hsome
      exact hdraining (h.sending hsome)
    have hsteady : Steady { r.self with drainScheduled := false, draining := true } :=
      { h.toSteady with
        awake := fun _ => .inr rfl
        sending := fun _ => rfl }
    have hloop := drainLoop_keeps
      (r := { r with self := { r.self with drainScheduled := false, draining := true } })
      hsteady hsending rfl hframes
    refine ⟨hloop.sound, fun hleaving => hloop.leaving ?_, hloop.drained⟩
    exact hleaving.congr rfl rfl
  · exact keeps_refl h hframes

/-- The outcome of a sending: the message leaves the queue, if it is still in it. -/
theorem steady_landed {item : QueuedMessage JSONRPCMessage} (h : Sound r.self)
    (hsending : r.self.sending = some item) (result : Except BridgeClientTransportError Unit) :
    Steady { r.self with sending := none, outbox := r.self.outbox.land item result } := by
  have hvalid := h.outbox
  rw [hsending] at hvalid
  have hqueue : (r.self.outbox.land item result).queue ≠ [] → r.self.outbox.queue ≠ [] := by
    intro hne hempty
    have hsub := Outbox.land_queue_sublist (o := r.self.outbox) item result
    rw [hempty, List.sublist_nil] at hsub
    exact hne hsub
  exact { h.toSteady with
    outbox := hvalid.land result
    within := h.within.land result
    queued := fun hne => h.queued (hqueue hne)
    awake := fun hne => h.awake (hqueue hne)
    sending := fun hsome => absurd rfl hsome }

theorem sendSettled_keeps (result : Except Thrown Unit) (h : Sound r.self) (hframes : r.frames = []) :
    Keeps r (sendSettled result r) := by
  unfold sendSettled
  cases hsending : r.self.sending with
  | none => exact keeps_refl h hframes
  | some item =>
    have hdraining : r.self.draining = true := by
      refine h.sending ?_
      rw [hsending]
      exact Option.some_ne_none item
    have hopen : ¬ Leaving r.self := by
      intro hleaving
      rw [hleaving.sending] at hsending
      cases hsending
    cases result with
    | ok u =>
      have hloop := drainLoop_keeps
        (r := { r with self := { r.self with
          sending := none, outbox := r.self.outbox.land item (.ok ()) } })
        (steady_landed h hsending (.ok ())) rfl hdraining hframes
      exact ⟨hloop.sound, fun hleaving => absurd hleaving hopen, hloop.drained⟩
    | error error =>
      have hfail (sendError : BridgeClientTransportError) : Keeps _ (fail sendError { r with
          self := { r.self with
            sending := none, outbox := r.self.outbox.land item (.error sendError) }
          frames := .drained :: r.frames }) :=
        fail_keeps sendError (steady_landed h hsending (.error sendError)) fun _ => rfl
      exact ⟨(hfail _).sound, fun hleaving => absurd hleaving hopen, (hfail _).drained⟩

theorem handleSessionMessage_keeps (message : BridgeMessage) (h : Sound r.self)
    (hframes : r.frames = []) : Keeps r (handleSessionMessage message r) := by
  refine keeps_of_same { h with } rfl rfl ?_
  show .drained ∉ r.frames
  rw [hframes]
  exact List.not_mem_nil

theorem handleSessionClose_keeps (reason : CloseReason) (h : Sound r.self)
    (hframes : r.frames = []) : Keeps r (handleSessionClose ref reason r) := by
  unfold handleSessionClose
  split_ifs
  · exact keeps_refl h hframes
  · refine keeps_of_same (h.reportError _) (reportError_state _ _) (reportError_sending _ _) ?_
    show .drained ∉ .finalizeClose :: r.frames
    rw [hframes]
    decide
  · exact finalizeClose_keeps ref h hframes

/-- A message changes nothing but the effects, and those by `onmessage` only. -/
theorem handleIncomingMessage_same (message : BridgeMessage) (callback : Except Thrown Unit)
    {t : BridgeClientTransport} (h : Sound t) :
    let t' := (handleIncomingMessage message callback t).2
    Sound t' ∧ t'.state = t.state ∧ t'.sending = t.sending := by
  have hemit : ∀ payload, Sound (t.emit (.onmessage payload)) := by
    intro payload
    exact h.emit (by intro hsame; cases hsame) rfl
  unfold handleIncomingMessage
  split_ifs
  · exact ⟨h, rfl, rfl⟩
  · exact ⟨h, rfl, rfl⟩
  · cases message with
    | mcpMessage payload =>
      dsimp only
      cases payload.json with
      | none => exact ⟨h, rfl, rfl⟩
      | some text =>
        dsimp only
        split_ifs
        · exact ⟨h, rfl, rfl⟩
        · cases callback with
          | ok u => exact ⟨hemit payload, rfl, rfl⟩
          | error error => exact ⟨hemit payload, rfl, rfl⟩
    | hello => exact ⟨h, rfl, rfl⟩
    | helloAck version sessionId => exact ⟨h, rfl, rfl⟩
    | error code message => exact ⟨h, rfl, rfl⟩
    | close code => exact ⟨h, rfl, rfl⟩
    | invalid => exact ⟨h, rfl, rfl⟩

theorem receive_keeps (callback : Except Thrown Unit) (h : Sound r.self) (hframes : r.frames = []) :
    Keeps r (receive callback r) := by
  have hdrained : .drained ∉ r.frames := by
    rw [hframes]
    exact List.not_mem_nil
  unfold receive
  cases r.self.incomingThrown with
  | some error => exact keeps_refl h hframes
  | none =>
    cases r.self.incomingChain with
    | nil => exact keeps_refl h hframes
    | cons message rest =>
      have hsound : Sound { r.self with incomingChain := rest } := { h with }
      have hsame := handleIncomingMessage_same message callback hsound
      dsimp only at hsame ⊢
      generalize handleIncomingMessage message callback { r.self with incomingChain := rest } =
        handled at hsame ⊢
      obtain ⟨result, t⟩ := handled
      obtain ⟨hhandled, hstate, hsending⟩ := hsame
      cases result with
      | ok u => exact keeps_of_same hhandled hstate hsending hdrained
      | error error => exact keeps_of_same { hhandled with } hstate hsending hdrained

theorem receiveFailed_keeps (h : Sound r.self) (hframes : r.frames = []) :
    Keeps r (receiveFailed r) := by
  unfold receiveFailed
  cases r.self.incomingThrown with
  | none => exact keeps_refl h hframes
  | some error =>
    have hsound : Sound { r.self with incomingThrown := none } := { h with }
    have hfail (e : BridgeClientTransportError) :=
      fail_keeps (r := { r with self := { r.self with incomingThrown := none } }) e
        hsound.toSteady fun hmem => by
        change .drained ∈ r.frames at hmem
        rw [hframes] at hmem
        cases hmem
    exact ⟨(hfail _).sound, fun hleaving => (hfail _).leaving (hleaving.congr rfl rfl),
      (hfail _).drained⟩

theorem close_keeps (h : Sound r.self) (hframes : r.frames = []) : Keeps r (close ref r) := by
  unfold close
  split_ifs with hpast hready
  · exact keeps_refl h hframes
  · have hopen : r.self.state ≠ .closed := fun hclosed => hpast (.inl hclosed)
    have hleft : Sound (rejectQueued closedError
        { r.self with intentionalClose := true, state := .closing }) := by
      have hintent : Steady { r.self with intentionalClose := true } := { h.toSteady with }
      exact hintent.leave hopen closedError (.inl rfl)
    refine ⟨?_, fun hleaving => ⟨.inl rfl, hleaving.sending⟩, fun hmem => ?_⟩
    · refine Sound.emit ?_ (by decide) rfl
      exact { hleft with }
    · change .drained ∈ r.frames at hmem
      rw [hframes] at hmem
      cases hmem
  · have hopen : r.self.state ≠ .closed := fun hclosed => hpast (.inl hclosed)
    have hintent : Steady { r.self with intentionalClose := true } := { h.toSteady with }
    have hfinal := finalizeClose_keeps ref (r := ⟨r.session, rejectQueued closedError
        { r.self with intentionalClose := true, state := .closing }, r.frames⟩)
      (hintent.leave hopen closedError (.inl rfl)) hframes
    refine ⟨hfinal.sound, fun hleaving => hfinal.leaving ?_, hfinal.drained⟩
    exact ⟨.inl rfl, hleaving.sending⟩

theorem closeSettled_keeps (result : Except Thrown Unit) (h : Sound r.self)
    (hframes : r.frames = []) : Keeps r (closeSettled ref result r) := by
  have hsound : Sound { r.self with closeAwaited := false } := { h with }
  unfold closeSettled
  split_ifs
  · exact keeps_refl h hframes
  · cases result with
    | ok u =>
      have hfinal := finalizeClose_keeps ref
        (r := { r with self := { r.self with closeAwaited := false } }) hsound hframes
      refine ⟨hfinal.sound, fun hleaving => hfinal.leaving ?_, hfinal.drained⟩
      exact hleaving.congr rfl rfl
    | error error =>
      refine keeps_of_same (hsound.reportError _) (reportError_state _ _) (reportError_sending _ _) ?_
      show .drained ∉ .finalizeClose :: r.frames
      rw [hframes]
      decide

theorem resume_keeps (frame : Frame) (h : Sound r.self) (hframes : r.frames = [])
    (hleaving : frame = .drained → Leaving r.self) : Keeps r (resume ref frame r) := by
  have hdrained : .drained ∉ r.frames := by
    rw [hframes]
    exact List.not_mem_nil
  cases frame with
  | closeSession => exact keeps_of_same (h.emit (by decide) rfl) rfl rfl hdrained
  | finalizeClose => exact finalizeClose_keeps ref h hframes
  | drained =>
    have hleft := hleaving rfl
    refine keeps_of_same ?_ rfl rfl hdrained
    exact { h with
      awake := fun hqueue => absurd (h.queued hqueue) hleft.notReady
      sending := fun hsome => absurd hleft.sending hsome
      running := fun hfalse => by cases hfalse }

end Running

/-! ## All transports of the session -/

namespace Scene
open BridgeClientTransport Running

structure Inv (s : Scene) : Prop where
  sound : ∀ ref t, s.transports.get? ref = some t → Sound t
  drained : ∀ ref t, (ref, .drained) ∈ s.stack → s.transports.get? ref = some t → Leaving t
  stacked : ∀ ref frame, (ref, frame) ∈ s.stack → ∃ t, s.transports.get? ref = some t

theorem inv_initial (session : SessionObject) : Inv (initial session) where
  sound ref t h := by
    change (Heap.empty : Heap BridgeClientTransport).get? ref = some t at h
    cases h
  drained ref t h := by cases h
  stacked ref frame h := by cases h

variable {s : Scene}

theorem Inv.run (h : Inv s) (ref : ℕ) {f : Running → Running}
    (hf : ∀ t, s.transports.get? ref = some t → Keeps ⟨s.session, t, []⟩ (f ⟨s.session, t, []⟩)) :
    Inv (s.run ref f) := by
  unfold Scene.run
  cases ht : s.transports.get? ref with
  | none => exact h
  | some t =>
    have hkeeps := hf t ht
    dsimp only
    constructor
    · intro j t' ht'
      obtain ⟨old, hold, hsame⟩ := (Heap.get?_modify_eq_some _ _ _).mp ht'
      split_ifs at hsame
      · rw [← hsame]
        exact hkeeps.sound
      · rw [← hsame]
        exact h.sound j old hold
    · intro j t' hmem ht'
      obtain ⟨old, hold, hsame⟩ := (Heap.get?_modify_eq_some _ _ _).mp ht'
      rcases List.mem_append.mp hmem with hnew | hstack
      · obtain ⟨frame, hframe, hpair⟩ := List.mem_map.mp hnew
        obtain ⟨rfl, rfl⟩ := Prod.mk.inj hpair
        rw [if_pos rfl] at hsame
        rw [← hsame]
        exact hkeeps.drained hframe
      · split_ifs at hsame with href
        · rw [← hsame]
          rw [href] at hstack
          exact hkeeps.leaving (h.drained ref t hstack ht)
        · rw [← hsame]
          exact h.drained j old hstack hold
    · intro j frame hmem
      have hthere : ∃ old, s.transports.get? j = some old := by
        rcases List.mem_append.mp hmem with hnew | hstack
        · obtain ⟨_, -, hpair⟩ := List.mem_map.mp hnew
          rw [← (Prod.mk.inj hpair).1]
          exact ⟨t, ht⟩
        · exact h.stacked j frame hstack
      obtain ⟨old, hold⟩ := hthere
      exact ⟨_, (Heap.get?_modify_eq_some _ _ _).mpr ⟨old, hold, rfl⟩⟩

theorem Inv.task (h : Inv s) (ref : ℕ) {f : Running → Running}
    (hf : ∀ t, s.transports.get? ref = some t → Keeps ⟨s.session, t, []⟩ (f ⟨s.session, t, []⟩)) :
    Inv (s.task ref f) := by
  unfold Scene.task
  split_ifs
  · exact h.run ref hf
  · exact h

/-- Other code changes the session only. -/
theorem Inv.session (h : Inv s) (session : SessionObject) : Inv { s with session := session } :=
  ⟨h.sound, h.drained, h.stacked⟩

theorem Inv.step (h : Inv s) (e : Event) : Inv (s.step e) := by
  cases e with
  | create =>
    constructor
    · intro ref t ht
      rcases (Heap.get?_alloc_eq_some _ _).mp ht with ⟨-, rfl⟩ | hold
      · exact sound_new
      · exact h.sound ref t hold
    · intro ref t hmem ht
      rcases (Heap.get?_alloc_eq_some _ _).mp ht with ⟨rfl, rfl⟩ | hold
      · obtain ⟨t, hold⟩ := h.stacked _ _ hmem
        exact absurd rfl (Heap.ne_next_of_get? hold)
      · exact h.drained ref t hmem hold
    · intro ref frame hmem
      obtain ⟨t, hold⟩ := h.stacked ref frame hmem
      exact ⟨t, Heap.get?_alloc_of_some hold _⟩
  | start ref => exact h.run ref fun t ht => start_keeps ref (h.sound ref t ht) rfl
  | send ref message => exact h.run ref fun t ht => send_keeps message (h.sound ref t ht) rfl
  | drainMicrotask ref => exact h.task ref fun t ht => drainMicrotask_keeps (h.sound ref t ht) rfl
  | sendSettled ref result =>
    exact h.task ref fun t ht => sendSettled_keeps result (h.sound ref t ht) rfl
  | receive ref callback =>
    exact h.task ref fun t ht => receive_keeps callback (h.sound ref t ht) rfl
  | receiveFailed ref => exact h.task ref fun t ht => receiveFailed_keeps (h.sound ref t ht) rfl
  | close ref => exact h.run ref fun t ht => close_keeps ref (h.sound ref t ht) rfl
  | closeSettled ref result =>
    exact h.task ref fun t ht => closeSettled_keeps ref result (h.sound ref t ht) rfl
  | resume =>
    unfold Scene.step
    dsimp only
    cases hstack : s.stack with
    | nil => exact h
    | cons top stack =>
      obtain ⟨ref, frame⟩ := top
      have hrest : Inv { s with stack := stack } := by
        have hmem : ∀ top, top ∈ stack → top ∈ s.stack := by
          rw [hstack]
          exact fun top htop => List.mem_cons_of_mem _ htop
        exact ⟨h.sound, fun j t htop => h.drained j t (hmem _ htop),
          fun j frame htop => h.stacked j frame (hmem _ htop)⟩
      refine hrest.run ref fun t ht => ?_
      refine resume_keeps ref frame (h.sound ref t ht) rfl fun hframe => h.drained ref t ?_ ht
      rw [hstack, hframe]
      exact List.mem_cons_self
  | sessionReady =>
    show Inv (if s.session.state = .handshaking then _ else s)
    split_ifs
    · exact h.session _
    · exact h
  | sessionMessage message =>
    unfold Scene.step
    dsimp only
    cases s.session.onmessage with
    | none => exact h
    | some callback =>
      cases callback with
      | other => exact h
      | transport ref =>
        exact h.task ref fun t ht => handleSessionMessage_keeps message (h.sound ref t ht) rfl
  | sessionClose => exact h.session _
  | sessionClosed reason =>
    show Inv (if s.session.state = .closed then s else _)
    split_ifs
    · exact h
    · have hclosed := h.session { s.session with state := .closed }
      dsimp only
      split
      · exact hclosed.run _ fun t ht => handleSessionClose_keeps _ reason (h.sound _ t ht) rfl
      · exact hclosed

/-- What holds of every transport of the session. -/
def Every (P : BridgeClientTransport → Prop) (s : Scene) : Prop :=
  ∀ ref t, s.transports.get? ref = some t → P t

end Scene

/-- The outgoing queue of a transport, in a state that it can be in. -/
structure QueueKept (t : BridgeClientTransport) : Prop where
  /-- `session.send` got the messages in the order of acceptance, each at most once. -/
  in_order : t.outbox.handed.Pairwise (· > ·)
  settled_once : (t.outbox.settled.map Prod.fst).Nodup
  all_settled : t.state = .closed → ∀ id < t.outbox.accepted, id ∈ t.outbox.settled.map Prod.fst
  bytes : t.outbox.queuedBytes = ((t.outbox.queue.map (·.bytes)).sum : ℕ)
  within : t.outbox.Within BRIDGE_MAX_QUEUED_MESSAGES BRIDGE_MAX_QUEUED_BYTES
  /-- A drain is scheduled, or runs and waits for `session.send`. -/
  awake : t.state = .ready → t.outbox.queue ≠ [] →
    t.drainScheduled = true ∨ t.draining = true ∧ t.sending ≠ none
  onclose : t.effects.count .onclose ≤ 1
  onerror : t.effects.countP Effect.isError ≤ 1

theorem BridgeClientTransport.Sound.queueKept {t : BridgeClientTransport} (h : t.Sound) :
    QueueKept t where
  in_order := h.outbox.in_order
  settled_once := h.outbox.settled_once
  all_settled hclosed id hid := by
    refine h.outbox.all_settled ?_ hid
    by_contra hqueue
    rw [h.queued hqueue] at hclosed
    cases hclosed
  bytes := h.outbox.bytes
  within := h.within
  awake hready hqueue := by
    refine (h.awake hqueue).imp_right fun hdraining => ⟨hdraining, ?_⟩
    refine (h.running hdraining).resolve_right ?_
    unfold BridgeClientTransport.Past
    rw [hready]
    decide
  onclose := by
    rw [h.onclose]
    split_ifs
    · exact Nat.le_refl 1
    · exact Nat.zero_le 1
  onerror := by
    rw [h.onerror]
    split_ifs
    · exact Nat.le_refl 1
    · exact Nat.zero_le 1

/-- In every run, over any session, every transport keeps its queue. -/
theorem outgoing_queue_kept (session : SessionObject) (es : List Event) :
    (runFrom Scene.step (Scene.initial session) es).Every QueueKept := by
  have hinv : Scene.Inv (runFrom Scene.step (Scene.initial session) es) :=
    runFrom_invariant (fun s e h => h.step e) (Scene.inv_initial session) es
  intro ref t ht
  exact (hinv.sound ref t ht).queueKept

end Doctmcp.Bridge

import Doctmcp.Bridge.Binding

/-! # Closing the session of a transport

A session leaves the state ready once and for all. A transport that is closed, or is being closed,
has seen its session go (`Placed`); a `finalizeClose` that still waits on the stack comes after the
session has gone, or after the frame that closes it (`Safe`). -/

namespace Doctmcp.Bridge
open Doctmcp.Lib Doctmcp.Gateway
set_option autoImplicit false

/-- The session is being closed or is closed. -/
def SessionObject.Gone (session : SessionObject) : Prop :=
  session.state = .closing ∨ session.state = .closed

theorem SessionObject.gone_iff (session : SessionObject) :
    session.Gone ↔ 2 ≤ session.state.stage := by
  unfold SessionObject.Gone GatewaySessionState.stage
  cases session.state <;> simp

theorem SessionObject.gone_of_not_ready {session : SessionObject}
    (hmet : session.state ≠ .handshaking) (hready : session.state ≠ .ready) : session.Gone := by
  unfold SessionObject.Gone
  cases hstate : session.state with
  | handshaking => exact absurd hstate hmet
  | ready => exact absurd hstate hready
  | closing => exact .inl rfl
  | closed => exact .inr rfl

theorem SessionObject.Gone.not_ready {session : SessionObject} (h : session.Gone) :
    session.state ≠ .ready := by
  intro hready
  rcases h with hclosing | hclosed
  · rw [hready] at hclosing
    cases hclosing
  · rw [hready] at hclosed
    cases hclosed

theorem SessionObject.close_gone (session : SessionObject) : session.close.Gone := by
  unfold SessionObject.close
  split_ifs with hgone
  · exact hgone
  · exact .inl rfl

theorem SessionObject.close_stage (session : SessionObject) :
    session.state.stage ≤ session.close.state.stage := by
  unfold SessionObject.close
  split_ifs with hgone
  · exact le_refl _
  · cases hstate : session.state with
    | handshaking =>
      show GatewaySessionState.handshaking.stage ≤ GatewaySessionState.closing.stage
      decide
    | ready =>
      show GatewaySessionState.ready.stage ≤ GatewaySessionState.closing.stage
      decide
    | closing => exact absurd (.inl hstate) hgone
    | closed => exact absurd (.inr hstate) hgone

/-- A `finalizeClose` on the stack finds a session that has gone. -/
def Safe (session : SessionObject) : List Frame → Prop
  | [] => True
  | .closeSession :: _ => True
  | .finalizeClose :: _ => session.Gone
  | .drained :: rest => Safe session rest

theorem safe_of_gone {session : SessionObject} (h : session.Gone) (frames : List Frame) :
    Safe session frames := by
  induction frames with
  | nil => trivial
  | cons frame rest ih =>
    cases frame with
    | closeSession => trivial
    | finalizeClose => exact h
    | drained => exact ih

theorem Safe.mono {session session' : SessionObject} {frames : List Frame} (h : Safe session frames)
    (hgone : session.Gone → session'.Gone) : Safe session' frames := by
  induction frames with
  | nil => trivial
  | cons frame rest ih =>
    cases frame with
    | closeSession => trivial
    | finalizeClose => exact hgone h
    | drained => exact ih h

theorem Safe.append {session : SessionObject} {frames rest : List Frame} (h : Safe session frames)
    (hrest : Safe session rest) : Safe session (frames ++ rest) := by
  induction frames with
  | nil => exact hrest
  | cons frame frames ih =>
    cases frame with
    | closeSession => trivial
    | finalizeClose => exact h
    | drained => exact ih h

namespace Running
open BridgeClientTransport

/-- The transport has a session past its handshake, and where it closes, the session goes. -/
structure Placed (r : Running) : Prop where
  met : r.session.state ≠ .handshaking
  past : r.self.state = .closing ∨ r.self.state = .closed → r.session.Gone
  awaited : r.self.closeAwaited = true → r.session.Gone
  safe : Safe r.session r.frames

/-- What every function does: the session goes forward, and the transport stays placed. -/
structure Leaves (r r' : Running) : Prop where
  stage : r.session.state.stage ≤ r'.session.state.stage
  placed : Placed r → Placed r'

theorem Leaves.refl (r : Running) : Leaves r r := ⟨le_refl _, id⟩

theorem Leaves.trans {r r' r'' : Running} (h : Leaves r r') (h' : Leaves r' r'') : Leaves r r'' :=
  ⟨h.stage.trans h'.stage, h'.placed ∘ h.placed⟩

variable {r : Running} (ref : ℕ)

/-- A function that does not close anything. -/
theorem leaves_of_same {r' : Running} (hsession : r'.session.state = r.session.state)
    (hself : r'.self.state = r.self.state) (hawaited : r'.self.closeAwaited = r.self.closeAwaited)
    (hframes : r'.frames = r.frames) : Leaves r r' := by
  have hgone : r.session.Gone → r'.session.Gone := by
    unfold SessionObject.Gone
    rw [hsession]
    exact id
  refine ⟨by rw [hsession], fun h => ⟨by rw [hsession]; exact h.met, ?_, ?_, ?_⟩⟩
  · rw [hself]
    exact hgone ∘ h.past
  · rw [hawaited]
    exact hgone ∘ h.awaited
  · rw [hframes]
    exact h.safe.mono hgone

/-- A session that is closed takes every transport along. -/
theorem leaves_of_gone {r' : Running} (hstage : r.session.state.stage ≤ r'.session.state.stage)
    (hgone : r'.session.Gone) : Leaves r r' where
  stage := hstage
  placed _ := by
    refine ⟨?_, fun _ => hgone, fun _ => hgone, safe_of_gone hgone _⟩
    intro hmet
    rcases hgone with hclosing | hclosed
    · rw [hmet] at hclosing
      cases hclosing
    · rw [hmet] at hclosed
      cases hclosed

theorem reportError_awaited (error : BridgeClientTransportError) (t : BridgeClientTransport) :
    (reportError error t).closeAwaited = t.closeAwaited := by
  unfold reportError
  split_ifs
  · rfl
  · rfl

theorem finalizeClose_session (r : Running) :
    (finalizeClose ref r).session.state = r.session.state := by
  unfold finalizeClose
  split_ifs
  · rfl
  · rfl

theorem finalizeClose_gone (hgone : r.session.Gone) : (finalizeClose ref r).session.Gone := by
  unfold SessionObject.Gone
  rw [finalizeClose_session]
  exact hgone

theorem finalizeClose_leaves (hgone : r.session.Gone) : Leaves r (finalizeClose ref r) :=
  leaves_of_gone (by rw [finalizeClose_session]) (finalizeClose_gone ref hgone)

theorem fail_leaves (error : BridgeClientTransportError) : Leaves r (fail error r) := by
  unfold fail
  split_ifs
  · exact .refl r
  · refine ⟨le_refl _, fun h => ⟨h.met, ?_, ?_, trivial⟩⟩
    · rw [reportError_state]
      intro hfalse
      rcases hfalse with hfalse | hfalse
      · cases hfalse
      · cases hfalse
    · rw [reportError_awaited]
      exact h.awaited

theorem start_leaves : Leaves r (start ref r) := by
  have hfailed : ∀ error, Leaves r
      { r with self := { r.self with state := .failed }.emit (.startRejected error) } := by
    intro error
    refine ⟨le_refl _, fun h => ⟨h.met, ?_, h.awaited, h.safe⟩⟩
    intro hfalse
    rcases hfalse with hfalse | hfalse
    · cases hfalse
    · cases hfalse
  unfold start
  by_cases hidle : r.self.state = .idle
  · rw [if_neg (not_not.mpr hidle)]
    by_cases hready : r.session.state = .ready
    · rw [if_neg (not_not.mpr hready)]
      split_ifs
      · exact hfailed _
      · dsimp only
        rw [if_neg (not_not.mpr hready)]
        refine ⟨le_refl _, fun h => ⟨h.met, ?_, h.awaited, h.safe.mono id⟩⟩
        intro hfalse
        rcases hfalse with hfalse | hfalse
        · cases hfalse
        · cases hfalse
    · rw [if_pos hready]
      exact hfailed _
  · rw [if_pos hidle]
    exact leaves_of_same rfl rfl rfl rfl

theorem scheduleDrain_awaited (t : BridgeClientTransport) :
    (scheduleDrain t).closeAwaited = t.closeAwaited := by
  unfold scheduleDrain
  split_ifs
  · rfl
  · rfl

theorem send_leaves (message : JSONRPCMessage) : Leaves r (send message r) := by
  unfold send
  dsimp only
  by_cases hready : r.self.state = .ready
  · rw [if_neg (not_not.mpr hready)]
    cases serializeMcpMessage message with
    | error error => exact leaves_of_same rfl rfl rfl rfl
    | ok frame =>
      obtain ⟨message, bytes⟩ := frame
      dsimp only
      split_ifs
      · exact leaves_of_same rfl rfl rfl rfl
      · exact leaves_of_same rfl (scheduleDrain_effects _).2 (scheduleDrain_awaited _) rfl
  · rw [if_pos hready]
    exact leaves_of_same rfl rfl rfl rfl

theorem drainLoop_leaves : Leaves r (drainLoop r) := by
  unfold drainLoop
  dsimp only
  split_ifs
  · exact leaves_of_same rfl rfl rfl rfl
  · cases r.self.outbox.queue.head? with
    | none => exact leaves_of_same rfl rfl rfl rfl
    | some item => exact leaves_of_same rfl rfl rfl rfl

theorem drainMicrotask_leaves : Leaves r (drainMicrotask r) := by
  unfold drainMicrotask drainQueue
  dsimp only
  split_ifs
  · exact leaves_of_same rfl rfl rfl rfl
  · refine Leaves.trans ?_ drainLoop_leaves
    exact leaves_of_same rfl rfl rfl rfl
  · exact .refl r

theorem sendSettled_leaves (result : Except Thrown Unit) : Leaves r (sendSettled result r) := by
  unfold sendSettled
  cases r.self.sending with
  | none => exact .refl r
  | some item =>
    cases result with
    | ok u =>
      refine Leaves.trans ?_ drainLoop_leaves
      exact leaves_of_same rfl rfl rfl rfl
    | error error =>
      refine Leaves.trans ?_ (fail_leaves _)
      exact ⟨le_refl _, fun h => ⟨h.met, h.past, h.awaited, h.safe⟩⟩

theorem handleSessionClose_leaves (reason : CloseReason) (hgone : r.session.Gone) :
    Leaves r (handleSessionClose ref reason r) := by
  unfold handleSessionClose
  split_ifs
  · exact .refl r
  · exact leaves_of_gone (le_refl _) hgone
  · exact finalizeClose_leaves ref hgone

theorem handleIncomingMessage_awaited (message : BridgeMessage) (callback : Except Thrown Unit)
    (t : BridgeClientTransport) :
    (handleIncomingMessage message callback t).2.closeAwaited = t.closeAwaited := by
  unfold handleIncomingMessage
  split_ifs
  · rfl
  · rfl
  · cases message with
    | mcpMessage payload =>
      dsimp only
      cases payload.json with
      | none => rfl
      | some text =>
        dsimp only
        split_ifs
        · rfl
        · cases callback with
          | ok u => rfl
          | error error => rfl
    | hello => rfl
    | helloAck version sessionId => rfl
    | error code message => rfl
    | close code => rfl
    | invalid => rfl

theorem receive_leaves (callback : Except Thrown Unit) : Leaves r (receive callback r) := by
  unfold receive
  cases r.self.incomingThrown with
  | some error => exact .refl r
  | none =>
    cases r.self.incomingChain with
    | nil => exact .refl r
    | cons message rest =>
      have hstate := (handleIncomingMessage_touches message callback
        { r.self with incomingChain := rest }).1
      have hawaited := handleIncomingMessage_awaited message callback
        { r.self with incomingChain := rest }
      dsimp only at hstate hawaited ⊢
      generalize handleIncomingMessage message callback { r.self with incomingChain := rest } =
        handled at hstate hawaited ⊢
      obtain ⟨result, t⟩ := handled
      cases result with
      | ok u => exact leaves_of_same rfl hstate hawaited rfl
      | error error => exact leaves_of_same rfl hstate hawaited rfl

theorem receiveFailed_leaves : Leaves r (receiveFailed r) := by
  unfold receiveFailed
  cases r.self.incomingThrown with
  | none => exact .refl r
  | some error =>
    refine Leaves.trans ?_ (fail_leaves _)
    exact leaves_of_same rfl rfl rfl rfl

/-- `close` leaves a session that has gone: one that is ready is closed. -/
theorem close_gone (h : Placed r) : (close ref r).session.Gone := by
  unfold close
  split_ifs with hpast hready
  · exact h.past hpast.symm
  · exact r.session.close_gone
  · exact finalizeClose_gone ref (SessionObject.gone_of_not_ready h.met hready)

theorem close_stage : r.session.state.stage ≤ (close ref r).session.state.stage := by
  unfold close
  split_ifs
  · exact le_refl _
  · exact r.session.close_stage
  · exact le_of_eq (by rw [finalizeClose_session])

theorem close_leaves : Leaves r (close ref r) where
  stage := close_stage ref
  placed h := (leaves_of_gone (close_stage ref) (close_gone ref h)).placed h

theorem closeSettled_leaves (result : Except Thrown Unit) (h : Placed r) :
    Leaves r (closeSettled ref result r) := by
  unfold closeSettled
  by_cases hawaited : r.self.closeAwaited = false
  · rw [if_pos hawaited]
    exact .refl r
  · rw [if_neg hawaited]
    have hgone := h.awaited ((Bool.not_eq_false _).mp hawaited)
    cases result with
    | ok u => exact leaves_of_gone (by rw [finalizeClose_session]) (finalizeClose_gone ref hgone)
    | error error => exact leaves_of_gone (le_refl _) hgone

end Running

/-! ## The scene -/

namespace Scene
open Running

/-- Every transport of the session is placed, and so is what is left of the running functions. -/
structure Shut (s : Scene) : Prop where
  met : ∀ ref t, s.transports.get? ref = some t → s.session.state ≠ .handshaking
  past : ∀ ref t, s.transports.get? ref = some t → t.state = .closing ∨ t.state = .closed →
    s.session.Gone
  awaited : ∀ ref t, s.transports.get? ref = some t → t.closeAwaited = true → s.session.Gone
  safe : Safe s.session (s.stack.map Prod.snd)

theorem shut_initial (session : SessionObject) : Shut (initial session) where
  met ref t h := by
    change (Heap.empty : Heap BridgeClientTransport).get? ref = some t at h
    cases h
  past ref t h := by
    change (Heap.empty : Heap BridgeClientTransport).get? ref = some t at h
    cases h
  awaited ref t h := by
    change (Heap.empty : Heap BridgeClientTransport).get? ref = some t at h
    cases h
  safe := trivial

variable {s : Scene}

theorem Shut.placed (h : Shut s) {ref : ℕ} {t : BridgeClientTransport}
    (ht : s.transports.get? ref = some t) : Placed ⟨s.session, t, []⟩ :=
  ⟨h.met ref t ht, h.past ref t ht, h.awaited ref t ht, trivial⟩

/-- The session is further than it was. -/
theorem gone_of_stage {session session' : SessionObject}
    (hstage : session.state.stage ≤ session'.state.stage) (hgone : session.Gone) : session'.Gone :=
  session'.gone_iff.mpr ((session.gone_iff.mp hgone).trans hstage)

theorem met_of_stage {session session' : SessionObject}
    (hstage : session.state.stage ≤ session'.state.stage) (hmet : session.state ≠ .handshaking) :
    session'.state ≠ .handshaking := by
  intro hhandshaking
  rw [hhandshaking] at hstage
  refine hmet ?_
  cases hstate : session.state with
  | handshaking => rfl
  | ready =>
    rw [hstate] at hstage
    exact absurd hstage (by decide)
  | closing =>
    rw [hstate] at hstage
    exact absurd hstage (by decide)
  | closed =>
    rw [hstate] at hstage
    exact absurd hstage (by decide)

/-- Code of one transport: the session goes forward, and all stay placed. -/
theorem Shut.run (h : Shut s) (ref : ℕ) {f : Running → Running}
    (hf : ∀ t, s.transports.get? ref = some t →
      Leaves ⟨s.session, t, []⟩ (f ⟨s.session, t, []⟩)) :
    Shut (s.run ref f) ∧ s.session.state.stage ≤ (s.run ref f).session.state.stage := by
  unfold Scene.run
  cases ht : s.transports.get? ref with
  | none => exact ⟨h, le_refl _⟩
  | some t =>
    obtain ⟨hstage, hplaced⟩ := hf t ht
    have hplaced := hplaced (h.placed ht)
    refine ⟨⟨?_, ?_, ?_, ?_⟩, hstage⟩
    · intro j t' ht'
      exact hplaced.met
    · intro j t' ht' hpast
      obtain ⟨old, hold, hsame⟩ := (Heap.get?_modify_eq_some _ _ _).mp ht'
      split_ifs at hsame
      · rw [← hsame] at hpast
        exact hplaced.past hpast
      · rw [← hsame] at hpast
        exact gone_of_stage hstage (h.past j old hold hpast)
    · intro j t' ht' hawaited
      obtain ⟨old, hold, hsame⟩ := (Heap.get?_modify_eq_some _ _ _).mp ht'
      split_ifs at hsame
      · rw [← hsame] at hawaited
        exact hplaced.awaited hawaited
      · rw [← hsame] at hawaited
        exact gone_of_stage hstage (h.awaited j old hold hawaited)
    · dsimp only
      rw [List.map_append, List.map_map]
      refine Safe.append ?_ (h.safe.mono (gone_of_stage hstage))
      rw [show Prod.snd ∘ Prod.mk ref = (id : Frame → Frame) from rfl, List.map_id]
      exact hplaced.safe

theorem Shut.task (h : Shut s) (ref : ℕ) {f : Running → Running}
    (hf : ∀ t, s.transports.get? ref = some t →
      Leaves ⟨s.session, t, []⟩ (f ⟨s.session, t, []⟩)) :
    Shut (s.task ref f) ∧ s.session.state.stage ≤ (s.task ref f).session.state.stage := by
  unfold Scene.task
  split_ifs
  · exact h.run ref hf
  · exact ⟨h, le_refl _⟩

/-- Other code moves the session forward. -/
theorem Shut.session (h : Shut s) {session : SessionObject}
    (hstage : s.session.state.stage ≤ session.state.stage) : Shut { s with session := session } where
  met ref t ht := met_of_stage hstage (h.met ref t ht)
  past ref t ht hpast := gone_of_stage hstage (h.past ref t ht hpast)
  awaited ref t ht hawaited := gone_of_stage hstage (h.awaited ref t ht hawaited)
  safe := h.safe.mono (gone_of_stage hstage)

/-- A transport is made for a session that is past its handshake. -/
theorem Shut.create (h : Shut s) (hmet : s.session.state ≠ .handshaking) : Shut (s.step .create) where
  met _ _ _ := hmet
  past ref t ht hpast := by
    rcases (Heap.get?_alloc_eq_some _ _).mp ht with ⟨-, rfl⟩ | hold
    · rcases hpast with hfalse | hfalse
      · cases hfalse
      · cases hfalse
    · exact h.past ref t hold hpast
  awaited ref t ht hawaited := by
    rcases (Heap.get?_alloc_eq_some _ _).mp ht with ⟨-, rfl⟩ | hold
    · cases hawaited
    · exact h.awaited ref t hold hawaited
  safe := h.safe

/-- A session that has gone takes its transports along. -/
theorem shut_of_gone (hgone : s.session.Gone) : Shut s where
  met _ _ _ hmet := by
    rcases hgone with hclosing | hclosed
    · rw [hmet] at hclosing
      cases hclosing
    · rw [hmet] at hclosed
      cases hclosed
  past _ _ _ _ := hgone
  awaited _ _ _ _ := hgone
  safe := safe_of_gone hgone _

/-- The innermost running function goes on. -/
theorem Shut.resume (h : Shut s) (hinv : Inv s) :
    Shut (s.step .resume) ∧ s.session.state.stage ≤ (s.step .resume).session.state.stage := by
  unfold Scene.step
  dsimp only
  cases hstack : s.stack with
  | nil => exact ⟨h, le_refl _⟩
  | cons top stack =>
    obtain ⟨ref, frame⟩ := top
    have hsafe : Safe s.session (frame :: stack.map Prod.snd) := by
      have hsafe := h.safe
      rw [hstack] at hsafe
      exact hsafe
    obtain ⟨t, ht⟩ := hinv.stacked ref frame (by rw [hstack]; exact List.mem_cons_self)
    have hsession : ({ s with stack := stack }.run ref (Running.resume ref frame)).session =
        (Running.resume ref frame ⟨s.session, t, []⟩).session :=
      run_session (s := { s with stack := stack }) ht _
    dsimp only
    cases frame with
    | closeSession =>
      have hclosed : ({ s with stack := stack }.run ref (Running.resume ref .closeSession)).session =
          s.session.close := hsession
      refine ⟨shut_of_gone ?_, ?_⟩
      · rw [hclosed]
        exact s.session.close_gone
      · rw [hclosed]
        exact s.session.close_stage
    | finalizeClose =>
      have hstage := finalizeClose_session ref ⟨s.session, t, []⟩
      refine ⟨shut_of_gone ?_, ?_⟩
      · rw [hsession]
        exact finalizeClose_gone ref hsafe
      · rw [hsession]
        exact le_of_eq (congrArg GatewaySessionState.stage hstage).symm
    | drained =>
      have hrest : Shut { s with stack := stack } := ⟨h.met, h.past, h.awaited, hsafe⟩
      exact hrest.run ref fun t ht => leaves_of_same rfl rfl rfl rfl

/-- Whatever happens to the session and its transports, `create` apart. -/
theorem Shut.step (h : Shut s) (hinv : Inv s) {e : Event} (he : e ≠ .create) :
    Shut (s.step e) ∧ s.session.state.stage ≤ (s.step e).session.state.stage := by
  cases e with
  | create => exact absurd rfl he
  | start ref => exact h.run ref fun t ht => start_leaves ref
  | send ref message => exact h.run ref fun t ht => send_leaves message
  | drainMicrotask ref => exact h.task ref fun t ht => drainMicrotask_leaves
  | sendSettled ref result => exact h.task ref fun t ht => sendSettled_leaves result
  | receive ref callback => exact h.task ref fun t ht => receive_leaves callback
  | receiveFailed ref => exact h.task ref fun t ht => receiveFailed_leaves
  | close ref => exact h.run ref fun t ht => close_leaves ref
  | closeSettled ref result =>
    exact h.task ref fun t ht => closeSettled_leaves ref result (h.placed ht)
  | resume => exact h.resume hinv
  | sessionReady =>
    unfold Scene.step
    dsimp only
    split_ifs with hhandshaking
    · have hstage : s.session.state.stage ≤ GatewaySessionState.ready.stage := by
        rw [hhandshaking]
        decide
      exact ⟨h.session hstage, hstage⟩
    · exact ⟨h, le_refl _⟩
  | sessionMessage message =>
    unfold Scene.step
    dsimp only
    split
    · next ref _ => exact h.task ref fun t ht => leaves_of_same rfl rfl rfl rfl
    · exact ⟨h, le_refl _⟩
  | sessionClose => exact ⟨h.session s.session.close_stage, s.session.close_stage⟩
  | sessionClosed reason =>
    unfold Scene.step
    dsimp only
    split_ifs
    · exact ⟨h, le_refl _⟩
    · have hstage : s.session.state.stage ≤ GatewaySessionState.closed.stage := by
        cases s.session.state with
        | handshaking => decide
        | ready => decide
        | closing => decide
        | closed => decide
      have hclosed : Shut { s with session := { s.session with state := .closed } } :=
        shut_of_gone (.inr rfl)
      split
      · next ref _ =>
        obtain ⟨hshut, hrun⟩ := hclosed.run ref fun t ht =>
          handleSessionClose_leaves ref reason (.inr rfl)
        exact ⟨hshut, hstage.trans hrun⟩
      · exact ⟨hclosed, hstage⟩

/-! ## What the owner of a transport sees -/

theorem run_next (ref : ℕ) (f : Running → Running) :
    (s.run ref f).transports.next = s.transports.next := by
  unfold Scene.run
  cases s.transports.get? ref with
  | none => rfl
  | some t => exact Heap.next_modifyAll _ _ _

theorem task_next (ref : ℕ) (f : Running → Running) :
    (s.task ref f).transports.next = s.transports.next := by
  unfold Scene.task
  split_ifs
  · exact run_next ref f
  · rfl

/-- Only `create` makes a transport. -/
theorem step_next {e : Event} (he : e ≠ .create) :
    (s.step e).transports.next = s.transports.next := by
  cases e with
  | create => exact absurd rfl he
  | start ref => exact run_next ref _
  | send ref message => exact run_next ref _
  | drainMicrotask ref => exact task_next ref _
  | sendSettled ref result => exact task_next ref _
  | receive ref callback => exact task_next ref _
  | receiveFailed ref => exact task_next ref _
  | close ref => exact run_next ref _
  | closeSettled ref result => exact task_next ref _
  | resume =>
    unfold Scene.step
    dsimp only
    split
    · rfl
    · next ref frame stack _ => exact run_next (s := { s with stack := stack }) ref _
  | sessionReady =>
    unfold Scene.step
    dsimp only
    split_ifs
    · rfl
    · rfl
  | sessionMessage message =>
    unfold Scene.step
    dsimp only
    split
    · next ref _ => exact task_next ref _
    · rfl
  | sessionClose => rfl
  | sessionClosed reason =>
    unfold Scene.step
    dsimp only
    split_ifs
    · rfl
    · split
      · next ref _ => exact run_next ref _
      · rfl

theorem Shut.close_gone (h : Shut s) {ref : ℕ} {t : BridgeClientTransport}
    (ht : s.transports.get? ref = some t) : (s.step (.close ref)).session.Gone := by
  have hsession : (s.step (.close ref)).session = (Running.close ref ⟨s.session, t, []⟩).session :=
    run_session ht _
  rw [hsession]
  exact Running.close_gone ref (h.placed ht)

/-- A transport calls `onclose` when it is closed, once. -/
theorem Inv.closes (h : Inv s) {ref : ℕ} {t : BridgeClientTransport}
    (ht : s.transports.get? ref = some t) :
    t.effects.count .onclose = if t.state = .closed then 1 else 0 := by
  rw [(h.sound ref t ht).onclose]
  by_cases hclosed : t.state = .closed
  · rw [if_pos hclosed, if_pos ((h.sound ref t ht).closed.mpr hclosed)]
  · rw [if_neg hclosed, if_neg fun hcalled => hclosed ((h.sound ref t ht).closed.mp hcalled)]

end Scene
end Doctmcp.Bridge

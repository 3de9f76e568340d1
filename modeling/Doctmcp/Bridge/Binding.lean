import Doctmcp.Bridge.Outgoing

/-! # Failed bindings

A transport whose `start` was rejected has not put its callbacks on the session (`Unbound`). What it
does later leaves the session alone, but for `close`: it closes a session that is ready, whoever is
bound to it. -/

namespace Doctmcp.Bridge
open Doctmcp.Lib
set_option autoImplicit false

/-- The rejection of `start` on a session that has callbacks. -/
def alreadyBound : Effect :=
  .startRejected ⟨.INVALID_STATE, "Bridge gateway session is already bound"⟩

def Effect.isStart : Effect → Bool
  | .startResolved => true
  | .startRejected _ => true
  | _ => false

namespace Running
open BridgeClientTransport

/-- What a function other than `start` does to the session and to the history of `start`. -/
structure Touches (r r' : Running) : Prop where
  starts : ∀ effect, effect.isStart = true → (effect ∈ r'.self.effects ↔ effect ∈ r.self.effects)
  idle : r'.self.state = .idle → r.self.state = .idle
  onmessage : ∀ callback, r'.session.onmessage = some callback →
    r.session.onmessage = some callback
  onclose : ∀ callback, r'.session.onclose = some callback → r.session.onclose = some callback

theorem Touches.refl (r : Running) : Touches r r :=
  ⟨fun _ _ => Iff.rfl, id, fun _ => id, fun _ => id⟩

theorem Touches.trans {r r' r'' : Running} (h : Touches r r') (h' : Touches r' r'') :
    Touches r r'' where
  starts effect heffect := (h'.starts effect heffect).trans (h.starts effect heffect)
  idle := h.idle ∘ h'.idle
  onmessage callback := h.onmessage callback ∘ h'.onmessage callback
  onclose callback := h.onclose callback ∘ h'.onclose callback

variable {r : Running} (ref : ℕ)

/-- A change of the transport that keeps its state and adds one effect at most. -/
theorem touches_self {r' : Running} (hstate : r'.self.state = .idle → r.self.state = .idle)
    (hsession : r'.session = r.session)
    (heffects : r'.self.effects = r.self.effects ∨
      ∃ effect, effect.isStart = false ∧ r'.self.effects = effect :: r.self.effects) :
    Touches r r' where
  starts effect heffect := by
    rcases heffects with hsame | ⟨new, hnew, hcons⟩
    · rw [hsame]
    · rw [hcons, List.mem_cons]
      constructor
      · rintro (rfl | hmem)
        · rw [heffect] at hnew
          cases hnew
        · exact hmem
      · exact .inr
  idle := hstate
  onmessage callback h := by
    rw [hsession] at h
    exact h
  onclose callback h := by
    rw [hsession] at h
    exact h

theorem reportError_effects (error : BridgeClientTransportError) (t : BridgeClientTransport) :
    (reportError error t).effects = t.effects ∨
      ∃ effect, effect.isStart = false ∧ (reportError error t).effects = effect :: t.effects := by
  unfold reportError
  split_ifs
  · exact .inl rfl
  · exact .inr ⟨.onerror error, rfl, rfl⟩

theorem notifyClosed_effects (t : BridgeClientTransport) :
    t.notifyClosed.effects = t.effects ∨
      ∃ effect, effect.isStart = false ∧ t.notifyClosed.effects = effect :: t.effects := by
  unfold notifyClosed
  split_ifs
  · exact .inl rfl
  · exact .inr ⟨.onclose, rfl, rfl⟩

theorem touches_detach (r : Running) :
    Touches r { r with session := detachSessionCallbacks ref r.session } where
  starts _ _ := Iff.rfl
  idle := id
  onmessage callback h := by
    change (if _ then none else r.session.onmessage) = _ at h
    split_ifs at h
    exact h
  onclose callback h := by
    change (if _ then none else r.session.onclose) = _ at h
    split_ifs at h
    exact h

theorem touches_sessionClose (r : Running) : Touches r { r with session := r.session.close } where
  starts _ _ := Iff.rfl
  idle := id
  onmessage callback h := by
    change r.session.close.onmessage = _ at h
    unfold SessionObject.close at h
    split_ifs at h
    · exact h
    · exact h
  onclose callback h := by
    change r.session.close.onclose = _ at h
    unfold SessionObject.close at h
    split_ifs at h
    · exact h
    · exact h

theorem finalizeClose_touches : Touches r (finalizeClose ref r) := by
  unfold finalizeClose
  split_ifs
  · exact .refl r
  · refine (touches_detach ref r).trans (touches_self ?_ rfl ?_)
    · rw [(notifyClosed_same _).1]
      intro hfalse
      cases hfalse
    · exact notifyClosed_effects _

theorem fail_touches (error : BridgeClientTransportError) : Touches r (fail error r) := by
  unfold fail
  split_ifs
  · exact .refl r
  · refine touches_self ?_ rfl (reportError_effects _ _)
    rw [reportError_state]
    intro hfalse
    cases hfalse

theorem scheduleDrain_effects (t : BridgeClientTransport) :
    (scheduleDrain t).effects = t.effects ∧ (scheduleDrain t).state = t.state := by
  unfold scheduleDrain
  split_ifs
  · exact ⟨rfl, rfl⟩
  · exact ⟨rfl, rfl⟩

theorem send_touches (message : JSONRPCMessage) : Touches r (send message r) := by
  have hrejected : ∀ error, Touches r { r with self := r.self.emit (.sendRejected error) } :=
    fun error => touches_self id rfl (.inr ⟨.sendRejected error, rfl, rfl⟩)
  unfold send
  dsimp only
  by_cases hready : r.self.state = .ready
  · rw [if_neg (not_not.mpr hready)]
    cases serializeMcpMessage message with
    | error error => exact hrejected error
    | ok frame =>
      obtain ⟨message, bytes⟩ := frame
      dsimp only
      split_ifs
      · exact hrejected _
      · have hsame := scheduleDrain_effects
          { r.self with outbox := r.self.outbox.push message bytes }
        refine touches_self ?_ rfl (.inl hsame.1)
        rw [hsame.2]
        exact id
  · rw [if_pos hready]
    exact hrejected _

theorem drainLoop_touches : Touches r (drainLoop r) := by
  unfold drainLoop
  dsimp only
  split_ifs
  · exact touches_self id rfl (.inl rfl)
  · cases r.self.outbox.queue.head? with
    | none => exact touches_self id rfl (.inl rfl)
    | some item => exact touches_self id rfl (.inl rfl)

theorem drainMicrotask_touches : Touches r (drainMicrotask r) := by
  unfold drainMicrotask drainQueue
  dsimp only
  split_ifs
  · exact touches_self id rfl (.inl rfl)
  · refine Touches.trans ?_ drainLoop_touches
    exact touches_self id rfl (.inl rfl)
  · exact .refl r

theorem sendSettled_touches (result : Except Thrown Unit) : Touches r (sendSettled result r) := by
  unfold sendSettled
  cases r.self.sending with
  | none => exact .refl r
  | some item =>
    cases result with
    | ok u =>
      refine Touches.trans ?_ drainLoop_touches
      exact touches_self id rfl (.inl rfl)
    | error error =>
      refine Touches.trans ?_ (fail_touches _)
      exact touches_self id rfl (.inl rfl)

theorem handleSessionClose_touches (reason : CloseReason) :
    Touches r (handleSessionClose ref reason r) := by
  unfold handleSessionClose
  split_ifs
  · exact .refl r
  · refine touches_self ?_ rfl (reportError_effects _ _)
    rw [reportError_state]
    exact id
  · exact finalizeClose_touches ref

theorem handleIncomingMessage_touches (message : BridgeMessage) (callback : Except Thrown Unit)
    (t : BridgeClientTransport) :
    let t' := (handleIncomingMessage message callback t).2
    t'.state = t.state ∧ (t'.effects = t.effects ∨
      ∃ effect, effect.isStart = false ∧ t'.effects = effect :: t.effects) := by
  unfold handleIncomingMessage
  split_ifs
  · exact ⟨rfl, .inl rfl⟩
  · exact ⟨rfl, .inl rfl⟩
  · cases message with
    | mcpMessage payload =>
      dsimp only
      cases payload.json with
      | none => exact ⟨rfl, .inl rfl⟩
      | some text =>
        dsimp only
        split_ifs
        · exact ⟨rfl, .inl rfl⟩
        · cases callback with
          | ok u => exact ⟨rfl, .inr ⟨.onmessage payload, rfl, rfl⟩⟩
          | error error => exact ⟨rfl, .inr ⟨.onmessage payload, rfl, rfl⟩⟩
    | hello => exact ⟨rfl, .inl rfl⟩
    | helloAck version sessionId => exact ⟨rfl, .inl rfl⟩
    | error code message => exact ⟨rfl, .inl rfl⟩
    | close code => exact ⟨rfl, .inl rfl⟩
    | invalid => exact ⟨rfl, .inl rfl⟩

theorem receive_touches (callback : Except Thrown Unit) : Touches r (receive callback r) := by
  unfold receive
  cases r.self.incomingThrown with
  | some error => exact .refl r
  | none =>
    cases r.self.incomingChain with
    | nil => exact .refl r
    | cons message rest =>
      have hsame := handleIncomingMessage_touches message callback
        { r.self with incomingChain := rest }
      dsimp only at hsame ⊢
      generalize handleIncomingMessage message callback { r.self with incomingChain := rest } =
        handled at hsame ⊢
      obtain ⟨result, t⟩ := handled
      obtain ⟨hstate, heffects⟩ := hsame
      cases result with
      | ok u => exact touches_self (fun h => hstate.symm.trans h) rfl heffects
      | error error => exact touches_self (fun h => hstate.symm.trans h) rfl heffects

theorem receiveFailed_touches : Touches r (receiveFailed r) := by
  unfold receiveFailed
  cases r.self.incomingThrown with
  | none => exact .refl r
  | some error =>
    refine Touches.trans ?_ (fail_touches _)
    exact touches_self id rfl (.inl rfl)

theorem close_touches : Touches r (close ref r) := by
  unfold close
  split_ifs
  · exact .refl r
  · refine (touches_sessionClose r).trans (touches_self ?_ rfl (.inr ⟨_, rfl, rfl⟩))
    intro hfalse
    cases hfalse
  · refine Touches.trans ?_ (finalizeClose_touches ref)
    refine touches_self ?_ rfl (.inl rfl)
    intro hfalse
    cases hfalse

theorem closeSettled_touches (result : Except Thrown Unit) :
    Touches r (closeSettled ref result r) := by
  unfold closeSettled
  split_ifs
  · exact .refl r
  · cases result with
    | ok u =>
      refine Touches.trans ?_ (finalizeClose_touches ref)
      exact touches_self id rfl (.inl rfl)
    | error error =>
      refine touches_self ?_ rfl (reportError_effects _ _)
      rw [reportError_state]
      exact id

theorem resume_touches (frame : Frame) : Touches r (resume ref frame r) := by
  cases frame with
  | closeSession =>
    refine (touches_sessionClose r).trans ?_
    exact touches_self id rfl (.inr ⟨_, rfl, rfl⟩)
  | finalizeClose => exact finalizeClose_touches ref
  | drained => exact touches_self id rfl (.inl rfl)

/-! ## Transports that are not bound -/

/-- The transport was never bound: it has nothing to do, and its callbacks are not on the session. -/
structure Unbound (ref : ℕ) (r : Running) : Prop where
  state : r.self.state ≠ .ready
  sending : r.self.sending = none
  chain : r.self.incomingChain = []
  thrown : r.self.incomingThrown = none
  onmessage : r.session.onmessage ≠ some (.transport ref)
  onclose : r.session.onclose ≠ some (.transport ref)

/-- What such a transport does: it stays unbound and leaves the session alone. -/
structure Spares (ref : ℕ) (r r' : Running) : Prop where
  unbound : Unbound ref r'
  frames : .closeSession ∉ r'.frames
  session : r'.session = r.session

variable {ref}

theorem Unbound.spares (h : Unbound ref r) {r' : Running} (hframes : .closeSession ∉ r'.frames)
    (hsession : r'.session = r.session) (hstate : r'.self.state ≠ .ready)
    (hsending : r'.self.sending = none) (hchain : r'.self.incomingChain = [])
    (hthrown : r'.self.incomingThrown = none) : Spares ref r r' where
  unbound := ⟨hstate, hsending, hchain, hthrown, hsession ▸ h.onmessage, hsession ▸ h.onclose⟩
  frames := hframes
  session := hsession

theorem Unbound.detach (h : Unbound ref r) : detachSessionCallbacks ref r.session = r.session := by
  unfold detachSessionCallbacks
  rw [if_neg h.onmessage, if_neg h.onclose]

theorem reportError_chain (error : BridgeClientTransportError) (t : BridgeClientTransport) :
    (reportError error t).incomingChain = t.incomingChain ∧
      (reportError error t).incomingThrown = t.incomingThrown := by
  unfold reportError
  split_ifs
  · exact ⟨rfl, rfl⟩
  · exact ⟨rfl, rfl⟩

theorem notifyClosed_chain (t : BridgeClientTransport) :
    t.notifyClosed.incomingChain = t.incomingChain ∧
      t.notifyClosed.incomingThrown = t.incomingThrown := by
  unfold notifyClosed
  split_ifs
  · exact ⟨rfl, rfl⟩
  · exact ⟨rfl, rfl⟩

theorem finalizeClose_spares (h : Unbound ref r) (hframes : r.frames = []) :
    Spares ref r (finalizeClose ref r) := by
  have hnone : .closeSession ∉ r.frames := by
    rw [hframes]
    exact List.not_mem_nil
  unfold finalizeClose
  split_ifs
  · exact h.spares hnone rfl h.state h.sending h.chain h.thrown
  · refine h.spares hnone h.detach ?_ ?_ ?_ ?_
    · rw [(notifyClosed_same _).1]
      intro hfalse
      cases hfalse
    · exact (notifyClosed_same _).2.trans h.sending
    · exact (notifyClosed_chain _).1.trans h.chain
    · exact (notifyClosed_chain _).2.trans h.thrown

theorem send_spares (message : JSONRPCMessage) (h : Unbound ref r) (hframes : r.frames = []) :
    Spares ref r (send message r) := by
  unfold send
  dsimp only
  rw [if_pos h.state]
  refine h.spares ?_ rfl h.state h.sending h.chain h.thrown
  rw [hframes]
  exact List.not_mem_nil

theorem drainMicrotask_spares (h : Unbound ref r) (hframes : r.frames = []) :
    Spares ref r (drainMicrotask r) := by
  have hnone : .closeSession ∉ r.frames := by
    rw [hframes]
    exact List.not_mem_nil
  unfold drainMicrotask drainQueue drainLoop
  dsimp only
  rw [if_pos h.state]
  split_ifs
  · exact h.spares hnone rfl h.state h.sending h.chain h.thrown
  · exact h.spares hnone rfl h.state h.sending h.chain h.thrown
  · exact h.spares hnone rfl h.state h.sending h.chain h.thrown

theorem Unbound.spared (h : Unbound ref r) (hframes : r.frames = []) : Spares ref r r := by
  refine h.spares ?_ rfl h.state h.sending h.chain h.thrown
  rw [hframes]
  exact List.not_mem_nil

theorem sendSettled_spares (result : Except Thrown Unit) (h : Unbound ref r)
    (hframes : r.frames = []) : Spares ref r (sendSettled result r) := by
  unfold sendSettled
  rw [h.sending]
  exact h.spared hframes

theorem receive_spares (callback : Except Thrown Unit) (h : Unbound ref r)
    (hframes : r.frames = []) : Spares ref r (receive callback r) := by
  unfold receive
  rw [h.chain, h.thrown]
  exact h.spared hframes

theorem receiveFailed_spares (h : Unbound ref r) (hframes : r.frames = []) :
    Spares ref r (receiveFailed r) := by
  unfold receiveFailed
  rw [h.thrown]
  exact h.spared hframes

theorem closeSettled_spares (result : Except Thrown Unit) (h : Unbound ref r)
    (hframes : r.frames = []) : Spares ref r (closeSettled ref result r) := by
  unfold closeSettled
  split_ifs
  · exact h.spared hframes
  · have hawaited : Unbound ref { r with self := { r.self with closeAwaited := false } } :=
      ⟨h.state, h.sending, h.chain, h.thrown, h.onmessage, h.onclose⟩
    cases result with
    | ok u =>
      have hfinal := finalizeClose_spares hawaited hframes
      exact ⟨hfinal.unbound, hfinal.frames, hfinal.session⟩
    | error error =>
      refine h.spares ?_ rfl ?_ ?_ ?_ ?_
      · show .closeSession ∉ .finalizeClose :: r.frames
        rw [hframes]
        decide
      · rw [reportError_state]
        exact h.state
      · rw [reportError_sending]
        exact h.sending
      · exact (reportError_chain _ _).1.trans h.chain
      · exact (reportError_chain _ _).2.trans h.thrown

theorem resume_spares {frame : Frame} (hframe : frame ≠ .closeSession) (h : Unbound ref r)
    (hframes : r.frames = []) : Spares ref r (resume ref frame r) := by
  cases frame with
  | closeSession => exact absurd rfl hframe
  | finalizeClose => exact finalizeClose_spares h hframes
  | drained =>
    refine h.spares ?_ rfl h.state h.sending h.chain h.thrown
    show .closeSession ∉ r.frames
    rw [hframes]
    exact List.not_mem_nil

/-- `close` closes the session, if that is ready and the transport was not closed before. -/
theorem close_unbound (h : Unbound ref r) (hframes : r.frames = []) :
    Unbound ref (close ref r) ∧ .closeSession ∉ (close ref r).frames ∧
      (close ref r).session = if r.session.state = .ready ∧
        ¬ (r.self.state = .closed ∨ r.self.state = .closing)
        then { r.session with state := .closing } else r.session := by
  have hnone : .closeSession ∉ r.frames := by
    rw [hframes]
    exact List.not_mem_nil
  unfold close
  by_cases hpast : r.self.state = .closed ∨ r.self.state = .closing
  · rw [if_pos hpast, if_neg fun hboth => hboth.2 hpast]
    exact ⟨h, hnone, rfl⟩
  · rw [if_neg hpast]
    dsimp only
    by_cases hready : r.session.state = .ready
    · rw [if_pos hready, if_pos ⟨hready, hpast⟩]
      have hclose : r.session.close = { r.session with state := .closing } := by
        unfold SessionObject.close
        rw [hready]
        exact if_neg (by decide)
      dsimp only
      rw [hclose]
      refine ⟨⟨?_, h.sending, h.chain, h.thrown, h.onmessage, h.onclose⟩, hnone, rfl⟩
      intro hfalse
      cases hfalse
    · rw [if_neg hready, if_neg fun hboth => hready hboth.1]
      have hleft : Unbound ref ⟨r.session, rejectQueued closedError
          { r.self with intentionalClose := true, state := .closing }, r.frames⟩ :=
        ⟨fun hfalse => (by cases hfalse), h.sending, h.chain, h.thrown, h.onmessage, h.onclose⟩
      have hfinal := finalizeClose_spares hleft hframes
      exact ⟨hfinal.unbound, hfinal.frames, hfinal.session⟩

/-! ## The history of start -/

/-- A transport is started once. -/
structure History (t : BridgeClientTransport) : Prop where
  idle : t.state = .idle → .startResolved ∉ t.effects ∧ alreadyBound ∉ t.effects
  rejected : alreadyBound ∈ t.effects → .startResolved ∉ t.effects

/-- What a function does to the transport, the session and the other transports of the session. -/
structure Fits (ref : ℕ) (r r' : Running) : Prop where
  onmessage : ∀ j, j ≠ ref → r'.session.onmessage = some (.transport j) →
    r.session.onmessage = some (.transport j)
  onclose : ∀ j, j ≠ ref → r'.session.onclose = some (.transport j) →
    r.session.onclose = some (.transport j)
  resolved : .startResolved ∈ r.self.effects → .startResolved ∈ r'.self.effects
  unbound : .startResolved ∉ r'.self.effects → Unbound ref r →
    Unbound ref r' ∧ .closeSession ∉ r'.frames
  history : History r.self → History r'.self

theorem Touches.fits {r' : Running} (h : Touches r r')
    (hunbound : .startResolved ∉ r.self.effects → Unbound ref r →
      Unbound ref r' ∧ .closeSession ∉ r'.frames) : Fits ref r r' where
  onmessage _ _ hcallback := h.onmessage _ hcallback
  onclose _ _ hcallback := h.onclose _ hcallback
  resolved := (h.starts .startResolved rfl).mpr
  unbound hunresolved := hunbound (mt (h.starts .startResolved rfl).mpr hunresolved)
  history hbefore := by
    constructor
    · intro hidle
      obtain ⟨hresolved, hrejected⟩ := hbefore.idle (h.idle hidle)
      exact ⟨mt (h.starts .startResolved rfl).mp hresolved,
        mt (h.starts alreadyBound rfl).mp hrejected⟩
    · intro hmem
      exact mt (h.starts .startResolved rfl).mp
        (hbefore.rejected ((h.starts alreadyBound rfl).mp hmem))

theorem Touches.spares {r' : Running} (h : Touches r r')
    (hspares : Unbound ref r → Spares ref r r') : Fits ref r r' :=
  h.fits fun _ hunbound => ⟨(hspares hunbound).unbound, (hspares hunbound).frames⟩

/-- An idle transport is rejected. -/
theorem rejected_fits (hframes : r.frames = []) (hidle : r.self.state = .idle)
    (error : BridgeClientTransportError) : Fits ref r
      { r with self := { r.self with state := .failed }.emit (.startRejected error) } where
  onmessage _ _ := id
  onclose _ _ := id
  resolved hmem := List.mem_cons_of_mem _ hmem
  unbound _ h := by
    refine ⟨⟨?_, h.sending, h.chain, h.thrown, h.onmessage, h.onclose⟩, ?_⟩
    · intro hfalse
      cases hfalse
    · rw [hframes]
      exact List.not_mem_nil
  history h := by
    constructor
    · intro hfalse
      cases hfalse
    · intro _ hmem
      rcases List.mem_cons.mp hmem with hsame | hold
      · cases hsame
      · exact (h.idle hidle).1 hold

theorem start_fits (hframes : r.frames = []) : Fits ref r (start ref r) := by
  unfold start
  by_cases hidle : r.self.state = .idle
  · rw [if_neg (not_not.mpr hidle)]
    by_cases hready : r.session.state = .ready
    · rw [if_neg (not_not.mpr hready)]
      split_ifs
      · exact rejected_fits hframes hidle _
      · dsimp only
        rw [if_neg (not_not.mpr hready)]
        constructor
        · intro j hj hcallback
          exact absurd (SessionCallback.transport.inj (Option.some.inj hcallback)) (Ne.symm hj)
        · intro j hj hcallback
          exact absurd (SessionCallback.transport.inj (Option.some.inj hcallback)) (Ne.symm hj)
        · exact fun hmem => List.mem_cons_of_mem _ hmem
        · exact fun hunresolved => absurd List.mem_cons_self hunresolved
        · intro h
          constructor
          · intro hfalse
            cases hfalse
          · intro hmem
            rcases List.mem_cons.mp hmem with hsame | hold
            · cases hsame
            · exact absurd hold (h.idle hidle).2
    · rw [if_pos hready]
      exact rejected_fits hframes hidle _
  · rw [if_pos hidle]
    have honce : Effect.startRejected
        ⟨.INVALID_STATE, "Bridge client transport can only be started once"⟩ ≠ alreadyBound := by
      decide
    constructor
    · exact fun _ _ => id
    · exact fun _ _ => id
    · exact fun hmem => List.mem_cons_of_mem _ hmem
    · intro _ h
      refine ⟨⟨h.state, h.sending, h.chain, h.thrown, h.onmessage, h.onclose⟩, ?_⟩
      rw [hframes]
      exact List.not_mem_nil
    · intro h
      constructor
      · exact fun hstate => absurd hstate hidle
      · intro hmem hresolved
        rcases List.mem_cons.mp hmem with hsame | hold
        · exact honce hsame.symm
        · rcases List.mem_cons.mp hresolved with hsame | hresolved
          · cases hsame
          · exact h.rejected hold hresolved

end Running

/-! ## All transports of the session -/

/-- A session that no transport has put its callbacks on. -/
def SessionObject.untouched (state : Gateway.GatewaySessionState) (onmessage onclose : Bool) :
    SessionObject where
  state := state
  onmessage := if onmessage = true then some .other else none
  onclose := if onclose = true then some .other else none

namespace Scene
open Running

structure Bindings (s : Scene) : Prop where
  unbound : ∀ ref t, s.transports.get? ref = some t → .startResolved ∉ t.effects →
    Unbound ref ⟨s.session, t, []⟩ ∧ (ref, .closeSession) ∉ s.stack
  history : ∀ ref t, s.transports.get? ref = some t → History t
  /-- Only transports are on the stack or on the session. -/
  stacked : ∀ ref frame, (ref, frame) ∈ s.stack → ∃ t, s.transports.get? ref = some t
  onmessage : ∀ ref, s.session.onmessage = some (.transport ref) →
    ∃ t, s.transports.get? ref = some t
  onclose : ∀ ref, s.session.onclose = some (.transport ref) →
    ∃ t, s.transports.get? ref = some t

variable {s : Scene}

theorem Bindings.run (h : Bindings s) (ref : ℕ) {f : Running → Running}
    (hf : ∀ t, s.transports.get? ref = some t → Fits ref ⟨s.session, t, []⟩ (f ⟨s.session, t, []⟩)) :
    Bindings (s.run ref f) := by
  unfold Scene.run
  cases ht : s.transports.get? ref with
  | none => exact h
  | some t =>
    have hfits := hf t ht
    dsimp only
    have hthere : ∀ j, (∃ t', s.transports.get? j = some t') → ∃ t',
        (s.transports.modify ref fun _ => (f ⟨s.session, t, []⟩).self).get? j = some t' := by
      rintro j ⟨old, hold⟩
      exact ⟨_, (Heap.get?_modify_eq_some _ _ _).mpr ⟨old, hold, rfl⟩⟩
    constructor
    · intro j t' ht' hunresolved
      obtain ⟨old, hold, hsame⟩ := (Heap.get?_modify_eq_some _ _ _).mp ht'
      by_cases hj : j = ref
      · subst hj
        rw [if_pos rfl] at hsame
        subst hsame
        obtain rfl : old = t := Option.some.inj (hold.symm.trans ht)
        obtain ⟨hunbound, hstack⟩ := h.unbound j old ht (mt hfits.resolved hunresolved)
        obtain ⟨hunbound', hframes⟩ := hfits.unbound hunresolved hunbound
        refine ⟨⟨hunbound'.state, hunbound'.sending, hunbound'.chain, hunbound'.thrown,
          hunbound'.onmessage, hunbound'.onclose⟩, ?_⟩
        intro hmem
        rcases List.mem_append.mp hmem with hnew | hold
        · obtain ⟨frame, hframe, hpair⟩ := List.mem_map.mp hnew
          rw [(Prod.mk.inj hpair).2] at hframe
          exact hframes hframe
        · exact hstack hold
      · rw [if_neg hj] at hsame
        subst hsame
        obtain ⟨hunbound, hstack⟩ := h.unbound j old hold hunresolved
        refine ⟨⟨hunbound.state, hunbound.sending, hunbound.chain, hunbound.thrown,
          mt (hfits.onmessage j hj) hunbound.onmessage, mt (hfits.onclose j hj) hunbound.onclose⟩, ?_⟩
        intro hmem
        rcases List.mem_append.mp hmem with hnew | hold
        · obtain ⟨frame, -, hpair⟩ := List.mem_map.mp hnew
          exact hj (Prod.mk.inj hpair).1.symm
        · exact hstack hold
    · intro j t' ht'
      obtain ⟨old, hold, hsame⟩ := (Heap.get?_modify_eq_some _ _ _).mp ht'
      split_ifs at hsame
      · rw [← hsame]
        exact hfits.history (h.history ref t ht)
      · rw [← hsame]
        exact h.history j old hold
    · intro j frame hmem
      refine hthere j ?_
      rcases List.mem_append.mp hmem with hnew | hstack
      · obtain ⟨_, -, hpair⟩ := List.mem_map.mp hnew
        rw [← (Prod.mk.inj hpair).1]
        exact ⟨t, ht⟩
      · exact h.stacked j frame hstack
    · intro j hcallback
      refine hthere j ?_
      by_cases hj : j = ref
      · exact ⟨t, hj ▸ ht⟩
      · exact h.onmessage j (hfits.onmessage j hj hcallback)
    · intro j hcallback
      refine hthere j ?_
      by_cases hj : j = ref
      · exact ⟨t, hj ▸ ht⟩
      · exact h.onclose j (hfits.onclose j hj hcallback)

theorem Bindings.task (h : Bindings s) (ref : ℕ) {f : Running → Running}
    (hf : ∀ t, s.transports.get? ref = some t → Fits ref ⟨s.session, t, []⟩ (f ⟨s.session, t, []⟩)) :
    Bindings (s.task ref f) := by
  unfold Scene.task
  split_ifs
  · exact h.run ref hf
  · exact h

/-- Other code changes the state of the session only. -/
theorem Bindings.session (h : Bindings s) {session : SessionObject}
    (honmessage : session.onmessage = s.session.onmessage)
    (honclose : session.onclose = s.session.onclose) : Bindings { s with session := session } where
  unbound ref t ht hunresolved := by
    obtain ⟨hunbound, hstack⟩ := h.unbound ref t ht hunresolved
    exact ⟨⟨hunbound.state, hunbound.sending, hunbound.chain, hunbound.thrown,
      honmessage ▸ hunbound.onmessage, honclose ▸ hunbound.onclose⟩, hstack⟩
  history := h.history
  stacked := h.stacked
  onmessage ref hcallback := h.onmessage ref (honmessage.symm.trans hcallback)
  onclose ref hcallback := h.onclose ref (honclose.symm.trans hcallback)

theorem sessionClose_callbacks (session : SessionObject) :
    session.close.onmessage = session.onmessage ∧ session.close.onclose = session.onclose := by
  unfold SessionObject.close
  split_ifs
  · exact ⟨rfl, rfl⟩
  · exact ⟨rfl, rfl⟩

theorem bindings_initial (state : Gateway.GatewaySessionState) (onmessage onclose : Bool) :
    Bindings (initial (.untouched state onmessage onclose)) where
  unbound ref t h := by
    change (Heap.empty : Heap BridgeClientTransport).get? ref = some t at h
    cases h
  history ref t h := by
    change (Heap.empty : Heap BridgeClientTransport).get? ref = some t at h
    cases h
  stacked ref frame h := by cases h
  onmessage ref h := by
    change (if onmessage = true then some SessionCallback.other else none) = _ at h
    split_ifs at h
    cases h
  onclose ref h := by
    change (if onclose = true then some SessionCallback.other else none) = _ at h
    split_ifs at h
    cases h

theorem Bindings.create (h : Bindings s) :
    Bindings { s with transports := s.transports.alloc .new } where
  unbound ref t ht hunresolved := by
    rcases (Heap.get?_alloc_eq_some _ _).mp ht with ⟨rfl, rfl⟩ | hold
    · refine ⟨⟨(fun hfalse => by cases hfalse), rfl, rfl, rfl, ?_, ?_⟩, ?_⟩
      · intro hcallback
        obtain ⟨t, ht⟩ := h.onmessage _ hcallback
        exact Heap.ne_next_of_get? ht rfl
      · intro hcallback
        obtain ⟨t, ht⟩ := h.onclose _ hcallback
        exact Heap.ne_next_of_get? ht rfl
      · intro hmem
        obtain ⟨t, ht⟩ := h.stacked _ _ hmem
        exact Heap.ne_next_of_get? ht rfl
    · exact h.unbound ref t hold hunresolved
  history ref t ht := by
    rcases (Heap.get?_alloc_eq_some _ _).mp ht with ⟨-, rfl⟩ | hold
    · exact ⟨fun _ => ⟨List.not_mem_nil, List.not_mem_nil⟩, fun hmem => by cases hmem⟩
    · exact h.history ref t hold
  stacked ref frame hmem := by
    obtain ⟨t, ht⟩ := h.stacked ref frame hmem
    exact ⟨t, Heap.get?_alloc_of_some ht _⟩
  onmessage ref hcallback := by
    obtain ⟨t, ht⟩ := h.onmessage ref hcallback
    exact ⟨t, Heap.get?_alloc_of_some ht _⟩
  onclose ref hcallback := by
    obtain ⟨t, ht⟩ := h.onclose ref hcallback
    exact ⟨t, Heap.get?_alloc_of_some ht _⟩

theorem Bindings.step (h : Bindings s) (e : Event) : Bindings (s.step e) := by
  cases e with
  | create => exact h.create
  | start ref => exact h.run ref fun t ht => start_fits rfl
  | send ref message =>
    exact h.run ref fun t ht => (send_touches message).spares fun hu => send_spares message hu rfl
  | drainMicrotask ref =>
    exact h.task ref fun t ht => drainMicrotask_touches.spares fun hu => drainMicrotask_spares hu rfl
  | sendSettled ref result =>
    exact h.task ref fun t ht =>
      (sendSettled_touches result).spares fun hu => sendSettled_spares result hu rfl
  | receive ref callback =>
    exact h.task ref fun t ht =>
      (receive_touches callback).spares fun hu => receive_spares callback hu rfl
  | receiveFailed ref =>
    exact h.task ref fun t ht => receiveFailed_touches.spares fun hu => receiveFailed_spares hu rfl
  | close ref =>
    refine h.run ref fun t ht => (close_touches ref).fits fun _ hu => ?_
    exact ⟨(close_unbound hu rfl).1, (close_unbound hu rfl).2.1⟩
  | closeSettled ref result =>
    exact h.task ref fun t ht =>
      (closeSettled_touches ref result).spares fun hu => closeSettled_spares result hu rfl
  | resume =>
    unfold Scene.step
    dsimp only
    cases hstack : s.stack with
    | nil => exact h
    | cons top stack =>
      obtain ⟨ref, frame⟩ := top
      have hmem : ∀ top, top ∈ stack → top ∈ s.stack := by
        rw [hstack]
        exact fun top htop => List.mem_cons_of_mem _ htop
      have hrest : Bindings { s with stack := stack } :=
        { unbound := fun j t ht hunresolved =>
            ⟨(h.unbound j t ht hunresolved).1, mt (hmem _) (h.unbound j t ht hunresolved).2⟩
          history := h.history
          stacked := fun j frame htop => h.stacked j frame (hmem _ htop)
          onmessage := h.onmessage
          onclose := h.onclose }
      refine hrest.run ref fun t ht => (resume_touches ref frame).fits fun hunresolved hu => ?_
      have hframe : frame ≠ .closeSession := by
        rintro rfl
        refine (h.unbound ref t ht hunresolved).2 ?_
        rw [hstack]
        exact List.mem_cons_self
      have hspared := resume_spares hframe hu rfl
      exact ⟨hspared.unbound, hspared.frames⟩
  | sessionReady =>
    show Bindings (if s.session.state = .handshaking then _ else s)
    split_ifs
    · exact h.session rfl rfl
    · exact h
  | sessionMessage message =>
    unfold Scene.step
    dsimp only
    split
    · rename_i ref hbound
      refine h.task ref fun t ht => Touches.fits (touches_self id rfl (.inl rfl)) fun _ hu => ?_
      exact absurd hbound hu.onmessage
    · exact h
  | sessionClose =>
    exact h.session (sessionClose_callbacks s.session).1 (sessionClose_callbacks s.session).2
  | sessionClosed reason =>
    show Bindings (if s.session.state = .closed then s else _)
    split_ifs
    · exact h
    · have hclosed : Bindings { s with session := { s.session with state := .closed } } :=
        h.session rfl rfl
      dsimp only
      split
      · rename_i ref hbound
        refine hclosed.run ref fun t ht => (handleSessionClose_touches ref reason).fits fun _ hu => ?_
        exact absurd hbound hu.onclose
      · exact hclosed

/-! ## What a rejected transport does to the session -/

/-- The transport whose code runs at the event. -/
def actor (s : Scene) : Event → Option ℕ
  | .start ref => some ref
  | .send ref _ => some ref
  | .drainMicrotask ref => some ref
  | .sendSettled ref _ => some ref
  | .receive ref _ => some ref
  | .receiveFailed ref => some ref
  | .close ref => some ref
  | .closeSettled ref _ => some ref
  | .resume => s.stack.head?.map Prod.fst
  | _ => none

/-- The transport has had the effect. -/
def Did (s : Scene) (ref : ℕ) (effect : Effect) : Prop :=
  ∃ t, s.transports.get? ref = some t ∧ effect ∈ t.effects

/-- The transport is closed, or is being closed. -/
def PastClose (s : Scene) (ref : ℕ) : Prop :=
  ∃ t, s.transports.get? ref = some t ∧ (t.state = .closed ∨ t.state = .closing)

theorem run_session {ref : ℕ} {t : BridgeClientTransport} (ht : s.transports.get? ref = some t)
    (f : Running → Running) : (s.run ref f).session = (f ⟨s.session, t, []⟩).session := by
  unfold Scene.run
  rw [ht]

theorem task_session {ref : ℕ} {t : BridgeClientTransport} (ht : s.transports.get? ref = some t)
    {f : Running → Running} (hf : (f ⟨s.session, t, []⟩).session = s.session) :
    (s.task ref f).session = s.session := by
  unfold Scene.task
  split_ifs
  · rw [run_session ht, hf]
  · rfl

/-- Everything but `close` leaves the session alone, and `close` closes it if it is ready. -/
theorem Bindings.step_session (h : Bindings s) {b : ℕ} (hrejected : Did s b alreadyBound)
    {e : Event} (hactor : s.actor e = some b) :
    (s.step e).session = s.session ∨
      e = .close b ∧ s.session.state = .ready ∧ ¬ PastClose s b ∧
        (s.step e).session = { s.session with state := .closing } := by
  obtain ⟨t, ht, hmem⟩ := hrejected
  have hunresolved := (h.history b t ht).rejected hmem
  obtain ⟨hunbound, hstack⟩ := h.unbound b t ht hunresolved
  have hnotIdle : t.state ≠ .idle := fun hidle => ((h.history b t ht).idle hidle).2 hmem
  cases e with
  | start ref =>
    obtain rfl := Option.some.inj hactor
    refine .inl ((run_session ht _).trans ?_)
    unfold Running.start
    rw [if_pos hnotIdle]
  | send ref message =>
    obtain rfl := Option.some.inj hactor
    exact .inl ((run_session ht _).trans (send_spares message hunbound rfl).session)
  | drainMicrotask ref =>
    obtain rfl := Option.some.inj hactor
    exact .inl (task_session ht (drainMicrotask_spares hunbound rfl).session)
  | sendSettled ref result =>
    obtain rfl := Option.some.inj hactor
    exact .inl (task_session ht (sendSettled_spares result hunbound rfl).session)
  | receive ref callback =>
    obtain rfl := Option.some.inj hactor
    exact .inl (task_session ht (receive_spares callback hunbound rfl).session)
  | receiveFailed ref =>
    obtain rfl := Option.some.inj hactor
    exact .inl (task_session ht (receiveFailed_spares hunbound rfl).session)
  | closeSettled ref result =>
    obtain rfl := Option.some.inj hactor
    exact .inl (task_session ht (closeSettled_spares result hunbound rfl).session)
  | close ref =>
    obtain rfl := Option.some.inj hactor
    have hclose := (run_session ht (Running.close ref)).trans (close_unbound hunbound rfl).2.2
    dsimp only at hclose
    split_ifs at hclose with hharm
    · refine .inr ⟨rfl, hharm.1, ?_, hclose⟩
      rintro ⟨t', ht', hpast⟩
      obtain rfl := Option.some.inj (ht'.symm.trans ht)
      exact hharm.2 hpast
    · exact .inl hclose
  | resume =>
    left
    unfold Scene.step
    dsimp only
    change s.stack.head?.map Prod.fst = some b at hactor
    cases htop : s.stack with
    | nil => rfl
    | cons top stack =>
      obtain ⟨ref, frame⟩ := top
      rw [htop] at hactor hstack
      obtain rfl : ref = b := Option.some.inj hactor
      have hframe : frame ≠ .closeSession := by
        rintro rfl
        exact hstack List.mem_cons_self
      exact (run_session (s := { s with stack := stack }) ht _).trans
        (resume_spares hframe hunbound rfl).session
  | create => cases hactor
  | sessionReady => cases hactor
  | sessionMessage message => cases hactor
  | sessionClose => cases hactor
  | sessionClosed reason => cases hactor

/-- The session of `a` is not closed and keeps the callbacks that `a` put on it. -/
structure Unharmed (a : ℕ) (s s' : Scene) : Prop where
  state : s'.session.state = s.session.state
  onmessage : s.session.onmessage = some (.transport a) →
    s'.session.onmessage = some (.transport a)
  onclose : s.session.onclose = some (.transport a) → s'.session.onclose = some (.transport a)

/-- Once `a` is bound and `b` was rejected because the session was bound, an operation on `b` does
no harm to `a`. -/
def Harmless (a b : ℕ) (s : Scene) (e : Event) : Prop :=
  Did s a .startResolved → Did s b alreadyBound → s.actor e = some b → Unharmed a s (s.step e)

/-- The rejected `b` is not closed for the first time while the session is ready. -/
def CloseWithheld (a b : ℕ) (s : Scene) (e : Event) : Prop :=
  Did s a .startResolved → Did s b alreadyBound → e = .close b → s.session.state = .ready →
    PastClose s b

theorem Bindings.harmless_iff (h : Bindings s) (a b : ℕ) (e : Event) :
    Harmless a b s e ↔ CloseWithheld a b s e := by
  constructor
  · rintro hharmless ha hb rfl hready
    by_contra hpast
    obtain ⟨t, ht, hmem⟩ := hb
    have hunbound := (h.unbound b t ht ((h.history b t ht).rejected hmem)).1
    have hclose := (run_session ht (Running.close b)).trans (close_unbound hunbound rfl).2.2
    rw [if_pos ⟨hready, fun hclosed => hpast ⟨t, ht, hclosed⟩⟩] at hclose
    have hstate := (hharmless ha ⟨t, ht, hmem⟩ rfl).state
    change (s.run b (Running.close b)).session.state = _ at hstate
    rw [hclose, hready] at hstate
    cases hstate
  · intro hwithheld ha hb hactor
    rcases h.step_session hb hactor with hsame | ⟨hclose, hready, hopen, -⟩
    · exact ⟨congrArg _ hsame, fun hcallback => (congrArg _ hsame).trans hcallback,
        fun hcallback => (congrArg _ hsame).trans hcallback⟩
    · exact absurd (hwithheld ha hb hclose hready) hopen

end Scene

/-- A rejected transport harms no run in which it is not closed while the session is ready, and
harms every other. -/
theorem rejected_harmless_iff (state : Gateway.GatewaySessionState) (onmessage onclose : Bool)
    (a b : ℕ) (es : List Event) :
    Along Scene.step (Scene.Harmless a b) (Scene.initial (.untouched state onmessage onclose)) es ↔
      Along Scene.step (Scene.CloseWithheld a b)
        (Scene.initial (.untouched state onmessage onclose)) es := by
  have hinitial := Scene.bindings_initial state onmessage onclose
  constructor
  · intro hrun
    exact hrun.of_invariant (fun _ e h _ => h.step e)
      (fun _ e h hharmless => (h.harmless_iff a b e).mp hharmless) hinitial
  · intro hrun
    exact hrun.of_invariant (fun _ e h _ => h.step e)
      (fun _ e h hwithheld => (h.harmless_iff a b e).mpr hwithheld) hinitial

/-- Two transports over a ready session: the second one is rejected and closed. -/
def rejectedAndClosed : List Event := [.create, .create, .start 0, .start 1, .close 1]

theorem rejected_harms : ¬ Along Scene.step (Scene.Harmless 0 1)
    (Scene.initial (.untouched .ready false false)) rejectedAndClosed := by
  rintro ⟨-, -, -, -, hclose, -⟩
  have hstate := (hclose ⟨_, rfl, List.mem_cons_self⟩ ⟨_, rfl, List.mem_cons_self⟩ rfl).state
  cases hstate

end Doctmcp.Bridge

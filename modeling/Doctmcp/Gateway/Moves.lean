import Mathlib.Logic.Relation
import Doctmcp.Gateway.Connections

/-! # What a step of the gateway is made of

Every step of the gateway is a chain of moves, each of which changes one thing under a guard: a
connection begins to close, a guard is acquired, a session is created. What the moves keep, the gateway
keeps over its runs. `clean` says that none of the failures occurs at which the gateway takes a session
out of its table while the connection lives on, `grants` what `beginSessionReady` may answer. -/

namespace Doctmcp.Gateway.Connections
open Doctmcp.Lib Doctmcp.Schemas Relation
open Doctmcp.Bridge (JSONRPCMessage BridgeErrorCode BridgeCloseCode CloseReason)
set_option autoImplicit false

/-! ## Moves -/

/-- The guard that a call holds. -/
def Call.held : Call → Option ℕ
  | .validating _ _ _ guard => guard
  | .binding _ guard => guard
  | .unwinding guard => guard
  | _ => none

/-- The session whose end a call is about to report. -/
def Call.reports : Call → Option GatewaySession
  | .notifying session _ => some session
  | _ => none

/-- A change of a connection that its life does not depend on. -/
structure Touch (c c' : GatewayConnection) : Prop where
  session : c'.session = c.session
  state : c'.state = c.state
  finalized : c'.finalized = c.finalized
  closeReason : c'.closeReason = c.closeReason
  ws : c.ws = true → c'.ws = true
  listed : c'.listed = true → c.listed = true

/-- A connection comes to its end. -/
structure Ends (c c' : GatewayConnection) : Prop where
  session : c'.session = c.session
  state : c'.state = .closed
  finalized : c'.finalized = true
  ws : c.ws = true → c'.ws = true
  listed : c'.listed = true → c.listed = true

/-- The end of a connection, which its session is told of. -/
def World.ends (w : World) (ref : ℕ) (f : GatewayConnection → GatewayConnection)
    (session : Option GatewaySession) (reason : CloseReason) : World :=
  let w := (w.modify ref f).emit [.enters ref .closed]
  match session with
  | none => w
  | some session => (w.emit [.onclose session reason]).push (.notifying session reason)

namespace World
variable (w : World) (ref : ℕ) (f : GatewayConnection → GatewayConnection)
  (session : Option GatewaySession) (reason : CloseReason)

@[simp] theorem connections_ends : (w.ends ref f session reason).connections =
    w.connections.modify ref f := by cases session <;> rfl
@[simp] theorem sessions_ends : (w.ends ref f session reason).sessions = w.sessions := by
  cases session <;> rfl
@[simp] theorem guards_ends : (w.ends ref f session reason).guards = w.guards := by
  cases session <;> rfl
@[simp] theorem objects_ends : (w.ends ref f session reason).objects = w.objects := by
  cases session <;> rfl
theorem log_ends : (w.ends ref f session reason).log =
    w.log ++ .enters ref .closed :: (session.map (Effect.onclose · reason)).toList := by
  cases session with
  | none => rfl
  | some session => simp [ends]
theorem calls_ends_none : (w.ends ref f none reason).calls = w.calls := rfl
theorem calls_ends_some (session : GatewaySession) : (w.ends ref f (some session) reason).calls =
    w.calls.alloc (.notifying session reason) := rfl

end World

/-- A frame with which the gateway announces that it closes a connection. -/
def BridgeMessage.isFarewell : BridgeMessage → Bool
  | .error _ _ => true
  | .close _ => true
  | _ => false

/-- What a connection that is neither in its handshake nor closing does. -/
def Tells (ref : ℕ) (c : GatewayConnection) : Effect → Prop
  | .sends ref' _ => ref' = ref
  | .pings ref' _ => ref' = ref
  | .onSession session => c.session = some session
  | .onmessage session _ => c.session = some session
  | _ => False

section
variable (options : BridgeGatewayOptions)

/-- The handshake of a hello has got as far as its guard. -/
def Guarded (log : List Effect) (ref : ℕ) (hello : BridgeHello)
    (identity : Option AuthenticatedDeviceIdentity) (guard : Option ℕ) : Prop :=
  .authenticates ref hello identity ∈ log ∧
    (options.beginSessionReady = true → .acquires identity guard ∈ log)

/-- What is known when a call comes to wait. -/
def World.Waits (w : World) : Call → Prop
  | .authenticating ref hello =>
    hello.bridgeProtocolVersion = BRIDGE_PROTOCOL_VERSION ∧
      ∃ c, w.connections.get? ref = some c ∧ c.ws = true
  | .validating ref hello identity guard => Guarded options w.log ref hello (some identity) guard
  | .binding session guard => .creates session guard ∈ w.log
  | _ => True

/-- What a session needs before it is created: a hello with its id, authenticated as its identity, and
validated under the guard where there is something to validate. -/
def Entitled (log : List Effect) (session : GatewaySession) (guard : Option ℕ) : Prop :=
  ∃ hello : BridgeHello, hello.sessionId = session.id ∧
    ((Guarded options log session.connection hello session.identity guard ∧
        (session.identity = none ∨ hello.auth = none ∨ options.validateSessionReady = false)) ∨
      ∃ identity, session.identity = some identity ∧
        .validates session.connection hello identity guard ∈ log)

/-- What `beginSessionReady` may answer for an identity. -/
abbrev Grants := Option AuthenticatedDeviceIdentity → ReadyGuard → Prop

inductive Move (clean : Prop) (grants : Grants) : World → World → Prop
  | connects (w : World) (listed : Bool) :
    Move clean grants w
      { w with connections := w.connections.alloc { GatewayConnection.new with listed := listed } }
  | touches (w : World) (ref : ℕ) (f : GatewayConnection → GatewayConnection)
    (hf : ∀ c, w.connections.get? ref = some c → Touch c (f c)) : Move clean grants w (w.modify ref f)
  | stops (w : World) : Move clean grants w { w with stopped := true }
  | leaves (w : World) (ref : ℕ) (c : GatewayConnection) (code : BridgeCloseCode)
    (frames : List BridgeMessage) (hframes : ∀ frame ∈ frames, frame.isFarewell = true)
    (hc : w.connections.get? ref = some c) (hopen : c.finalized = false) (hstate : c.state ≠ .closing) :
    Move clean grants w ((w.modify ref (·.beginClose code)).emit
      (.enters ref .closing ::
        if c.ws then frames.map (.sends ref) ++ [.closes ref code] else []))
  | ends (w : World) (ref : ℕ) (c : GatewayConnection) (f : GatewayConnection → GatewayConnection)
    (gone : Option GatewaySession) (fallback : CloseReason) (hc : w.connections.get? ref = some c)
    (hopen : c.finalized = false) (hf : Ends c (f c))
    (hgone : (gone = c.session ∧ (f c).listed = false) ∨ (gone = none ∧ c.ws = false))
    (hfallback : fallback = .REMOTE_CLOSE ∨ fallback = .closeCode .SERVER_SHUTDOWN) :
    Move clean grants w ((w.forget gone).ends ref f c.session (c.closeReason.getD fallback))
  | drops (w : World) (session : GatewaySession)
    (hclean : clean → ∃ ref c, w.connections.get? ref = some c ∧ c.session = some session ∧
      c.finalized = true ∧ c.listed = true) : Move clean grants w (w.forget (some session))
  | tells (w : World) (ref : ℕ) (c : GatewayConnection) (effect : Effect)
    (hc : w.connections.get? ref = some c) (hopen : c.finalized = false) (hclosing : c.state ≠ .closing)
    (hhandshaking : c.state ≠ .handshaking) (heffect : Tells ref c effect) :
    Move clean grants w (w.emit [effect])
  | waits (w : World) (call : Call) (hwaits : w.Waits options call) (hheld : call.held = none)
    (hreports : call.reports = none) : Move clean grants w (w.push call)
  | proceeds (w : World) (i : ℕ) (call call' : Call) (hcall : w.calls.get? i = some call)
    (hwaits : w.Waits options call') (hheld : call'.held = call.held) (hreports : call.reports = none)
    (hreports' : call'.reports = none) : Move clean grants w (w.setCall i call')
  | authenticates (w : World) (i ref : ℕ) (hello : BridgeHello)
    (result : Except (Option String) (Option AuthenticatedDeviceIdentity))
    (identity : Option AuthenticatedDeviceIdentity)
    (hcall : w.calls.get? i = some (.authenticating ref hello))
    (hresult : authenticate options hello result = .ok identity) :
    Move clean grants w (w.emit [.authenticates ref hello identity])
  | acquires (w : World) (i ref : ℕ) (hello : BridgeHello)
    (identity : Option AuthenticatedDeviceIdentity) (hgrants : grants identity .lease)
    (hcall : w.calls.get? i = some (.authenticating ref hello)) :
    Move clean grants w
      (({ w with guards := w.guards + 1 }.emit [.acquires identity (some w.guards)]).setCall i
        (.unwinding (some w.guards)))
  | declines (w : World) (i ref : ℕ) (hello : BridgeHello)
    (identity : Option AuthenticatedDeviceIdentity) (hgrants : grants identity .none)
    (hcall : w.calls.get? i = some (.authenticating ref hello)) :
    Move clean grants w ((w.emit [.acquires identity none]).setCall i (.unwinding none))
  | validates (w : World) (i ref : ℕ) (hello : BridgeHello) (identity : AuthenticatedDeviceIdentity)
    (guard : Option ℕ)
    (hcall : w.calls.get? i = some (.validating ref hello identity guard)) :
    Move clean grants w (w.emit [.validates ref hello identity guard])
  | readies (w : World) (i : ℕ) (c : GatewayConnection) (session : GatewaySession) (guard : Option ℕ)
    (now : ℤ) (hcall : w.calls.get? i = some (.unwinding guard))
    (hc : w.connections.get? session.connection = some c) (hopen : c.finalized = false)
    (hstate : c.state = .handshaking) (hfree : w.sessions.has session.id = false)
    (hobject : session.object = w.objects) (hentitled : Entitled options w.log session guard) :
    Move clean grants w ((w.createSession options session guard now).emit [.acks session guard])
  | releases (w : World) (i : ℕ) (call : Call)
    (hcall : w.calls.get? i = some call) (hreports : call.reports = none) :
    Move clean grants w ((w.setCall i .returned).release call.held)
  | reports (w : World) (i : ℕ) (session : GatewaySession) (reason : CloseReason)
    (hcall : w.calls.get? i = some (.notifying session reason)) :
    Move clean grants w ((w.setCall i .returned).emit [.onSessionClosed session reason])

abbrev Moves (clean : Prop) (grants : Grants) : World → World → Prop :=
  ReflTransGen (Move options clean grants)

/-- Which steps are clean. -/
def Clean (w : World) (event : Event × Readings) : Prop :=
  match event.1 with
  | .send _ _ => event.2.sent = true
  | .resume i answer =>
    event.2.acked = true ∧
      match w.calls.get? i, answer with
      | some (.binding _ _), .callback returns => returns = true
      | some (.stopping _), _ => False
      | _, _ => True
  | _ => True

instance (w : World) (event : Event × Readings) : Decidable (Clean w event) := by
  unfold Clean
  split
  · infer_instance
  · refine @instDecidableAnd _ _ _ ?_
    split <;> infer_instance
  · infer_instance

/-! ## The functions as chains of moves -/

variable {options} {clean : Prop} {grants : Grants}

namespace World

theorem modify_moves {w : World} {ref : ℕ} {f : GatewayConnection → GatewayConnection}
    (hf : ∀ c, w.connections.get? ref = some c → Touch c (f c)) :
    Moves options clean grants w (w.modify ref f) :=
  .single (.touches w ref f hf)

theorem setTimeoutFor_touch (timeoutMs : ℚ) (timeout : Timeout) (c : GatewayConnection) :
    Touch c (setTimeoutFor timeoutMs timeout c) :=
  ⟨rfl, rfl, rfl, rfl, id, id⟩

theorem armReadyIdleTimeout_touch (options : BridgeGatewayOptions) (c : GatewayConnection) :
    Touch c (armReadyIdleTimeout options c) := by
  unfold armReadyIdleTimeout
  split
  · exact ⟨rfl, rfl, rfl, rfl, id, id⟩
  · exact setTimeoutFor_touch _ _ c

theorem scheduleHeartbeat_touch (c : GatewayConnection) : Touch c (scheduleHeartbeat options c) :=
  ⟨rfl, rfl, rfl, rfl, id, id⟩

theorem failConnection_moves (w : World) (ref : ℕ) (errorCode : BridgeErrorCode)
    (closeCode : BridgeCloseCode) (message : String) (sent : Bool) :
    Moves options clean grants w (w.failConnection ref errorCode closeCode message sent) := by
  unfold failConnection
  cases hc : w.connections.get? ref with
  | none => exact .refl
  | some c =>
    dsimp only
    by_cases hdone : c.finalized ∨ c.state = .closing
    · rw [if_pos hdone]
    · rw [if_neg hdone]
      simp only [not_or, Bool.not_eq_true] at hdone
      have hmove : Move options clean grants w _ := .leaves w ref c closeCode
        (.error errorCode message :: if sent then [.close closeCode] else [])
        (by cases sent <;> simp [BridgeMessage.isFarewell]) hc hdone.1 hdone.2
      cases hws : c.ws <;> cases sent <;> simpa [emit, hws] using ReflTransGen.single hmove

theorem finalizeConnection_eq {w : World} {ref : ℕ} {c : GatewayConnection}
    (hc : w.connections.get? ref = some c) (hopen : c.finalized = false) (reason : CloseReason) :
    w.finalizeConnection ref reason =
      w.ends ref (fun c => { c.clearTimers with state := .closed, finalized := true }) c.session
        reason := by
  unfold finalizeConnection ends
  cases hsession : c.session <;> simp [hc, hopen, hsession]

theorem closeConnection_moves (w : World) (ref : ℕ) (code : BridgeCloseCode) (announce : Bool) :
    Moves options clean grants w (w.closeConnection ref code announce) := by
  unfold closeConnection
  cases hc : w.connections.get? ref with
  | none => exact .refl
  | some c =>
    dsimp only
    by_cases hdone : c.finalized ∨ c.state = .closing ∨ c.state = .closed
    · rw [if_pos hdone]
    · rw [if_neg hdone]
      simp only [not_or, Bool.not_eq_true] at hdone
      have hmove : Move options clean grants w _ := .leaves w ref c code
        (if announce then [.close code] else [])
        (by cases announce <;> simp [BridgeMessage.isFarewell]) hc hdone.1 hdone.2.1
      cases hws : c.ws with
      | true => cases announce <;> simpa [emit, hws] using ReflTransGen.single hmove
      | false =>
        simp only [hws, Bool.false_eq_true, if_false] at hmove ⊢
        refine (ReflTransGen.single hmove).trans ?_
        have hget : ((w.modify ref (·.beginClose code)).emit [.enters ref .closing]).connections.get?
            ref = some (c.beginClose code) := by simp [emit, modify, hc]
        have hopen : (c.beginClose code).finalized = false := hdone.1
        rw [finalizeConnection_eq hget hopen]
        exact .single (.ends _ ref (c.beginClose code) _ none .REMOTE_CLOSE hget hopen
          ⟨rfl, rfl, rfl, id, id⟩ (.inr ⟨rfl, hws⟩) (.inl rfl))

theorem unlist_moves {w : World} {ref : ℕ} {fallback : CloseReason}
    (hfallback : fallback = .REMOTE_CLOSE ∨ fallback = .closeCode .SERVER_SHUTDOWN)
    (hclean : clean → ∀ c, w.connections.get? ref = some c → c.listed = true) :
    Moves options clean grants w (w.unlist ref fallback) := by
  cases hc : w.connections.get? ref with
  | none =>
    unfold unlist
    rw [hc]
  | some c =>
    cases hopen : c.finalized with
    | false =>
      have hunlist : w.unlist ref fallback = (w.forget c.session).ends ref
          (fun c => { c.clearTimers with state := .closed, finalized := true, listed := false })
          c.session (c.closeReason.getD fallback) := by
        unfold unlist
        rw [hc]
        dsimp only
        rw [finalizeConnection_eq (c := { c with listed := false }) (by simp [hc]) hopen]
        unfold ends modify
        dsimp only
        rw [Heap.modify_modify]
        rfl
      rw [hunlist]
      exact .single (.ends w ref c _ c.session fallback hc hopen ⟨rfl, rfl, rfl, id, by simp⟩
        (.inl ⟨rfl, rfl⟩) hfallback)
    | true =>
      have hdrop : Moves options clean grants w (w.forget c.session) := by
        cases hsession : c.session with
        | none => exact .refl
        | some session =>
          exact .single (.drops w session fun h => ⟨ref, c, hc, hsession, hopen, hclean h c hc⟩)
      have hunlist : w.unlist ref fallback =
          (w.forget c.session).modify ref fun c => { c with listed := false } := by
        unfold unlist finalizeConnection
        simp [hc, hopen]
      rw [hunlist]
      exact hdrop.trans (modify_moves fun _ _ => ⟨rfl, rfl, rfl, rfl, id, by simp⟩)

/-! ### Sending -/

theorem drop_moves (w : World) (session : Option GatewaySession) (hclean : ¬ clean) :
    Moves options clean grants w (w.forget session) := by
  cases session with
  | none => exact .refl
  | some session => exact .single (.drops w session fun h => absurd h hclean)

theorem sendFrame_moves {w : World} {ref : ℕ} {message : Option BridgeMessage} {sent : Bool}
    (hclean : clean → sent = true) : Moves options clean grants w (w.sendFrame ref message sent) := by
  unfold sendFrame
  cases hc : w.connections.get? ref with
  | none => exact .refl
  | some c =>
    dsimp only
    by_cases hdone : c.finalized ∨ c.state ≠ .ready ∨ c.ws = false
    · rw [if_pos hdone]
    · rw [if_neg hdone]
      simp only [not_or, Bool.not_eq_true, Decidable.not_not] at hdone
      cases message with
      | none => exact .refl
      | some message =>
        have hsend : Moves options clean grants w (w.emit [.sends ref message]) :=
          .single (.tells w ref c _ hc hdone.1 (by simp [hdone.2.1]) (by simp [hdone.2.1]) rfl)
        cases sent with
        | true => exact hsend.trans (.single (.waits _ _ trivial rfl rfl))
        | false =>
          have hdirty : ¬ clean := fun h => by cases hclean h
          exact (hsend.trans (drop_moves _ c.session hdirty)).trans
            (closeConnection_moves _ ref .NORMAL true)

/-! ### The handshake -/

theorem get?_setCall_self {w : World} {i : ℕ} {call : Call} (hcall : w.calls.get? i = some call)
    (call' : Call) : (w.setCall i call').calls.get? i = some call' := by
  simp [setCall, hcall]

theorem unbound_moves (w : World) (session : GatewaySession) (sent : Bool) (hclean : ¬ clean) :
    Moves options clean grants w (w.unbound session sent) :=
  (drop_moves w (some session) hclean).trans (failConnection_moves _ _ _ _ _ _)

theorem bound_moves {w : World} {i : ℕ} {session : GatewaySession} {guard : Option ℕ} (call : Call)
    (hcall : w.calls.get? i = some call) (hheld : call.held = guard)
    (hreports : call.reports = none) : Moves options clean grants w (w.bound options i session guard) := by
  have hmove : Move options clean grants _ _ := .releases
    (w.modify session.connection (scheduleHeartbeat options)) i call hcall hreports
  rw [hheld] at hmove
  exact (modify_moves fun c _ => scheduleHeartbeat_touch c).tail hmove

/-- The session that `becomeReady` creates. -/
theorem becomeReady_moves {w : World} {i ref : ℕ} {hello : BridgeHello}
    {identity : Option AuthenticatedDeviceIdentity} {guard : Option ℕ} {r : Readings}
    (hcall : w.calls.get? i = some (.unwinding guard))
    (hentitled : ∀ object, Entitled options w.log ⟨⟨object, identity⟩, ref, hello.sessionId⟩ guard)
    (hclean : clean → r.acked = true) :
    Moves options clean grants w (w.becomeReady options i ref hello identity guard r) := by
  unfold becomeReady
  cases hc : w.connections.get? ref with
  | none => exact .refl
  | some c =>
    dsimp only
    by_cases hlate : c.finalized ∨ c.state ≠ .handshaking
    · rw [if_pos hlate]
      exact .single (.releases w i (.unwinding guard) hcall rfl)
    · rw [if_neg hlate]
      simp only [not_or, Bool.not_eq_true, Decidable.not_not] at hlate
      by_cases hhas : w.sessions.has hello.sessionId
      · rw [if_pos hhas]
        exact failConnection_moves w _ _ _ _ _
      · rw [if_neg hhas]
        simp only [Bool.not_eq_true] at hhas
        let session : GatewaySession :=
          { object := w.objects, identity, connection := ref, id := hello.sessionId }
        have hready : Move options clean grants w _ := .readies w i c session guard r.now
          hcall hc hlate.1 hlate.2 hhas rfl (hentitled w.objects)
        have hget : ∃ c', ((w.createSession options session guard r.now).emit
            [.acks session guard]).connections.get? ref = some c' ∧ c'.session = some session ∧
              c'.finalized = false ∧ c'.state = .ready := by
          refine ⟨_, by simp [createSession, emit, modify, session, hc]; rfl, ?_⟩
          have htouch := armReadyIdleTimeout_touch options
            { c with session := some session, timeout := none, state := .ready,
                     lastHeartbeatAtMs := r.now }
          exact ⟨htouch.session, htouch.finalized.trans hlate.1, htouch.state⟩
        obtain ⟨c', hc', hsession, hfinalized, hstate⟩ := hget
        refine (ReflTransGen.single hready).trans ?_
        by_cases hacked : r.acked = false
        · rw [if_pos hacked]
          exact unbound_moves _ session r.sent fun h => by rw [hclean h] at hacked; cases hacked
        · rw [if_neg hacked]
          by_cases hon : options.onSession
          · rw [if_pos hon]
            have hcreated : .creates session guard ∈
                ((w.createSession options session guard r.now).emit [.acks session guard]).log := by
              simp [createSession]
            refine (ReflTransGen.single (.proceeds _ i _ (.binding session guard) hcall hcreated rfl rfl
              rfl)).tail ?_
            exact .tells _ ref c' (.onSession session) hc' hfinalized (by simp [hstate]) (by simp [hstate])
              hsession
          · rw [if_neg hon]
            exact bound_moves (.unwinding guard) hcall rfl rfl

theorem validate_moves {w : World} {i ref : ℕ} {hello : BridgeHello}
    {identity : Option AuthenticatedDeviceIdentity} {guard : Option ℕ} {r : Readings} {call : Call}
    (hcall : w.calls.get? i = some call)
    (hguarded : Guarded options w.log ref hello identity guard) (hclean : clean → r.acked = true) :
    Moves options clean grants (w.setCall i (.unwinding guard))
      (w.validate options i ref hello identity guard r) := by
  have hself := get?_setCall_self hcall (.unwinding guard)
  unfold validate
  dsimp only
  cases identity with
  | none =>
    exact becomeReady_moves hself (fun object => ⟨hello, rfl, .inl ⟨hguarded, .inl rfl⟩⟩) hclean
  | some identity =>
    dsimp only
    by_cases hneeded : hello.auth.isSome ∧ options.validateSessionReady
    · rw [if_pos hneeded]
      exact .single (.proceeds _ i _ _ hself hguarded rfl rfl rfl)
    · rw [if_neg hneeded]
      refine becomeReady_moves hself (fun object => ⟨hello, rfl, .inl ⟨hguarded, .inr ?_⟩⟩) hclean
      cases hauth : hello.auth with
      | none => exact .inl rfl
      | some auth =>
        right
        simpa [hauth] using hneeded

/-- A call that holds nothing gives up. -/
theorem fail_moves {w : World} {i : ℕ} {call : Call} (hcall : w.calls.get? i = some call)
    (hheld : call.held = none) (hreports : call.reports = none) (ref : ℕ) (errorCode : BridgeErrorCode)
    (closeCode : BridgeCloseCode) (message : String) (sent : Bool) :
    Moves options clean grants w
      ((w.setCall i .returned).failConnection ref errorCode closeCode message sent) :=
  .trans (.single (.proceeds w i call .returned hcall trivial hheld.symm hreports rfl))
    (failConnection_moves _ _ _ _ _ _)

theorem authenticated_moves {w : World} {i ref : ℕ} {hello : BridgeHello}
    {result : Except (Option String) (Option AuthenticatedDeviceIdentity)} {r : Readings}
    (hcall : w.calls.get? i = some (.authenticating ref hello))
    (hgrants : ∀ identity, authenticate options hello result = .ok identity → grants identity r.guard)
    (hclean : clean → r.acked = true) :
    Moves options clean grants w (w.authenticated options i ref hello result r) := by
  unfold authenticated
  cases hresult : authenticate options hello result with
  | error code => exact fail_moves hcall rfl rfl _ _ _ _ _
  | ok identity =>
    dsimp only
    cases hc : w.connections.get? ref with
    | none => exact .refl
    | some c =>
      dsimp only
      have hauthenticates : Moves options clean grants w (w.emit [.authenticates ref hello identity]) :=
        .single (.authenticates w i ref hello result identity hcall hresult)
      refine hauthenticates.trans ?_
      have hlog : .authenticates ref hello identity ∈ (w.emit [.authenticates ref hello identity]).log := by
        simp [emit]
      replace hcall : (w.emit [.authenticates ref hello identity]).calls.get? i =
        some (.authenticating ref hello) := hcall
      generalize w.emit [.authenticates ref hello identity] = w at hlog hcall ⊢
      by_cases hlate : c.finalized ∨ c.state ≠ .handshaking
      · rw [if_pos hlate]
        exact .single (.proceeds w i _ .returned hcall trivial rfl rfl rfl)
      · rw [if_neg hlate]
        by_cases hhas : w.sessions.has hello.sessionId
        · rw [if_pos hhas]
          exact fail_moves hcall rfl rfl _ _ _ _ _
        · rw [if_neg hhas]
          by_cases hbegin : options.beginSessionReady = false
          · rw [if_pos hbegin]
            exact (ReflTransGen.single (.proceeds w i _ (.unwinding none) hcall trivial rfl rfl rfl)).trans
              (validate_moves hcall ⟨hlog, fun h => by rw [hbegin] at h; cases h⟩ hclean)
          · rw [if_neg hbegin]
            have hgranted := hgrants identity hresult
            cases hguard : r.guard with
            | throws => exact fail_moves hcall rfl rfl _ _ _ _ _
            | none =>
              rw [hguard] at hgranted
              exact (ReflTransGen.single (.declines w i ref hello identity hgranted hcall)).trans
                (validate_moves (w := w.emit [.acquires identity none]) hcall
                  ⟨by simp [hlog], fun _ => by simp⟩ hclean)
            | lease =>
              rw [hguard] at hgranted
              exact (ReflTransGen.single (.acquires w i ref hello identity hgranted hcall)).trans
                (validate_moves (w := { w with guards := w.guards + 1 }.emit
                  [.acquires identity (some w.guards)]) hcall
                  ⟨by simp [hlog], fun _ => by simp⟩ hclean)

theorem validated_moves {w : World} {i ref : ℕ} {hello : BridgeHello}
    {identity : AuthenticatedDeviceIdentity} {guard : Option ℕ} {valid : Bool} {r : Readings}
    (hcall : w.calls.get? i = some (.validating ref hello identity guard))
    (hclean : clean → r.acked = true) :
    Moves options clean grants w (w.validated options i ref hello identity guard valid r) := by
  unfold validated
  dsimp only
  cases valid with
  | true =>
    refine (ReflTransGen.single (.validates w i ref hello identity guard hcall)).trans ?_
    refine (ReflTransGen.single (.proceeds _ i _ (.unwinding guard) hcall trivial rfl rfl rfl)).trans ?_
    exact becomeReady_moves (get?_setCall_self hcall _)
      (fun object => ⟨hello, rfl, .inr ⟨identity, rfl, by simp [emit, setCall]⟩⟩) hclean
  | false =>
    exact (ReflTransGen.single (.proceeds w i _ (.unwinding guard) hcall trivial rfl rfl rfl)).trans
      (failConnection_moves _ _ _ _ _ _)

theorem handleMessage_moves (w : World) (ref : ℕ) (frame : Except FrameError BridgeMessage) (sent : Bool)
    (hopen : w.Open ref) : Moves options clean grants w (w.handleMessage options ref frame sent) := by
  obtain ⟨c, hc, -, hws⟩ := hopen
  unfold handleMessage
  rw [hc]
  dsimp only
  by_cases hdone : c.finalized ∨ c.state = .closing
  · rw [if_pos hdone]
  · rw [if_neg hdone]
    simp only [not_or, Bool.not_eq_true] at hdone
    cases frame with
    | error error => exact failConnection_moves _ _ _ _ _ _
    | ok message =>
      dsimp only
      by_cases hstate : c.state = .handshaking
      · rw [if_pos hstate]
        cases message with
        | hello hello =>
          dsimp only
          by_cases hversion : hello.bridgeProtocolVersion = BRIDGE_PROTOCOL_VERSION
          · rw [if_neg (not_not.mpr hversion)]
            by_cases hhas : w.sessions.has hello.sessionId
            · rw [if_pos hhas]
              exact failConnection_moves _ _ _ _ _ _
            · rw [if_neg hhas]
              exact .single (.waits w _ ⟨hversion, c, hc, hws⟩ rfl rfl)
          · rw [if_pos hversion]
            exact failConnection_moves _ _ _ _ _ _
        | _ => exact failConnection_moves _ _ _ _ _ _
      · rw [if_neg hstate]
        cases message with
        | close code => exact closeConnection_moves _ _ _ _
        | mcpMessage payload =>
          have harm : Moves options clean grants w (w.modify ref (armReadyIdleTimeout options)) :=
            modify_moves fun c _ => armReadyIdleTimeout_touch options c
          refine harm.trans ?_
          cases hsession : c.session with
          | none => exact .refl
          | some session =>
            have htouch := armReadyIdleTimeout_touch options c
            refine (ReflTransGen.single (.tells _ ref (armReadyIdleTimeout options c)
              (.onmessage session payload) (by simp [modify, hc]) (htouch.finalized.trans hdone.1) ?_ ?_
              (htouch.session.trans hsession))).tail (.waits _ _ trivial rfl rfl)
            · rw [htouch.state]
              exact hdone.2
            · rw [htouch.state]
              exact hstate
        | _ => exact failConnection_moves _ _ _ _ _ _

/-! ### The heartbeat -/

theorem onHeartbeatTimer_moves (w : World) (ref : ℕ) (r : Readings) :
    Moves options clean grants w (w.onHeartbeatTimer options ref r) := by
  unfold onHeartbeatTimer
  cases hc : w.connections.get? ref with
  | none => exact .refl
  | some c =>
    dsimp only
    by_cases hset : c.heartbeatTimer = false
    · rw [if_pos hset]
    · rw [if_neg hset]
      have hclear : Moves options clean grants w (w.modify ref fun c => { c with heartbeatTimer := false }) :=
        modify_moves fun _ _ => ⟨rfl, rfl, rfl, rfl, id, id⟩
      refine hclear.trans ?_
      replace hc : (w.modify ref fun c => { c with heartbeatTimer := false }).connections.get? ref =
        some { c with heartbeatTimer := false } := by simp [modify, hc]
      generalize (w.modify ref fun c => { c with heartbeatTimer := false }) = w at hc ⊢
      by_cases hdone : c.finalized ∨ c.state ≠ .ready ∨ c.ws = false ∨ c.session = none
      · rw [if_pos hdone]
      · rw [if_neg hdone]
        simp only [not_or, Bool.not_eq_true, Decidable.not_not] at hdone
        by_cases hlate : options.heartbeat.heartbeatTimeoutMs ≤ (r.now - c.lastHeartbeatAtMs : ℤ)
        · rw [if_pos hlate]
          exact failConnection_moves _ _ _ _ _ _
        · rw [if_neg hlate]
          have hschedule : ∀ w, Moves options clean grants w (w.modify ref (scheduleHeartbeat options)) :=
            fun w => modify_moves fun c _ => scheduleHeartbeat_touch c
          by_cases hping : c.heartbeatNonce = none ∧ c.heartbeatValidating = false
          · rw [if_pos hping]
            have hnonce : Moves options clean grants w
                (w.modify ref fun c => { c with heartbeatNonce := some r.nonce }) :=
              modify_moves fun _ _ => ⟨rfl, rfl, rfl, rfl, id, id⟩
            refine hnonce.trans ?_
            refine (ReflTransGen.single (.tells _ ref
              { c with heartbeatTimer := false, heartbeatNonce := some r.nonce } (.pings ref r.nonce)
              (by simp [modify, hc]) hdone.1 (by simp [hdone.2.1]) (by simp [hdone.2.1]) rfl)).trans ?_
            cases r.pinged with
            | true => exact hschedule _
            | false => exact failConnection_moves _ _ _ _ _ _
          · rw [if_neg hping]
            exact hschedule _

theorem handlePong_moves (w : World) (ref : ℕ) (payload : List UInt8) :
    Moves options clean grants w (w.handlePong ref payload) := by
  unfold handlePong
  cases w.connections.get? ref with
  | none => exact .refl
  | some c =>
    dsimp only
    cases Heartbeat.handlePong c.heartbeat payload with
    | none => exact .refl
    | some validation => exact modify_moves fun _ _ => ⟨rfl, rfl, rfl, rfl, id, id⟩

theorem heartbeatSettled_moves (w : World) (ref : ℕ) (valid : Bool) (r : Readings) :
    Moves options clean grants w (w.heartbeatSettled ref valid r) := by
  unfold heartbeatSettled
  cases w.connections.get? ref with
  | none => exact .refl
  | some c =>
    dsimp only
    cases c.validations with
    | nil => exact .refl
    | cons validation others =>
      dsimp only
      have hsettle : Moves options clean grants w (w.modify ref fun c => { c with validations := others }) :=
        modify_moves fun _ _ => ⟨rfl, rfl, rfl, rfl, id, id⟩
      refine hsettle.trans ?_
      cases valid with
      | true =>
        simp only [if_true]
        split
        · exact .refl
        · exact modify_moves fun _ _ => ⟨rfl, rfl, rfl, rfl, id, id⟩
      | false =>
        have hreset : Moves options clean grants (w.modify ref fun c => { c with validations := others })
            ((w.modify ref fun c => { c with validations := others }).modify ref
              fun c => { c with heartbeatValidating := false }) :=
          modify_moves fun _ _ => ⟨rfl, rfl, rfl, rfl, id, id⟩
        exact hreset.trans (failConnection_moves _ _ _ _ _ _)

/-! ### The server -/

theorem onOpen_moves (w : World) (ref : ℕ) : Moves options clean grants w (w.onOpen options ref) := by
  unfold onOpen
  cases w.connections.get? ref with
  | none => exact .refl
  | some c =>
    dsimp only
    split
    · exact .refl
    · exact modify_moves fun _ _ => ⟨rfl, rfl, rfl, rfl, fun _ => rfl, id⟩

theorem onTimeout_moves (w : World) (ref : ℕ) (sent : Bool) :
    Moves options clean grants w (w.onTimeout ref sent) := by
  unfold onTimeout
  cases w.connections.get? ref with
  | none => exact .refl
  | some c =>
    dsimp only
    cases c.timeout with
    | none => exact .refl
    | some timeout =>
      have hclear : Moves options clean grants w (w.modify ref fun c => { c with timeout := none }) :=
        modify_moves fun _ _ => ⟨rfl, rfl, rfl, rfl, id, id⟩
      exact hclear.trans (failConnection_moves _ _ _ _ _ _)

theorem foldl_closeConnection_moves (refs : List ℕ) (code : BridgeCloseCode) (announce : Bool)
    (w : World) :
    Moves options clean grants w
      (refs.foldl (fun (w : World) ref => w.closeConnection ref code announce) w) := by
  induction refs generalizing w with
  | nil => exact .refl
  | cons ref refs ih => exact (closeConnection_moves w ref code announce).trans (ih _)

theorem stop_moves (w : World) : Moves options clean grants w w.stop := by
  unfold stop
  split
  · exact .refl
  · exact ((ReflTransGen.single (.stops w)).trans (foldl_closeConnection_moves _ _ _ _)).tail
      (.waits _ _ trivial rfl rfl)

theorem resume_moves {w : World} {i : ℕ} {answer : Answer} {r : Readings}
    (hgrants : ∀ ref hello result identity, answer = .identity result →
      w.calls.get? i = some (.authenticating ref hello) →
      authenticate options hello result = .ok identity → grants identity r.guard)
    (hclean : clean → Clean w (.resume i answer, r)) :
    Moves options clean grants w (w.resume options i answer r) := by
  unfold resume
  split
  case h_1 ref hello result hcall =>
    exact authenticated_moves hcall (fun identity => hgrants ref hello result identity rfl hcall) fun h => (hclean h).1
  case h_2 ref hello identity guard valid hcall =>
    exact validated_moves hcall fun h => (hclean h).1
  case h_3 session guard returns hcall =>
    cases returns with
    | true => exact bound_moves _ hcall rfl rfl
    | false =>
      have hdirty : ¬ clean := by
        intro h
        have hreturns := (hclean h).2
        simp [hcall] at hreturns
      exact (ReflTransGen.single (.proceeds w i _ (.unwinding guard) hcall trivial rfl rfl rfl)).trans
        (unbound_moves _ session r.sent hdirty)
  case h_4 guard hcall => exact .single (.releases w i _ hcall rfl)
  case h_5 ref returns hcall =>
    cases returns with
    | true => exact .single (.proceeds w i _ .returned hcall trivial rfl rfl rfl)
    | false => exact fail_moves hcall rfl rfl _ _ _ _ _
  case h_6 session reason returns hcall => exact .single (.reports w i session reason hcall)
  case h_7 ref hcall =>
    exact (ReflTransGen.single (.proceeds w i _ .returned hcall trivial rfl rfl rfl)).trans
      (modify_moves fun c _ => armReadyIdleTimeout_touch options c)
  case h_8 hcall => exact .single (.proceeds w i _ .returned hcall trivial rfl rfl rfl)
  case h_9 ref rest hcall =>
    exact (ReflTransGen.single (.proceeds w i _ (.stopping rest) hcall trivial rfl rfl rfl)).trans
      (unlist_moves (.inr rfl) fun h => by
        have hstops := (hclean h).2
        simp [hcall] at hstops)
  case h_10 => exact .refl

end World

/-- Every step of the gateway is a chain of moves. -/
theorem step_moves {w : World} {event : Event × Readings} (hclean : clean → Clean w event)
    (hgrants : ∀ i ref hello result identity, event.1 = .resume i (.identity result) →
      w.calls.get? i = some (.authenticating ref hello) →
      authenticate options hello result = .ok identity → grants identity event.2.guard) :
    Moves options clean grants w (w.step options event) := by
  obtain ⟨event, r⟩ := event
  cases event with
  | upgrade succeeds => exact .single (.connects w succeeds)
  | opened ref => exact w.onOpen_moves ref
  | message ref frame =>
    unfold World.step
    dsimp only
    split
    case isTrue hopen => exact w.handleMessage_moves ref frame r.sent hopen
    case isFalse => exact .refl
  | pong ref payload =>
    unfold World.step
    dsimp only
    split
    · exact w.handlePong_moves ref payload
    · exact .refl
  | closed ref =>
    unfold World.step
    dsimp only
    split
    case isTrue hopen =>
      obtain ⟨c, hc, hlisted, -⟩ := hopen
      refine World.unlist_moves (.inl rfl) fun _ c' hc' => ?_
      rw [hc] at hc'
      cases hc'
      exact hlisted
    case isFalse => exact .refl
  | timeout ref => exact w.onTimeout_moves ref r.sent
  | heartbeat ref => exact w.onHeartbeatTimer_moves ref r
  | heartbeatSettled ref valid => exact w.heartbeatSettled_moves ref valid r
  | send ref message => exact World.sendFrame_moves fun h => hclean h
  | close ref code =>
    unfold World.step
    dsimp only
    split
    · exact .refl
    · exact w.closeConnection_moves ref code true
  | resume i answer =>
    refine World.resume_moves (fun ref hello result identity hanswer => ?_) hclean
    exact hgrants i ref hello result identity (hanswer ▸ rfl)
  | stop => exact w.stop_moves

theorem keeps_of_moves {P : World → Prop}
    (hmove : ∀ w w', Move options clean grants w w' → P w → P w') {w w' : World}
    (h : Moves options clean grants w w') (hw : P w) : P w' := by
  induction h with
  | refl => exact hw
  | tail _ hlast ih => exact hmove _ _ hlast ih

/-- What every move keeps, every run keeps. -/
theorem runFrom_moves {P : World → Prop}
    (hmove : ∀ w w', Move options False (fun _ _ => True) w w' → P w → P w') (hnew : P World.new)
    (events : List (Event × Readings)) : P (runFrom (World.step options) World.new events) :=
  runFrom_invariant (fun _ _ hw => keeps_of_moves hmove (step_moves False.elim fun _ _ _ _ _ _ _ _ => trivial) hw)
    hnew events

/-- What every clean move keeps, every run of clean steps keeps. -/
theorem Along.moves {P : World → Prop}
    (hmove : ∀ w w', Move options True (fun _ _ => True) w w' → P w → P w') (hnew : P World.new)
    {events : List (Event × Readings)} (hclean : Along (World.step options) Clean World.new events) :
    P (runFrom (World.step options) World.new events) :=
  Along.invariant (fun _ _ hw h =>
    keeps_of_moves hmove (step_moves (fun _ => h) fun _ _ _ _ _ _ _ _ => trivial) hw) hnew hclean

end

end Doctmcp.Gateway.Connections

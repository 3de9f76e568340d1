import Doctmcp.Agent.Wakeup

/-! # The callbacks of the server transport

Whatever the socket, the timers and the consumer do, `start` settles, `onclose` and `onerror` are called
once, what was accepted is handed over in order and settled, and what arrives is given to the consumer in
order while the transport is ready (`Steady`, `Keeps`, `Takes`). -/

namespace Doctmcp.Agent
open Doctmcp.Lib Doctmcp.Bridge
set_option autoImplicit false

/-! ## Reading the history -/

namespace Effect

def isStartRejected : Effect → Bool
  | .startRejected _ => true
  | _ => false

def isError : Effect → Bool
  | .onerror _ => true
  | _ => false

def payload : Effect → Option JSONRPCMessage
  | .onmessage payload => some payload
  | _ => none

/-- An effect that is none of those that are counted. -/
structure Plain (effect : Effect) : Prop where
  onclose : effect ≠ .onclose
  onerror : effect.isError = false
  rejected : effect.isStartRejected = false
  payload : effect.payload = none

end Effect

/-- The message that a frame has for the consumer. -/
def Incoming.payload : Incoming → Option JSONRPCMessage
  | .frame data => match parseFrame data with
    | .ok (.mcpMessage payload) => some payload
    | _ => none
  | .socketClosed => none

def Event.isStart : Event → Bool
  | .start _ => true
  | _ => false

/-- The message that arrives with the event. -/
def Event.payload : Event → Option JSONRPCMessage
  | .socketMessage data => Incoming.payload (.frame data)
  | _ => none

namespace BridgeServerTransport
open Running

/-- The calls of `start`: settled, waiting, or refused at once. -/
def calls (t : BridgeServerTransport) : ℕ :=
  t.started.length + t.startOpen.toNat + t.effects.countP Effect.isStartRejected

/-- The messages that the consumer was given, newest first. -/
def heard (t : BridgeServerTransport) : List JSONRPCMessage := t.effects.filterMap Effect.payload

/-! ## What always holds -/

/-- The queue, the promises and the callbacks. -/
structure Steady (t : BridgeServerTransport) : Prop where
  outbox : t.outbox.Valid t.currentSend
  within : t.outbox.Within BRIDGE_MAX_QUEUED_MESSAGES BRIDGE_MAX_QUEUED_BYTES
  queued : t.outbox.queue ≠ [] → t.state = .ready
  /-- The promise of `start` is settled once. -/
  once : t.started.length + t.startOpen.toNat ≤ 1
  idle : t.state = .idle → t.started = [] ∧ t.startOpen = false
  waiting : t.startOpen = true →
    t.state = .connecting ∨ t.state = .handshaking ∨ t.state = .closing
  closed : t.callbackClosed = true ↔ t.state = .closed
  onclose : t.effects.count .onclose = t.callbackClosed.toNat
  onerror : t.effects.countP Effect.isError = t.errorReported.toNat

namespace Steady
variable {t : BridgeServerTransport}

theorem queue_nil (h : Steady t) (hstate : t.state ≠ .ready) : t.outbox.queue = [] :=
  not_not.mp (mt h.queued hstate)

theorem callbackClosed_eq_false (h : Steady t) (hopen : t.state ≠ .closed) : t.callbackClosed = false :=
  Bool.eq_false_iff.mpr (mt h.closed.mp hopen)

theorem closed_of (h : Steady t) {state : BridgeTransportState} (hopen : t.state ≠ .closed)
    (hstate : state ≠ .closed) : t.callbackClosed = true ↔ state = .closed :=
  iff_of_false (mt h.closed.mp hopen) hstate

end Steady

/-- What every function does to the transport, with the number of calls of `start` that it takes. -/
structure Keeps (n : ℕ) (t t' : BridgeServerTransport) : Prop where
  steady : Steady t'
  calls : t'.calls = t.calls + n
  sessionId : t'.sessionId = t.sessionId
  resolved : .ok () ∈ t'.started → .ok () ∈ t.started
  heard : t'.heard = t.heard
  chain : t'.incomingChain = t.incomingChain

variable {t t' t'' : BridgeServerTransport}

theorem steady_new (sessionId : String) (handshakeTimeoutMs : ℤ) :
    Steady (new sessionId handshakeTimeoutMs) where
  outbox := Outbox.valid_empty
  within := Outbox.within_empty _ _
  queued h := absurd rfl h
  once := Nat.zero_le _
  idle _ := ⟨rfl, rfl⟩
  waiting h := by cases h
  closed := ⟨fun h => (by cases h), fun h => (by cases h)⟩
  onclose := rfl
  onerror := rfl

theorem Keeps.refl (h : Steady t) : Keeps 0 t t := ⟨h, rfl, rfl, id, rfl, rfl⟩

theorem Keeps.trans {n : ℕ} (h : Keeps n t t') (h' : Keeps 0 t' t'') : Keeps n t t'' where
  steady := h'.steady
  calls := h'.calls.trans h.calls
  sessionId := h'.sessionId.trans h.sessionId
  resolved := h.resolved ∘ h'.resolved
  heard := h'.heard.trans h.heard
  chain := h'.chain.trans h.chain

/-- The transport without what nothing here depends on. -/
def core (t : BridgeServerTransport) : BridgeServerTransport :=
  { t with
    handshakeTimeoutMs := 0
    socket := none
    listening := false
    handshakeTimer := false
    closeOpen := false
    nativeDrainBaseline := 0
    nativeDrainTimer := false
    drainScheduled := false
    draining := false
    intentionalClose := false
    remoteClose := false }

theorem Steady.of_core (h : Steady t) (hcore : t'.core = t.core) : Steady t' := by
  have hsteady : Steady t.core := ⟨h.outbox, h.within, h.queued, h.once, h.idle, h.waiting, h.closed,
    h.onclose, h.onerror⟩
  rw [← hcore] at hsteady
  exact ⟨hsteady.outbox, hsteady.within, hsteady.queued, hsteady.once, hsteady.idle, hsteady.waiting,
    hsteady.closed, hsteady.onclose, hsteady.onerror⟩

theorem keeps_of_core (h : Steady t) (hcore : t'.core = t.core) : Keeps 0 t t' where
  steady := h.of_core hcore
  calls := by
    show t'.core.calls = t.core.calls
    rw [hcore]
  sessionId := congrArg (·.sessionId) hcore
  resolved := by
    have hstarted : t'.started = t.started := congrArg (·.started) hcore
    rw [hstarted]
    exact id
  heard := by
    show t'.core.heard = t.core.heard
    rw [hcore]
  chain := congrArg (·.incomingChain) hcore

/-! ## The functions of the transport -/

theorem plain_socketClose (code : BridgeCloseCode) : (Effect.socketClose code).Plain :=
  ⟨by simp, rfl, rfl, rfl⟩

theorem plain_sendClose (code : BridgeCloseCode) : (Effect.sendClose code).Plain :=
  ⟨by simp, rfl, rfl, rfl⟩

theorem plain_sendError (code : BridgeErrorCode) : (Effect.sendError code).Plain :=
  ⟨by simp, rfl, rfl, rfl⟩

theorem plain_sendHello (sessionId : String) : (Effect.sendHello sessionId).Plain :=
  ⟨by simp, rfl, rfl, rfl⟩

theorem plain_sendRejected (error : Option BridgeServerTransportError) :
    (Effect.sendRejected error).Plain :=
  ⟨by simp, rfl, rfl, rfl⟩

theorem emit_keeps (h : Steady t) {effect : Effect} (hplain : effect.Plain) :
    Keeps 0 t (t.emit effect) where
  steady :=
    { h with
      onclose := (List.count_cons_of_ne hplain.onclose).trans h.onclose
      onerror := by
        show (effect :: t.effects).countP _ = _
        rw [List.countP_cons_of_neg (by rw [hplain.onerror]; exact Bool.false_ne_true)]
        exact h.onerror }
  calls := by
    show t.started.length + t.startOpen.toNat + (effect :: t.effects).countP _ = _
    rw [List.countP_cons_of_neg (by rw [hplain.rejected]; exact Bool.false_ne_true)]
    rfl
  sessionId := rfl
  resolved := id
  heard := List.filterMap_cons_none hplain.payload
  chain := rfl

theorem rejectQueued_queue (h : Steady t) (error : BridgeServerTransportError) :
    (rejectQueued error t).outbox.queue = [] := h.outbox.rejectAll_queue _

theorem rejectQueued_keeps (h : Steady t) (error : BridgeServerTransportError) :
    Keeps 0 t (rejectQueued error t) where
  steady :=
    { h with
      outbox := h.outbox.rejectAll _
      within := h.outbox.rejectAll_within _
      queued := fun hqueue => absurd (rejectQueued_queue h error) hqueue }
  calls := rfl
  sessionId := rfl
  resolved := id
  heard := rfl
  chain := rfl

theorem rejectStart_startOpen (error : BridgeServerTransportError) (t : BridgeServerTransport) :
    (rejectStart error t).startOpen = false := by
  unfold rejectStart
  split_ifs with hopen
  · rfl
  · exact Bool.eq_false_iff.mpr hopen

@[simp] theorem rejectStart_outbox (error : BridgeServerTransportError) (t : BridgeServerTransport) :
    (rejectStart error t).outbox = t.outbox := by
  unfold rejectStart
  split_ifs
  · rfl
  · rfl

theorem rejectStart_setState (error : BridgeServerTransportError) (t : BridgeServerTransport)
    (state : BridgeTransportState) :
    rejectStart error { t with state := state } = { rejectStart error t with state := state } := by
  unfold rejectStart
  by_cases hopen : t.startOpen = true
  · simp only [if_pos hopen]
  · simp only [if_neg hopen]

theorem rejectStart_keeps (h : Steady t) (error : BridgeServerTransportError) :
    Keeps 0 t (rejectStart error t) := by
  unfold rejectStart
  split_ifs with hopen
  · have honce := h.once
    rw [hopen, Bool.toNat_true] at honce
    refine ⟨{ h with
      once := ?_
      idle := fun hidle => ?_
      waiting := fun hfalse => (by cases hfalse) }, ?_, rfl, fun hmem => ?_, rfl, rfl⟩
    · show (Except.error error :: t.started).length + 0 ≤ 1
      rw [List.length_cons]
      omega
    · have hfalse := (h.idle hidle).2
      rw [hopen] at hfalse
      cases hfalse
    · unfold calls
      rw [hopen]
      rfl
    · exact (List.mem_cons.mp hmem).resolve_left (by intro hsame; cases hsame)
  · exact .refl h

theorem reportError_keeps (h : Steady t) (error : BridgeServerTransportError) :
    Keeps 0 t (reportError error t) := by
  unfold reportError
  split_ifs with hreported
  · exact .refl h
  · have hcount := h.onerror
    rw [Bool.eq_false_iff.mpr hreported] at hcount
    refine ⟨{ h with
      onclose := (List.count_cons_of_ne (by intro hsame; cases hsame)).trans h.onclose
      onerror := ?_ }, rfl, rfl, id, rfl, rfl⟩
    show (Effect.onerror error :: t.effects).countP _ = _
    rw [List.countP_cons_of_pos rfl, hcount]
    rfl

/-- With nothing queued the transport may leave its state for good. -/
theorem leave_keeps (h : Steady t) (state : BridgeTransportState) (hopen : t.state ≠ .closed)
    (hqueue : t.outbox.queue = [])
    (hstate : state = .closing ∨ state = .failed ∧ t.startOpen = false) :
    Keeps 0 t { t with state := state } where
  steady :=
    { h with
      queued := fun hne => absurd hqueue hne
      idle := fun hidle => by
        change state = .idle at hidle
        simp [hidle] at hstate
      waiting := fun hstart => by
        rcases hstate with hclosing | ⟨-, hfalse⟩
        · exact .inr (.inr hclosing)
        · exact absurd hstart (Bool.eq_false_iff.mp hfalse)
      closed := h.closed_of hopen fun hclosed => by
        change state = .closed at hclosed
        simp [hclosed] at hstate }
  calls := rfl
  sessionId := rfl
  resolved := id
  heard := rfl
  chain := rfl

theorem finalize_keeps (h : Steady t) (hopen : t.state ≠ .closed) (hqueue : t.outbox.queue = [])
    (hstart : t.startOpen = false) :
    Keeps 0 t { t with listening := false, state := .closed, closeOpen := false }.notifyClosed := by
  have hcallback : t.callbackClosed = false := h.callbackClosed_eq_false hopen
  have hnotified : { t with listening := false, state := .closed, closeOpen := false }.notifyClosed =
      { t with
        listening := false
        state := .closed
        closeOpen := false
        callbackClosed := true
        effects := .onclose :: t.effects } := by
    show (if t.callbackClosed = true then _ else _) = _
    rw [hcallback]
    rfl
  have honclose := h.onclose
  rw [hcallback] at honclose
  rw [hnotified]
  refine ⟨{ h with
    queued := fun hne => absurd hqueue hne
    idle := fun hfalse => (by cases hfalse)
    waiting := fun hfalse => absurd hfalse (Bool.eq_false_iff.mp hstart)
    closed := ⟨fun _ => rfl, fun _ => rfl⟩
    onclose := ?_ }, rfl, rfl, id, rfl, rfl⟩
  show (Effect.onclose :: t.effects).count .onclose = 1
  rw [List.count_cons_self, honclose]
  rfl

theorem finalizeClose_keeps (h : Steady t) : Keeps 0 t (finalizeClose t) := by
  unfold finalizeClose
  split_ifs with hclosed
  · exact .refl h
  · have hclear : Keeps 0 t (clearNativeDrainTimer (clearHandshakeTimer t)) := keeps_of_core h rfl
    have hreject := hclear.trans (rejectQueued_keeps hclear.steady closedError)
    have hstart := hreject.trans (rejectStart_keeps hreject.steady closedError)
    refine hstart.trans (finalize_keeps hstart.steady ?_ ?_ (rejectStart_startOpen _ _))
    · rw [rejectStart_state]
      exact hclosed
    · rw [rejectStart_outbox]
      exact rejectQueued_queue hclear.steady _

theorem closeSocket_keeps (h : Steady t) (code : BridgeCloseCode) (throws : Bool) :
    Keeps 0 t (closeSocket code throws t) := by
  have hemit : Keeps 0 t (t.emit (.socketClose code)) :=
    emit_keeps h (plain_socketClose code)
  unfold closeSocket
  cases t.socket with
  | none => exact .refl h
  | some readyState =>
    dsimp only
    split_ifs
    · exact hemit.trans (finalizeClose_keeps hemit.steady)
    · exact hemit.trans (keeps_of_core hemit.steady rfl)

theorem trySendControlFrame_keeps (h : Steady t) {effect : Effect} (hplain : effect.Plain) :
    Keeps 0 t (trySendControlFrame effect t) := by
  unfold trySendControlFrame
  split_ifs
  · exact emit_keeps h hplain
  · exact .refl h

theorem scheduleDrain_keeps (h : Steady t) : Keeps 0 t (scheduleDrain t) := by
  unfold scheduleDrain
  split_ifs
  · exact .refl h
  · exact keeps_of_core h rfl

end BridgeServerTransport

/-! ## The functions that may call back -/

namespace Running
open BridgeServerTransport
variable {r : Running}

theorem fail_keeps (error : BridgeServerTransportError) (announce : Bool) (closeCode : BridgeCloseCode)
    (h : Steady r.self) : Keeps 0 r.self (fail error announce closeCode r).self := by
  unfold fail
  split_ifs with hpast
  · exact .refl h
  · have hclear : Keeps 0 r.self (clearNativeDrainTimer (clearHandshakeTimer r.self)) :=
      keeps_of_core h rfl
    have hreject := hclear.trans (rejectQueued_keeps hclear.steady error)
    have hstart := hreject.trans (rejectStart_keeps hreject.steady error)
    have hfailed := leave_keeps hstart.steady .failed
      (by rw [rejectStart_state]; exact fun hclosed => hpast (.inl hclosed))
      (by rw [rejectStart_outbox]; exact rejectQueued_queue hclear.steady _)
      (.inr ⟨rfl, rejectStart_startOpen _ _⟩)
    have hsame := rejectStart_setState error
      (rejectQueued error (clearNativeDrainTimer (clearHandshakeTimer r.self))) .failed
    have hreported := (hstart.trans hfailed).trans (reportError_keeps hfailed.steady error)
    rw [← hsame] at hreported
    exact hreported

theorem failing_keeps (error : BridgeServerTransportError) (announce : Bool)
    (closeCode : BridgeCloseCode) (throws : Bool) (h : Steady r.self) :
    Keeps 0 r.self (failing error announce closeCode throws r).self := by
  have hframes := trySendControlFrame_keeps h (plain_sendError (bridgeErrorCode error))
  have hboth := hframes.trans (trySendControlFrame_keeps hframes.steady (plain_sendClose closeCode))
  have hannounced : Keeps 0 r.self (if announce = true then
      trySendControlFrame (.sendClose closeCode)
        (trySendControlFrame (.sendError (bridgeErrorCode error)) r.self)
      else r.self) := by
    split_ifs
    · exact hboth
    · exact .refl h
  have hclosed := hannounced.trans (closeSocket_keeps hannounced.steady closeCode throws)
  unfold failing
  dsimp only
  split_ifs at hclosed ⊢
  · exact hclosed.trans (finalizeClose_keeps hclosed.steady)
  · exact hclosed
  · exact hclosed.trans (finalizeClose_keeps hclosed.steady)
  · exact hclosed

theorem start_keeps (factory : Except ThrownValue Unit) (h : Steady r.self) :
    Keeps 1 r.self (start factory r).self := by
  unfold start
  by_cases hidle : r.self.state = .idle
  · rw [if_neg (not_not.mpr hidle)]
    obtain ⟨hstarted, hstart⟩ := h.idle hidle
    have hopen : Keeps 1 r.self { r.self with state := .connecting, startOpen := true } := by
      refine ⟨{ h with
        queued := fun hne => absurd (h.queue_nil (by rw [hidle]; decide)) hne
        once := ?_
        idle := fun hfalse => (by cases hfalse)
        waiting := fun _ => .inl rfl
        closed := h.closed_of (by rw [hidle]; decide) fun hfalse => (by cases hfalse) },
        ?_, rfl, id, rfl, rfl⟩
      · show r.self.started.length + 1 ≤ 1
        rw [hstarted]
        rfl
      · unfold calls
        simp only [hstarted, hstart, Bool.toNat_true, Bool.toNat_false, List.length_nil]
        omega
    cases factory with
    | error value =>
      exact hopen.trans (fail_keeps (r := ⟨{ r.self with state := .connecting, startOpen := true },
        r.frames⟩) _ false .PROTOCOL_ERROR hopen.steady)
    | ok u => exact hopen.trans (keeps_of_core hopen.steady rfl)
  · rw [if_pos hidle]
    refine ⟨{ h with
      onclose := (List.count_cons_of_ne (by simp)).trans h.onclose
      onerror := ?_ }, ?_, rfl, id, List.filterMap_cons_none rfl, rfl⟩
    · show (Effect.startRejected _ :: r.self.effects).countP _ = _
      rw [List.countP_cons_of_neg (by simp [Effect.isError])]
      exact h.onerror
    · show _ + _ + (Effect.startRejected _ :: r.self.effects).countP _ = _
      rw [List.countP_cons_of_pos rfl, ← Nat.add_assoc]
      rfl

theorem send_keeps (payload : JSONRPCMessage) (bufferedAmount : ℕ) (h : Steady r.self) :
    Keeps 0 r.self (send payload bufferedAmount r).self := by
  have hemit : ∀ error, Keeps 0 r.self (r.self.emit (.sendRejected error)) :=
    fun error => emit_keeps h (plain_sendRejected error)
  unfold send
  dsimp only
  by_cases hready : r.self.state = .ready
  · rw [if_neg (not_not.mpr hready)]
    cases serializeFrame payload with
    | error error => exact hemit error
    | ok frame =>
      dsimp only
      split_ifs with hfull
      · exact hemit _
      · obtain ⟨hmessages, hbytes⟩ := not_or.mp hfull
        have hpush : Keeps 0 r.self
            { r.self with outbox := r.self.outbox.push frame.1 frame.2 } := by
          refine ⟨{ h with
            outbox := h.outbox.push _ _
            within := Outbox.Within.push (Nat.lt_of_not_ge hmessages) ?_ _
            queued := fun _ => hready }, rfl, rfl, id, rfl, rfl⟩
          -- what is in flight is counted once, as queued or as buffered
          omega
        exact hpush.trans (scheduleDrain_keeps hpush.steady)
  · rw [if_pos hready]
    exact hemit _

theorem close_keeps (throws : Bool) (h : Steady r.self) :
    Keeps 0 r.self (close throws r).self := by
  have hreject := rejectQueued_keeps h closedError
  have hqueue := rejectQueued_queue h closedError
  unfold close
  by_cases hpast : r.self.state = .closed ∨ r.self.state = .closing
  · rw [if_pos hpast]
    exact .refl h
  · rw [if_neg hpast]
    have hleft := hreject.trans (leave_keeps hreject.steady .closing
      (fun hclosed => hpast (.inl hclosed)) hqueue (.inl rfl))
    have hclosing : Keeps 0 r.self (rejectQueued closedError
        (clearNativeDrainTimer (clearHandshakeTimer
          { r.self with intentionalClose := true, state := .closing, closeOpen := true }))) :=
      hleft.trans (keeps_of_core hleft.steady rfl)
    dsimp only
    split_ifs
    · exact hclosing.trans (finalizeClose_keeps hclosing.steady)
    · have hsent := hclosing.trans (trySendControlFrame_keeps hclosing.steady
        (plain_sendClose .NORMAL))
      exact hsent.trans (closeSocket_keeps hsent.steady _ _)
    · exact hclosing.trans (closeSocket_keeps hclosing.steady _ _)

theorem handleOpen_keeps (sent : Except ThrownValue Unit) (h : Steady r.self) :
    Keeps 0 r.self (handleOpen sent r).self := by
  unfold handleOpen
  by_cases hconnecting : r.self.state = .connecting
  · rw [if_neg (not_not.mpr hconnecting)]
    have hopened : Keeps 0 r.self { r.self with
        state := .handshaking, handshakeTimer := 0 < r.self.handshakeTimeoutMs } :=
      ⟨{ h with
        queued := fun hne => absurd (h.queue_nil (by rw [hconnecting]; decide)) hne
        idle := fun hfalse => (by cases hfalse)
        waiting := fun _ => .inr (.inl rfl)
        closed := h.closed_of (by rw [hconnecting]; decide) fun hfalse => (by cases hfalse) },
        rfl, rfl, id, rfl, rfl⟩
    cases sent with
    | error value =>
      exact hopened.trans (fail_keeps (r := ⟨{ r.self with
        state := .handshaking, handshakeTimer := 0 < r.self.handshakeTimeoutMs }, r.frames⟩) _ false
        .PROTOCOL_ERROR hopened.steady)
    | ok u => exact hopened.trans (emit_keeps hopened.steady (plain_sendHello _))
  · rw [if_pos hconnecting]
    exact .refl h

theorem socketClosed_keeps (h : Steady r.self) : Keeps 0 r.self (socketClosed r).self := by
  unfold socketClosed
  split_ifs
  · exact .refl h
  · exact reportError_keeps h _
  · exact finalizeClose_keeps h

theorem handshakeTimeout_keeps (h : Steady r.self) : Keeps 0 r.self (handshakeTimeout r).self := by
  unfold handshakeTimeout
  split_ifs
  · exact .refl h
  · have htimer : Keeps 0 r.self { r.self with handshakeTimer := false } := keeps_of_core h rfl
    exact htimer.trans (fail_keeps (r := ⟨{ r.self with handshakeTimer := false }, r.frames⟩) _ true
      .TIMEOUT htimer.steady)

theorem resume_keeps (frame : Frame) (throws : Bool) (h : Steady r.self) :
    Keeps 0 r.self (resume frame throws r).self := by
  cases frame with
  | failing error announce closeCode => exact failing_keeps error announce closeCode throws h
  | messageFailed error => exact fail_keeps error false .PROTOCOL_ERROR h
  | finalizeClose => exact finalizeClose_keeps h
  | drained => exact keeps_of_core h rfl

theorem listener_keeps {f : Running → Running} (h : Steady r.self) (hf : Keeps 0 r.self (f r).self) :
    Keeps 0 r.self (Scene.listener f r).self := by
  unfold Scene.listener
  split_ifs
  · exact hf
  · exact .refl h

/-! ## Sending -/

theorem land_keeps {t : BridgeServerTransport} {item : QueuedMessage String} (h : Steady t)
    (hvalid : t.outbox.Valid (some item)) :
    Keeps 0 t { t with outbox := t.outbox.land item (.ok ()), currentSend := none } where
  steady :=
    { h with
      outbox := hvalid.land _
      within := h.within.land _
      queued := fun hne => h.queued fun hnil => hne (by
        have hsub := t.outbox.land_queue_sublist item (.ok () : Except BridgeServerTransportError Unit)
        rw [hnil] at hsub
        exact List.sublist_nil.mp hsub) }
  calls := rfl
  sessionId := rfl
  resolved := id
  heard := rfl
  chain := rfl

theorem hand_keeps {t : BridgeServerTransport} {item : QueuedMessage String} (h : Steady t)
    (hvalid : (t.outbox.hand item).Valid (some item)) :
    Keeps 0 t { t with outbox := t.outbox.hand item, currentSend := some item } where
  steady := { h with outbox := hvalid, within := ⟨h.within.messages, h.within.bytes⟩ }
  calls := rfl
  sessionId := rfl
  resolved := id
  heard := rfl
  chain := rfl

/-- A message that the socket refuses is rejected with the others. -/
theorem rejectHanded_keeps {t : BridgeServerTransport} {item : QueuedMessage String} (h : Steady t)
    (hvalid : (t.outbox.hand item).Valid (some item)) (hcurrent : t.currentSend = none)
    (error : BridgeServerTransportError) :
    Keeps 0 t (rejectQueued error { t with outbox := t.outbox.hand item }) where
  steady :=
    { h with
      outbox := by
        show ((t.outbox.hand item).rejectAll _).Valid t.currentSend
        rw [hcurrent]
        exact (hvalid.rejectAll _).forget (hvalid.rejectAll_queue _)
      within := hvalid.rejectAll_within _
      queued := fun hne => absurd (hvalid.rejectAll_queue _) hne }
  calls := rfl
  sessionId := rfl
  resolved := id
  heard := rfl
  chain := rfl

theorem nativeDrainPoll_keeps {t : BridgeServerTransport} (bufferedAmount : ℕ) (h : Steady t) :
    Keeps 0 t (nativeDrainPoll bufferedAmount t) := by
  unfold nativeDrainPoll
  by_cases htimer : t.nativeDrainTimer = false
  · rw [if_pos htimer]
    exact .refl h
  rw [if_neg htimer]
  dsimp only
  by_cases hready : t.state = .ready
  · rw [if_neg (not_not.mpr hready)]
    cases hcurrent : t.currentSend with
    | none => exact keeps_of_core h (by simp only [core, hcurrent])
    | some item =>
      have hvalid := h.outbox
      rw [hcurrent] at hvalid
      have hland := land_keeps h hvalid
      dsimp only
      split_ifs
      · exact keeps_of_core h (by simp only [core, hcurrent])
      · exact keeps_of_core h (by simp only [core, scheduleNativeDrainPoll, hcurrent])
      · have hlanded : Keeps 0 t { t with
            nativeDrainTimer := false
            currentSend := none
            nativeDrainBaseline := 0
            outbox := t.outbox.land item (.ok ()) } := hland.trans (keeps_of_core hland.steady rfl)
        exact hlanded.trans (scheduleDrain_keeps hlanded.steady)
  · rw [if_pos hready]
    exact keeps_of_core h rfl

theorem drainLoop_keeps (turns : ℕ → SocketTurn) (items : List (QueuedMessage String)) (turn : ℕ)
    (h : Steady r.self) (hqueue : r.self.outbox.queue = items) (hcurrent : r.self.currentSend = none) :
    Keeps 0 r.self (drainLoop turns items turn r).self := by
  induction items generalizing turn r with
  | nil => exact keeps_of_core h rfl
  | cons item rest ih =>
    have hvalid := h.outbox
    rw [hcurrent] at hvalid
    have hhanded : (r.self.outbox.hand item).Valid (some item) :=
      hvalid.hand (by rw [hqueue]; rfl)
    unfold drainLoop
    dsimp only
    by_cases hready : r.self.state = .ready
    · rw [if_neg (not_not.mpr hready)]
      by_cases hsocket : r.self.socket = some .OPEN
      · rw [if_neg (not_not.mpr hsocket)]
        by_cases hover : (turns turn).bufferedBeforeSend + item.bytes > BRIDGE_MAX_QUEUED_BYTES
        · rw [if_pos hover]
          exact keeps_of_core h rfl
        · rw [if_neg hover]
          cases (turns turn).sent with
          | error value =>
            have hrejected := rejectHanded_keeps h hhanded hcurrent (errorFromUnknown value
              (.bridge .SESSION_CLOSED) "Failed to send bridge message")
            exact hrejected.trans (fail_keeps (r := ⟨rejectQueued _ { r.self with
              outbox := r.self.outbox.hand item }, .drained :: r.frames⟩) _ false .PROTOCOL_ERROR
              hrejected.steady)
          | ok u =>
            dsimp only
            split_ifs with hgrown
            · have hsent := hand_keeps h hhanded
              exact hsent.trans (keeps_of_core hsent.steady rfl)
            · have hlanded : Keeps 0 r.self { r.self with
                  outbox := (r.self.outbox.hand item).land item (.ok ()) } := by
                have hland := (hand_keeps h hhanded).trans
                  (land_keeps (hand_keeps h hhanded).steady hhanded)
                exact hland.trans (keeps_of_core hland.steady (by simp only [core, hcurrent]))
              have hrest : ((r.self.outbox.hand item).land item
                  (.ok () : Except BridgeServerTransportError Unit)).queue = rest :=
                Outbox.land_hand_queue hqueue _
              exact hlanded.trans (ih (r := { r with self := { r.self with
                outbox := (r.self.outbox.hand item).land item (.ok ()) } }) (turn + 1) hlanded.steady
                hrest hcurrent)
      · rw [if_pos hsocket]
        exact fail_keeps (r := ⟨r.self, .drained :: r.frames⟩) _ false .PROTOCOL_ERROR h
    · rw [if_pos hready]
      exact keeps_of_core h rfl

theorem drainMicrotask_keeps (turns : ℕ → SocketTurn) (h : Steady r.self) :
    Keeps 0 r.self (drainMicrotask turns r).self := by
  have hscheduled : Keeps 0 r.self { r.self with drainScheduled := false } := keeps_of_core h rfl
  have hdraining : Keeps 0 r.self { r.self with drainScheduled := false, draining := true } :=
    keeps_of_core h rfl
  unfold drainMicrotask drainQueue
  dsimp only
  split_ifs with hschedule hrunning
  · exact hscheduled
  · refine hdraining.trans (drainLoop_keeps (r := ⟨{ r.self with
      drainScheduled := false, draining := true }, r.frames⟩) turns _ 0 hdraining.steady rfl ?_)
    cases hcurrent : r.self.currentSend with
    | none => rfl
    | some item => exact absurd (.inr (by rw [hcurrent]; rfl)) hrunning
  · exact .refl h

/-! ## Receiving -/

theorem remoteClosed_keeps (code : BridgeCloseCode) (throws : Bool) (h : Steady r.self)
    (hopen : r.self.state ≠ .closed) (hqueue : r.self.outbox.queue = []) :
    Keeps 0 r.self (remoteClosed code throws r).self := by
  have hleft := leave_keeps h .closing hopen hqueue (.inl rfl)
  have hclosing : Keeps 0 r.self { r.self with remoteClose := true, state := .closing } :=
    hleft.trans (keeps_of_core hleft.steady rfl)
  exact hclosing.trans (closeSocket_keeps hclosing.steady _ _)

/-- What a frame does: no more than `Keeps`, or it ends the handshake, or it has a message for the
consumer. -/
inductive Takes (data : FrameData) (t t' : BridgeServerTransport) : Prop
  | keeps (keeps : Keeps 0 t t')
  | acknowledges (state : t.state = .handshaking)
      (parsed : parseFrame data = .ok (.helloAck BRIDGE_PROTOCOL_VERSION t.sessionId))
      (steady : Steady t') (calls : t'.calls = t.calls) (sessionId : t'.sessionId = t.sessionId)
      (heard : t'.heard = t.heard) (chain : t'.incomingChain = t.incomingChain)
  | hears (payload : JSONRPCMessage) (state : t.state = .ready)
      (parsed : parseFrame data = .ok (.mcpMessage payload)) (steady : Steady t')
      (calls : t'.calls = t.calls) (sessionId : t'.sessionId = t.sessionId)
      (started : t'.started = t.started) (heard : t'.heard = payload :: t.heard)
      (chain : t'.incomingChain = t.incomingChain)

theorem becomeReady_steady {t : BridgeServerTransport} (h : Steady t) (hstate : t.state = .handshaking) :
    let t' := { t with
      state := .ready
      started := if t.startOpen = true then .ok () :: t.started else t.started
      startOpen := false }
    Steady t' ∧ t'.calls = t.calls := by
  have hlength : (if t.startOpen = true then .ok () :: t.started else t.started).length =
      t.started.length + t.startOpen.toNat := by
    cases t.startOpen
    · rfl
    · rfl
  refine ⟨{ h with
    queued := fun _ => rfl
    once := hlength.trans_le h.once
    idle := fun hfalse => (by cases hfalse)
    waiting := fun hfalse => (by cases hfalse)
    closed := h.closed_of (by rw [hstate]; decide) fun hfalse => (by cases hfalse) }, ?_⟩
  show _ + 0 + _ = _ + _ + _
  rw [hlength]
  rfl

theorem handleHandshakeMessage_takes {data : FrameData} {message : BridgeMessage} (throws : Bool)
    (h : Steady r.self) (hstate : r.self.state = .handshaking) (hparsed : parseFrame data = .ok message) :
    Takes data r.self (handleHandshakeMessage message throws r).self := by
  have hfail : ∀ error announce closeCode, Takes data r.self (fail error announce closeCode r).self :=
    fun error announce closeCode => .keeps (fail_keeps error announce closeCode h)
  cases message with
  | hello => exact hfail _ _ _
  | mcpMessage payload => exact hfail _ _ _
  | invalid => exact hfail _ _ _
  | error code text => exact hfail _ _ _
  | close code =>
    exact .keeps (remoteClosed_keeps code throws h (by rw [hstate]; decide)
      (h.queue_nil (by rw [hstate]; decide)))
  | helloAck version sessionId =>
    unfold handleHandshakeMessage
    dsimp only
    by_cases hversion : version = BRIDGE_PROTOCOL_VERSION
    · rw [if_neg (not_not.mpr hversion)]
      by_cases hsession : sessionId = r.self.sessionId
      · rw [if_neg (not_not.mpr hsession)]
        rw [hversion, hsession] at hparsed
        obtain ⟨hsteady, hcalls⟩ := becomeReady_steady h hstate
        have hscheduled := scheduleDrain_keeps (t := { clearHandshakeTimer r.self with
          state := .ready
          started := if r.self.startOpen = true then .ok () :: r.self.started else r.self.started
          startOpen := false }) (hsteady.of_core rfl)
        exact .acknowledges hstate hparsed hscheduled.steady (hscheduled.calls.trans hcalls)
          hscheduled.sessionId hscheduled.heard hscheduled.chain
      · rw [if_pos hsession]
        exact hfail _ _ _
    · rw [if_pos hversion]
      exact hfail _ _ _

theorem handleReadyMessage_takes {data : FrameData} {message : BridgeMessage}
    (callback : Except ThrownValue Unit) (throws : Bool) (h : Steady r.self)
    (hstate : r.self.state = .ready) (hparsed : parseFrame data = .ok message) :
    Takes data r.self (handleReadyMessage message callback throws r).self := by
  have hfail : ∀ error announce closeCode, Takes data r.self (fail error announce closeCode r).self :=
    fun error announce closeCode => .keeps (fail_keeps error announce closeCode h)
  cases message with
  | hello => exact hfail _ _ _
  | helloAck version sessionId => exact hfail _ _ _
  | invalid => exact hfail _ _ _
  | error code text => exact hfail _ _ _
  | close code =>
    have hreject := rejectQueued_keeps h ⟨.bridge .SESSION_CLOSED, "Bridge peer closed the session"⟩
    exact .keeps (hreject.trans (remoteClosed_keeps (r := ⟨rejectQueued _ r.self, r.frames⟩) code throws
      hreject.steady (by show r.self.state ≠ .closed; rw [hstate]; decide)
      (rejectQueued_queue h _)))
  | mcpMessage payload =>
    have hsteady : Steady (r.self.emit (.onmessage payload)) := { h with
      onclose := (List.count_cons_of_ne (by simp)).trans h.onclose
      onerror := by
        show (Effect.onmessage payload :: r.self.effects).countP _ = _
        rw [List.countP_cons_of_neg (by simp [Effect.isError])]
        exact h.onerror }
    have hcalls : (r.self.emit (.onmessage payload)).calls = r.self.calls := by
      show _ + _ + (Effect.onmessage payload :: r.self.effects).countP _ = _
      rw [List.countP_cons_of_neg (by simp [Effect.isStartRejected])]
      rfl
    cases callback with
    | ok u => exact .hears payload hstate hparsed hsteady hcalls rfl rfl rfl rfl
    | error value => exact .hears payload hstate hparsed hsteady hcalls rfl rfl rfl rfl

theorem handleIncomingFrame_takes (data : FrameData) (callback : Except ThrownValue Unit)
    (throws : Bool) (h : Steady r.self) :
    Takes data r.self (handleIncomingFrame data callback throws r).self := by
  unfold handleIncomingFrame
  by_cases hpast : r.self.state = .closed ∨ r.self.state = .closing
  · rw [if_pos hpast]
    exact .keeps (.refl h)
  · rw [if_neg hpast]
    cases hparsed : parseFrame data with
    | error error => exact .keeps (fail_keeps _ _ _ h)
    | ok message =>
      dsimp only
      split_ifs with hhandshaking hready
      · exact handleHandshakeMessage_takes throws h hhandshaking hparsed
      · exact handleReadyMessage_takes callback throws h hready hparsed
      · exact .keeps (.refl h)

end Running

/-! ## Steps -/

namespace Scene
open BridgeServerTransport Running

/-- The event takes a frame with the message from the chain. -/
def Reads (s : Scene) (e : Event) (message : BridgeMessage) : Prop :=
  s.stack = [] ∧ ∃ callback throws data rest, e = .receive callback throws ∧
    s.transport.incomingChain = .frame data :: rest ∧ parseFrame data = .ok message

/-- The messages that the consumer was given, oldest first, and those that wait for it. -/
def messages (s : Scene) : List JSONRPCMessage :=
  s.transport.heard.reverse ++ s.transport.incomingChain.filterMap Incoming.payload

/-- What a step does. -/
structure Advances (s : Scene) (e : Event) : Prop where
  steady : Steady (s.step e).transport
  calls : (s.step e).transport.calls = s.transport.calls + e.isStart.toNat
  sessionId : (s.step e).transport.sessionId = s.transport.sessionId
  resolved : .ok () ∈ (s.step e).transport.started → .ok () ∈ s.transport.started ∨
    s.transport.state = .handshaking ∧
      s.Reads e (.helloAck BRIDGE_PROTOCOL_VERSION s.transport.sessionId)
  heard : (s.step e).transport.heard = s.transport.heard ∨
    ∃ payload, s.transport.state = .ready ∧ s.Reads e (.mcpMessage payload) ∧
      (s.step e).transport.heard = payload :: s.transport.heard
  messages : ((s.step e).messages).Sublist (s.messages ++ e.payload.toList)

variable {s : Scene} {e : Event}

theorem advances_of_keeps (h : Keeps e.isStart.toNat s.transport (s.step e).transport) :
    Advances s e where
  steady := h.steady
  calls := h.calls
  sessionId := h.sessionId
  resolved := .inl ∘ h.resolved
  heard := .inl h.heard
  messages := by
    unfold messages
    rw [h.heard, h.chain]
    exact List.sublist_append_left _ _

theorem run_transport (f : Running → Running) : (s.run f).transport = (f ⟨s.transport, []⟩).self := rfl

theorem task_keeps {f : Running → Running} (h : Steady s.transport)
    (hf : Keeps 0 s.transport (f ⟨s.transport, []⟩).self) : Keeps 0 s.transport (s.task f).transport := by
  unfold Scene.task
  split_ifs
  · exact hf
  · exact .refl h

theorem moveSocket_keeps {r : Running} (h : Steady r.self) (f : ReadyState → ReadyState) :
    Keeps 0 r.self (moveSocket f r).self := keeps_of_core h rfl

theorem steady_chain {t : BridgeServerTransport} (h : Steady t) (chain : List Incoming) :
    Steady { t with incomingChain := chain } :=
  ⟨h.outbox, h.within, h.queued, h.once, h.idle, h.waiting, h.closed, h.onclose, h.onerror⟩

/-- A reaction is put at the end of the chain. -/
theorem advances_of_chain {t : BridgeServerTransport} (incoming : Incoming)
    (hstart : e.isStart = false) (hpayload : incoming.payload = e.payload)
    (ht : Keeps 0 s.transport t)
    (hstep : (s.step e).transport = { t with incomingChain := t.incomingChain ++ [incoming] }) :
    Advances s e where
  steady := by
    rw [hstep]
    exact steady_chain ht.steady _
  calls := by
    rw [hstep, hstart]
    exact ht.calls
  sessionId := by
    rw [hstep]
    exact ht.sessionId
  resolved := by
    rw [hstep]
    exact .inl ∘ ht.resolved
  heard := by
    rw [hstep]
    exact .inl ht.heard
  messages := by
    unfold messages
    rw [hstep, ← hpayload]
    show (t.heard.reverse ++ (t.incomingChain ++ [incoming]).filterMap Incoming.payload).Sublist _
    rw [ht.heard, ht.chain, List.filterMap_append, ← List.append_assoc]
    cases hincoming : incoming.payload with
    | none => simp [hincoming]
    | some payload => simp [hincoming]

theorem receive_advances (h : Steady s.transport) (callback : Except ThrownValue Unit)
    (throws : Bool) : Advances s (.receive callback throws) := by
  by_cases hstack : s.stack = []
  · have hstep : (s.step (.receive callback throws)).transport =
        (receive callback throws ⟨s.transport, []⟩).self := by
      show (s.task _).transport = _
      unfold Scene.task
      rw [if_pos hstack]
      rfl
    cases hchain : s.transport.incomingChain with
    | nil =>
      refine advances_of_keeps ?_
      rw [hstep]
      unfold receive
      dsimp only
      rw [hchain]
      exact .refl h
    | cons incoming rest =>
      have hrest := steady_chain h rest
      cases incoming with
      | socketClosed =>
        have hclosed := socketClosed_keeps (r := ⟨{ s.transport with incomingChain := rest }, []⟩) hrest
        have hsame : (receive callback throws ⟨s.transport, []⟩).self =
            (socketClosed ⟨{ s.transport with incomingChain := rest }, []⟩).self := by
          unfold receive
          dsimp only
          rw [hchain]
        rw [← hsame, ← hstep] at hclosed
        refine ⟨hclosed.steady, hclosed.calls, hclosed.sessionId, .inl ∘ hclosed.resolved,
          .inl hclosed.heard, ?_⟩
        unfold messages
        rw [hclosed.heard, hclosed.chain, hchain]
        exact List.sublist_append_left _ _
      | frame data =>
        have htakes := handleIncomingFrame_takes
          (r := ⟨{ s.transport with incomingChain := rest }, []⟩) data callback throws hrest
        have hsame : (receive callback throws ⟨s.transport, []⟩).self =
            (handleIncomingFrame data callback throws
              ⟨{ s.transport with incomingChain := rest }, []⟩).self := by
          unfold receive
          dsimp only
          rw [hchain]
        rw [← hsame, ← hstep] at htakes
        have hreads : ∀ message, parseFrame data = .ok message →
            s.Reads (.receive callback throws) message :=
          fun message hparsed => ⟨hstack, callback, throws, data, rest, rfl, hchain, hparsed⟩
        -- without its first frame, nothing else of the chain has moved
        have hdrop : (s.transport.heard.reverse ++ rest.filterMap Incoming.payload).Sublist
            (s.messages ++ []) := by
          unfold messages
          rw [hchain, List.append_nil]
          exact (List.Sublist.refl _).append ((List.sublist_cons_self _ _).filterMap _)
        cases htakes with
        | keeps hkeeps =>
          refine ⟨hkeeps.steady, hkeeps.calls, hkeeps.sessionId, .inl ∘ hkeeps.resolved,
            .inl hkeeps.heard, ?_⟩
          unfold messages at hdrop ⊢
          rw [hkeeps.heard, hkeeps.chain]
          exact hdrop
        | acknowledges hstate hparsed hsteady hcalls hsession hheard hchain' =>
          refine ⟨hsteady, hcalls, hsession, fun _ => .inr ⟨hstate, hreads _ hparsed⟩, .inl hheard, ?_⟩
          unfold messages at hdrop ⊢
          rw [hheard, hchain']
          exact hdrop
        | hears payload hstate hparsed hsteady hcalls hsession hstarted hheard hchain' =>
          refine ⟨hsteady, hcalls, hsession, ?_, .inr ⟨payload, hstate, hreads _ hparsed, hheard⟩, ?_⟩
          · rw [hstarted]
            exact .inl
          · have hpayload : (Incoming.frame data).payload = some payload := by
              simp only [Incoming.payload, hparsed]
            unfold messages
            rw [hheard, hchain', hchain, List.filterMap_cons_some hpayload]
            show ((payload :: s.transport.heard).reverse ++ _).Sublist _
            simp
  · refine advances_of_keeps ?_
    show Keeps 0 s.transport (s.task _).transport
    unfold Scene.task
    rw [if_neg hstack]
    exact .refl h

theorem socketClose_advances (h : Steady s.transport) : Advances s .socketClose := by
  have hmoved := moveSocket_keeps (r := ⟨s.transport, []⟩) h fun _ => .CLOSED
  by_cases hstack : s.stack = []
  · have hstep : (s.step .socketClose).transport = (listener (fun r =>
        if r.self.state = .closed then r
        else { r with self := { r.self with
          incomingChain := r.self.incomingChain ++ [.socketClosed] } })
        (moveSocket (fun _ => .CLOSED) ⟨s.transport, []⟩)).self := by
      show (s.task _).transport = _
      unfold Scene.task
      rw [if_pos hstack]
      rfl
    unfold listener at hstep
    split_ifs at hstep
    · dsimp only at hstep
      split_ifs at hstep
      · refine advances_of_keeps ?_
        rw [hstep]
        exact hmoved
      · exact advances_of_chain .socketClosed rfl rfl hmoved hstep
    · refine advances_of_keeps ?_
      rw [hstep]
      exact hmoved
  · refine advances_of_keeps ?_
    show Keeps 0 s.transport (s.task _).transport
    unfold Scene.task
    rw [if_neg hstack]
    exact .refl h

theorem socketMessage_advances (h : Steady s.transport) (data : FrameData) :
    Advances s (.socketMessage data) := by
  by_cases hheard : s.stack = [] ∧ s.transport.listening = true
  · refine advances_of_chain (.frame data) rfl rfl (.refl h) ?_
    show (s.task _).transport = _
    unfold Scene.task listener
    rw [if_pos hheard.1, run_transport, if_pos hheard.2]
  · refine advances_of_keeps ?_
    show Keeps 0 s.transport (s.task _).transport
    have hsame : (s.task (listener fun r => { r with self := { r.self with
        incomingChain := r.self.incomingChain ++ [.frame data] } })).transport = s.transport := by
      unfold Scene.task listener
      split_ifs with hstack
      · rw [run_transport, if_neg fun hlistening => hheard ⟨hstack, hlistening⟩]
      · rfl
    rw [hsame]
    exact .refl h

/-- Every step keeps what always holds. -/
theorem advances (h : Steady s.transport) (e : Event) : Advances s e := by
  cases e with
  | start factory => exact advances_of_keeps (start_keeps (r := ⟨s.transport, []⟩) factory h)
  | send payload bufferedAmount =>
    exact advances_of_keeps (send_keeps (r := ⟨s.transport, []⟩) payload bufferedAmount h)
  | close throws => exact advances_of_keeps (close_keeps (r := ⟨s.transport, []⟩) throws h)
  | drainMicrotask turns =>
    exact advances_of_keeps (task_keeps h (drainMicrotask_keeps (r := ⟨s.transport, []⟩) turns h))
  | nativeDrainPoll bufferedAmount =>
    exact advances_of_keeps (task_keeps h (nativeDrainPoll_keeps bufferedAmount h))
  | handshakeTimeout =>
    exact advances_of_keeps (task_keeps h (handshakeTimeout_keeps (r := ⟨s.transport, []⟩) h))
  | receive callback throws => exact receive_advances h callback throws
  | socketOpen sent =>
    have hmoved := moveSocket_keeps (r := ⟨s.transport, []⟩) h fun _ => .OPEN
    refine advances_of_keeps ?_
    show Keeps 0 s.transport (if _ then s.task _ else s).transport
    split_ifs
    · exact task_keeps h (hmoved.trans (listener_keeps hmoved.steady
        (handleOpen_keeps sent hmoved.steady)))
    · exact .refl h
  | socketMessage data => exact socketMessage_advances h data
  | socketError =>
    exact advances_of_keeps (task_keeps h (listener_keeps (r := ⟨s.transport, []⟩) h
      (fail_keeps (r := ⟨s.transport, []⟩) _ _ _ h)))
  | socketClosing =>
    exact advances_of_keeps (task_keeps h (moveSocket_keeps (r := ⟨s.transport, []⟩) h
      BridgeServerTransport.ReadyState.close))
  | socketClose => exact socketClose_advances h
  | resume throws =>
    refine advances_of_keeps ?_
    unfold Scene.step
    cases s.stack with
    | nil => exact .refl h
    | cons frame stack => exact resume_keeps (r := ⟨s.transport, []⟩) frame throws h

/-! ## Runs -/

theorem steady_run (h : Steady s.transport) (es : List Event) :
    Steady (runFrom Scene.step s es).transport :=
  runFrom_invariant (P := fun s : Scene => Steady s.transport) (fun _ e hs => (advances hs e).steady) h es

theorem calls_run (h : Steady s.transport) (es : List Event) :
    (runFrom Scene.step s es).transport.calls = s.transport.calls + es.countP Event.isStart := by
  induction es generalizing s with
  | nil => rfl
  | cons e es ih =>
    have hstep := advances h e
    rw [runFrom_cons, ih hstep.steady, hstep.calls, List.countP_cons]
    cases e.isStart with
    | false => simp
    | true =>
      simp
      omega

theorem messages_run (h : Steady s.transport) (es : List Event) :
    ((runFrom Scene.step s es).messages).Sublist (s.messages ++ es.filterMap Event.payload) := by
  induction es generalizing s with
  | nil => simp
  | cons e es ih =>
    have hstep := advances h e
    have hrest := (ih hstep.steady).trans (hstep.messages.append (List.Sublist.refl _))
    cases hpayload : e.payload with
    | none => simpa [hpayload] using hrest
    | some payload => simpa [hpayload] using hrest

theorem resolved_run (h : Steady s.transport) (es : List Event)
    (hresolved : .ok () ∈ (runFrom Scene.step s es).transport.started) :
    .ok () ∈ s.transport.started ∨ ∃ before e after, es = before ++ e :: after ∧
      (runFrom Scene.step s before).transport.state = .handshaking ∧
      (runFrom Scene.step s before).Reads e
        (.helloAck BRIDGE_PROTOCOL_VERSION s.transport.sessionId) := by
  induction es generalizing s with
  | nil => exact .inl hresolved
  | cons e es ih =>
    have hstep := advances h e
    rcases ih hstep.steady hresolved with hfirst | ⟨before, f, after, rfl, hstate, hreads⟩
    · refine (hstep.resolved hfirst).imp_right fun hack => ?_
      exact ⟨[], e, es, rfl, hack.1, hack.2⟩
    · rw [hstep.sessionId] at hreads
      exact .inr ⟨e :: before, f, after, rfl, hstate, hreads⟩

end Scene

section
variable (sessionId : String) (handshakeTimeoutMs : ℤ) (es : List Event)
open Scene

/-- Every call of `start` was refused at once, waits or has settled, and only one was not refused. It
resolves after an acknowledgement with the version and the session of the transport, and waits no longer
when the transport is closed; `onclose` is called then, and once, and `onerror` is called once at most. -/
structure Started (t : BridgeServerTransport) : Prop where
  calls : es.countP Event.isStart =
    t.started.length + t.startOpen.toNat + t.effects.countP Effect.isStartRejected
  once : t.started.length + t.startOpen.toNat ≤ 1
  closed : t.state = .closed → t.startOpen = false
  resolved : .ok () ∈ t.started → ∃ before e after, es = before ++ e :: after ∧
    (runFrom Scene.step (initial sessionId handshakeTimeoutMs) before).transport.state = .handshaking ∧
    (runFrom Scene.step (initial sessionId handshakeTimeoutMs) before).Reads e
      (.helloAck BRIDGE_PROTOCOL_VERSION sessionId)
  onclose : t.effects.count .onclose = if t.state = .closed then 1 else 0
  onerror : t.effects.countP Effect.isError ≤ 1

/-- What `send` accepts is handed to the socket in the order of acceptance, each message at most once, and
each promise is settled at most once, the last of them when the transport leaves `ready`; `queuedBytes` is
what the queue holds, and the queue stays within its bounds. -/
structure Outgoing (t : BridgeServerTransport) : Prop where
  outbox : t.outbox.Valid t.currentSend
  within : t.outbox.Within BRIDGE_MAX_QUEUED_MESSAGES BRIDGE_MAX_QUEUED_BYTES
  settled : t.state ≠ .ready → ∀ id < t.outbox.accepted, id ∈ t.outbox.settled.map Prod.fst

theorem started_run :
    Started sessionId handshakeTimeoutMs es
      (runFrom Scene.step (initial sessionId handshakeTimeoutMs) es).transport := by
  have hnew : BridgeServerTransport.Steady (initial sessionId handshakeTimeoutMs).transport :=
    BridgeServerTransport.steady_new sessionId handshakeTimeoutMs
  have hsteady := steady_run hnew es
  refine ⟨?_, hsteady.once, fun hclosed => ?_, fun hresolved => ?_, ?_, ?_⟩
  · have hcalls := calls_run hnew es
    rw [show (initial sessionId handshakeTimeoutMs).transport.calls = 0 from rfl, Nat.zero_add] at hcalls
    exact hcalls.symm
  · refine Bool.eq_false_iff.mpr fun hopen => ?_
    have hwaiting := hsteady.waiting hopen
    rw [hclosed] at hwaiting
    simp at hwaiting
  · exact (resolved_run hnew es hresolved).resolve_left List.not_mem_nil
  · rw [hsteady.onclose]
    split_ifs with hclosed
    · rw [hsteady.closed.mpr hclosed, Bool.toNat_true]
    · rw [hsteady.callbackClosed_eq_false hclosed, Bool.toNat_false]
  · rw [hsteady.onerror]
    exact Bool.toNat_le _

theorem outgoing_run :
    Outgoing (runFrom Scene.step (initial sessionId handshakeTimeoutMs) es).transport := by
  have hsteady := steady_run (s := initial sessionId handshakeTimeoutMs)
    (BridgeServerTransport.steady_new sessionId handshakeTimeoutMs) es
  refine ⟨hsteady.outbox, hsteady.within, fun hstate id hid => ?_⟩
  exact hsteady.outbox.all_settled (hsteady.queue_nil hstate) hid

/-- The consumer is given a message only while the transport is ready, when the frame of the message is
taken, and all of them in the order in which their frames arrived. -/
theorem incoming_run :
    Along Scene.step (fun s e => (s.step e).transport.heard = s.transport.heard ∨
        ∃ payload, s.transport.state = .ready ∧ s.Reads e (.mcpMessage payload) ∧
          (s.step e).transport.heard = payload :: s.transport.heard)
        (initial sessionId handshakeTimeoutMs) es ∧
      ((runFrom Scene.step (initial sessionId handshakeTimeoutMs) es).transport.heard.reverse).Sublist
        (es.filterMap Event.payload) := by
  have hnew : BridgeServerTransport.Steady (initial sessionId handshakeTimeoutMs).transport :=
    BridgeServerTransport.steady_new sessionId handshakeTimeoutMs
  constructor
  · exact (along_true _ es).of_invariant (P := fun s : Scene => s.transport.Steady)
      (fun s e hs _ => (advances hs e).steady) (fun s e hs _ => (advances hs e).heard) hnew
  · exact (List.sublist_append_left _ _).trans (messages_run hnew es)

/-- A session that is heard and then closed by its peer. -/
example :
    let t := (runFrom Scene.step (initial "session" 10000)
      [.start (.ok ()), .start (.ok ()), .socketOpen (.ok ()),
        .socketMessage (.text 70 (.value (.helloAck BRIDGE_PROTOCOL_VERSION "session"))),
        .socketMessage (.text 40 (.value (.mcpMessage ⟨true, none⟩))), .receive (.ok ()) false,
        .receive (.ok ()) false, .socketClose, .receive (.ok ()) false, .resume false]).transport
    t.started = [.ok ()] ∧ t.heard = [⟨true, none⟩] ∧ t.state = .closed ∧
      t.effects.count .onclose = 1 := by
  decide

end
end Doctmcp.Agent

import Doctmcp.Agent.ServerTransport

/-! # Wake-ups of the server transport

A waiting message needs something that will look at the queue again (`NotStranded`). The microtask
and the poll timer of a message in flight do; the poll timer that `drainQueue` sets because the
socket has too much buffered does not, as it finds no message in flight. The queue is stranded by
the first such turn and by nothing else. -/

namespace Doctmcp.Agent
open Doctmcp.Lib Doctmcp.Bridge
set_option autoImplicit false

namespace BridgeServerTransport
open Running

/-- The poll timer is set, and whatever is buffered when it fires, a drain is scheduled then, or the
buffer has not shrunk and the transport is as before. -/
def PollResumes (t : BridgeServerTransport) : Prop :=
  t.nativeDrainTimer = true ∧ ∀ bufferedAmount,
    (nativeDrainPoll bufferedAmount t).drainScheduled = true ∨
      bufferedAmount > t.nativeDrainBaseline ∧ nativeDrainPoll bufferedAmount t = t

/-- A message that waits on an open socket has something pending. -/
def NotStranded (t : BridgeServerTransport) : Prop :=
  t.state = .ready → t.socket = some .OPEN → t.outbox.queue ≠ [] →
    t.drainScheduled = true ∨ t.draining = true ∨ PollResumes t

/-- The transport will not be ready any more. -/
def Past (t : BridgeServerTransport) : Prop :=
  t.state = .closing ∨ t.state = .closed ∨ t.state = .failed

structure Base (t : BridgeServerTransport) : Prop where
  opened : t.state = .handshaking ∨ t.state = .ready → t.socket ≠ none ∧ t.socket ≠ some .CONNECTING
  /-- A drain runs to its end, or fails. -/
  draining : t.draining = true → t.Past
  current : t.currentSend ≠ none → t.state = .ready ∨ t.Past
  /-- A message in flight on an open socket is polled. -/
  polled : t.state = .ready → t.socket = some .OPEN → t.currentSend ≠ none →
    t.nativeDrainTimer = true

/-- What is left of `NotStranded` then. -/
def Awake (t : BridgeServerTransport) : Prop :=
  t.state = .ready → t.socket = some .OPEN → t.outbox.queue ≠ [] →
    t.drainScheduled = true ∨ t.currentSend ≠ none

theorem base_new (sessionId : String) (handshakeTimeoutMs : ℤ) :
    Base (new sessionId handshakeTimeoutMs) where
  opened h := by rcases h with h | h <;> cases h
  draining h := by cases h
  current h := absurd rfl h
  polled h := by cases h

theorem awake_new (sessionId : String) (handshakeTimeoutMs : ℤ) :
    Awake (new sessionId handshakeTimeoutMs) := fun h => by cases h

variable {t : BridgeServerTransport}

theorem Past.ne (h : t.Past) {state : BridgeTransportState}
    (hstate : state ≠ .closing ∧ state ≠ .closed ∧ state ≠ .failed) : t.state ≠ state := by
  rcases h with hpast | hpast | hpast
  · rw [hpast]
    exact hstate.1.symm
  · rw [hpast]
    exact hstate.2.1.symm
  · rw [hpast]
    exact hstate.2.2.symm

theorem Past.notReady (h : t.Past) : t.state ≠ .ready ∧ t.state ≠ .handshaking :=
  ⟨h.ne (by decide), h.ne (by decide)⟩

theorem Past.notIdle (h : t.Past) : t.state ≠ .idle := h.ne (by decide)

theorem Past.notConnecting (h : t.Past) : t.state ≠ .connecting := h.ne (by decide)

theorem Past.base (h : t.Past) : Base t where
  opened hstate := hstate.elim (fun hs => absurd hs h.notReady.2) fun hs => absurd hs h.notReady.1
  draining _ := h
  current _ := .inr h
  polled hready := absurd hready h.notReady.1

theorem Past.awake (h : t.Past) : Awake t := fun hready => absurd hready h.notReady.1

theorem Base.notDraining (h : Base t) (hready : t.state = .ready) : t.draining = false :=
  Bool.eq_false_iff.mpr fun hdraining => (h.draining hdraining).notReady.1 hready

/-- Before the transport is ready, nothing is drained and nothing in flight. -/
theorem Base.young (h : Base t)
    (hstate : t.state = .idle ∨ t.state = .connecting ∨ t.state = .handshaking) :
    t.draining = false ∧ t.currentSend = none := by
  have hnot : ¬ (t.state = .ready ∨ t.Past) := by
    unfold Past
    rcases hstate with hs | hs | hs
    · rw [hs]
      decide
    · rw [hs]
      decide
    · rw [hs]
      decide
  constructor
  · exact Bool.eq_false_iff.mpr fun hdraining => hnot (.inr (h.draining hdraining))
  · by_contra hcurrent
    exact hnot (h.current hcurrent)

theorem base_of_young (hdraining : t.draining = false) (hcurrent : t.currentSend = none)
    (hopened : t.state = .handshaking ∨ t.state = .ready →
      t.socket ≠ none ∧ t.socket ≠ some .CONNECTING) : Base t where
  opened := hopened
  draining htrue := by
    rw [hdraining] at htrue
    cases htrue
  current hsome := absurd hcurrent hsome
  polled _ _ hsome := absurd hcurrent hsome

theorem scheduleNativeDrainPoll_again (h : t.nativeDrainTimer = true) :
    scheduleNativeDrainPoll { t with nativeDrainTimer := false } = t := by
  cases t
  dsimp only at h
  rw [h]
  rfl

theorem scheduleDrain_scheduled (h : t.draining = false) : (scheduleDrain t).drainScheduled = true := by
  unfold scheduleDrain
  split_ifs with hpending
  · refine hpending.resolve_right ?_
    rw [h]
    exact Bool.false_ne_true
  · rfl

theorem scheduleDrain_same (t : BridgeServerTransport) :
    ∃ scheduled, scheduleDrain t = { t with drainScheduled := scheduled } := by
  unfold scheduleDrain
  split_ifs
  · exact ⟨t.drainScheduled, rfl⟩
  · exact ⟨true, rfl⟩

/-- What the poll timer does. -/
theorem Base.notStranded_iff (h : Base t) : NotStranded t ↔ Awake t := by
  constructor
  · intro hpending hready hsocket hqueue
    rcases hpending hready hsocket hqueue with hscheduled | hdraining | ⟨htimer, hpoll⟩
    · exact .inl hscheduled
    · rw [h.notDraining hready] at hdraining
      cases hdraining
    · refine or_iff_not_imp_right.mpr fun hcurrent => ?_
      have hnone : t.currentSend = none := not_not.mp hcurrent
      have hfired : nativeDrainPoll 0 t = { t with nativeDrainTimer := false } := by
        unfold nativeDrainPoll
        rw [if_neg (by rw [htimer]; exact Bool.false_ne_true ∘ Eq.symm)]
        dsimp only
        rw [if_neg (not_not.mpr hready), hnone]
      rcases hpoll 0 with hscheduled | ⟨hlarge, -⟩
      · rw [hfired] at hscheduled
        exact hscheduled
      · exact absurd hlarge (Nat.not_lt_zero _)
  · intro hawake hready hsocket hqueue
    rcases hawake hready hsocket hqueue with hscheduled | hcurrent
    · exact .inl hscheduled
    · refine .inr (.inr ⟨h.polled hready hsocket hcurrent, fun bufferedAmount => ?_⟩)
      have htimer := h.polled hready hsocket hcurrent
      obtain ⟨item, hitem⟩ := Option.ne_none_iff_exists'.mp hcurrent
      unfold nativeDrainPoll
      rw [if_neg (by rw [htimer]; exact Bool.false_ne_true ∘ Eq.symm)]
      dsimp only
      rw [if_neg (not_not.mpr hready), hitem]
      dsimp only
      rw [if_neg (not_not.mpr hsocket)]
      split_ifs with hlarge
      · refine .inr ⟨hlarge, ?_⟩
        rw [← hitem]
        exact scheduleNativeDrainPoll_again htimer
      · exact .inl (scheduleDrain_scheduled (h.notDraining hready))

/-! ## Functions that do not drain -/

@[simp] theorem reportError_state (error : BridgeServerTransportError) (t : BridgeServerTransport) :
    (reportError error t).state = t.state := by
  unfold reportError
  split_ifs
  · rfl
  · rfl

@[simp] theorem rejectStart_state (error : BridgeServerTransportError) (t : BridgeServerTransport) :
    (rejectStart error t).state = t.state := by
  unfold rejectStart
  split_ifs
  · rfl
  · rfl

@[simp] theorem notifyClosed_state (t : BridgeServerTransport) :
    t.notifyClosed.state = t.state := by
  unfold notifyClosed
  split_ifs
  · rfl
  · rfl

theorem finalizeClose_past (t : BridgeServerTransport) : (finalizeClose t).Past := by
  refine .inr (.inl ?_)
  unfold finalizeClose
  split_ifs with hclosed
  · exact hclosed
  · exact notifyClosed_state _

theorem Past.closeSocket (h : t.Past) (code : BridgeCloseCode) (throws : Bool) :
    (closeSocket code throws t).Past := by
  unfold BridgeServerTransport.closeSocket
  cases t.socket with
  | none => exact h
  | some readyState =>
    dsimp only
    split_ifs
    · exact finalizeClose_past _
    · exact h

theorem Past.trySendControlFrame (h : t.Past) (effect : Effect) :
    (trySendControlFrame effect t).Past := by
  unfold BridgeServerTransport.trySendControlFrame
  split_ifs
  · exact h
  · exact h

end BridgeServerTransport

namespace Running
open BridgeServerTransport

/-- `fail` is running. -/
def Failing (frames : List Frame) : Prop :=
  ∃ error announce closeCode, .failing error announce closeCode ∈ frames

/-- The function leaves nothing waiting that was not, nor a failed transport that can be ready. -/
structure Calm (r r' : Running) : Prop where
  base : Base r'.self
  awake : Awake r.self → Awake r'.self
  past : r.self.Past → r'.self.Past
  failing : Failing r'.frames → Failing r.frames ∨ r'.self.Past

variable {r : Running}

theorem Calm.trans {r' r'' : Running} (h : Calm r r') (h' : Calm r' r'') : Calm r r'' where
  base := h'.base
  awake := h'.awake ∘ h.awake
  past := h'.past ∘ h.past
  failing hframes := (h'.failing hframes).elim
    (fun hfirst => (h.failing hfirst).imp_right h'.past) .inr

theorem failing_of_cons {frame : Frame} {frames : List Frame}
    (hframe : ∀ error announce closeCode, frame ≠ .failing error announce closeCode)
    (h : Failing (frame :: frames)) : Failing frames := by
  obtain ⟨error, announce, closeCode, hmem⟩ := h
  refine ⟨error, announce, closeCode, (List.mem_cons.mp hmem).resolve_left fun heq => ?_⟩
  exact hframe error announce closeCode heq.symm

theorem Calm.refl (h : Base r.self) : Calm r r := ⟨h, id, id, .inl⟩

theorem calm_of_past {r' : Running} (h : r'.self.Past) : Calm r r' :=
  ⟨h.base, fun _ => h.awake, fun _ => h, fun _ => .inr h⟩

/-- A change of fields that no one waits for. -/
theorem calm_of_same {r' : Running} (h : Base r.self) (hstate : r'.self.state = r.self.state)
    (hsocket : r'.self.socket = r.self.socket) (hdraining : r'.self.draining = r.self.draining)
    (hcurrent : r'.self.currentSend = r.self.currentSend)
    (htimer : r'.self.nativeDrainTimer = r.self.nativeDrainTimer)
    (hscheduled : r'.self.drainScheduled = r.self.drainScheduled)
    (hqueue : r'.self.outbox.queue = r.self.outbox.queue)
    (hfailing : Failing r'.frames → Failing r.frames) : Calm r r' where
  base :=
    { opened := by
        rw [hstate, hsocket]
        exact h.opened
      draining := by
        unfold BridgeServerTransport.Past
        rw [hdraining, hstate]
        exact h.draining
      current := by
        unfold BridgeServerTransport.Past
        rw [hcurrent, hstate]
        exact h.current
      polled := by
        rw [hcurrent, hstate, hsocket, htimer]
        exact h.polled }
  awake := by
    unfold Awake
    rw [hcurrent, hstate, hsocket, hscheduled, hqueue]
    exact id
  past := by
    unfold BridgeServerTransport.Past
    rw [hstate]
    exact id
  failing h' := .inl (hfailing h')

theorem fail_past (error : BridgeServerTransportError) (announce : Bool) (closeCode : BridgeCloseCode)
    (r : Running) : (fail error announce closeCode r).self.Past := by
  unfold fail
  split_ifs with hpast
  · exact hpast.elim (fun hclosed => .inr (.inl hclosed)) .inl
  · refine .inr (.inr ?_)
    dsimp only
    rw [reportError_state, rejectStart_state]
    rfl

theorem failing_past (error : BridgeServerTransportError) (announce : Bool)
    (closeCode : BridgeCloseCode) (throws : Bool) (h : r.self.Past) :
    (failing error announce closeCode throws r).self.Past := by
  unfold failing
  dsimp only
  split_ifs
  · exact finalizeClose_past _
  · exact ((h.trySendControlFrame _).trySendControlFrame _).closeSocket _ _
  · exact finalizeClose_past _
  · exact h.closeSocket _ _

theorem start_calm (factory : Except ThrownValue Unit) (h : Base r.self) :
    Calm r (start factory r) := by
  unfold start
  by_cases hidle : r.self.state = .idle
  · rw [if_neg (not_not.mpr hidle)]
    cases factory with
    | error value => exact calm_of_past (fail_past _ _ _ _)
    | ok u =>
      obtain ⟨hdraining, hcurrent⟩ := h.young (.inl hidle)
      refine ⟨base_of_young hdraining hcurrent ?_, ?_, fun hpast => ?_, .inl⟩
      · rintro (hfalse | hfalse)
        · cases hfalse
        · cases hfalse
      · intro _ hfalse
        cases hfalse
      · exact absurd hidle hpast.notIdle
  · rw [if_pos hidle]
    exact calm_of_same h rfl rfl rfl rfl rfl rfl rfl id

theorem send_calm (payload : JSONRPCMessage) (bufferedAmount : ℕ) (h : Base r.self) :
    Calm r (send payload bufferedAmount r) := by
  have hemit : ∀ effect, Calm r { r with self := r.self.emit effect } :=
    fun effect => calm_of_same h rfl rfl rfl rfl rfl rfl rfl id
  unfold send
  dsimp only
  by_cases hready : r.self.state = .ready
  · rw [if_neg (not_not.mpr hready)]
    cases serializeFrame payload with
    | error error => exact hemit _
    | ok frame =>
      dsimp only
      split_ifs
      · exact hemit _
      · have hscheduled := scheduleDrain_scheduled (t := { r.self with
          outbox := r.self.outbox.push frame.1 frame.2 }) (h.notDraining hready)
        obtain ⟨scheduled, hsame⟩ := scheduleDrain_same { r.self with
          outbox := r.self.outbox.push frame.1 frame.2 }
        refine ⟨?_, fun _ _ _ _ => .inl hscheduled, fun hpast => absurd hready hpast.notReady.1, .inl⟩
        rw [hsame]
        exact ⟨h.opened, h.draining, h.current, h.polled⟩
  · rw [if_pos hready]
    exact hemit _

theorem close_calm (throws : Bool) (h : Base r.self) : Calm r (close throws r) := by
  unfold close
  dsimp only
  split_ifs
  · exact .refl h
  · exact calm_of_past (finalizeClose_past _)
  · refine calm_of_past (Past.closeSocket (Past.trySendControlFrame ?_ _) _ _)
    exact .inl rfl
  · refine calm_of_past (Past.closeSocket ?_ _ _)
    exact .inl rfl

theorem nativeDrainPoll_calm (bufferedAmount : ℕ) (h : Base r.self) :
    Calm r { r with self := nativeDrainPoll bufferedAmount r.self } := by
  unfold nativeDrainPoll
  by_cases htimer : r.self.nativeDrainTimer = true
  · rw [if_neg (by rw [htimer]; exact Bool.false_ne_true ∘ Eq.symm)]
    dsimp only
    by_cases hready : r.self.state = .ready
    · rw [if_neg (not_not.mpr hready)]
      cases hcurrent : r.self.currentSend with
      | none =>
        refine ⟨⟨h.opened, h.draining, fun hsome => absurd rfl hsome,
          fun _ _ hsome => absurd rfl hsome⟩, fun hawake hstate hsocket hqueue => .inl ?_, id, .inl⟩
        exact (hawake hstate hsocket hqueue).resolve_right fun hsome => hsome hcurrent
      | some item =>
        dsimp only
        by_cases hsocket : r.self.socket = some .OPEN
        · rw [if_neg (not_not.mpr hsocket)]
          split_ifs with hlarge
          · have hsame := scheduleNativeDrainPoll_again htimer
            rw [hcurrent] at hsame
            rw [hsame]
            exact .refl h
          · have hscheduled := scheduleDrain_scheduled (t := { r.self with
              nativeDrainTimer := false
              currentSend := none
              nativeDrainBaseline := 0
              outbox := r.self.outbox.land item (.ok ()) }) (h.notDraining hready)
            obtain ⟨scheduled, hsame⟩ := scheduleDrain_same { r.self with
              nativeDrainTimer := false
              currentSend := none
              nativeDrainBaseline := 0
              outbox := r.self.outbox.land item (.ok ()) }
            refine ⟨?_, fun _ _ _ _ => .inl hscheduled, fun hpast => ?_, .inl⟩
            · dsimp only
              rw [hsame]
              exact ⟨h.opened, h.draining, fun hsome => absurd rfl hsome,
                fun _ _ hsome => absurd rfl hsome⟩
            · exact absurd hready hpast.notReady.1
        · rw [if_pos hsocket]
          exact ⟨⟨h.opened, h.draining, fun _ => .inl hready, fun _ hopen => absurd hopen hsocket⟩,
            fun _ _ hopen => absurd hopen hsocket, id, .inl⟩
    · rw [if_pos hready]
      exact ⟨⟨h.opened, h.draining, h.current, fun hstate => absurd hstate hready⟩,
        fun _ hstate => absurd hstate hready, id, .inl⟩
  · rw [if_pos (Bool.eq_false_iff.mpr htimer)]
    exact .refl h

theorem handleOpen_calm (sent : Except ThrownValue Unit) (h : Base r.self)
    (hsocket : r.self.socket = some .OPEN) : Calm r (handleOpen sent r) := by
  unfold handleOpen
  by_cases hconnecting : r.self.state = .connecting
  · rw [if_neg (not_not.mpr hconnecting)]
    obtain ⟨hdraining, hcurrent⟩ := h.young (.inr (.inl hconnecting))
    cases sent with
    | error value => exact calm_of_past (fail_past _ _ _ _)
    | ok u =>
      refine ⟨base_of_young hdraining hcurrent fun _ => ?_, ?_, fun hpast => ?_, .inl⟩
      · change r.self.socket ≠ none ∧ r.self.socket ≠ some .CONNECTING
        rw [hsocket]
        decide
      · intro _ hfalse
        cases hfalse
      · exact absurd hconnecting hpast.notConnecting
  · rw [if_pos hconnecting]
    exact .refl h

theorem remoteClosed_past (code : BridgeCloseCode) (throws : Bool) (r : Running) :
    (remoteClosed code throws r).self.Past :=
  Past.closeSocket (.inl rfl) code throws

theorem handleHandshakeMessage_calm (message : BridgeMessage) (throws : Bool) (h : Base r.self)
    (hstate : r.self.state = .handshaking) : Calm r (handleHandshakeMessage message throws r) := by
  obtain ⟨hdraining, hcurrent⟩ := h.young (.inr (.inr hstate))
  have hready : ∀ started : List (Except BridgeServerTransportError Unit),
      Calm r { r with self := scheduleDrain { clearHandshakeTimer r.self with
        state := .ready, started := started, startOpen := false } } := by
    intro started
    have hscheduled := scheduleDrain_scheduled (t := { clearHandshakeTimer r.self with
      state := .ready, started := started, startOpen := false }) hdraining
    obtain ⟨scheduled, hsame⟩ := scheduleDrain_same { clearHandshakeTimer r.self with
      state := .ready, started := started, startOpen := false }
    refine ⟨?_, fun _ _ _ _ => .inl hscheduled, fun hpast => absurd hstate hpast.notReady.2, .inl⟩
    dsimp only
    rw [hsame]
    exact base_of_young hdraining hcurrent fun _ => h.opened (.inl hstate)
  unfold handleHandshakeMessage
  cases message with
  | helloAck version sessionId =>
    dsimp only
    split_ifs
    · exact calm_of_past (fail_past _ _ _ _)
    · exact calm_of_past (fail_past _ _ _ _)
    · exact hready _
    · exact hready _
  | close code => exact calm_of_past (remoteClosed_past code throws r)
  | error code text => exact calm_of_past (fail_past _ _ _ _)
  | hello => exact calm_of_past (fail_past _ _ _ _)
  | mcpMessage payload => exact calm_of_past (fail_past _ _ _ _)
  | invalid => exact calm_of_past (fail_past _ _ _ _)

theorem handleReadyMessage_calm (message : BridgeMessage) (callback : Except ThrownValue Unit)
    (throws : Bool) (h : Base r.self) : Calm r (handleReadyMessage message callback throws r) := by
  unfold handleReadyMessage
  cases message with
  | mcpMessage payload =>
    cases callback with
    | ok u => exact calm_of_same h rfl rfl rfl rfl rfl rfl rfl id
    | error value =>
      exact calm_of_same h rfl rfl rfl rfl rfl rfl rfl (failing_of_cons fun _ _ _ hne => nomatch hne)
  | close code => exact calm_of_past (remoteClosed_past code throws _)
  | error code text => exact calm_of_past (fail_past _ _ _ _)
  | hello => exact calm_of_past (fail_past _ _ _ _)
  | helloAck version sessionId => exact calm_of_past (fail_past _ _ _ _)
  | invalid => exact calm_of_past (fail_past _ _ _ _)

theorem handleIncomingFrame_calm (data : FrameData) (callback : Except ThrownValue Unit)
    (throws : Bool) (h : Base r.self) : Calm r (handleIncomingFrame data callback throws r) := by
  unfold handleIncomingFrame
  by_cases hpast : r.self.state = .closed ∨ r.self.state = .closing
  · rw [if_pos hpast]
    exact .refl h
  · rw [if_neg hpast]
    cases parseFrame data with
    | error error => exact calm_of_past (fail_past _ _ _ _)
    | ok message =>
      dsimp only
      split_ifs with hhandshaking hready
      · exact handleHandshakeMessage_calm message throws h hhandshaking
      · exact handleReadyMessage_calm message callback throws h
      · exact .refl h

theorem socketClosed_calm (h : Base r.self) : Calm r (socketClosed r) := by
  unfold socketClosed
  split_ifs with hclosed hunexpected
  · exact .refl h
  · have hframes : Failing (.finalizeClose :: r.frames) → Failing r.frames :=
      failing_of_cons fun _ _ _ hne => nomatch hne
    unfold reportError
    split_ifs
    · exact calm_of_same h rfl rfl rfl rfl rfl rfl rfl hframes
    · exact calm_of_same h rfl rfl rfl rfl rfl rfl rfl hframes
  · exact calm_of_past (finalizeClose_past _)

theorem receive_calm (callback : Except ThrownValue Unit) (throws : Bool) (h : Base r.self) :
    Calm r (receive callback throws r) := by
  unfold receive
  cases r.self.incomingChain with
  | nil => exact .refl h
  | cons incoming rest =>
    have hrest : Calm r { r with self := { r.self with incomingChain := rest } } :=
      calm_of_same h rfl rfl rfl rfl rfl rfl rfl id
    cases incoming with
    | frame data =>
      have hframe := handleIncomingFrame_calm data callback throws hrest.base
      exact ⟨hframe.base, hframe.awake, hframe.past, hframe.failing⟩
    | socketClosed =>
      have hclosed := socketClosed_calm hrest.base
      exact ⟨hclosed.base, hclosed.awake, hclosed.past, hclosed.failing⟩

theorem handshakeTimeout_calm (h : Base r.self) : Calm r (handshakeTimeout r) := by
  unfold handshakeTimeout
  split_ifs
  · exact .refl h
  · exact calm_of_past (fail_past _ _ _ _)

/-! ## Draining -/

/-- The loop of `drainQueue` comes to a message that does not fit the native buffer, before a message
stays in flight or is not sent. -/
def Overfull (turns : ℕ → SocketTurn) : List (QueuedMessage String) → ℕ → Prop
  | [], _ => False
  | item :: rest, turn =>
    (turns turn).bufferedBeforeSend + item.bytes > BRIDGE_MAX_QUEUED_BYTES ∨
      (turns turn).sent = .ok () ∧
        (turns turn).bufferedAfterSend ≤ (turns turn).bufferedBeforeSend ∧
        Overfull turns rest (turn + 1)

/-- The queue is left without anything pending by the turns that find it overfull. -/
theorem drainLoop_awake_iff (turns : ℕ → SocketTurn) (items : List (QueuedMessage String))
    (turn : ℕ) (hready : r.self.state = .ready) (hsocket : r.self.socket = some .OPEN)
    (hqueue : r.self.outbox.queue = items) (hcurrent : r.self.currentSend = none)
    (hscheduled : r.self.drainScheduled = false) :
    Base (drainLoop turns items turn r).self ∧
      (Awake (drainLoop turns items turn r).self ↔ ¬ Overfull turns items turn) := by
  have hopened : r.self.socket ≠ none ∧ r.self.socket ≠ some .CONNECTING := by
    rw [hsocket]
    decide
  induction items generalizing turn r with
  | nil =>
    refine ⟨base_of_young rfl hcurrent fun _ => hopened, ?_⟩
    exact iff_of_true (fun _ _ hne => absurd hqueue hne) id
  | cons item rest ih =>
    unfold drainLoop Overfull
    dsimp only
    rw [if_neg (not_not.mpr hready), if_neg (not_not.mpr hsocket)]
    by_cases hover : (turns turn).bufferedBeforeSend + item.bytes > BRIDGE_MAX_QUEUED_BYTES
    · rw [if_pos hover]
      refine ⟨base_of_young rfl hcurrent fun _ => hopened, ?_⟩
      refine iff_of_false (fun hawake => ?_) fun hnot => hnot (.inl hover)
      have hne : r.self.outbox.queue ≠ [] := by
        rw [hqueue]
        exact List.cons_ne_nil _ _
      rcases hawake hready hsocket hne with htrue | hsome
      · change r.self.drainScheduled = true at htrue
        rw [hscheduled] at htrue
        cases htrue
      · exact hsome hcurrent
    · rw [if_neg hover]
      cases hsent : (turns turn).sent with
      | error value =>
        dsimp only
        have hpast := fail_past (errorFromUnknown value (.bridge .SESSION_CLOSED)
          "Failed to send bridge message") false .PROTOCOL_ERROR
          ⟨rejectQueued (errorFromUnknown value (.bridge .SESSION_CLOSED)
            "Failed to send bridge message") { r.self with outbox := r.self.outbox.hand item },
            .drained :: r.frames⟩
        refine ⟨hpast.base, iff_of_true hpast.awake ?_⟩
        rintro (htrue | ⟨hfalse, -⟩)
        · exact hover htrue
        · cases hfalse
      | ok u =>
        dsimp only
        split_ifs with hgrown
        · refine ⟨⟨fun _ => hopened, fun hfalse => (by cases hfalse), fun _ => .inl hready,
            fun _ _ _ => rfl⟩, iff_of_true (fun _ _ _ => .inr (Option.some_ne_none item)) ?_⟩
          rintro (htrue | ⟨-, hle, -⟩)
          · exact hover htrue
          · exact absurd hgrown (Nat.not_lt.mpr hle)
        · have hrest : ((r.self.outbox.hand item).land item
              (.ok () : Except BridgeServerTransportError Unit)).queue = rest :=
            Outbox.land_hand_queue hqueue _
          have hnext := ih (turn + 1) (r := { r with self := { r.self with
            outbox := (r.self.outbox.hand item).land item (.ok ()) } })
            hready hsocket hrest hcurrent hscheduled hopened
          refine ⟨hnext.1, hnext.2.trans (not_congr ?_)⟩
          constructor
          · exact fun hover' => .inr ⟨rfl, Nat.not_lt.mp hgrown, hover'⟩
          · rintro (htrue | ⟨-, -, hover'⟩)
            · exact absurd htrue hover
            · exact hover'

theorem drainLoop_failing (turns : ℕ → SocketTurn) (items : List (QueuedMessage String))
    (turn : ℕ) : Failing (drainLoop turns items turn r).frames →
      Failing r.frames ∨ (drainLoop turns items turn r).self.Past := by
  induction items generalizing turn r with
  | nil => exact .inl
  | cons item rest ih =>
    unfold drainLoop
    dsimp only
    by_cases hready : r.self.state = .ready
    · rw [if_neg (not_not.mpr hready)]
      by_cases hsocket : r.self.socket = some .OPEN
      · rw [if_neg (not_not.mpr hsocket)]
        by_cases hover : (turns turn).bufferedBeforeSend + item.bytes > BRIDGE_MAX_QUEUED_BYTES
        · rw [if_pos hover]
          exact .inl
        · rw [if_neg hover]
          cases (turns turn).sent with
          | error value => exact fun _ => .inr (fail_past _ _ _ _)
          | ok u =>
            dsimp only
            split_ifs with hgrown
            · exact .inl
            · exact ih (turn + 1)
      · rw [if_pos hsocket]
        exact fun _ => .inr (fail_past _ _ _ _)
    · rw [if_pos hready]
      exact .inl

/-- A turn of the microtask that drains finds a message too large for what is buffered. -/
def Jams (turns : ℕ → SocketTurn) (t : BridgeServerTransport) : Prop :=
  t.drainScheduled = true ∧ t.state = .ready ∧ t.socket = some .OPEN ∧ t.currentSend = none ∧
    Overfull turns t.outbox.queue 0

theorem drainLoop_calm (turns : ℕ → SocketTurn) (h : Base r.self) (hcurrent : r.self.currentSend = none)
    (hclosed : ¬ (r.self.state = .ready ∧ r.self.socket = some .OPEN))
    (items : List (QueuedMessage String)) (turn : ℕ) :
    Calm r (drainLoop turns items turn { r with self := { r.self with draining := true } }) := by
  have hstopped : Calm r { r with self := { r.self with draining := false } } := by
    refine ⟨base_of_young rfl hcurrent h.opened, fun hawake hready hsocket => ?_, id, .inl⟩
    exact hawake hready hsocket
  cases items with
  | nil => exact hstopped
  | cons item rest =>
    unfold drainLoop
    dsimp only
    by_cases hready : r.self.state = .ready
    · rw [if_neg (not_not.mpr hready), if_pos fun hsocket => hclosed ⟨hready, hsocket⟩]
      exact calm_of_past (fail_past _ _ _ _)
    · rw [if_pos hready]
      exact hstopped

/-- The microtask leaves a message waiting if it jams, and only then. -/
theorem drainMicrotask_awake_iff (turns : ℕ → SocketTurn) (h : Base r.self) (hawake : Awake r.self) :
    Base (drainMicrotask turns r).self ∧
      (Awake (drainMicrotask turns r).self ↔ ¬ Jams turns r.self) := by
  unfold drainMicrotask Jams
  by_cases hscheduled : r.self.drainScheduled = true
  · rw [if_pos hscheduled]
    have hbase : Base { r.self with drainScheduled := false } :=
      ⟨h.opened, h.draining, h.current, h.polled⟩
    unfold drainQueue
    by_cases hbusy : r.self.draining = true ∨ r.self.currentSend.isSome = true
    · rw [if_pos hbusy]
      refine ⟨hbase, iff_of_true (fun hready _ _ => .inr ?_) ?_⟩
      · rcases hbusy with hdraining | hsome
        · exact absurd hready (h.draining hdraining).notReady.1
        · exact Option.isSome_iff_ne_none.mp hsome
      · rintro ⟨-, hready, -, hnone, -⟩
        rcases hbusy with hdraining | hsome
        · exact (h.draining hdraining).notReady.1 hready
        · exact Option.isSome_iff_ne_none.mp hsome hnone
    · rw [if_neg hbusy]
      have hcurrent : r.self.currentSend = none :=
        Option.not_isSome_iff_eq_none.mp (not_or.mp hbusy).2
      by_cases hopen : r.self.state = .ready ∧ r.self.socket = some .OPEN
      · have hloop := drainLoop_awake_iff turns r.self.outbox.queue 0 (r := { r with
          self := { r.self with drainScheduled := false, draining := true } })
          hopen.1 hopen.2 rfl hcurrent rfl
        refine ⟨hloop.1, hloop.2.trans (not_congr ?_)⟩
        exact ⟨fun hover => ⟨hscheduled, hopen.1, hopen.2, hcurrent, hover⟩, fun hjam => hjam.2.2.2.2⟩
      · have hcalm := drainLoop_calm turns (r := { r with
          self := { r.self with drainScheduled := false } }) hbase hcurrent hopen
          r.self.outbox.queue 0
        refine ⟨hcalm.base, iff_of_true ?_ fun hjam => hopen ⟨hjam.2.1, hjam.2.2.1⟩⟩
        exact hcalm.awake fun hready hsocket => absurd ⟨hready, hsocket⟩ hopen
  · rw [if_neg hscheduled]
    exact ⟨h, iff_of_true hawake fun hjam => hscheduled hjam.1⟩

theorem drainMicrotask_failing (turns : ℕ → SocketTurn) :
    Failing (drainMicrotask turns r).frames →
      Failing r.frames ∨ (drainMicrotask turns r).self.Past := by
  unfold drainMicrotask drainQueue
  split_ifs
  · exact .inl
  · exact drainLoop_failing turns _ 0
  · exact .inl

theorem resume_calm (frame : Frame) (throws : Bool) (h : Base r.self)
    (hpast : Failing [frame] → r.self.Past) : Calm r (resume frame throws r) := by
  cases frame with
  | failing error announce closeCode =>
    exact calm_of_past (failing_past error announce closeCode throws
      (hpast ⟨error, announce, closeCode, List.mem_cons_self⟩))
  | messageFailed error => exact calm_of_past (fail_past _ _ _ _)
  | finalizeClose => exact calm_of_past (finalizeClose_past _)
  | drained =>
    exact ⟨⟨h.opened, fun hfalse => (by cases hfalse), h.current, h.polled⟩, id, id, .inl⟩

end Running

/-! ## Runs -/

namespace Scene
open BridgeServerTransport Running
variable {s : Scene}

theorem moveSocket_calm {r : Running} (f : ReadyState → ReadyState) (h : Base r.self)
    (hsocket : r.self.state = .handshaking ∨ r.self.state = .ready → ∀ readyState,
      r.self.socket = some readyState →
        f readyState ≠ .CONNECTING ∧ (f readyState = .OPEN → readyState = .OPEN)) :
    Calm r (moveSocket f r) where
  base :=
    { opened := fun hstate => by
        obtain ⟨readyState, hsome⟩ := Option.ne_none_iff_exists'.mp (h.opened hstate).1
        show r.self.socket.map f ≠ none ∧ r.self.socket.map f ≠ some .CONNECTING
        rw [hsome]
        refine ⟨Option.some_ne_none _, fun hconnecting => ?_⟩
        exact (hsocket hstate readyState hsome).1 (Option.some.inj hconnecting)
      draining := h.draining
      current := h.current
      polled := fun hready hopen hcurrent => by
        obtain ⟨readyState, hsome, hf⟩ := Option.map_eq_some_iff.mp hopen
        refine h.polled hready ?_ hcurrent
        rw [hsome, (hsocket (.inr hready) readyState hsome).2 hf] }
  awake hawake hready hopen := by
    obtain ⟨readyState, hsome, hf⟩ := Option.map_eq_some_iff.mp hopen
    refine hawake hready ?_
    rw [hsome, (hsocket (.inr hready) readyState hsome).2 hf]
  past := id
  failing := .inl

theorem listener_calm {r : Running} {f : Running → Running} (h : Base r.self)
    (hf : Calm r (f r)) : Calm r (listener f r) := by
  unfold listener
  split_ifs
  · exact hf
  · exact .refl h

structure Sound (s : Scene) : Prop where
  base : Base s.transport
  failing : Failing s.stack → s.transport.Past

theorem sound_initial (sessionId : String) (handshakeTimeoutMs : ℤ) :
    Sound (initial sessionId handshakeTimeoutMs) where
  base := base_new sessionId handshakeTimeoutMs
  failing := fun ⟨_, _, _, hmem⟩ => absurd hmem List.not_mem_nil

theorem failing_append {frames stack : List Frame} (h : Failing (frames ++ stack)) :
    Failing frames ∨ Failing stack := by
  obtain ⟨error, announce, closeCode, hmem⟩ := h
  exact (List.mem_append.mp hmem).imp (fun hin => ⟨error, announce, closeCode, hin⟩)
    fun hin => ⟨error, announce, closeCode, hin⟩

theorem not_failing_nil : ¬ Failing [] := fun ⟨_, _, _, hmem⟩ => List.not_mem_nil hmem

theorem Sound.run (h : Sound s) {f : Running → Running}
    (hf : Calm ⟨s.transport, []⟩ (f ⟨s.transport, []⟩)) :
    Sound (s.run f) ∧ (Awake s.transport → Awake (s.run f).transport) := by
  refine ⟨⟨hf.base, fun hframes => ?_⟩, hf.awake⟩
  rcases failing_append hframes with hnew | hold
  · exact (hf.failing hnew).elim (fun hnil => absurd hnil not_failing_nil) id
  · exact hf.past (h.failing hold)

theorem Sound.task (h : Sound s) {f : Running → Running}
    (hf : Calm ⟨s.transport, []⟩ (f ⟨s.transport, []⟩)) :
    Sound (s.task f) ∧ (Awake s.transport → Awake (s.task f).transport) := by
  unfold Scene.task
  split_ifs
  · exact h.run hf
  · exact ⟨h, id⟩

/-- The event is no drain that jams. -/
def Fits (s : Scene) : Event → Prop
  | .drainMicrotask turns => s.stack = [] → ¬ Jams turns s.transport
  | _ => True

theorem Sound.drainMicrotask (h : Sound s) (hawake : Awake s.transport)
    (turns : ℕ → SocketTurn) :
    Sound (s.task (Running.drainMicrotask turns)) ∧
      (Awake (s.task (Running.drainMicrotask turns)).transport ↔ Fits s (.drainMicrotask turns)) := by
  have hdrain := drainMicrotask_awake_iff turns (r := ⟨s.transport, []⟩) h.base hawake
  unfold Scene.task Fits
  by_cases hstack : s.stack = []
  · rw [if_pos hstack]
    refine ⟨⟨hdrain.1, fun hframes => ?_⟩, hdrain.2.trans ⟨fun hfits _ => hfits, fun hfits => hfits hstack⟩⟩
    rcases failing_append hframes with hnew | hold
    · have hpast := drainMicrotask_failing turns (r := ⟨s.transport, []⟩) hnew
      exact hpast.elim (fun hnil => absurd hnil not_failing_nil) id
    · rw [hstack] at hold
      exact absurd hold not_failing_nil
  · rw [if_neg hstack]
    exact ⟨h, iff_of_true hawake fun hnil => absurd hnil hstack⟩

theorem Sound.socketOpen (h : Sound s) (sent : Except ThrownValue Unit)
    (hconnecting : s.transport.socket = some .CONNECTING) :
    Calm ⟨s.transport, []⟩
      (listener (handleOpen sent) (moveSocket (fun _ => .OPEN) ⟨s.transport, []⟩)) := by
  have hmove : Calm ⟨s.transport, []⟩ (moveSocket (fun _ => .OPEN) ⟨s.transport, []⟩) :=
    moveSocket_calm _ h.base fun hstate => absurd hconnecting (h.base.opened hstate).2
  refine hmove.trans (listener_calm hmove.base (handleOpen_calm sent hmove.base ?_))
  show s.transport.socket.map (fun _ => ReadyState.OPEN) = some .OPEN
  rw [hconnecting]
  rfl

theorem Sound.socketClose (h : Sound s) : Calm ⟨s.transport, []⟩
    (listener (fun r => if r.self.state = .closed then r
      else { r with self := { r.self with
        incomingChain := r.self.incomingChain ++ [.socketClosed] } })
      (moveSocket (fun _ => .CLOSED) ⟨s.transport, []⟩)) := by
  have hmove : Calm ⟨s.transport, []⟩ (moveSocket (fun _ => .CLOSED) ⟨s.transport, []⟩) :=
    moveSocket_calm _ h.base fun _ _ _ => ⟨by decide, fun hopen => by cases hopen⟩
  refine hmove.trans (listener_calm hmove.base ?_)
  split_ifs
  · exact .refl hmove.base
  · exact calm_of_same hmove.base rfl rfl rfl rfl rfl rfl rfl id

theorem close_fits (readyState : ReadyState) : ReadyState.close readyState ≠ .CONNECTING ∧
    (ReadyState.close readyState = .OPEN → readyState = .OPEN) := by
  cases readyState <;> decide

/-- A step leaves no message waiting, but for a drain that jams. -/
theorem Sound.step (h : Sound s) (hawake : Awake s.transport) (e : Event) :
    Sound (s.step e) ∧ (Awake (s.step e).transport ↔ Fits s e) := by
  have hcalm : ∀ {s' : Scene}, Sound s' ∧ (Awake s.transport → Awake s'.transport) →
      Sound s' ∧ (Awake s'.transport ↔ True) :=
    fun h' => ⟨h'.1, iff_true_intro (h'.2 hawake)⟩
  cases e with
  | start factory => exact hcalm (h.run (start_calm factory h.base))
  | send payload bufferedAmount => exact hcalm (h.run (send_calm payload bufferedAmount h.base))
  | close throws => exact hcalm (h.run (close_calm throws h.base))
  | drainMicrotask turns => exact h.drainMicrotask hawake turns
  | nativeDrainPoll bufferedAmount =>
    exact hcalm (h.task (nativeDrainPoll_calm bufferedAmount h.base))
  | handshakeTimeout => exact hcalm (h.task (handshakeTimeout_calm h.base))
  | receive callback throws => exact hcalm (h.task (receive_calm callback throws h.base))
  | socketOpen sent =>
    unfold Scene.step
    dsimp only
    split_ifs with hconnecting
    · exact hcalm (h.task (h.socketOpen sent hconnecting))
    · exact hcalm ⟨h, id⟩
  | socketMessage data =>
    exact hcalm (h.task (listener_calm h.base (calm_of_same h.base rfl rfl rfl rfl rfl rfl rfl id)))
  | socketError => exact hcalm (h.task (listener_calm h.base (calm_of_past (fail_past _ _ _ _))))
  | socketClosing => exact hcalm (h.task (moveSocket_calm _ h.base fun _ readyState _ => close_fits readyState))
  | socketClose => exact hcalm (h.task h.socketClose)
  | resume throws =>
    unfold Scene.step
    cases hstack : s.stack with
    | nil => exact hcalm ⟨h, id⟩
    | cons frame stack =>
      have hrest : Sound { s with stack := stack } := by
        refine ⟨h.base, fun ⟨error, announce, closeCode, hmem⟩ => h.failing ?_⟩
        rw [hstack]
        exact ⟨error, announce, closeCode, List.mem_cons_of_mem _ hmem⟩
      refine hcalm (hrest.run (resume_calm frame throws h.base ?_))
      rintro ⟨error, announce, closeCode, hmem⟩
      refine h.failing ⟨error, announce, closeCode, ?_⟩
      rw [hstack, List.mem_singleton.mp hmem]
      exact List.mem_cons_self

/-- After the event, no message waits on the open socket with nothing pending. -/
def Pending (s : Scene) (e : Event) : Prop := NotStranded (s.step e).transport

theorem Sound.pending_iff (h : Sound s) (hawake : Awake s.transport) (e : Event) :
    Pending s e ↔ Fits s e :=
  (h.step hawake e).1.base.notStranded_iff.trans (h.step hawake e).2

end Scene

open BridgeServerTransport in
/-- Nothing is stranded in the runs whose drains do not jam, and something is in every other. -/
theorem pending_iff_no_jam (sessionId : String) (handshakeTimeoutMs : ℤ) (es : List Event) :
    Along Scene.step Scene.Pending (Scene.initial sessionId handshakeTimeoutMs) es ↔
      Along Scene.step Scene.Fits (Scene.initial sessionId handshakeTimeoutMs) es := by
  have hinitial : Scene.Sound (Scene.initial sessionId handshakeTimeoutMs) ∧
      Awake (Scene.initial sessionId handshakeTimeoutMs).transport :=
    ⟨Scene.sound_initial sessionId handshakeTimeoutMs, awake_new sessionId handshakeTimeoutMs⟩
  have hstep : ∀ (s : Scene) (e : Event), s.Sound ∧ Awake s.transport → s.Fits e →
      (s.step e).Sound ∧ Awake (s.step e).transport :=
    fun s e h hfits => ⟨(h.1.step h.2 e).1, (h.1.step h.2 e).2.mpr hfits⟩
  constructor
  · intro hrun
    exact hrun.of_invariant (fun s e h hpending => hstep s e h ((h.1.pending_iff h.2 e).mp hpending))
      (fun s e h hpending => (h.1.pending_iff h.2 e).mp hpending) hinitial
  · intro hrun
    exact hrun.of_invariant hstep (fun s e h hfits => (h.1.pending_iff h.2 e).mpr hfits) hinitial

/-! ## A message that nothing wakes up -/

/-- The socket has taken nothing off its buffer when the first message is drained. -/
def fullBuffer : List Event :=
  [.start (.ok ()), .socketOpen (.ok ()),
    .socketMessage (.text 70 (.value (.helloAck BRIDGE_PROTOCOL_VERSION "session"))),
    .receive (.ok ()) false, .drainMicrotask fun _ => ⟨0, .ok (), 0⟩,
    .send ⟨true, some "\x7b\"type\":\"mcp.message\",\"payload\":\x7b\x7d\x7d"⟩ 0,
    .drainMicrotask fun _ => ⟨BRIDGE_MAX_QUEUED_BYTES, .ok (), 0⟩]

theorem fullBuffer_strands :
    ¬ Along Scene.step Scene.Pending (Scene.initial "session" 10000) fullBuffer := by
  rintro ⟨-, -, -, -, -, -, hpending, -⟩
  rcases hpending rfl rfl (List.cons_ne_nil _ _) with hscheduled | hdraining | ⟨-, hpoll⟩
  · cases hscheduled
  · cases hdraining
  · rcases hpoll 0 with hscheduled | ⟨hlarge, -⟩
    · cases hscheduled
    · exact absurd hlarge (Nat.not_lt_zero _)

end Doctmcp.Agent

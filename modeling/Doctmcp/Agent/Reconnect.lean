import Mathlib.Algebra.Order.Ring.Rat
import Doctmcp.Agent.ServerTransport

/-! # The reconnect controller of the local bridge

`LocalBridgeReconnectController` of `apps/agent`. A function that awaits a promise leaves the rest of
itself in `waiting`; promises settle, transports call back and timers fire in any order. An attempt, a
timer and a promise are known by the place where they were put, and an attempt and its transport have
the same one. A scheduler is known by how soon it may run a callback; it fires no timer before that. -/

namespace Doctmcp.Agent
open Doctmcp.Bridge
set_option autoImplicit false

def BridgeServerTransportErrorCode.name : BridgeServerTransportErrorCode → String
  | .bridge .INVALID_MESSAGE => "INVALID_MESSAGE"
  | .bridge .MESSAGE_TOO_LARGE => "MESSAGE_TOO_LARGE"
  | .bridge .UNSUPPORTED_VERSION => "UNSUPPORTED_VERSION"
  | .bridge .HANDSHAKE_REQUIRED => "HANDSHAKE_REQUIRED"
  | .bridge .UNEXPECTED_MESSAGE => "UNEXPECTED_MESSAGE"
  | .bridge .SESSION_CLOSED => "SESSION_CLOSED"
  | .bridge .TIMEOUT => "TIMEOUT"
  | .bridge .BACKPRESSURE => "BACKPRESSURE"
  | .bridge .AUTH_REQUIRED => "AUTH_REQUIRED"
  | .bridge .AUTH_FAILED => "AUTH_FAILED"
  | .INVALID_STATE => "INVALID_STATE"
  | .SOCKET_ERROR => "SOCKET_ERROR"

namespace Reconnect

/-! ## Backoff -/

/-- Numbers that are finite; the code computes with them in floating point. -/
structure LocalBridgeBackoffPolicy where
  minDelayMs : ℚ
  maxDelayMs : ℚ
  factor : ℚ
  jitterRatio : ℚ
  stableReadyMs : ℚ
  deriving DecidableEq

/-- The check of `validateBackoffPolicy`. -/
def LocalBridgeBackoffPolicy.Valid (policy : LocalBridgeBackoffPolicy) : Prop :=
  ¬ (policy.minDelayMs ≤ 0 ∨ policy.maxDelayMs < policy.minDelayMs ∨ policy.factor < 1 ∨
    policy.jitterRatio < 0 ∨ policy.jitterRatio > 1 ∨ policy.stableReadyMs < 0)

instance (policy : LocalBridgeBackoffPolicy) : Decidable policy.Valid :=
  inferInstanceAs (Decidable (¬ _))

def validateBackoffPolicy (policy : LocalBridgeBackoffPolicy) :
    Except String { policy : LocalBridgeBackoffPolicy // policy.Valid } :=
  if h : policy.Valid then .ok ⟨policy, h⟩
  else .error "Local bridge backoff policy không hợp lệ."

/-- `calculateReconnectDelay`, with what `random` returns, if it is finite. -/
def calculateReconnectDelay (consecutiveFailure : ℕ) (policy : LocalBridgeBackoffPolicy)
    (random : Option ℚ) : Except String ℚ :=
  match validateBackoffPolicy policy with
  | .error error => .error error
  | .ok ⟨validated, _⟩ =>
    if consecutiveFailure = 0 then .error "Reconnect failure counter phải là số nguyên dương."
    else
      let exponential := validated.minDelayMs * validated.factor ^ (consecutiveFailure - 1)
      let base := min validated.maxDelayMs exponential
      let normalizedRandom := match random with
        | some randomValue => min 1 (max 0 randomValue)
        | none => 1 / 2
      let multiplier := 1 + (normalizedRandom * 2 - 1) * validated.jitterRatio
      let rounded : ℚ := (base * multiplier + 1 / 2).floor
      .ok (min validated.maxDelayMs (max validated.minDelayMs rounded))

/-- For a valid policy and a counted failure there is a delay. -/
theorem calculateReconnectDelay_ok {policy : LocalBridgeBackoffPolicy} (h : policy.Valid)
    (consecutiveFailure : ℕ) (random : Option ℚ) :
    ∃ delayMs, calculateReconnectDelay (consecutiveFailure + 1) policy random = .ok delayMs := by
  unfold calculateReconnectDelay validateBackoffPolicy
  rw [dif_pos h]
  exact ⟨_, if_neg (Nat.succ_ne_zero consecutiveFailure)⟩

/-! ## Failures -/

inductive LocalDeviceCredentialProviderErrorCode
  | INVALID_CREDENTIAL_RECORD
  | CREDENTIAL_STORAGE_INVALID
  | CREDENTIAL_STORAGE_FAILED
  deriving DecidableEq

def LocalDeviceCredentialProviderErrorCode.name : LocalDeviceCredentialProviderErrorCode → String
  | .INVALID_CREDENTIAL_RECORD => "INVALID_CREDENTIAL_RECORD"
  | .CREDENTIAL_STORAGE_INVALID => "CREDENTIAL_STORAGE_INVALID"
  | .CREDENTIAL_STORAGE_FAILED => "CREDENTIAL_STORAGE_FAILED"

/-- A thrown or rejected value, by its class. -/
inductive Failure
  | bridge (code : BridgeServerTransportErrorCode)
  | credential (code : LocalDeviceCredentialProviderErrorCode)
  | other
  deriving DecidableEq

inductive LocalBridgeFailureDisposition
  | retry
  | authFailed
  | protocolFailed
  deriving DecidableEq

def classifyBridgeFailure : Failure → LocalBridgeFailureDisposition
  | .bridge (.bridge .AUTH_FAILED) => .authFailed
  | .bridge (.bridge .AUTH_REQUIRED) => .authFailed
  | .bridge .SOCKET_ERROR => .retry
  | .bridge (.bridge .SESSION_CLOSED) => .retry
  | .bridge (.bridge .TIMEOUT) => .retry
  | .bridge _ => .protocolFailed
  | _ => .retry

def failureCode : Failure → String
  | .bridge code => code.name
  | .credential code => code.name
  | .other => "UNKNOWN"

def failureForUnexpectedClose : Failure := .bridge (.bridge .SESSION_CLOSED)

/-! ## Schedulers -/

structure LocalBridgeReconnectScheduler where
  /-- How long a callback waits at least that is set for this delay. -/
  leastDelayMs : ℚ → ℚ

/-- The timers of the host: a delay below one millisecond or past `2 ^ 31 - 1` is one of one
millisecond, and others lose their fraction. -/
def defaultScheduler : LocalBridgeReconnectScheduler where
  leastDelayMs delayMs := if 1 ≤ delayMs ∧ delayMs ≤ 2147483647 then delayMs.floor else 1

/-! ## The controller -/

inductive LocalBridgeReconnectState
  | idle
  | connecting
  | ready
  | backoff
  | pairingRequired
  | authFailed
  | protocolFailed
  | credentialFailed
  | stopped
  deriving DecidableEq

structure LocalDeviceCredential where
  deviceId : String
  credential : String

structure ActiveBridgeAttempt where
  lifecycleGeneration : ℕ
  attemptGeneration : ℕ
  failure : Option Failure
  finalized : Bool

structure LocalBridgeReconnectController where
  url : String
  scheduler : LocalBridgeReconnectScheduler
  backoffPolicy : { policy : LocalBridgeBackoffPolicy // policy.Valid }
  state : LocalBridgeReconnectState
  lifecycleGeneration : ℕ
  attemptGeneration : ℕ
  consecutiveFailures : ℕ
  lastFailureCode : Option String
  retryDelayMs : Option ℚ
  deviceId : Option String
  currentAttempt : Option ℕ
  backoffTimer : Option ℕ
  stableReadyTimer : Option ℕ
  stopPromise : Option ℕ

def LocalBridgeReconnectController.create (url : String)
    (scheduler : LocalBridgeReconnectScheduler)
    (backoffPolicy : { policy : LocalBridgeBackoffPolicy // policy.Valid }) :
    LocalBridgeReconnectController where
  url := url
  scheduler := scheduler
  backoffPolicy := backoffPolicy
  state := .idle
  lifecycleGeneration := 0
  attemptGeneration := 0
  consecutiveFailures := 0
  lastFailureCode := none
  retryDelayMs := none
  deviceId := none
  currentAttempt := none
  backoffTimer := none
  stableReadyTimer := none
  stopPromise := none

/-- What is left of a function that awaits a promise. -/
inductive Waiting
  /-- `startAttempt`, for `credentialProvider.load()`. -/
  | load (lifecycleGeneration : ℕ)
  /-- `startAttempt`, for `runtime.connect(transport)`. -/
  | connect (attempt : ℕ)
  /-- `finalizeAttempt`, for `transport.close()`. -/
  | close (lifecycleGeneration : ℕ) (error : Failure)
  /-- The `finally` of `stop`. -/
  | stop
  deriving DecidableEq

inductive TimerCallback
  | backoff (lifecycleGeneration : ℕ)
  | stableReady (attempt : ℕ)
  deriving DecidableEq

structure Timer where
  callback : TimerCallback
  due : ℚ
  pending : Bool

/-- What the controller does to its surroundings, and of what happens to it the starts of a lifecycle
and the closes that transports report. -/
inductive Effect
  | started
  | state (state : LocalBridgeReconnectState) (lifecycleGeneration attemptGeneration : ℕ)
    (deviceId : Option String)
  | failureObserved (failureCode : String) (attemptGeneration : ℕ) (deviceId : Option String)
  | stable (attemptGeneration : ℕ) (deviceId : Option String)
  | load
  | transportCreated (url deviceId credential : String)
  | connect (attempt : ℕ)
  | closeCalled (attempt : ℕ)
  | closeReported (attempt : ℕ)
  deriving DecidableEq

/-- The controller and what it has to do with: its promises, its timers, the clock, and what
happened, newest first. -/
structure World where
  self : LocalBridgeReconnectController
  attempts : List ActiveBridgeAttempt
  waiting : List (Option Waiting)
  timers : List Timer
  now : ℚ
  history : List (ℚ × Effect)

namespace World

def initial (url : String) (scheduler : LocalBridgeReconnectScheduler)
    (backoffPolicy : { policy : LocalBridgeBackoffPolicy // policy.Valid }) (now : ℚ) : World where
  self := .create url scheduler backoffPolicy
  attempts := []
  waiting := []
  timers := []
  now := now
  history := []

def emit (effect : Effect) (w : World) : World :=
  { w with history := (w.now, effect) :: w.history }

/-- Leave the rest of a function to be done when a promise settles. -/
def await (rest : Waiting) (w : World) : World := { w with waiting := w.waiting ++ [some rest] }

def setState (state : LocalBridgeReconnectState) (w : World) : World :=
  emit (.state state w.self.lifecycleGeneration w.self.attemptGeneration w.self.deviceId)
    { w with self := { w.self with state := state } }

def isCurrentLifecycle (lifecycleGeneration : ℕ) (w : World) : Bool :=
  lifecycleGeneration = w.self.lifecycleGeneration

def isCurrentAttempt (attempt : ℕ) (w : World) : Bool :=
  w.attempts[attempt]?.any fun a =>
    !a.finalized && a.lifecycleGeneration = w.self.lifecycleGeneration &&
      w.self.currentAttempt = some attempt

/-- `scheduler.setTimeout`; the handle is the place of the timer. -/
def setTimeout (callback : TimerCallback) (delayMs : ℚ) (w : World) : World :=
  { w with timers :=
    w.timers ++ [⟨callback, w.now + w.self.scheduler.leastDelayMs delayMs, true⟩] }

/-- `scheduler.clearTimeout`. -/
def clearTimeout (handle : ℕ) (w : World) : World :=
  { w with timers := w.timers.modify handle fun timer => { timer with pending := false } }

def clearBackoffTimer (w : World) : World :=
  match w.self.backoffTimer with
  | none => w
  | some handle =>
    let cleared := clearTimeout handle w
    { cleared with self := { cleared.self with backoffTimer := none } }

def clearStableReadyTimer (w : World) : World :=
  match w.self.stableReadyTimer with
  | none => w
  | some handle =>
    let cleared := clearTimeout handle w
    { cleared with self := { cleared.self with stableReadyTimer := none } }

def scheduleBackoff (lifecycleGeneration : ℕ) (delayMs : ℚ) (w : World) : World :=
  let w := clearBackoffTimer w
  let set := setTimeout (.backoff lifecycleGeneration) delayMs w
  { set with self := { set.self with backoffTimer := some w.timers.length } }

def resetFailuresIfCurrent (attempt : ℕ) (w : World) : World :=
  match w.attempts[attempt]? with
  | none => w
  | some a =>
    if isCurrentAttempt attempt w = false ∨ w.self.state ≠ .ready then w
    else
      let reset := { w.self with consecutiveFailures := 0, lastFailureCode := none }
      emit (.stable a.attemptGeneration w.self.deviceId) { w with self := reset }

def scheduleStableReadyReset (attempt : ℕ) (w : World) : World :=
  let w := clearStableReadyTimer w
  let stableReadyMs := w.self.backoffPolicy.val.stableReadyMs
  if stableReadyMs = 0 then resetFailuresIfCurrent attempt w
  else
    let set := setTimeout (.stableReady attempt) stableReadyMs w
    { set with self := { set.self with stableReadyTimer := some w.timers.length } }

/-- `transitionAfterFailure`, with what `random` returns. -/
def transitionAfterFailure (lifecycleGeneration : ℕ) (error : Failure) (random : Option ℚ)
    (w : World) : World :=
  if isCurrentLifecycle lifecycleGeneration w = false then w
  else
    let w := { w with self := { w.self with
      lastFailureCode := some (failureCode error), retryDelayMs := none } }
    match classifyBridgeFailure error with
    | .authFailed => setState .authFailed w
    | .protocolFailed => setState .protocolFailed w
    | .retry =>
      let consecutiveFailures := w.self.consecutiveFailures + 1
      let w := { w with self := { w.self with consecutiveFailures := consecutiveFailures } }
      match calculateReconnectDelay consecutiveFailures w.self.backoffPolicy.val random with
      | .error _ => w
      | .ok delayMs =>
        let w := setState .backoff { w with self := { w.self with retryDelayMs := some delayMs } }
        scheduleBackoff lifecycleGeneration delayMs w

/-- `finalizeAttempt` after `transport.close()`. -/
def afterClose (lifecycleGeneration : ℕ) (error : Failure) (random : Option ℚ) (w : World) :
    World :=
  if isCurrentLifecycle lifecycleGeneration w = false then w
  else transitionAfterFailure lifecycleGeneration error random w

/-- `this.#currentAttempt = null`, for the attempt that is finalized. -/
def dropAttempt (attempt : ℕ) (w : World) : World :=
  { w with
    self := { w.self with currentAttempt := none }
    attempts := w.attempts.modify attempt fun a => { a with finalized := true } }

def finalizeAttempt (attempt : ℕ) (error : Failure) (alreadyClosed : Bool) (random : Option ℚ)
    (w : World) : World :=
  match w.attempts[attempt]? with
  | none => w
  | some a =>
    if isCurrentAttempt attempt w = false then w
    else
      let w := clearStableReadyTimer (dropAttempt attempt w)
      if alreadyClosed = true then afterClose a.lifecycleGeneration error random w
      else await (.close a.lifecycleGeneration error) (emit (.closeCalled attempt) w)

def startAttempt (lifecycleGeneration : ℕ) (w : World) : World :=
  if isCurrentLifecycle lifecycleGeneration w = false then w
  else
    let w := setState .connecting { w with self := { w.self with retryDelayMs := none } }
    await (.load lifecycleGeneration) (emit .load w)

/-- `startAttempt` with a credential, and with what the transport factory throws. -/
def connectWith (lifecycleGeneration : ℕ) (credential : LocalDeviceCredential)
    (factory : Except Failure Unit) (random : Option ℚ) (w : World) : World :=
  let attemptGeneration := w.self.attemptGeneration + 1
  let w := { w with self := { w.self with
    deviceId := some credential.deviceId, attemptGeneration := attemptGeneration } }
  match factory with
  | .error error => transitionAfterFailure lifecycleGeneration error random w
  | .ok () =>
    let attempt := w.attempts.length
    let w := emit (.transportCreated w.self.url credential.deviceId credential.credential) { w with
      self := { w.self with currentAttempt := some attempt }
      attempts := w.attempts ++ [⟨lifecycleGeneration, attemptGeneration, none, false⟩] }
    await (.connect attempt) (emit (.connect attempt) w)

/-- `startAttempt` after `load()`. -/
def afterLoad (lifecycleGeneration : ℕ) (loaded : Except Failure (Option LocalDeviceCredential))
    (factory : Except Failure Unit) (random : Option ℚ) (w : World) : World :=
  if isCurrentLifecycle lifecycleGeneration w = false then w
  else match loaded with
  | .error error =>
    let code := match error with
      | .credential code => code.name
      | _ => "CREDENTIAL_STORAGE_FAILED"
    setState .credentialFailed { w with self := { w.self with lastFailureCode := some code } }
  | .ok none =>
    setState .pairingRequired
      { w with self := { w.self with lastFailureCode := some "CREDENTIAL_MISSING" } }
  | .ok (some credential) => connectWith lifecycleGeneration credential factory random w

/-- `startAttempt` after `connect(transport)`. -/
def afterConnect (attempt : ℕ) (connected : Except Failure Unit) (w : World) : World :=
  match w.attempts[attempt]?, connected with
  | none, _ => w
  | some a, .error error => finalizeAttempt attempt (a.failure.getD error) false none w
  | some _, .ok () =>
    if isCurrentAttempt attempt w = false then w
    else
      let ready := { w.self with lastFailureCode := none, retryDelayMs := none }
      scheduleStableReadyReset attempt (setState .ready { w with self := ready })

def start (w : World) : World :=
  if w.self.stopPromise ≠ none ∨ w.self.state = .connecting ∨ w.self.state = .ready ∨
      w.self.state = .backoff then w
  else
    let w := clearStableReadyTimer (clearBackoffTimer w)
    let w := { w with self := { w.self with
      lifecycleGeneration := w.self.lifecycleGeneration + 1
      attemptGeneration := 0
      consecutiveFailures := 0
      lastFailureCode := none
      retryDelayMs := none
      deviceId := none } }
    startAttempt w.self.lifecycleGeneration (emit .started w)

/-- A call in state `stopped`, or while another one is not finished, gets a promise and does nothing
else. -/
def stop (w : World) : World :=
  if w.self.stopPromise ≠ none ∨ w.self.state = .stopped then w
  else
    let w := { w with self := { w.self with
      lifecycleGeneration := w.self.lifecycleGeneration + 1 } }
    let w := clearStableReadyTimer (clearBackoffTimer w)
    let w := { w with self := { w.self with retryDelayMs := none } }
    let w := match w.self.currentAttempt with
      | none => setState .stopped w
      | some attempt => emit (.closeCalled attempt) (setState .stopped (dropAttempt attempt w))
    await .stop { w with self := { w.self with stopPromise := some w.waiting.length } }

/-- The `finally` of `stop`. -/
def stopFinished (promise : ℕ) (w : World) : World :=
  if w.self.stopPromise = some promise then
    { w with self := { w.self with stopPromise := none } }
  else w

/-- `transport.onerror`. -/
def onerror (attempt : ℕ) (error : Failure) (w : World) : World :=
  match w.attempts[attempt]? with
  | none => w
  | some a =>
    if isCurrentAttempt attempt w = false then w
    else
      emit (.failureObserved (failureCode error) a.attemptGeneration w.self.deviceId)
        { w with attempts := w.attempts.modify attempt fun a => { a with failure := some error } }

/-- `transport.onclose`. -/
def onclose (attempt : ℕ) (random : Option ℚ) (w : World) : World :=
  match w.attempts[attempt]? with
  | none => w
  | some a =>
    let w := emit (.closeReported attempt) w
    if isCurrentAttempt attempt w = false then w
    else finalizeAttempt attempt (a.failure.getD failureForUnexpectedClose) true random w

/-- The callback of a timer. -/
def fire (handle : ℕ) (callback : TimerCallback) (w : World) : World :=
  match callback with
  | .backoff lifecycleGeneration =>
    if w.self.backoffTimer ≠ some handle then w
    else
      let w := { w with self := { w.self with backoffTimer := none } }
      if isCurrentLifecycle lifecycleGeneration w = false ∨ w.self.state ≠ .backoff then w
      else startAttempt lifecycleGeneration w
  | .stableReady attempt =>
    if w.self.stableReadyTimer ≠ some handle then w
    else resetFailuresIfCurrent attempt { w with self := { w.self with stableReadyTimer := none } }

end World

/-! ## Events -/

inductive Event
  | start
  | stop
  /-- `load()` settles, with what the transport factory throws then. -/
  | loadSettled (promise : ℕ) (loaded : Except Failure (Option LocalDeviceCredential))
    (factory : Except Failure Unit) (random : Option ℚ)
  | connectSettled (promise : ℕ) (connected : Except Failure Unit)
  /-- `transport.close()` in `finalizeAttempt` settles. -/
  | closeSettled (promise : ℕ) (random : Option ℚ)
  /-- `transport.close()` in `stop` settles. -/
  | stopSettled (promise : ℕ)
  | onerror (attempt : ℕ) (error : Failure)
  | onclose (attempt : ℕ) (random : Option ℚ)
  | timeout (handle : ℕ)
  | elapse (ms : ℚ)

namespace World

/-- The function that awaits the promise goes on. -/
def settle (promise : ℕ) (w : World) : World := { w with waiting := w.waiting.set promise none }

def step (w : World) : Event → World
  | .start => w.start
  | .stop => w.stop
  | .loadSettled promise loaded factory random => match w.waiting[promise]? with
    | some (some (.load lifecycleGeneration)) =>
      afterLoad lifecycleGeneration loaded factory random (settle promise w)
    | _ => w
  | .connectSettled promise connected => match w.waiting[promise]? with
    | some (some (.connect attempt)) => afterConnect attempt connected (settle promise w)
    | _ => w
  | .closeSettled promise random => match w.waiting[promise]? with
    | some (some (.close lifecycleGeneration error)) =>
      afterClose lifecycleGeneration error random (settle promise w)
    | _ => w
  | .stopSettled promise => match w.waiting[promise]? with
    | some (some .stop) => stopFinished promise (settle promise w)
    | _ => w
  | .onerror attempt error => onerror attempt error w
  | .onclose attempt random => onclose attempt random w
  | .timeout handle => match w.timers[handle]? with
    | some timer =>
      if timer.due ≤ w.now then fire handle timer.callback (clearTimeout handle w) else w
    | none => w
  | .elapse ms => { w with now := w.now + max 0 ms }

end World
end Reconnect
end Doctmcp.Agent

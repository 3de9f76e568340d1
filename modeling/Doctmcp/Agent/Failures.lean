import Doctmcp.Agent.Attempts

/-! # What the reconnect controller has done

The history tells which attempts were counted as failures, since when the controller has been ready,
and what became of every transport. -/

namespace Doctmcp.Agent.Reconnect
open Doctmcp.Lib
set_option autoImplicit false

/-! ## Reading the history -/

/-- The attempts that were counted as failures, by lifecycle and attempt, newest first. -/
def backoffs : List (ℚ × Effect) → List (ℕ × ℕ)
  | [] => []
  | (_, .state .backoff lifecycle attempt _) :: older => (lifecycle, attempt) :: backoffs older
  | _ :: older => backoffs older

/-- The latest state, since when, and of which lifecycle and attempt. -/
def lastState : List (ℚ × Effect) → Option (ℚ × LocalBridgeReconnectState × ℕ × ℕ)
  | [] => none
  | (since, .state state lifecycle attempt _) :: _ => some (since, state, lifecycle, attempt)
  | _ :: older => lastState older

/-- How many failures were counted since a lifecycle was started or an attempt was stable. -/
def failures : List (ℚ × Effect) → ℕ
  | [] => 0
  | (_, .started) :: _ => 0
  | (_, .stable _ _) :: _ => 0
  | (_, .state .backoff _ _ _) :: older => failures older + 1
  | _ :: older => failures older

/-- An attempt is called stable when it has been ready for so long. -/
def StayedReady (stableReadyMs : ℚ) : List (ℚ × Effect) → Prop
  | [] => True
  | (now, .stable attempt _) :: older =>
    (∃ since lifecycle, lastState older = some (since, .ready, lifecycle, attempt) ∧
      since + stableReadyMs ≤ now) ∧ StayedReady stableReadyMs older
  | _ :: older => StayedReady stableReadyMs older

/-- Nothing that is counted. -/
def Effect.Neutral : Effect → Prop
  | .state _ _ _ _ => False
  | .started => False
  | .stable _ _ => False
  | _ => True

section Neutral
variable {effect : Effect} (h : effect.Neutral) (now : ℚ) (older : List (ℚ × Effect))
include h

theorem backoffs_neutral : backoffs ((now, effect) :: older) = backoffs older := by
  cases effect <;> first | rfl | exact h.elim

theorem lastState_neutral : lastState ((now, effect) :: older) = lastState older := by
  cases effect <;> first | rfl | exact h.elim

theorem failures_neutral : failures ((now, effect) :: older) = failures older := by
  cases effect <;> first | rfl | exact h.elim

theorem stayedReady_neutral (stableReadyMs : ℚ) :
    StayedReady stableReadyMs ((now, effect) :: older) = StayedReady stableReadyMs older := by
  cases effect <;> first | rfl | exact h.elim

end Neutral

theorem backoffs_state {state : LocalBridgeReconnectState} (h : state ≠ .backoff) (now : ℚ)
    (lifecycle attempt : ℕ) (deviceId : Option String) (older : List (ℚ × Effect)) :
    backoffs ((now, .state state lifecycle attempt deviceId) :: older) = backoffs older := by
  cases state <;> first | rfl | exact absurd rfl h

theorem failures_state {state : LocalBridgeReconnectState} (h : state ≠ .backoff) (now : ℚ)
    (lifecycle attempt : ℕ) (deviceId : Option String) (older : List (ℚ × Effect)) :
    failures ((now, .state state lifecycle attempt deviceId) :: older) = failures older := by
  cases state <;> first | rfl | exact absurd rfl h

/-- Longer is also as long. -/
theorem StayedReady.mono {long short : ℚ} (hle : short ≤ long) {history : List (ℚ × Effect)}
    (h : StayedReady long history) : StayedReady short history := by
  induction history with
  | nil => trivial
  | cons entry older ih =>
    obtain ⟨now, effect⟩ := entry
    by_cases hneutral : ∃ attempt deviceId, effect = .stable attempt deviceId
    · obtain ⟨attempt, deviceId, rfl⟩ := hneutral
      obtain ⟨⟨since, lifecycle, hlast, hlong⟩, holder⟩ := h
      exact ⟨⟨since, lifecycle, hlast, (add_le_add_right hle since).trans hlong⟩, ih holder⟩
    · cases effect with
      | stable attempt deviceId => exact absurd ⟨attempt, deviceId, rfl⟩ hneutral
      | _ => exact ih h

/-! ## The record -/

/-- How long an attempt is ready at least when it is called stable. -/
def LocalBridgeReconnectScheduler.stableAfterMs (scheduler : LocalBridgeReconnectScheduler)
    (stableReadyMs : ℚ) : ℚ :=
  if stableReadyMs = 0 then 0 else scheduler.leastDelayMs stableReadyMs

/-- What the history is compared with. -/
structure Ledger where
  state : LocalBridgeReconnectState
  lifecycleGeneration : ℕ
  attemptGeneration : ℕ
  consecutiveFailures : ℕ
  stableAfterMs : ℚ
  currentAttempt : Option ℕ
  stableReadyTimer : Option ℕ
  transports : ℕ
  timers : List Timer
  waiting : List (Option Waiting)
  history : List (ℚ × Effect)

def World.ledger (w : World) : Ledger where
  state := w.self.state
  lifecycleGeneration := w.self.lifecycleGeneration
  attemptGeneration := w.self.attemptGeneration
  consecutiveFailures := w.self.consecutiveFailures
  stableAfterMs := w.self.scheduler.stableAfterMs w.self.backoffPolicy.val.stableReadyMs
  currentAttempt := w.self.currentAttempt
  stableReadyTimer := w.self.stableReadyTimer
  transports := w.attempts.length
  timers := w.timers
  waiting := w.waiting
  history := w.history

/-- The transport is closed, or its `close` was called. -/
def Closed (history : List (ℚ × Effect)) (i : ℕ) : Prop :=
  ∃ time, (time, .closeCalled i) ∈ history ∨ (time, .closeReported i) ∈ history

/-- The latest attempt has not been counted as a failure. -/
def Ledger.Uncounted (l : Ledger) : Prop :=
  (l.lifecycleGeneration, l.attemptGeneration) ∉ backoffs l.history

structure Recorded (l : Ledger) : Prop where
  closed : ∀ i < l.transports, l.currentAttempt = some i ∨ Closed l.history i
  counted : ∀ lifecycle attempt, (lifecycle, attempt) ∈ backoffs l.history →
    lifecycle ≤ l.lifecycleGeneration ∧
      (lifecycle = l.lifecycleGeneration → attempt ≤ l.attemptGeneration)
  once : (backoffs l.history).Nodup
  /-- An attempt that goes on, or waits for its transport to be closed, is counted later. -/
  current : l.currentAttempt ≠ none → l.Uncounted
  closing : ∀ (k : ℕ) (error : Failure),
    l.waiting[k]? = some (some (.close l.lifecycleGeneration error)) → l.Uncounted
  failures : l.consecutiveFailures = failures l.history
  ready : l.state = .ready → ∃ since,
    lastState l.history = some (since, .ready, l.lifecycleGeneration, l.attemptGeneration) ∧
      ∀ h timer, l.stableReadyTimer = some h → l.timers[h]? = some timer →
        timer.due = since + l.stableAfterMs
  stayed : StayedReady l.stableAfterMs l.history

theorem recorded_initial (url : String) (scheduler : LocalBridgeReconnectScheduler)
    (backoffPolicy : { policy : LocalBridgeBackoffPolicy // policy.Valid }) (now : ℚ) :
    Recorded (World.initial url scheduler backoffPolicy now).ledger where
  closed i hi := absurd hi (Nat.not_lt_zero i)
  counted L A h := absurd h List.not_mem_nil
  once := List.nodup_nil
  current h := absurd rfl h
  closing k error h := by cases h
  failures := rfl
  ready h := by cases h
  stayed := trivial

variable {w : World} {l : Ledger}

theorem Closed.cons {history : List (ℚ × Effect)} {i : ℕ} (h : Closed history i)
    (entry : ℚ × Effect) : Closed (entry :: history) i := by
  obtain ⟨time, hin⟩ := h
  exact ⟨time, hin.imp (List.mem_cons_of_mem entry) (List.mem_cons_of_mem entry)⟩

theorem Recorded.note (h : Recorded l) {e : Effect} (hneutral : e.Neutral) (now : ℚ) :
    Recorded { l with history := (now, e) :: l.history } := by
  have hbackoffs := backoffs_neutral hneutral now l.history
  have hsame : l.Uncounted → Ledger.Uncounted { l with history := (now, e) :: l.history } := by
    unfold Ledger.Uncounted
    rw [hbackoffs]
    exact id
  refine ⟨fun i hi => ?_, ?_, ?_, fun hcurrent => hsame (h.current hcurrent),
    fun k error hk => hsame (h.closing k error hk), ?_, fun hready => ?_, ?_⟩
  · exact (h.closed i hi).imp_right fun hclosed => hclosed.cons _
  · rw [hbackoffs]
    exact h.counted
  · rw [hbackoffs]
    exact h.once
  · exact h.failures.trans (failures_neutral hneutral now l.history).symm
  · obtain ⟨since, hsince, hdue⟩ := h.ready hready
    exact ⟨since, (lastState_neutral hneutral now l.history).trans hsince, hdue⟩
  · rw [stayedReady_neutral hneutral]
    exact h.stayed

/-- A state in which no failure is counted and which is not `ready`. -/
theorem Recorded.enter (h : Recorded l) {s : LocalBridgeReconnectState}
    (hbackoff : s ≠ .backoff) (hready : s ≠ .ready) (now : ℚ) (deviceId : Option String) :
    Recorded { l with
      state := s
      history := (now, .state s l.lifecycleGeneration l.attemptGeneration deviceId) ::
        l.history } := by
  have hbackoffs := backoffs_state hbackoff now l.lifecycleGeneration l.attemptGeneration deviceId
    l.history
  have hsame : l.Uncounted → Ledger.Uncounted { l with
      state := s
      history := (now, .state s l.lifecycleGeneration l.attemptGeneration deviceId) ::
        l.history } := by
    unfold Ledger.Uncounted
    rw [hbackoffs]
    exact id
  refine ⟨fun i hi => ?_, ?_, ?_, fun hcurrent => hsame (h.current hcurrent),
    fun k error hk => hsame (h.closing k error hk), ?_, fun hstate => absurd hstate hready, ?_⟩
  · exact (h.closed i hi).imp_right fun hclosed => hclosed.cons _
  · rw [hbackoffs]
    exact h.counted
  · rw [hbackoffs]
    exact h.once
  · exact h.failures.trans (failures_state hbackoff now _ _ deviceId l.history).symm
  · exact h.stayed

/-- A failed attempt is counted. -/
theorem Recorded.count (h : Recorded l) (hcurrent : l.currentAttempt = none)
    (hclosing : ∀ (k : ℕ) (error : Failure),
      l.waiting[k]? ≠ some (some (.close l.lifecycleGeneration error)))
    (huncounted : l.Uncounted) (now : ℚ) (deviceId : Option String) :
    Recorded { l with
      state := .backoff
      consecutiveFailures := l.consecutiveFailures + 1
      history := (now, .state .backoff l.lifecycleGeneration l.attemptGeneration deviceId) ::
        l.history } where
  closed i hi := (h.closed i hi).imp_right fun hclosed => hclosed.cons _
  counted lifecycle attempt hin := by
    rcases List.mem_cons.mp hin with hnew | hold
    · cases hnew
      exact ⟨Nat.le_refl _, fun _ => Nat.le_refl _⟩
    · exact h.counted lifecycle attempt hold
  once := List.nodup_cons.mpr ⟨huncounted, h.once⟩
  current hsome := absurd hcurrent hsome
  closing k error hk := absurd hk (hclosing k error)
  failures := congrArg Nat.succ h.failures
  ready hready := by cases hready
  stayed := h.stayed

theorem Recorded.retime (h : Recorded l) (hready : l.state ≠ .ready) (timers : List Timer)
    (stableReadyTimer : Option ℕ) :
    Recorded { l with timers := timers, stableReadyTimer := stableReadyTimer } :=
  ⟨h.closed, h.counted, h.once, h.current, h.closing, h.failures, fun hstate => absurd hstate hready,
    h.stayed⟩

theorem Recorded.transports_eq (h : Recorded l) {transports : ℕ}
    (hsame : transports = l.transports) : Recorded { l with transports := transports } := by
  rw [hsame]
  exact h

theorem Recorded.giveUp (h : Recorded l) {i : ℕ} (hcurrent : l.currentAttempt = some i)
    (hclosed : Closed l.history i) (timers : List Timer) :
    Recorded { l with currentAttempt := none, stableReadyTimer := none, timers := timers } where
  closed j hj := by
    refine .inr ((h.closed j hj).elim (fun hj' => ?_) id)
    cases hcurrent.symm.trans hj'
    exact hclosed
  counted := h.counted
  once := h.once
  current hsome := absurd rfl hsome
  closing := h.closing
  failures := h.failures
  ready hready := by
    obtain ⟨since, hsince, -⟩ := h.ready hready
    exact ⟨since, hsince, fun handle timer hset => by cases hset⟩
  stayed := h.stayed

theorem Recorded.unset (h : Recorded l) (timers : List Timer) :
    Recorded { l with stableReadyTimer := none, timers := timers } where
  closed := h.closed
  counted := h.counted
  once := h.once
  current := h.current
  closing := h.closing
  failures := h.failures
  ready hready := by
    obtain ⟨since, hsince, -⟩ := h.ready hready
    exact ⟨since, hsince, fun handle timer hset => by cases hset⟩
  stayed := h.stayed

theorem Recorded.beReady (h : Recorded l) (hstable : l.stableReadyTimer = none) (now : ℚ)
    (deviceId : Option String) :
    Recorded { l with
      state := .ready
      history := (now, .state .ready l.lifecycleGeneration l.attemptGeneration deviceId) ::
        l.history } where
  closed i hi := (h.closed i hi).imp_right fun hclosed => hclosed.cons _
  counted := h.counted
  once := h.once
  current := h.current
  closing := h.closing
  failures := h.failures
  ready _ := ⟨now, rfl, fun handle timer hset => by cases hstable.symm.trans hset⟩
  stayed := h.stayed

/-- An attempt that has been ready for long enough resets the failures. -/
theorem Recorded.stabilize (h : Recorded l) {since now : ℚ}
    (hsince : lastState l.history =
      some (since, .ready, l.lifecycleGeneration, l.attemptGeneration))
    (hlong : since + l.stableAfterMs ≤ now) (deviceId : Option String) :
    Recorded { l with
      consecutiveFailures := 0
      history := (now, .stable l.attemptGeneration deviceId) :: l.history } where
  closed i hi := (h.closed i hi).imp_right fun hclosed => hclosed.cons _
  counted := h.counted
  once := h.once
  current := h.current
  closing := h.closing
  failures := rfl
  ready := h.ready
  stayed := ⟨⟨since, _, hsince, hlong⟩, h.stayed⟩

theorem Recorded.next_uncounted (h : Recorded l) (attempt : ℕ) :
    (l.lifecycleGeneration + 1, attempt) ∉ backoffs l.history :=
  fun hin => Nat.not_succ_le_self _ (h.counted _ _ hin).1

/-- A lifecycle starts. -/
theorem Recorded.restart (h : Recorded l) (hcurrent : l.currentAttempt = none)
    (hready : l.state ≠ .ready)
    (hknown : ∀ (k : ℕ) (error : Failure),
      l.waiting[k]? ≠ some (some (.close (l.lifecycleGeneration + 1) error))) (now : ℚ) :
    Recorded { l with
      lifecycleGeneration := l.lifecycleGeneration + 1
      attemptGeneration := 0
      consecutiveFailures := 0
      history := (now, .started) :: l.history } where
  closed i hi := (h.closed i hi).imp_right fun hclosed => hclosed.cons _
  counted lifecycle attempt hin := by
    have hle := (h.counted lifecycle attempt hin).1
    refine ⟨Nat.le_succ_of_le hle, fun heq => ?_⟩
    rw [heq] at hle
    exact absurd hle (Nat.not_succ_le_self _)
  once := h.once
  current hsome := absurd hcurrent hsome
  closing k error hk := absurd hk (hknown k error)
  failures := rfl
  ready hstate := absurd hstate hready
  stayed := h.stayed

/-- A lifecycle is stopped. -/
theorem Recorded.halt (h : Recorded l)
    (hknown : ∀ (k : ℕ) (error : Failure),
      l.waiting[k]? ≠ some (some (.close (l.lifecycleGeneration + 1) error))) (now : ℚ)
    (deviceId : Option String) :
    Recorded { l with
      state := .stopped
      lifecycleGeneration := l.lifecycleGeneration + 1
      history := (now, .state .stopped (l.lifecycleGeneration + 1) l.attemptGeneration deviceId) ::
        l.history } where
  closed i hi := (h.closed i hi).imp_right fun hclosed => hclosed.cons _
  counted lifecycle attempt hin := by
    have hle := (h.counted lifecycle attempt hin).1
    refine ⟨Nat.le_succ_of_le hle, fun heq => ?_⟩
    rw [heq] at hle
    exact absurd hle (Nat.not_succ_le_self _)
  once := h.once
  current _ := h.next_uncounted _
  closing k error hk := absurd hk (hknown k error)
  failures := h.failures
  ready hstate := by cases hstate
  stayed := h.stayed

/-- Another attempt of the lifecycle begins. -/
theorem Recorded.bump (h : Recorded l) (hcurrent : l.currentAttempt = none)
    (hready : l.state ≠ .ready)
    (hclosing : ∀ (k : ℕ) (error : Failure),
      l.waiting[k]? ≠ some (some (.close l.lifecycleGeneration error))) :
    Recorded { l with attemptGeneration := l.attemptGeneration + 1 } ∧
      Ledger.Uncounted { l with attemptGeneration := l.attemptGeneration + 1 } := by
  refine ⟨⟨h.closed, fun lifecycle attempt hin => ?_, h.once, fun hsome => absurd hcurrent hsome,
    fun k error hk => absurd hk (hclosing k error), h.failures, fun hstate => absurd hstate hready,
    h.stayed⟩, fun hin => ?_⟩
  · obtain ⟨hlifecycle, hattempt⟩ := h.counted lifecycle attempt hin
    exact ⟨hlifecycle, fun heq => Nat.le_succ_of_le (hattempt heq)⟩
  · exact Nat.not_succ_le_self _ ((h.counted _ _ hin).2 rfl)

theorem Recorded.create (h : Recorded l) (hcurrent : l.currentAttempt = none)
    (huncounted : l.Uncounted) :
    Recorded { l with
      currentAttempt := some l.transports
      transports := l.transports + 1 } where
  closed i hi := by
    rcases Nat.lt_succ_iff_lt_or_eq.mp hi with hlt | rfl
    · refine .inr ((h.closed i hlt).resolve_left fun hi' => ?_)
      cases hcurrent.symm.trans hi'
    · exact .inl rfl
  counted := h.counted
  once := h.once
  current _ := huncounted
  closing := h.closing
  failures := h.failures
  ready := h.ready
  stayed := h.stayed

theorem Recorded.clearTimeout (h : Recorded w.ledger) (handle : ℕ) :
    Recorded (w.clearTimeout handle).ledger where
  closed := h.closed
  counted := h.counted
  once := h.once
  current := h.current
  closing := h.closing
  failures := h.failures
  ready hready := by
    obtain ⟨since, hsince, hdue⟩ := h.ready hready
    refine ⟨since, hsince, fun j timer hj htimer => ?_⟩
    by_cases hhandle : handle = j
    · rw [hhandle] at htimer
      have hmodify := (List.getElem?_modify_eq _ _ _).symm.trans htimer
      obtain ⟨timer', htimer', rfl⟩ := Option.map_eq_some_iff.mp hmodify
      exact hdue j timer' hj htimer'
    · exact hdue j timer hj ((List.getElem?_modify_ne _ _ hhandle).symm.trans htimer)
  stayed := h.stayed

theorem Recorded.await (h : Recorded w.ledger) {x : Waiting}
    (hx : ∀ error, x = .close w.self.lifecycleGeneration error → w.ledger.Uncounted) :
    Recorded (w.await x).ledger where
  closed := h.closed
  counted := h.counted
  once := h.once
  current := h.current
  closing k error hk := by
    rcases await_waiting hk with hold | ⟨-, hnew⟩
    · exact h.closing k error hold
    · exact hx error hnew.symm
  failures := h.failures
  ready := h.ready
  stayed := h.stayed

theorem Recorded.settle (h : Recorded w.ledger) (k : ℕ) : Recorded (w.settle k).ledger where
  closed := h.closed
  counted := h.counted
  once := h.once
  current := h.current
  closing j error hj := h.closing j error (settle_waiting hj).2
  failures := h.failures
  ready := h.ready
  stayed := h.stayed

/-! ## What the functions record -/

theorem Bare.not_closing (h : Bare w.self.lifecycleGeneration w.core) (k : ℕ) (error : Failure) :
    w.ledger.waiting[k]? ≠ some (some (.close w.self.lifecycleGeneration error)) := by
  intro hk
  cases h.holds.live k _ hk rfl

theorem Holds.not_known {waits : Option ℕ} (h : Holds w.self.lifecycleGeneration w.core waits)
    (k : ℕ) (error : Failure) :
    w.ledger.waiting[k]? ≠ some (some (.close (w.self.lifecycleGeneration + 1) error)) :=
  fun hk => Nat.not_succ_le_self _ (h.known k _ hk)

theorem Recorded.startAttempt (h : Recorded w.ledger) :
    Recorded (w.startAttempt w.self.lifecycleGeneration).ledger := by
  unfold World.startAttempt
  rw [if_neg (by simp [World.isCurrentLifecycle])]
  have hconnecting : Recorded { w.ledger with
      state := .connecting
      history := (w.now, .state .connecting w.self.lifecycleGeneration w.self.attemptGeneration
        w.self.deviceId) :: w.history } :=
    h.enter (s := .connecting) (by simp) (by simp) w.now w.self.deviceId
  have hload := hconnecting.note (e := .load) trivial w.now
  refine Recorded.await ?_ (by simp)
  exact hload

theorem scheduleBackoff_ledger (L : ℕ) (delayMs : ℚ) : ∃ timers,
    (w.scheduleBackoff L delayMs).ledger = { w.ledger with timers := timers } := by
  unfold World.scheduleBackoff
  obtain ⟨timers, hcleared⟩ := clearBackoffTimer_same w
  rw [hcleared]
  exact ⟨_, rfl⟩

theorem Recorded.transitionAfterFailure (h : Recorded w.ledger)
    (hbare : Bare w.self.lifecycleGeneration w.core) (huncounted : w.ledger.Uncounted)
    (error : Failure) (random : Option ℚ) :
    Recorded (w.transitionAfterFailure w.self.lifecycleGeneration error random).ledger := by
  unfold World.transitionAfterFailure
  rw [if_neg (by simp [World.isCurrentLifecycle])]
  dsimp only
  cases classifyBridgeFailure error with
  | authFailed => exact h.enter (s := .authFailed) (by simp) (by simp) w.now w.self.deviceId
  | protocolFailed => exact h.enter (s := .protocolFailed) (by simp) (by simp) w.now w.self.deviceId
  | retry =>
    dsimp only
    obtain ⟨delayMs, hdelay⟩ := calculateReconnectDelay_ok w.self.backoffPolicy.property
      w.self.consecutiveFailures random
    rw [hdelay]
    dsimp only
    have hcount := h.count hbare.current hbare.not_closing huncounted w.now w.self.deviceId
    obtain ⟨timers, hledger⟩ := scheduleBackoff_ledger (w := World.setState .backoff { w with
      self := { w.self with
        lastFailureCode := some (failureCode error)
        consecutiveFailures := w.self.consecutiveFailures + 1
        retryDelayMs := some delayMs } }) w.self.lifecycleGeneration delayMs
    rw [hledger]
    exact hcount.retime (by simp) timers w.self.stableReadyTimer

theorem Recorded.connectWith (h : Recorded w.ledger)
    (hbare : Bare w.self.lifecycleGeneration w.core) (hstate : w.self.state = .connecting)
    (credential : LocalDeviceCredential) (factory : Except Failure Unit) (random : Option ℚ) :
    Recorded (w.connectWith w.self.lifecycleGeneration credential factory random).ledger := by
  have hready : w.self.state ≠ .ready := by
    rw [hstate]
    exact nofun
  obtain ⟨hbump, huncounted⟩ := h.bump hbare.current hready hbare.not_closing
  unfold World.connectWith
  dsimp only
  cases factory with
  | error error =>
    exact Recorded.transitionAfterFailure (w := { w with self := { w.self with
      deviceId := some credential.deviceId
      attemptGeneration := w.self.attemptGeneration + 1 } }) hbump (hbare.generation _) huncounted
      error random
  | ok u =>
    have hcreate := ((hbump.create hbare.current huncounted).note
      (e := .transportCreated w.self.url credential.deviceId credential.credential) trivial
      w.now).note (e := .connect w.attempts.length) trivial w.now
    refine Recorded.await ?_ nofun
    have hlength : (w.attempts ++ [(⟨w.self.lifecycleGeneration, w.self.attemptGeneration + 1, none,
        false⟩ : ActiveBridgeAttempt)]).length = w.attempts.length + 1 := List.length_append
    exact hcreate.transports_eq hlength

theorem Recorded.afterLoad (h : Recorded w.ledger)
    (hbare : Bare w.self.lifecycleGeneration w.core) (hstate : w.self.state = .connecting)
    (loaded : Except Failure (Option LocalDeviceCredential)) (factory : Except Failure Unit)
    (random : Option ℚ) :
    Recorded (w.afterLoad w.self.lifecycleGeneration loaded factory random).ledger := by
  unfold World.afterLoad
  rw [if_neg (by simp [World.isCurrentLifecycle])]
  cases loaded with
  | error error => exact h.enter (s := .credentialFailed) (by simp) (by simp) w.now w.self.deviceId
  | ok credential =>
    cases credential with
    | none =>
      exact h.enter (s := .pairingRequired) (by simp) (by simp) w.now w.self.deviceId
    | some credential => exact h.connectWith hbare hstate credential factory random

theorem dropAttempt_ledger (i : ℕ) :
    (w.dropAttempt i).ledger = { w.ledger with currentAttempt := none } := by
  unfold World.dropAttempt World.ledger
  dsimp only
  rw [List.length_modify]

/-- The attempt is given up. -/
theorem giveUp_ledger (i : ℕ) : ∃ timers, (w.dropAttempt i).clearStableReadyTimer.ledger =
    { w.ledger with currentAttempt := none, stableReadyTimer := none, timers := timers } := by
  obtain ⟨timers, hcleared⟩ := clearStableReadyTimer_same (w.dropAttempt i)
  rw [hcleared]
  have hdropped := dropAttempt_ledger (w := w) i
  refine ⟨timers, ?_⟩
  exact congrArg (fun l : Ledger => { l with stableReadyTimer := none, timers := timers }) hdropped

theorem Recorded.finalizeAttempt (h : Recorded w.ledger) {waits : Option ℕ}
    (hholds : Holds w.self.lifecycleGeneration w.core waits) {i : ℕ}
    (hcurrent : w.self.currentAttempt = some i) (hbackoff : w.self.backoffTimer = none)
    (hwaits : ∀ k, waits = some k → w.waiting[k]? = some (some (.connect i)))
    (error : Failure) (alreadyClosed : Bool) (random : Option ℚ)
    (hclosed : alreadyClosed = true → Closed w.history i) :
    Recorded (w.finalizeAttempt i error alreadyClosed random).ledger := by
  have hbare := hholds.giveUp hcurrent hbackoff hwaits
  have huncounted : w.ledger.Uncounted := h.current (by
    rw [show w.ledger.currentAttempt = some i from hcurrent]
    exact Option.some_ne_none i)
  obtain ⟨timers, hledger⟩ := giveUp_ledger (w := w) i
  obtain ⟨hgeneration, -, -, hnow, -⟩ := giveUp_same (w := w) i
  rw [hholds.finalizeAttempt_eq hcurrent]
  rw [← hgeneration] at hbare ⊢
  cases alreadyClosed with
  | true =>
    unfold World.afterClose
    rw [if_pos rfl, if_neg (by simp [World.isCurrentLifecycle])]
    refine Recorded.transitionAfterFailure ?_ hbare ?_ error random
    · rw [hledger]
      exact h.giveUp hcurrent (hclosed rfl) timers
    · rw [hledger]
      exact huncounted
  | false =>
    have hnoted : Recorded { w.ledger with history := (w.now, .closeCalled i) :: w.history } :=
      h.note (e := .closeCalled i) trivial w.now
    have hgiven := hnoted.giveUp hcurrent ⟨w.now, .inl List.mem_cons_self⟩ timers
    have hsame : (World.emit (.closeCalled i) (w.dropAttempt i).clearStableReadyTimer).ledger =
        { (w.dropAttempt i).clearStableReadyTimer.ledger with
          history := ((w.dropAttempt i).clearStableReadyTimer.now, .closeCalled i) ::
            (w.dropAttempt i).clearStableReadyTimer.ledger.history } := rfl
    rw [hledger, hnow] at hsame
    refine Recorded.await ?_ fun _ _ => ?_
    · rw [hsame]
      exact hgiven
    · rw [hsame]
      exact huncounted

theorem resetFailuresIfCurrent_ready (i : ℕ) {a : ActiveBridgeAttempt}
    (ha : w.attempts[i]? = some a) (hcheck : w.isCurrentAttempt i = true)
    (hready : w.self.state = .ready) :
    (w.resetFailuresIfCurrent i).ledger = { w.ledger with
      consecutiveFailures := 0
      history := (w.now, .stable a.attemptGeneration w.self.deviceId) :: w.history } := by
  unfold World.resetFailuresIfCurrent
  rw [ha]
  dsimp only
  rw [if_neg (by simp [hcheck, hready])]
  rfl

theorem Recorded.resetFailures (h : Recorded w.ledger) {waits : Option ℕ}
    (hholds : Holds w.self.lifecycleGeneration w.core waits) {i : ℕ}
    (hcurrent : w.self.currentAttempt = some i) (hready : w.self.state = .ready) {since : ℚ}
    (hsince : lastState w.history =
      some (since, .ready, w.self.lifecycleGeneration, w.self.attemptGeneration))
    (hlong : since + w.ledger.stableAfterMs ≤ w.now) :
    Recorded (w.resetFailuresIfCurrent i).ledger := by
  obtain ⟨failure, ha⟩ := hholds.attempt i hcurrent
  have ha' : w.attempts[i]? = some _ := ha
  rw [resetFailuresIfCurrent_ready i ha' (hholds.isCurrentAttempt_iff.mpr hcurrent) hready]
  exact h.stabilize hsince hlong w.self.deviceId

theorem Recorded.scheduleStableReadyReset (h : Recorded w.ledger) {waits : Option ℕ}
    (hholds : Holds w.self.lifecycleGeneration w.core waits) {i : ℕ}
    (hcurrent : w.self.currentAttempt = some i) (hready : w.self.state = .ready)
    (hstable : w.self.stableReadyTimer = none) (hsince : lastState w.history =
      some (w.now, .ready, w.self.lifecycleGeneration, w.self.attemptGeneration)) :
    Recorded (w.scheduleStableReadyReset i).ledger := by
  unfold World.scheduleStableReadyReset
  rw [clearStableReadyTimer_none hstable]
  dsimp only
  by_cases hzero : w.self.backoffPolicy.val.stableReadyMs = 0
  · rw [if_pos hzero]
    have hafter : w.ledger.stableAfterMs = 0 := if_pos hzero
    refine h.resetFailures hholds hcurrent hready hsince ?_
    rw [hafter, add_zero]
  · rw [if_neg hzero]
    refine ⟨h.closed, h.counted, h.once, h.current, h.closing, h.failures,
      fun _ => ⟨w.now, hsince, fun handle timer hset htimer => ?_⟩, h.stayed⟩
    cases hset
    cases (setTimeout_new (.stableReady i) _).symm.trans htimer
    have hafter : w.ledger.stableAfterMs = w.self.scheduler.leastDelayMs
        w.self.backoffPolicy.val.stableReadyMs := if_neg hzero
    exact congrArg (w.now + ·) hafter.symm

theorem Recorded.afterConnect (h : Recorded w.ledger)
    (hholds : Holds w.self.lifecycleGeneration w.core none) {i : ℕ}
    (hcurrent : w.self.currentAttempt = some i) (hbackoff : w.self.backoffTimer = none)
    (hstable : w.self.stableReadyTimer = none) (connected : Except Failure Unit) :
    Recorded (w.afterConnect i connected).ledger := by
  obtain ⟨failure, ha⟩ := hholds.attempt i hcurrent
  have ha' : w.attempts[i]? = some _ := ha
  unfold World.afterConnect
  rw [ha']
  cases connected with
  | error error =>
    exact h.finalizeAttempt hholds hcurrent hbackoff (fun _ hnone => by cases hnone) _ _ _ nofun
  | ok u =>
    dsimp only
    rw [if_neg (by simp [hholds.isCurrentAttempt_iff.mpr hcurrent])]
    exact Recorded.scheduleStableReadyReset (w := World.setState .ready { w with self := { w.self with
      lastFailureCode := none, retryDelayMs := none } })
      (h.beReady hstable w.now w.self.deviceId) hholds hcurrent rfl hstable rfl

theorem Recorded.start (h : Recorded w.ledger) (hs : Sound w) : Recorded w.start.ledger := by
  obtain ⟨waits, hholds, hshape⟩ := hs
  unfold World.start
  split_ifs with hbusy
  · exact h
  · obtain ⟨-, hconnecting, hready, hbackoff⟩ := by simpa only [not_or] using hbusy
    obtain ⟨hcurrent, htimer, hstable, -⟩ := hshape.atRest ⟨hconnecting, hready, hbackoff⟩
    rw [clearBackoffTimer_none htimer, clearStableReadyTimer_none hstable]
    exact Recorded.startAttempt (w := World.emit .started { w with self := { w.self with
      lifecycleGeneration := w.self.lifecycleGeneration + 1
      attemptGeneration := 0
      consecutiveFailures := 0
      lastFailureCode := none
      retryDelayMs := none
      deviceId := none } }) (h.restart hcurrent hready hholds.not_known w.now)

theorem Recorded.stop (h : Recorded w.ledger) (hs : Sound w) : Recorded w.stop.ledger := by
  obtain ⟨waits, hholds, -⟩ := hs
  unfold World.stop
  split_ifs with hstopped
  · exact h
  · dsimp only
    obtain ⟨timers, hstable⟩ := clearStableReadyTimer_same (World.clearBackoffTimer { w with
      self := { w.self with lifecycleGeneration := w.self.lifecycleGeneration + 1 } })
    obtain ⟨timers', hbackoff⟩ := clearBackoffTimer_same { w with
      self := { w.self with lifecycleGeneration := w.self.lifecycleGeneration + 1 } }
    rw [hstable, hbackoff]
    have hhalt := h.halt hholds.not_known w.now w.self.deviceId
    split
    · next hcurrent =>
      refine Recorded.await ?_ nofun
      exact hhalt.retime nofun timers none
    · next i hcurrent =>
      have hnoted := hhalt.note (e := .closeCalled i) trivial w.now
      have hgiven := hnoted.giveUp hcurrent ⟨w.now, .inl List.mem_cons_self⟩ timers
      refine Recorded.await ?_ nofun
      have hlength : (w.attempts.modify i fun a => { a with finalized := true }).length =
          w.attempts.length := List.length_modify _ _ _
      exact hgiven.transports_eq hlength

theorem Recorded.onerror (h : Recorded w.ledger) (i : ℕ) (error : Failure) :
    Recorded (w.onerror i error).ledger := by
  unfold World.onerror
  split
  · exact h
  · next a ha =>
    split_ifs
    · exact h
    · have hlength : (w.attempts.modify i fun a => { a with failure := some error }).length =
          w.attempts.length := List.length_modify _ _ _
      exact (h.note (e := .failureObserved (failureCode error) a.attemptGeneration w.self.deviceId)
        trivial w.now).transports_eq hlength

theorem Recorded.onclose (h : Recorded w.ledger) (hs : Sound w) (i : ℕ) (random : Option ℚ) :
    Recorded (w.onclose i random).ledger := by
  obtain ⟨waits, hholds, hshape⟩ := hs
  have hnoted : Recorded (w.emit (.closeReported i)).ledger :=
    h.note (e := .closeReported i) trivial w.now
  unfold World.onclose
  split
  · exact h
  · dsimp only
    split_ifs with hcheck
    · exact hnoted
    · have hcurrent : w.self.currentAttempt = some i :=
        Holds.isCurrentAttempt_iff (w := w.emit (.closeReported i)) hholds |>.mp
          (Bool.not_eq_false _ |>.mp hcheck)
      obtain ⟨hbackoff, hwaits⟩ := hshape.of_current hcurrent
      exact hnoted.finalizeAttempt hholds hcurrent hbackoff hwaits _ _ _ fun _ =>
        ⟨w.now, .inr List.mem_cons_self⟩

theorem Recorded.timeout (h : Recorded w.ledger) (hs : Sound w) {handle : ℕ} {timer : Timer}
    (htimer : w.timers[handle]? = some timer) (hdue : timer.due ≤ w.now) :
    Recorded ((w.clearTimeout handle).fire handle timer.callback).ledger := by
  obtain ⟨waits, hholds, hshape⟩ := hs
  cases hcallback : timer.callback with
  | backoff generation =>
    by_cases hset : w.self.backoffTimer = some handle
    · rw [fire_backoff hset]
      have hstate : w.self.state = .backoff := hshape.state_backoff hset
      obtain ⟨due, hbackoff⟩ := hholds.backoff handle hset
      cases htimer.symm.trans hbackoff
      cases hcallback
      obtain ⟨timers, hcleared⟩ := clearBackoffTimer_same w
      rw [hcleared, if_neg (by simp [World.isCurrentLifecycle, hstate])]
      have hready : w.self.state ≠ .ready := by
        rw [hstate]
        simp
      exact Recorded.startAttempt (w := { w with
        self := { w.self with backoffTimer := none }, timers := timers })
        (h.retime hready timers w.self.stableReadyTimer)
    · rw [fire_backoff_stale hset]
      exact h.clearTimeout handle
  | stableReady attempt =>
    by_cases hset : w.self.stableReadyTimer = some handle
    · rw [fire_stableReady hset]
      have hstate : w.self.state = .ready := hshape.state_ready hset
      obtain ⟨i, due, hcurrent, hstable⟩ := hholds.stable handle hset
      obtain ⟨since, hsince, hlong⟩ := h.ready hstate
      have hdue' := hlong handle timer hset htimer
      cases htimer.symm.trans hstable
      cases hcallback
      obtain ⟨timers, hcleared⟩ := clearStableReadyTimer_same w
      have hholds' := hholds.clearStableReadyTimer
      rw [hcleared] at hholds' ⊢
      refine Recorded.resetFailures (w := { w with
        self := { w.self with stableReadyTimer := none }, timers := timers }) (h.unset timers)
        hholds' hcurrent hstate hsince ?_
      exact hdue'.symm.trans_le hdue
    · rw [fire_stableReady_stale hset]
      exact h.clearTimeout handle

theorem Recorded.afterClose (h : Recorded w.ledger)
    (hbare : Bare w.self.lifecycleGeneration w.core) (huncounted : w.ledger.Uncounted)
    (error : Failure) (random : Option ℚ) :
    Recorded (w.afterClose w.self.lifecycleGeneration error random).ledger := by
  unfold World.afterClose
  rw [if_neg (by simp [World.isCurrentLifecycle])]
  exact h.transitionAfterFailure hbare huncounted error random

theorem Recorded.step (h : Recorded w.ledger) (hs : Sound w) (e : Event) :
    Recorded (w.step e).ledger := by
  cases e with
  | start => exact h.start hs
  | stop => exact h.stop hs
  | loadSettled k loaded factory random =>
    unfold World.step
    dsimp only
    split
    · next generation hx =>
      by_cases hgeneration : generation = w.self.lifecycleGeneration
      · obtain ⟨hbare, hstate, -⟩ := hs.settle_bare hx hgeneration nofun
        rw [hgeneration]
        exact Recorded.afterLoad (w := w.settle k) (h.settle k) hbare hstate loaded factory random
      · rw [afterLoad_stale (w := w.settle k) hgeneration]
        exact h.settle k
    · exact h
  | connectSettled k connected =>
    unfold World.step
    dsimp only
    split
    · next i hx =>
      by_cases hcurrent : w.self.currentAttempt = some i
      · obtain ⟨hholds, hshape⟩ := hs.live hx hcurrent
        obtain ⟨hbackoff, hstable, -⟩ := hshape.connecting hshape.of_waits
        exact Recorded.afterConnect (w := w.settle k) (h.settle k) hholds.settle_waits hcurrent
          hbackoff hstable connected
      · rw [afterConnect_stale (w := w.settle k) (not_current hcurrent)]
        exact h.settle k
    · exact h
  | closeSettled k random =>
    unfold World.step
    dsimp only
    split
    · next generation error hx =>
      by_cases hgeneration : generation = w.self.lifecycleGeneration
      · obtain ⟨hbare, -⟩ := hs.settle_bare hx hgeneration nofun
        rw [hgeneration] at hx ⊢
        exact Recorded.afterClose (w := w.settle k) (h.settle k) hbare (h.closing k error hx) error
          random
      · rw [afterClose_stale (w := w.settle k) hgeneration]
        exact h.settle k
    · exact h
  | stopSettled k =>
    unfold World.step
    dsimp only
    split
    · unfold World.stopFinished
      split_ifs
      · exact h.settle k
      · exact h.settle k
    · exact h
  | onerror i error => exact h.onerror i error
  | onclose i random => exact h.onclose hs i random
  | timeout handle =>
    unfold World.step
    dsimp only
    split
    · next timer htimer =>
      split_ifs with hdue
      · exact h.timeout hs htimer hdue
      · exact h
    · exact h
  | elapse ms => exact h

end Doctmcp.Agent.Reconnect

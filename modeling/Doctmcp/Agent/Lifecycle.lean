import Mathlib.Tactic.NormNum
import Doctmcp.Agent.Failures

/-! # What holds of every run of the reconnect controller

What is superseded does nothing (`superseded_unmoved`), and after a stop or a failure that no retry
can mend nothing is attempted before the next start (`Hopeless`). How long an attempt is ready before
it resets the failures is up to the scheduler (`Waits`): the timers of the host do not wait for a
delay that is past their limit. -/

namespace Doctmcp.Agent.Reconnect
open Doctmcp.Lib
set_option autoImplicit false

variable {w : World} {waits : Option ℕ}

/-! ## Superseded callbacks -/

/-- What settles, calls back or fires is of a lifecycle or an attempt that is not the current one. -/
def Superseded (w : World) : Event → Prop
  | .loadSettled k _ _ _ => ∃ generation, w.waiting[k]? = some (some (.load generation)) ∧
      generation ≠ w.self.lifecycleGeneration
  | .connectSettled k _ => ∃ i, w.waiting[k]? = some (some (.connect i)) ∧
      w.isCurrentAttempt i = false
  | .closeSettled k _ => ∃ generation error,
      w.waiting[k]? = some (some (.close generation error)) ∧
        generation ≠ w.self.lifecycleGeneration
  | .onerror i _ => w.isCurrentAttempt i = false
  | .onclose i _ => w.isCurrentAttempt i = false
  | .timeout h => ∃ timer, w.timers[h]? = some timer ∧ match timer.callback with
    | .backoff generation => generation ≠ w.self.lifecycleGeneration
    | .stableReady i => w.isCurrentAttempt i = false
  | _ => False

/-- Neither the controller nor a timer that is pending is another one. -/
structure Unmoved (w w' : World) : Prop where
  self : w'.self = w.self
  timers : ∀ (h : ℕ) (callback : TimerCallback) (due : ℚ), w'.timers[h]? = some ⟨callback, due, true⟩ ↔
    w.timers[h]? = some ⟨callback, due, true⟩

theorem Unmoved.refl (w : World) : Unmoved w w := ⟨rfl, fun _ _ _ => Iff.rfl⟩

theorem unmoved_clearTimeout {handle : ℕ} {timer : Timer}
    (htimer : w.timers[handle]? = some timer) (hpending : timer.pending ≠ true) :
    Unmoved w (w.clearTimeout handle) where
  self := rfl
  timers h callback due := by
    constructor
    · intro hset
      exact (clearTimeout_pending hset rfl).2
    · intro hset
      refine (clearTimeout_other ?_).trans hset
      rintro rfl
      cases htimer.symm.trans hset
      exact hpending rfl

theorem Sound.superseded_unmoved (hs : Sound w) (e : Event) (h : Superseded w e) :
    Unmoved w (w.step e) := by
  obtain ⟨waits, hholds, -⟩ := hs
  cases e with
  | start => exact h.elim
  | stop => exact h.elim
  | elapse ms => exact h.elim
  | stopSettled k => exact h.elim
  | loadSettled k loaded factory random =>
    obtain ⟨generation, hx, hgeneration⟩ := h
    unfold World.step
    dsimp only
    rw [hx]
    dsimp only
    rw [afterLoad_stale (w := w.settle k) hgeneration]
    exact ⟨rfl, fun _ _ _ => Iff.rfl⟩
  | connectSettled k connected =>
    obtain ⟨i, hx, hi⟩ := h
    unfold World.step
    dsimp only
    rw [hx]
    dsimp only
    rw [afterConnect_stale (w := w.settle k) hi]
    exact ⟨rfl, fun _ _ _ => Iff.rfl⟩
  | closeSettled k random =>
    obtain ⟨generation, error, hx, hgeneration⟩ := h
    unfold World.step
    dsimp only
    rw [hx]
    dsimp only
    rw [afterClose_stale (w := w.settle k) hgeneration]
    exact ⟨rfl, fun _ _ _ => Iff.rfl⟩
  | onerror i error =>
    show Unmoved w (w.onerror i error)
    rw [onerror_stale h]
    exact .refl w
  | onclose i random =>
    show Unmoved w (w.onclose i random)
    rcases onclose_stale h random with heq | heq
    · rw [heq]
      exact .refl w
    · rw [heq]
      exact ⟨rfl, fun _ _ _ => Iff.rfl⟩
  | timeout handle =>
    obtain ⟨timer, htimer, hcallback⟩ := h
    unfold World.step
    dsimp only
    rw [htimer]
    dsimp only
    split_ifs with hdue
    · obtain ⟨callback, due, pending⟩ := timer
      cases callback with
      | backoff generation =>
        have hset : w.self.backoffTimer ≠ some handle := by
          intro hset
          obtain ⟨due', hbackoff⟩ := hholds.backoff handle hset
          cases htimer.symm.trans hbackoff
          exact hcallback rfl
        dsimp only
        rw [fire_backoff_stale hset]
        refine unmoved_clearTimeout htimer fun hpending => ?_
        rcases hholds.pending handle _ htimer hpending with hset' | hstable
        · exact hset hset'
        · obtain ⟨i, due', -, hstable'⟩ := hholds.stable handle hstable
          cases htimer.symm.trans hstable'
      | stableReady attempt =>
        have hset : w.self.stableReadyTimer ≠ some handle := by
          intro hset
          obtain ⟨i, due', hcurrent, hstable⟩ := hholds.stable handle hset
          cases htimer.symm.trans hstable
          have hcheck : w.isCurrentAttempt attempt = false := hcallback
          rw [hholds.isCurrentAttempt_iff.mpr hcurrent] at hcheck
          cases hcheck
        dsimp only
        rw [fire_stableReady_stale hset]
        refine unmoved_clearTimeout htimer fun hpending => ?_
        rcases hholds.pending handle _ htimer hpending with hbackoff | hset'
        · obtain ⟨due', hbackoff'⟩ := hholds.backoff handle hbackoff
          cases htimer.symm.trans hbackoff'
        · exact hset hset'
    · exact .refl w

/-! ## Failures that no retry mends -/

/-- How many attempts were begun, with the loading of a credential. -/
def begun (history : List (ℚ × Effect)) : ℕ := (history.map Prod.snd).count .load

/-- No attempt is under way but one that has failed, and not with a failure that is retried. -/
structure Hopeless (w : World) : Prop where
  live : ∀ (k : ℕ) (x : Waiting), w.waiting[k]? = some (some x) →
    x.Live w.self.lifecycleGeneration w.self.currentAttempt →
      ∃ error, x = .close w.self.lifecycleGeneration error ∧ classifyBridgeFailure error ≠ .retry
  current : w.self.currentAttempt = none
  backoff : w.self.backoffTimer = none

/-- Nothing is attempted. -/
structure Quiet (w w' : World) : Prop where
  hopeless : Hopeless w'
  transports : w'.attempts.length = w.attempts.length
  begun : begun w'.history = begun w.history

theorem Quiet.trans {w' w'' : World} (h : Quiet w w') (h' : Quiet w' w'') : Quiet w w'' :=
  ⟨h'.hopeless, h'.transports.trans h.transports, h'.begun.trans h.begun⟩

theorem begun_cons (effect : Effect) (h : effect ≠ .load) (now : ℚ)
    (older : List (ℚ × Effect)) : begun ((now, effect) :: older) = begun older :=
  List.count_cons_of_ne h

theorem begun_state (now : ℚ) (state : LocalBridgeReconnectState) (lifecycle attempt : ℕ)
    (deviceId : Option String) (older : List (ℚ × Effect)) :
    begun ((now, .state state lifecycle attempt deviceId) :: older) = begun older :=
  begun_cons (.state state lifecycle attempt deviceId) nofun now older

/-- What happens leaves less waiting. -/
theorem Hopeless.quiet (h : Hopeless w) {w' : World}
    (hgeneration : w'.self.lifecycleGeneration = w.self.lifecycleGeneration)
    (hcurrent : w'.self.currentAttempt = w.self.currentAttempt)
    (hbackoff : w'.self.backoffTimer = w.self.backoffTimer)
    (hwaiting : ∀ (k : ℕ) (x : Waiting), w'.waiting[k]? = some (some x) →
      w.waiting[k]? = some (some x))
    (htransports : w'.attempts.length = w.attempts.length)
    (hbegun : begun w'.history = begun w.history) : Quiet w w' where
  hopeless :=
    { live := by
        rw [hgeneration, hcurrent]
        exact fun k x hx => h.live k x (hwaiting k x hx)
      current := hcurrent.trans h.current
      backoff := hbackoff.trans h.backoff }
  transports := htransports
  begun := hbegun

theorem Hopeless.settle (h : Hopeless w) (k : ℕ) : Quiet w (w.settle k) :=
  h.quiet rfl rfl rfl (fun _ _ hx => (settle_waiting hx).2) rfl rfl

theorem Hopeless.transitionAfterFailure (h : Hopeless w) {error : Failure}
    (hretry : classifyBridgeFailure error ≠ .retry) (random : Option ℚ) :
    Quiet w (w.transitionAfterFailure w.self.lifecycleGeneration error random) := by
  unfold World.transitionAfterFailure
  rw [if_neg (by simp [World.isCurrentLifecycle])]
  dsimp only
  cases hclass : classifyBridgeFailure error with
  | authFailed => exact h.quiet rfl rfl rfl (fun _ _ hx => hx) rfl (begun_state _ _ _ _ _ _)
  | protocolFailed => exact h.quiet rfl rfl rfl (fun _ _ hx => hx) rfl (begun_state _ _ _ _ _ _)
  | retry => exact absurd hclass hretry

theorem Sound.hopeless_of_atRest (hs : Sound w) (hrest : AtRest w.self.state) : Hopeless w := by
  obtain ⟨waits, hholds, hshape⟩ := hs
  obtain ⟨hcurrent, hbackoff, -, hwaits⟩ := hshape.atRest hrest
  refine ⟨fun k x hx hlive => ?_, hcurrent, hbackoff⟩
  cases hwaits.symm.trans (hholds.live k x hx hlive)

/-- After a call of `stop` the controller is stopped. -/
theorem Sound.stop_quiet (hs : Sound w) : Quiet w w.stop := by
  have hsound := hs.stop
  obtain ⟨waits, -, hshape⟩ := hs
  have hstop : w.stop.self.state = .stopped ∧ w.stop.attempts.length = w.attempts.length ∧
      begun w.stop.history = begun w.history := by
    unfold World.stop
    split_ifs with hstopped
    · exact ⟨hstopped.elim hshape.stopping id, rfl, rfl⟩
    · dsimp only
      obtain ⟨timers, hstable⟩ := clearStableReadyTimer_same (World.clearBackoffTimer { w with
        self := { w.self with lifecycleGeneration := w.self.lifecycleGeneration + 1 } })
      obtain ⟨timers', hbackoff⟩ := clearBackoffTimer_same { w with
        self := { w.self with lifecycleGeneration := w.self.lifecycleGeneration + 1 } }
      rw [hstable, hbackoff]
      split
      · exact ⟨rfl, rfl, begun_state _ _ _ _ _ _⟩
      · next i hcurrent =>
        refine ⟨rfl, List.length_modify _ _ _, (begun_cons (.closeCalled i) (by simp) _ _).trans ?_⟩
        exact begun_state _ _ _ _ _ _
  refine ⟨hsound.hopeless_of_atRest ?_, hstop.2.1, hstop.2.2⟩
  rw [hstop.1]
  exact ⟨nofun, nofun, nofun⟩

theorem Hopeless.step (h : Hopeless w) (hs : Sound w) {e : Event} (he : e ≠ .start) :
    Quiet w (w.step e) := by
  have hrefl : Quiet w w := h.quiet rfl rfl rfl (fun _ _ hx => hx) rfl rfl
  have hstale : ∀ i, w.isCurrentAttempt i = false := fun i =>
    not_current fun hcurrent => by cases h.current.symm.trans hcurrent
  cases e with
  | start => exact absurd rfl he
  | stop => exact hs.stop_quiet
  | loadSettled k loaded factory random =>
    unfold World.step
    dsimp only
    split
    · next generation hx =>
      by_cases hgeneration : generation = w.self.lifecycleGeneration
      · obtain ⟨error, hclose, -⟩ := h.live k _ hx hgeneration
        cases hclose
      · rw [afterLoad_stale (w := w.settle k) hgeneration]
        exact h.settle k
    · exact hrefl
  | connectSettled k connected =>
    unfold World.step
    dsimp only
    split
    · next i hx =>
      rw [afterConnect_stale (w := w.settle k) (hstale i)]
      exact h.settle k
    · exact hrefl
  | closeSettled k random =>
    unfold World.step
    dsimp only
    split
    · next generation error hx =>
      by_cases hgeneration : generation = w.self.lifecycleGeneration
      · obtain ⟨error', hclose, hretry⟩ := h.live k _ hx hgeneration
        cases hclose
        unfold World.afterClose
        rw [if_neg (by simp [World.isCurrentLifecycle, World.settle])]
        have hsettled := h.settle k
        exact hsettled.trans (Hopeless.transitionAfterFailure hsettled.hopeless hretry random)
      · rw [afterClose_stale (w := w.settle k) hgeneration]
        exact h.settle k
    · exact hrefl
  | stopSettled k =>
    unfold World.step
    dsimp only
    split
    · unfold World.stopFinished
      split_ifs
      · exact h.quiet rfl rfl rfl (fun _ _ hx => (settle_waiting hx).2) rfl rfl
      · exact h.settle k
    · exact hrefl
  | onerror i error =>
    show Quiet w (w.onerror i error)
    rw [onerror_stale (hstale i)]
    exact hrefl
  | onclose i random =>
    show Quiet w (w.onclose i random)
    rcases onclose_stale (hstale i) random with heq | heq
    · rw [heq]
      exact hrefl
    · rw [heq]
      exact h.quiet rfl rfl rfl (fun _ _ hx => hx) rfl
        (begun_cons (.closeReported i) (by simp) _ _)
  | timeout handle =>
    unfold World.step
    dsimp only
    split
    · next timer htimer =>
      split_ifs with hdue
      · have hunset : w.self.backoffTimer ≠ some handle ∧
            w.self.stableReadyTimer ≠ some handle := by
          obtain ⟨waits, hholds, -⟩ := hs
          refine ⟨fun hset => ?_, fun hset => ?_⟩
          · cases h.backoff.symm.trans hset
          · obtain ⟨i, due, hcurrent, -⟩ := hholds.stable handle hset
            cases h.current.symm.trans hcurrent
        have hcleared : Quiet w (w.clearTimeout handle) :=
          h.quiet rfl rfl rfl (fun _ _ hx => hx) rfl rfl
        cases timer.callback with
        | backoff generation =>
          rw [fire_backoff_stale hunset.1]
          exact hcleared
        | stableReady attempt =>
          rw [fire_stableReady_stale hunset.2]
          exact hcleared
      · exact hrefl
    · exact hrefl
  | elapse ms => exact h.quiet rfl rfl rfl (fun _ _ hx => hx) rfl rfl

/-- Nothing is attempted until the next call of `start`. -/
theorem Hopeless.run (h : Hopeless w) (hs : Sound w) {es : List Event} (hes : .start ∉ es) :
    Quiet w (runFrom World.step w es) := by
  induction es generalizing w with
  | nil => exact h.quiet rfl rfl rfl (fun _ _ hx => hx) rfl rfl
  | cons e es ih =>
    rw [List.mem_cons, not_or] at hes
    have hstep := h.step hs (Ne.symm hes.1)
    exact hstep.trans (ih hstep.hopeless (hs.step e) hes.2)

/-- An attempt fails, and the failure is not one that is retried: the credential is missing or cannot
be loaded, or the last error that the transport reported, or else that of the connect or of the close,
is one of authentication or of the protocol. -/
def FailsForGood (w : World) : Event → Prop
  | .loadSettled k loaded factory _ =>
    w.waiting[k]? = some (some (.load w.self.lifecycleGeneration)) ∧
      ((∃ error, loaded = .error error) ∨ loaded = .ok none ∨
        ∃ credential error, loaded = .ok (some credential) ∧ factory = .error error ∧
          classifyBridgeFailure error ≠ .retry)
  | .connectSettled k connected => ∃ i a error, w.waiting[k]? = some (some (.connect i)) ∧
      w.self.currentAttempt = some i ∧ w.attempts[i]? = some a ∧ connected = .error error ∧
        classifyBridgeFailure (a.failure.getD error) ≠ .retry
  | .onclose i _ => ∃ a, w.self.currentAttempt = some i ∧ w.attempts[i]? = some a ∧
      classifyBridgeFailure (a.failure.getD failureForUnexpectedClose) ≠ .retry
  | _ => False

theorem Bare.hopeless (h : Bare w.self.lifecycleGeneration w.core) : Hopeless w :=
  ⟨fun k x hx hlive => (by cases h.holds.live k x hx hlive), h.current, h.backoff⟩

theorem afterLoad_quiet (h : Bare w.self.lifecycleGeneration w.core)
    {loaded : Except Failure (Option LocalDeviceCredential)} {factory : Except Failure Unit}
    (hfails : (∃ error, loaded = .error error) ∨ loaded = .ok none ∨
      ∃ credential error, loaded = .ok (some credential) ∧ factory = .error error ∧
        classifyBridgeFailure error ≠ .retry) (random : Option ℚ) :
    Quiet w (w.afterLoad w.self.lifecycleGeneration loaded factory random) := by
  unfold World.afterLoad
  rw [if_neg (by simp [World.isCurrentLifecycle])]
  rcases hfails with ⟨error, rfl⟩ | rfl | ⟨credential, error, rfl, rfl, hretry⟩
  · exact h.hopeless.quiet rfl rfl rfl (fun _ _ hx => hx) rfl (begun_state _ _ _ _ _ _)
  · exact h.hopeless.quiet rfl rfl rfl (fun _ _ hx => hx) rfl (begun_state _ _ _ _ _ _)
  · have hbare : Bare w.self.lifecycleGeneration
        { w.core with attemptGeneration := w.self.attemptGeneration + 1 } := h.generation _
    have hquiet := Hopeless.transitionAfterFailure (w := { w with self := { w.self with
      deviceId := some credential.deviceId
      attemptGeneration := w.self.attemptGeneration + 1 } }) (Bare.hopeless hbare) hretry random
    exact ⟨hquiet.hopeless, hquiet.transports, hquiet.begun⟩

theorem finalizeAttempt_quiet (h : Holds w.self.lifecycleGeneration w.core waits) {i : ℕ}
    (hcurrent : w.self.currentAttempt = some i) (hbackoff : w.self.backoffTimer = none)
    (hwaits : ∀ k, waits = some k → w.waiting[k]? = some (some (.connect i))) {error : Failure}
    (hretry : classifyBridgeFailure error ≠ .retry) (alreadyClosed : Bool) (random : Option ℚ) :
    Quiet w (w.finalizeAttempt i error alreadyClosed random) := by
  have hbare := h.giveUp hcurrent hbackoff hwaits
  obtain ⟨hgeneration, -, -, -, hhistory, hlength⟩ := giveUp_same (w := w) i
  rw [h.finalizeAttempt_eq hcurrent]
  rw [← hgeneration] at hbare ⊢
  have hhopeless := Bare.hopeless hbare
  cases alreadyClosed with
  | true =>
    unfold World.afterClose
    rw [if_pos rfl, if_neg (by simp [World.isCurrentLifecycle])]
    have hquiet := hhopeless.transitionAfterFailure hretry random
    refine ⟨hquiet.hopeless, hquiet.transports.trans hlength, hquiet.begun.trans ?_⟩
    rw [hhistory]
  | false =>
    refine ⟨⟨fun k x hx hlive => ?_, hhopeless.current, hhopeless.backoff⟩, hlength,
      (begun_cons (.closeCalled i) (by simp) _ _).trans ?_⟩
    · rcases await_waiting hx with hold | ⟨-, rfl⟩
      · exact hhopeless.live k x hold hlive
      · exact ⟨error, rfl, hretry⟩
    · rw [hhistory]

/-- A failure that is not retried leaves nothing that goes on to another attempt. -/
theorem Sound.quiet_of_fails (hs : Sound w) {e : Event} (h : FailsForGood w e) :
    Quiet w (w.step e) := by
  cases e with
  | loadSettled k loaded factory random =>
    obtain ⟨hx, hfails⟩ := h
    obtain ⟨hbare, -⟩ := hs.settle_bare hx rfl nofun
    unfold World.step
    dsimp only
    rw [hx]
    have hquiet := afterLoad_quiet (w := w.settle k) hbare hfails random
    exact ⟨hquiet.hopeless, hquiet.transports, hquiet.begun⟩
  | connectSettled k connected =>
    obtain ⟨i, a, error, hx, hcurrent, ha, rfl, hretry⟩ := h
    obtain ⟨hholds, hshape⟩ := hs.live hx hcurrent
    obtain ⟨hbackoff, -⟩ := hshape.connecting hshape.of_waits
    unfold World.step
    dsimp only
    rw [hx]
    dsimp only
    unfold World.afterConnect
    rw [show (w.settle k).attempts[i]? = some a from ha]
    have hquiet := finalizeAttempt_quiet (w := w.settle k) hholds.settle_waits hcurrent hbackoff
      (fun _ hnone => by cases hnone) hretry false none
    exact ⟨hquiet.hopeless, hquiet.transports, hquiet.begun⟩
  | onclose i random =>
    obtain ⟨a, hcurrent, ha, hretry⟩ := h
    obtain ⟨waits, hholds, hshape⟩ := hs
    obtain ⟨hbackoff, hwaits⟩ := hshape.of_current hcurrent
    have hcheck : (w.emit (.closeReported i)).isCurrentAttempt i = true :=
      Holds.isCurrentAttempt_iff (w := w.emit (.closeReported i)) hholds |>.mpr hcurrent
    show Quiet w (w.onclose i random)
    unfold World.onclose
    rw [ha]
    dsimp only
    rw [if_neg (by simp [hcheck])]
    have hquiet := finalizeAttempt_quiet (w := w.emit (.closeReported i)) hholds hcurrent hbackoff
      hwaits hretry true random
    refine ⟨hquiet.hopeless, hquiet.transports, hquiet.begun.trans ?_⟩
    exact begun_cons (.closeReported i) nofun _ _
  | start => exact h.elim
  | stop => exact h.elim
  | closeSettled k random => exact h.elim
  | stopSettled k => exact h.elim
  | onerror i error => exact h.elim
  | timeout handle => exact h.elim
  | elapse ms => exact h.elim

/-! ## What holds of a state -/

structure Consistent (w : World) : Prop where
  /-- One attempt at most is current, and no other is open. -/
  one : ∀ i j, w.isCurrentAttempt i = true → w.isCurrentAttempt j = true → i = j
  opened : ∀ i a, w.attempts[i]? = some a → a.finalized = false → w.isCurrentAttempt i = true
  /-- A backoff timer is pending in state `backoff`, and in no other. -/
  backoff : (∃ (h generation : ℕ) (due : ℚ),
    w.timers[h]? = some ⟨.backoff generation, due, true⟩) ↔ w.self.state = .backoff
  ready : w.self.state = .ready → ∃ i, w.isCurrentAttempt i = true
  /-- A transport is that of the current attempt, or it is closed, or its `close` was called. -/
  closed : ∀ i < w.attempts.length, w.isCurrentAttempt i = true ∨ Closed w.history i
  /-- No attempt is counted twice. -/
  once : (backoffs w.history).Nodup
  /-- Only a start and a stable attempt reset the failures. -/
  failures : w.self.consecutiveFailures = failures w.history

theorem Sound.consistent (hs : Sound w) (h : Recorded w.ledger) : Consistent w := by
  obtain ⟨waits, hholds, hshape⟩ := hs
  refine ⟨fun i j hi hj => ?_, fun i a ha hopen => ?_, ⟨?_, fun hstate => ?_⟩, fun hready => ?_,
    fun i hi => ?_, h.once, h.failures⟩
  · rw [hholds.isCurrentAttempt_iff] at hi hj
    exact Option.some.inj (hi.symm.trans hj)
  · exact hholds.isCurrentAttempt_iff.mpr (hholds.finalized i a ha hopen)
  · rintro ⟨handle, generation, due, htimer⟩
    rcases hholds.pending handle _ htimer rfl with hset | hset
    · exact hshape.state_backoff hset
    · obtain ⟨i, due', -, hstable⟩ := hholds.stable handle hset
      cases htimer.symm.trans hstable
  · obtain ⟨handle, hset⟩ := Option.ne_none_iff_exists'.mp (hshape.backoff hstate).2.1
    obtain ⟨due, htimer⟩ := hholds.backoff handle hset
    exact ⟨handle, _, due, htimer⟩
  · obtain ⟨i, hcurrent⟩ := Option.ne_none_iff_exists'.mp (hshape.ready hready).1
    exact ⟨i, hholds.isCurrentAttempt_iff.mpr hcurrent⟩
  · exact (h.closed i hi).imp_left hholds.isCurrentAttempt_iff.mpr

/-! ## How long an attempt is ready before it is stable -/

section Options
variable (w : World)

/-- What the controller was constructed with. -/
def World.options (w : World) :
    LocalBridgeReconnectScheduler × { policy : LocalBridgeBackoffPolicy // policy.Valid } :=
  (w.self.scheduler, w.self.backoffPolicy)

theorem clearBackoffTimer_options : w.clearBackoffTimer.options = w.options := by
  obtain ⟨timers, hcleared⟩ := clearBackoffTimer_same w
  rw [hcleared]
  rfl

theorem clearStableReadyTimer_options : w.clearStableReadyTimer.options = w.options := by
  obtain ⟨timers, hcleared⟩ := clearStableReadyTimer_same w
  rw [hcleared]
  rfl

theorem scheduleBackoff_options (generation : ℕ) (delayMs : ℚ) :
    (w.scheduleBackoff generation delayMs).options = w.options :=
  clearBackoffTimer_options w

theorem resetFailuresIfCurrent_options (i : ℕ) :
    (w.resetFailuresIfCurrent i).options = w.options := by
  unfold World.resetFailuresIfCurrent
  split
  · rfl
  · split_ifs <;> rfl

theorem scheduleStableReadyReset_options (i : ℕ) :
    (w.scheduleStableReadyReset i).options = w.options := by
  unfold World.scheduleStableReadyReset
  dsimp only
  split_ifs
  · rw [resetFailuresIfCurrent_options, clearStableReadyTimer_options]
  · exact clearStableReadyTimer_options w

theorem transitionAfterFailure_options (generation : ℕ) (error : Failure) (random : Option ℚ) :
    (w.transitionAfterFailure generation error random).options = w.options := by
  unfold World.transitionAfterFailure
  split_ifs
  · rfl
  · dsimp only
    split
    · rfl
    · rfl
    · split
      · rfl
      · exact scheduleBackoff_options _ _ _

theorem afterClose_options (generation : ℕ) (error : Failure) (random : Option ℚ) :
    (w.afterClose generation error random).options = w.options := by
  unfold World.afterClose
  split_ifs
  · rfl
  · exact transitionAfterFailure_options w generation error random

theorem finalizeAttempt_options (i : ℕ) (error : Failure) (alreadyClosed : Bool)
    (random : Option ℚ) : (w.finalizeAttempt i error alreadyClosed random).options = w.options := by
  unfold World.finalizeAttempt
  split
  · rfl
  · split_ifs
    · rfl
    · exact (afterClose_options _ _ _ _).trans (clearStableReadyTimer_options (w.dropAttempt i))
    · exact clearStableReadyTimer_options (w.dropAttempt i)

theorem startAttempt_options (generation : ℕ) : (w.startAttempt generation).options = w.options := by
  unfold World.startAttempt
  split_ifs <;> rfl

theorem afterLoad_options (generation : ℕ)
    (loaded : Except Failure (Option LocalDeviceCredential)) (factory : Except Failure Unit)
    (random : Option ℚ) : (w.afterLoad generation loaded factory random).options = w.options := by
  unfold World.afterLoad
  split_ifs
  · rfl
  · split
    · rfl
    · rfl
    · unfold World.connectWith
      dsimp only
      split
      · exact transitionAfterFailure_options _ _ _ _
      · rfl

theorem afterConnect_options (i : ℕ) (connected : Except Failure Unit) :
    (w.afterConnect i connected).options = w.options := by
  unfold World.afterConnect
  split
  · rfl
  · exact finalizeAttempt_options _ _ _ _ _
  · split_ifs
    · rfl
    · exact scheduleStableReadyReset_options _ _

theorem start_options : w.start.options = w.options := by
  unfold World.start
  split_ifs
  · rfl
  · refine (startAttempt_options _ _).trans ?_
    exact (clearStableReadyTimer_options w.clearBackoffTimer).trans (clearBackoffTimer_options w)

theorem stop_options : w.stop.options = w.options := by
  unfold World.stop
  split_ifs
  · rfl
  · dsimp only
    have hcleared := (clearStableReadyTimer_options _).trans (clearBackoffTimer_options { w with
      self := { w.self with lifecycleGeneration := w.self.lifecycleGeneration + 1 } })
    split
    · exact hcleared
    · exact hcleared

theorem fire_options (handle : ℕ) (callback : TimerCallback) :
    (w.fire handle callback).options = w.options := by
  unfold World.fire
  dsimp only
  split
  · split_ifs
    · rfl
    · rfl
    · exact startAttempt_options _ _
  · split_ifs
    · rfl
    · exact resetFailuresIfCurrent_options _ _

/-- No event changes what the controller was constructed with. -/
theorem step_options (e : Event) : (w.step e).options = w.options := by
  cases e with
  | start => exact start_options w
  | stop => exact stop_options w
  | loadSettled k loaded factory random =>
    unfold World.step
    dsimp only
    split
    · exact afterLoad_options _ _ _ _ _
    · rfl
  | connectSettled k connected =>
    unfold World.step
    dsimp only
    split
    · exact afterConnect_options _ _ _
    · rfl
  | closeSettled k random =>
    unfold World.step
    dsimp only
    split
    · exact afterClose_options _ _ _ _
    · rfl
  | stopSettled k =>
    unfold World.step
    dsimp only
    split
    · unfold World.stopFinished
      split_ifs <;> rfl
    · rfl
  | onerror i error =>
    change (w.onerror i error).options = _
    unfold World.onerror
    split
    · rfl
    · split_ifs <;> rfl
  | onclose i random =>
    change (w.onclose i random).options = _
    unfold World.onclose
    split
    · rfl
    · dsimp only
      split_ifs
      · rfl
      · exact finalizeAttempt_options _ _ _ _ _
  | timeout handle =>
    unfold World.step
    dsimp only
    split
    · split_ifs
      · exact fire_options _ _ _
      · rfl
    · rfl
  | elapse ms => rfl

end Options

/-- The scheduler makes an attempt wait for so long, or the attempt is not to wait at all. -/
def LocalBridgeReconnectScheduler.Waits (scheduler : LocalBridgeReconnectScheduler)
    (stableReadyMs : ℚ) : Prop :=
  stableReadyMs = 0 ∨ stableReadyMs ≤ scheduler.leastDelayMs stableReadyMs

theorem waits_iff {scheduler : LocalBridgeReconnectScheduler} {stableReadyMs : ℚ} :
    scheduler.Waits stableReadyMs ↔ stableReadyMs ≤ scheduler.stableAfterMs stableReadyMs := by
  unfold LocalBridgeReconnectScheduler.Waits LocalBridgeReconnectScheduler.stableAfterMs
  by_cases hzero : stableReadyMs = 0
  · rw [if_pos hzero]
    exact iff_of_true (.inl hzero) hzero.le
  · rw [if_neg hzero]
    exact or_iff_right hzero

/-- The timers of the host keep whole milliseconds up to their limit. -/
theorem defaultScheduler_waits_iff {stableReadyMs : ℚ} :
    defaultScheduler.Waits stableReadyMs ↔
      stableReadyMs ≤ 1 ∨ stableReadyMs ≤ 2147483647 ∧ stableReadyMs = stableReadyMs.floor := by
  unfold LocalBridgeReconnectScheduler.Waits defaultScheduler
  dsimp only
  by_cases hwhole : 1 ≤ stableReadyMs ∧ stableReadyMs ≤ 2147483647
  · rw [if_pos hwhole]
    constructor
    · rintro (hzero | hfloor)
      · exact .inl (hzero.trans_le zero_le_one)
      · exact .inr ⟨hwhole.2, le_antisymm hfloor (Rat.floor_le _)⟩
    · rintro (hone | ⟨-, hfloor⟩)
      · obtain rfl : stableReadyMs = 1 := le_antisymm hone hwhole.1
        exact .inr (by decide)
      · exact .inr hfloor.le
  · rw [if_neg hwhole]
    constructor
    · rintro (hzero | hone)
      · exact .inl (hzero.trans_le zero_le_one)
      · exact .inl hone
    · rintro (hone | ⟨hlimit, -⟩)
      · exact .inr hone
      · exact .inr (not_le.mp fun hlow => hwhole ⟨hlow, hlimit⟩).le

section Early
variable (url : String) (scheduler : LocalBridgeReconnectScheduler)
  (backoffPolicy : { policy : LocalBridgeBackoffPolicy // policy.Valid }) (now : ℚ)

/-- An attempt connects, and its timer fires as soon as it may. -/
def earlyRun : List Event :=
  [.start, .loadSettled 0 (.ok (some ⟨"device", "credential"⟩)) (.ok ()) none,
    .connectSettled 1 (.ok ()),
    .elapse (scheduler.leastDelayMs backoffPolicy.val.stableReadyMs), .timeout 0]

theorem early_history (hzero : backoffPolicy.val.stableReadyMs ≠ 0) :
    let waited := scheduler.leastDelayMs backoffPolicy.val.stableReadyMs
    (runFrom World.step (World.initial url scheduler backoffPolicy now)
      (earlyRun scheduler backoffPolicy)).history =
      [(now + max 0 waited, .stable 1 (some "device")),
        (now, .state .ready 1 1 (some "device")), (now, .connect 0),
        (now, .transportCreated url "device" "credential"), (now, .load),
        (now, .state .connecting 1 0 none), (now, .started)] := by
  intro waited
  have hdue : now + waited ≤ now + max 0 waited :=
    (add_le_add_iff_left now).mpr (le_max_right 0 waited)
  simp [earlyRun, World.step, World.initial, LocalBridgeReconnectController.create, World.start,
    World.clearBackoffTimer, World.clearStableReadyTimer, World.startAttempt, World.emit,
    World.await, World.setState, World.isCurrentLifecycle, World.settle, World.afterLoad,
    World.connectWith, World.afterConnect, World.isCurrentAttempt, World.scheduleStableReadyReset,
    hzero, World.setTimeout, World.clearTimeout, World.fire, World.resetFailuresIfCurrent, waited,
    hdue]

/-- Where the scheduler does not wait, an attempt is called stable too early. -/
theorem early_not_stayed (h : ¬ scheduler.Waits backoffPolicy.val.stableReadyMs) :
    ¬ StayedReady backoffPolicy.val.stableReadyMs
      (runFrom World.step (World.initial url scheduler backoffPolicy now)
        (earlyRun scheduler backoffPolicy)).history := by
  obtain ⟨hzero, hshort⟩ := not_or.mp h
  have hpositive : 0 < backoffPolicy.val.stableReadyMs := by
    refine lt_of_le_of_ne (not_lt.mp fun hnegative => ?_) (Ne.symm hzero)
    exact backoffPolicy.property (.inr (.inr (.inr (.inr (.inr hnegative)))))
  rw [early_history url scheduler backoffPolicy now hzero]
  rintro ⟨⟨since, lifecycle, hsince, hlong⟩, -⟩
  obtain ⟨rfl, -⟩ := Prod.mk.inj (Option.some.inj hsince)
  exact absurd ((add_le_add_iff_left _).mp hlong) (not_le.mpr (max_lt hpositive (not_le.mp hshort)))

end Early

/-! ## Every run -/

/-- What holds of every state that the controller reaches. -/
structure Controlled (w : World) : Prop where
  consistent : Consistent w
  superseded : ∀ e, Superseded w e → Unmoved w (w.step e)
  stopped : ∀ later, .start ∉ later → Quiet w (runFrom World.step (w.step .stop) later)
  failed : ∀ e later, FailsForGood w e → .start ∉ later →
    Quiet w (runFrom World.step (w.step e) later)

theorem controlled (hs : Sound w) (h : Recorded w.ledger) : Controlled w where
  consistent := hs.consistent h
  superseded e := hs.superseded_unmoved e
  stopped _ hlater := hs.stop_quiet.trans (hs.stop_quiet.hopeless.run (hs.step .stop) hlater)
  failed e _ hfails hlater :=
    have hquiet := hs.quiet_of_fails hfails
    hquiet.trans (hquiet.hopeless.run (hs.step e) hlater)

/-- Whatever the order in which things settle, call back and fire. And in every run an attempt that
resets the failures has stayed ready for `stableReadyMs`, exactly if the scheduler keeps a callback
waiting for so long. -/
theorem reconnect_consistent (url : String) (scheduler : LocalBridgeReconnectScheduler)
    (backoffPolicy : { policy : LocalBridgeBackoffPolicy // policy.Valid }) (now : ℚ) :
    let run := runFrom World.step (World.initial url scheduler backoffPolicy now)
    (∀ es, Controlled (run es)) ∧
      ((∀ es, Controlled (run es) ∧
          StayedReady backoffPolicy.val.stableReadyMs (run es).history) ↔
        scheduler.Waits backoffPolicy.val.stableReadyMs) := by
  intro run
  have hrun : ∀ es, (Sound (run es) ∧ Recorded (run es).ledger) ∧
      (run es).options = (scheduler, backoffPolicy) := by
    refine runFrom_invariant (P := fun w => (Sound w ∧ Recorded w.ledger) ∧
      w.options = (scheduler, backoffPolicy)) ?_ ?_
    · exact fun w e h => ⟨⟨h.1.1.step e, h.1.2.step h.1.1 e⟩, (step_options w e).trans h.2⟩
    · exact ⟨⟨sound_initial url scheduler backoffPolicy now,
        recorded_initial url scheduler backoffPolicy now⟩, rfl⟩
  have hcontrolled : ∀ es, Controlled (run es) := fun es =>
    controlled (hrun es).1.1 (hrun es).1.2
  refine ⟨hcontrolled, fun hstayed => ?_, fun hwaits es => ⟨hcontrolled es, ?_⟩⟩
  · by_contra hshort
    exact early_not_stayed url scheduler backoffPolicy now hshort (hstayed _).2
  · obtain ⟨⟨-, hrecorded⟩, hoptions⟩ := hrun es
    obtain ⟨hscheduler, hpolicy⟩ := Prod.mk.inj hoptions
    have hstayed : StayedReady ((run es).self.scheduler.stableAfterMs
      (run es).self.backoffPolicy.val.stableReadyMs) (run es).history := hrecorded.stayed
    rw [hscheduler, hpolicy] at hstayed
    exact hstayed.mono (waits_iff.mp hwaits)

/-- A timer of the host that is set for `2 ^ 31` milliseconds fires after one. -/
theorem reconnect_timer_overflow :
    ∃ backoffPolicy : { policy : LocalBridgeBackoffPolicy // policy.Valid },
      backoffPolicy.val = ⟨500, 30000, 2, 1 / 5, 2147483648⟩ ∧
      ¬ ∀ es, StayedReady backoffPolicy.val.stableReadyMs (runFrom World.step
        (World.initial "wss://host.example/bridge" defaultScheduler backoffPolicy 0) es).history := by
  have hvalid : LocalBridgeBackoffPolicy.Valid ⟨500, 30000, 2, 1 / 5, 2147483648⟩ := by
    unfold LocalBridgeBackoffPolicy.Valid
    norm_num
  refine ⟨⟨_, hvalid⟩, rfl, fun hstayed => ?_⟩
  have hshort : ¬ defaultScheduler.Waits 2147483648 := by
    rw [defaultScheduler_waits_iff]
    decide
  exact early_not_stayed _ defaultScheduler ⟨_, hvalid⟩ 0 hshort (hstayed _)

end Doctmcp.Agent.Reconnect

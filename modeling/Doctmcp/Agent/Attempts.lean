import Doctmcp.Lib.Runs
import Doctmcp.Agent.Reconnect

/-! # The attempts of the reconnect controller

Whatever settles, calls back or fires, at most one thing goes on: the loading of a credential, a
connect, a close, or a backoff (`Holds` and `Shape`). All else that is still to come is of a lifecycle
or an attempt that is over, and does nothing. -/

namespace Doctmcp.Agent.Reconnect
open Doctmcp.Lib
set_option autoImplicit false

/-! ## What is set -/

/-- What the controller finds of its own when something settles, calls back or fires. -/
structure Core where
  currentAttempt : Option ℕ
  backoffTimer : Option ℕ
  stableReadyTimer : Option ℕ
  attemptGeneration : ℕ
  attempts : List ActiveBridgeAttempt
  timers : List Timer
  waiting : List (Option Waiting)

def World.core (w : World) : Core where
  currentAttempt := w.self.currentAttempt
  backoffTimer := w.self.backoffTimer
  stableReadyTimer := w.self.stableReadyTimer
  attemptGeneration := w.self.attemptGeneration
  attempts := w.attempts
  timers := w.timers
  waiting := w.waiting

/-- The rest of a function finds its lifecycle or its attempt current. -/
def Waiting.Live (lifecycleGeneration : ℕ) (currentAttempt : Option ℕ) : Waiting → Prop
  | .load generation => generation = lifecycleGeneration
  | .connect attempt => currentAttempt = some attempt
  | .close generation _ => generation = lifecycleGeneration
  | .stop => False

/-- The lifecycle or the attempt has begun. -/
def Waiting.Known (lifecycleGeneration attempts : ℕ) : Waiting → Prop
  | .load generation => generation ≤ lifecycleGeneration
  | .connect attempt => attempt < attempts
  | .close generation _ => generation ≤ lifecycleGeneration
  | .stop => True

/-- No function goes on but the one that awaits the promise `waits`, no timer fires but the two that
are set, and no attempt is open but the current one. -/
structure Holds (lifecycleGeneration : ℕ) (c : Core) (waits : Option ℕ) : Prop where
  attempt : ∀ i, c.currentAttempt = some i → ∃ failure,
    c.attempts[i]? = some ⟨lifecycleGeneration, c.attemptGeneration, failure, false⟩
  finalized : ∀ i a, c.attempts[i]? = some a → a.finalized = false → c.currentAttempt = some i
  backoff : ∀ h, c.backoffTimer = some h →
    ∃ due, c.timers[h]? = some ⟨.backoff lifecycleGeneration, due, true⟩
  stable : ∀ h, c.stableReadyTimer = some h → ∃ i due,
    c.currentAttempt = some i ∧ c.timers[h]? = some ⟨.stableReady i, due, true⟩
  pending : ∀ h t, c.timers[h]? = some t → t.pending = true →
    c.backoffTimer = some h ∨ c.stableReadyTimer = some h
  live : ∀ (k : ℕ) (x : Waiting), c.waiting[k]? = some (some x) →
    x.Live lifecycleGeneration c.currentAttempt → waits = some k
  known : ∀ (k : ℕ) (x : Waiting), c.waiting[k]? = some (some x) →
    x.Known lifecycleGeneration c.attempts.length

/-- Nothing is set. -/
structure Bare (lifecycleGeneration : ℕ) (c : Core) : Prop where
  holds : Holds lifecycleGeneration c none
  current : c.currentAttempt = none
  backoff : c.backoffTimer = none
  stable : c.stableReadyTimer = none

variable {L : ℕ} {c : Core} {waits : Option ℕ} {w : World}

/-! ## Settling a promise -/

theorem settle_waiting {k j : ℕ} {x : Waiting}
    (h : (w.settle k).waiting[j]? = some (some x)) : j ≠ k ∧ w.waiting[j]? = some (some x) := by
  have hset : (w.waiting.set k none)[j]? = some (some x) := h
  rw [List.getElem?_set] at hset
  by_cases hjk : k = j
  · rw [if_pos hjk] at hset
    split_ifs at hset
    cases hset
  · rw [if_neg hjk] at hset
    exact ⟨Ne.symm hjk, hset⟩

theorem Holds.settle (h : Holds L w.core waits) (k : ℕ) : Holds L (w.settle k).core waits where
  attempt := h.attempt
  finalized := h.finalized
  backoff := h.backoff
  stable := h.stable
  pending := h.pending
  live j x hx := h.live j x (settle_waiting hx).2
  known j x hx := h.known j x (settle_waiting hx).2

theorem Holds.settle_waits {k : ℕ} (h : Holds L w.core (some k)) :
    Holds L (w.settle k).core none where
  attempt := h.attempt
  finalized := h.finalized
  backoff := h.backoff
  stable := h.stable
  pending := h.pending
  live j x hx hlive :=
    absurd (Option.some.inj (h.live j x (settle_waiting hx).2 hlive)).symm (settle_waiting hx).1
  known := (h.settle k).known

/-! ## Clearing a timer -/

theorem clearTimeout_other {h j : ℕ} (hj : j ≠ h) :
    (w.clearTimeout h).timers[j]? = w.timers[j]? :=
  List.getElem?_modify_ne _ _ (Ne.symm hj)

theorem clearTimeout_pending {h j : ℕ} {t : Timer} (ht : (w.clearTimeout h).timers[j]? = some t)
    (hpending : t.pending = true) : j ≠ h ∧ w.timers[j]? = some t := by
  have hj : j ≠ h := by
    rintro rfl
    have hmodify := (List.getElem?_modify_eq _ _ _).symm.trans ht
    obtain ⟨t', -, rfl⟩ := Option.map_eq_some_iff.mp hmodify
    cases hpending
  exact ⟨hj, (clearTimeout_other hj).symm.trans ht⟩

theorem clearBackoffTimer_none (h : w.self.backoffTimer = none) : w.clearBackoffTimer = w := by
  unfold World.clearBackoffTimer
  rw [h]

theorem clearStableReadyTimer_none (h : w.self.stableReadyTimer = none) :
    w.clearStableReadyTimer = w := by
  unfold World.clearStableReadyTimer
  rw [h]

theorem clearBackoffTimer_some {handle : ℕ} (h : w.self.backoffTimer = some handle) :
    w.clearBackoffTimer = { w.clearTimeout handle with
      self := { (w.clearTimeout handle).self with backoffTimer := none } } := by
  unfold World.clearBackoffTimer
  rw [h]

theorem clearStableReadyTimer_some {handle : ℕ} (h : w.self.stableReadyTimer = some handle) :
    w.clearStableReadyTimer = { w.clearTimeout handle with
      self := { (w.clearTimeout handle).self with stableReadyTimer := none } } := by
  unfold World.clearStableReadyTimer
  rw [h]

/-- Clearing the backoff timer touches nothing else. -/
theorem clearBackoffTimer_same (w : World) : ∃ timers,
    w.clearBackoffTimer =
      { w with self := { w.self with backoffTimer := none }, timers := timers } := by
  unfold World.clearBackoffTimer
  cases hbackoff : w.self.backoffTimer with
  | none =>
    refine ⟨w.timers, ?_⟩
    dsimp only
    rw [← hbackoff]
  | some h => exact ⟨_, rfl⟩

theorem clearStableReadyTimer_same (w : World) : ∃ timers,
    w.clearStableReadyTimer =
      { w with self := { w.self with stableReadyTimer := none }, timers := timers } := by
  unfold World.clearStableReadyTimer
  cases hstable : w.self.stableReadyTimer with
  | none =>
    refine ⟨w.timers, ?_⟩
    dsimp only
    rw [← hstable]
  | some h => exact ⟨_, rfl⟩

theorem Holds.clearBackoffTimer (h : Holds L w.core waits) :
    Holds L w.clearBackoffTimer.core waits := by
  unfold World.clearBackoffTimer
  cases hbackoff : w.self.backoffTimer with
  | none => exact h
  | some handle =>
    obtain ⟨due, htimer⟩ := h.backoff handle hbackoff
    refine ⟨h.attempt, h.finalized, fun _ hnone => (by cases hnone), ?_, ?_, h.live, h.known⟩
    · intro j hj
      obtain ⟨i, due', hcurrent, hstable⟩ := h.stable j hj
      refine ⟨i, due', hcurrent, (clearTimeout_other ?_).trans hstable⟩
      rintro rfl
      cases htimer.symm.trans hstable
    · intro j t ht hpending
      obtain ⟨hj, ht'⟩ := clearTimeout_pending ht hpending
      refine .inr ((h.pending j t ht' hpending).resolve_left fun hj' => hj ?_)
      exact (Option.some.inj (hbackoff.symm.trans hj')).symm

theorem Holds.clearStableReadyTimer (h : Holds L w.core waits) :
    Holds L w.clearStableReadyTimer.core waits := by
  unfold World.clearStableReadyTimer
  cases hstable : w.self.stableReadyTimer with
  | none => exact h
  | some handle =>
    obtain ⟨i, due, -, htimer⟩ := h.stable handle hstable
    refine ⟨h.attempt, h.finalized, ?_, fun _ hnone => (by cases hnone), ?_, h.live, h.known⟩
    · intro j hj
      obtain ⟨due', hbackoff⟩ := h.backoff j hj
      refine ⟨due', (clearTimeout_other ?_).trans hbackoff⟩
      rintro rfl
      cases htimer.symm.trans hbackoff
    · intro j t ht hpending
      obtain ⟨hj, ht'⟩ := clearTimeout_pending ht hpending
      refine .inl ((h.pending j t ht' hpending).resolve_right fun hj' => hj ?_)
      exact (Option.some.inj (hstable.symm.trans hj')).symm

/-- A timer that is not set any more fires. -/
theorem Holds.clearTimeout (h : Holds L w.core waits) {handle : ℕ}
    (hbackoff : w.self.backoffTimer ≠ some handle)
    (hstable : w.self.stableReadyTimer ≠ some handle) :
    Holds L (w.clearTimeout handle).core waits where
  attempt := h.attempt
  finalized := h.finalized
  backoff j hj := by
    obtain ⟨due, htimer⟩ := h.backoff j hj
    refine ⟨due, (clearTimeout_other ?_).trans htimer⟩
    rintro rfl
    exact hbackoff hj
  stable j hj := by
    obtain ⟨i, due, hcurrent, htimer⟩ := h.stable j hj
    refine ⟨i, due, hcurrent, (clearTimeout_other ?_).trans htimer⟩
    rintro rfl
    exact hstable hj
  pending j t ht hpending := h.pending j t (clearTimeout_pending ht hpending).2 hpending
  live := h.live
  known := h.known

/-! ## Setting a timer -/

theorem setTimeout_getElem? {callback : TimerCallback} {delayMs : ℚ} {j : ℕ} {t : Timer}
    (h : w.timers[j]? = some t) : (w.setTimeout callback delayMs).timers[j]? = some t := by
  obtain ⟨hj, -⟩ := List.getElem?_eq_some_iff.mp h
  exact (List.getElem?_append_left hj).trans h

theorem setTimeout_new (callback : TimerCallback) (delayMs : ℚ) :
    (w.setTimeout callback delayMs).timers[w.timers.length]? =
      some ⟨callback, w.now + w.self.scheduler.leastDelayMs delayMs, true⟩ :=
  List.getElem?_concat_length

theorem setTimeout_cases {callback : TimerCallback} {delayMs : ℚ} {j : ℕ} {t : Timer}
    (h : (w.setTimeout callback delayMs).timers[j]? = some t) :
    j = w.timers.length ∨ w.timers[j]? = some t := by
  rcases Nat.lt_trichotomy j w.timers.length with hlt | heq | hgt
  · exact .inr ((List.getElem?_append_left hlt).symm.trans h)
  · exact .inl heq
  · obtain ⟨hj, -⟩ := List.getElem?_eq_some_iff.mp h
    have hlength : (w.setTimeout callback delayMs).timers.length = w.timers.length + 1 :=
      List.length_append
    omega

theorem Bare.setBackoff (h : Bare L w.core) (delayMs : ℚ) :
    Holds L { w.setTimeout (.backoff L) delayMs with
      self := { w.self with backoffTimer := some w.timers.length } }.core none where
  attempt := h.holds.attempt
  finalized := h.holds.finalized
  backoff j hj := by
    cases hj
    exact ⟨_, setTimeout_new _ _⟩
  stable j hj := absurd (h.stable.symm.trans hj) (by intro hnone; cases hnone)
  pending j t ht hpending := by
    rcases setTimeout_cases ht with rfl | hold
    · exact .inl rfl
    · rcases h.holds.pending j t hold hpending with hset | hset
      · exact absurd (h.backoff.symm.trans hset) (by intro hnone; cases hnone)
      · exact absurd (h.stable.symm.trans hset) (by intro hnone; cases hnone)
  live := h.holds.live
  known := h.holds.known

theorem Holds.setStable (h : Holds L w.core waits) {i : ℕ}
    (hcurrent : w.self.currentAttempt = some i) (hstable : w.self.stableReadyTimer = none)
    (delayMs : ℚ) :
    Holds L { w.setTimeout (.stableReady i) delayMs with
      self := { w.self with stableReadyTimer := some w.timers.length } }.core waits where
  attempt := h.attempt
  finalized := h.finalized
  backoff j hj := by
    obtain ⟨due, htimer⟩ := h.backoff j hj
    exact ⟨due, setTimeout_getElem? htimer⟩
  stable j hj := by
    cases hj
    exact ⟨i, _, hcurrent, setTimeout_new _ _⟩
  pending j t ht hpending := by
    rcases setTimeout_cases ht with rfl | hold
    · exact .inr rfl
    · refine .inl ((h.pending j t hold hpending).resolve_right fun hset => ?_)
      cases hstable.symm.trans hset
  live := h.live
  known := h.known

/-! ## Attempts, lifecycles and promises -/

theorem dropAttempt_open {i j : ℕ} {a : ActiveBridgeAttempt}
    (h : (w.dropAttempt i).attempts[j]? = some a) (hopen : a.finalized = false) :
    j ≠ i ∧ w.attempts[j]? = some a := by
  have hj : j ≠ i := by
    rintro rfl
    have hmodify := (List.getElem?_modify_eq _ _ _).symm.trans h
    obtain ⟨a', -, rfl⟩ := Option.map_eq_some_iff.mp hmodify
    cases hopen
  exact ⟨hj, (List.getElem?_modify_ne _ _ (Ne.symm hj)).symm.trans h⟩

theorem Holds.dropAttempt (h : Holds L w.core waits) {i : ℕ}
    (hcurrent : w.self.currentAttempt = some i) (hstable : w.self.stableReadyTimer = none) :
    Holds L (w.dropAttempt i).core waits where
  attempt _ hnone := by cases hnone
  finalized j a ha hopen := by
    obtain ⟨hj, ha'⟩ := dropAttempt_open ha hopen
    exact absurd (Option.some.inj (hcurrent.symm.trans (h.finalized j a ha' hopen))).symm hj
  backoff := h.backoff
  stable j hj := by cases hstable.symm.trans hj
  pending := h.pending
  live k x hx hlive := by
    cases x with
    | load generation => exact h.live k _ hx hlive
    | connect attempt => cases hlive
    | close generation error => exact h.live k _ hx hlive
    | stop => exact hlive.elim
  known k x hx := by
    show x.Known L (w.attempts.modify i _).length
    rw [List.length_modify]
    exact h.known k x hx

/-- The awaited function is one that does not go on. -/
theorem Holds.unwait (h : Holds L c waits)
    (hdead : ∀ (k : ℕ) (x : Waiting), waits = some k → c.waiting[k]? = some (some x) →
      ¬ x.Live L c.currentAttempt) : Holds L c none where
  attempt := h.attempt
  finalized := h.finalized
  backoff := h.backoff
  stable := h.stable
  pending := h.pending
  live k x hx hlive := absurd hlive (hdead k x (h.live k x hx hlive) hx)
  known := h.known

/-- What was waiting belongs to a lifecycle that is over. -/
theorem Holds.next (h : Holds L c waits) (hcurrent : c.currentAttempt = none)
    (hbackoff : c.backoffTimer = none) (hstable : c.stableReadyTimer = none) : Bare (L + 1) c where
  holds :=
    { attempt := fun i hi => by cases hcurrent.symm.trans hi
      finalized := h.finalized
      backoff := fun j hj => by cases hbackoff.symm.trans hj
      stable := fun j hj => by cases hstable.symm.trans hj
      pending := h.pending
      live := fun k x hx hlive => by
        have hknown := h.known k x hx
        cases x with
        | load generation =>
          cases hlive
          exact absurd hknown (Nat.not_succ_le_self L)
        | connect attempt => cases hcurrent.symm.trans hlive
        | close generation error =>
          cases hlive
          exact absurd hknown (Nat.not_succ_le_self L)
        | stop => exact hlive.elim
      known := fun k x hx => by
        have hknown := h.known k x hx
        cases x with
        | load generation => exact Nat.le_succ_of_le hknown
        | connect attempt => exact hknown
        | close generation error => exact Nat.le_succ_of_le hknown
        | stop => trivial }
  current := hcurrent
  backoff := hbackoff
  stable := hstable

theorem Bare.generation (h : Bare L c) (attemptGeneration : ℕ) :
    Bare L { c with attemptGeneration := attemptGeneration } where
  holds :=
    { attempt := fun i hi => by cases h.current.symm.trans hi
      finalized := h.holds.finalized
      backoff := h.holds.backoff
      stable := h.holds.stable
      pending := h.holds.pending
      live := h.holds.live
      known := h.holds.known }
  current := h.current
  backoff := h.backoff
  stable := h.stable

/-- A new attempt becomes the current one. -/
theorem Bare.attempt (h : Bare L c) :
    Holds L { c with
      currentAttempt := some c.attempts.length
      attempts := c.attempts ++ [⟨L, c.attemptGeneration, none, false⟩] } none where
  attempt i hi := by
    cases hi
    exact ⟨none, List.getElem?_concat_length⟩
  finalized i a ha hopen := by
    rcases Nat.lt_trichotomy i c.attempts.length with hlt | rfl | hgt
    · have hold := (List.getElem?_append_left hlt).symm.trans ha
      cases h.current.symm.trans (h.holds.finalized i a hold hopen)
    · rfl
    · obtain ⟨hi, -⟩ := List.getElem?_eq_some_iff.mp ha
      rw [List.length_append, List.length_singleton] at hi
      omega
  backoff := h.holds.backoff
  stable j hj := by cases h.stable.symm.trans hj
  pending := h.holds.pending
  live k x hx hlive := by
    have hknown := h.holds.known k x hx
    cases x with
    | connect attempt =>
      cases hlive
      exact absurd hknown (Nat.lt_irrefl _)
    | load generation => exact h.holds.live k _ hx hlive
    | close generation error => exact h.holds.live k _ hx hlive
    | stop => exact hlive.elim
  known k x hx := by
    have hknown := h.holds.known k x hx
    cases x with
    | connect attempt =>
      refine Nat.lt_of_lt_of_le hknown ?_
      rw [List.length_append]
      exact Nat.le_add_right _ _
    | _ => exact hknown

/-- A failure is noted. -/
theorem Holds.observe (h : Holds L w.core waits) (i : ℕ) (failure : Failure) :
    Holds L { w with
      attempts := w.attempts.modify i fun a => { a with failure := some failure } }.core waits where
  attempt j hj := by
    obtain ⟨failure', hattempt⟩ := h.attempt j hj
    by_cases hij : i = j
    · refine ⟨some failure, ?_⟩
      rw [hij]
      refine (List.getElem?_modify_eq _ _ _).trans ?_
      rw [show w.attempts[j]? = _ from hattempt]
      rfl
    · exact ⟨failure', (List.getElem?_modify_ne _ _ hij).trans hattempt⟩
  finalized j a ha hopen := by
    by_cases hij : i = j
    · rw [hij] at ha
      have hmodify := (List.getElem?_modify_eq _ _ _).symm.trans ha
      obtain ⟨a', ha', rfl⟩ := Option.map_eq_some_iff.mp hmodify
      exact h.finalized j a' ha' hopen
    · exact h.finalized j a ((List.getElem?_modify_ne _ _ hij).symm.trans ha) hopen
  backoff := h.backoff
  stable := h.stable
  pending := h.pending
  live := h.live
  known k x hx := by
    show x.Known L (w.attempts.modify i _).length
    rw [List.length_modify]
    exact h.known k x hx

theorem await_waiting {x y : Waiting} {k : ℕ} (h : (w.await x).waiting[k]? = some (some y)) :
    w.waiting[k]? = some (some y) ∨ k = w.waiting.length ∧ y = x := by
  rcases Nat.lt_trichotomy k w.waiting.length with hlt | rfl | hgt
  · exact .inl ((List.getElem?_append_left hlt).symm.trans h)
  · have hnew := List.getElem?_concat_length.symm.trans h
    exact .inr ⟨rfl, (Option.some.inj (Option.some.inj hnew)).symm⟩
  · obtain ⟨hk, -⟩ := List.getElem?_eq_some_iff.mp h
    have hlength : (w.await x).waiting.length = w.waiting.length + 1 := List.length_append
    omega

theorem Holds.await (h : Holds L w.core none) {x : Waiting} (hknown : x.Known L w.attempts.length) :
    Holds L (w.await x).core (some w.waiting.length) where
  attempt := h.attempt
  finalized := h.finalized
  backoff := h.backoff
  stable := h.stable
  pending := h.pending
  live k y hy hlive := by
    rcases await_waiting hy with hold | ⟨rfl, -⟩
    · cases h.live k y hold hlive
    · rfl
  known k y hy := by
    rcases await_waiting hy with hold | ⟨-, rfl⟩
    · exact h.known k y hold
    · exact hknown

theorem Holds.await_stop (h : Holds L w.core waits) : Holds L (w.await .stop).core waits where
  attempt := h.attempt
  finalized := h.finalized
  backoff := h.backoff
  stable := h.stable
  pending := h.pending
  live k y hy hlive := by
    rcases await_waiting hy with hold | ⟨-, rfl⟩
    · exact h.live k y hold hlive
    · exact hlive.elim
  known k y hy := by
    rcases await_waiting hy with hold | ⟨-, rfl⟩
    · exact h.known k y hold
    · trivial

/-! ## The states -/

/-- No attempt is under way. -/
def AtRest (state : LocalBridgeReconnectState) : Prop :=
  state ≠ .connecting ∧ state ≠ .ready ∧ state ≠ .backoff

/-- What each state has set. -/
structure Shape (w : World) (waits : Option ℕ) : Prop where
  connecting : w.self.state = .connecting →
    w.self.backoffTimer = none ∧ w.self.stableReadyTimer = none ∧
      ∀ i, w.self.currentAttempt = some i →
        ∃ k, waits = some k ∧ w.waiting[k]? = some (some (.connect i))
  ready : w.self.state = .ready →
    w.self.currentAttempt ≠ none ∧ w.self.backoffTimer = none ∧ waits = none
  backoff : w.self.state = .backoff →
    w.self.currentAttempt = none ∧ w.self.backoffTimer ≠ none ∧ w.self.stableReadyTimer = none ∧
      waits = none
  atRest : AtRest w.self.state →
    w.self.currentAttempt = none ∧ w.self.backoffTimer = none ∧ w.self.stableReadyTimer = none ∧
      waits = none
  stopping : w.self.stopPromise ≠ none → w.self.state = .stopped

/-- The invariant of the controller. -/
def Sound (w : World) : Prop :=
  ∃ waits, Holds w.self.lifecycleGeneration w.core waits ∧ Shape w waits

theorem sound_initial (url : String) (scheduler : LocalBridgeReconnectScheduler)
    (backoffPolicy : { policy : LocalBridgeBackoffPolicy // policy.Valid }) (now : ℚ) :
    Sound (.initial url scheduler backoffPolicy now) := by
  refine ⟨none, ⟨?_, ?_, ?_, ?_, ?_, ?_, ?_⟩, ⟨?_, ?_, ?_, ?_, ?_⟩⟩
  · intro i hi
    cases hi
  · intro i a ha
    cases ha
  · intro h hh
    cases hh
  · intro h hh
    cases hh
  · intro h t ht
    cases ht
  · intro k x hx
    cases hx
  · intro k x hx
    cases hx
  · intro hstate
    cases hstate
  · intro hstate
    cases hstate
  · intro hstate
    cases hstate
  · intro _
    exact ⟨rfl, rfl, rfl, rfl⟩
  · intro hstop
    exact absurd rfl hstop

theorem Shape.not_stopping (h : Shape w waits) (hstate : w.self.state ≠ .stopped) :
    w.self.stopPromise = none :=
  not_not.mp fun hstop => hstate (h.stopping hstop)

theorem Bare.sound (h : Bare w.self.lifecycleGeneration w.core) (hrest : AtRest w.self.state)
    (hstop : w.self.stopPromise = none) : Sound w :=
  ⟨none, h.holds, fun hstate => absurd hstate hrest.1, fun hstate => absurd hstate hrest.2.1,
    fun hstate => absurd hstate hrest.2.2, fun _ => ⟨h.current, h.backoff, h.stable, rfl⟩,
    fun hstop' => absurd hstop hstop'⟩

theorem Bare.sound_waiting (h : Bare w.self.lifecycleGeneration w.core) {x : Waiting}
    (hknown : x.Known w.self.lifecycleGeneration w.attempts.length)
    (hstate : w.self.state = .connecting) (hstop : w.self.stopPromise = none) :
    Sound (w.await x) := by
  refine ⟨some w.waiting.length, h.holds.await hknown, ⟨fun _ => ⟨h.backoff, h.stable, ?_⟩,
    fun hready => ?_, fun hbackoff => ?_, fun hrest => absurd hstate hrest.1,
    fun hstop' => absurd hstop hstop'⟩⟩
  · intro i hi
    cases h.current.symm.trans hi
  · cases hstate.symm.trans hready
  · cases hstate.symm.trans hbackoff

theorem startAttempt_sound (h : Bare w.self.lifecycleGeneration w.core)
    (hstop : w.self.stopPromise = none) :
    Sound (w.startAttempt w.self.lifecycleGeneration) := by
  unfold World.startAttempt
  rw [if_neg (by simp [World.isCurrentLifecycle])]
  refine Bare.sound_waiting ?_ ?_ rfl hstop
  · exact h
  · exact Nat.le_refl _

theorem scheduleBackoff_sound (h : Bare w.self.lifecycleGeneration w.core)
    (hstate : w.self.state = .backoff) (hstop : w.self.stopPromise = none) (delayMs : ℚ) :
    Sound (w.scheduleBackoff w.self.lifecycleGeneration delayMs) := by
  unfold World.scheduleBackoff
  rw [clearBackoffTimer_none h.backoff]
  refine ⟨none, h.setBackoff delayMs, ⟨fun hconnecting => ?_, fun hready => ?_, fun _ => ?_,
    fun hrest => absurd hstate hrest.2.2, fun hstop' => absurd hstop hstop'⟩⟩
  · cases hstate.symm.trans hconnecting
  · cases hstate.symm.trans hready
  · exact ⟨h.current, Option.some_ne_none _, h.stable, rfl⟩

theorem transitionAfterFailure_sound (h : Bare w.self.lifecycleGeneration w.core)
    (hstop : w.self.stopPromise = none) (error : Failure) (random : Option ℚ) :
    Sound (w.transitionAfterFailure w.self.lifecycleGeneration error random) := by
  unfold World.transitionAfterFailure
  rw [if_neg (by simp [World.isCurrentLifecycle])]
  dsimp only
  cases classifyBridgeFailure error with
  | authFailed =>
    exact Bare.sound (w := World.setState .authFailed _) h ⟨nofun, nofun, nofun⟩ hstop
  | protocolFailed =>
    exact Bare.sound (w := World.setState .protocolFailed _) h ⟨nofun, nofun, nofun⟩ hstop
  | retry =>
    dsimp only
    obtain ⟨delayMs, hdelay⟩ := calculateReconnectDelay_ok w.self.backoffPolicy.property
      w.self.consecutiveFailures random
    rw [hdelay]
    refine scheduleBackoff_sound ?_ rfl ?_ delayMs
    · exact h
    · exact hstop

theorem afterClose_sound (h : Bare w.self.lifecycleGeneration w.core)
    (hstop : w.self.stopPromise = none) (error : Failure) (random : Option ℚ) :
    Sound (w.afterClose w.self.lifecycleGeneration error random) := by
  unfold World.afterClose
  rw [if_neg (by simp [World.isCurrentLifecycle])]
  exact transitionAfterFailure_sound h hstop error random

theorem connectWith_sound (h : Bare w.self.lifecycleGeneration w.core)
    (credential : LocalDeviceCredential) (factory : Except Failure Unit) (random : Option ℚ)
    (hstate : w.self.state = .connecting) (hstop : w.self.stopPromise = none) :
    Sound (w.connectWith w.self.lifecycleGeneration credential factory random) := by
  unfold World.connectWith
  dsimp only
  have hnext : Bare w.self.lifecycleGeneration
      { w.core with attemptGeneration := w.self.attemptGeneration + 1 } := h.generation _
  cases factory with
  | error error =>
    exact transitionAfterFailure_sound (w := { w with self := { w.self with
      deviceId := some credential.deviceId
      attemptGeneration := w.self.attemptGeneration + 1 } }) hnext hstop error random
  | ok u =>
    have hawait := Holds.await (w := World.emit (.connect w.attempts.length)
      (World.emit (.transportCreated w.self.url credential.deviceId credential.credential) { w with
        self := { w.self with
          deviceId := some credential.deviceId
          attemptGeneration := w.self.attemptGeneration + 1
          currentAttempt := some w.attempts.length }
        attempts := w.attempts ++ [⟨w.self.lifecycleGeneration, w.self.attemptGeneration + 1, none,
          false⟩] })) (x := .connect w.attempts.length) hnext.attempt (by
        show w.attempts.length < (w.attempts ++ [_]).length
        rw [List.length_append]
        exact Nat.lt_succ_self _)
    refine ⟨_, hawait, ⟨fun _ => ⟨h.backoff, h.stable, fun i hi => ?_⟩, fun hready => ?_,
      fun hbackoff => ?_, fun hrest => absurd hstate hrest.1, fun hstop' => absurd hstop hstop'⟩⟩
    · cases hi
      exact ⟨_, rfl, List.getElem?_concat_length⟩
    · cases hstate.symm.trans hready
    · cases hstate.symm.trans hbackoff

theorem afterLoad_sound (h : Bare w.self.lifecycleGeneration w.core)
    (loaded : Except Failure (Option LocalDeviceCredential)) (factory : Except Failure Unit)
    (random : Option ℚ) (hstate : w.self.state = .connecting)
    (hstop : w.self.stopPromise = none) :
    Sound (w.afterLoad w.self.lifecycleGeneration loaded factory random) := by
  unfold World.afterLoad
  rw [if_neg (by simp [World.isCurrentLifecycle])]
  cases loaded with
  | error error => exact Bare.sound (w := World.setState .credentialFailed _) h ⟨nofun, nofun, nofun⟩ hstop
  | ok credential =>
    cases credential with
    | none => exact Bare.sound (w := World.setState .pairingRequired _) h ⟨nofun, nofun, nofun⟩ hstop
    | some credential => exact connectWith_sound h credential factory random hstate hstop

/-! ## The current attempt -/

theorem isCurrentAttempt_iff {i : ℕ} : w.isCurrentAttempt i = true ↔
    w.self.currentAttempt = some i ∧ ∃ a, w.attempts[i]? = some a ∧ a.finalized = false ∧
      a.lifecycleGeneration = w.self.lifecycleGeneration := by
  unfold World.isCurrentAttempt
  rw [Option.any_eq_true]
  constructor
  · rintro ⟨a, ha, hcheck⟩
    simp only [Bool.and_eq_true, Bool.not_eq_true', decide_eq_true_eq] at hcheck
    exact ⟨hcheck.2, a, ha, hcheck.1.1, hcheck.1.2⟩
  · rintro ⟨hcurrent, a, ha, hopen, hgeneration⟩
    refine ⟨a, ha, ?_⟩
    simp [hcurrent, hopen, hgeneration]

theorem Holds.isCurrentAttempt_iff (h : Holds w.self.lifecycleGeneration w.core waits) {i : ℕ} :
    w.isCurrentAttempt i = true ↔ w.self.currentAttempt = some i := by
  rw [Reconnect.isCurrentAttempt_iff]
  refine ⟨fun hcheck => hcheck.1, fun hcurrent => ⟨hcurrent, ?_⟩⟩
  obtain ⟨failure, ha⟩ := h.attempt i hcurrent
  exact ⟨_, ha, rfl, rfl⟩

theorem afterLoad_stale {generation : ℕ} (hstale : generation ≠ w.self.lifecycleGeneration)
    (loaded : Except Failure (Option LocalDeviceCredential)) (factory : Except Failure Unit)
    (random : Option ℚ) : w.afterLoad generation loaded factory random = w :=
  if_pos (by simp [World.isCurrentLifecycle, hstale])

theorem afterClose_stale {generation : ℕ} (hstale : generation ≠ w.self.lifecycleGeneration)
    (error : Failure) (random : Option ℚ) : w.afterClose generation error random = w :=
  if_pos (by simp [World.isCurrentLifecycle, hstale])

theorem finalizeAttempt_stale {i : ℕ} (hstale : w.isCurrentAttempt i = false) (error : Failure)
    (alreadyClosed : Bool) (random : Option ℚ) :
    w.finalizeAttempt i error alreadyClosed random = w := by
  unfold World.finalizeAttempt
  split
  · rfl
  · exact if_pos hstale

theorem afterConnect_stale {i : ℕ} (hstale : w.isCurrentAttempt i = false)
    (connected : Except Failure Unit) : w.afterConnect i connected = w := by
  unfold World.afterConnect
  split
  · rfl
  · exact finalizeAttempt_stale hstale _ _ _
  · exact if_pos hstale

theorem not_current {i : ℕ} (h : w.self.currentAttempt ≠ some i) : w.isCurrentAttempt i = false := by
  rw [← Bool.not_eq_true, isCurrentAttempt_iff]
  exact fun hcheck => h hcheck.1

theorem onerror_stale {i : ℕ} (hstale : w.isCurrentAttempt i = false) (error : Failure) :
    w.onerror i error = w := by
  unfold World.onerror
  split
  · rfl
  · exact if_pos hstale

theorem onclose_stale {i : ℕ} (hstale : w.isCurrentAttempt i = false) (random : Option ℚ) :
    w.onclose i random = w ∨ w.onclose i random = w.emit (.closeReported i) := by
  unfold World.onclose
  split
  · exact .inl rfl
  · exact .inr (if_pos hstale)

theorem clearStableReadyTimer_dropAttempt (i : ℕ) :
    (w.dropAttempt i).clearStableReadyTimer = w.clearStableReadyTimer.dropAttempt i := by
  unfold World.clearStableReadyTimer World.dropAttempt
  cases w.self.stableReadyTimer <;> rfl

/-- Nothing is set any more when the current attempt is given up. -/
theorem Holds.giveUp (h : Holds L w.core waits) {i : ℕ} (hcurrent : w.self.currentAttempt = some i)
    (hbackoff : w.self.backoffTimer = none)
    (hwaits : ∀ k, waits = some k → w.waiting[k]? = some (some (.connect i))) :
    Bare L (w.dropAttempt i).clearStableReadyTimer.core := by
  rw [clearStableReadyTimer_dropAttempt]
  obtain ⟨timers, hsame⟩ := clearStableReadyTimer_same w
  have hcleared := h.clearStableReadyTimer
  rw [hsame] at hcleared ⊢
  have hdropped := hcleared.dropAttempt hcurrent rfl
  refine ⟨hdropped.unwait fun k x hk hx hlive => ?_, rfl, hbackoff, rfl⟩
  have hconnect := hx.symm.trans (hwaits k hk)
  cases hconnect
  cases hlive

theorem Holds.finalizeAttempt_eq (h : Holds w.self.lifecycleGeneration w.core waits) {i : ℕ}
    (hcurrent : w.self.currentAttempt = some i) (error : Failure) (alreadyClosed : Bool)
    (random : Option ℚ) : w.finalizeAttempt i error alreadyClosed random =
      if alreadyClosed = true then
        (w.dropAttempt i).clearStableReadyTimer.afterClose w.self.lifecycleGeneration error random
      else ((w.dropAttempt i).clearStableReadyTimer.emit (.closeCalled i)).await
        (.close w.self.lifecycleGeneration error) := by
  obtain ⟨failure, ha⟩ := h.attempt i hcurrent
  unfold World.finalizeAttempt
  rw [show w.attempts[i]? = some _ from ha]
  dsimp only
  rw [if_neg (by simp [h.isCurrentAttempt_iff.mpr hcurrent])]

theorem giveUp_same (i : ℕ) :
    (w.dropAttempt i).clearStableReadyTimer.self.lifecycleGeneration =
        w.self.lifecycleGeneration ∧
      (w.dropAttempt i).clearStableReadyTimer.self.state = w.self.state ∧
      (w.dropAttempt i).clearStableReadyTimer.self.stopPromise = w.self.stopPromise ∧
      (w.dropAttempt i).clearStableReadyTimer.now = w.now ∧
      (w.dropAttempt i).clearStableReadyTimer.history = w.history ∧
      (w.dropAttempt i).clearStableReadyTimer.attempts.length = w.attempts.length := by
  obtain ⟨timers, hcleared⟩ := clearStableReadyTimer_same (w.dropAttempt i)
  rw [hcleared]
  exact ⟨rfl, rfl, rfl, rfl, rfl, List.length_modify _ _ _⟩

theorem finalizeAttempt_sound (h : Holds w.self.lifecycleGeneration w.core waits) {i : ℕ}
    (hcurrent : w.self.currentAttempt = some i) (hbackoff : w.self.backoffTimer = none)
    (hwaits : ∀ k, waits = some k → w.waiting[k]? = some (some (.connect i)))
    (error : Failure) (alreadyClosed : Bool) (random : Option ℚ)
    (hstate : alreadyClosed = false → w.self.state = .connecting)
    (hstop : w.self.stopPromise = none) : Sound (w.finalizeAttempt i error alreadyClosed random) := by
  have hbare := h.giveUp hcurrent hbackoff hwaits
  obtain ⟨hgeneration, hstate', hstop', -⟩ := giveUp_same (w := w) i
  rw [h.finalizeAttempt_eq hcurrent]
  rw [← hgeneration] at hbare ⊢
  cases alreadyClosed with
  | true => exact afterClose_sound hbare (hstop'.trans hstop) error random
  | false =>
    refine Bare.sound_waiting ?_ ?_ ?_ ?_
    · exact hbare
    · exact Nat.le_refl _
    · exact hstate'.trans (hstate rfl)
    · exact hstop'.trans hstop

/-! ## Steps -/

theorem Shape.of_waits {k : ℕ} (h : Shape w (some k)) : w.self.state = .connecting := by
  by_contra hstate
  by_cases hready : w.self.state = .ready
  · cases (h.ready hready).2.2
  · by_cases hbackoff : w.self.state = .backoff
    · cases (h.backoff hbackoff).2.2.2
    · cases (h.atRest ⟨hstate, hready, hbackoff⟩).2.2.2

/-- While there is a current attempt, only its connect is awaited. -/
theorem Shape.of_current (h : Shape w waits) {i : ℕ} (hcurrent : w.self.currentAttempt = some i) :
    w.self.backoffTimer = none ∧
      ∀ k, waits = some k → w.waiting[k]? = some (some (.connect i)) := by
  by_cases hready : w.self.state = .ready
  · obtain ⟨-, hbackoff, hnone⟩ := h.ready hready
    refine ⟨hbackoff, fun k hk => ?_⟩
    cases hnone.symm.trans hk
  · by_cases hconnecting : w.self.state = .connecting
    · obtain ⟨hbackoff, -, hconnect⟩ := h.connecting hconnecting
      refine ⟨hbackoff, fun k hk => ?_⟩
      obtain ⟨k', hk', hx⟩ := hconnect i hcurrent
      cases hk.symm.trans hk'
      exact hx
    · by_cases hbackoff : w.self.state = .backoff
      · cases hcurrent.symm.trans (h.backoff hbackoff).1
      · cases hcurrent.symm.trans (h.atRest ⟨hconnecting, hready, hbackoff⟩).1

theorem Shape.state_backoff (h : Shape w waits) {handle : ℕ}
    (hset : w.self.backoffTimer = some handle) : w.self.state = .backoff := by
  by_contra hbackoff
  have hnone : w.self.backoffTimer = none := by
    by_cases hready : w.self.state = .ready
    · exact (h.ready hready).2.1
    · by_cases hconnecting : w.self.state = .connecting
      · exact (h.connecting hconnecting).1
      · exact (h.atRest ⟨hconnecting, hready, hbackoff⟩).2.1
  cases hnone.symm.trans hset

theorem Shape.state_ready (h : Shape w waits) {handle : ℕ}
    (hset : w.self.stableReadyTimer = some handle) : w.self.state = .ready := by
  by_contra hready
  have hnone : w.self.stableReadyTimer = none := by
    by_cases hbackoff : w.self.state = .backoff
    · exact (h.backoff hbackoff).2.2.1
    · by_cases hconnecting : w.self.state = .connecting
      · exact (h.connecting hconnecting).2.1
      · exact (h.atRest ⟨hconnecting, hready, hbackoff⟩).2.2.1
  cases hnone.symm.trans hset

theorem Sound.live (h : Sound w) {k : ℕ} {x : Waiting} (hx : w.waiting[k]? = some (some x))
    (hlive : x.Live w.self.lifecycleGeneration w.self.currentAttempt) :
    Holds w.self.lifecycleGeneration w.core (some k) ∧ Shape w (some k) := by
  obtain ⟨waits, hholds, hshape⟩ := h
  have hwaits : waits = some k := hholds.live k x hx hlive
  rw [hwaits] at hholds hshape
  exact ⟨hholds, hshape⟩

/-- Only the awaited load or close is left of the attempt. -/
theorem Sound.settle_bare (h : Sound w) {k : ℕ} {x : Waiting}
    (hx : w.waiting[k]? = some (some x))
    (hlive : x.Live w.self.lifecycleGeneration w.self.currentAttempt)
    (hconnect : ∀ attempt, x ≠ .connect attempt) :
    Bare w.self.lifecycleGeneration (w.settle k).core ∧ w.self.state = .connecting ∧
      w.self.stopPromise = none := by
  obtain ⟨hholds, hshape⟩ := h.live hx hlive
  have hstate := hshape.of_waits
  obtain ⟨hbackoff, hstable, hcurrent⟩ := hshape.connecting hstate
  refine ⟨⟨hholds.settle_waits, ?_, hbackoff, hstable⟩, hstate, hshape.not_stopping ?_⟩
  swap
  · rw [hstate]
    exact nofun
  by_contra hsome
  obtain ⟨i, hi⟩ := Option.ne_none_iff_exists'.mp hsome
  obtain ⟨k', hk', hx'⟩ := hcurrent i hi
  cases hk'
  cases hx.symm.trans hx'
  exact hconnect i rfl

theorem Sound.settle_dead (h : Sound w) {k : ℕ} {x : Waiting}
    (hx : w.waiting[k]? = some (some x))
    (hdead : ¬ x.Live w.self.lifecycleGeneration w.self.currentAttempt) : Sound (w.settle k) := by
  obtain ⟨waits, hholds, hshape⟩ := h
  refine ⟨waits, hholds.settle k, ⟨fun hstate => ?_, hshape.ready, hshape.backoff, hshape.atRest,
    hshape.stopping⟩⟩
  obtain ⟨hbackoff, hstable, hcurrent⟩ := hshape.connecting hstate
  refine ⟨hbackoff, hstable, fun i hi => ?_⟩
  obtain ⟨k', hk', hx'⟩ := hcurrent i hi
  refine ⟨k', hk', (List.getElem?_set_ne ?_).trans hx'⟩
  rintro rfl
  cases hx.symm.trans hx'
  exact hdead hi

theorem Sound.loadSettled (h : Sound w) {k generation : ℕ}
    (hx : w.waiting[k]? = some (some (.load generation)))
    (loaded : Except Failure (Option LocalDeviceCredential)) (factory : Except Failure Unit)
    (random : Option ℚ) : Sound ((w.settle k).afterLoad generation loaded factory random) := by
  by_cases hgeneration : generation = w.self.lifecycleGeneration
  · obtain ⟨hbare, hstate, hstop⟩ := h.settle_bare hx hgeneration nofun
    rw [hgeneration]
    exact afterLoad_sound (w := w.settle k) hbare loaded factory random hstate hstop
  · rw [afterLoad_stale (w := w.settle k) hgeneration]
    exact h.settle_dead hx hgeneration

theorem Sound.closeSettled (h : Sound w) {k generation : ℕ} {error : Failure}
    (hx : w.waiting[k]? = some (some (.close generation error))) (random : Option ℚ) :
    Sound ((w.settle k).afterClose generation error random) := by
  by_cases hgeneration : generation = w.self.lifecycleGeneration
  · obtain ⟨hbare, -, hstop⟩ := h.settle_bare hx hgeneration nofun
    rw [hgeneration]
    exact afterClose_sound (w := w.settle k) hbare hstop error random
  · rw [afterClose_stale (w := w.settle k) hgeneration]
    exact h.settle_dead hx hgeneration

theorem resetFailuresIfCurrent_core (i : ℕ) : (w.resetFailuresIfCurrent i).core = w.core ∧
    (w.resetFailuresIfCurrent i).self.state = w.self.state ∧
    (w.resetFailuresIfCurrent i).self.lifecycleGeneration = w.self.lifecycleGeneration ∧
    (w.resetFailuresIfCurrent i).self.stopPromise = w.self.stopPromise := by
  unfold World.resetFailuresIfCurrent
  split
  · exact ⟨rfl, rfl, rfl, rfl⟩
  · split_ifs
    · exact ⟨rfl, rfl, rfl, rfl⟩
    · exact ⟨rfl, rfl, rfl, rfl⟩

theorem sound_of_ready {w' : World} (h : Holds w.self.lifecycleGeneration w'.core none)
    (hgeneration : w'.self.lifecycleGeneration = w.self.lifecycleGeneration)
    (hstate : w'.self.state = .ready) (hcurrent : w'.self.currentAttempt ≠ none)
    (hbackoff : w'.self.backoffTimer = none) (hstop : w'.self.stopPromise = none) :
    Sound w' := by
  refine ⟨none, ?_, ⟨fun hconnecting => ?_, fun _ => ⟨hcurrent, hbackoff, rfl⟩, fun hstate' => ?_,
    fun hrest => absurd hstate hrest.2.1, fun hstop' => absurd hstop hstop'⟩⟩
  · rw [hgeneration]
    exact h
  · cases hstate.symm.trans hconnecting
  · cases hstate.symm.trans hstate'

theorem scheduleStableReadyReset_sound (h : Holds w.self.lifecycleGeneration w.core none) {i : ℕ}
    (hstate : w.self.state = .ready) (hcurrent : w.self.currentAttempt = some i)
    (hbackoff : w.self.backoffTimer = none) (hstable : w.self.stableReadyTimer = none)
    (hstop : w.self.stopPromise = none) : Sound (w.scheduleStableReadyReset i) := by
  have hsome : w.self.currentAttempt ≠ none := by
    rw [hcurrent]
    exact Option.some_ne_none i
  unfold World.scheduleStableReadyReset
  rw [clearStableReadyTimer_none hstable]
  dsimp only
  split_ifs
  · obtain ⟨hcore, hstate', hgeneration, hstop'⟩ := resetFailuresIfCurrent_core (w := w) i
    refine sound_of_ready (w := w) ?_ hgeneration (hstate'.trans hstate) ?_ ?_ (hstop'.trans hstop)
    · rw [hcore]
      exact h
    · rw [show (w.resetFailuresIfCurrent i).self.currentAttempt = _ from
        congrArg Core.currentAttempt hcore]
      exact hsome
    · rw [show (w.resetFailuresIfCurrent i).self.backoffTimer = _ from
        congrArg Core.backoffTimer hcore]
      exact hbackoff
  · exact sound_of_ready (w := w) (h.setStable hcurrent hstable _) rfl hstate hsome hbackoff
      hstop

theorem Sound.connectSettled (h : Sound w) {k i : ℕ}
    (hx : w.waiting[k]? = some (some (.connect i))) (connected : Except Failure Unit) :
    Sound ((w.settle k).afterConnect i connected) := by
  by_cases hcurrent : w.self.currentAttempt = some i
  · obtain ⟨hholds, hshape⟩ := h.live hx hcurrent
    have hstate := hshape.of_waits
    have hstop : w.self.stopPromise = none := hshape.not_stopping (by
      rw [hstate]
      exact nofun)
    obtain ⟨hbackoff, hstable, -⟩ := hshape.connecting hstate
    obtain ⟨failure, ha⟩ := hholds.attempt i hcurrent
    have hsettled := hholds.settle_waits
    have ha' : (w.settle k).attempts[i]? = some _ := ha
    unfold World.afterConnect
    rw [ha']
    cases connected with
    | error error =>
      exact finalizeAttempt_sound (w := w.settle k) hsettled hcurrent hbackoff
        (fun _ hnone => by cases hnone) _ _ _ (fun _ => hstate) hstop
    | ok u =>
      dsimp only
      have hcheck : (w.settle k).isCurrentAttempt i = true :=
        Holds.isCurrentAttempt_iff hsettled |>.mpr hcurrent
      rw [if_neg (by simp [hcheck])]
      exact scheduleStableReadyReset_sound (w := World.setState .ready { w.settle k with
        self := { (w.settle k).self with lastFailureCode := none, retryDelayMs := none } })
        hsettled rfl hcurrent hbackoff hstable hstop
  · rw [afterConnect_stale (w := w.settle k) (not_current hcurrent)]
    exact h.settle_dead hx hcurrent

theorem Sound.stopSettled (h : Sound w) {k : ℕ} (hx : w.waiting[k]? = some (some .stop)) :
    Sound ((w.settle k).stopFinished k) := by
  have hdead := h.settle_dead hx id
  unfold World.stopFinished
  split_ifs
  · obtain ⟨waits, hholds, hshape⟩ := hdead
    exact ⟨waits, hholds, hshape.connecting, hshape.ready, hshape.backoff, hshape.atRest,
      fun hstop => absurd rfl hstop⟩
  · exact hdead

theorem Sound.start (h : Sound w) : Sound w.start := by
  obtain ⟨waits, hholds, hshape⟩ := id h
  unfold World.start
  split_ifs with hbusy
  · exact h
  · obtain ⟨hstop, hconnecting, hready, hbackoff⟩ := by simpa only [not_or] using hbusy
    obtain ⟨hcurrent, htimer, hstable, -⟩ := hshape.atRest ⟨hconnecting, hready, hbackoff⟩
    rw [clearBackoffTimer_none htimer, clearStableReadyTimer_none hstable]
    have hbare := (hholds.next hcurrent htimer hstable).generation 0
    exact startAttempt_sound (w := World.emit .started { w with self := { w.self with
      lifecycleGeneration := w.self.lifecycleGeneration + 1
      attemptGeneration := 0
      consecutiveFailures := 0
      lastFailureCode := none
      retryDelayMs := none
      deviceId := none } }) hbare (not_not.mp hstop)

theorem Bare.sound_stopping (h : Bare w.self.lifecycleGeneration w.core)
    (hstate : w.self.state = .stopped) : Sound (w.await .stop) := by
  refine ⟨none, h.holds.await_stop, fun hconnecting => ?_, fun hready => ?_, fun hbackoff => ?_,
    fun _ => ⟨h.current, h.backoff, h.stable, rfl⟩, fun _ => hstate⟩
  · cases hstate.symm.trans hconnecting
  · cases hstate.symm.trans hready
  · cases hstate.symm.trans hbackoff

theorem Sound.stop (h : Sound w) : Sound w.stop := by
  obtain ⟨waits, hholds, hshape⟩ := id h
  unfold World.stop
  split_ifs with hstopped
  · exact h
  · dsimp only
    have hcleared := (Holds.clearBackoffTimer (w := { w with self := { w.self with
      lifecycleGeneration := w.self.lifecycleGeneration + 1 } }) hholds).clearStableReadyTimer
    obtain ⟨timers, hstable⟩ := clearStableReadyTimer_same (World.clearBackoffTimer { w with
      self := { w.self with lifecycleGeneration := w.self.lifecycleGeneration + 1 } })
    obtain ⟨timers', hbackoff⟩ := clearBackoffTimer_same { w with
      self := { w.self with lifecycleGeneration := w.self.lifecycleGeneration + 1 } }
    rw [hstable, hbackoff] at hcleared ⊢
    split
    · next hcurrent =>
      have hbare := hcleared.next hcurrent rfl rfl
      refine Bare.sound_stopping ?_ rfl
      exact hbare
    · next i hcurrent =>
      have hbare := (hcleared.dropAttempt hcurrent rfl).next rfl rfl rfl
      refine Bare.sound_stopping ?_ rfl
      exact hbare

theorem Sound.onerror (h : Sound w) (i : ℕ) (error : Failure) : Sound (w.onerror i error) := by
  unfold World.onerror
  split
  · exact h
  · split_ifs
    · exact h
    · obtain ⟨waits, hholds, hshape⟩ := h
      exact ⟨waits, hholds.observe i error, hshape.connecting, hshape.ready, hshape.backoff,
        hshape.atRest, hshape.stopping⟩

theorem Sound.onclose (h : Sound w) (i : ℕ) (random : Option ℚ) : Sound (w.onclose i random) := by
  obtain ⟨waits, hholds, hshape⟩ := h
  have hemit : Holds (w.emit (.closeReported i)).self.lifecycleGeneration
      (w.emit (.closeReported i)).core waits := hholds
  unfold World.onclose
  split
  · exact ⟨waits, hholds, hshape⟩
  · dsimp only
    split_ifs with hcheck
    · exact ⟨waits, hemit, hshape.connecting, hshape.ready, hshape.backoff, hshape.atRest,
        hshape.stopping⟩
    · have hcurrent : w.self.currentAttempt = some i :=
        hemit.isCurrentAttempt_iff.mp (Bool.not_eq_false _ |>.mp hcheck)
      obtain ⟨hbackoff, hwaits⟩ := hshape.of_current hcurrent
      have hstop : w.self.stopPromise = none := by
        refine hshape.not_stopping fun hstopped => ?_
        have hrest : AtRest w.self.state := by
          rw [hstopped]
          exact ⟨nofun, nofun, nofun⟩
        cases hcurrent.symm.trans (hshape.atRest hrest).1
      exact finalizeAttempt_sound hemit hcurrent hbackoff hwaits _ _ _ nofun hstop

/-- A backoff that is set is over when its timer fires. -/
theorem fire_backoff {handle : ℕ} (hset : w.self.backoffTimer = some handle) (generation : ℕ) :
    (w.clearTimeout handle).fire handle (.backoff generation) =
      if w.clearBackoffTimer.isCurrentLifecycle generation = false ∨
        w.clearBackoffTimer.self.state ≠ .backoff then w.clearBackoffTimer
      else w.clearBackoffTimer.startAttempt generation := by
  rw [clearBackoffTimer_some hset]
  exact if_neg (not_not.mpr hset)

theorem fire_backoff_stale {handle : ℕ} (hset : w.self.backoffTimer ≠ some handle)
    (generation : ℕ) :
    (w.clearTimeout handle).fire handle (.backoff generation) = w.clearTimeout handle :=
  if_pos hset

theorem fire_stableReady {handle : ℕ} (hset : w.self.stableReadyTimer = some handle)
    (attempt : ℕ) : (w.clearTimeout handle).fire handle (.stableReady attempt) =
      w.clearStableReadyTimer.resetFailuresIfCurrent attempt := by
  rw [clearStableReadyTimer_some hset]
  exact if_neg (not_not.mpr hset)

theorem fire_stableReady_stale {handle : ℕ} (hset : w.self.stableReadyTimer ≠ some handle)
    (attempt : ℕ) :
    (w.clearTimeout handle).fire handle (.stableReady attempt) = w.clearTimeout handle :=
  if_pos hset

theorem Sound.timeout (h : Sound w) {handle : ℕ} {timer : Timer}
    (htimer : w.timers[handle]? = some timer) :
    Sound ((w.clearTimeout handle).fire handle timer.callback) := by
  obtain ⟨waits, hholds, hshape⟩ := h
  have hstale : w.self.backoffTimer ≠ some handle → w.self.stableReadyTimer ≠ some handle →
      Sound (w.clearTimeout handle) := fun hbackoff hstable =>
    ⟨waits, hholds.clearTimeout hbackoff hstable, hshape.connecting, hshape.ready, hshape.backoff,
      hshape.atRest, hshape.stopping⟩
  cases hcallback : timer.callback with
  | backoff generation =>
    have hstable : w.self.stableReadyTimer ≠ some handle := by
      intro hset
      obtain ⟨i, due, -, hstable⟩ := hholds.stable handle hset
      cases htimer.symm.trans hstable
      cases hcallback
    by_cases hset : w.self.backoffTimer = some handle
    · rw [fire_backoff hset]
      have hstate : w.self.state = .backoff := hshape.state_backoff hset
      obtain ⟨hcurrent, -, hstable, hwaits⟩ := hshape.backoff hstate
      obtain ⟨due, hbackoff⟩ := hholds.backoff handle hset
      cases htimer.symm.trans hbackoff
      cases hcallback
      obtain ⟨timers, hcleared⟩ := clearBackoffTimer_same w
      have hbare := hholds.clearBackoffTimer
      rw [hwaits, hcleared] at hbare
      rw [hcleared, if_neg (by simp [World.isCurrentLifecycle, hstate])]
      exact startAttempt_sound (w := { w with
        self := { w.self with backoffTimer := none }, timers := timers })
        ⟨hbare, hcurrent, rfl, hstable⟩ (hshape.not_stopping (by
          rw [hstate]
          exact nofun))
    · rw [fire_backoff_stale hset]
      exact hstale hset hstable
  | stableReady attempt =>
    have hbackoff : w.self.backoffTimer ≠ some handle := by
      intro hset
      obtain ⟨due, hbackoff⟩ := hholds.backoff handle hset
      cases htimer.symm.trans hbackoff
      cases hcallback
    by_cases hset : w.self.stableReadyTimer = some handle
    · rw [fire_stableReady hset]
      have hstate : w.self.state = .ready := hshape.state_ready hset
      obtain ⟨hcurrent, hbackoff, hwaits⟩ := hshape.ready hstate
      obtain ⟨timers, hcleared⟩ := clearStableReadyTimer_same w
      have hready := hholds.clearStableReadyTimer
      rw [hwaits, hcleared] at hready
      rw [hcleared]
      have hstop : w.self.stopPromise = none := hshape.not_stopping (by
        rw [hstate]
        exact nofun)
      obtain ⟨hcore, hstate', hgeneration, hstop'⟩ := resetFailuresIfCurrent_core (w := { w with
        self := { w.self with stableReadyTimer := none }, timers := timers }) attempt
      refine sound_of_ready (w := w) ?_ hgeneration (hstate'.trans hstate) ?_ ?_ (hstop'.trans hstop)
      · rw [hcore]
        exact hready
      · exact fun hnone => hcurrent ((congrArg Core.currentAttempt hcore).symm.trans hnone)
      · exact (congrArg Core.backoffTimer hcore).trans hbackoff
    · rw [fire_stableReady_stale hset]
      exact hstale hbackoff hset

theorem Sound.step (h : Sound w) (e : Event) : Sound (w.step e) := by
  cases e with
  | start => exact h.start
  | stop => exact h.stop
  | loadSettled k loaded factory random =>
    unfold World.step
    dsimp only
    split
    · next generation hx => exact h.loadSettled hx loaded factory random
    · exact h
  | connectSettled k connected =>
    unfold World.step
    dsimp only
    split
    · next i hx => exact h.connectSettled hx connected
    · exact h
  | closeSettled k random =>
    unfold World.step
    dsimp only
    split
    · next generation error hx => exact h.closeSettled hx random
    · exact h
  | stopSettled k =>
    unfold World.step
    dsimp only
    split
    · next hx => exact h.stopSettled hx
    · exact h
  | onerror i error => exact h.onerror i error
  | onclose i random => exact h.onclose i random
  | timeout handle =>
    unfold World.step
    dsimp only
    split
    · next timer htimer =>
      split_ifs
      · exact h.timeout htimer
      · exact h
    · exact h
  | elapse ms =>
    obtain ⟨waits, hholds, hshape⟩ := h
    exact ⟨waits, hholds, hshape.connecting, hshape.ready, hshape.backoff, hshape.atRest,
      hshape.stopping⟩

end Doctmcp.Agent.Reconnect

import Doctmcp.Pairing.AbuseGuard

/-! # The rate limit of the pairing abuse guard

Runs of the guard with what was accepted and in which window. Under a clock that never goes back
the windows of a key are disjoint and each holds at most the limit (`Windowed`), so an interval of
one window length meets at most two of them. A rejected call changes no window that it leaves, and a
key is answered as if no other key were used. -/

namespace Doctmcp.Pairing.AbuseGuard
open Doctmcp.Lib Doctmcp.Lib.Binary64 Doctmcp.Lib.Operation Doctmcp.Lib.Utf16
set_option autoImplicit false

/-! ## Runs -/

/-- A call and the reading that it takes. -/
structure TimedCall where
  call : GuardCall
  clock : Option Finite

/-- What a call was answered: the start of the window in which it was accepted, if it was. -/
structure Decision where
  key : Text
  reading : Option Finite
  window : Option Finite

/-- The buckets of a guard and its decisions so far. -/
structure Guarded where
  buckets : Buckets
  decisions : List Decision

def Guarded.initial : Guarded := ⟨.empty, []⟩

/-- An accepted call. -/
structure Admission where
  key : Text
  time : Finite
  window : Finite

def Decision.admission (decision : Decision) : Option Admission :=
  match decision.reading, decision.window with
  | some time, some window => some ⟨decision.key, time, window⟩
  | _, _ => none

def Guarded.readings (s : Guarded) : List Finite := s.decisions.filterMap (·.reading)

def Guarded.admissions (s : Guarded) : List Admission := s.decisions.filterMap (·.admission)

/-- The accepted calls of `key` in the window that began at `window`. -/
def acceptedIn (admissions : List Admission) (key : Text) (window : Finite) : ℕ :=
  admissions.countP fun a => decide (a.key = key ∧ a.window = window)

/-- The accepted calls of `key` in the half-open interval from `start` to `stop`. -/
def acceptedBetween (admissions : List Admission) (key : Text) (start stop : ℚ) : ℕ :=
  admissions.countP fun a => decide (a.key = key ∧ start ≤ a.time.value ∧ a.time.value < stop)

/-- The readings that are numbers never go back. -/
def NonDecreasing (calls : List TimedCall) : Prop :=
  (calls.filterMap (·.clock)).Pairwise fun r r' => r.value ≤ r'.value

/-- The readings are whole numbers, or never negative. -/
def Regular (readings : List Finite) : Prop :=
  (∀ r ∈ readings, ∃ z : ℤ, r.value = z) ∨ ∀ r ∈ readings, 0 ≤ r.value

section Rate
variable (options : PairingAbuseGuardOptions)

/-- The outcome of the call in the state before it. -/
def Guarded.outcome (s : Guarded) (e : TimedCall) : Except PairingAbuseError Unit × Buckets :=
  exec (e.call.perform options e.clock) s.buckets

/-- The decision that an outcome is. -/
def decided (e : TimedCall) (answer : Except PairingAbuseError Unit) (bucket : Option RateBucket) :
    Decision where
  key := e.call.key
  reading := e.clock
  window := match answer with
    | .ok _ => bucket.map (·.windowStartedAt)
    | .error _ => none

def Guarded.step (s : Guarded) (e : TimedCall) : Guarded where
  buckets := (s.outcome options e).2
  decisions := s.decisions ++
    [decided e (s.outcome options e).1 ((s.outcome options e).2.get? e.call.key)]

theorem outcome_none (s : Guarded) {e : TimedCall} (hclock : e.clock = none) :
    s.outcome options e = (.error {}, s.buckets) := by
  rw [Guarded.outcome, GuardCall.perform, hclock, exec_consume_none]

theorem outcome_some (s : Guarded) {e : TimedCall} {now : Finite} (hclock : e.clock = some now) :
    Consumes options (cleanup options now s.buckets) now e.call.key (e.call.limit options)
      (s.outcome options e) := by
  rw [Guarded.outcome, GuardCall.perform, hclock]
  exact exec_consume options (e.call.limit_pos options) now e.call.key s.buckets

/-- A call without a reading is rejected; any other cleans up first. -/
theorem outcome_cases {P : Except PairingAbuseError Unit × Buckets → Prop} (s : Guarded)
    (e : TimedCall) (hnone : e.clock = none → P (.error {}, s.buckets))
    (hsome : ∀ now, e.clock = some now → ∀ out,
      Consumes options (cleanup options now s.buckets) now e.call.key (e.call.limit options) out →
        P out) :
    P (s.outcome options e) := by
  cases hclock : e.clock with
  | none =>
    rw [outcome_none options s hclock]
    exact hnone hclock
  | some now => exact hsome now hclock _ (outcome_some options s hclock)

/-! ## One call, any clock -/

theorem size_opened {cleaned : Buckets} {key : Text} (habsent : cleaned.get? key = none)
    (bucket bucket' : RateBucket) :
    ((cleaned.set key bucket).set key bucket').size = cleaned.size + 1 := by
  have hset : (cleaned.set key bucket).has key = true := by simp [OrderedMap.has]
  rw [OrderedMap.size_set_of_has _ _ _ hset]
  exact OrderedMap.size_set_of_not_has _ _ _ ((OrderedMap.has_false_iff _ _).2 habsent)

theorem size_counted {cleaned : Buckets} {key : Text} {bucket : RateBucket}
    (hbucket : cleaned.get? key = some bucket) (bucket' : RateBucket) :
    (cleaned.set key bucket').size = cleaned.size :=
  OrderedMap.size_set_of_has _ _ _ ((OrderedMap.has_iff _ _).2 ⟨bucket, hbucket⟩)

theorem outcome_size {s : Guarded} (hsize : s.buckets.size ≤ options.maxBuckets.val)
    (e : TimedCall) : (s.outcome options e).2.size ≤ options.maxBuckets.val := by
  apply outcome_cases (P := fun out => out.2.size ≤ options.maxBuckets.val) options s e
  · intro _
    exact hsize
  · intro now _ out hcall
    have hcleaned : (cleanup options now s.buckets).size ≤ options.maxBuckets.val :=
      (OrderedMap.size_filter_le _ _).trans hsize
    cases hcall with
    | full => exact hcleaned
    | opened habsent hroom =>
      rw [size_opened habsent]
      exact hroom
    | early => exact hcleaned
    | spent => exact hcleaned
    | counted bucket hbucket =>
      rw [size_counted hbucket]
      exact hcleaned

/-- A rejected call leaves every bucket that it leaves as it was. -/
theorem outcome_rejected {s : Guarded} {e : TimedCall} {error : PairingAbuseError}
    (hrejected : (s.outcome options e).1 = .error error) {key : Text} {bucket : RateBucket}
    (hbucket : (s.outcome options e).2.get? key = some bucket) :
    s.buckets.get? key = some bucket := by
  revert hrejected hbucket
  apply outcome_cases (P := fun out => out.1 = .error error → out.2.get? key = some bucket →
    s.buckets.get? key = some bucket) options s e
  · intro _ _ hbucket
    exact hbucket
  · intro now _ out hcall hrejected hbucket
    cases hcall with
    | full => exact ((get?_cleanup_some options).1 hbucket).1
    | opened => cases hrejected
    | early => exact ((get?_cleanup_some options).1 hbucket).1
    | spent => exact ((get?_cleanup_some options).1 hbucket).1
    | counted => cases hrejected

/-- A reading before the start of the key's window is rejected, and the window stays. -/
theorem outcome_early {s : Guarded} {e : TimedCall} {now : Finite} {bucket : RateBucket}
    (hclock : e.clock = some now) (hbucket : s.buckets.get? e.call.key = some bucket)
    (hearly : now.value < bucket.windowStartedAt.value) :
    (s.outcome options e).1 = .error {} ∧
      (s.outcome options e).2.get? e.call.key = some bucket := by
  apply outcome_cases (P := fun out => out.1 = .error {} ∧
    out.2.get? e.call.key = some bucket) options s e
  · intro hnone
    cases hclock.symm.trans hnone
  · intro reading hreading out hcall
    obtain rfl : now = reading := Option.some.inj (hclock.symm.trans hreading)
    have hkept : (cleanup options now s.buckets).get? e.call.key = some bucket :=
      (get?_cleanup_some options).2 ⟨hbucket, fun hstale => absurd hstale.1 (not_le.2 hearly)⟩
    cases hcall with
    | full habsent => cases habsent.symm.trans hkept
    | opened habsent => cases habsent.symm.trans hkept
    | early => exact ⟨rfl, hkept⟩
    | spent => exact ⟨rfl, hkept⟩
    | counted bucket' hbucket' hstarted =>
      obtain rfl : bucket = bucket' := Option.some.inj (hkept.symm.trans hbucket')
      exact absurd hstarted (not_le.2 hearly)

/-! ## Windows -/

theorem windowMs_pos : (0 : ℚ) < options.windowMs.val := by
  exact_mod_cast options.windowMs.property.1

theorem windowMs_le : options.windowMs.val ≤ 2 ^ 53 :=
  options.windowMs.property.2.trans (by decide)

theorem not_ended_self (now : Finite) : ¬ ended options now now := by
  rw [ended, sub, sub_self, rounded_zero]
  exact not_le.2 (windowMs_pos options)

theorem ended_mono {window now later : Finite} (hwindow : window.value ≤ now.value)
    (hlater : now.value ≤ later.value) (h : ended options now window) :
    ended options later window := by
  have hround : sub now window ≤ sub later window := by
    apply rounded_mono
    · linarith
    · linarith
  exact h.trans hround

/-- The second window can only begin once the first has ended. -/
def Follows (window next : Finite) : Prop :=
  window.value ≤ next.value ∧ ended options next window

variable {options}

theorem Follows.mono {window next later : Finite} (h : Follows options window next)
    (hlater : next.value ≤ later.value) : Follows options window later :=
  ⟨h.1.trans hlater, ended_mono options h.1 hlater h.2⟩

theorem not_follows {window now : Finite} (h : now.value ≤ window.value) :
    ¬ Follows options window now := by
  intro hfollows
  have hsub : sub now window = 0 := by
    rw [sub, le_antisymm h hfollows.1, sub_self, rounded_zero]
  have hended : (options.windowMs.val : ℚ) ≤ sub now window := hfollows.2
  rw [hsub] at hended
  exact absurd hended (not_le.2 (windowMs_pos options))

/-- Of three consecutive windows the last two begin one window length apart. For numbers that are
not whole this needs the first: it keeps the other two clear of zero, where the difference of two
readings may round up. -/
theorem Follows.apart {readings : List Finite} (hregular : Regular readings) {a b c : Finite}
    (ha : a ∈ readings) (hb : b ∈ readings) (hc : c ∈ readings) (hab : Follows options a b)
    (hbc : Follows options b c) : (options.windowMs.val : ℚ) ≤ c.value - b.value := by
  rcases hregular with hwhole | hnonneg
  · obtain ⟨y, hy⟩ := hwhole b hb
    obtain ⟨z, hz⟩ := hwhole c hc
    have hle : y ≤ z := by
      have := hbc.1
      rw [hy, hz] at this
      exact_mod_cast this
    have hended : (options.windowMs.val : ℚ) ≤ rounded ((z - y : ℤ) : ℚ) := by
      have := hbc.2
      rw [ended, sub, hy, hz] at this
      push_cast
      exact this
    have hexact := le_rounded_whole (windowMs_le options) (by omega) hended
    rw [hy, hz]
    exact_mod_cast hexact
  · have hpositive := windowMs_pos options
    have hfirst : (options.windowMs.val : ℚ) ≤ b.value := by
      calc (options.windowMs.val : ℚ) ≤ rounded (b.value - a.value) := hab.2
        _ ≤ rounded b.value := rounded_mono (by linarith [hab.1]) (by linarith [hnonneg a ha])
        _ = b.value := b.exact
    by_contra hshort
    have hshort := not_le.1 hshort
    have hexact : sub c b = c.value - b.value :=
      sub_exact (by linarith) hbc.1 (by linarith)
    have hended : (options.windowMs.val : ℚ) ≤ sub c b := hbc.2
    rw [hexact] at hended
    exact absurd hended (not_le.2 hshort)

/-! ## The windows of a run -/

variable (options) in
/-- What the accepted calls say about the buckets, under a clock that never goes back. -/
structure Windowed (buckets : Buckets) (readings : List Finite) (admissions : List Admission) :
    Prop where
  read : ∀ a ∈ admissions, a.window ∈ readings
  inside : ∀ a ∈ admissions, a.window.value ≤ a.time.value ∧ ¬ ended options a.time a.window
  running : ∀ key bucket, buckets.get? key = some bucket →
    bucket.windowStartedAt ∈ readings ∧
      bucket.count = acceptedIn admissions key bucket.windowStartedAt ∧
      ∀ a ∈ admissions, a.key = key →
        a.window = bucket.windowStartedAt ∨ Follows options a.window bucket.windowStartedAt
  pruned : ∀ key, buckets.get? key = none → ∀ a ∈ admissions, a.key = key →
    ∃ r ∈ readings, Follows options a.window r
  ordered : admissions.Pairwise fun a b =>
    a.key = b.key → a.window = b.window ∨ Follows options a.window b.window
  limited : ∀ (call : GuardCall) (window : Finite),
    acceptedIn admissions call.key window ≤ call.limit options

theorem acceptedIn_concat (admissions : List Admission) (a : Admission) (key : Text)
    (window : Finite) :
    acceptedIn (admissions ++ [a]) key window =
      acceptedIn admissions key window + if a.key = key ∧ a.window = window then 1 else 0 := by
  rw [acceptedIn, List.countP_append, List.countP_singleton, acceptedIn]
  simp only [decide_eq_true_eq]

theorem windowed_initial : Windowed options .empty [] [] where
  read := by simp
  inside := by simp
  running := by simp
  pruned := by simp
  ordered := .nil
  limited := by simp [acceptedIn]

section Step
variable {buckets : Buckets} {readings : List Finite} {admissions : List Admission} {now : Finite}

/-- A cleanup keeps the windows: the ones that it drops have ended at its reading. -/
theorem Windowed.cleaned (h : Windowed options buckets readings admissions) (now : Finite) :
    Windowed options (cleanup options now buckets) (readings ++ [now]) admissions where
  read a ha := List.mem_append_left _ (h.read a ha)
  inside := h.inside
  running key bucket hbucket := by
    obtain ⟨hread, hcount, hfollows⟩ := h.running key bucket ((get?_cleanup_some options).1 hbucket).1
    exact ⟨List.mem_append_left _ hread, hcount, hfollows⟩
  pruned key habsent a ha hkey := by
    cases hbucket : buckets.get? key with
    | none =>
      obtain ⟨r, hr, hfollows⟩ := h.pruned key hbucket a ha hkey
      exact ⟨r, List.mem_append_left _ hr, hfollows⟩
    | some bucket =>
      have hstale : stale options now bucket := by
        by_contra hkept
        exact nomatch habsent.symm.trans ((get?_cleanup_some options).2 ⟨hbucket, hkept⟩)
      obtain ⟨-, -, hfollows⟩ := h.running key bucket hbucket
      refine ⟨now, List.mem_append_right _ (List.mem_singleton_self now), ?_⟩
      rcases hfollows a ha hkey with heq | hbefore
      · rw [heq]
        exact hstale
      · exact hbefore.mono hstale.1
  ordered := h.ordered
  limited := h.limited

/-- An accepted call is counted in the last window of its key, which has room. -/
theorem Windowed.accepted (h : Windowed options buckets readings admissions) (call : GuardCall)
    {window : Finite} {after : Buckets} (hread : window ∈ readings)
    (hinside : window.value ≤ now.value ∧ ¬ ended options now window)
    (hlast : ∀ a ∈ admissions, a.key = call.key →
      a.window = window ∨ Follows options a.window window)
    (hroom : acceptedIn admissions call.key window < call.limit options)
    (hkey : after.get? call.key = some ⟨window, acceptedIn admissions call.key window + 1⟩)
    (hothers : ∀ key, key ≠ call.key → after.get? key = buckets.get? key) :
    Windowed options after readings (admissions ++ [⟨call.key, now, window⟩]) := by
  refine ⟨?_, ?_, ?_, ?_, ?_, ?_⟩
  · intro a ha
    rcases List.mem_append.1 ha with ha | ha
    · exact h.read a ha
    · rw [List.mem_singleton.1 ha]
      exact hread
  · intro a ha
    rcases List.mem_append.1 ha with ha | ha
    · exact h.inside a ha
    · rw [List.mem_singleton.1 ha]
      exact hinside
  · intro key bucket hbucket
    by_cases hsame : key = call.key
    · subst hsame
      obtain rfl := Option.some.inj (hkey.symm.trans hbucket)
      refine ⟨hread, ?_, ?_⟩
      · rw [acceptedIn_concat, if_pos ⟨rfl, rfl⟩]
      · intro a ha hsame
        rcases List.mem_append.1 ha with ha | ha
        · exact hlast a ha hsame
        · rw [List.mem_singleton.1 ha]
          exact .inl rfl
    · rw [hothers key hsame] at hbucket
      obtain ⟨hread', hcount', hlast'⟩ := h.running key bucket hbucket
      refine ⟨hread', ?_, ?_⟩
      · rw [acceptedIn_concat, if_neg fun hcounted => hsame hcounted.1.symm, Nat.add_zero]
        exact hcount'
      · intro a ha hsame'
        rcases List.mem_append.1 ha with ha | ha
        · exact hlast' a ha hsame'
        · rw [List.mem_singleton.1 ha] at hsame'
          exact absurd hsame'.symm hsame
  · intro key hnone a ha hsame
    have hother : key ≠ call.key := by
      rintro rfl
      cases hnone.symm.trans hkey
    rw [hothers key hother] at hnone
    rcases List.mem_append.1 ha with ha | ha
    · exact h.pruned key hnone a ha hsame
    · rw [List.mem_singleton.1 ha] at hsame
      exact absurd hsame.symm hother
  · rw [List.pairwise_append]
    refine ⟨h.ordered, List.pairwise_singleton _ _, ?_⟩
    intro a ha b hb hsame
    rw [List.mem_singleton.1 hb] at hsame ⊢
    exact hlast a ha hsame
  · intro other window'
    rw [acceptedIn_concat]
    split
    · rename_i hsame
      rw [← hsame.1, ← hsame.2, ← GuardCall.limit_of_key options hsame.1]
      exact hroom
    · exact h.limited other window'

/-- The first call of a new window: no earlier one was accepted at its reading. -/
theorem Windowed.opened (h : Windowed options buckets readings admissions) (call : GuardCall)
    (hmem : now ∈ readings) (hnow : ∀ r ∈ readings, r.value ≤ now.value)
    (habsent : buckets.get? call.key = none) :
    Windowed options ((buckets.set call.key ⟨now, 0⟩).set call.key ⟨now, 1⟩) readings
      (admissions ++ [⟨call.key, now, now⟩]) := by
  have hbefore : ∀ a ∈ admissions, a.key = call.key → Follows options a.window now := by
    intro a ha hkey
    obtain ⟨r, hr, hfollows⟩ := h.pruned call.key habsent a ha hkey
    exact hfollows.mono (hnow r hr)
  have hfresh : acceptedIn admissions call.key now = 0 := by
    rw [acceptedIn, List.countP_eq_zero]
    intro a ha hcounted
    obtain ⟨hkey, hwindow⟩ := of_decide_eq_true hcounted
    exact not_follows (le_of_eq (congrArg Finite.value hwindow.symm)) (hbefore a ha hkey)
  apply h.accepted call hmem ⟨le_refl _, not_ended_self options now⟩
  · exact fun a ha hkey => .inr (hbefore a ha hkey)
  · rw [hfresh]
    exact call.limit_pos options
  · rw [hfresh, OrderedMap.get?_set_self]
  · intro key hkey
    rw [OrderedMap.get?_set_ne _ _ hkey, OrderedMap.get?_set_ne _ _ hkey]

/-- A further call in a window that has room. -/
theorem Windowed.counted (h : Windowed options buckets readings admissions) (call : GuardCall)
    {bucket : RateBucket} (hbucket : buckets.get? call.key = some bucket)
    (hstarted : bucket.windowStartedAt.value ≤ now.value)
    (hrunning : ¬ ended options now bucket.windowStartedAt)
    (hlimit : bucket.count < call.limit options) :
    Windowed options (buckets.set call.key { bucket with count := bucket.count + 1 }) readings
      (admissions ++ [⟨call.key, now, bucket.windowStartedAt⟩]) := by
  obtain ⟨hread, hcount, hlast⟩ := h.running call.key bucket hbucket
  rw [hcount] at hlimit
  apply h.accepted call hread ⟨hstarted, hrunning⟩ hlast hlimit
  · rw [← hcount, OrderedMap.get?_set_self]
  · intro key hkey
    exact OrderedMap.get?_set_ne _ _ hkey

end Step

/-- The reading of the call is not before those of the state. -/
def NotBefore (s : Guarded) (e : TimedCall) : Prop :=
  ∀ now, e.clock = some now → ∀ r ∈ s.readings, r.value ≤ now.value

theorem step_readings (s : Guarded) (e : TimedCall) :
    (s.step options e).readings = s.readings ++ e.clock.toList := by
  rw [Guarded.readings, Guarded.step, List.filterMap_append, Guarded.readings]
  cases hclock : e.clock <;> simp [decided, hclock]

theorem step_admissions (s : Guarded) (e : TimedCall) :
    (s.step options e).admissions = s.admissions ++
      (decided e (s.outcome options e).1
        ((s.outcome options e).2.get? e.call.key)).admission.toList := by
  rw [Guarded.admissions, Guarded.step, List.filterMap_append, Guarded.admissions]
  congr 1

theorem windowed_step {s : Guarded} {e : TimedCall}
    (h : Windowed options s.buckets s.readings s.admissions) (hnow : NotBefore s e) :
    Windowed options (s.step options e).buckets (s.step options e).readings
      (s.step options e).admissions := by
  rw [step_readings, step_admissions, Guarded.step]
  apply outcome_cases (P := fun out => Windowed options out.2 (s.readings ++ e.clock.toList)
    (s.admissions ++ (decided e out.1 (out.2.get? e.call.key)).admission.toList)) options s e
  · intro hclock
    simpa [decided, Decision.admission, hclock] using h
  · intro now hclock out hcall
    have hcleaned := h.cleaned now
    have hmem : now ∈ s.readings ++ [now] :=
      List.mem_append_right _ (List.mem_singleton_self now)
    have hlatest : ∀ r ∈ s.readings ++ [now], r.value ≤ now.value := by
      intro r hr
      rcases List.mem_append.1 hr with hr | hr
      · exact hnow now hclock r hr
      · rw [List.mem_singleton.1 hr]
    cases hcall with
    | full => simpa [decided, Decision.admission, hclock] using hcleaned
    | opened habsent =>
      simpa [decided, Decision.admission, hclock] using
        hcleaned.opened e.call hmem hlatest habsent
    | early => simpa [decided, Decision.admission, hclock] using hcleaned
    | spent => simpa [decided, Decision.admission, hclock] using hcleaned
    | counted bucket hbucket hstarted hrunning hlimit =>
      simpa [decided, Decision.admission, hclock] using
        hcleaned.counted e.call hbucket hstarted hrunning hlimit

theorem nonDecreasing_along (calls : List TimedCall) (s : Guarded)
    (h : (s.readings ++ calls.filterMap (·.clock)).Pairwise fun r r' => r.value ≤ r'.value) :
    Along (Guarded.step options) NotBefore s calls := by
  induction calls generalizing s with
  | nil => trivial
  | cons e calls ih =>
    constructor
    · intro now hclock r hr
      apply (List.pairwise_append.1 h).2.2 r hr now
      simp [hclock]
    · apply ih
      rw [step_readings]
      cases hclock : e.clock with
      | none => simpa [hclock] using h
      | some now => simpa [hclock] using h

/-- The windows of every run under a clock that never goes back. -/
theorem windowed_run {calls : List TimedCall} (hclock : NonDecreasing calls) :
    Windowed options (runFrom (Guarded.step options) .initial calls).buckets
      (runFrom (Guarded.step options) .initial calls).readings
      (runFrom (Guarded.step options) .initial calls).admissions :=
  Along.invariant (P := fun s : Guarded => Windowed options s.buckets s.readings s.admissions)
    (fun _ _ h hnow => windowed_step h hnow) windowed_initial
    (nonDecreasing_along calls .initial hclock)

/-! ## Sliding intervals -/

/-- A list whose values change at most once has at most twice as many elements as any value. -/
theorem length_le_of_two_values {α β : Type} [DecidableEq β] (f : α → β) {R : β → β → Prop}
    {l : List α} {n : ℕ} (hordered : l.Pairwise fun a b => f a = f b ∨ R (f a) (f b))
    (hcount : ∀ b, l.countP (fun a => decide (f a = b)) ≤ n)
    (hthree : ∀ a ∈ l, ∀ b ∈ l, ∀ c ∈ l, R (f a) (f b) → R (f b) (f c) → False) :
    l.length ≤ 2 * n := by
  cases l with
  | nil => exact Nat.zero_le _
  | cons a l =>
    have hsplit := List.length_eq_countP_add_countP (fun x => decide (f x = f a)) (l := a :: l)
    have hfirst := hcount (f a)
    have hrest : (a :: l).countP (fun x => decide ¬ decide (f x = f a) = true) ≤ n := by
      rw [List.countP_eq_length_filter]
      cases hothers : (a :: l).filter fun x => decide ¬ decide (f x = f a) = true with
      | nil => exact Nat.zero_le _
      | cons b others =>
        have hmem : ∀ c ∈ b :: others, c ∈ a :: l ∧ f c ≠ f a := by
          intro c hc
          rw [← hothers, List.mem_filter] at hc
          exact ⟨hc.1, by simpa using hc.2⟩
        have hsorted : (b :: others).Pairwise fun a b => f a = f b ∨ R (f a) (f b) := by
          rw [← hothers]
          exact hordered.filter _
        have hafter : ∀ c ∈ b :: others, R (f a) (f c) := by
          intro c hc
          obtain ⟨hcl, hne⟩ := hmem c hc
          rcases List.mem_cons.1 hcl with rfl | hcl
          · exact absurd rfl hne
          · exact (List.rel_of_pairwise_cons hordered hcl).resolve_left fun heq => hne heq.symm
        have hsame : ∀ c ∈ b :: others, f c = f b := by
          intro c hc
          rcases List.mem_cons.1 hc with rfl | hc'
          · rfl
          · rcases List.rel_of_pairwise_cons hsorted hc' with heq | hlater
            · exact heq.symm
            · exact (hthree a List.mem_cons_self b (hmem b List.mem_cons_self).1 c (hmem c hc).1
                (hafter b List.mem_cons_self) hlater).elim
        calc (b :: others).length
            = (b :: others).countP (fun x => decide (f x = f b)) := by
              rw [eq_comm, List.countP_eq_length]
              exact fun c hc => decide_eq_true (hsame c hc)
          _ ≤ (a :: l).countP (fun x => decide (f x = f b)) := by
              rw [← hothers]
              exact List.filter_sublist.countP_le
          _ ≤ n := hcount (f b)
    omega

/-- Three windows do not meet an interval of one window length. -/
theorem Windowed.interval {buckets : Buckets} {readings : List Finite}
    {admissions : List Admission} (h : Windowed options buckets readings admissions)
    (hregular : Regular readings) (call : GuardCall) (start : ℚ) :
    acceptedBetween admissions call.key start (start + options.windowMs.val) ≤
      2 * call.limit options := by
  rw [acceptedBetween, List.countP_eq_length_filter]
  have hmem : ∀ a ∈ admissions.filter (fun a => decide (a.key = call.key ∧ start ≤ a.time.value ∧
      a.time.value < start + options.windowMs.val)), a ∈ admissions ∧ a.key = call.key ∧
        start ≤ a.time.value ∧ a.time.value < start + options.windowMs.val := by
    intro a ha
    obtain ⟨hmem, hin⟩ := List.mem_filter.1 ha
    exact ⟨hmem, of_decide_eq_true hin⟩
  apply length_le_of_two_values (fun a : Admission => a.window) (R := Follows options)
  · apply (h.ordered.filter _).imp_of_mem
    intro a b ha hb hordered
    exact hordered ((hmem a ha).2.1.trans (hmem b hb).2.1.symm)
  · intro window
    rw [List.countP_filter]
    apply le_trans _ (h.limited call window)
    apply List.countP_mono_left
    intro a _ ha
    simp only [Bool.and_eq_true, decide_eq_true_eq] at ha ⊢
    exact ⟨ha.2.1, ha.1⟩
  · intro a ha b hb c hc hab hbc
    obtain ⟨ha, -, hstart, -⟩ := hmem a ha
    obtain ⟨hb, -, -, -⟩ := hmem b hb
    obtain ⟨hc, -, -, hstop⟩ := hmem c hc
    have hlength := hab.apart hregular (h.read a ha) (h.read b hb) (h.read c hc) hbc
    -- The first call came before the second window, or its own would have ended.
    have hearlier : a.time.value < b.window.value := by
      by_contra hlate
      exact (h.inside a ha).2 (hab.mono (not_lt.1 hlate)).2
    have hlater := (h.inside c hc).1
    linarith

/-! ## One key among others -/

/-- What a call is answered and which bucket it leaves, from the bucket of its key alone. -/
def answer (limit : ℕ) (now : Finite) :
    Option RateBucket → Except PairingAbuseError Unit × Option RateBucket
  | none => (.ok (), some ⟨now, 1⟩)
  | some bucket =>
    if now.value < bucket.windowStartedAt.value ∨ limit ≤ bucket.count then
      (.error {}, some bucket)
    else (.ok (), some { bucket with count := bucket.count + 1 })

section Consumed
variable {cleaned : Buckets} {now : Finite} {key : Text} {limit : ℕ}
  {out : Except PairingAbuseError Unit × Buckets}

theorem Consumes.answered (h : Consumes options cleaned now key limit out)
    (hroom : cleaned.get? key = none → cleaned.size < options.maxBuckets.val) :
    (out.1, out.2.get? key) = answer limit now (cleaned.get? key) := by
  cases h with
  | full habsent hfull => exact absurd (hroom habsent) (not_lt.2 hfull)
  | opened habsent => rw [OrderedMap.get?_set_self, habsent, answer]
  | early bucket hbucket hearly => rw [hbucket, answer, if_pos (.inl hearly)]
  | spent bucket hbucket hspent => rw [hbucket, answer, if_pos (.inr hspent)]
  | counted bucket hbucket hstarted _ hlimit =>
    rw [OrderedMap.get?_set_self, hbucket, answer,
      if_neg (not_or.2 ⟨not_lt.2 hstarted, not_le.2 hlimit⟩)]

theorem Consumes.others (h : Consumes options cleaned now key limit out) {other : Text}
    (hother : other ≠ key) : out.2.get? other = cleaned.get? other := by
  cases h with
  | full => rfl
  | opened => rw [OrderedMap.get?_set_ne _ _ hother, OrderedMap.get?_set_ne _ _ hother]
  | early => rfl
  | spent => rfl
  | counted => rw [OrderedMap.get?_set_ne _ _ hother]

end Consumed

variable (options) in
/-- A run and its calls of `key` alone: a window that the calls of other keys dropped has ended. -/
structure Alone (key : Text) (s t : Guarded) : Prop where
  decisions : t.decisions = s.decisions.filter fun d => decide (d.key = key)
  bucket : ∀ bucket, s.buckets.get? key = some bucket → t.buckets.get? key = some bucket
  dropped : s.buckets.get? key = none → ∀ bucket, t.buckets.get? key = some bucket →
    ∃ r ∈ s.readings, stale options r bucket
  others : ∀ other, other ≠ key → t.buckets.get? other = none

theorem stale_mono {now later : Finite} {bucket : RateBucket} (h : stale options now bucket)
    (hlater : now.value ≤ later.value) : stale options later bucket :=
  ⟨h.1.trans hlater, ended_mono options h.1 hlater h.2⟩

theorem Alone.cleaned {key : Text} {s t : Guarded} (h : Alone options key s t) {now : Finite}
    (hnow : ∀ r ∈ s.readings, r.value ≤ now.value) :
    (cleanup options now s.buckets).get? key = (cleanup options now t.buckets).get? key := by
  rw [get?_cleanup, get?_cleanup]
  cases hs : s.buckets.get? key with
  | some bucket => rw [h.bucket bucket hs]
  | none =>
    cases ht : t.buckets.get? key with
    | none => rfl
    | some bucket =>
      obtain ⟨r, hr, hstale⟩ := h.dropped hs bucket ht
      have hstale := stale_mono hstale (hnow r hr)
      rw [Option.filter_none, eq_comm, Option.filter_eq_none_iff]
      rintro _ ⟨⟩
      exact fun hkept => of_decide_eq_true hkept hstale

theorem size_eq_zero {buckets : Buckets} (h : ∀ key, buckets.get? key = none) :
    buckets.size = 0 := by
  rw [OrderedMap.size, List.length_eq_zero_iff, List.eq_nil_iff_forall_not_mem]
  rintro ⟨key, bucket⟩ hmem
  rw [OrderedMap.mem_entries_iff, h key] at hmem
  cases hmem

/-- A call of another key. -/
theorem Alone.other {key : Text} {s t : Guarded} (h : Alone options key s t) {e : TimedCall}
    (hkey : e.call.key ≠ key) : Alone options key (s.step options e) t := by
  have hdecisions : t.decisions =
      (s.step options e).decisions.filter fun d => decide (d.key = key) := by
    rw [Guarded.step, List.filter_append, h.decisions]
    simp [decided, hkey]
  have hreadings : (s.step options e).readings = s.readings ++ e.clock.toList :=
    step_readings s e
  have hbuckets : (∀ bucket, (s.outcome options e).2.get? key = some bucket →
        t.buckets.get? key = some bucket) ∧
      ((s.outcome options e).2.get? key = none → ∀ bucket, t.buckets.get? key = some bucket →
        ∃ r ∈ s.readings ++ e.clock.toList, stale options r bucket) := by
    apply outcome_cases (P := fun out => (∀ bucket, out.2.get? key = some bucket →
        t.buckets.get? key = some bucket) ∧
      (out.2.get? key = none → ∀ bucket, t.buckets.get? key = some bucket →
        ∃ r ∈ s.readings ++ e.clock.toList, stale options r bucket)) options s e
    · intro hclock
      rw [hclock, Option.toList_none, List.append_nil]
      exact ⟨h.bucket, h.dropped⟩
    · intro now hclock out hcall
      rw [hcall.others (Ne.symm hkey), hclock]
      refine ⟨fun bucket hbucket => h.bucket bucket ((get?_cleanup_some options).1 hbucket).1, ?_⟩
      intro habsent bucket hbucket
      cases hs : s.buckets.get? key with
      | none =>
        obtain ⟨r, hr, hstale⟩ := h.dropped hs bucket hbucket
        exact ⟨r, List.mem_append_left _ hr, hstale⟩
      | some running =>
        obtain rfl := Option.some.inj ((h.bucket running hs).symm.trans hbucket)
        refine ⟨now, List.mem_append_right _ (List.mem_singleton_self now), ?_⟩
        by_contra hkept
        cases habsent.symm.trans ((get?_cleanup_some options).2 ⟨hs, hkept⟩)
  refine ⟨hdecisions, hbuckets.1, ?_, h.others⟩
  rw [hreadings]
  exact hbuckets.2

/-- A call of the key itself is answered from the same bucket in both runs. -/
theorem Alone.same {key : Text} {s t : Guarded} (h : Alone options key s t) {e : TimedCall}
    (hkey : e.call.key = key) (hnow : NotBefore s e)
    (hroom : s.buckets.size < options.maxBuckets.val) :
    Alone options key (s.step options e) (t.step options e) := by
  subst hkey
  have hdecisions : ∀ {answer : Except PairingAbuseError Unit × Option RateBucket},
      ((s.outcome options e).1, (s.outcome options e).2.get? e.call.key) = answer →
      ((t.outcome options e).1, (t.outcome options e).2.get? e.call.key) = answer →
      (t.step options e).decisions =
        (s.step options e).decisions.filter fun d => decide (d.key = e.call.key) := by
    rintro _ rfl ht
    rw [Guarded.step, Guarded.step, List.filter_append, h.decisions, (Prod.mk.inj ht).1,
      (Prod.mk.inj ht).2]
    simp [decided]
  cases hclock : e.clock with
  | none =>
    have hbuckets : ∀ s : Guarded, (s.step options e).buckets = s.buckets := by
      intro s
      rw [Guarded.step, outcome_none options s hclock]
    refine ⟨?_, ?_, ?_, ?_⟩
    · rw [Guarded.step, Guarded.step, outcome_none options s hclock,
        outcome_none options t hclock, List.filter_append, h.decisions]
      simp [decided]
    · rw [hbuckets, hbuckets]
      exact h.bucket
    · rw [hbuckets, hbuckets, step_readings, hclock, Option.toList_none, List.append_nil]
      exact h.dropped
    · rw [hbuckets]
      exact h.others
  | some now =>
    have hcleaned := h.cleaned (hnow now hclock)
    have hs := outcome_some options s hclock
    have ht := outcome_some options t hclock
    have hempty : (cleanup options now t.buckets).get? e.call.key = none →
        (cleanup options now t.buckets).size < options.maxBuckets.val := by
      intro habsent
      rw [size_eq_zero]
      · exact options.maxBuckets.property.1
      · intro key
        by_cases hkey : key = e.call.key
        · rw [hkey]
          exact habsent
        · rw [get?_cleanup, h.others key hkey, Option.filter_none]
    have hsame := ht.answered hempty
    rw [← hcleaned] at hsame
    have hroom : (cleanup options now s.buckets).size < options.maxBuckets.val :=
      (OrderedMap.size_filter_le _ _).trans_lt hroom
    have hanswer := hs.answered fun _ => hroom
    have hbuckets : (t.outcome options e).2.get? e.call.key =
        (s.outcome options e).2.get? e.call.key :=
      (Prod.mk.inj (hsame.trans hanswer.symm)).2
    refine ⟨hdecisions hanswer hsame, ?_, ?_, ?_⟩
    · intro bucket hbucket
      exact hbuckets.trans hbucket
    · intro habsent bucket hbucket
      cases (hbuckets.trans habsent).symm.trans hbucket
    · intro other hother
      rw [Guarded.step, ht.others hother, get?_cleanup, h.others other hother, Option.filter_none]

theorem alone_run {key : Text} {calls : List TimedCall} {s t : Guarded}
    (h : Alone options key s t) (hclock : Along (Guarded.step options) NotBefore s calls)
    (hroom : Along (Guarded.step options)
      (fun s _ => s.buckets.size < options.maxBuckets.val) s calls) :
    Alone options key (runFrom (Guarded.step options) s calls)
      (runFrom (Guarded.step options) t
        (calls.filter fun e => decide (e.call.key = key))) := by
  induction calls generalizing s t with
  | nil => exact h
  | cons e calls ih =>
    by_cases hkey : e.call.key = key
    · rw [List.filter_cons, if_pos (by simpa using hkey)]
      exact ih (h.same hkey hclock.1 hroom.1) hclock.2 hroom.2
    · rw [List.filter_cons, if_neg (by simpa using hkey)]
      exact ih (h.other hkey) hclock.2 hroom.2

/-! ## The limit -/

variable (options)

theorem run_size (calls : List TimedCall) :
    (runFrom (Guarded.step options) .initial calls).buckets.size ≤ options.maxBuckets.val :=
  runFrom_invariant (P := fun s : Guarded => s.buckets.size ≤ options.maxBuckets.val)
    (fun _ e hsize => outcome_size options hsize e) (Nat.zero_le _) calls

/-- A reading before the start of the key's window is rejected and leaves the bucket. -/
def RejectsEarly (s : Guarded) (e : TimedCall) : Prop :=
  ∀ now bucket, e.clock = some now → s.buckets.get? e.call.key = some bucket →
    now.value < bucket.windowStartedAt.value →
      (s.outcome options e).1 = .error {} ∧
        (s.step options e).buckets.get? e.call.key = some bucket

/-- A rejected call neither opens, extends nor restarts a window. -/
def RejectsIdly (s : Guarded) (e : TimedCall) : Prop :=
  ∀ error, (s.outcome options e).1 = .error error → ∀ key bucket,
    (s.step options e).buckets.get? key = some bucket → s.buckets.get? key = some bucket

/-- The guard in every run. The number of buckets, early readings and rejected calls need nothing of
the clock; the bound for a sliding interval needs readings that are whole or never negative, since
the difference of two other numbers may round up to the window length. -/
theorem abuseGuard_limits (calls : List TimedCall) :
    let final := runFrom (Guarded.step options) .initial calls
    final.buckets.size ≤ options.maxBuckets.val ∧
    Along (Guarded.step options)
      (fun s e => RejectsEarly options s e ∧ RejectsIdly options s e) .initial calls ∧
    (NonDecreasing calls →
      (∀ (call : GuardCall) (window : Finite),
        acceptedIn final.admissions call.key window ≤ call.limit options) ∧
      (Regular final.readings → ∀ (call : GuardCall) (start : ℚ),
        acceptedBetween final.admissions call.key start (start + options.windowMs.val) ≤
          2 * call.limit options) ∧
      (Along (Guarded.step options) (fun s _ => s.buckets.size < options.maxBuckets.val) .initial
          calls → ∀ key,
        final.decisions.filter (fun d => decide (d.key = key)) =
          (runFrom (Guarded.step options) .initial
            (calls.filter fun e => decide (e.call.key = key))).decisions)) := by
  refine ⟨run_size options calls, ?_, ?_⟩
  · apply Along.of_invariant (P := fun _ => True) (G := fun _ _ => True)
    · intro _ _ _ _
      trivial
    · intro s e _ _
      constructor
      · intro now bucket hclock hbucket hearly
        exact outcome_early options hclock hbucket hearly
      · intro error hrejected key bucket hbucket
        exact outcome_rejected options hrejected hbucket
    · trivial
    · exact along_true _ _
  · intro hclock
    have hwindowed : Windowed options (runFrom (Guarded.step options) .initial calls).buckets
        (runFrom (Guarded.step options) .initial calls).readings
        (runFrom (Guarded.step options) .initial calls).admissions := windowed_run hclock
    refine ⟨hwindowed.limited, fun hregular call start => hwindowed.interval hregular call start, ?_⟩
    intro hroom key
    have hinitial : Alone options key .initial .initial := by
      refine ⟨rfl, ?_, ?_, ?_⟩
      · intro bucket hbucket
        exact hbucket
      · intro _ bucket hbucket
        cases hbucket
      · intro other _
        rfl
    exact (alone_run hinitial (nonDecreasing_along calls .initial hclock) hroom).decisions.symm

end Rate

/-! ## Fractional readings around zero -/

def twoClaims : PairingAbuseGuardOptions := { maxClaimsPerOwner := ⟨2, by decide⟩ }

def beforeSecondWindow : Finite := ⟨1000 - 1 / 2 ^ 38 - 1 / 2 ^ 43, by decide +kernel⟩
def secondWindow : Finite := ⟨1000 - 1 / 2 ^ 38, by decide +kernel⟩
def thirdWindow : Finite := ⟨61000 - 1 / 2 ^ 37, by decide +kernel⟩

/-- Two claims of one owner in each of three windows of a minute. -/
def roundedCalls : List TimedCall :=
  [⟨-59000, by decide +kernel⟩, beforeSecondWindow, secondWindow, secondWindow, thirdWindow,
    thirdWindow].map fun reading => ⟨.beforeClaim [], some reading⟩

/-- The second and the third window begin less than a picosecond before their minute is over: the
difference of the readings rounds up to it. The last five calls lie within one minute. -/
theorem abuseGuard_interval_rounded :
    ¬ ∀ (options : PairingAbuseGuardOptions) (calls : List TimedCall), NonDecreasing calls →
      ∀ (call : GuardCall) (start : ℚ),
        acceptedBetween (runFrom (Guarded.step options) .initial calls).admissions call.key start
          (start + options.windowMs.val) ≤ 2 * call.limit options := by
  intro h
  have hclock : NonDecreasing roundedCalls := by
    unfold NonDecreasing
    decide +kernel
  have hbound := h twoClaims roundedCalls hclock (.beforeClaim []) beforeSecondWindow.value
  have hfive : ¬ acceptedBetween
      (runFrom (Guarded.step twoClaims) .initial roundedCalls).admissions
      (GuardCall.beforeClaim []).key beforeSecondWindow.value
      (beforeSecondWindow.value + twoClaims.windowMs.val) ≤
        2 * (GuardCall.beforeClaim []).limit twoClaims := by
    decide +kernel
  exact hfive hbound

end Doctmcp.Pairing.AbuseGuard

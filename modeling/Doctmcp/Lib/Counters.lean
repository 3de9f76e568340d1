import Doctmcp.Lib.OrderedMap

/-! # Counters by key

A map from keys to counts, in which a count of zero is not kept: `increment` and `decrement` are the
two ends of something that is in progress under a key. A decrement of what is not counted is as one
of a count of one. -/

namespace Doctmcp.Lib
set_option autoImplicit false

abbrev Counters (K : Type) := OrderedMap K ℕ

namespace Counters
variable {K : Type} [DecidableEq K]

def increment (m : Counters K) (k : K) : Counters K := m.set k ((m.get? k).getD 0 + 1)

def decrement (m : Counters K) (k : K) : Counters K :=
  let remaining := (m.get? k).getD 1 - 1
  if remaining = 0 then m.delete k else m.set k remaining

def count (m : Counters K) (k : K) : ℕ := (m.get? k).getD 0

theorem count_increment (m : Counters K) (k j : K) :
    (m.increment k).count j = m.count j + if k = j then 1 else 0 := by
  unfold count increment
  rw [OrderedMap.get?_set]
  by_cases hj : j = k
  · simp [hj]
  · simp [hj, Ne.symm hj]

theorem count_decrement (m : Counters K) (k j : K) :
    (m.decrement k).count j = m.count j - if k = j then 1 else 0 := by
  unfold count decrement
  dsimp only
  by_cases hj : j = k
  · subst hj
    split
    case isTrue hzero =>
      rw [OrderedMap.get?_delete_self, if_pos rfl]
      cases hget : m.get? j with
      | none => rfl
      | some n => simpa [hget] using hzero.symm
    case isFalse hpos =>
      rw [OrderedMap.get?_set_self, if_pos rfl]
      cases hget : m.get? j with
      | none => simp [hget] at hpos
      | some n => rfl
  · rw [if_neg (Ne.symm hj), Nat.sub_zero]
    split
    · rw [OrderedMap.get?_delete_ne _ hj]
    · rw [OrderedMap.get?_set_ne _ _ hj]

theorem count_of_not_has {m : Counters K} {k : K} (h : m.has k = false) : m.count k = 0 := by
  unfold count
  rw [(OrderedMap.has_false_iff m k).mp h]
  rfl

theorem count_pos_of_has_decrement {m : Counters K} {k : K} (h : (m.decrement k).has k = true) :
    0 < (m.decrement k).count k := by
  unfold decrement count at *
  dsimp only at *
  by_cases hzero : (m.get? k).getD 1 - 1 = 0
  · rw [if_pos hzero, OrderedMap.has, OrderedMap.get?_delete_self] at h
    cases h
  · rw [if_neg hzero, OrderedMap.get?_set_self]
    exact Nat.pos_of_ne_zero hzero

end Counters

/-! ## Counting exactly -/

section
variable {K : Type} [DecidableEq K]

/-- The counts are those of `f`. -/
def Counts (m : Counters K) (f : K → ℕ) : Prop := ∀ k, m.count k = f k

theorem Counts.increment {m : Counters K} {f g : K → ℕ} (h : Counts m f) {k : K}
    (hg : ∀ j, g j = f j + if k = j then 1 else 0) : Counts (m.increment k) g := by
  intro j
  rw [Counters.count_increment, h j, hg]

theorem Counts.decrement {m : Counters K} {f g : K → ℕ} (h : Counts m f) {k : K}
    (hg : ∀ j, g j + (if k = j then 1 else 0) = f j) : Counts (m.decrement k) g := by
  intro j
  rw [Counters.count_decrement, h j, ← hg]
  exact Nat.add_sub_cancel _ _

end
end Doctmcp.Lib

import Mathlib.Data.Int.Log
import Mathlib.Data.Rat.Floor
import Mathlib.Tactic.Linarith
import Mathlib.Tactic.FieldSimp
import Mathlib.Tactic.Ring

/-! # Binary64 numbers

A finite `number` is a rational of 53 significant bits, and a difference is the exact one rounded to
the nearest such rational, ties to even (`rounded`). The exponent is not bounded: differences of
numbers are never below the smallest one, and one beyond the largest compares with a safe integer as
Infinity does. Rounding is monotone, keeps what has 53 bits, and is exact for numbers
within a factor of two of each other. -/

namespace Doctmcp.Lib.Binary64
set_option autoImplicit false

/-- The weight of the last of the 53 bits of a number of this size. -/
def ulp (x : ℚ) : ℚ := 2 ^ (Int.log 2 |x| - 52)

/-- The nearest integer, the even one of two. -/
def nearestEven (x : ℚ) : ℤ :=
  if x - ⌊x⌋ < 1 / 2 then ⌊x⌋
  else if 1 / 2 < x - ⌊x⌋ then ⌊x⌋ + 1
  else if ⌊x⌋ % 2 = 0 then ⌊x⌋ else ⌊x⌋ + 1

/-- The nearest number of 53 significant bits. -/
def rounded (x : ℚ) : ℚ := nearestEven (x / ulp x) * ulp x

/-- A finite `number`. -/
structure Finite where
  value : ℚ
  exact : rounded value = value
  deriving DecidableEq

/-- `a - b`. -/
def sub (a b : Finite) : ℚ := rounded (a.value - b.value)

/-! ## Rounding to an integer -/

theorem floor_le_nearestEven (x : ℚ) : ⌊x⌋ ≤ nearestEven x := by
  unfold nearestEven
  split_ifs <;> omega

theorem nearestEven_le_floor (x : ℚ) : nearestEven x ≤ ⌊x⌋ + 1 := by
  unfold nearestEven
  split_ifs <;> omega

@[simp] theorem nearestEven_intCast (n : ℤ) : nearestEven (n : ℚ) = n := by
  simp [nearestEven]

theorem nearestEven_mono {x y : ℚ} (h : x ≤ y) : nearestEven x ≤ nearestEven y := by
  rcases (Int.floor_mono h).lt_or_eq with hlt | heq
  · calc nearestEven x ≤ ⌊x⌋ + 1 := nearestEven_le_floor x
      _ ≤ ⌊y⌋ := hlt
      _ ≤ nearestEven y := floor_le_nearestEven y
  · unfold nearestEven
    rw [heq]
    split_ifs <;> first | omega | linarith

/-! ## Rounding to 53 bits -/

theorem ulp_pos (x : ℚ) : 0 < ulp x := zpow_pos (by norm_num) _

@[simp] theorem rounded_zero : rounded 0 = 0 := by simp [rounded, nearestEven]

/-- A multiple of the last bit keeps its value. -/
theorem rounded_of_multiple {x : ℚ} (n : ℤ) (h : x = n * ulp x) : rounded x = x := by
  have hquotient : x / ulp x = n := by
    rw [div_eq_iff (ulp_pos x).ne']
    exact h
  rw [rounded, hquotient, nearestEven_intCast]
  exact h.symm

/-- A number is a multiple of its last bit. -/
theorem Finite.multiple (a : Finite) : ∃ n : ℤ, a.value = n * ulp a.value :=
  ⟨_, a.exact.symm⟩

section Positive
variable {x y : ℚ}

theorem ulp_eq (hx : 0 < x) : ulp x = 2 ^ (Int.log 2 x - 52) := by
  rw [ulp, abs_of_pos hx]

theorem two_pow_mul_ulp (hx : 0 < x) (k : ℕ) :
    2 ^ k * ulp x = 2 ^ (Int.log 2 x - 52 + k) := by
  rw [ulp_eq hx, zpow_add₀ (by norm_num), zpow_natCast]
  ring

/-- The 53 bits of a positive number begin with a one. -/
theorem mantissa_bounds (hx : 0 < x) : 2 ^ 52 * ulp x ≤ x ∧ x < 2 ^ 53 * ulp x := by
  rw [two_pow_mul_ulp hx, two_pow_mul_ulp hx]
  constructor
  · have hlow := Int.zpow_log_le_self (b := 2) (by norm_num) hx
    simpa using hlow
  · have hhigh := Int.lt_zpow_succ_log_self (b := 2) (by norm_num) x
    have hexponent : Int.log 2 x - 52 + ((53 : ℕ) : ℤ) = Int.log 2 x + 1 := by
      push_cast
      ring
    rw [hexponent]
    exact_mod_cast hhigh

theorem rounded_le_of_lt (hx : 0 < x) : rounded x ≤ 2 ^ 53 * ulp x := by
  have hquotient : x / ulp x ≤ ((2 ^ 53 : ℤ) : ℚ) := by
    rw [div_le_iff₀ (ulp_pos x)]
    exact_mod_cast (mantissa_bounds hx).2.le
  have hnearest : nearestEven (x / ulp x) ≤ 2 ^ 53 := by
    calc nearestEven (x / ulp x) ≤ nearestEven ((2 ^ 53 : ℤ) : ℚ) := nearestEven_mono hquotient
      _ = 2 ^ 53 := nearestEven_intCast _
  exact mul_le_mul_of_nonneg_right (by exact_mod_cast hnearest) (ulp_pos x).le

theorem le_rounded (hx : 0 < x) : 2 ^ 52 * ulp x ≤ rounded x := by
  have hquotient : ((2 ^ 52 : ℤ) : ℚ) ≤ x / ulp x := by
    rw [le_div_iff₀ (ulp_pos x)]
    exact_mod_cast (mantissa_bounds hx).1
  have hnearest : 2 ^ 52 ≤ nearestEven (x / ulp x) := by
    calc (2 ^ 52 : ℤ) = nearestEven ((2 ^ 52 : ℤ) : ℚ) := (nearestEven_intCast _).symm
      _ ≤ nearestEven (x / ulp x) := nearestEven_mono hquotient
  exact mul_le_mul_of_nonneg_right (by exact_mod_cast hnearest) (ulp_pos x).le

/-- Within one power of two the last bit is the same; across powers of two the bounds of
the two binades separate the rounded values. -/
theorem rounded_mono_pos (hx : 0 < x) (h : x ≤ y) : rounded x ≤ rounded y := by
  have hy : 0 < y := hx.trans_le h
  rcases (Int.log_mono_right (b := 2) hx h).lt_or_eq with hlt | heq
  · calc rounded x ≤ 2 ^ 53 * ulp x := rounded_le_of_lt hx
      _ = 2 ^ (Int.log 2 x - 52 + (53 : ℕ)) := two_pow_mul_ulp hx 53
      _ ≤ 2 ^ (Int.log 2 y - 52 + (52 : ℕ)) := zpow_le_zpow_right₀ (by norm_num) (by omega)
      _ = 2 ^ 52 * ulp y := (two_pow_mul_ulp hy 52).symm
      _ ≤ rounded y := le_rounded hy
  · have hulp : ulp x = ulp y := by rw [ulp_eq hx, ulp_eq hy, heq]
    rw [rounded, rounded, hulp]
    have hquotient : x / ulp y ≤ y / ulp y := div_le_div_of_nonneg_right h (ulp_pos y).le
    exact mul_le_mul_of_nonneg_right (by exact_mod_cast nearestEven_mono hquotient)
      (ulp_pos y).le

end Positive

theorem rounded_mono {x y : ℚ} (hx : 0 ≤ x) (h : x ≤ y) : rounded x ≤ rounded y := by
  rcases hx.lt_or_eq with hpos | rfl
  · exact rounded_mono_pos hpos h
  · rw [rounded_zero]
    rcases h.lt_or_eq with hy | rfl
    · exact (mul_nonneg (by norm_num) (ulp_pos y).le).trans (le_rounded hy)
    · exact rounded_zero.ge

/-- At most `2 ^ 53` of one power of two is a number. -/
theorem rounded_units (k : ℕ) (hk : k ≤ 2 ^ 53) (e : ℤ) :
    rounded (k * 2 ^ e) = k * 2 ^ e := by
  rcases Nat.eq_zero_or_pos k with rfl | hpos
  · simp
  have hx : (0 : ℚ) < k * 2 ^ e := mul_pos (by exact_mod_cast hpos) (zpow_pos (by norm_num) _)
  -- The last bit is at most `2 ^ e`, except at `2 ^ 53` units, which are half as many of the next.
  by_cases hlog : Int.log 2 ((k : ℚ) * 2 ^ e) - 52 ≤ e
  · apply rounded_of_multiple (k * 2 ^ (e - (Int.log 2 ((k : ℚ) * 2 ^ e) - 52)).toNat)
    rw [ulp_eq hx]
    push_cast
    rw [mul_assoc, ← zpow_natCast, ← zpow_add₀ (by norm_num : (2 : ℚ) ≠ 0)]
    congr 2
    omega
  · have hlow : (2 : ℚ) ^ (e + 53) ≤ k * 2 ^ e :=
      calc (2 : ℚ) ^ (e + 53) ≤ 2 ^ Int.log 2 ((k : ℚ) * 2 ^ e) :=
            zpow_le_zpow_right₀ (by norm_num) (by omega)
        _ ≤ k * 2 ^ e := by exact_mod_cast Int.zpow_log_le_self (b := 2) (by norm_num) hx
    have hfull : k = 2 ^ 53 := by
      apply le_antisymm hk
      rw [zpow_add₀ (by norm_num), mul_comm] at hlow
      exact_mod_cast le_of_mul_le_mul_right hlow (zpow_pos (by norm_num) e)
    have hvalue : ((k : ℕ) : ℚ) * 2 ^ e = 2 ^ (e + 53) := by
      rw [hfull, zpow_add₀ (by norm_num)]
      push_cast
      ring
    apply rounded_of_multiple (2 ^ 52)
    rw [ulp_eq hx, hvalue]
    have hexact : Int.log 2 ((2 : ℚ) ^ (e + 53)) = e + 53 := by
      exact_mod_cast Int.log_zpow (R := ℚ) (b := 2) (by norm_num) (e + 53)
    have hnext : e + 53 - 52 = e + 1 := by ring
    rw [hexact, hnext, zpow_add₀ (by norm_num), zpow_add₀ (by norm_num)]
    push_cast
    ring

theorem rounded_natCast {n : ℕ} (hn : n ≤ 2 ^ 53) : rounded n = n := by
  simpa using rounded_units n hn 0

/-- A comparison of a whole number with a natural of 53 bits does not see the rounding. -/
theorem le_rounded_whole {n : ℕ} (hn : n ≤ 2 ^ 53) {z : ℤ} (hz : 0 ≤ z)
    (h : (n : ℚ) ≤ rounded z) : (n : ℚ) ≤ z := by
  by_contra hlt
  have hlt : z < n := by exact_mod_cast not_le.1 hlt
  lift z to ℕ using hz
  have hexact : rounded ((z : ℤ) : ℚ) = z := by
    simpa using rounded_natCast (n := z) (by omega)
  rw [hexact] at h
  have : n ≤ z := by exact_mod_cast h
  omega

/-- The difference of two numbers within a factor of two of each other is exact. -/
theorem sub_exact {a b : Finite} (hb : 0 < b.value) (hle : b.value ≤ a.value)
    (hdouble : a.value ≤ 2 * b.value) : sub a b = a.value - b.value := by
  have ha : 0 < a.value := hb.trans_le hle
  obtain ⟨m, hm⟩ := a.multiple
  obtain ⟨n, hn⟩ := b.multiple
  have hlog : Int.log 2 b.value ≤ Int.log 2 a.value := Int.log_mono_right hb hle
  -- Both are multiples of the last bit of the smaller one.
  have hulp : ulp a.value = 2 ^ (Int.log 2 a.value - Int.log 2 b.value).toNat * ulp b.value := by
    rw [ulp_eq ha, ulp_eq hb, ← zpow_natCast, ← zpow_add₀ (by norm_num : (2 : ℚ) ≠ 0)]
    congr 1
    omega
  have hdiff : a.value - b.value =
      ((m * 2 ^ (Int.log 2 a.value - Int.log 2 b.value).toNat - n : ℤ) : ℚ) * ulp b.value := by
    push_cast
    rw [sub_mul, mul_assoc, ← hulp, ← hm, ← hn]
  obtain ⟨k, hk⟩ : ∃ k : ℕ, m * 2 ^ (Int.log 2 a.value - Int.log 2 b.value).toNat - n = k := by
    apply Int.eq_ofNat_of_zero_le
    have hnonneg : (0 : ℚ) ≤ a.value - b.value := by linarith
    rw [hdiff] at hnonneg
    exact_mod_cast nonneg_of_mul_nonneg_left hnonneg (ulp_pos b.value)
  rw [hk, Int.cast_natCast] at hdiff
  have hbound : k ≤ 2 ^ 53 := by
    have hlt : (k : ℚ) * ulp b.value < 2 ^ 53 * ulp b.value := by
      rw [← hdiff]
      have := (mantissa_bounds hb).2
      linarith
    exact_mod_cast (lt_of_mul_lt_mul_right hlt (ulp_pos b.value).le).le
  rw [sub, hdiff, ulp_eq hb]
  exact rounded_units k hbound _

end Doctmcp.Lib.Binary64

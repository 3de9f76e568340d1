import Mathlib.Algebra.GroupWithZero.Nat
import Mathlib.Data.List.DropRight

/-! # Strings as ECMAScript sees them

`length` counts UTF-16 code units and `codePoints` code points, `trim` removes the WhiteSpace and
LineTerminator code points at both ends, and a regular expression without quantified alternatives is a
list of character classes (`fits`) or one class repeated (`repeated`). -/

namespace Doctmcp.Lib.JsString
set_option autoImplicit false

/-- The code points of WhiteSpace and LineTerminator, which `trim` removes and `\s` matches. -/
def isWhitespace (c : Char) : Bool :=
  let n := c.toNat
  (9 ≤ n && n ≤ 13) || n == 0x20 || n == 0xA0 || n == 0x1680 || (0x2000 ≤ n && n ≤ 0x200A) ||
    n == 0x2028 || n == 0x2029 || n == 0x202F || n == 0x205F || n == 0x3000 || n == 0xFEFF

/-- `value.length`: code points outside the basic plane take two code units. -/
def length (s : String) : ℕ := (s.toList.map fun c => if c.toNat < 0x10000 then 1 else 2).sum

/-- How many code points the text has: what the length checks of a schema bound. -/
def codePoints (s : String) : ℕ := s.toList.length

/-- The text without its first code units. A pair that is cut leaves the replacement character, as
which the half is encoded. -/
def dropUnits : ℕ → List Char → List Char
  | 0, cs => cs
  | _ + 1, [] => []
  | 1, c :: cs => if c.toNat < 0x10000 then cs else Char.ofNat 0xFFFD :: cs
  | n + 2, c :: cs => if c.toNat < 0x10000 then dropUnits (n + 1) cs else dropUnits n cs

/-- `value.slice(n)` for a natural number. -/
def slice (n : ℕ) (s : String) : String := String.ofList (dropUnits n s.toList)

/-- `value.trim()`. -/
def trim (s : String) : String :=
  String.ofList ((s.toList.dropWhile isWhitespace).reverse.dropWhile isWhitespace).reverse

/-- `value.toLowerCase()` on ASCII text. -/
def toLowerCase (s : String) : String := String.ofList (s.toList.map Char.toLower)

/-- A whole-string match against one character class for each position. -/
def fits : List (Char → Bool) → List Char → Bool
  | [], [] => true
  | p :: ps, c :: cs => p c && fits ps cs
  | _, _ => false

/-- A whole-string match of `/^[first][rest]*$/`. -/
def repeated (first rest : Char → Bool) : List Char → Bool
  | [] => false
  | c :: cs => first c && cs.all rest

theorem dropUnits_cons (n : ℕ) {c : Char} (cs : List Char) (hc : c.toNat < 0x10000) :
    dropUnits (n + 1) (c :: cs) = dropUnits n cs := by
  cases n with
  | zero => simp [dropUnits, hc]
  | succ n => simp [dropUnits, hc]

theorem dropUnits_append (cs ds : List Char) (n : ℕ) :
    dropUnits ((cs.map fun c => if c.toNat < 0x10000 then 1 else 2).sum + n) (cs ++ ds) =
      dropUnits n ds := by
  induction cs with
  | nil => simp
  | cons c cs ih =>
    rw [List.map_cons, List.sum_cons, List.cons_append, ← ih]
    generalize (cs.map fun c => if c.toNat < 0x10000 then 1 else 2).sum = k
    by_cases hc : c.toNat < 0x10000
    · rw [if_pos hc, show 1 + k + n = k + n + 1 by omega, dropUnits_cons _ _ hc]
    · rw [if_neg hc, show 2 + k + n = k + n + 2 by omega]
      simp [dropUnits, hc]

/-- A text is cut at the end of its front. -/
theorem slice_append (s t : String) : slice (length s) (s ++ t) = t := by
  unfold slice length
  have happend := dropUnits_append s.toList t.toList 0
  rw [String.toList_append, ← Nat.add_zero (List.sum _), happend]
  exact String.ofList_toList

/-- Without its first code unit a text is another one. -/
theorem slice_one_ne {s : String} (h : s ≠ "") : slice 1 s ≠ s := by
  unfold slice
  intro heq
  have hlist : dropUnits 1 s.toList = s.toList := by
    rw [← String.toList_inj, String.toList_ofList] at heq
    exact heq
  cases hs : s.toList with
  | nil => exact h (String.toList_eq_nil_iff.mp hs)
  | cons c cs =>
    rw [hs] at hlist
    by_cases hc : c.toNat < 0x10000
    · simp only [dropUnits, if_pos hc] at hlist
      have hlength := congrArg List.length hlist
      simp at hlength
    · simp only [dropUnits, if_neg hc] at hlist
      have hhead : Char.ofNat 0xFFFD = c := (List.cons.inj hlist).1
      rw [← hhead] at hc
      exact hc (by decide)

/-- The front of a text without leading whitespace has none. -/
theorem dropWhile_prefix {p : Char → Bool} {cs ds : List Char} (h : ds <+: cs.dropWhile p) :
    ds.dropWhile p = ds := by
  cases ds with
  | nil => rfl
  | cons d ds =>
    obtain ⟨rest, hrest⟩ := h
    have hhead := List.head?_dropWhile_not p cs
    rw [← hrest] at hhead
    have hd : p d = false := by simpa using hhead
    rw [List.dropWhile_cons, hd]
    rfl

theorem trim_trim (s : String) : trim (trim s) = trim s := by
  unfold trim
  rw [String.toList_ofList]
  have hfront : (List.rdropWhile isWhitespace (s.toList.dropWhile isWhitespace)).dropWhile
      isWhitespace = List.rdropWhile isWhitespace (s.toList.dropWhile isWhitespace) :=
    dropWhile_prefix (List.rdropWhile_prefix isWhitespace _)
  have hback := List.rdropWhile_idempotent isWhitespace (s.toList.dropWhile isWhitespace)
  unfold List.rdropWhile at hfront hback
  rw [hfront, hback]

theorem toLower_toLower (c : Char) : c.toLower.toLower = c.toLower := by
  by_cases h : c.val ≥ 'A'.val ∧ c.val ≤ 'Z'.val
  · have hlt : c.toNat < 128 := by
      have hz := UInt32.le_iff_toNat_le.mp h.2
      have ez : ('Z'.val).toNat = 90 := rfl
      have hc : c.toNat = c.val.toNat := rfl
      omega
    have hascii : ∀ n < 128, (Char.ofNat n).toLower.toLower = (Char.ofNat n).toLower := by decide
    have := hascii c.toNat hlt
    rwa [Char.ofNat_toNat] at this
  · have e : c.toLower = c := by
      unfold Char.toLower
      exact dif_neg h
    rw [e, e]

theorem toLowerCase_idem (s : String) : toLowerCase (toLowerCase s) = toLowerCase s := by
  simp only [toLowerCase, String.toList_ofList, List.map_map]
  congr 1
  exact List.map_congr_left fun c _ => toLower_toLower c

theorem fits_map {ps : List (Char → Bool)} {f : Char → Char}
    (hf : ∀ p ∈ ps, ∀ c, p c = true → p (f c) = true) {cs : List Char}
    (h : fits ps cs = true) : fits ps (cs.map f) = true := by
  induction ps generalizing cs with
  | nil => cases cs <;> simp_all [fits]
  | cons p ps ih =>
    cases cs with
    | nil => simp [fits] at h
    | cons c cs =>
      simp only [fits, Bool.and_eq_true] at h
      simp only [List.map_cons, fits, Bool.and_eq_true]
      exact ⟨hf p List.mem_cons_self c h.1,
        ih (fun q hq => hf q (List.mem_cons_of_mem p hq)) h.2⟩

theorem fits_mem {ps : List (Char → Bool)} {cs : List Char} (h : fits ps cs = true) :
    ∀ c ∈ cs, ∃ p ∈ ps, p c = true := by
  induction ps generalizing cs with
  | nil =>
    cases cs with
    | nil => simp
    | cons c cs => cases h
  | cons p ps ih =>
    cases cs with
    | nil => simp
    | cons c cs =>
      simp only [fits, Bool.and_eq_true] at h
      intro d hd
      rcases List.mem_cons.mp hd with rfl | hd
      · exact ⟨p, List.mem_cons_self, h.1⟩
      · obtain ⟨q, hq, hqd⟩ := ih h.2 d hd
        exact ⟨q, List.mem_cons_of_mem p hq, hqd⟩

theorem fits_append {ps qs : List (Char → Bool)} {cs ds : List Char}
    (h : ps.length = cs.length) : fits (ps ++ qs) (cs ++ ds) = (fits ps cs && fits qs ds) := by
  induction ps generalizing cs with
  | nil =>
    cases cs with
    | nil => simp [fits]
    | cons c cs => cases h
  | cons p ps ih =>
    cases cs with
    | nil => cases h
    | cons c cs => simp [fits, ih (Nat.succ.inj h), Bool.and_assoc]

/-- A text that fits classes of the basic plane has one code unit for each class. -/
theorem length_of_fits {ps : List (Char → Bool)} (hps : ∀ p ∈ ps, ∀ c, p c = true → c.toNat < 0x10000)
    {s : String} (h : fits ps s.toList = true) : length s = ps.length := by
  have hcount : ∀ (ps : List (Char → Bool)) (cs : List Char),
      (∀ p ∈ ps, ∀ c, p c = true → c.toNat < 0x10000) → fits ps cs = true →
      (cs.map fun c => if c.toNat < 0x10000 then 1 else 2).sum = ps.length := by
    intro ps
    induction ps with
    | nil =>
      intro cs _ h
      cases cs with
      | nil => rfl
      | cons c cs => cases h
    | cons p ps ih =>
      intro cs hps h
      cases cs with
      | nil => cases h
      | cons c cs =>
        simp only [fits, Bool.and_eq_true] at h
        have hc := hps p List.mem_cons_self c h.1
        have hrest := ih cs (fun q hq => hps q (List.mem_cons_of_mem p hq)) h.2
        rw [List.map_cons, List.sum_cons, hrest, if_pos hc, List.length_cons]
        omega
  exact hcount ps s.toList hps h

end Doctmcp.Lib.JsString

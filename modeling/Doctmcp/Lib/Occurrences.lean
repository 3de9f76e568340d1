import Mathlib.Data.List.Basic
import Mathlib.Data.List.Infix
import Mathlib.Data.Nat.Find
import Mathlib.Data.Nat.Notation

/-! # Replacing the occurrences of a word

`Replaced old new n text result`: `result` is `text` with its `n` occurrences of `old`, found from left
to right without overlap, replaced by `new`. A code whose words begin with a mark that occurs nowhere
else in them, and of which none is the front of another, carries occurrences over: a word occurs in
a text exactly where its encoding occurs in the encoded text. -/

namespace Doctmcp.Lib
set_option autoImplicit false

section Replace
variable {A : Type}

/-- Behind `front` is the first occurrence of `old`. -/
def Leftmost (old front : List A) : Prop := ∀ i < front.length, ¬ old <+: (front ++ old).drop i

inductive Replaced (old new : List A) : ℕ → List A → List A → Prop
  | done {rest : List A} : ¬ old <:+: rest → Replaced old new 0 rest rest
  | next {n : ℕ} {front rest result : List A} : Leftmost old front →
      Replaced old new n rest result →
      Replaced old new (n + 1) (front ++ (old ++ rest)) (front ++ (new ++ result))

variable {old new : List A}

theorem prefix_drop_append {front rest : List A} {i : ℕ} (hi : i ≤ front.length) :
    old <+: (front ++ (old ++ rest)).drop i ↔ old <+: (front ++ old).drop i := by
  rw [← List.append_assoc, List.drop_append_of_le_length (by rw [List.length_append]; omega)]
  constructor
  · intro h
    refine List.prefix_of_prefix_length_le h (List.prefix_append _ _) ?_
    rw [List.length_drop, List.length_append]
    omega
  · intro h
    exact h.trans (List.prefix_append _ _)

theorem infix_iff_drop {text : List A} : old <:+: text ↔ ∃ i ≤ text.length, old <+: text.drop i := by
  constructor
  · rintro ⟨front, back, rfl⟩
    refine ⟨front.length, ?_, ?_⟩
    · rw [List.length_append, List.length_append]
      omega
    · rw [List.append_assoc, List.drop_left]
      exact List.prefix_append _ _
  · rintro ⟨i, _, h⟩
    exact h.isInfix.trans (List.drop_suffix i text).isInfix

theorem Replaced.length {n : ℕ} {text result : List A} (h : Replaced old new n text result) :
    result.length + n * old.length = text.length + n * new.length := by
  induction h with
  | done => rw [Nat.zero_mul, Nat.zero_mul]
  | next _ _ ih =>
    simp only [List.length_append, Nat.succ_mul]
    omega

theorem Replaced.count_le (hold : old ≠ []) {n : ℕ} {text result : List A}
    (h : Replaced old new n text result) : n ≤ text.length := by
  have hpos := List.length_pos_of_ne_nil hold
  induction h with
  | done => exact Nat.zero_le _
  | next _ _ ih =>
    simp only [List.length_append]
    omega

/-! ## Splitting -/

variable [DecidableEq A]

/-- The scan of `split`: the open piece, the letters of an occurrence that are still to be skipped, and
the text. -/
def splitLoop (old : List A) : List A → ℕ → List A → List (List A)
  | piece, _, [] => [piece]
  | piece, skip + 1, _ :: text => splitLoop old piece skip text
  | piece, 0, a :: text =>
    if old <+: a :: text then piece :: splitLoop old [] (old.length - 1) text
    else splitLoop old (piece ++ [a]) 0 text

/-- `text.split(old)`. -/
def split (old text : List A) : List (List A) := splitLoop old [] 0 text

theorem splitLoop_skip (old piece skipped text : List A) :
    splitLoop old piece skipped.length (skipped ++ text) = splitLoop old piece 0 text := by
  induction skipped with
  | nil => rfl
  | cons a skipped ih =>
    rw [List.length_cons, List.cons_append, splitLoop]
    exact ih

theorem splitLoop_found (hold : old ≠ []) (piece rest : List A) :
    splitLoop old piece 0 (old ++ rest) = piece :: splitLoop old [] 0 rest := by
  obtain ⟨a, tail, rfl⟩ := List.exists_cons_of_ne_nil hold
  have hfound : a :: tail <+: a :: (tail ++ rest) := List.prefix_append (a :: tail) rest
  rw [List.cons_append, splitLoop, if_pos hfound, List.length_cons, Nat.add_one_sub_one,
    splitLoop_skip]

theorem splitLoop_front {piece front text : List A}
    (h : ∀ i < front.length, ¬ old <+: (front ++ text).drop i) :
    splitLoop old piece 0 (front ++ text) = splitLoop old (piece ++ front) 0 text := by
  induction front generalizing piece with
  | nil => rw [List.append_nil, List.nil_append]
  | cons a front ih =>
    have hhead := h 0 (by rw [List.length_cons]; omega)
    rw [List.drop_zero] at hhead
    rw [List.cons_append] at hhead ⊢
    rw [splitLoop, if_neg hhead, ih, List.append_assoc, List.singleton_append]
    intro i hi
    exact h (i + 1) (by rw [List.length_cons]; omega)

theorem splitLoop_leftmost (hold : old ≠ []) {front : List A} (h : Leftmost old front)
    (piece rest : List A) :
    splitLoop old piece 0 (front ++ (old ++ rest)) =
      (piece ++ front) :: splitLoop old [] 0 rest := by
  rw [splitLoop_front, splitLoop_found hold]
  intro i hi
  rw [prefix_drop_append (Nat.le_of_lt hi)]
  exact h i hi

theorem splitLoop_none {text : List A} (h : ¬ old <:+: text) (piece : List A) :
    splitLoop old piece 0 text = [piece ++ text] := by
  have hfront := @splitLoop_front A old _ piece text [] (by
    intro i hi hfore
    rw [List.append_nil] at hfore
    exact h (infix_iff_drop.mpr ⟨i, Nat.le_of_lt hi, hfore⟩))
  rw [List.append_nil] at hfront
  rw [hfront, splitLoop]

/-- `split` cuts out the occurrences that are replaced, and `join` puts the new word in their place. -/
theorem Replaced.split (hold : old ≠ []) {n : ℕ} {text result : List A}
    (h : Replaced old new n text result) :
    (Lib.split old text).length = n + 1 ∧ new.intercalate (Lib.split old text) = result := by
  unfold Lib.split
  induction h with
  | done hnone =>
    rw [splitLoop_none hnone]
    exact ⟨rfl, by simp⟩
  | next hleft _ ih =>
    rw [splitLoop_leftmost hold hleft, List.length_cons, ih.1]
    refine ⟨rfl, ?_⟩
    have hrest : splitLoop old [] 0 _ ≠ [] := List.ne_nil_of_length_eq_add_one ih.1
    rw [List.intercalate_cons_of_ne_nil hrest, ih.2, List.nil_append, List.append_assoc]

/-- Every text has a result. -/
theorem Replaced.exists (hold : old ≠ []) (new text : List A) :
    ∃ n result, Replaced old new n text result := by
  induction hlength : text.length using Nat.strongRecOn generalizing text with
  | ind length ih =>
    by_cases h : ∃ i, i ≤ text.length ∧ old <+: text.drop i
    · -- Up to the first occurrence.
      obtain ⟨hle, rest, hrest⟩ := Nat.find_spec h
      have hbefore : ∀ j < Nat.find h, ¬ old <+: text.drop j := by
        intro j hj hfore
        exact Nat.find_min h hj ⟨by omega, hfore⟩
      generalize Nat.find h = i at hle hrest hbefore
      have htext : text.take i ++ (old ++ rest) = text := by
        rw [hrest, List.take_append_drop]
      have hfront : (text.take i).length = i := List.length_take_of_le hle
      have hpos := List.length_pos_of_ne_nil hold
      have hlengths := congrArg List.length htext
      rw [List.length_append, List.length_append] at hlengths
      obtain ⟨n, result, hresult⟩ := ih rest.length (by omega) rest rfl
      have hleft : Leftmost old (text.take i) := by
        intro j hj hfore
        rw [← @prefix_drop_append A old _ rest _ (Nat.le_of_lt hj), htext] at hfore
        exact hbefore j (by omega) hfore
      have hnext := @Replaced.next A old new n (text.take i) rest result hleft hresult
      rw [htext] at hnext
      exact ⟨n + 1, _, hnext⟩
    · refine ⟨0, text, .done ?_⟩
      rw [infix_iff_drop]
      exact h

end Replace

/-! ## Codes -/

/-- A code whose words can be told apart wherever they stand. -/
structure Code (A B : Type) where
  word : A → List B
  starts : B → Prop
  shape : ∀ a, ∃ b rest, word a = b :: rest ∧ starts b ∧ ∀ c ∈ rest, ¬ starts c
  free : ∀ a a', word a <+: word a' → a = a'

namespace Code
variable {A B : Type} (code : Code A B)

def encode (text : List A) : List B := text.flatMap code.word

theorem encode_cons (a : A) (text : List A) :
    code.encode (a :: text) = code.word a ++ code.encode text := List.flatMap_cons

theorem encode_append (front back : List A) :
    code.encode (front ++ back) = code.encode front ++ code.encode back := List.flatMap_append

theorem word_pos (a : A) : 0 < (code.word a).length := by
  obtain ⟨b, rest, hshape, _⟩ := code.shape a
  rw [hshape, List.length_cons]
  exact Nat.succ_pos _

theorem encode_starts {text : List A} (h : text ≠ []) :
    ∃ b rest, code.encode text = b :: rest ∧ code.starts b := by
  obtain ⟨a, text, rfl⟩ := List.exists_cons_of_ne_nil h
  obtain ⟨b, rest, hshape, hstarts, _⟩ := code.shape a
  exact ⟨b, rest ++ code.encode text, by rw [encode_cons, hshape]; rfl, hstarts⟩

theorem encode_prefix_iff (front text : List A) :
    code.encode front <+: code.encode text ↔ front <+: text := by
  constructor
  · intro h
    induction front generalizing text with
    | nil => exact List.nil_prefix
    | cons a front ih =>
      cases text with
      | nil =>
        have hle := h.length_le
        have hpos := code.word_pos a
        rw [encode_cons, List.length_append] at hle
        exact absurd (Nat.le_zero.mp hle) (by omega)
      | cons a' text =>
        rw [encode_cons, encode_cons] at h
        have hsame : a = a' := by
          have ha : code.word a <+: code.word a' ++ code.encode text :=
            (List.prefix_append _ _).trans h
          rcases List.prefix_or_prefix_of_prefix ha (List.prefix_append _ _) with hle | hle
          · exact code.free a a' hle
          · exact (code.free a' a hle).symm
        subst hsame
        exact List.cons_prefix_cons.mpr ⟨rfl, ih text ((List.prefix_append_right_inj _).mp h)⟩
  · rintro ⟨back, rfl⟩
    rw [encode_append]
    exact List.prefix_append _ _

/-- A letter that starts a word stands between two words of the text. -/
theorem boundary {text : List A} {i : ℕ} {b : B} (h : (code.encode text)[i]? = some b)
    (hstarts : code.starts b) :
    ∃ front back, text = front ++ back ∧ (code.encode front).length = i := by
  induction text generalizing i with
  | nil => cases h
  | cons a text ih =>
    rw [encode_cons] at h
    obtain ⟨c, rest, hshape, _, hrest⟩ := code.shape a
    cases i with
    | zero => exact ⟨[], a :: text, rfl, rfl⟩
    | succ i =>
      by_cases hinside : i + 1 < (code.word a).length
      · rw [List.getElem?_append_left hinside, hshape, List.getElem?_cons_succ] at h
        exact absurd hstarts (hrest b (List.mem_of_getElem? h))
      · rw [List.getElem?_append_right (Nat.le_of_not_lt hinside)] at h
        obtain ⟨front, back, hsplit, hlength⟩ := ih h
        refine ⟨a :: front, back, by rw [hsplit]; rfl, ?_⟩
        rw [encode_cons, List.length_append, hlength]
        omega

/-- A word occurs where its encoding does. -/
theorem prefix_drop {word text : List A} (hword : word ≠ []) {i : ℕ}
    (h : code.encode word <+: (code.encode text).drop i) :
    ∃ front back, text = front ++ back ∧ (code.encode front).length = i ∧ word <+: back := by
  obtain ⟨b, rest, hencode, hstarts⟩ := code.encode_starts hword
  have hhead : (code.encode text)[i]? = some b := by
    obtain ⟨back, hback⟩ := h
    rw [hencode, List.cons_append] at hback
    have hget := congrArg (fun l => l[0]?) hback
    rw [List.getElem?_drop, Nat.add_zero, List.getElem?_cons_zero] at hget
    exact hget.symm
  obtain ⟨front, back, rfl, hlength⟩ := code.boundary hhead hstarts
  refine ⟨front, back, rfl, hlength, ?_⟩
  rw [encode_append, ← hlength, List.drop_left] at h
  exact (code.encode_prefix_iff word back).mp h

theorem encode_infix_iff {word text : List A} (hword : word ≠ []) :
    code.encode word <:+: code.encode text ↔ word <:+: text := by
  constructor
  · intro h
    obtain ⟨i, _, hfore⟩ := infix_iff_drop.mp h
    obtain ⟨front, back, rfl, _, hback⟩ := code.prefix_drop hword hfore
    exact hback.isInfix.trans (List.suffix_append front back).isInfix
  · rintro ⟨front, back, rfl⟩
    exact ⟨code.encode front, code.encode back, by rw [encode_append, encode_append]⟩

theorem leftmost {old front : List A} (hold : old ≠ []) (h : Leftmost old front) :
    Leftmost (code.encode old) (code.encode front) := by
  intro i hi hfore
  rw [← encode_append] at hfore
  obtain ⟨before, back, hsplit, hlength, hback⟩ := code.prefix_drop hold hfore
  have hless : before.length < front.length := by
    by_contra hge
    have hlonger : front <+: before :=
      List.prefix_of_prefix_length_le (List.prefix_append front old)
        (hsplit ▸ List.prefix_append before back) (Nat.le_of_not_lt hge)
    have hle := ((code.encode_prefix_iff front before).mpr hlonger).length_le
    omega
  refine h before.length hless ?_
  rw [hsplit, List.drop_left]
  exact hback

/-- What is replaced in a text is replaced in its encoding. -/
theorem replaced {old new text result : List A} {n : ℕ} (hold : old ≠ [])
    (h : Replaced old new n text result) :
    Replaced (code.encode old) (code.encode new) n (code.encode text) (code.encode result) := by
  induction h with
  | done hnone => exact .done fun hpair => hnone ((code.encode_infix_iff hold).mp hpair)
  | next hleft _ ih =>
    simp only [encode_append]
    exact .next (code.leftmost hold hleft) ih

end Code

end Doctmcp.Lib

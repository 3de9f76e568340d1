import Mathlib.Data.List.Basic

/-! # What comes before what in a history

A history is a list to whose end entries are added. `Precedes p q l` says that an entry that is `p`
stands before every entry that is `q`; `EachAfter P l` that every entry is in the relation `P` to the part
before it; `upTo q l` is the part before the first entry that is `q`. -/

namespace Doctmcp.Lib
set_option autoImplicit false

section History
variable {α : Type}

def Precedes (p q : α → Prop) (l : List α) : Prop :=
  ∀ before x after, l = before ++ x :: after → q x → ∃ y ∈ before, p y

variable {p q : α → Prop}

theorem precedes_of_forall {l : List α} (h : ∀ x ∈ l, ¬ q x) : Precedes p q l := by
  intro before x after heq hx
  exact absurd hx (h x (by simp [heq]))

theorem Precedes.concat {l : List α} {z : α} (h : Precedes p q l)
    (hz : q z → ∃ y ∈ l, p y) : Precedes p q (l ++ [z]) := by
  intro before x after heq hx
  rcases List.eq_nil_or_concat after with rfl | ⟨after, last, rfl⟩
  · obtain ⟨rfl, hlast⟩ := List.append_inj' heq rfl
    cases hlast
    exact hz hx
  · have heq' : l ++ [z] = (before ++ x :: after) ++ [last] := by simpa using heq
    exact h before x after (List.append_inj' heq' rfl).1 hx

theorem Precedes.append {l m : List α} (h : Precedes p q l) (hm : ∀ z ∈ m, ¬ q z) :
    Precedes p q (l ++ m) := by
  induction m generalizing l with
  | nil => simpa using h
  | cons z m ih =>
    have hz : Precedes p q (l ++ [z]) :=
      h.concat fun hq => absurd hq (hm z List.mem_cons_self)
    simpa using ih hz fun y hy => hm y (List.mem_cons_of_mem z hy)

theorem Precedes.of_append {l m : List α} (h : Precedes p q (l ++ m)) : Precedes p q l := by
  rintro before x after rfl hx
  exact h before x (after ++ m) (by simp) hx

theorem not_precedes {l : List α} (hq : ∃ x ∈ l, q x) (hp : ∀ y ∈ l, ¬ p y) : ¬ Precedes p q l := by
  intro h
  obtain ⟨x, hmem, hx⟩ := hq
  obtain ⟨before, after, rfl⟩ := List.append_of_mem hmem
  obtain ⟨y, hy, hpy⟩ := h before x after rfl hx
  exact hp y (List.mem_append_left _ hy) hpy

theorem Precedes.imp {p' q' : α → Prop} {l : List α} (h : Precedes p q l) (hp : ∀ x, p x → p' x)
    (hq : ∀ x, q' x → q x) : Precedes p' q' l := by
  intro before x after heq hx
  obtain ⟨y, hy, hpy⟩ := h before x after heq (hq x hx)
  exact ⟨y, hy, hp y hpy⟩

/-- What comes before what in a part of the history does so in the whole. -/
theorem Precedes.of_filter {l : List α} {r : α → Bool} (h : Precedes p q (l.filter r)) :
    Precedes (fun x => p x ∧ r x = true) (fun x => q x ∧ r x = true) l := by
  rintro before x after rfl ⟨hx, hr⟩
  rw [List.filter_append, List.filter_cons_of_pos hr] at h
  obtain ⟨y, hy, hpy⟩ := h _ x _ rfl hx
  obtain ⟨hmem, hry⟩ := List.mem_filter.mp hy
  exact ⟨y, hmem, hpy, hry⟩

def EachAfter (P : List α → α → Prop) (l : List α) : Prop :=
  ∀ before x after, l = before ++ x :: after → P before x

variable {P : List α → α → Prop}

theorem eachAfter_nil : EachAfter P [] := by
  intro before x after heq
  simp at heq

theorem EachAfter.concat {l : List α} {z : α} (h : EachAfter P l) (hz : P l z) :
    EachAfter P (l ++ [z]) := by
  intro before x after heq
  rcases List.eq_nil_or_concat after with rfl | ⟨after, last, rfl⟩
  · obtain ⟨rfl, hlast⟩ := List.append_inj' heq rfl
    cases hlast
    exact hz
  · have heq' : l ++ [z] = (before ++ x :: after) ++ [last] := by simpa using heq
    exact h before x after (List.append_inj' heq' rfl).1

/-- Entries may be added that are in the relation to whatever is before them. -/
theorem EachAfter.append {l m : List α} (h : EachAfter P l) (hm : ∀ z ∈ m, ∀ before, P before z) :
    EachAfter P (l ++ m) := by
  induction m generalizing l with
  | nil => simpa using h
  | cons z m ih =>
    have hz : EachAfter P (l ++ [z]) := h.concat (hm z List.mem_cons_self l)
    simpa using ih hz fun y hy => hm y (List.mem_cons_of_mem z hy)

variable (q) [DecidablePred q]

def upTo : List α → List α
  | [] => []
  | x :: l => if q x then [] else x :: upTo l

variable {q}

/-- Once it has happened, the part before it stays. -/
theorem upTo_append_of_mem {l m : List α} (h : ∃ x ∈ l, q x) : upTo q (l ++ m) = upTo q l := by
  induction l with
  | nil =>
    obtain ⟨x, hx, _⟩ := h
    cases hx
  | cons y l ih =>
    by_cases hy : q y
    · simp [upTo, hy]
    · have hrest : ∃ x ∈ l, q x := by
        obtain ⟨x, hx, hq⟩ := h
        rcases List.mem_cons.mp hx with rfl | hmem
        · exact absurd hq hy
        · exact ⟨x, hmem, hq⟩
      simp [upTo, hy, ih hrest]

theorem upTo_append_of_forall {l m : List α} (h : ∀ x ∈ l, ¬ q x) :
    upTo q (l ++ m) = l ++ upTo q m := by
  induction l with
  | nil => rfl
  | cons y l ih =>
    have hy : ¬ q y := h y List.mem_cons_self
    simp [upTo, hy, ih fun x hx => h x (List.mem_cons_of_mem y hx)]

end History

end Doctmcp.Lib

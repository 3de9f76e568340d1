import Doctmcp.Lib.History

/-! # Histories that an automaton reads

An automaton with partial transitions reads a history entry by entry; `reads δ q word` is the state that
it is in afterwards, if it gets that far. What an automaton allows then holds of every history that it
reads: how often an entry occurs (`Marks.countP_add`), what comes before it (`precedes_of_reads`), and
what does not come after it (`pairwise_of_reads`). -/

namespace Doctmcp.Lib
set_option autoImplicit false

section Automaton
variable {Q A : Type} {δ : Q → A → Option Q}

/-- The state after the word, if the automaton reads it. -/
def reads (δ : Q → A → Option Q) : Q → List A → Option Q
  | q, [] => some q
  | q, a :: word => (δ q a).bind fun q => reads δ q word

@[simp] theorem reads_nil (q : Q) : reads δ q [] = some q := rfl

theorem reads_append (q : Q) (l m : List A) :
    reads δ q (l ++ m) = (reads δ q l).bind fun q => reads δ q m := by
  induction l generalizing q with
  | nil => rfl
  | cons a l ih =>
    simp only [List.cons_append, reads, Option.bind_assoc]
    congr 1
    funext q'
    exact ih q'

theorem reads_cons_eq_some {q q' : Q} {a : A} {l : List A} :
    reads δ q (a :: l) = some q' ↔ ∃ q₁, δ q a = some q₁ ∧ reads δ q₁ l = some q' := by
  simp [reads, Option.bind_eq_some_iff]

theorem reads_append_eq_some {q q' : Q} {l m : List A} :
    reads δ q (l ++ m) = some q' ↔ ∃ q₁, reads δ q l = some q₁ ∧ reads δ q₁ m = some q' := by
  rw [reads_append, Option.bind_eq_some_iff]

/-- A history is read on where it was read before. -/
theorem reads_append_of_eq {q q₁ : Q} {l : List A} (h : reads δ q l = some q₁) (m : List A) :
    reads δ q (l ++ m) = reads δ q₁ m := by
  rw [reads_append, h]
  rfl

/-- What the transitions keep, a history keeps. -/
theorem keeps_of_reads {S : Q → Prop} (hstep : ∀ q a q', δ q a = some q' → S q → S q') {q q' : Q}
    {l : List A} (hl : reads δ q l = some q') (hq : S q) : S q' := by
  induction l generalizing q with
  | nil =>
    cases hl
    exact hq
  | cons a l ih =>
    obtain ⟨q₁, ha, hrest⟩ := reads_cons_eq_some.mp hl
    exact ih hrest (hstep q a q₁ ha hq)

/-- The entries `p` are those that take the automaton into `S`, and it does not leave `S`. -/
structure Marks (δ : Q → A → Option Q) (p : A → Prop) (S : Q → Prop) : Prop where
  iff : ∀ q a q', δ q a = some q' → (p a ↔ ¬ S q ∧ S q')
  stays : ∀ q a q', δ q a = some q' → S q → S q'

variable {p r : A → Prop} {S : Q → Prop}

/-- A mark is in the history once if it takes the automaton into `S`, and not at all otherwise. -/
theorem Marks.countP_add [DecidablePred p] [DecidablePred S] (h : Marks δ p S) {q q' : Q} {l : List A}
    (hl : reads δ q l = some q') :
    l.countP p + (if S q then 1 else 0) = if S q' then 1 else 0 := by
  induction l generalizing q with
  | nil =>
    cases hl
    simp
  | cons a l ih =>
    obtain ⟨q₁, ha, hrest⟩ := reads_cons_eq_some.mp hl
    have hiff := h.iff q a q₁ ha
    have hcount := ih hrest
    rw [List.countP_cons]
    by_cases hq : S q
    · have hq₁ := h.stays q a q₁ ha hq
      have hp : ¬ p a := fun hp => (hiff.mp hp).1 hq
      simpa [hp, hq, hq₁] using hcount
    · by_cases hq₁ : S q₁
      · have hp : p a := hiff.mpr ⟨hq, hq₁⟩
        simpa [hp, hq, hq₁] using hcount
      · have hp : ¬ p a := fun hp => hq₁ (hiff.mp hp).2
        simpa [hp, hq, hq₁] using hcount

theorem Marks.countP_eq [DecidablePred p] [DecidablePred S] (h : Marks δ p S) {q q' : Q} {l : List A}
    (hl : reads δ q l = some q') (hq : ¬ S q) : l.countP p = if S q' then 1 else 0 := by
  have hcount := h.countP_add hl
  rwa [if_neg hq, Nat.add_zero] at hcount

/-- Where the automaton has got into `S`, there is an entry that took it there. -/
theorem exists_of_reads (hp : ∀ q a q', δ q a = some q' → ¬ S q → S q' → p a) {q q' : Q} {l : List A}
    (hl : reads δ q l = some q') (hq : ¬ S q) (hq' : S q') : ∃ a ∈ l, p a := by
  induction l generalizing q with
  | nil =>
    cases hl
    exact absurd hq' hq
  | cons a l ih =>
    obtain ⟨q₁, ha, hrest⟩ := reads_cons_eq_some.mp hl
    by_cases hq₁ : S q₁
    · exact ⟨a, List.mem_cons_self, hp q a q₁ ha hq hq₁⟩
    · obtain ⟨b, hb, hpb⟩ := ih hrest hq₁
      exact ⟨b, List.mem_cons_of_mem a hb, hpb⟩

/-- An entry that is read in `S` alone comes after one that leads there. -/
theorem precedes_of_reads (hp : ∀ q a q', δ q a = some q' → ¬ S q → S q' → p a)
    (hr : ∀ q a q', δ q a = some q' → r a → S q) {q q' : Q} {l : List A}
    (hl : reads δ q l = some q') (hq : ¬ S q) : Precedes p r l := by
  rintro before x after rfl hx
  obtain ⟨q₁, hbefore, hrest⟩ := reads_append_eq_some.mp hl
  obtain ⟨q₂, hx', -⟩ := reads_cons_eq_some.mp hrest
  exact exists_of_reads hp hbefore hq (hr q₁ x q₂ hx' hx)

/-- After an entry that leads into `S`, there is none that is not read in `S`. -/
theorem pairwise_of_reads (hp : ∀ q a q', δ q a = some q' → p a → S q')
    (hstays : ∀ q a q', δ q a = some q' → S q → S q')
    (hr : ∀ q a q', δ q a = some q' → S q → ¬ r a) {q q' : Q} {l : List A}
    (hl : reads δ q l = some q') : l.Pairwise fun x y => p x → ¬ r y := by
  have hnone : ∀ (m : List A) (q₁ : Q), reads δ q₁ m = some q' → S q₁ → ∀ y ∈ m, ¬ r y := by
    intro m
    induction m with
    | nil => simp
    | cons a m ih =>
      intro q₁ hm hq₁ y hy
      obtain ⟨q₂, ha, hrest⟩ := reads_cons_eq_some.mp hm
      rcases List.mem_cons.mp hy with rfl | hy
      · exact hr q₁ y q₂ ha hq₁
      · exact ih q₂ hrest (hstays q₁ a q₂ ha hq₁) y hy
  induction l generalizing q with
  | nil => exact List.Pairwise.nil
  | cons a l ih =>
    obtain ⟨q₁, ha, hrest⟩ := reads_cons_eq_some.mp hl
    exact List.Pairwise.cons (fun y hy hpa => hnone l q₁ hrest (hp q a q₁ ha hpa) y hy) (ih hrest)

theorem pairwise_forall {ι : Type} {R : ι → A → A → Prop} {l : List A} (h : ∀ i, l.Pairwise (R i)) :
    l.Pairwise fun x y => ∀ i, R i x y := by
  induction l with
  | nil => exact List.Pairwise.nil
  | cons a l ih =>
    exact List.Pairwise.cons (fun b hb i => (List.pairwise_cons.mp (h i)).1 b hb)
      (ih fun i => (List.pairwise_cons.mp (h i)).2)

/-- Marks that raise a rank which never falls come in strictly rising order. -/
theorem pairwise_of_rank (rank : Q → ℕ) {mark : A → Option ℕ}
    (hmono : ∀ q a q', δ q a = some q' → rank q ≤ rank q')
    (hmark : ∀ q a q' n, δ q a = some q' → mark a = some n → rank q < n ∧ rank q' = n) {q q' : Q}
    {l : List A} (hl : reads δ q l = some q') :
    l.Pairwise fun x y => ∀ m n, mark x = some m → mark y = some n → m < n := by
  have hlater : ∀ (l : List A) (q₁ : Q), reads δ q₁ l = some q' →
      ∀ y ∈ l, ∀ n, mark y = some n → rank q₁ < n := by
    intro l
    induction l with
    | nil => simp
    | cons a l ih =>
      intro q₁ hl y hy n hn
      obtain ⟨q₂, ha, hrest⟩ := reads_cons_eq_some.mp hl
      rcases List.mem_cons.mp hy with rfl | hy
      · exact (hmark q₁ y q₂ n ha hn).1
      · exact Nat.lt_of_le_of_lt (hmono q₁ a q₂ ha) (ih q₂ hrest y hy n hn)
  induction l generalizing q with
  | nil => exact List.Pairwise.nil
  | cons a l ih =>
    obtain ⟨q₁, ha, hrest⟩ := reads_cons_eq_some.mp hl
    refine List.Pairwise.cons (fun y hy m n hm hn => ?_) (ih hrest)
    rw [← (hmark q a q₁ m ha hm).2]
    exact hlater l q₁ hrest y hy n hn

end Automaton

end Doctmcp.Lib

import Mathlib.Data.List.Basic
import Mathlib.Order.Basic

/-! # Runs of an event-driven machine

A machine is a total `step : S → E → S`; an event that is not enabled leaves the state as it is.
`Along step Q s es` says that every step of the run of `es` from `s` satisfies `Q` in the state
before it. The induction over a run is done here once: a property that each step preserves under
a guard holds at the end of every guarded run (`Along.invariant`), and whatever follows from the
invariant at one step holds at every step (`Along.of_invariant`). -/

namespace Doctmcp.Lib
set_option autoImplicit false

section Runs
variable {S E : Type} (step : S → E → S)

/-- The state after the events `es`. -/
def runFrom (s : S) (es : List E) : S := es.foldl step s

/-- Every step of the run satisfies `Q` in the state before it. -/
def Along (Q : S → E → Prop) : S → List E → Prop
  | _, [] => True
  | s, e :: es => Q s e ∧ Along Q (step s e) es

instance Along.decidable (Q : S → E → Prop) [∀ s e, Decidable (Q s e)] :
    ∀ (s : S) (es : List E), Decidable (Along step Q s es)
  | _, [] => .isTrue trivial
  | s, e :: es =>
    have := Along.decidable Q (step s e) es
    inferInstanceAs (Decidable (_ ∧ _))

variable {step}

@[simp] theorem runFrom_nil (s : S) : runFrom step s [] = s := rfl

@[simp] theorem runFrom_cons (s : S) (e : E) (es : List E) :
    runFrom step s (e :: es) = runFrom step (step s e) es := rfl

theorem runFrom_append (s : S) (es fs : List E) :
    runFrom step s (es ++ fs) = runFrom step (runFrom step s es) fs := by
  simp [runFrom]

theorem along_append {Q : S → E → Prop} (s : S) (es fs : List E) :
    Along step Q s (es ++ fs) ↔ Along step Q s es ∧ Along step Q (runFrom step s es) fs := by
  induction es generalizing s with
  | nil => simp [Along]
  | cons e es ih => simp [Along, ih, and_assoc]

theorem along_concat {Q : S → E → Prop} {s : S} {es : List E} {e : E} :
    Along step Q s (es ++ [e]) ↔ Along step Q s es ∧ Q (runFrom step s es) e := by
  rw [along_append]
  exact and_congr_right fun _ => and_iff_left trivial

/-- A run that is not all `Q` has a step that is not. -/
theorem exists_of_not_along {Q : S → E → Prop} {s : S} {es : List E} (h : ¬ Along step Q s es) :
    ∃ before e after, es = before ++ e :: after ∧ ¬ Q (runFrom step s before) e := by
  induction es generalizing s with
  | nil => exact absurd trivial h
  | cons e es ih =>
    by_cases he : Q s e
    · have hrest : ¬ Along step Q (step s e) es := fun hrest => h ⟨he, hrest⟩
      obtain ⟨before, f, after, rfl, hf⟩ := ih hrest
      exact ⟨e :: before, f, after, rfl, hf⟩
    · exact ⟨[], e, es, rfl, he⟩

/-- What every step of a guarded run preserves holds at its end. -/
theorem Along.invariant {P : S → Prop} {G : S → E → Prop}
    (hstep : ∀ s e, P s → G s e → P (step s e)) {s : S} {es : List E}
    (hs : P s) (hrun : Along step G s es) : P (runFrom step s es) := by
  induction es generalizing s with
  | nil => exact hs
  | cons e es ih => exact ih (hstep s e hs hrun.1) hrun.2

/-- What the invariant and the guard give at one step, they give at every step of the run. -/
theorem Along.of_invariant {P : S → Prop} {G Q : S → E → Prop}
    (hstep : ∀ s e, P s → G s e → P (step s e)) (hQ : ∀ s e, P s → G s e → Q s e)
    {s : S} {es : List E} (hs : P s) (hrun : Along step G s es) : Along step Q s es := by
  induction es generalizing s with
  | nil => trivial
  | cons e es ih => exact ⟨hQ s e hs hrun.1, ih (hstep s e hs hrun.1) hrun.2⟩

/-- What holds of every event holds along the run. -/
theorem Along.and_forall {G : S → E → Prop} {R : E → Prop} {s : S} {es : List E}
    (hrun : Along step G s es) (h : ∀ e ∈ es, R e) : Along step (fun s e => G s e ∧ R e) s es := by
  induction es generalizing s with
  | nil => trivial
  | cons e es ih =>
    exact ⟨⟨hrun.1, h e List.mem_cons_self⟩, ih hrun.2 fun e' he' => h e' (List.mem_cons_of_mem e he')⟩

theorem along_true (s : S) (es : List E) : Along step (fun _ _ => True) s es := by
  induction es generalizing s with
  | nil => trivial
  | cons e es ih => exact ⟨trivial, ih _⟩

/-- An unguarded invariant holds at the end of every run. -/
theorem runFrom_invariant {P : S → Prop} (hstep : ∀ s e, P s → P (step s e)) {s : S}
    (hs : P s) (es : List E) : P (runFrom step s es) :=
  Along.invariant (G := fun _ _ => True) (fun s e h _ => hstep s e h) hs (along_true s es)

end Runs

end Doctmcp.Lib

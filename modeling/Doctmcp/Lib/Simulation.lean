import Doctmcp.Lib.Operation
import Doctmcp.Lib.Runs

/-! # Two implementations of one interface

Two machines take the same calls, each on its own store. They run side by side (`both`), a
simulation relation is an invariant of the pair, and what they answer at a call is compared in the
pair of stores before it. The rules below read two operations in step: where both begin with the
same computation that only reads, both throw the same error or both go on. -/

namespace Doctmcp.Lib
set_option autoImplicit false

section Both
variable {S T C O P : Type} (f : S → C → O × S) (g : T → C → P × T)

/-- Both machines take the call. -/
def both (st : S × T) (c : C) : S × T := ((f st.1 c).2, (g st.2 c).2)

theorem both_fst (st : S × T) (c : C) : (both f g st c).1 = (f st.1 c).2 := rfl

variable {f g}

/-- Where an invariant of the pair makes two properties of a step equivalent, they are equivalent
along every run. -/
theorem Along.congr_invariant {P Q Q' : S × T → C → Prop} {R : S × T → Prop}
    (hstep : ∀ st c, R st → P st c → R (both f g st c))
    (hiff : ∀ st c, R st → P st c → (Q st c ↔ Q' st c)) {st : S × T} (hst : R st)
    {calls : List C} (hrun : Along (both f g) P st calls) :
    Along (both f g) Q st calls ↔ Along (both f g) Q' st calls := by
  induction calls generalizing st with
  | nil => exact Iff.rfl
  | cons c calls ih =>
    exact and_congr (hiff st c hst hrun.1) (ih (hstep st c hst hrun.1) hrun.2)

end Both

namespace Operation
variable {S T ε α β γ : Type}

/-- Two operations that begin with the same computation that only reads. -/
theorem exec_lift_both {r : Except ε α} {f : α → Operation S ε β} {g : α → Operation T ε γ}
    {s : S} {t : T} {P : Except ε β × S → Except ε γ × T → Prop}
    (herror : ∀ e, r = .error e → P (.error e, s) (.error e, t))
    (hok : ∀ a, r = .ok a → P (exec (f a) s) (exec (g a) t)) :
    P (exec ((liftM r : Operation S ε α) >>= f) s) (exec ((liftM r : Operation T ε α) >>= g) t) := by
  rw [exec_bind, exec_bind, exec_lift, exec_lift]
  cases r with
  | ok a => exact hok a rfl
  | error e => exact herror e rfl

end Operation
end Doctmcp.Lib

import Mathlib.Logic.Basic

/-! # Operations on a store

An operation reads and changes a store and either returns a value or throws. The store stands
outside the exception, as in JavaScript: what was written before a throw stays written.
`transaction` is the boundary of a database, which puts the store back when its body throws. The
rules of this file read an operation from front to back: an operation that begins with a
computation that only reads is done as soon as that computation throws, with the store as it was. -/

namespace Doctmcp.Lib
set_option autoImplicit false

/-- A computation over the store `S` that may throw an `ε`. -/
abbrev Operation (S ε α : Type) := ExceptT ε (StateM S) α

namespace Operation
variable {S ε α β : Type}

/-- What the operation returns or throws, and the store it leaves. -/
def exec (op : Operation S ε α) (s : S) : Except ε α × S := (ExceptT.run op).run s

@[simp] theorem exec_pure (a : α) (s : S) : exec (pure a : Operation S ε α) s = (.ok a, s) := rfl

@[simp] theorem exec_throw (e : ε) (s : S) :
    exec (throw e : Operation S ε α) s = (.error e, s) := rfl

@[simp] theorem exec_get (s : S) : exec (get : Operation S ε S) s = (.ok s, s) := rfl

@[simp] theorem exec_set (s s' : S) : exec (set s' : Operation S ε PUnit) s = (.ok ⟨⟩, s') := rfl

@[simp] theorem exec_lift (r : Except ε α) (s : S) :
    exec (liftM r : Operation S ε α) s = (r, s) := rfl

theorem exec_bind (op : Operation S ε α) (f : α → Operation S ε β) (s : S) :
    exec (op >>= f) s = match exec op s with
      | (.ok a, s') => exec (f a) s'
      | (.error e, s') => (.error e, s') := by
  simp only [exec, ExceptT.run_bind, StateT.run_bind]
  rcases h : StateT.run (ExceptT.run op) s with ⟨r, s'⟩
  cases r <;> rfl

theorem exec_map (op : Operation S ε α) (f : α → β) (s : S) :
    exec (f <$> op) s = ((exec op s).1.map f, (exec op s).2) := by
  rw [map_eq_pure_bind, exec_bind]
  rcases exec op s with ⟨r, s'⟩
  cases r <;> rfl

/-- `if (condition) throw error;` -/
def failIf (p : Prop) [Decidable p] (e : ε) : Operation S ε Unit := if p then throw e else pure ()

@[simp] theorem exec_failIf (p : Prop) [Decidable p] (e : ε) (s : S) :
    exec (failIf p e : Operation S ε Unit) s = (if p then .error e else .ok (), s) := by
  by_cases h : p <;> simp [failIf, h]

/-- `database.transaction(body).immediate()`: a throw rolls the store back. -/
def transaction (op : Operation S ε α) : Operation S ε α :=
  ExceptT.mk fun s => match exec op s with
    | (.ok a, s') => (.ok a, s')
    | (.error e, _) => (.error e, s)

theorem exec_transaction (op : Operation S ε α) (s : S) :
    exec (transaction op) s = match exec op s with
      | (.ok a, s') => (.ok a, s')
      | (.error e, _) => (.error e, s) := rfl

/-- A value or the error to throw in its place. -/
def orThrow (value : Option α) (e : ε) : Except ε α :=
  match value with
  | some a => .ok a
  | none => .error e

@[simp] theorem orThrow_some (a : α) (e : ε) : orThrow (some a) e = .ok a := rfl

theorem orThrow_ok {value : Option α} {e : ε} {a : α} (h : orThrow value e = .ok a) :
    value = some a := by
  cases value with
  | none => cases h
  | some b => cases h; rfl

theorem orThrow_error {value : Option α} {e e' : ε} (h : orThrow value e = .error e') :
    value = none := by
  cases value with
  | none => rfl
  | some b => cases h

/-! ## Operations that only read -/

/-- The operation leaves every store as it was. -/
def ReadOnly (op : Operation S ε α) : Prop := ∀ s, (exec op s).2 = s

theorem ReadOnly.lift (r : Except ε α) : ReadOnly (liftM r : Operation S ε α) := fun _ => rfl

theorem ReadOnly.get : ReadOnly (MonadState.get : Operation S ε S) := fun _ => rfl

theorem ReadOnly.pure (a : α) : ReadOnly (Pure.pure a : Operation S ε α) := fun _ => rfl

theorem ReadOnly.bind {op : Operation S ε α} {f : α → Operation S ε β} (hop : ReadOnly op)
    (hf : ∀ a, ReadOnly (f a)) : ReadOnly (op >>= f) := by
  intro s
  rw [exec_bind]
  have hs := hop s
  rcases h : exec op s with ⟨r, s'⟩
  rw [h] at hs
  cases r with
  | ok a => exact (hf a s').trans hs
  | error e => exact hs

/-! ## Operations that move the store along a relation -/

/-- The store before and after the operation are related, also where it throws. -/
def Moves (R : S → S → Prop) (op : Operation S ε α) : Prop := ∀ s, R s (exec op s).2

section Moves
variable {R : S → S → Prop}

theorem ReadOnly.moves {op : Operation S ε α} (hop : ReadOnly op) (hrefl : ∀ s, R s s) :
    Moves R op := by
  intro s
  rw [hop s]
  exact hrefl s

theorem Moves.bind {op : Operation S ε α} {f : α → Operation S ε β}
    (htrans : ∀ {s s' s''}, R s s' → R s' s'' → R s s'') (hop : Moves R op)
    (hf : ∀ a, Moves R (f a)) : Moves R (op >>= f) := by
  intro s
  rw [exec_bind]
  have hs := hop s
  rcases h : exec op s with ⟨r, s'⟩
  rw [h] at hs
  cases r with
  | ok a => exact htrans hs (hf a s')
  | error e => exact hs

/-- After a computation that cannot write. -/
theorem Moves.lift_bind {r : Except ε α} {f : α → Operation S ε β} (hrefl : ∀ s, R s s)
    (hf : ∀ a, Moves R (f a)) : Moves R ((liftM r : Operation S ε α) >>= f) := by
  intro s
  rw [exec_bind, exec_lift]
  cases r with
  | ok a => exact hf a s
  | error e => exact hrefl s

theorem Moves.failIf_bind {p : Prop} [Decidable p] {e : ε} {f : Unit → Operation S ε β}
    (hrefl : ∀ s, R s s) (hf : ¬ p → Moves R (f ())) : Moves R (Operation.failIf p e >>= f) := by
  intro s
  rw [exec_bind, exec_failIf]
  by_cases h : p
  · rw [if_pos h]
    exact hrefl s
  · rw [if_neg h]
    exact hf h s

/-- A transaction that throws takes everything back. -/
theorem Moves.transaction {op : Operation S ε α} (hrefl : ∀ s, R s s) (hop : Moves R op) :
    Moves R (Operation.transaction op) := by
  intro s
  rw [exec_transaction]
  have hs := hop s
  rcases h : exec op s with ⟨r, s'⟩
  rw [h] at hs
  cases r with
  | ok a => exact hs
  | error e => exact hrefl s

end Moves

/-! ## What an operation can return -/

/-- Every value that the operation returns satisfies `Q`. -/
def Returns (Q : α → Prop) (op : Operation S ε α) : Prop :=
  ∀ s a s', exec op s = (.ok a, s') → Q a

theorem Returns.pure {Q : α → Prop} {a : α} (h : Q a) :
    Returns Q (Pure.pure a : Operation S ε α) := by
  intro s b s' hb
  rw [exec_pure, Prod.mk.injEq, Except.ok.injEq] at hb
  exact hb.1 ▸ h

theorem Returns.throw (Q : α → Prop) (e : ε) : Returns Q (MonadExcept.throw e : Operation S ε α) := by
  intro s a s' ha
  cases ha

theorem Returns.bind {Q : β → Prop} {op : Operation S ε α} {f : α → Operation S ε β}
    (hf : ∀ a, Returns Q (f a)) : Returns Q (op >>= f) := by
  intro s b s' hb
  rw [exec_bind] at hb
  rcases h : exec op s with ⟨r, s''⟩
  rw [h] at hb
  cases r with
  | ok a => exact hf a s'' b s' hb
  | error e => cases hb

theorem Returns.ite {Q : α → Prop} {p : Prop} [Decidable p] {op op' : Operation S ε α}
    (h : Returns Q op) (h' : Returns Q op') : Returns Q (if p then op else op') := by
  by_cases hp : p
  · rw [if_pos hp]
    exact h
  · rw [if_neg hp]
    exact h'

/-! ## Reading an operation from front to back -/

/-- The rule for a leading computation that cannot write: either it throws and the store is as
it was, or the rest runs in that store. -/
theorem exec_bind_cases {P : Except ε β × S → Prop} {r : Except ε α}
    {f : α → Operation S ε β} {s : S} (herror : ∀ e, r = .error e → P (.error e, s))
    (hok : ∀ a, r = .ok a → P (exec (f a) s)) :
    P (exec ((liftM r : Operation S ε α) >>= f) s) := by
  rw [exec_bind, exec_lift]
  cases r with
  | ok a => exact hok a rfl
  | error e => exact herror e rfl

theorem exec_failIf_cases {P : Except ε β × S → Prop} {p : Prop} [Decidable p] {e : ε}
    {f : Unit → Operation S ε β} {s : S} (herror : p → P (.error e, s))
    (hok : ¬ p → P (exec (f ()) s)) : P (exec (failIf p e >>= f) s) := by
  rw [exec_bind, exec_failIf]
  by_cases h : p
  · simpa [h] using herror h
  · simpa [h] using hok h

theorem exec_lift_bind_eq {r : Except ε α} {a : α} (h : r = .ok a) (f : α → Operation S ε β)
    (s : S) : exec ((liftM r : Operation S ε α) >>= f) s = exec (f a) s := by
  rw [exec_bind, exec_lift, h]

@[simp] theorem exec_get_bind (f : S → Operation S ε β) (s : S) :
    exec (get >>= f) s = exec (f s) s := by
  rw [exec_bind, exec_get]

@[simp] theorem exec_set_bind (s' : S) (f : PUnit → Operation S ε β) (s : S) :
    exec (set s' >>= f) s = exec (f ⟨⟩) s' := by
  rw [exec_bind, exec_set]

/-! ## Operations that returned -/

theorem exec_bind_ok {op : Operation S ε α} {f : α → Operation S ε β} {s s'' : S} {b : β}
    (h : exec (op >>= f) s = (.ok b, s'')) :
    ∃ a s', exec op s = (.ok a, s') ∧ exec (f a) s' = (.ok b, s'') := by
  rw [exec_bind] at h
  rcases hop : exec op s with ⟨r, s'⟩
  rw [hop] at h
  cases r with
  | ok a => exact ⟨a, s', rfl, h⟩
  | error e => simp at h

theorem exec_lift_bind_ok {r : Except ε α} {f : α → Operation S ε β} {s s'' : S} {b : β}
    (h : exec ((liftM r : Operation S ε α) >>= f) s = (.ok b, s'')) :
    ∃ a, r = .ok a ∧ exec (f a) s = (.ok b, s'') := by
  obtain ⟨a, s', hr, hf⟩ := exec_bind_ok h
  rw [exec_lift, Prod.mk.injEq] at hr
  obtain ⟨rfl, rfl⟩ := hr
  exact ⟨a, rfl, hf⟩

theorem exec_failIf_bind_ok {p : Prop} [Decidable p] {e : ε} {f : Unit → Operation S ε β}
    {s s'' : S} {b : β} (h : exec (failIf p e >>= f) s = (.ok b, s'')) :
    ¬ p ∧ exec (f ()) s = (.ok b, s'') := by
  rw [exec_bind, exec_failIf] at h
  by_cases hp : p
  · simp [hp] at h
  · simp only [hp, if_false] at h
    exact ⟨hp, h⟩

theorem exec_failIf_ok {p : Prop} [Decidable p] {e : ε} {s s' : S} {u : Unit}
    (h : exec (failIf p e : Operation S ε Unit) s = (.ok u, s')) : ¬ p ∧ s' = s := by
  rw [exec_failIf] at h
  by_cases hp : p
  · simp [hp] at h
  · simp only [hp, if_false, Prod.mk.injEq, true_and] at h
    exact ⟨hp, h.symm⟩

theorem exec_transaction_ok {op : Operation S ε α} {s s' : S} {a : α}
    (h : exec (transaction op) s = (.ok a, s')) : exec op s = (.ok a, s') := by
  rw [exec_transaction] at h
  rcases hop : exec op s with ⟨r, s''⟩
  rw [hop] at h
  cases r with
  | ok b => exact h
  | error e => cases h

/-- A transaction is its body when that returns, and nothing when it throws. -/
theorem exec_transaction_cases {P : Except ε α × S → Prop} {op : Operation S ε α} {s : S}
    (herror : ∀ e s', exec op s = (.error e, s') → P (.error e, s))
    (hok : ∀ a s', exec op s = (.ok a, s') → P (.ok a, s')) :
    P (exec (transaction op) s) := by
  rw [exec_transaction]
  rcases h : exec op s with ⟨r, s'⟩
  cases r with
  | ok a => exact hok a s' h
  | error e => exact herror e s' h

end Operation
end Doctmcp.Lib

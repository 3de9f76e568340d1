import Mathlib.Algebra.BigOperators.Group.List.Basic
import Mathlib.Algebra.GroupWithZero.Nat
import Doctmcp.Lib.Heap

/-! # Promises and their jobs

Promises that are fulfilled but never rejected, and the queue of jobs. A reaction is registered with
a pending promise and becomes a job when the promise is fulfilled; it becomes one at once where the
promise is fulfilled already. Reactions are moved, never copied: `total` adds a weight over all of
them, registered or queued. `Sound` is the rule for what a fulfilled promise says: if each promise
`awaits` some events and each reaction `needs` no others, then the needs of every job are met. -/

namespace Doctmcp.Lib
set_option autoImplicit false

/-- A promise; the label says what it was made for. -/
structure Promise (L R : Type) where
  label : L
  settled : Bool
  reactions : List R

structure Jobs (L R : Type) where
  promises : Heap (Promise L R)
  queue : List R

namespace Jobs
variable {L R : Type}

def empty : Jobs L R := ⟨.empty, []⟩

/-- A new promise; its reference is `jobs.promises.next`. -/
def create (jobs : Jobs L R) (label : L) (settled : Bool) : Jobs L R :=
  { jobs with promises := jobs.promises.alloc ⟨label, settled, []⟩ }

def enqueue (jobs : Jobs L R) (r : R) : Jobs L R := { jobs with queue := jobs.queue ++ [r] }

/-- `promise.then(reaction)`. -/
def subscribe (jobs : Jobs L R) (p : ℕ) (r : R) : Jobs L R :=
  match jobs.promises.get? p with
  | none => jobs
  | some promise =>
    if promise.settled = true then jobs.enqueue r
    else
      { jobs with promises := jobs.promises.modify p fun promise =>
          { promise with reactions := promise.reactions ++ [r] } }

/-- Fulfil a promise, unless it is. -/
def fulfil (jobs : Jobs L R) (p : ℕ) : Jobs L R :=
  match jobs.promises.get? p with
  | none => jobs
  | some promise =>
    if promise.settled = true then jobs
    else
      { promises := jobs.promises.modify p fun promise =>
          { promise with settled := true, reactions := [] }
        queue := jobs.queue ++ promise.reactions }

/-- The next job is taken off the queue. -/
def rest (jobs : Jobs L R) : Jobs L R := { jobs with queue := jobs.queue.tail }

/-! ## What is where -/

/-- The promise was made for `label`. -/
def Labelled (jobs : Jobs L R) (p : ℕ) (label : L) : Prop :=
  ∃ promise, jobs.promises.get? p = some promise ∧ promise.label = label

def Settled (jobs : Jobs L R) (p : ℕ) : Prop :=
  ∃ promise, jobs.promises.get? p = some promise ∧ promise.settled = true

/-- The reaction waits for a promise that is pending. -/
def Registered (jobs : Jobs L R) (p : ℕ) (r : R) : Prop :=
  ∃ promise, jobs.promises.get? p = some promise ∧ promise.settled = false ∧ r ∈ promise.reactions

theorem Labelled.unique {jobs : Jobs L R} {p : ℕ} {label label' : L} (h : jobs.Labelled p label)
    (h' : jobs.Labelled p label') : label = label' := by
  obtain ⟨promise, hget, rfl⟩ := h
  obtain ⟨promise', hget', rfl⟩ := h'
  rw [Option.some.inj (hget.symm.trans hget')]

theorem Labelled.lt {jobs : Jobs L R} {p : ℕ} {label : L} (h : jobs.Labelled p label) :
    p < jobs.promises.next := by
  obtain ⟨promise, hget, -⟩ := h
  exact Heap.exists_get?_iff.1 ⟨promise, hget⟩

theorem Registered.lt {jobs : Jobs L R} {p : ℕ} {r : R} (h : jobs.Registered p r) :
    p < jobs.promises.next := by
  obtain ⟨promise, hget, -⟩ := h
  exact Heap.exists_get?_iff.1 ⟨promise, hget⟩

theorem Registered.not_settled {jobs : Jobs L R} {p : ℕ} {r : R} (h : jobs.Registered p r) :
    ¬ jobs.Settled p := by
  rintro ⟨promise, hget, hsettled⟩
  obtain ⟨promise', hget', hpending, -⟩ := h
  rw [Option.some.inj (hget.symm.trans hget'), hpending] at hsettled
  cases hsettled

section Read
variable {jobs : Jobs L R} {p q : ℕ} {label label' : L} {b : Bool} {r r' : R}

theorem labelled_create :
    (jobs.create label b).Labelled q label' ↔
      (q = jobs.promises.next ∧ label = label') ∨ jobs.Labelled q label' := by
  unfold Labelled create
  simp only [Heap.get?_alloc_eq_some]
  constructor
  · rintro ⟨promise, ⟨hq, rfl⟩ | hget, hlabel⟩
    · exact .inl ⟨hq, hlabel⟩
    · exact .inr ⟨promise, hget, hlabel⟩
  · rintro (⟨hq, hlabel⟩ | ⟨promise, hget, hlabel⟩)
    · exact ⟨_, .inl ⟨hq, rfl⟩, hlabel⟩
    · exact ⟨promise, .inr hget, hlabel⟩

theorem settled_create :
    (jobs.create label b).Settled q ↔
      (q = jobs.promises.next ∧ b = true) ∨ jobs.Settled q := by
  unfold Settled create
  simp only [Heap.get?_alloc_eq_some]
  constructor
  · rintro ⟨promise, ⟨hq, rfl⟩ | hget, hsettled⟩
    · exact .inl ⟨hq, hsettled⟩
    · exact .inr ⟨promise, hget, hsettled⟩
  · rintro (⟨hq, hsettled⟩ | ⟨promise, hget, hsettled⟩)
    · exact ⟨_, .inl ⟨hq, rfl⟩, hsettled⟩
    · exact ⟨promise, .inr hget, hsettled⟩

theorem registered_create : (jobs.create label b).Registered q r ↔ jobs.Registered q r := by
  unfold Registered create
  simp only [Heap.get?_alloc_eq_some]
  constructor
  · rintro ⟨promise, ⟨-, rfl⟩ | hget, hpending, hmem⟩
    · cases hmem
    · exact ⟨promise, hget, hpending, hmem⟩
  · rintro ⟨promise, hget, hpending, hmem⟩
    exact ⟨promise, .inr hget, hpending, hmem⟩

theorem labelled_subscribe : (jobs.subscribe p r).Labelled q label ↔ jobs.Labelled q label := by
  unfold subscribe
  cases jobs.promises.get? p with
  | none => exact Iff.rfl
  | some promise =>
    dsimp only
    split
    · exact Iff.rfl
    · unfold Labelled
      simp only [Heap.get?_modify_eq_some]
      constructor
      · rintro ⟨_, ⟨promise, hget, rfl⟩, hlabel⟩
        exact ⟨promise, hget, by split at hlabel <;> exact hlabel⟩
      · rintro ⟨promise, hget, hlabel⟩
        exact ⟨_, ⟨promise, hget, rfl⟩, by split <;> exact hlabel⟩

theorem settled_subscribe : (jobs.subscribe p r).Settled q ↔ jobs.Settled q := by
  unfold subscribe
  cases jobs.promises.get? p with
  | none => exact Iff.rfl
  | some promise =>
    dsimp only
    split
    · exact Iff.rfl
    · unfold Settled
      simp only [Heap.get?_modify_eq_some]
      constructor
      · rintro ⟨_, ⟨promise, hget, rfl⟩, hsettled⟩
        exact ⟨promise, hget, by split at hsettled <;> exact hsettled⟩
      · rintro ⟨promise, hget, hsettled⟩
        exact ⟨_, ⟨promise, hget, rfl⟩, by split <;> exact hsettled⟩

theorem registered_subscribe (h : (jobs.subscribe p r).Registered q r') :
    jobs.Registered q r' ∨ (q = p ∧ r' = r) := by
  unfold subscribe at h
  cases hget : jobs.promises.get? p with
  | none =>
    rw [hget] at h
    exact .inl h
  | some promise =>
    rw [hget] at h
    dsimp only at h
    split at h
    · exact .inl h
    · obtain ⟨_, hmodified, hpending, hmem⟩ := h
      obtain ⟨promise', hget', rfl⟩ := (Heap.get?_modify_eq_some _ _ _).1 hmodified
      split at hmem
      · next hq =>
        rw [if_pos hq] at hpending
        rcases List.mem_append.1 hmem with hmem | hmem
        · exact .inl ⟨promise', hget', hpending, hmem⟩
        · exact .inr ⟨hq, List.mem_singleton.1 hmem⟩
      · next hq =>
        rw [if_neg hq] at hpending
        exact .inl ⟨promise', hget', hpending, hmem⟩

theorem mem_queue_subscribe (h : r' ∈ (jobs.subscribe p r).queue) :
    r' ∈ jobs.queue ∨ (r' = r ∧ jobs.Settled p) := by
  unfold subscribe at h
  cases hget : jobs.promises.get? p with
  | none =>
    rw [hget] at h
    exact .inl h
  | some promise =>
    rw [hget] at h
    dsimp only at h
    split at h
    · next hsettled =>
      rcases List.mem_append.1 h with h | h
      · exact .inl h
      · exact .inr ⟨List.mem_singleton.1 h, promise, hget, hsettled⟩
    · exact .inl h

theorem labelled_fulfil : (jobs.fulfil p).Labelled q label ↔ jobs.Labelled q label := by
  unfold fulfil
  cases jobs.promises.get? p with
  | none => exact Iff.rfl
  | some promise =>
    dsimp only
    split
    · exact Iff.rfl
    · unfold Labelled
      simp only [Heap.get?_modify_eq_some]
      constructor
      · rintro ⟨_, ⟨promise, hget, rfl⟩, hlabel⟩
        exact ⟨promise, hget, by split at hlabel <;> exact hlabel⟩
      · rintro ⟨promise, hget, hlabel⟩
        exact ⟨_, ⟨promise, hget, rfl⟩, by split <;> exact hlabel⟩

theorem settled_fulfil (hp : jobs.Labelled p label) :
    (jobs.fulfil p).Settled q ↔ q = p ∨ jobs.Settled q := by
  obtain ⟨promise, hget, -⟩ := hp
  unfold fulfil
  rw [hget]
  dsimp only
  split
  · next hsettled =>
    constructor
    · exact .inr
    · rintro (rfl | h)
      · exact ⟨promise, hget, hsettled⟩
      · exact h
  · unfold Settled
    simp only [Heap.get?_modify_eq_some]
    constructor
    · rintro ⟨_, ⟨promise', hget', rfl⟩, hsettled⟩
      split at hsettled
      · next hq => exact .inl hq
      · exact .inr ⟨promise', hget', hsettled⟩
    · rintro (rfl | ⟨promise', hget', hsettled⟩)
      · exact ⟨_, ⟨promise, hget, rfl⟩, by rw [if_pos rfl]⟩
      · exact ⟨_, ⟨promise', hget', rfl⟩, by split <;> first | rfl | exact hsettled⟩

theorem registered_fulfil (h : (jobs.fulfil p).Registered q r) :
    jobs.Registered q r ∧ q ≠ p := by
  unfold fulfil at h
  cases hget : jobs.promises.get? p with
  | none =>
    rw [hget] at h
    refine ⟨h, ?_⟩
    rintro rfl
    obtain ⟨promise, hpromise, -⟩ := h
    cases hget.symm.trans hpromise
  | some promise =>
    rw [hget] at h
    dsimp only at h
    split at h
    · next hsettled =>
      refine ⟨h, ?_⟩
      rintro rfl
      exact h.not_settled ⟨promise, hget, hsettled⟩
    · obtain ⟨_, hmodified, hpending, hmem⟩ := h
      obtain ⟨promise', hget', rfl⟩ := (Heap.get?_modify_eq_some _ _ _).1 hmodified
      split at hmem
      · cases hmem
      · next hq =>
        rw [if_neg hq] at hpending
        exact ⟨⟨promise', hget', hpending, hmem⟩, hq⟩

theorem mem_queue_fulfil (h : r ∈ (jobs.fulfil p).queue) :
    r ∈ jobs.queue ∨ jobs.Registered p r := by
  unfold fulfil at h
  cases hget : jobs.promises.get? p with
  | none =>
    rw [hget] at h
    exact .inl h
  | some promise =>
    rw [hget] at h
    dsimp only at h
    split at h
    · exact .inl h
    · next hpending =>
      rcases List.mem_append.1 h with h | h
      · exact .inl h
      · exact .inr ⟨promise, hget, Bool.eq_false_iff.2 hpending, h⟩

end Read

/-! ## Weights -/

section Total
variable (w : R → ℕ)

/-- The weight of what waits for a promise. -/
def load (promise : Promise L R) : ℕ :=
  if promise.settled = true then 0 else (promise.reactions.map w).sum

theorem load_settled {promise : Promise L R} (h : promise.settled = true) : load w promise = 0 :=
  if_pos h

theorem load_pending {promise : Promise L R} (h : ¬ promise.settled = true) :
    load w promise = (promise.reactions.map w).sum :=
  if_neg h

/-- The weight of all reactions, registered or queued. -/
def total (jobs : Jobs L R) : ℕ :=
  (jobs.queue.map w).sum + (jobs.promises.cells.map (load w)).sum

theorem sum_modify {A : Type} (cells : List A) (p : ℕ) (f : A → A) (g : A → ℕ) {a : A}
    (ha : cells[p]? = some a) :
    ((cells.modify p f).map g).sum + g a = (cells.map g).sum + g (f a) := by
  induction cells generalizing p with
  | nil => cases ha
  | cons b cells ih =>
    cases p with
    | zero =>
      obtain rfl : b = a := Option.some.inj ha
      simp only [List.modify_zero_cons, List.map_cons, List.sum_cons]
      omega
    | succ p =>
      have hrest := ih p ha
      simp only [List.modify_succ_cons, List.map_cons, List.sum_cons]
      omega

theorem cells_modify {A : Type} (h : Heap A) (p : ℕ) (f : A → A) :
    (h.modify p f).cells = h.cells.modify p f := by
  apply List.ext_getElem?
  intro j
  have hj := h.get?_modify p j f
  unfold Heap.get? at hj
  rw [hj, List.getElem?_modify]
  by_cases hp : p = j
  · simp [hp]
  · simp [hp, Ne.symm hp]

variable {w} {jobs : Jobs L R} {p : ℕ} {label : L} {r : R}

theorem total_create (b : Bool) : total w (jobs.create label b) = total w jobs := by
  simp [total, create, Heap.alloc, load]

theorem total_enqueue : total w (jobs.enqueue r) = total w jobs + w r := by
  simp only [total, enqueue, List.map_append, List.sum_append, List.map_cons, List.map_nil,
    List.sum_singleton]
  omega

theorem total_rest {queue : List R} (hqueue : jobs.queue = r :: queue) :
    total w jobs = total w jobs.rest + w r := by
  simp only [total, rest, hqueue, List.map_cons, List.sum_cons, List.tail_cons]
  omega

theorem total_subscribe (hp : jobs.Labelled p label) :
    total w (jobs.subscribe p r) = total w jobs + w r := by
  obtain ⟨promise, hget, -⟩ := hp
  unfold subscribe
  rw [hget]
  dsimp only
  by_cases hsettled : promise.settled = true
  · rw [if_pos hsettled]
    exact total_enqueue
  · rw [if_neg hsettled]
    have hsum := sum_modify jobs.promises.cells p
      (fun promise : Promise L R => { promise with reactions := promise.reactions ++ [r] })
      (load w) hget
    rw [load_pending w hsettled, load_pending w (by exact hsettled), List.map_append,
      List.sum_append, List.map_singleton, List.sum_singleton] at hsum
    simp only [total, cells_modify]
    omega

theorem total_fulfil : total w (jobs.fulfil p) = total w jobs := by
  unfold fulfil
  cases hget : jobs.promises.get? p with
  | none => rfl
  | some promise =>
    dsimp only
    by_cases hsettled : promise.settled = true
    · rw [if_pos hsettled]
    · rw [if_neg hsettled]
      have hsum := sum_modify jobs.promises.cells p
        (fun promise : Promise L R => { promise with settled := true, reactions := [] })
        (load w) hget
      rw [load_pending w hsettled, load_settled w rfl] at hsum
      simp only [total, cells_modify, List.map_append, List.sum_append]
      omega

theorem total_pos_of_mem (h : r ∈ jobs.queue) (hw : 0 < w r) : 0 < total w jobs :=
  Nat.add_pos_left (List.sum_pos_iff_exists_pos_nat.2 ⟨w r, List.mem_map.2 ⟨r, h, rfl⟩, hw⟩) _

/-- A weight that is there is the weight of a reaction. -/
theorem exists_of_total (h : 0 < total w jobs) :
    ∃ r, 0 < w r ∧ (r ∈ jobs.queue ∨ ∃ p, jobs.Registered p r) := by
  have hpos : ∀ l : List R, 0 < (l.map w).sum → ∃ r ∈ l, 0 < w r := by
    intro l hl
    obtain ⟨n, hn, hpos⟩ := List.sum_pos_iff_exists_pos_nat.1 hl
    obtain ⟨r, hr, rfl⟩ := List.mem_map.1 hn
    exact ⟨r, hr, hpos⟩
  by_cases hqueue : 0 < (jobs.queue.map w).sum
  · obtain ⟨r, hr, hw⟩ := hpos _ hqueue
    exact ⟨r, hw, .inl hr⟩
  · have hcells : 0 < (jobs.promises.cells.map (load w)).sum := by
      unfold total at h
      omega
    obtain ⟨n, hn, hload⟩ := List.sum_pos_iff_exists_pos_nat.1 hcells
    obtain ⟨promise, hpromise, rfl⟩ := List.mem_map.1 hn
    obtain ⟨p, hget⟩ := List.mem_iff_getElem?.1 hpromise
    by_cases hsettled : promise.settled = true
    · rw [load_settled w hsettled] at hload
      exact absurd hload (Nat.lt_irrefl 0)
    · rw [load_pending w hsettled] at hload
      obtain ⟨r, hr, hw⟩ := hpos _ hload
      exact ⟨r, hw, .inr ⟨p, promise, hget, Bool.eq_false_iff.2 hsettled, hr⟩⟩

end Total

/-! ## What a fulfilled promise says -/

section Sound
variable {E : Type} {awaits : L → E → Prop} {needs : R → E → Prop} {happened : E → Prop}
  {jobs : Jobs L R}

/-- A fulfilled promise has what it awaits, a job has what it needs, and a reaction waits for a
promise that awaits nothing else and everything of it that has not happened. -/
structure Sound (awaits : L → E → Prop) (needs : R → E → Prop) (happened : E → Prop)
    (jobs : Jobs L R) : Prop where
  settled : ∀ p label, jobs.Labelled p label → jobs.Settled p → ∀ e, awaits label e → happened e
  queued : ∀ r ∈ jobs.queue, ∀ e, needs r e → happened e
  enough : ∀ p label r, jobs.Labelled p label → jobs.Registered p r → ∀ e, needs r e →
    awaits label e ∨ happened e
  tight : ∀ p label r, jobs.Labelled p label → jobs.Registered p r → ∀ e, awaits label e → needs r e

theorem Sound.empty : Sound awaits needs happened (empty : Jobs L R) where
  settled p label hlabel := by
    obtain ⟨promise, hget, -⟩ := hlabel
    cases hget
  queued := nofun
  enough p label r hlabel := by
    obtain ⟨promise, hget, -⟩ := hlabel
    cases hget
  tight p label r hlabel := by
    obtain ⟨promise, hget, -⟩ := hlabel
    cases hget

theorem Sound.mono (h : Sound awaits needs happened jobs) {happened' : E → Prop}
    (hmono : ∀ e, happened e → happened' e) : Sound awaits needs happened' jobs where
  settled p label hlabel hsettled e he := hmono e (h.settled p label hlabel hsettled e he)
  queued r hr e he := hmono e (h.queued r hr e he)
  enough p label r hlabel hr e he := (h.enough p label r hlabel hr e he).imp_right (hmono e)
  tight := h.tight

theorem Sound.create (h : Sound awaits needs happened jobs) {label : L} {b : Bool}
    (hb : b = true → ∀ e, awaits label e → happened e) :
    Sound awaits needs happened (jobs.create label b) where
  settled p label' hlabel hsettled e he := by
    rcases labelled_create.1 hlabel with ⟨rfl, rfl⟩ | hlabel
    · rcases settled_create.1 hsettled with ⟨-, htrue⟩ | ⟨promise, hget, -⟩
      · exact hb htrue e he
      · exact absurd rfl (Heap.ne_next_of_get? hget)
    · rcases settled_create.1 hsettled with ⟨rfl, -⟩ | hsettled
      · exact absurd hlabel.lt (Nat.lt_irrefl _)
      · exact h.settled p label' hlabel hsettled e he
  queued := h.queued
  enough p label' r hlabel hr e he := by
    have hr := registered_create.1 hr
    rcases labelled_create.1 hlabel with ⟨rfl, -⟩ | hlabel
    · exact absurd hr.lt (Nat.lt_irrefl _)
    · exact h.enough p label' r hlabel hr e he
  tight p label' r hlabel hr e he := by
    have hr := registered_create.1 hr
    rcases labelled_create.1 hlabel with ⟨rfl, -⟩ | hlabel
    · exact absurd hr.lt (Nat.lt_irrefl _)
    · exact h.tight p label' r hlabel hr e he

theorem Sound.enqueue (h : Sound awaits needs happened jobs) {r : R}
    (hr : ∀ e, needs r e → happened e) : Sound awaits needs happened (jobs.enqueue r) where
  settled := h.settled
  queued r' hr' e he := by
    rcases List.mem_append.1 hr' with hr' | hr'
    · exact h.queued r' hr' e he
    · rw [List.mem_singleton.1 hr'] at he
      exact hr e he
  enough := h.enough
  tight := h.tight

theorem Sound.rest (h : Sound awaits needs happened jobs) :
    Sound awaits needs happened jobs.rest where
  settled := h.settled
  queued r hr := h.queued r (List.mem_of_mem_tail hr)
  enough := h.enough
  tight := h.tight

theorem Sound.subscribe (h : Sound awaits needs happened jobs) {p : ℕ} {label : L} {r : R}
    (hlabel : jobs.Labelled p label) (henough : ∀ e, needs r e → awaits label e ∨ happened e)
    (htight : ∀ e, awaits label e → needs r e) :
    Sound awaits needs happened (jobs.subscribe p r) where
  settled q label' hlabel' hsettled :=
    h.settled q label' (labelled_subscribe.1 hlabel') (settled_subscribe.1 hsettled)
  queued r' hr' e he := by
    rcases mem_queue_subscribe hr' with hr' | ⟨rfl, hsettled⟩
    · exact h.queued r' hr' e he
    · exact (henough e he).elim (h.settled p label hlabel hsettled e) id
  enough q label' r' hlabel' hr' e he := by
    have hmade := labelled_subscribe.1 hlabel'
    rcases registered_subscribe hr' with hr' | ⟨rfl, rfl⟩
    · exact h.enough q label' r' hmade hr' e he
    · rw [hmade.unique hlabel]
      exact henough e he
  tight q label' r' hlabel' hr' e he := by
    have hmade := labelled_subscribe.1 hlabel'
    rcases registered_subscribe hr' with hr' | ⟨rfl, rfl⟩
    · exact h.tight q label' r' hmade hr' e he
    · rw [hmade.unique hlabel] at he
      exact htight e he

theorem Sound.fulfil (h : Sound awaits needs happened jobs) {p : ℕ} {label : L}
    (hlabel : jobs.Labelled p label) (hhappened : ∀ e, awaits label e → happened e) :
    Sound awaits needs happened (jobs.fulfil p) where
  settled q label' hlabel' hsettled e he := by
    have hmade := labelled_fulfil.1 hlabel'
    rcases (settled_fulfil hlabel).1 hsettled with rfl | hsettled
    · rw [hmade.unique hlabel] at he
      exact hhappened e he
    · exact h.settled q label' hmade hsettled e he
  queued r hr e he := by
    rcases mem_queue_fulfil hr with hr | hr
    · exact h.queued r hr e he
    · exact (h.enough p label r hlabel hr e he).elim (hhappened e) id
  enough q label' r hlabel' hr :=
    h.enough q label' r (labelled_fulfil.1 hlabel') (registered_fulfil hr).1
  tight q label' r hlabel' hr :=
    h.tight q label' r (labelled_fulfil.1 hlabel') (registered_fulfil hr).1

end Sound

end Jobs

end Doctmcp.Lib

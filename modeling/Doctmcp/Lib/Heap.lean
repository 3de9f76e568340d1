import Mathlib.Data.List.Basic

/-! # Objects with identity

A heap keeps objects by reference, in the order of their creation. Objects are never freed: what
nothing refers to any more stays, and a reference is used once. -/

namespace Doctmcp.Lib
set_option autoImplicit false

structure Heap (A : Type) where
  cells : List A

namespace Heap
variable {A : Type}

def empty : Heap A := ⟨[]⟩

def get? (h : Heap A) (ref : ℕ) : Option A := h.cells[ref]?

/-- The reference that the next object gets. -/
def next (h : Heap A) : ℕ := h.cells.length

def alloc (h : Heap A) (a : A) : Heap A := ⟨h.cells ++ [a]⟩

/-- Change the objects at `refs`. -/
def modifyAll (h : Heap A) (refs : List ℕ) (f : A → A) : Heap A :=
  ⟨h.cells.mapIdx fun ref a => if ref ∈ refs then f a else a⟩

def modify (h : Heap A) (ref : ℕ) (f : A → A) : Heap A := h.modifyAll [ref] f

@[simp] theorem get?_empty (ref : ℕ) : (empty : Heap A).get? ref = none := rfl

theorem get?_alloc (h : Heap A) (a : A) (ref : ℕ) :
    (h.alloc a).get? ref = if ref = h.next then some a else h.get? ref := by
  unfold alloc get? next
  by_cases href : ref = h.cells.length
  · rw [if_pos href, href, List.getElem?_concat_length]
  · rw [if_neg href]
    by_cases hlt : ref < h.cells.length
    · exact List.getElem?_append_left hlt
    · have hlen : (h.cells ++ [a]).length ≤ ref := by
        rw [List.length_append, List.length_singleton]
        omega
      rw [List.getElem?_eq_none hlen, List.getElem?_eq_none (by omega)]

theorem get?_modifyAll (h : Heap A) (refs : List ℕ) (f : A → A) (ref : ℕ) :
    (h.modifyAll refs f).get? ref = if ref ∈ refs then (h.get? ref).map f else h.get? ref := by
  unfold modifyAll get?
  dsimp only
  rw [List.getElem?_mapIdx]
  by_cases href : ref ∈ refs
  · simp only [href, if_true]
  · simp only [href, if_false, Option.map_id']

theorem get?_modify (h : Heap A) (ref j : ℕ) (f : A → A) :
    (h.modify ref f).get? j = if j = ref then (h.get? j).map f else h.get? j := by
  rw [modify, get?_modifyAll]
  simp only [List.mem_singleton]

theorem get?_modifyAll_eq_some (h : Heap A) (refs : List ℕ) (f : A → A) {ref : ℕ} {b : A} :
    (h.modifyAll refs f).get? ref = some b ↔
      ∃ a, h.get? ref = some a ∧ (if ref ∈ refs then f a else a) = b := by
  rw [get?_modifyAll]
  by_cases href : ref ∈ refs
  · simp only [href, if_true, Option.map_eq_some_iff]
  · simp only [href, if_false, exists_eq_right]

theorem get?_modify_eq_some (h : Heap A) (ref : ℕ) (f : A → A) {j : ℕ} {b : A} :
    (h.modify ref f).get? j = some b ↔
      ∃ a, h.get? j = some a ∧ (if j = ref then f a else a) = b := by
  rw [modify, get?_modifyAll_eq_some]
  simp only [List.mem_singleton]

theorem get?_alloc_eq_some (h : Heap A) (a : A) {ref : ℕ} {b : A} :
    (h.alloc a).get? ref = some b ↔ (ref = h.next ∧ a = b) ∨ h.get? ref = some b := by
  rw [get?_alloc]
  by_cases href : ref = h.next
  · have hfresh : h.get? ref = none := by
      unfold get?
      exact List.getElem?_eq_none (Nat.le_of_eq href.symm)
    simp [href, href ▸ hfresh]
  · simp [href]

@[simp] theorem get?_modify_self (h : Heap A) (ref : ℕ) (f : A → A) :
    (h.modify ref f).get? ref = (h.get? ref).map f := by
  rw [get?_modify, if_pos rfl]

theorem get?_modify_ne (h : Heap A) {ref j : ℕ} (hne : j ≠ ref) (f : A → A) :
    (h.modify ref f).get? j = h.get? j := by
  rw [get?_modify, if_neg hne]

@[simp] theorem modifyAll_nil (h : Heap A) (f : A → A) : h.modifyAll [] f = h := by
  have hcells : (h.modifyAll [] f).cells = h.cells := by
    apply List.ext_getElem?
    intro ref
    simp [modifyAll]
  cases h with
  | mk cells => exact congrArg Heap.mk hcells

@[simp] theorem next_alloc (h : Heap A) (a : A) : (h.alloc a).next = h.next + 1 := by
  simp [alloc, next]

@[simp] theorem next_modifyAll (h : Heap A) (refs : List ℕ) (f : A → A) :
    (h.modifyAll refs f).next = h.next := by
  simp [modifyAll, next]

@[simp] theorem get?_next (h : Heap A) : h.get? h.next = none := by
  unfold get? next
  exact List.getElem?_eq_none (Nat.le_refl _)

theorem ne_next_of_get? {h : Heap A} {ref : ℕ} {a : A} (ha : h.get? ref = some a) :
    ref ≠ h.next := by
  rintro rfl
  rw [get?_next] at ha
  cases ha

/-- The references of a heap are those before the next one. -/
theorem exists_get?_iff {h : Heap A} {ref : ℕ} : (∃ a, h.get? ref = some a) ↔ ref < h.next := by
  unfold get? next
  constructor
  · rintro ⟨a, ha⟩
    exact (List.getElem?_eq_some_iff.mp ha).1
  · intro hlt
    exact ⟨h.cells[ref], List.getElem?_eq_getElem hlt⟩

theorem ext_get? {h h' : Heap A} (heq : ∀ ref, h.get? ref = h'.get? ref) : h = h' := by
  have hcells : h.cells = h'.cells := List.ext_getElem? heq
  cases h
  exact congrArg Heap.mk hcells

/-- Objects that exist before an allocation are there after it. -/
theorem get?_alloc_of_some {h : Heap A} {ref : ℕ} {a : A} (ha : h.get? ref = some a) (b : A) :
    (h.alloc b).get? ref = some a := by
  rw [get?_alloc, if_neg (ne_next_of_get? ha), ha]

/-- What stands in a heap with one cell changed. -/
theorem modify_cases {h : Heap A} {ref j : ℕ} {f : A → A} {a b : A} (ha : h.get? ref = some a)
    (hb : (h.modify ref f).get? j = some b) : (j = ref ∧ b = f a) ∨ (j ≠ ref ∧ h.get? j = some b) := by
  obtain ⟨old, hold, hif⟩ := (get?_modify_eq_some _ _ _).mp hb
  by_cases hj : j = ref
  · subst hj
    rw [ha] at hold
    cases hold
    exact .inl ⟨rfl, by simpa using hif.symm⟩
  · rw [if_neg hj] at hif
    exact .inr ⟨hj, hif ▸ hold⟩

theorem modify_modify (h : Heap A) (ref : ℕ) (f g : A → A) :
    (h.modify ref f).modify ref g = h.modify ref fun a => g (f a) := by
  apply ext_get?
  intro j
  rw [get?_modify, get?_modify, get?_modify]
  by_cases hj : j = ref
  · simp [hj, Function.comp_def]
  · simp [hj]

/-! ## Changing all objects -/

/-- Change every object. -/
def map (h : Heap A) (f : A → A) : Heap A := ⟨h.cells.map f⟩

theorem get?_map (h : Heap A) (f : A → A) (ref : ℕ) : (h.map f).get? ref = (h.get? ref).map f := by
  simp [map, get?]

theorem get?_map_eq_some {h : Heap A} {f : A → A} {ref : ℕ} {b : A} :
    (h.map f).get? ref = some b ↔ ∃ a, h.get? ref = some a ∧ f a = b := by
  rw [get?_map, Option.map_eq_some_iff]

/-! ## Counting -/

/-- How many objects satisfy `p`. -/
def countP (h : Heap A) (p : A → Bool) : ℕ := h.cells.countP p

theorem countP_alloc (h : Heap A) (a : A) (p : A → Bool) :
    (h.alloc a).countP p = h.countP p + if p a then 1 else 0 := by
  simp [countP, alloc, List.countP_append, List.countP_singleton]

/-- An update moves its object into what is counted, or out of it. -/
theorem countP_modify {h : Heap A} {ref : ℕ} {a : A} (ha : h.get? ref = some a) (f : A → A)
    (p : A → Bool) : (h.modify ref f).countP p + (if p a then 1 else 0) =
      h.countP p + if p (f a) then 1 else 0 := by
  obtain ⟨hlt, hget⟩ := List.getElem?_eq_some_iff.mp ha
  have hcells : (h.modify ref f).cells = h.cells.set ref (f a) := by
    apply List.ext_getElem?
    intro j
    have hj := h.get?_modify ref j f
    unfold get? at hj
    rw [hj, List.getElem?_set]
    by_cases heq : j = ref
    · subst heq
      simp [hlt, hget]
    · rw [if_neg heq, if_neg (Ne.symm heq)]
  have hset := List.countP_set (p := p) (a := f a) hlt
  have hle : (if p h.cells[ref] then 1 else 0) ≤ h.cells.countP p := by
    split
    case isTrue hp => exact List.countP_pos_iff.mpr ⟨_, List.getElem_mem hlt, hp⟩
    case isFalse => exact Nat.zero_le _
  unfold countP
  rw [hcells, hset]
  rw [hget] at hle ⊢
  omega

/-- Heaps whose objects satisfy `p` at the same references. -/
theorem countP_congr {h h' : Heap A} {p : A → Bool}
    (heq : ∀ ref, (h.get? ref).map p = (h'.get? ref).map p) : h.countP p = h'.countP p := by
  have hmap : h.cells.map p = h'.cells.map p := by
    apply List.ext_getElem?
    intro ref
    rw [List.getElem?_map, List.getElem?_map]
    exact heq ref
  have hcount : ∀ l : List A, l.countP p = (l.map p).countP id := by
    intro l
    rw [List.countP_map]
    rfl
  unfold countP
  rw [hcount, hcount, hmap]

theorem countP_pos {h : Heap A} {p : A → Bool} :
    0 < h.countP p ↔ ∃ ref a, h.get? ref = some a ∧ p a = true := by
  unfold countP get?
  rw [List.countP_pos_iff]
  constructor
  · rintro ⟨a, hmem, hp⟩
    obtain ⟨ref, href⟩ := List.getElem?_of_mem hmem
    exact ⟨ref, a, href, hp⟩
  · rintro ⟨ref, a, ha, hp⟩
    exact ⟨a, List.mem_of_getElem? ha, hp⟩

end Heap
end Doctmcp.Lib

import Mathlib.Data.List.Nodup
import Mathlib.Data.List.Basic

/-! # Insertion-ordered finite maps

The ECMAScript `Map`: a key keeps the position of its first insertion when it is set again, a
deleted key that is set again goes to the end, and iteration follows that order. Key uniqueness
is a field, so a map with two bindings of one key cannot be built. The reading lemmas
(`get?_set`, `get?_delete`, `get?_filter`) are what the clients rewrite with. -/

namespace Doctmcp.Lib
set_option autoImplicit false

/-- A finite map that remembers the insertion order of its keys. -/
structure OrderedMap (K V : Type) where
  entries : List (K × V)
  nodup : (entries.map Prod.fst).Nodup

namespace OrderedMap
variable {K V : Type} [DecidableEq K]

/-- `new Map()`. -/
def empty : OrderedMap K V := ⟨[], List.nodup_nil⟩

/-- `map.get(key)`. -/
def get? (m : OrderedMap K V) (k : K) : Option V := m.entries.lookup k

/-- `map.has(key)`. -/
def has (m : OrderedMap K V) (k : K) : Bool := (m.get? k).isSome

/-- `map.size`. -/
def size (m : OrderedMap K V) : ℕ := m.entries.length

/-- The keys in iteration order. -/
def keys (m : OrderedMap K V) : List K := m.entries.map Prod.fst

/-- The values in iteration order. -/
def values (m : OrderedMap K V) : List V := m.entries.map Prod.snd

/-! ## Lookup in an association list -/

theorem lookup_isSome_iff (k : K) (l : List (K × V)) :
    (l.lookup k).isSome = true ↔ k ∈ l.map Prod.fst := by
  induction l with
  | nil => simp
  | cons p l ih =>
    obtain ⟨j, v⟩ := p
    by_cases h : k = j
    · subst h; simp
    · have hb : (k == j) = false := by simpa using h
      simp [List.lookup_cons, hb, ih, h]

theorem lookup_append_new (k j : K) (v : V) (l : List (K × V)) (hk : k ∉ l.map Prod.fst) :
    (l ++ [(k, v)]).lookup j = if j = k then some v else l.lookup j := by
  have hnone : l.lookup k = none := by
    rw [← Option.not_isSome_iff_eq_none, lookup_isSome_iff]
    exact hk
  rw [List.lookup_append]
  by_cases h : j = k
  · subst h
    simp [hnone]
  · have hb : (j == k) = false := by simpa using h
    simp [List.lookup_cons, hb, h]

theorem lookup_map_replace (k j : K) (v : V) (l : List (K × V)) (hk : k ∈ l.map Prod.fst) :
    (l.map (fun p => if p.1 = k then (k, v) else p)).lookup j =
      if j = k then some v else l.lookup j := by
  induction l with
  | nil => simp at hk
  | cons p l ih =>
    obtain ⟨i, w⟩ := p
    by_cases hi : i = k
    · subst hi
      by_cases hj : j = i
      · subst hj; simp
      · have hb : (j == i) = false := by simpa using hj
        by_cases hmem : i ∈ l.map Prod.fst
        · simpa [List.lookup_cons, hb, hj] using ih hmem
        · have hsame : l.map (fun p => if p.1 = i then (i, v) else p) = l := by
            rw [List.map_congr_left (g := id), List.map_id]
            intro q hq
            have hne : q.1 ≠ i := fun e => hmem (e ▸ List.mem_map_of_mem hq)
            simp [hne]
          simp only [List.map_cons, if_true, List.lookup_cons, hb, hj, if_false]
          rw [hsame]
    · have hmem : k ∈ l.map Prod.fst := by
        rw [List.map_cons] at hk
        rcases List.mem_cons.mp hk with h | h
        · exact absurd h.symm hi
        · exact h
      by_cases hj : j = i
      · subst hj
        simp [hi]
      · have hb : (j == i) = false := by simpa using hj
        simpa [List.lookup_cons, hi, hb] using ih hmem

theorem lookup_filter (l : List (K × V)) (hl : (l.map Prod.fst).Nodup) (keep : K → V → Bool)
    (j : K) :
    (l.filter (fun p => keep p.1 p.2)).lookup j = (l.lookup j).filter (keep j) := by
  induction l with
  | nil => rfl
  | cons p l ih =>
    obtain ⟨i, w⟩ := p
    rw [List.map_cons, List.nodup_cons] at hl
    have hrest := ih hl.2
    by_cases hj : j = i
    · subst hj
      have hnone : l.lookup j = none := by
        rw [← Option.not_isSome_iff_eq_none, lookup_isSome_iff]
        exact hl.1
      by_cases hkeep : keep j w = true
      · simp [hkeep, Option.filter]
      · have hk : keep j w = false := by simpa using hkeep
        rw [hnone] at hrest
        simpa [List.filter_cons, hk, Option.filter] using hrest
    · have hb : (j == i) = false := by simpa using hj
      by_cases hkeep : keep i w = true
      · simpa [List.filter_cons, hkeep, List.lookup_cons, hb] using hrest
      · have hk : keep i w = false := by simpa using hkeep
        simpa [List.filter_cons, hk, List.lookup_cons, hb] using hrest

/-! ## Updates -/

theorem map_fst_replace (k : K) (v : V) (l : List (K × V)) :
    (l.map (fun p => if p.1 = k then (k, v) else p)).map Prod.fst = l.map Prod.fst := by
  rw [List.map_map]
  apply List.map_congr_left
  intro p _
  by_cases h : p.1 = k <;> simp [h]

/-- `map.set(key, value)`: an existing key keeps its position. -/
def set (m : OrderedMap K V) (k : K) (v : V) : OrderedMap K V :=
  if h : k ∈ m.entries.map Prod.fst then
    ⟨m.entries.map (fun p => if p.1 = k then (k, v) else p), by
      rw [map_fst_replace]; exact m.nodup⟩
  else
    ⟨m.entries ++ [(k, v)], by
      rw [List.map_append, List.nodup_append]
      refine ⟨m.nodup, by simp, ?_⟩
      intro a ha b hb
      have hbk : b = k := by simpa using hb
      subst hbk
      intro e
      exact h (e ▸ ha)⟩

/-- Keep the bindings that satisfy `keep`, in order. -/
def filter (m : OrderedMap K V) (keep : K → V → Bool) : OrderedMap K V :=
  ⟨m.entries.filter (fun p => keep p.1 p.2), (List.filter_sublist.map Prod.fst).nodup m.nodup⟩

/-- `map.delete(key)`. -/
def delete (m : OrderedMap K V) (k : K) : OrderedMap K V := m.filter (fun j _ => j ≠ k)

/-- Apply `f` to every value. -/
def mapValues (m : OrderedMap K V) (f : K → V → V) : OrderedMap K V :=
  ⟨m.entries.map (fun p => (p.1, f p.1 p.2)), by
    rw [List.map_map]
    exact m.nodup⟩

/-- Give each key the new name that `rename` has for it, and drop those without one. -/
def rekey (m : OrderedMap K V) (rename : K → Option K)
    (hinj : ∀ a b c, rename a = some c → rename b = some c → a = b) : OrderedMap K V where
  entries := m.entries.filterMap fun p => (rename p.1).map fun k => (k, p.2)
  nodup := by
    rw [List.map_filterMap]
    have hkeys : m.entries.filterMap (fun p => ((rename p.1).map fun k => (k, p.2)).map Prod.fst) =
        (m.entries.map Prod.fst).filterMap rename := by
      rw [List.filterMap_map]
      refine List.filterMap_congr fun p _ => ?_
      rw [Option.map_map, show Prod.fst ∘ (fun k : K => (k, p.2)) = id from rfl, Option.map_id]
      rfl
    rw [hkeys]
    exact m.nodup.filterMap fun a b c ha hb => hinj a b c ha hb

/-! ## Reading after an update -/

@[simp] theorem get?_empty (k : K) : (empty : OrderedMap K V).get? k = none := rfl

theorem get?_set (m : OrderedMap K V) (k j : K) (v : V) :
    (m.set k v).get? j = if j = k then some v else m.get? j := by
  unfold set
  by_cases h : k ∈ m.entries.map Prod.fst
  · rw [dif_pos h]
    exact lookup_map_replace k j v m.entries h
  · rw [dif_neg h]
    exact lookup_append_new k j v m.entries h

@[simp] theorem get?_set_self (m : OrderedMap K V) (k : K) (v : V) :
    (m.set k v).get? k = some v := by
  simp [get?_set]

theorem get?_set_ne (m : OrderedMap K V) {k j : K} (v : V) (h : j ≠ k) :
    (m.set k v).get? j = m.get? j := by
  simp [get?_set, h]

theorem get?_filter (m : OrderedMap K V) (keep : K → V → Bool) (j : K) :
    (m.filter keep).get? j = (m.get? j).filter (keep j) :=
  lookup_filter m.entries m.nodup keep j

theorem get?_delete (m : OrderedMap K V) (k j : K) :
    (m.delete k).get? j = if j = k then none else m.get? j := by
  rw [delete, get?_filter]
  by_cases h : j = k
  · cases m.get? j <;> simp [h, Option.filter]
  · cases m.get? j <;> simp [h, Option.filter]

@[simp] theorem get?_delete_self (m : OrderedMap K V) (k : K) : (m.delete k).get? k = none := by
  simp [get?_delete]

theorem get?_delete_ne (m : OrderedMap K V) {k j : K} (h : j ≠ k) :
    (m.delete k).get? j = m.get? j := by
  simp [get?_delete, h]

theorem get?_mapValues (m : OrderedMap K V) (f : K → V → V) (j : K) :
    (m.mapValues f).get? j = (m.get? j).map (f j) := by
  obtain ⟨l, hl⟩ := m
  unfold mapValues get?
  simp only
  clear hl
  induction l with
  | nil => rfl
  | cons p l ih =>
    obtain ⟨i, w⟩ := p
    by_cases h : j = i
    · subst h; simp
    · have hb : (j == i) = false := by simpa using h
      simpa [List.lookup_cons, hb] using ih

theorem has_iff (m : OrderedMap K V) (k : K) : m.has k = true ↔ ∃ v, m.get? k = some v := by
  rw [has, Option.isSome_iff_exists]

theorem has_false_iff (m : OrderedMap K V) (k : K) : m.has k = false ↔ m.get? k = none := by
  rw [has, Option.isSome_eq_false_iff, Option.isNone_iff_eq_none]

theorem mem_keys_iff (m : OrderedMap K V) (k : K) : k ∈ m.keys ↔ m.has k = true :=
  (lookup_isSome_iff k m.entries).symm

theorem mem_keys_set (m : OrderedMap K V) (k j : K) (v : V) :
    j ∈ (m.set k v).keys ↔ j = k ∨ j ∈ m.keys := by
  rw [mem_keys_iff, mem_keys_iff, has_iff, has_iff, get?_set]
  by_cases h : j = k <;> simp [h]

/-- The bindings of the entry list are exactly what `get?` reads. -/
theorem mem_entries_iff (m : OrderedMap K V) (k : K) (v : V) :
    (k, v) ∈ m.entries ↔ m.get? k = some v := by
  obtain ⟨l, hl⟩ := m
  unfold get?
  induction l with
  | nil => simp
  | cons p l ih =>
    obtain ⟨i, w⟩ := p
    simp only [List.map_cons, List.nodup_cons] at hl
    have hrest := ih hl.2
    simp only at hrest
    by_cases h : k = i
    · subst h
      have hnot : (k, v) ∉ l := fun hm => hl.1 (List.mem_map_of_mem (f := Prod.fst) hm)
      simp [hnot, eq_comm]
    · have hb : (k == i) = false := by simpa using h
      simp [List.lookup_cons, hb, h, hrest]

theorem get?_rekey (m : OrderedMap K V) (rename : K → Option K)
    (hinj : ∀ a b c, rename a = some c → rename b = some c → a = b) (k : K) (v : V) :
    (m.rekey rename hinj).get? k = some v ↔ ∃ j, rename j = some k ∧ m.get? j = some v := by
  rw [← mem_entries_iff]
  unfold rekey
  rw [List.mem_filterMap]
  constructor
  · rintro ⟨⟨j, w⟩, hmem, hsome⟩
    obtain ⟨k', hrename, heq⟩ := Option.map_eq_some_iff.mp hsome
    cases heq
    exact ⟨j, hrename, (mem_entries_iff m j _).mp hmem⟩
  · rintro ⟨j, hrename, hget⟩
    exact ⟨(j, v), (mem_entries_iff m j v).mpr hget, by rw [hrename]; rfl⟩

theorem mem_values_iff (m : OrderedMap K V) (v : V) : v ∈ m.values ↔ ∃ k, m.get? k = some v := by
  rw [values, List.mem_map]
  constructor
  · rintro ⟨⟨k, w⟩, hmem, rfl⟩
    exact ⟨k, (mem_entries_iff m k w).mp hmem⟩
  · rintro ⟨k, hk⟩
    exact ⟨(k, v), (mem_entries_iff m k v).mpr hk, rfl⟩

/-! ## Deleting many keys -/

omit [DecidableEq K] in
theorem ext_entries {m m' : OrderedMap K V} (h : m.entries = m'.entries) : m = m' := by
  cases m
  cases m'
  congr

omit [DecidableEq K] in
theorem filter_filter (m : OrderedMap K V) (f g : K → V → Bool) :
    (m.filter f).filter g = m.filter fun k v => g k v && f k v :=
  ext_entries (List.filter_filter)

theorem filter_congr (m : OrderedMap K V) {f g : K → V → Bool}
    (h : ∀ k v, m.get? k = some v → f k v = g k v) : m.filter f = m.filter g := by
  apply ext_entries
  apply List.filter_congr
  intro entry hentry
  exact h _ _ ((mem_entries_iff m entry.1 entry.2).mp hentry)

theorem filter_eq_self (m : OrderedMap K V) {f : K → V → Bool}
    (h : ∀ k v, m.get? k = some v → f k v = true) : m.filter f = m := by
  apply ext_entries
  apply List.filter_eq_self.mpr
  intro entry hentry
  exact h _ _ ((mem_entries_iff m entry.1 entry.2).mp hentry)

theorem delete_eq_self (m : OrderedMap K V) {k : K} (h : m.get? k = none) : m.delete k = m := by
  apply filter_eq_self
  intro j v hj
  have hne : j ≠ k := by
    rintro rfl
    rw [h] at hj
    cases hj
  exact decide_eq_true hne

/-- Deleting keys one after the other keeps the bindings of the other keys. -/
theorem foldl_delete (m : OrderedMap K V) (ks : List K) :
    ks.foldl delete m = m.filter fun k _ => k ∉ ks := by
  induction ks generalizing m with
  | nil =>
    apply ext_entries
    simp [filter]
  | cons k ks ih =>
    rw [List.foldl_cons, ih, delete, filter_filter]
    apply filter_congr
    intro j v _
    by_cases hk : j = k <;> simp [hk]

theorem get?_foldl_delete (m : OrderedMap K V) (ks : List K) (j : K) :
    (ks.foldl delete m).get? j = if j ∈ ks then none else m.get? j := by
  rw [foldl_delete, get?_filter]
  by_cases h : j ∈ ks
  · cases m.get? j <;> simp [h, Option.filter]
  · cases m.get? j <;> simp [h, Option.filter]

/-- Deleting the keys of the values that satisfy `p`, where each value knows its key. -/
theorem foldl_delete_values (m : OrderedMap K V) (key : V → K) (p : V → Bool)
    (hkey : ∀ k v, m.get? k = some v → key v = k) :
    ((m.values.filter p).map key).foldl delete m = m.filter fun _ v => !p v := by
  rw [foldl_delete]
  apply filter_congr
  intro k v hv
  have hmem : k ∈ (m.values.filter p).map key ↔ p v = true := by
    rw [List.mem_map]
    constructor
    · rintro ⟨w, hw, rfl⟩
      obtain ⟨hw, hp⟩ := List.mem_filter.mp hw
      obtain ⟨j, hj⟩ := (mem_values_iff m w).mp hw
      rw [hkey j w hj, hj] at hv
      exact Option.some.inj hv ▸ hp
    · intro hp
      exact ⟨v, List.mem_filter.mpr ⟨(mem_values_iff m v).mpr ⟨k, hv⟩, hp⟩, hkey k v hv⟩
  by_cases hp : p v = true
  · simp [hmem, hp]
  · simp [hmem, hp]

/-! ## Size -/

theorem size_set_of_has (m : OrderedMap K V) (k : K) (v : V) (h : m.has k = true) :
    (m.set k v).size = m.size := by
  have hmem : k ∈ m.entries.map Prod.fst := (lookup_isSome_iff k m.entries).mp h
  unfold set size
  rw [dif_pos hmem]
  simp

theorem size_set_of_not_has (m : OrderedMap K V) (k : K) (v : V) (h : m.has k = false) :
    (m.set k v).size = m.size + 1 := by
  have hmem : k ∉ m.entries.map Prod.fst := fun hm => by
    have := (lookup_isSome_iff k m.entries).mpr hm
    simp [has, get?, this] at h
  unfold set size
  rw [dif_neg hmem]
  simp

/-- Two maps without a common key and a third one with exactly their keys. -/
theorem size_add_size {W X : Type} (m : OrderedMap K V) (m' : OrderedMap K W)
    (both : OrderedMap K X) (hdisjoint : ∀ k, m.has k = true → m'.has k = false)
    (hkeys : ∀ k, both.has k = true ↔ m.has k = true ∨ m'.has k = true) :
    both.size = m.size + m'.size := by
  have hnodup : (m.keys ++ m'.keys).Nodup := by
    refine List.nodup_append.mpr ⟨m.nodup, m'.nodup, ?_⟩
    rintro k hk _ hk' rfl
    have hnot := hdisjoint k ((mem_keys_iff m k).mp hk)
    rw [(mem_keys_iff m' k).mp hk'] at hnot
    cases hnot
  have hperm : both.keys.Perm (m.keys ++ m'.keys) := by
    refine (List.perm_ext_iff_of_nodup both.nodup hnodup).mpr fun k => ?_
    rw [List.mem_append, mem_keys_iff, mem_keys_iff, ← hkeys, ← mem_keys_iff]
    exact Iff.rfl
  have hlength := hperm.length_eq
  rw [List.length_append] at hlength
  simpa [keys, size] using hlength

theorem size_delete (m : OrderedMap K V) {k : K} (h : m.has k = true) :
    (m.delete k).size + 1 = m.size := by
  have hone : ((OrderedMap.empty : OrderedMap K Unit).set k ()).size = 1 :=
    size_set_of_not_has _ _ _ rfl
  rw [← hone]
  symm
  apply size_add_size
  · intro j hj
    rw [has_iff, get?_delete] at hj
    obtain ⟨v, hv⟩ := hj
    have hne : j ≠ k := by
      rintro rfl
      rw [if_pos rfl] at hv
      cases hv
    rw [has_false_iff, get?_set_ne _ _ hne, get?_empty]
  · intro j
    by_cases hj : j = k
    · subst hj
      refine iff_of_true h (.inr ?_)
      rw [has_iff]
      exact ⟨(), get?_set_self _ _ _⟩
    · rw [has_iff, has_iff, has_iff, get?_delete_ne _ hj, get?_set_ne _ _ hj, get?_empty]
      simp

theorem size_delete_le (m : OrderedMap K V) (k : K) : (m.delete k).size ≤ m.size :=
  List.length_filter_le _ _

omit [DecidableEq K] in
theorem size_filter_le (m : OrderedMap K V) (keep : K → V → Bool) : (m.filter keep).size ≤ m.size :=
  List.length_filter_le _ _

theorem countP_values_set_new (m : OrderedMap K V) {k : K} (v : V) (p : V → Bool)
    (h : m.get? k = none) : (m.set k v).values.countP p = m.values.countP p + [v].countP p := by
  have hmem : k ∉ m.entries.map Prod.fst := by
    intro hmem
    have hsome := (lookup_isSome_iff k m.entries).mpr hmem
    simp only [get?] at h
    rw [h] at hsome
    cases hsome
  unfold set values
  rw [dif_neg hmem, List.map_append, List.countP_append]
  rfl

/-- An update that does not matter to the predicate. -/
theorem countP_values_set_alike (m : OrderedMap K V) {k : K} {v old : V} (p : V → Bool)
    (h : m.get? k = some old) (hp : p v = p old) :
    (m.set k v).values.countP p = m.values.countP p := by
  have hmem : k ∈ m.entries.map Prod.fst :=
    (lookup_isSome_iff k m.entries).mp (by simp only [get?] at h; rw [h]; rfl)
  unfold set values
  rw [dif_pos hmem, List.map_map, List.countP_map, List.countP_map]
  apply List.countP_congr
  intro e he
  by_cases hkey : e.1 = k
  · have hold := (mem_entries_iff m e.1 e.2).mp he
    rw [hkey, h] at hold
    simp only [Function.comp_apply, if_pos hkey, hp, Option.some.inj hold]
  · simp only [Function.comp_apply, if_neg hkey]

theorem countP_values_delete (m : OrderedMap K V) {k : K} {v : V} (p : V → Bool)
    (h : m.get? k = some v) : (m.delete k).values.countP p + [v].countP p = m.values.countP p := by
  obtain ⟨before, after, hentries⟩ := List.append_of_mem ((mem_entries_iff m k v).mpr h)
  have hnodup := m.nodup
  rw [hentries, List.map_append, List.map_cons, List.nodup_append] at hnodup
  have hbefore : before.filter (fun e => decide (e.1 ≠ k)) = before := by
    refine List.filter_eq_self.mpr fun e he => decide_eq_true fun hk => ?_
    exact hnodup.2.2 e.1 (List.mem_map_of_mem he) k List.mem_cons_self hk
  have hafter : after.filter (fun e => decide (e.1 ≠ k)) = after := by
    refine List.filter_eq_self.mpr fun e he => decide_eq_true fun hk => ?_
    have hmem : e.1 ∈ after.map Prod.fst := List.mem_map_of_mem he
    exact (List.nodup_cons.mp hnodup.2.1).1 (hk ▸ hmem)
  unfold delete filter values
  dsimp only
  rw [hentries, List.filter_append, hbefore, List.filter_cons_of_neg (by simp), hafter]
  simp only [List.map_append, List.map_cons, List.countP_append, List.countP_cons, List.countP_nil]
  omega

/-- Values that satisfy a predicate met at one key only are at most one. -/
theorem length_filter_values_le_one (m : OrderedMap K V) (k : K) (p : V → Bool)
    (h : ∀ j v, m.get? j = some v → p v = true → j = k) : (m.values.filter p).length ≤ 1 := by
  have hkeys : ∀ e ∈ m.entries.filter (fun e => p e.2), e.1 = k := by
    intro e he
    obtain ⟨hmem, hp⟩ := List.mem_filter.mp he
    exact h e.1 e.2 ((mem_entries_iff m e.1 e.2).mp hmem) hp
  have hnodup : ((m.entries.filter (fun e => p e.2)).map Prod.fst).Nodup :=
    (List.filter_sublist.map Prod.fst).nodup m.nodup
  have hreplicate : (m.entries.filter (fun e => p e.2)).map Prod.fst =
      List.replicate (m.entries.filter (fun e => p e.2)).length k := by
    rw [List.eq_replicate_iff]
    refine ⟨by simp, fun j hj => ?_⟩
    obtain ⟨e, he, rfl⟩ := List.mem_map.mp hj
    exact hkeys e he
  rw [hreplicate, List.nodup_replicate] at hnodup
  rw [values, List.filter_map, List.length_map]
  exact hnodup

end OrderedMap
end Doctmcp.Lib

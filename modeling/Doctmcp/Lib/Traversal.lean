import Mathlib.Data.List.Induction
import Mathlib.Data.List.Nodup
import Mathlib.Data.List.Perm.Subperm
import Mathlib.Data.Nat.Notation

/-! # Breadth-first traversals

The nodes are the paths from a root, and `children p` are the steps that lead on from `p`. A
traversal takes the first node of a queue and appends those that lead on from it. `Frontier` is its
invariant; when the queue is empty every reachable node has been taken once. -/

namespace Doctmcp.Lib
set_option autoImplicit false

section Traversal
variable {N : Type} (children : List N → List N)

inductive Reachable : List N → Prop
  | root : Reachable []
  | step {path : List N} {name : N} : Reachable path → name ∈ children path →
      Reachable (path ++ [name])

/-- The nodes taken so far and those that wait. -/
structure Frontier (taken queue : List (List N)) : Prop where
  nodup : (taken ++ queue).Nodup
  reachable : ∀ path ∈ taken ++ queue, Reachable children path
  root : [] ∈ taken ++ queue
  closed : ∀ path ∈ taken, ∀ name ∈ children path, path ++ [name] ∈ taken ++ queue
  parent : ∀ path name, path ++ [name] ∈ taken ++ queue → path ∈ taken

variable {children}

theorem Frontier.start : Frontier children [] [[]] where
  nodup := by simp
  reachable path h := by
    have hpath : path = [] := by simpa using h
    subst hpath
    exact .root
  root := by simp
  closed path h := by cases h
  parent path name h := by simp at h

theorem Frontier.step {taken queue : List (List N)} {path : List N}
    (h : Frontier children taken (path :: queue)) (hchildren : (children path).Nodup) :
    Frontier children (taken ++ [path])
      (queue ++ (children path).map fun name => path ++ [name]) := by
  have hsplit : (taken ++ [path]) ++ (queue ++ (children path).map fun name => path ++ [name]) =
      (taken ++ path :: queue) ++ (children path).map fun name => path ++ [name] := by
    simp
  have htaken : path ∉ taken := by
    intro hmem
    exact List.disjoint_of_nodup_append h.nodup hmem List.mem_cons_self
  refine ⟨?_, ?_, ?_, ?_, ?_⟩
  · rw [hsplit, List.nodup_append]
    refine ⟨h.nodup, ?_, ?_⟩
    · refine hchildren.map fun a b hab => ?_
      exact (List.cons.inj (List.append_cancel_left hab)).1
    · rintro old hold new hnew rfl
      obtain ⟨name, _, hname⟩ := List.mem_map.mp hnew
      subst hname
      exact htaken (h.parent path name hold)
  · intro node hnode
    rw [hsplit] at hnode
    rcases List.mem_append.mp hnode with hold | hnew
    · exact h.reachable node hold
    · obtain ⟨name, hname, rfl⟩ := List.mem_map.mp hnew
      exact .step (h.reachable path (List.mem_append_right _ List.mem_cons_self)) hname
  · rw [hsplit]
    exact List.mem_append_left _ h.root
  · intro node hnode name hname
    rw [hsplit]
    rcases List.mem_append.mp hnode with hold | hlast
    · exact List.mem_append_left _ (h.closed node hold name hname)
    · have hsame : node = path := by simpa using hlast
      subst hsame
      exact List.mem_append_right _ (List.mem_map_of_mem hname)
  · intro node name hnode
    rw [hsplit] at hnode
    rcases List.mem_append.mp hnode with hold | hnew
    · exact List.mem_append_left _ (h.parent node name hold)
    · obtain ⟨other, _, hother⟩ := List.mem_map.mp hnew
      obtain ⟨rfl, _⟩ := List.append_inj' hother rfl
      exact List.mem_append_right _ List.mem_cons_self

/-- A traversal that has emptied its queue has taken every reachable node. -/
theorem Frontier.complete {taken : List (List N)} (h : Frontier children taken [])
    (path : List N) : path ∈ taken ↔ Reachable children path := by
  constructor
  · intro hmem
    exact h.reachable path (List.mem_append_left _ hmem)
  · intro hreachable
    induction hreachable with
    | root => simpa using h.root
    | step _ hname ih => simpa using h.closed _ ih _ hname

theorem Reachable.mono {others : List N → List N} {path : List N} (h : Reachable children path)
    (hsub : ∀ path, children path ⊆ others path) : Reachable others path := by
  induction h with
  | root => exact .root
  | step _ hname ih => exact .step ih (hsub _ hname)

/-- No more nodes are taken than there are places for them. -/
theorem Frontier.length_le {K : Type} {taken queue : List (List N)}
    (h : Frontier children taken queue) (place : List N → K) (places : List K)
    (hinj : Function.Injective place)
    (hplace : ∀ path, Reachable children path → place path ∈ places) :
    (taken ++ queue).length ≤ places.length := by
  have hnodup : ((taken ++ queue).map place).Nodup := h.nodup.map hinj
  have hsubset : (taken ++ queue).map place ⊆ places := by
    intro key hkey
    obtain ⟨path, hpath, rfl⟩ := List.mem_map.mp hkey
    exact hplace path (h.reachable path hpath)
  have hle := (List.subperm_of_subset hnodup hsubset).length_le
  rwa [List.length_map] at hle

end Traversal

end Doctmcp.Lib

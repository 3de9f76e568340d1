import Doctmcp.Tools.Resolver

/-! # Containment of paths

What the string tests of `isPathInside` decide. On normalised texts they compare the segments, so that
containment is an order, and what two incomparable roots contain is disjoint. -/

namespace Doctmcp.Tools
open Doctmcp.Lib Doctmcp.Lib.PosixPath
set_option autoImplicit false

/-- A test of texts that is the prefix order of their segments. -/
structure IsContainment (inside : String → String → Bool) : Prop where
  exact : ∀ root target, IsNormalised root → IsNormalised target →
    (inside root target = true ↔ segments root <+: segments target)
  refl : ∀ root, IsNormalised root → inside root root = true
  trans : ∀ root middle target, IsNormalised root → IsNormalised middle → IsNormalised target →
    inside root middle = true → inside middle target = true → inside root target = true
  antisymm : ∀ root target, IsNormalised root → IsNormalised target →
    inside root target = true → inside target root = true → root = target
  disjoint : ∀ root other target, IsNormalised root → IsNormalised other → IsNormalised target →
    inside root other = false → inside other root = false →
      ¬ (inside root target = true ∧ inside other target = true)

/-- The other properties are those of the prefix order. -/
theorem isContainment_of_exact {inside : String → String → Bool}
    (exact : ∀ root target, IsNormalised root → IsNormalised target →
      (inside root target = true ↔ segments root <+: segments target)) :
    IsContainment inside where
  exact := exact
  refl root hroot := (exact root root hroot hroot).mpr (List.prefix_refl _)
  trans root middle target hroot hmiddle htarget hin hin' := by
    rw [exact root middle hroot hmiddle] at hin
    rw [exact middle target hmiddle htarget] at hin'
    exact (exact root target hroot htarget).mpr (hin.trans hin')
  antisymm root target hroot htarget hin hin' := by
    rw [exact root target hroot htarget] at hin
    rw [exact target root htarget hroot] at hin'
    have hsame : segments root = segments target := hin.eq_of_length_le hin'.length_le
    obtain ⟨path, rfl⟩ := exists_render hroot
    obtain ⟨other, rfl⟩ := exists_render htarget
    rw [segments_render, segments_render] at hsame
    rw [List.map_injective_iff.mpr Subtype.val_injective hsame]
  disjoint root other target hroot hother htarget hout hout' := by
    rw [← Bool.not_eq_true, exact root other hroot hother] at hout
    rw [← Bool.not_eq_true, exact other root hother hroot] at hout'
    rw [exact root target hroot htarget, exact other target hother htarget]
    rintro ⟨hin, hin'⟩
    rcases List.prefix_or_prefix_of_prefix hin hin' with h | h
    · exact hout h
    · exact hout' h

/-- `isPathInside` is exact, and the roots of a registry contain no path in common. -/
theorem isPathInside_exact (fs : FileSystem) (cwd : Path) :
    (IsContainment fun root target => isPathInside (resolve cwd root) (resolve cwd target)) ∧
      ∀ (configs : List WorkspaceConfig) (registry : WorkspaceRegistry),
        WorkspaceRegistry.create fs cwd configs = .ok registry →
        registry.workspaces.Pairwise fun workspace other => ∀ target,
          ¬ (isPathInside workspace.root target = true ∧ isPathInside other.root target = true) := by
  constructor
  · apply isContainment_of_exact
    intro root target hroot htarget
    obtain ⟨path, rfl⟩ := exists_render hroot
    obtain ⟨other, rfl⟩ := exists_render htarget
    rw [resolve_render, resolve_render, segments_render, segments_render, isPathInside_iff,
      List.prefix_map_iff_of_injective Subtype.val_injective]
  · intro configs registry hcreate
    refine (pairwise_of_not_overlaps (create_ok hcreate).2).imp ?_
    intro workspace other hapart target hin
    rw [isPathInside_iff, isPathInside_iff] at hin
    rcases List.prefix_or_prefix_of_prefix hin.1 hin.2 with h | h
    · exact hapart.1 h
    · exact hapart.2 h

/-- A name may begin with two dots, and a sibling's name may extend the last one of the root. -/
example : isPathInside (resolve [] "/a") (resolve [] "/a/..b") = true ∧
    isPathInside (resolve [] "/a") (resolve [] "/ab") = false ∧
    isPathInside (resolve [] "/") (resolve [] "/..b/c") = true := by decide

end Doctmcp.Tools

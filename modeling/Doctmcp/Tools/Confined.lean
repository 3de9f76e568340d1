import Doctmcp.Tools.Canonical
import Doctmcp.Tools.Exposure
import Doctmcp.Tools.Overwriting
import Doctmcp.Tools.Patching

/-! # Where a change lands

The entry that a path names, and the directories that are made for it, stand where the canonical path
leads, which is the path that was checked. So `write`, `patch` and `mkdir` change nothing else, nothing
outside the root and nothing in a deny subtree. -/

namespace Doctmcp.Tools.FilesystemWrite
open Doctmcp.Lib Doctmcp.Lib.PosixPath Doctmcp.Lib.FileSystem FilesystemRead
set_option autoImplicit false

/-! ## Places -/

section Places
variable {fs : FileSystem} {registry : WorkspaceRegistry} {workspaceId text : String}
  {resolved : ResolvedWorkspacePath} {above below existing : Path}

theorem ne_nil_of_missing {path : Path} (h : fs.realpath path = none) : path ≠ [] := by
  rintro rfl
  rw [realpath_nil] at h
  cases h

/-- An entry that is no link has been checked where it is. -/
theorem exposable_entry (h : Resolves fs registry workspaceId text (some .write) resolved) {place : Path}
    {e : Entry} (hplace : fs.location resolved.operationPath = some place)
    (hentry : fs.entry place = some e) (hlink : e.isSymbolicLink = false) :
    Exposable resolved.workspace place := by
  have hlstat : fs.lstat resolved.operationPath = some e := by
    unfold lstat
    rw [hplace]
    exact hentry
  have hreal := (realpath_of_lstat hlstat hlink).trans hplace
  have hexists : resolved.pathExists = true := by
    by_contra hmissing
    rw [h.missing (Bool.eq_false_iff.mpr hmissing)] at hreal
    cases hreal
  obtain ⟨hcanonical, hinside⟩ := h.found (by simp) hexists
  rw [hreal] at hcanonical
  cases hcanonical
  exact ⟨hinside, fun denyPath hdeny => (not_denied h.allowed hdeny).1.2⟩

/-- What is missing has been checked where it will be, on each level. -/
theorem exposable_missing (h : Resolves fs registry workspaceId text (some .write) resolved)
    (hroot : fs.entry resolved.workspace.root = some .directory)
    (hmissing : fs.realpath resolved.operationPath = none)
    (hlongest : LongestAncestor fs resolved.operationPath above below existing) {front : Path}
    (hfront : front <+: below) : Exposable resolved.workspace (existing ++ front) := by
  have hreal := realpath_directory hroot
  have hbelow : resolved.workspace.root <+: resolved.operationPath := by
    rw [h.operation]
    exact prefix_join h.safe _
  have hother : resolved.workspace.root ≠ resolved.operationPath := by
    intro hsame
    rw [hsame, hmissing] at hreal
    cases hreal
  by_cases habove : above = []
  · -- Below `/` the place is the path itself, which is checked too.
    subst habove
    have hroots := hlongest.root_above ⟨_, hreal⟩ hbelow hother
    have hexisting := hlongest.resolves
    rw [realpath_nil] at hexisting
    cases hexisting
    refine ⟨hroots.trans List.nil_prefix, fun denyPath hdeny hdenied => ?_⟩
    refine (not_denied h.allowed hdeny).1.1 (hdenied.trans ?_)
    rw [hlongest.split]
    exact hfront
  · obtain ⟨target, htarget, hcanonical, _⟩ := h.target
    rw [canonical_missing hlongest hmissing ⟨_, hreal⟩ hbelow hother habove] at htarget
    cases htarget
    change resolved.canonicalPath = existing ++ below at hcanonical
    have hinside : resolved.workspace.root <+: existing ++ below := by
      rw [← hcanonical]
      exact h.inside.resolve_right fun hdelete => by cases hdelete.1
    have hplace : existing ++ front <+: existing ++ below :=
      (List.prefix_append_right_inj existing).mpr hfront
    refine ⟨?_, fun denyPath hdeny hdenied => ?_⟩
    · rcases List.prefix_or_prefix_of_prefix hinside (List.prefix_append existing below) with
        hin | ⟨rest, hrest⟩
      · exact hin.trans (List.prefix_append _ _)
      · by_cases hnil : rest = []
        · rw [← hrest, hnil, List.append_nil]
          exact List.prefix_append _ _
        · rw [← hrest] at hroot hinside
          exact absurd hroot (hlongest.no_directory hmissing hnil
            ((List.prefix_append_right_inj existing).mp hinside))
    · refine (not_denied h.allowed hdeny).1.2 ?_
      rw [hcanonical]
      exact hdenied.trans hplace

end Places

/-! ## Directories on the way -/

/-- The path `above` leads to `existing` and, name by name, on from there; what is new are directories on
this way. -/
structure Grown (fs : FileSystem) (above existing below : Path) (fs' : FileSystem) : Prop where
  keeps : fs.Keeps fs'
  realpath : ∀ front, front <+: below → fs'.realpath (above ++ front) = some (existing ++ front)
  changes : ∀ place, fs'.entry place ≠ fs.entry place → fs.entry place = none ∧
    fs'.entry place = some .directory ∧
    ∃ front, front ≠ [] ∧ front <+: below ∧ place = existing ++ front

/-- The path is there, from its longest ancestor on as new directories. -/
structure Made (fs : FileSystem) (path above below existing : Path) (fs' : FileSystem) : Prop
    extends Grown fs above existing below fs' where
  split : path = above ++ below
  resolves : fs.realpath above = some existing
  missing : ∀ front, front ≠ [] → front <+: below → fs.realpath (above ++ front) = none

section Directories
variable {host : WriteHost} {fs fs' : FileSystem} {reached real names : Path} {name : Name}

theorem Grown.refl (hreal : fs.realpath reached = some real) : Grown fs reached real [] fs where
  keeps := Keeps.refl fs
  realpath front hfront := by
    rw [List.prefix_nil.mp hfront, List.append_nil, List.append_nil, hreal]
  changes place hne := absurd rfl hne

theorem Made.refl (hreal : fs.realpath reached = some real) : Made fs reached reached [] real fs where
  toGrown := Grown.refl hreal
  split := (List.append_nil _).symm
  resolves := hreal
  missing _ hne hfront := absurd (List.prefix_nil.mp hfront) hne

/-- A directory that is missing is made where the path leads. -/
theorem makeDirectories_missing (hreal : fs.realpath reached = some real)
    (hmissing : fs.realpath (reached ++ [name]) = none)
    (h : host.makeDirectories reached (name :: names) fs = (.ok (), fs')) :
    ∃ made, fs.entry (real ++ [name]) = none ∧ fs.Put (real ++ [name]) .directory made ∧
      host.makeDirectories (reached ++ [name]) names made = (.ok (), fs') := by
  unfold WriteHost.makeDirectories at h
  dsimp only at h
  rw [hmissing] at h
  dsimp only at h
  split at h
  · cases h
  · cases hmade : host.attempt (.mkdir (reached ++ [name]))
        (fun fs => fs.mkdir (reached ++ [name])) fs with
    | mk result made =>
      rw [hmade] at h
      cases result with
      | error error => cases h
      | ok _ =>
        obtain ⟨place, hplace, hnone, hput⟩ := mkdir_ok (attempt_ok.mp hmade).2
        rw [location_concat, hreal] at hplace
        cases hplace
        exact ⟨made, hnone, hput, h⟩

theorem Grown.step {made : FileSystem} (hreal : fs.realpath reached = some real)
    (hnone : fs.entry (real ++ [name]) = none) (hput : fs.Put (real ++ [name]) .directory made)
    (h : Grown made (reached ++ [name]) (real ++ [name]) names fs') :
    Grown fs reached real (name :: names) fs' where
  keeps := (hput.keeps_none hnone).trans h.keeps
  realpath front hfront := by
    rcases List.prefix_cons_iff.mp hfront with rfl | ⟨rest, rfl, hrest⟩
    · rw [List.append_nil, List.append_nil]
      exact ((hput.keeps_none hnone).trans h.keeps).realpath hreal
    · rw [List.append_cons, List.append_cons real]
      exact h.realpath rest hrest
  changes place hne := by
    by_cases hsame : fs'.entry place = made.entry place
    · rw [hsame] at hne ⊢
      by_cases hplace : place = real ++ [name]
      · subst hplace
        exact ⟨hnone, hput.here, [name], List.cons_ne_nil _ _, ⟨names, rfl⟩, rfl⟩
      · exact absurd (hput.elsewhere hplace) hne
    · obtain ⟨hfree, hnew, front, _, hfront, rfl⟩ := h.changes place hsame
      refine ⟨?_, hnew, name :: front, List.cons_ne_nil _ _,
        (List.prefix_append_right_inj [name]).mpr hfront, (List.append_cons _ _ _).symm⟩
      rw [← hput.elsewhere, hfree]
      intro hplace
      rw [hplace, hput.here] at hfree
      cases hfree

/-- A new directory is empty. -/
theorem put_directory {made : FileSystem} (hreal : fs.realpath reached = some real)
    (hnone : fs.entry (real ++ [name]) = none) (hput : fs.Put (real ++ [name]) .directory made) :
    made.realpath (reached ++ [name]) = some (real ++ [name]) ∧
      ∀ other, made.entry (real ++ [name] ++ [other]) = none := by
  refine ⟨realpath_concat ((hput.keeps_none hnone).realpath hreal) hput.here rfl,
    fun other => ?_⟩
  rw [hput.entry, if_neg (by simp)]
  exact entry_below (by rw [hnone]; simp) (List.cons_ne_nil _ _)

/-- In an empty directory every directory is new. -/
theorem makeDirectories_empty (hreal : fs.realpath reached = some real)
    (hempty : ∀ name, fs.entry (real ++ [name]) = none)
    (h : host.makeDirectories reached names fs = (.ok (), fs')) :
    Grown fs reached real names fs' := by
  induction names generalizing reached real fs with
  | nil =>
    cases h
    exact .refl hreal
  | cons name names ih =>
    have hmissing : fs.realpath (reached ++ [name]) = none := by
      refine Option.eq_none_iff_forall_ne_some.mpr fun found hfound => ?_
      obtain ⟨directory, e, hdirectory, hentry, _⟩ := realpath_concat_some hfound
      rw [hreal] at hdirectory
      cases hdirectory
      rw [hempty] at hentry
      cases hentry
    obtain ⟨made, hnone, hput, hrest⟩ := makeDirectories_missing hreal hmissing h
    obtain ⟨hmade, hnew⟩ := put_directory hreal hnone hput
    exact .step hreal hnone hput (ih hmade hnew hrest)

theorem makeDirectories_ok (hreal : fs.realpath reached = some real)
    (h : host.makeDirectories reached names fs = (.ok (), fs')) :
    ∃ above below existing, Made fs (reached ++ names) above below existing fs' := by
  induction names generalizing reached real with
  | nil =>
    cases h
    rw [List.append_nil]
    exact ⟨reached, [], real, .refl hreal⟩
  | cons name names ih =>
    cases hfound : fs.realpath (reached ++ [name]) with
    | some found =>
      unfold WriteHost.makeDirectories at h
      dsimp only at h
      rw [hfound] at h
      dsimp only at h
      split at h
      · rw [List.append_cons]
        exact ih hfound h
      · cases h
    | none =>
      obtain ⟨made, hnone, hput, hrest⟩ := makeDirectories_missing hreal hfound h
      obtain ⟨hmade, hnew⟩ := put_directory hreal hnone hput
      have hgrown := Grown.step hreal hnone hput (makeDirectories_empty hmade hnew hrest)
      refine ⟨reached, name :: names, real, hgrown, rfl, hreal, fun front hne hfront => ?_⟩
      -- Below a path that does not resolve nothing does.
      obtain ⟨first, rest, rfl⟩ := List.exists_cons_of_ne_nil hne
      obtain rfl := (List.cons_prefix_cons.mp hfront).1
      rw [List.append_cons]
      by_cases hnil : rest = []
      · rw [hnil, List.append_nil]
        exact hfound
      · refine Option.eq_none_iff_forall_ne_some.mpr fun found hsome => ?_
        obtain ⟨directory, hdirectory, _⟩ := realpath_above hsome hnil
        rw [hfound] at hdirectory
        cases hdirectory

end Directories

/-! ## The last entry -/

section Entry
variable {fs fs' : FileSystem} {parents above below existing : Path} {name : Name}

theorem Made.ancestor (h : Made fs parents above below existing fs') :
    LongestAncestor fs (parents ++ [name]) above (below ++ [name]) existing where
  split := by rw [h.split, List.append_assoc]
  proper := by simp
  resolves := h.resolves
  longest front hfront hne hother := by
    rcases List.prefix_concat_iff.mp hfront with hsame | hbelow
    · exact absurd hsame hother
    · exact h.missing front hne hbelow

theorem Made.location (h : Made fs parents above below existing fs') :
    fs'.location (parents ++ [name]) = some (existing ++ (below ++ [name])) := by
  rw [location_concat, h.split, h.realpath below (List.prefix_refl _), Option.map_some,
    List.append_assoc]

/-- A new directory is no link. -/
theorem Made.location_last (h : Made fs parents above below existing fs') (hnew : below ≠ []) :
    fs'.location parents = some (existing ++ below) := by
  obtain ⟨front, name, rfl⟩ := (List.eq_nil_or_concat' below).resolve_left hnew
  rw [h.split, ← List.append_assoc, location_concat, h.realpath front (List.prefix_append _ _),
    Option.map_some, List.append_assoc]

/-- The directories on the way are not the last entry. -/
theorem Made.entry_last (h : Made fs parents above below existing fs') :
    fs'.entry (existing ++ (below ++ [name])) = fs.entry (existing ++ (below ++ [name])) := by
  by_contra hchanged
  obtain ⟨_, _, front, _, hfront, hsame⟩ := h.changes _ hchanged
  have hlength := hfront.length_le
  rw [← List.append_cancel_left hsame, List.length_append, List.length_singleton] at hlength
  omega

/-- A path without an entry is free when its parents have been made. -/
theorem Made.entry_none (h : Made fs parents above below existing fs')
    (hmissing : fs.realpath (parents ++ [name]) = none) (hfree : fs.lstat (parents ++ [name]) = none) :
    fs'.entry (existing ++ (below ++ [name])) = none := by
  rw [h.entry_last]
  by_cases hnil : below = []
  · have hplace : fs.location (parents ++ [name]) = some (existing ++ (below ++ [name])) := by
      rw [location_concat, h.split, hnil, List.append_nil, h.resolves]
      rfl
    unfold lstat at hfree
    rw [hplace] at hfree
    exact hfree
  · cases hentry : fs.entry (existing ++ (below ++ [name])) with
    | none => rfl
    | some e =>
      rw [← List.append_assoc] at hentry
      exact absurd (entry_parent hentry)
        (h.ancestor.no_directory hmissing hnil (List.prefix_append below [name]))

end Entry

/-! ## The actions -/

section Actions
variable {host : WriteHost} {registry : WorkspaceRegistry} {fs fs' : FileSystem}

/-- The directory of a path is found through the temporary file too. -/
theorem writeNewFile_location {path : Path} {content : List UInt8} {overwrite : Bool}
    {mode : Option ℕ} (hpath : path ≠ [])
    (h : writeNewFile host path content overwrite mode fs = (.ok (), fs')) :
    ∃ place, fs.location path = some place := by
  unfold writeNewFile at h
  split at h
  · unfold atomicReplace replaceBody at h
    dsimp only at h
    cases hwrite : host.writeFile (temporaryPath host path) content fs with
    | mk written staged =>
      rw [hwrite] at h
      cases written with
      | error error => cases h
      | ok _ =>
        obtain ⟨place, hplace⟩ := location_of_create (writeFile_ok.mp hwrite).2.2
        obtain ⟨above, name, rfl⟩ := (List.eq_nil_or_concat' path).resolve_left hpath
        rw [temporaryPath_concat, location_concat] at hplace
        obtain ⟨directory, hreal, _⟩ := Option.map_eq_some_iff.mp hplace
        exact ⟨directory ++ [name], by rw [location_concat, hreal]; rfl⟩
  · exact location_of_create (writeFile_ok.mp h).2.2

theorem writeNewFile_ok {path place : Path} {content : List UInt8} {overwrite : Bool}
    {mode : Option ℕ} (hpath : path ≠ []) (hplace : fs.location path = some place)
    (hold : ∀ e, fs.entry place = some e → e.isFile = true)
    (h : writeNewFile host path content overwrite mode fs = (.ok (), fs')) :
    fs.Keeps fs' ∧ ∀ other, other ≠ place → fs'.entry other = fs.entry other := by
  have hput : ∃ e, e.isFile = true ∧ fs.Put place e fs' := by
    unfold writeNewFile at h
    split at h
    · exact ⟨_, rfl, atomicReplace_ok hpath hplace hold h⟩
    · exact ⟨_, rfl, (FileSystem.create_ok hplace (writeFile_ok.mp h).2.2).2⟩
  obtain ⟨e, he, hput⟩ := hput
  exact ⟨hput.keeps_file he hold, fun other hother => hput.elsewhere hother⟩

theorem createParents_made {input : WriteInput} {parents : Path} {name : Name}
    (h : createParents host input (parents ++ [name]) fs = (.ok (), fs'))
    (hplace : ∃ place, fs'.location (parents ++ [name]) = some place) :
    ∃ above below existing, Made fs parents above below existing fs' := by
  unfold createParents at h
  split at h
  · rw [List.dropLast_concat] at h
    exact makeDirectories_ok realpath_nil h
  · cases h
    obtain ⟨place, hplace⟩ := hplace
    rw [location_concat] at hplace
    obtain ⟨real, hreal, _⟩ := Option.map_eq_some_iff.mp hplace
    exact ⟨parents, [], real, .refl hreal⟩

theorem write_steps {input : WriteInput} {output : FilesystemWriteOutput}
    (h : write host registry input fs = (.ok output, fs')) :
    ∃ resolved mode made, inspectWrite host registry input fs = .ok (resolved, mode) ∧
      createParents host input resolved.operationPath fs = (.ok (), made) ∧
      writeNewFile host resolved.operationPath (Utf16.utf8Bytes input.content)
        (input.overwrite = some true) mode made = (.ok (), fs') := by
  unfold write at h
  split at h
  · cases h
  · next resolved mode hinspect =>
    split at h
    · cases h
    · next made hmade =>
      split at h
      · cases h
      · next hnew =>
        cases h
        exact ⟨resolved, mode, made, hinspect, hmade, hnew⟩

/-- `write` replaces a file. -/
theorem inspectWrite_file {input : WriteInput} {resolved : ResolvedWorkspacePath} {mode : Option ℕ}
    (h : inspectWrite host registry input fs = .ok (resolved, mode))
    (hexists : resolved.pathExists = true) :
    ∃ content mode', fs.lstat resolved.operationPath = some (.file content mode') := by
  unfold inspectWrite at h
  split at h
  · cases h
  · cases hresolve : resolvePath fs registry input.workspace input.path (some .write) with
    | error error =>
      rw [hresolve] at h
      cases h
    | ok found =>
      rw [hresolve] at h
      simp only [bind, Except.bind] at h
      split at h
      · cases h
      · split at h
        · split at h
          · cases h
          · next content mode' hlstat =>
            cases h
            exact ⟨content, mode', hlstat⟩
          · cases h
        · next hno =>
          cases h
          exact absurd hexists hno

theorem inspectPatch_resolved {input : PatchInput} {inspected : Patch}
    (h : inspectPatch host registry input fs = .ok inspected) :
    resolvePath fs registry input.workspace input.path (some .write) = .ok inspected.resolved := by
  unfold inspectPatch at h
  cases hresolve : resolvePath fs registry input.workspace input.path (some .write) with
  | error error =>
    rw [hresolve] at h
    cases h
  | ok resolved =>
    rw [hresolve] at h
    simp only [bind, Except.bind] at h
    cases hregular : ensureRegularFile fs resolved.operationPath with
    | error error =>
      rw [hregular] at h
      cases h
    | ok existingMode =>
      rw [hregular] at h
      dsimp only at h
      split at h
      · cases h
      · split at h
        · cases h
        · split at h
          · cases h
          · cases h
            rfl

theorem inspectMkdir_resolved {input : MkdirInput} {resolved : ResolvedWorkspacePath}
    (h : inspectMkdir registry input fs = .ok resolved) :
    resolvePath fs registry input.workspace input.path (some .write) = .ok resolved := by
  unfold inspectMkdir at h
  cases hresolve : resolvePath fs registry input.workspace input.path (some .write) with
  | error error =>
    rw [hresolve] at h
    cases h
  | ok found =>
    rw [hresolve] at h
    simp only [bind, Except.bind] at h
    split at h
    · split at h
      · cases h
      · split at h
        · cases h
          rfl
        · cases h
    · cases h
      rfl

/-- What a call may change: the entry that its path names, wherever links lead, and what is missing of the
directories above it. -/
def Confined (registry : WorkspaceRegistry) (workspaceId path : String) (fs fs' : FileSystem) : Prop :=
  ∃ workspace, registry.get workspaceId = some workspace ∧ workspace.capabilities.write = true ∧
    ∀ place, fs'.entry place ≠ fs.entry place → Exposable workspace place ∧
      ∃ target, fs'.location (join workspace.root path) = some target ∧ place <+: target ∧
        (place ≠ target → fs.entry place = none ∧ fs'.entry place = some .directory)

theorem patch_confined {input : PatchInput} {output : FilesystemWriteOutput}
    (h : patch host registry input fs = (.ok output, fs')) :
    Confined registry input.workspace input.path fs fs' := by
  unfold patch at h
  cases hinspect : inspectPatch host registry input fs with
  | error error =>
    rw [hinspect] at h
    cases h
  | ok inspected =>
    rw [hinspect] at h
    dsimp only at h
    have hresolves := resolvePath_ok (inspectPatch_resolved hinspect)
    obtain ⟨target, content, mode, _, hpath, htarget, hentry, _⟩ := inspectPatch_ok hinspect
    refine ⟨inspected.resolved.workspace, hresolves.workspace, hresolves.enabled .write rfl,
      fun place hchanged => ?_⟩
    split at h
    · cases h
    · next hreplaced =>
      cases h
      have hold : ∀ e, fs.entry target = some e → e.isFile = true := fun e he => by
        rw [hentry] at he
        cases he
        rfl
      have hput := atomicReplace_ok hpath htarget hold hreplaced
      have hplace : place = target := by
        by_contra hother
        exact hchanged (hput.elsewhere hother)
      rw [hplace]
      refine ⟨exposable_entry hresolves htarget hentry rfl, target, ?_, List.prefix_refl _,
        absurd rfl⟩
      rw [← hresolves.operation]
      exact (hput.keeps_file rfl hold).location htarget

variable (hroots : ∀ workspace ∈ registry.workspaces, fs.entry workspace.root = some .directory)
include hroots

theorem write_confined {input : WriteInput} {output : FilesystemWriteOutput}
    (hnot : host.aborted = false) (hlink : ¬ ReplacesUnresolvable host registry fs (.write input))
    (h : write host registry input fs = (.ok output, fs')) :
    Confined registry input.workspace input.path fs fs' := by
  obtain ⟨resolved, mode, made, hinspect, hparents, hnew⟩ := write_steps h
  have hresolves := resolvePath_ok (inspectWrite_ok hinspect).1
  refine ⟨resolved.workspace, hresolves.workspace, hresolves.enabled .write rfl,
    fun place hchanged => ?_⟩
  cases hexists : resolved.pathExists with
  | true =>
    obtain ⟨content, mode', hlstat⟩ := inspectWrite_file hinspect hexists
    rw [createParents_existing (by rw [hlstat]; simp)] at hparents
    cases hparents
    obtain ⟨target, htarget, hentry⟩ := Option.bind_eq_some_iff.mp hlstat
    have hpath := ne_nil_of_file hlstat
    obtain ⟨hkeeps, hothers⟩ :=
      writeNewFile_ok hpath htarget (fun e he => by rw [hentry] at he; cases he; rfl) hnew
    have hplace : place = target := by
      by_contra hother
      exact hchanged (hothers place hother)
    rw [hplace]
    refine ⟨exposable_entry hresolves htarget hentry rfl, target, ?_, List.prefix_refl _, absurd rfl⟩
    rw [← hresolves.operation]
    exact hkeeps.location htarget
  | false =>
    have hmissing := hresolves.missing hexists
    have hpath := ne_nil_of_missing hmissing
    have hfree : fs.lstat resolved.operationPath = none := by
      by_contra hentry
      have hlost : Unresolvable fs resolved.operationPath := ⟨hentry, hmissing⟩
      obtain ⟨hkept, hreplaced⟩ := write_unresolvable hinspect hlost
      by_cases hoverwrite : input.overwrite = some true
      · exact hlink ⟨hnot, hoverwrite, resolved, mode, hinspect, hlost,
          (hreplaced hoverwrite).mp ⟨output, congrArg Prod.fst h⟩⟩
      · obtain ⟨error, hfailed⟩ := hkept hoverwrite
        rw [hfailed] at h
        cases h
    have hroot := hroots _ (registry_get hresolves.workspace).1
    obtain ⟨parents, name, hsplit⟩ := (List.eq_nil_or_concat' resolved.operationPath).resolve_left hpath
    have hlocated := writeNewFile_location hpath hnew
    rw [hsplit] at hparents hlocated hfree
    obtain ⟨above, below, existing, hmade⟩ := createParents_made hparents hlocated
    have hlongest : LongestAncestor fs resolved.operationPath above (below ++ [name]) existing := by
      rw [hsplit]
      exact hmade.ancestor
    have hinside : ∀ front, front <+: below ++ [name] →
        Exposable resolved.workspace (existing ++ front) :=
      fun front hfront => exposable_missing hresolves hroot hmissing hlongest hfront
    have hplace : made.location resolved.operationPath = some (existing ++ (below ++ [name])) := by
      rw [hsplit]
      exact hmade.location
    have hnone := hmade.entry_none (by rw [← hsplit]; exact hmissing) hfree
    obtain ⟨hkeeps, hothers⟩ := writeNewFile_ok hpath hplace
      (fun e he => by rw [hnone] at he; cases he) hnew
    have htarget := hkeeps.location hplace
    rw [hresolves.operation] at htarget
    by_cases hlast : place = existing ++ (below ++ [name])
    · rw [hlast]
      exact ⟨hinside _ (List.prefix_refl _), _, htarget, List.prefix_refl _, absurd rfl⟩
    · rw [hothers place hlast] at hchanged ⊢
      obtain ⟨hfree', hdirectory, front, _, hfront, rfl⟩ := hmade.changes place hchanged
      have hfore : front <+: below ++ [name] := hfront.trans (List.prefix_append _ _)
      exact ⟨hinside front hfore, _, htarget, (List.prefix_append_right_inj existing).mpr hfore,
        fun _ => ⟨hfree', hdirectory⟩⟩

theorem mkdir_confined {input : MkdirInput} {output : FilesystemWriteOutput}
    (h : mkdir host registry input fs = (.ok output, fs')) :
    Confined registry input.workspace input.path fs fs' := by
  unfold mkdir at h
  cases hinspect : inspectMkdir registry input fs with
  | error error =>
    rw [hinspect] at h
    cases h
  | ok resolved =>
    rw [hinspect] at h
    dsimp only at h
    have hresolves := resolvePath_ok (inspectMkdir_resolved hinspect)
    refine ⟨resolved.workspace, hresolves.workspace, hresolves.enabled .write rfl,
      fun place hchanged => ?_⟩
    split at h
    · cases h
      exact absurd rfl hchanged
    · next hexists =>
      have hmissing := hresolves.missing (Bool.eq_false_iff.mpr hexists)
      have hroot := hroots _ (registry_get hresolves.workspace).1
      split at h
      · cases h
      · next hmade =>
        cases h
        split at hmade
        · obtain ⟨above, below, existing, hgrown⟩ := makeDirectories_ok realpath_nil hmade
          rw [List.nil_append] at hgrown
          obtain ⟨hfree, hdirectory, front, hne, hfront, rfl⟩ := hgrown.changes place hchanged
          have hnew : below ≠ [] := by
            rintro rfl
            exact hne (List.prefix_nil.mp hfront)
          refine ⟨exposable_missing hresolves hroot hmissing ⟨hgrown.split, hnew, hgrown.resolves,
            fun front hfront hne _ => hgrown.missing front hne hfront⟩ hfront, existing ++ below, ?_,
            (List.prefix_append_right_inj existing).mpr hfront, fun _ => ⟨hfree, hdirectory⟩⟩
          rw [← hresolves.operation]
          exact hgrown.location_last hnew
        · have hpath := ne_nil_of_missing hmissing
          obtain ⟨parents, name, hsplit⟩ :=
            (List.eq_nil_or_concat' resolved.operationPath).resolve_left hpath
          have hmkdir := (attempt_ok.mp hmade).2
          obtain ⟨target, htarget, hnone, hput⟩ := mkdir_ok hmkdir
          rw [hsplit, location_concat] at htarget
          obtain ⟨real, hreal, rfl⟩ := Option.map_eq_some_iff.mp htarget
          have hlongest : LongestAncestor fs resolved.operationPath parents [name] real := by
            rw [hsplit]
            exact (Made.refl hreal).ancestor
          have hplace : place = real ++ [name] := by
            by_contra hother
            exact hchanged (hput.elsewhere hother)
          rw [hplace]
          refine ⟨exposable_missing hresolves hroot hmissing hlongest (List.prefix_refl _),
            real ++ [name], ?_, List.prefix_refl _, absurd rfl⟩
          rw [← hresolves.operation, hsplit, location_concat,
            (hput.keeps_none hnone).realpath hreal]
          rfl

end Actions

/-- The workspace and the path of a call that makes an entry or changes one where it is. -/
def FilesystemWriteInput.inPlace : FilesystemWriteInput → Option (String × String)
  | .write input => some (input.workspace, input.path)
  | .patch input => some (input.workspace, input.path)
  | .mkdir input => some (input.workspace, input.path)
  | .move _ => none

/-- A `write`, a `patch` or a `mkdir` that succeeds and does not replace an entry that does not resolve
changes the entry that its path names and makes directories above it, and this inside the root of a workspace
with the capability and in no deny subtree. -/
theorem handler_confined (host : WriteHost) (registry : WorkspaceRegistry) (fs fs' : FileSystem)
    (input : FilesystemWriteInput) (workspaceId path : String) (output : FilesystemWriteOutput)
    (hinput : input.inPlace = some (workspaceId, path))
    (hroots : ∀ workspace ∈ registry.workspaces, fs.entry workspace.root = some .directory)
    (hlink : ¬ ReplacesUnresolvable host registry fs input)
    (h : handler host registry input fs = (.ok output, fs')) :
    Confined registry workspaceId path fs fs' := by
  unfold handler at h
  split at h
  · cases h
  · next hnot =>
    have hrunning : host.aborted = false := Bool.eq_false_iff.mpr hnot
    cases input with
    | write input =>
      cases hinput
      exact write_confined hroots hrunning hlink h
    | patch input =>
      cases hinput
      exact patch_confined h
    | mkdir input =>
      cases hinput
      exact mkdir_confined hroots h
    | move input => cases hinput

/-- A new file in a new directory. -/
def newFile : FilesystemWriteInput := .write ⟨"project", "n/b", [], none, some true⟩

theorem handler_confined_new :
    Confined ⟨[projectWorkspace]⟩ "project" "n/b" projectTree
      (handler calmHost ⟨[projectWorkspace]⟩ newFile projectTree).2 :=
  handler_confined calmHost ⟨[projectWorkspace]⟩ projectTree _ newFile "project" "n/b"
    { action := .write, path := some "n/b", bytes := some 0, created := some true,
      overwritten := some false } rfl
    (by simp only [List.mem_singleton, forall_eq]; rfl) (by rintro ⟨_, hoverwrite, _⟩; cases hoverwrite)
    rfl

end Doctmcp.Tools.FilesystemWrite

import Doctmcp.Tools.Replacing
import Doctmcp.Tools.Resolver

/-! # Overwriting

When `write` and `move` replace an entry at their destination, and what they say about it. Whether the
destination exists is judged by following it; an entry that does not resolve, as a dangling link, is
therefore taken for nothing. -/

namespace Doctmcp.Tools.FilesystemWrite
open Doctmcp.Lib Doctmcp.Lib.PosixPath Doctmcp.Lib.FileSystem
set_option autoImplicit false

/-- What a call is to write: its workspace, its destination and whether it may overwrite. -/
def FilesystemWriteInput.destination : FilesystemWriteInput → Option (String × String × Option Bool)
  | .write input => some (input.workspace, input.path, input.overwrite)
  | .move input => some (input.workspace, input.toPath, input.overwrite)
  | .patch _ | .mkdir _ => none

/-- The entry at the destination of the call. -/
def destinationEntry (registry : WorkspaceRegistry) (fs : FileSystem)
    (input : FilesystemWriteInput) : Option Entry := do
  let (workspaceId, path, _) ← input.destination
  let workspace ← registry.get workspaceId
  fs.lstat (join workspace.root path)

/-- A call that must not overwrite fails where there is an entry and leaves the tree as it is, and the
flags say whether there was one. -/
structure NoSilentOverwrite (existing : Option Entry) (overwrite : Option Bool) (fs : FileSystem)
    (outcome : Outcome ToolDomainError FilesystemWriteOutput) : Prop where
  kept : overwrite ≠ some true → existing ≠ none →
    (∃ error, outcome.1 = .error error) ∧ outcome.2 = fs
  truthful : ∀ output, outcome.1 = .ok output →
    output.overwritten = some existing.isSome ∧
      ∀ created, output.created = some created → created = !existing.isSome

/-- The destination has an entry, and following it leads nowhere. -/
def Unresolvable (fs : FileSystem) (path : Path) : Prop :=
  fs.lstat path ≠ none ∧ fs.realpath path = none

/-- The call passes its checks, nothing hinders it, and its destination is an entry that does not
resolve. -/
def ReplacesUnresolvable (host : WriteHost) (registry : WorkspaceRegistry) (fs : FileSystem) :
    FilesystemWriteInput → Prop
  | .write input =>
    host.aborted = false ∧ input.overwrite = some true ∧
      ∃ resolved mode, inspectWrite host registry input fs = .ok (resolved, mode) ∧
        Unresolvable fs resolved.operationPath ∧ Unhindered host fs resolved.operationPath mode
  | .move input =>
    host.aborted = false ∧
      ∃ source destination, inspectMove registry input fs = .ok (source, destination) ∧
        Unresolvable fs destination.operationPath ∧
        (∃ content mode, fs.lstat source.operationPath = some (.file content mode)) ∧
        host.fails (.rename source.operationPath destination.operationPath) = none
  | .patch _ | .mkdir _ => False

section Calls
variable {host : WriteHost} {registry : WorkspaceRegistry} {fs : FileSystem} {path : Path}

/-! ## Entries that do not resolve -/

/-- An entry that does not resolve is a link. -/
theorem Unresolvable.link (h : Unresolvable fs path) :
    path ≠ [] ∧ ∃ place target, fs.location path = some place ∧
      fs.entry place = some (.symlink target) := by
  obtain ⟨hentry, hreal⟩ := h
  refine ⟨?_, ?_⟩
  · rintro rfl
    rw [realpath_nil] at hreal
    cases hreal
  · obtain ⟨e, he⟩ := Option.ne_none_iff_exists'.mp hentry
    obtain ⟨place, hplace, hat⟩ := Option.bind_eq_some_iff.mp he
    cases e with
    | symlink target => exact ⟨place, target, hplace, hat⟩
    | file _ _ | directory | other =>
      rw [realpath_of_lstat he rfl, hplace] at hreal
      cases hreal

/-- Such an entry is taken for nothing. -/
theorem Unresolvable.unseen {resolved : ResolvedWorkspacePath}
    (h : Unresolvable fs resolved.operationPath)
    (hexists : resolved.pathExists = true → fs.lstat resolved.operationPath ≠ none ∧
      fs.realpath resolved.operationPath ≠ none) : resolved.pathExists = false := by
  rw [Bool.eq_false_iff]
  intro htrue
  exact (hexists htrue).2 h.2

/-- Any other entry is seen. -/
theorem pathExists_eq {resolved : ResolvedWorkspacePath}
    (h : ¬ Unresolvable fs resolved.operationPath)
    (hexists : resolved.pathExists = true → fs.lstat resolved.operationPath ≠ none ∧
      fs.realpath resolved.operationPath ≠ none)
    (hmissing : resolved.pathExists = false → fs.realpath resolved.operationPath = none) :
    resolved.pathExists = (fs.lstat resolved.operationPath).isSome := by
  cases hseen : resolved.pathExists with
  | true => exact (Option.isSome_iff_ne_none.mpr (hexists hseen).1).symm
  | false =>
    by_contra hat
    refine h ⟨?_, hmissing hseen⟩
    intro hnone
    rw [hnone] at hat
    exact hat rfl

/-- Where there is an entry, its parents need not be created. -/
theorem makeDirectories_existing {reached names real : Path}
    (hreal : fs.realpath (reached ++ names) = some real)
    (hdirectory : fs.entry real = some .directory) :
    host.makeDirectories reached names fs = (.ok (), fs) := by
  induction names generalizing reached with
  | nil => rfl
  | cons name names ih =>
    rw [List.append_cons] at hreal
    have hfront : ∃ directory, fs.realpath (reached ++ [name]) = some directory ∧
        fs.entry directory = some .directory := by
      by_cases hnil : names = []
      · rw [hnil, List.append_nil] at hreal
        exact ⟨real, hreal, hdirectory⟩
      · exact realpath_above hreal hnil
    obtain ⟨directory, hreached, hentry⟩ := hfront
    unfold WriteHost.makeDirectories
    dsimp only
    rw [hreached]
    dsimp only
    rw [if_pos hentry]
    exact ih hreal

theorem createParents_existing {input : WriteInput} (h : fs.lstat path ≠ none) :
    createParents host input path fs = (.ok (), fs) := by
  unfold createParents
  split
  · induction path using List.reverseRecOn with
    | nil => rfl
    | append_singleton above name _ =>
      obtain ⟨e, he⟩ := Option.ne_none_iff_exists'.mp h
      unfold lstat at he
      rw [location_concat] at he
      obtain ⟨place, hplace, hentry⟩ := Option.bind_eq_some_iff.mp he
      obtain ⟨directory, hreal, rfl⟩ := Option.map_eq_some_iff.mp hplace
      rw [List.dropLast_concat]
      exact makeDirectories_existing hreal (entry_parent hentry)
  · rfl

/-- An exclusive write does nothing where there is an entry. -/
theorem writeFile_existing {content : List UInt8} (h : fs.lstat path ≠ none) :
    ∃ error, host.writeFile path content fs = (.error error, fs) := by
  obtain ⟨e, he⟩ := Option.ne_none_iff_exists'.mp h
  obtain ⟨place, hplace, hentry⟩ := Option.bind_eq_some_iff.mp he
  have hrefused : ∀ part fs', fs.create path part host.createMode ≠ .ok fs' := by
    intro part fs' hcreate
    rw [(FileSystem.create_ok hplace hcreate).1] at hentry
    cases hentry
  cases hwrite : host.writeFile path content fs with
  | mk result fs' =>
    cases result with
    | ok _ => exact absurd (writeFile_ok.mp hwrite).2.2 (hrefused _ _)
    | error error =>
      rcases writeFile_error hwrite with rfl | ⟨part, hpart⟩
      · exact ⟨error, rfl⟩
      · exact absurd hpart (hrefused _ _)

/-! ## The checks -/

/-- What the resolver says about a destination. -/
theorem resolvePath_write {workspaceId path : String} {resolved : ResolvedWorkspacePath}
    (h : resolvePath fs registry workspaceId path (some .write) = .ok resolved) :
    registry.get workspaceId = some resolved.workspace ∧
      resolved.operationPath = join resolved.workspace.root path ∧
      (resolved.pathExists = true → fs.lstat resolved.operationPath ≠ none ∧
        fs.realpath resolved.operationPath ≠ none) ∧
      (resolved.pathExists = false → fs.realpath resolved.operationPath = none) := by
  have hresolves := resolvePath_ok h
  refine ⟨hresolves.workspace, hresolves.operation, fun hexists => ?_, hresolves.missing⟩
  obtain ⟨hreal, _⟩ := hresolves.found nofun hexists
  obtain ⟨e, he⟩ := lstat_of_realpath hreal
  rw [he, hreal]
  exact ⟨nofun, nofun⟩

theorem inspectWrite_ok {input : WriteInput} {resolved : ResolvedWorkspacePath} {mode : Option ℕ}
    (h : inspectWrite host registry input fs = .ok (resolved, mode)) :
    resolvePath fs registry input.workspace input.path (some .write) = .ok resolved ∧
      (resolved.pathExists = true → input.overwrite = some true) ∧
      (resolved.pathExists = false → mode = none) := by
  unfold inspectWrite at h
  split at h
  · cases h
  · cases hresolve : resolvePath fs registry input.workspace input.path (some .write) with
    | error error =>
      rw [hresolve] at h
      cases h
    | ok found =>
      rw [hresolve] at h
      simp only [bind, Except.bind] at h
      split at h
      · cases h
      · next hallowed =>
        have hoverwrite : found.pathExists = true → input.overwrite = some true := by
          intro hexists
          by_contra hno
          exact hallowed ⟨hexists, hno⟩
        split at h
        · next hexists =>
          split at h
          · cases h
          · cases h
            exact ⟨rfl, hoverwrite, fun hmissing => absurd hexists (by rw [hmissing]; exact nofun)⟩
          · cases h
        · cases h
          exact ⟨rfl, hoverwrite, fun _ => rfl⟩

theorem inspectMove_ok {input : MoveInput} {source destination : ResolvedWorkspacePath}
    (h : inspectMove registry input fs = .ok (source, destination)) :
    resolvePath fs registry input.workspace input.toPath (some .write) = .ok destination ∧
      (destination.pathExists = true → input.overwrite = some true) ∧
      ∃ e, fs.lstat source.operationPath = some e ∧ (e.isFile || e.isDirectory) = true := by
  unfold inspectMove at h
  cases hsource : resolvePath fs registry input.workspace input.fromPath (some .write) with
  | error error =>
    rw [hsource] at h
    cases h
  | ok source' =>
    rw [hsource] at h
    simp only [bind, Except.bind] at h
    cases hregular : ensureRegularFileOrDirectory fs source'.operationPath with
    | error error =>
      rw [hregular] at h
      cases h
    | ok _ =>
      rw [hregular] at h
      dsimp only at h
      cases hdestination : resolvePath fs registry input.workspace input.toPath (some .write) with
      | error error =>
        rw [hdestination] at h
        cases h
      | ok destination' =>
        rw [hdestination] at h
        dsimp only at h
        split at h
        · cases h
        · next hallowed =>
          cases h
          refine ⟨rfl, fun hexists => ?_, ?_⟩
          · by_contra hno
            exact hallowed ⟨hexists, hno⟩
          · unfold ensureRegularFileOrDirectory at hregular
            split at hregular
            · cases hregular
            · next e he =>
              split at hregular
              · next hkind => exact ⟨e, he, hkind⟩
              · cases hregular

/-! ## Renaming onto an entry that does not resolve -/

/-- A directory is not renamed onto a link. -/
theorem rename_directory_refused {source : Path} (hdirectory : fs.lstat source = some .directory)
    (h : Unresolvable fs path) (fs' : FileSystem) : fs.rename source path ≠ .ok fs' := by
  obtain ⟨_, place, target, hplace, hlink⟩ := h.link
  obtain ⟨from', hfrom, hentry⟩ := Option.bind_eq_some_iff.mp hdirectory
  have hne : from' ≠ place := by
    rintro rfl
    rw [hlink] at hentry
    cases hentry
  have hrefused : fs.replaceable .directory place = .error .ENOTDIR := by
    unfold replaceable
    rw [hlink]
    rfl
  intro hrename
  unfold FileSystem.rename at hrename
  rw [hfrom, hplace] at hrename
  dsimp only at hrename
  split at hrename
  · cases hrename
  · rw [hentry] at hrename
    dsimp only at hrename
    rw [hrefused] at hrename
    cases hrename

/-- A file is renamed onto a link. -/
theorem rename_file_onto {source : Path} {content : List UInt8} {mode : ℕ}
    (hfile : fs.lstat source = some (.file content mode)) (h : Unresolvable fs path) :
    ∃ fs', fs.rename source path = .ok fs' := by
  obtain ⟨hpath, place, target, hplace, hlink⟩ := h.link
  obtain ⟨from', hfrom, hentry⟩ := Option.bind_eq_some_iff.mp hfile
  have hne : from' ≠ place := by
    rintro rfl
    rw [hlink] at hentry
    cases hentry
  obtain ⟨fs', hrename, _⟩ := rename_file hfrom hplace hentry
    (parent_of_location hpath hplace hlink) (by rw [hlink]; exact nofun) hne
  exact ⟨fs', hrename⟩

/-! ## The calls -/

theorem noSilentOverwrite_error {existing : Option Entry} {overwrite : Option Bool}
    {error : ToolDomainError} : NoSilentOverwrite existing overwrite fs (.error error, fs) :=
  ⟨fun _ _ => ⟨⟨error, rfl⟩, rfl⟩, nofun⟩

theorem write_ok {input : WriteInput} {output : FilesystemWriteOutput}
    (h : (write host registry input fs).1 = .ok output) :
    ∃ resolved mode, inspectWrite host registry input fs = .ok (resolved, mode) ∧
      output.overwritten = some resolved.pathExists ∧
      output.created = some (!resolved.pathExists) := by
  unfold write at h
  split at h
  · cases h
  · next resolved mode hinspect =>
    split at h
    · cases h
    · split at h
      · cases h
      · cases h
        exact ⟨resolved, mode, hinspect, rfl, rfl⟩

theorem move_ok {input : MoveInput} {output : FilesystemWriteOutput}
    (h : (move host registry input fs).1 = .ok output) :
    ∃ source destination, inspectMove registry input fs = .ok (source, destination) ∧
      output.overwritten = some destination.pathExists ∧ output.created = none := by
  unfold move at h
  split at h
  · cases h
  · next source destination hinspect =>
    split at h
    · cases h
    · cases h
      exact ⟨source, destination, hinspect, rfl, rfl⟩

/-- Onto an entry that does not resolve, `write` fails and does nothing, or may overwrite and then says
that there was no entry. -/
theorem write_unresolvable {input : WriteInput} {resolved : ResolvedWorkspacePath}
    {mode : Option ℕ} (hinspect : inspectWrite host registry input fs = .ok (resolved, mode))
    (h : Unresolvable fs resolved.operationPath) :
    (input.overwrite ≠ some true →
        ∃ error, write host registry input fs = (.error error, fs)) ∧
      (input.overwrite = some true → ((∃ output, (write host registry input fs).1 = .ok output) ↔
        Unhindered host fs resolved.operationPath mode)) := by
  obtain ⟨hpath, place, target, hplace, hlink⟩ := h.link
  unfold write
  rw [hinspect]
  dsimp only
  generalize hparents : createParents host input resolved.operationPath fs = parents
  rw [createParents_existing h.1] at hparents
  subst hparents
  dsimp only
  unfold writeNewFile
  constructor
  · intro hno
    obtain ⟨error, hfailed⟩ := @writeFile_existing host fs resolved.operationPath
      (Utf16.utf8Bytes input.content) h.1
    rw [if_neg (by simpa using hno), hfailed]
    exact ⟨_, rfl⟩
  · intro hyes
    rw [if_pos (by simpa using hyes), ← atomicReplace_ok_iff hpath hplace hlink (by simp)]
    cases atomicReplace host resolved.operationPath (Utf16.utf8Bytes input.content) mode fs with
    | mk result after =>
      cases result with
      | error error => simp
      | ok _ => simp

/-- Onto an entry that does not resolve, `move` renames a file unless the renaming fails. -/
theorem move_unresolvable {input : MoveInput} {source destination : ResolvedWorkspacePath}
    (hinspect : inspectMove registry input fs = .ok (source, destination))
    (h : Unresolvable fs destination.operationPath) :
    (∃ output, (move host registry input fs).1 = .ok output) ∧
        (∃ content mode, fs.lstat source.operationPath = some (.file content mode)) ∧
        host.fails (.rename source.operationPath destination.operationPath) = none ∨
      (∃ error, move host registry input fs = (.error error, fs)) ∧
        ¬ ((∃ content mode, fs.lstat source.operationPath = some (.file content mode)) ∧
          host.fails (.rename source.operationPath destination.operationPath) = none) := by
  obtain ⟨_, _, e, he, hkind⟩ := inspectMove_ok hinspect
  unfold move
  rw [hinspect]
  dsimp only
  cases hrename : host.attempt (.rename source.operationPath destination.operationPath)
    (fun fs => fs.rename source.operationPath destination.operationPath) fs with
  | mk result after =>
    cases result with
    | error error =>
      cases attempt_error hrename
      refine .inr ⟨⟨_, rfl⟩, ?_⟩
      rintro ⟨⟨content, mode, hfile⟩, hallowed⟩
      obtain ⟨renamed, hok⟩ := rename_file_onto hfile h
      rw [attempt_ok.mpr ⟨hallowed, hok⟩] at hrename
      cases hrename
    | ok _ =>
      obtain ⟨hallowed, hok⟩ := attempt_ok.mp hrename
      refine .inl ⟨⟨_, rfl⟩, ?_, hallowed⟩
      cases e with
      | file content mode => exact ⟨content, mode, he⟩
      | directory => exact absurd hok (rename_directory_refused he h after)
      | symlink _ | other => cases hkind

theorem write_noSilentOverwrite_iff (input : WriteInput) (hnot : host.aborted = false) :
    NoSilentOverwrite (destinationEntry registry fs (.write input)) input.overwrite fs
        (write host registry input fs) ↔
      ¬ ReplacesUnresolvable host registry fs (.write input) := by
  cases hinspect : inspectWrite host registry input fs with
  | error error =>
    have hwrite : write host registry input fs = (.error error, fs) := by
      unfold write
      rw [hinspect]
    rw [hwrite]
    refine iff_of_true noSilentOverwrite_error ?_
    rintro ⟨_, _, resolved, mode, hok, _⟩
    rw [hinspect] at hok
    cases hok
  | ok inspected =>
    obtain ⟨resolved, mode⟩ := inspected
    obtain ⟨hresolve, hallowed, hmode⟩ := inspectWrite_ok hinspect
    obtain ⟨hworkspace, hoperation, hexists, hmissing⟩ := resolvePath_write hresolve
    have hentry : destinationEntry registry fs (.write input) = fs.lstat resolved.operationPath := by
      rw [hoperation]
      unfold destinationEntry FilesystemWriteInput.destination
      simp [hworkspace]
    have hreplaces : ReplacesUnresolvable host registry fs (.write input) ↔
        input.overwrite = some true ∧ Unresolvable fs resolved.operationPath ∧
          Unhindered host fs resolved.operationPath mode := by
      constructor
      · rintro ⟨_, hoverwrite, resolved', mode', hok, hlost, hfree⟩
        rw [hinspect] at hok
        cases hok
        exact ⟨hoverwrite, hlost, hfree⟩
      · rintro ⟨hoverwrite, hlost, hfree⟩
        exact ⟨hnot, hoverwrite, resolved, mode, hinspect, hlost, hfree⟩
    have houtput : ∀ output, (write host registry input fs).1 = .ok output →
        output.overwritten = some resolved.pathExists ∧
          output.created = some (!resolved.pathExists) := by
      intro output hok
      obtain ⟨resolved', mode', hinspect', hflags⟩ := write_ok hok
      rw [hinspect] at hinspect'
      cases hinspect'
      exact hflags
    rw [hentry, hreplaces]
    by_cases hlost : Unresolvable fs resolved.operationPath
    · have hunseen := hlost.unseen hexists
      by_cases hoverwrite : input.overwrite = some true
      · have hsuccess := (write_unresolvable hinspect hlost).2 hoverwrite
        constructor
        · rintro hkept ⟨_, _, hfree⟩
          obtain ⟨output, hok⟩ := hsuccess.mpr hfree
          have hsaid := (hkept.truthful output hok).1
          rw [(houtput output hok).1, hunseen, Option.isSome_iff_ne_none.mpr hlost.1] at hsaid
          cases hsaid
        · intro hno
          refine ⟨fun hnever => absurd hoverwrite hnever, fun output hok => ?_⟩
          exact absurd ⟨hoverwrite, hlost, hsuccess.mp ⟨output, hok⟩⟩ hno
      · obtain ⟨error, hfailed⟩ := (write_unresolvable hinspect hlost).1 hoverwrite
        rw [hfailed]
        exact iff_of_true noSilentOverwrite_error fun hreplaced => hoverwrite hreplaced.1
    · refine iff_of_true ?_ fun hreplaced => hlost hreplaced.2.1
      have hsame := pathExists_eq hlost hexists hmissing
      refine ⟨fun hno hat => absurd (hallowed ?_) hno, fun output hok => ?_⟩
      · rw [hsame]
        exact Option.isSome_iff_ne_none.mpr hat
      · obtain ⟨hoverwritten, hcreated⟩ := houtput output hok
        rw [← hsame]
        refine ⟨hoverwritten, fun created hsaid => ?_⟩
        rw [hcreated] at hsaid
        exact (Option.some.inj hsaid).symm

theorem move_noSilentOverwrite_iff (input : MoveInput) (hnot : host.aborted = false) :
    NoSilentOverwrite (destinationEntry registry fs (.move input)) input.overwrite fs
        (move host registry input fs) ↔
      ¬ ReplacesUnresolvable host registry fs (.move input) := by
  cases hinspect : inspectMove registry input fs with
  | error error =>
    have hmove : move host registry input fs = (.error error, fs) := by
      unfold move
      rw [hinspect]
    rw [hmove]
    refine iff_of_true noSilentOverwrite_error ?_
    rintro ⟨_, source, destination, hok, _⟩
    rw [hinspect] at hok
    cases hok
  | ok inspected =>
    obtain ⟨source, destination⟩ := inspected
    obtain ⟨hresolve, hallowed, _⟩ := inspectMove_ok hinspect
    obtain ⟨hworkspace, hoperation, hexists, hmissing⟩ := resolvePath_write hresolve
    have hentry : destinationEntry registry fs (.move input) =
        fs.lstat destination.operationPath := by
      rw [hoperation]
      unfold destinationEntry FilesystemWriteInput.destination
      simp [hworkspace]
    have hreplaces : ReplacesUnresolvable host registry fs (.move input) ↔
        Unresolvable fs destination.operationPath ∧
          (∃ content mode, fs.lstat source.operationPath = some (.file content mode)) ∧
          host.fails (.rename source.operationPath destination.operationPath) = none := by
      constructor
      · rintro ⟨_, source', destination', hok, hlost⟩
        rw [hinspect] at hok
        cases hok
        exact hlost
      · intro hlost
        exact ⟨hnot, source, destination, hinspect, hlost⟩
    have houtput : ∀ output, (move host registry input fs).1 = .ok output →
        output.overwritten = some destination.pathExists ∧ output.created = none := by
      intro output hok
      obtain ⟨source', destination', hinspect', hflags⟩ := move_ok hok
      rw [hinspect] at hinspect'
      cases hinspect'
      exact hflags
    rw [hentry, hreplaces]
    by_cases hlost : Unresolvable fs destination.operationPath
    · rcases move_unresolvable hinspect hlost with ⟨⟨output, hok⟩, hdone⟩ | ⟨⟨error, hfailed⟩, hnever⟩
      · refine iff_of_false (fun hkept => ?_) (not_not_intro ⟨hlost, hdone⟩)
        have hsaid := (hkept.truthful output hok).1
        rw [(houtput output hok).1, hlost.unseen hexists, Option.isSome_iff_ne_none.mpr hlost.1]
          at hsaid
        cases hsaid
      · rw [hfailed]
        exact iff_of_true noSilentOverwrite_error fun hreplaced => hnever hreplaced.2
    · refine iff_of_true ?_ fun hreplaced => hlost hreplaced.1
      have hsame := pathExists_eq hlost hexists hmissing
      refine ⟨fun hno hat => absurd (hallowed ?_) hno, fun output hok => ?_⟩
      · rw [hsame]
        exact Option.isSome_iff_ne_none.mpr hat
      · obtain ⟨hoverwritten, hcreated⟩ := houtput output hok
        rw [← hsame]
        refine ⟨hoverwritten, fun created hsaid => ?_⟩
        rw [hcreated] at hsaid
        cases hsaid

end Calls

/-- A `write` or a `move` overwrites nothing silently exactly when it does not replace an entry that
does not resolve. -/
theorem handler_noSilentOverwrite_iff (host : WriteHost) (registry : WorkspaceRegistry)
    (fs : FileSystem) (input : FilesystemWriteInput) (workspaceId path : String)
    (overwrite : Option Bool) (hinput : input.destination = some (workspaceId, path, overwrite)) :
    NoSilentOverwrite (destinationEntry registry fs input) overwrite fs
        (handler host registry input fs) ↔
      ¬ ReplacesUnresolvable host registry fs input := by
  unfold handler
  cases haborted : host.aborted with
  | true =>
    rw [if_pos rfl]
    refine iff_of_true noSilentOverwrite_error ?_
    cases input with
    | write input => exact fun hreplaced => absurd (haborted.symm.trans hreplaced.1) nofun
    | move input => exact fun hreplaced => absurd (haborted.symm.trans hreplaced.1) nofun
    | patch input | mkdir input => exact id
  | false =>
    rw [if_neg Bool.false_ne_true]
    cases input with
    | write input =>
      cases hinput
      exact write_noSilentOverwrite_iff input haborted
    | move input =>
      cases hinput
      exact move_noSilentOverwrite_iff input haborted
    | patch input | mkdir input => cases hinput

/-- `/w` with a file, and a link to nothing. -/
def danglingTree : FileSystem :=
  .ofEntries
    ⟨[([], .directory), ([⟨"w", isName_w⟩], .directory),
      ([⟨"w", isName_w⟩, ⟨"a", isName_a⟩], .file [104, 105] 0o644),
      ([⟨"w", isName_w⟩, ⟨"l", isName_l⟩], .symlink "missing")], by decide⟩
    40 (by decide) (by decide)

theorem handler_noSilentOverwrite_iff_free :
    NoSilentOverwrite
      (destinationEntry ⟨[projectWorkspace]⟩ danglingTree (.move ⟨"project", "a", "b", none⟩)) none
      danglingTree
      (handler calmHost ⟨[projectWorkspace]⟩ (.move ⟨"project", "a", "b", none⟩) danglingTree) :=
  (handler_noSilentOverwrite_iff calmHost ⟨[projectWorkspace]⟩ danglingTree
    (.move ⟨"project", "a", "b", none⟩) "project" "b" none rfl).mpr (by
      rintro ⟨_, source, destination, hinspect, hlost, _⟩
      have hfound : Except.ok (source, destination) = inspectMove ⟨[projectWorkspace]⟩
        ⟨"project", "a", "b", none⟩ danglingTree := hinspect.symm
      cases hfound
      exact hlost.1 rfl)

/-- The file takes the place of the link, and the answer says that nothing was overwritten. -/
theorem move_replaces_link :
    ¬ NoSilentOverwrite
      (destinationEntry ⟨[projectWorkspace]⟩ danglingTree (.move ⟨"project", "a", "l", none⟩)) none
      danglingTree
      (handler calmHost ⟨[projectWorkspace]⟩ (.move ⟨"project", "a", "l", none⟩) danglingTree) := by
  intro h
  have hlink : destinationEntry ⟨[projectWorkspace]⟩ danglingTree
      (.move ⟨"project", "a", "l", none⟩) = some (.symlink "missing") := rfl
  rw [hlink] at h
  obtain ⟨⟨error, hfailed⟩, _⟩ := h.kept nofun nofun
  cases hfailed

end Doctmcp.Tools.FilesystemWrite

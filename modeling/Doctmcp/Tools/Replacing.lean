import Doctmcp.Tools.FilesystemWrite

/-! # Atomic replacement

What `atomicReplace` leaves where the path names a file: the file with its new content and nothing
else changed, or the tree as it was. -/

namespace Doctmcp.Tools.FilesystemWrite
open Doctmcp.Lib Doctmcp.Lib.PosixPath Doctmcp.Lib.FileSystem
set_option autoImplicit false

section Operations
variable {host : WriteHost} {fs fs' : FileSystem}

theorem attempt_ok {call : Call} {change : FileSystem → Except SystemError FileSystem} :
    host.attempt call change fs = (.ok (), fs') ↔ host.fails call = none ∧ change fs = .ok fs' := by
  unfold WriteHost.attempt
  cases host.fails call with
  | some error => simp
  | none =>
    cases change fs with
    | error error => simp
    | ok after => simp

theorem attempt_error {call : Call} {change : FileSystem → Except SystemError FileSystem}
    {error : SystemError} (h : host.attempt call change fs = (.error error, fs')) : fs' = fs := by
  unfold WriteHost.attempt at h
  split at h
  · cases h
    rfl
  · split at h
    · cases h
      rfl
    · cases h

theorem writeFile_ok {path : Path} {content : List UInt8} :
    host.writeFile path content fs = (.ok (), fs') ↔
      host.interrupted path = none ∧ host.fails (.writeFile path) = none ∧
        fs.create path content host.createMode = .ok fs' := by
  unfold WriteHost.writeFile
  cases host.interrupted path with
  | none => simp [attempt_ok]
  | some cut =>
    constructor
    · intro h
      dsimp only at h
      split at h
      · cases h
      · next hfailed => exact absurd h (hfailed fs')
    · rintro ⟨hnone, _⟩
      cases hnone

theorem writeFile_error {path : Path} {content : List UInt8} {error : SystemError}
    (h : host.writeFile path content fs = (.error error, fs')) :
    fs' = fs ∨ ∃ part, fs.create path part host.createMode = .ok fs' := by
  unfold WriteHost.writeFile at h
  split at h
  · exact .inl (attempt_error h)
  · split at h
    · next fs'' hpart =>
      cases h
      exact .inr ⟨_, (attempt_ok.mp hpart).2⟩
    · exact .inl (attempt_error h)

end Operations

/-! ## The temporary file -/

theorem temporaryName_ne (host : WriteHost) (name : Name) : temporaryName host name ≠ name := by
  intro hsame
  have hlength : (temporaryName host name).val.toList.length = name.val.toList.length := by
    rw [hsame]
  have hlist : (temporaryName host name).val.toList =
      name.val.toList ++ ".doctmcp-".toList ++ host.uuid.val.toList ++ ".tmp".toList := by
    unfold temporaryName
    simp only [String.toList_append]
  rw [hlist] at hlength
  simp only [List.length_append] at hlength
  have hsuffix : ".tmp".toList.length = 4 := rfl
  omega

theorem temporaryPath_concat (host : WriteHost) (above : Path) (name : Name) :
    temporaryPath host (above ++ [name]) = above ++ [temporaryName host name] := by
  simp [temporaryPath]

theorem temporaryPath_ne (host : WriteHost) {path : Path} (hpath : path ≠ []) :
    temporaryPath host path ≠ path := by
  induction path using List.reverseRecOn with
  | nil => exact absurd rfl hpath
  | append_singleton above name _ =>
    rw [temporaryPath_concat]
    intro hsame
    exact temporaryName_ne host name (by simpa using hsame)

/-- The temporary file stands next to the entry that the path names. -/
theorem location_temporary {fs : FileSystem} (host : WriteHost) {path place : Path}
    (hpath : path ≠ []) (h : fs.location path = some place) :
    fs.location (temporaryPath host path) = some (temporaryPath host place) := by
  obtain ⟨above, directory, name, rfl, rfl, hreal⟩ := location_parent hpath h
  rw [temporaryPath_concat, temporaryPath_concat, location_concat, hreal]
  rfl

/-- Before the rename only the temporary file may be new. -/
structure Staged (fs : FileSystem) (temporary : Path) (fs' : FileSystem) : Prop where
  links : fs'.maxLinks = fs.maxLinks
  others : ∀ path, path ≠ temporary → fs'.entry path = fs.entry path
  temporary : fs'.entry temporary = fs.entry temporary ∨
    fs.entry temporary = none ∧ ∃ content mode, fs'.entry temporary = some (.file content mode)

section Staged
variable {host : WriteHost} {fs fs' fs'' : FileSystem} {temporary path : Path}

theorem Staged.refl (fs : FileSystem) (temporary : Path) : Staged fs temporary fs :=
  ⟨rfl, fun _ _ => rfl, .inl rfl⟩

theorem Staged.create {content : List UInt8} {mode : ℕ}
    (hplace : fs.location path = some temporary) (h : fs.create path content mode = .ok fs') :
    Staged fs temporary fs' := by
  obtain ⟨hnone, hput⟩ := FileSystem.create_ok hplace h
  refine ⟨hput.links, fun other hother => ?_, .inr ⟨hnone, content, mode, ?_⟩⟩
  · rw [hput.entry, if_neg hother]
  · rw [hput.entry, if_pos rfl]

theorem Staged.keeps (h : Staged fs temporary fs') : fs.Keeps fs' := by
  refine ⟨h.links, fun path e hentry => ?_⟩
  by_cases hpath : path = temporary
  · subst hpath
    rcases h.temporary with hsame | ⟨hnone, _⟩
    · exact ⟨e, hsame.trans hentry, rfl⟩
    · rw [hnone] at hentry
      cases hentry
  · exact ⟨e, (h.others path hpath).trans hentry, rfl⟩

/-- Removing the temporary file leaves nothing new. -/
theorem Staged.remove (h : Staged fs temporary fs') (hplace : fs.location path = some temporary) :
    (∀ other, other ≠ temporary → (removeTemporary path fs').entry other = fs.entry other) ∧
      ∀ e, (removeTemporary path fs').entry temporary = some e → fs.entry temporary = some e := by
  have hplace' := h.keeps.location hplace
  unfold removeTemporary
  cases hunlink : fs'.unlink path with
  | ok after =>
    obtain ⟨_, _, hafter⟩ := unlink_ok hplace' hunlink
    refine ⟨fun other hother => ?_, fun e hentry => ?_⟩
    · rw [hafter, if_neg hother, h.others other hother]
    · rw [hafter, if_pos rfl] at hentry
      cases hentry
  | error error =>
    refine ⟨h.others, fun e hentry => ?_⟩
    rcases h.temporary with hsame | ⟨_, content, mode, hfile⟩
    · exact hsame ▸ hentry
    · -- A new temporary file can be removed.
      obtain ⟨after, hok⟩ := unlink_file hplace' hfile nofun
      rw [hunlink] at hok
      cases hok

end Staged

/-! ## The replacement -/

/-- Nothing outside the tree stops the replacement, and the name of the temporary file is free. -/
structure Unhindered (host : WriteHost) (fs : FileSystem) (path : Path) (mode : Option ℕ) : Prop where
  written : host.interrupted (temporaryPath host path) = none ∧
    host.fails (.writeFile (temporaryPath host path)) = none
  permitted : mode ≠ none → host.fails (.chmod (temporaryPath host path)) = none
  renamed : host.fails (.rename (temporaryPath host path) path) = none
  free : fs.lstat (temporaryPath host path) = none

section Replace
variable {host : WriteHost} {fs fs' : FileSystem} {path place : Path} {content : List UInt8}
  {mode : Option ℕ}

/-- What stands in the place of the temporary file when it is renamed. -/
def replacement (host : WriteHost) (content : List UInt8) (mode : Option ℕ) : Entry :=
  .file content (mode.getD host.createMode)

theorem permit_cases (hreal : fs.realpath path = some place)
    (hfile : fs.entry place = some (.file content host.createMode))
    {result : Except SystemError Unit} (h : host.permit path mode fs = (result, fs')) :
    (∃ error, result = .error error) ∧ fs' = fs ∨
      result = .ok () ∧ (mode ≠ none → host.fails (.chmod path) = none) ∧
        fs.Put place (replacement host content mode) fs' := by
  unfold WriteHost.permit at h
  cases mode with
  | none =>
    cases h
    refine .inr ⟨rfl, fun hnone => absurd rfl hnone, rfl, fun other => ?_⟩
    by_cases hother : other = place
    · rw [if_pos hother, hother]
      exact hfile
    · rw [if_neg hother]
  | some mode =>
    obtain ⟨after, hchmod, hput⟩ := chmod_file hreal hfile mode
    cases result with
    | error error => exact .inl ⟨⟨error, rfl⟩, attempt_error h⟩
    | ok _ =>
      obtain ⟨hallowed, hafter⟩ := attempt_ok.mp h
      rw [hchmod] at hafter
      cases hafter
      exact .inr ⟨rfl, fun _ => hallowed, hput⟩

theorem permit_allowed (hreal : fs.realpath path = some place)
    (hfile : fs.entry place = some (.file content host.createMode))
    (hallowed : mode ≠ none → host.fails (.chmod path) = none) :
    ∃ fs', host.permit path mode fs = (.ok (), fs') := by
  unfold WriteHost.permit
  cases mode with
  | none => exact ⟨fs, rfl⟩
  | some mode =>
    obtain ⟨after, hchmod, _⟩ := chmod_file hreal hfile mode
    exact ⟨after, attempt_ok.mpr ⟨hallowed nofun, hchmod⟩⟩

/-- The tree with the temporary file. -/
theorem temporary_written (hpath : path ≠ []) (hplace : fs.location path = some place)
    (hcreate : fs.create (temporaryPath host path) content host.createMode = .ok fs') :
    fs.lstat (temporaryPath host path) = none ∧
      fs'.realpath (temporaryPath host path) = some (temporaryPath host place) ∧
      fs.Put (temporaryPath host place) (.file content host.createMode) fs' := by
  have htemporary := location_temporary host hpath hplace
  obtain ⟨hnone, hput⟩ := FileSystem.create_ok htemporary hcreate
  have hlocation := (Staged.create htemporary hcreate).keeps.location htemporary
  have hlstat : fs'.lstat (temporaryPath host path) = some (.file content host.createMode) := by
    unfold lstat
    rw [hlocation]
    exact (hput.entry _).trans (if_pos rfl)
  refine ⟨?_, by rw [realpath_of_lstat hlstat rfl, hlocation], hput⟩
  unfold lstat
  rw [htemporary]
  exact hnone

/-- The replacement stops before the rename, or renames the finished file. -/
theorem replaceBody_cases (hpath : path ≠ []) (hplace : fs.location path = some place)
    {result : Except SystemError Unit} (h : replaceBody host path content mode fs = (result, fs')) :
    (∃ error, result = .error error) ∧ Staged fs (temporaryPath host place) fs' ∨
      result = .ok () ∧ Unhindered host fs path mode ∧ ∃ finished,
        fs.Put (temporaryPath host place) (replacement host content mode) finished ∧
        finished.rename (temporaryPath host path) path = .ok fs' := by
  have htemporary := location_temporary host hpath hplace
  unfold replaceBody at h
  cases hwrite : host.writeFile (temporaryPath host path) content fs with
  | mk written fs₁ =>
    rw [hwrite] at h
    cases written with
    | error error =>
      cases h
      refine .inl ⟨⟨error, rfl⟩, ?_⟩
      rcases writeFile_error hwrite with rfl | ⟨part, hpart⟩
      · exact Staged.refl _ _
      · exact Staged.create htemporary hpart
    | ok _ =>
      obtain ⟨hwhole, hwritten, hcreate⟩ := writeFile_ok.mp hwrite
      obtain ⟨hfree, hreal, hput⟩ := temporary_written hpath hplace hcreate
      dsimp only at h
      cases hpermit : host.permit (temporaryPath host path) mode fs₁ with
      | mk permitted fs₂ =>
        rw [hpermit] at h
        rcases permit_cases hreal ((hput.entry _).trans (if_pos rfl)) hpermit with
          ⟨⟨error, rfl⟩, rfl⟩ | ⟨rfl, hallowed, hput'⟩
        · cases h
          exact .inl ⟨⟨error, rfl⟩, Staged.create htemporary hcreate⟩
        · have hfinished := hput.trans hput'
          dsimp only at h
          cases result with
          | error error =>
            cases attempt_error h
            refine .inl ⟨⟨error, rfl⟩, hfinished.links, fun other hother => ?_,
              .inr ⟨(FileSystem.create_ok htemporary hcreate).1, content, mode.getD host.createMode, ?_⟩⟩
            · rw [hfinished.entry, if_neg hother]
            · rw [hfinished.entry, if_pos rfl]
              rfl
          | ok _ =>
            obtain ⟨hrenamed, hrename⟩ := attempt_ok.mp h
            exact .inr ⟨rfl, ⟨⟨hwhole, hwritten⟩, hallowed, hrenamed, hfree⟩, fs₂, hfinished, hrename⟩

theorem Unhindered.entry (h : Unhindered host fs path mode) (hpath : path ≠ [])
    (hplace : fs.location path = some place) : fs.entry (temporaryPath host place) = none := by
  have hfree := h.free
  unfold lstat at hfree
  rw [location_temporary host hpath hplace] at hfree
  exact hfree

/-- The finished file can be renamed onto anything but a directory. -/
theorem rename_finished (hpath : path ≠ []) (hplace : fs.location path = some place)
    (hnone : fs.entry (temporaryPath host place) = none)
    (hparent : fs.entry place.dropLast = some .directory)
    (hfree : fs.entry place ≠ some .directory) {finished : FileSystem}
    (hput : fs.Put (temporaryPath host place) (replacement host content mode) finished) :
    ∃ renamed, finished.rename (temporaryPath host path) path = .ok renamed ∧
      renamed.maxLinks = fs.maxLinks ∧
      ∀ other, renamed.entry other =
        if other = place then some (replacement host content mode)
        else if other = temporaryPath host place then none else fs.entry other := by
  have hne : temporaryPath host place ≠ place := by
    obtain ⟨_, directory, name, _, rfl, _⟩ := location_parent hpath hplace
    exact temporaryPath_ne host (by simp)
  have hkeeps : fs.Keeps finished := hput.keeps_none hnone
  have hplaceEntry : finished.entry place = fs.entry place := by
    rw [hput.entry, if_neg (Ne.symm hne)]
  obtain ⟨renamed, hrename, hlinks, hentries⟩ :=
    rename_file (hkeeps.location (location_temporary host hpath hplace)) (hkeeps.location hplace)
      (by rw [hput.entry, if_pos rfl]; rfl) (hkeeps.directory hparent)
      (by rw [hplaceEntry]; exact hfree) hne
  refine ⟨renamed, hrename, hlinks.trans hput.links, fun other => ?_⟩
  rw [hentries, hput.entry]
  by_cases hother : other = place
  · rw [if_pos hother, if_pos hother]
    rfl
  · rw [if_neg hother, if_neg hother]
    by_cases htemporary : other = temporaryPath host place
    · rw [if_pos htemporary, if_pos htemporary]
    · rw [if_neg htemporary, if_neg htemporary, if_neg htemporary]

theorem parent_of_location (hpath : path ≠ []) (hplace : fs.location path = some place) {e : Entry}
    (hentry : fs.entry place = some e) : fs.entry place.dropLast = some .directory := by
  obtain ⟨_, directory, name, _, rfl, _⟩ := location_parent hpath hplace
  rw [List.dropLast_concat]
  exact entry_parent hentry

/-- A replacement that fails leaves every entry as it was and adds none. -/
theorem atomicReplace_error (hpath : path ≠ []) (hplace : fs.location path = some place)
    {error : SystemError} (h : atomicReplace host path content mode fs = (.error error, fs')) :
    (∀ other, other ≠ temporaryPath host place → fs'.entry other = fs.entry other) ∧
      ∀ e, fs'.entry (temporaryPath host place) = some e →
        fs.entry (temporaryPath host place) = some e := by
  have htemporary := location_temporary host hpath hplace
  unfold atomicReplace at h
  cases hbody : replaceBody host path content mode fs with
  | mk result after =>
    rw [hbody] at h
    cases h
    rcases replaceBody_cases hpath hplace hbody with ⟨_, hstaged⟩ | ⟨hok, _⟩
    · exact hstaged.remove htemporary
    · cases hok

/-- A replacement that succeeds changes the file that the path names, which may be new. -/
theorem atomicReplace_ok (hpath : path ≠ []) (hplace : fs.location path = some place)
    (hold : ∀ e, fs.entry place = some e → e.isFile = true)
    (h : atomicReplace host path content mode fs = (.ok (), fs')) :
    fs.Put place (replacement host content mode) fs' := by
  have htemporary := location_temporary host hpath hplace
  obtain ⟨_, directory, name, _, hdirectory, _⟩ := location_parent hpath hplace
  unfold atomicReplace at h
  cases hbody : replaceBody host path content mode fs with
  | mk result after =>
    rw [hbody] at h
    cases h
    rcases replaceBody_cases hpath hplace hbody with
      ⟨⟨error, hfailed⟩, _⟩ | ⟨_, hunhindered, finished, hput, hrename⟩
    · cases hfailed
    · have hnone := hunhindered.entry hpath hplace
      have hne : temporaryPath host place ≠ place := by
        rw [hdirectory]
        exact temporaryPath_ne host (by simp)
      have hparent : fs.entry place.dropLast = some .directory := by
        have hstaged : fs.Keeps finished := hput.keeps_none hnone
        have hthere := rename_parent (hstaged.location hplace) hrename
        rw [hput.entry, if_neg] at hthere
        · exact hthere
        · rw [hdirectory, temporaryPath_concat, List.dropLast_concat]
          intro hsame
          simpa using congrArg List.length hsame
      have hfree : fs.entry place ≠ some .directory := fun hentry => by cases hold _ hentry
      obtain ⟨renamed, hrename', hlinks, hentries⟩ :=
        rename_finished hpath hplace hnone hparent hfree hput
      rw [hrename'] at hrename
      cases hrename
      have hkeeps : fs.Keeps after := by
        refine ⟨hlinks, fun other e hentry => ?_⟩
        rw [hentries]
        by_cases hother : other = place
        · rw [if_pos hother]
          rw [hother] at hentry
          have hfile := hold e hentry
          cases e with
          | file _ _ => exact ⟨_, rfl, rfl⟩
          | directory | symlink _ | other => cases hfile
        · by_cases hother' : other = temporaryPath host place
          · rw [hother', hnone] at hentry
            cases hentry
          · rw [if_neg hother, if_neg hother']
            exact ⟨e, hentry, rfl⟩
      have hgone : after.entry (temporaryPath host place) = none := by
        rw [hentries, if_neg hne, if_pos rfl]
      have hremoved : removeTemporary (temporaryPath host path) after = after := by
        unfold removeTemporary
        rw [unlink_missing (hkeeps.location htemporary) hgone]
      rw [hremoved]
      refine ⟨hlinks, fun other => ?_⟩
      rw [hentries]
      by_cases hother : other = place
      · rw [if_pos hother, if_pos hother]
      · rw [if_neg hother, if_neg hother]
        by_cases hother' : other = temporaryPath host place
        · rw [if_pos hother', hother', hnone]
        · rw [if_neg hother']

/-- A replacement of anything but a directory succeeds exactly when nothing hinders it. -/
theorem atomicReplace_ok_iff (hpath : path ≠ []) (hplace : fs.location path = some place)
    {e : Entry} (hentry : fs.entry place = some e) (he : e ≠ .directory) :
    (atomicReplace host path content mode fs).1 = .ok () ↔ Unhindered host fs path mode := by
  have htemporary := location_temporary host hpath hplace
  constructor
  · intro h
    cases hbody : replaceBody host path content mode fs with
    | mk result after =>
      unfold atomicReplace at h
      rw [hbody] at h
      rcases replaceBody_cases hpath hplace hbody with ⟨⟨error, hfailed⟩, _⟩ | ⟨_, hunhindered, _⟩
      · dsimp only at h
        rw [hfailed] at h
        cases h
      · exact hunhindered
  · intro h
    have hnone := h.entry hpath hplace
    have hparent := parent_of_location hpath hplace hentry
    have htemporaryParent : temporaryPath host place ≠ [] ∧
        fs.entry (temporaryPath host place).dropLast = some .directory := by
      obtain ⟨_, directory, name, _, rfl, _⟩ := location_parent hpath hplace
      rw [temporaryPath_concat, List.dropLast_concat]
      rw [List.dropLast_concat] at hparent
      exact ⟨by simp, hparent⟩
    obtain ⟨fs₁, hcreate⟩ := create_new htemporary hnone htemporaryParent content host.createMode
    obtain ⟨_, hreal, hput⟩ := temporary_written hpath hplace hcreate
    have hfile := (hput.entry (temporaryPath host place)).trans (if_pos rfl)
    obtain ⟨fs₂, hpermit⟩ := permit_allowed hreal hfile h.permitted
    have hfinished : fs.Put (temporaryPath host place) (replacement host content mode) fs₂ := by
      rcases permit_cases hreal hfile hpermit with ⟨⟨error, hfailed⟩, _⟩ | ⟨_, _, hput'⟩
      · cases hfailed
      · exact hput.trans hput'
    obtain ⟨renamed, hrename, _⟩ := rename_finished hpath hplace hnone hparent
      (fun hdirectory => he (Option.some.inj (hentry.symm.trans hdirectory))) hfinished
    unfold atomicReplace replaceBody
    dsimp only
    rw [writeFile_ok.mpr ⟨h.written.1, h.written.2, hcreate⟩]
    dsimp only
    rw [hpermit]
    dsimp only
    rw [attempt_ok.mpr ⟨h.renamed, hrename⟩]

end Replace

/-- Nothing fails and nothing is aborted. -/
def calmHost : WriteHost where
  maxWriteBytes := DEFAULT_MAX_WRITE_BYTES
  uuid := ⟨"00", by decide⟩
  createMode := 0o644
  fails _ := none
  interrupted _ := none
  aborted := false

end Doctmcp.Tools.FilesystemWrite

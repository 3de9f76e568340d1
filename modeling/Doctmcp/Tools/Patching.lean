import Doctmcp.Tools.Replacing
import Doctmcp.Tools.Resolver

/-! # Patching

What `patch` makes of the bytes of a file. It counts and replaces in the decoded text, so that the
bytes are edited as they should be where decoding loses nothing: the file is UTF-8, and the texts of
the call have an encoding. -/

namespace Doctmcp.Tools.FilesystemWrite
open Doctmcp.Lib Doctmcp.Lib.PosixPath Doctmcp.Lib.FileSystem
set_option autoImplicit false

/-! ## Counting -/

section Count
variable {old new : Utf16.Text}

theorem indexOf_leftmost {front : Utf16.Text} (h : Leftmost old front) (before rest : Utf16.Text) :
    indexOf (before ++ (front ++ (old ++ rest))) old before.length =
      some (before.length + front.length) := by
  unfold indexOf
  rw [List.find?_range'_eq_some]
  refine ⟨?_, ?_, ?_⟩
  · rw [List.drop_length_add_append, List.drop_left]
    exact decide_eq_true (List.prefix_append _ _)
  · rw [List.mem_range'_1, List.length_append, List.length_append]
    omega
  · intro j hfrom hto
    obtain ⟨i, rfl⟩ := Nat.exists_eq_add_of_le hfrom
    rw [List.drop_length_add_append]
    have hno : ¬ old <+: (front ++ (old ++ rest)).drop i := fun hfore =>
      h i (by omega) ((prefix_drop_append (by omega)).mp hfore)
    simpa using hno

theorem indexOf_none {rest : Utf16.Text} (h : ¬ old <:+: rest) (before : Utf16.Text) :
    indexOf (before ++ rest) old before.length = none := by
  unfold indexOf
  rw [List.find?_range'_eq_none]
  intro j hfrom _
  obtain ⟨i, rfl⟩ := Nat.exists_eq_add_of_le hfrom
  rw [List.drop_length_add_append]
  have hno : ¬ old <+: rest.drop i := fun hfore =>
    h (hfore.isInfix.trans (List.drop_suffix i rest).isInfix)
  simpa using hno

theorem countLoop_replaced {n : ℕ} {rest result : Utf16.Text} (h : Replaced old new n rest result)
    (before : Utf16.Text) {rounds : ℕ} (hrounds : n ≤ rounds) (count : ℕ) :
    countLoop (before ++ rest) old rounds (indexOf (before ++ rest) old before.length) count =
      count + n := by
  induction h generalizing before rounds count with
  | done hnone =>
    rw [indexOf_none hnone]
    cases rounds with
    | zero => rfl
    | succ rounds => rfl
  | @next n front rest result hleft _ ih =>
    cases rounds with
    | zero => exact absurd hrounds (Nat.not_succ_le_zero n)
    | succ rounds =>
      have hwhole : before ++ (front ++ (old ++ rest)) = (before ++ front ++ old) ++ rest := by
        simp only [List.append_assoc]
      have hbehind : before.length + front.length + old.length = (before ++ front ++ old).length := by
        simp only [List.length_append]
      rw [indexOf_leftmost hleft, countLoop, hbehind, hwhole, ih _ (by omega)]
      omega

/-- `countOccurrences` finds the occurrences that `split` cuts out. -/
theorem countOccurrences_replaced (hold : old ≠ []) {n : ℕ} {text result : Utf16.Text}
    (h : Replaced old new n text result) :
    countOccurrences text old = n ∧ replaceOccurrences text old new = result := by
  refine ⟨?_, (h.split hold).2⟩
  have hcount := countLoop_replaced h [] (h.count_le hold) 0
  rw [List.nil_append] at hcount
  unfold countOccurrences
  rw [Nat.zero_add] at hcount
  exact hcount

end Count

/-! ## Bytes -/

section Bytes
variable {o w : List Char}

theorem readText_eq (content : List UInt8) : readText content = Utf16.encode (Utf8.chars content) := by
  unfold readText
  rw [Utf8.lossy_eq]

theorem encode_ne_nil (ho : o ≠ []) : Utf16.encode o ≠ [] := by
  obtain ⟨u, rest, hencode, _⟩ := Utf16.code.encode_starts ho
  have hunits : Utf16.encode o = u :: rest := hencode
  rw [hunits]
  exact List.cons_ne_nil u rest

/-- The text that `patch` writes: the characters of the file with the occurrences replaced. -/
theorem patched_text (ho : o ≠ []) (w : List Char) (content : List UInt8) :
    ∃ r, replaceOccurrences (readText content) (Utf16.encode o) (Utf16.encode w) = Utf16.encode r ∧
      Replaced o w (countOccurrences (readText content) (Utf16.encode o)) (Utf8.chars content) r := by
  obtain ⟨n, r, hreplaced⟩ := Replaced.exists ho w (Utf8.chars content)
  have hunits : Replaced (Utf16.encode o) (Utf16.encode w) n (readText content) (Utf16.encode r) := by
    rw [readText_eq]
    exact Utf16.code.replaced ho hreplaced
  obtain ⟨hcount, htext⟩ := countOccurrences_replaced (encode_ne_nil ho) hunits
  rw [hcount]
  exact ⟨r, htext, hreplaced⟩

/-- The bytes are edited as the text is exactly where they are an encoding. -/
theorem bytes_replaced_iff (ho : o ≠ []) (w : List Char) (content : List UInt8) :
    Replaced (Utf8.encodeChars o) (Utf8.encodeChars w)
        (countOccurrences (readText content) (Utf16.encode o)) content
        (Utf16.utf8Bytes
          (replaceOccurrences (readText content) (Utf16.encode o) (Utf16.encode w))) ↔
      ∃ chars, content = Utf8.encodeChars chars := by
  obtain ⟨r, htext, hreplaced⟩ := patched_text ho w content
  have hbytes := Utf8.code.replaced ho hreplaced
  rw [htext, Utf16.utf8Bytes_encode]
  constructor
  · intro hlaw
    have hlength := hlaw.length
    have hlength' := hbytes.length
    have hsame : (Utf8.encodeChars (Utf8.chars content)).length = content.length := by
      have hresult : (Utf8.code.encode r).length = (Utf8.encodeChars r).length := rfl
      have hold : (Utf8.code.encode o).length = (Utf8.encodeChars o).length := rfl
      have hnew : (Utf8.code.encode w).length = (Utf8.encodeChars w).length := rfl
      have htext : (Utf8.code.encode (Utf8.chars content)).length =
          (Utf8.encodeChars (Utf8.chars content)).length := rfl
      rw [hresult, hold, hnew, htext] at hlength'
      omega
    rw [Utf8.length_encodeChars_chars] at hsame
    exact (Utf8.valid_of_replaced ho hlaw (Nat.le_of_eq hsame)).2 r rfl
  · rintro ⟨chars, rfl⟩
    rw [Utf8.chars_encodeChars] at hbytes
    exact hbytes

end Bytes

/-! ## The call -/

/-- The bytes of a text. A surrogate without its pair has no encoding. -/
def EncodesTo (text : Utf16.Text) (bytes : List UInt8) : Prop :=
  ∃ chars, text = Utf16.encode chars ∧ bytes = Utf8.encodeChars chars

/-- Where the entry that a patch names is. -/
def patchedPlace (registry : WorkspaceRegistry) (fs : FileSystem) (input : PatchInput) :
    Option Path := do
  let workspace ← registry.get input.workspace
  fs.location (join workspace.root input.path)

/-- A patch that succeeds has replaced the expected number of occurrences of the old bytes by the new
ones and kept the permission bits; one that fails has left the file as it was and nothing new. -/
structure EditsMatches (registry : WorkspaceRegistry) (fs : FileSystem) (input : PatchInput)
    (outcome : Outcome ToolDomainError FilesystemWriteOutput) : Prop where
  edited : ∀ output, outcome.1 = .ok output →
    output.occurrences = some input.expected ∧
    ∃ place old mode new mode' oldBytes newBytes, patchedPlace registry fs input = some place ∧
      fs.entry place = some (.file old mode) ∧ outcome.2.entry place = some (.file new mode') ∧
      permissionBits mode' = permissionBits mode ∧
      EncodesTo input.oldText.val oldBytes ∧ EncodesTo input.newText newBytes ∧
      Replaced oldBytes newBytes input.expected old new ∧
      ∀ other, other ≠ place → outcome.2.entry other = fs.entry other
  kept : ∀ error, outcome.1 = .error error → ∀ place, patchedPlace registry fs input = some place →
    outcome.2.entry place = fs.entry place
  clean : ∀ error, outcome.1 = .error error → ∀ path e, outcome.2.entry path = some e →
    fs.entry path = some e

/-- Decoding and encoding lose nothing: the file is UTF-8 and the texts have an encoding. -/
structure Lossless (fs : FileSystem) (input : PatchInput) (path : Path) : Prop where
  file : ∃ chars mode, fs.lstat path = some (.file (Utf8.encodeChars chars) mode)
  oldText : ∃ bytes, EncodesTo input.oldText.val bytes
  newText : ∃ bytes, EncodesTo input.newText bytes

section Calls
variable {host : WriteHost} {registry : WorkspaceRegistry} {fs : FileSystem} {input : PatchInput}

theorem permissionBits_permissionBits (mode : ℕ) :
    permissionBits (permissionBits mode) = permissionBits mode := by
  unfold permissionBits
  rw [Nat.and_assoc, Nat.and_self]

/-- What the checks of a patch have found. -/
theorem inspectPatch_ok {inspected : Patch} (h : inspectPatch host registry input fs = .ok inspected) :
    ∃ place content mode, patchedPlace registry fs input = some place ∧
      inspected.resolved.operationPath ≠ [] ∧
      fs.location inspected.resolved.operationPath = some place ∧
      fs.entry place = some (.file content mode) ∧ inspected.existingMode = permissionBits mode ∧
      countOccurrences (readText content) input.oldText.val = input.expected ∧
      inspected.occurrences = input.expected ∧
      inspected.patched =
        replaceOccurrences (readText content) input.oldText.val input.newText := by
  unfold inspectPatch at h
  cases hresolve : resolvePath fs registry input.workspace input.path (some .write) with
  | error error =>
    rw [hresolve] at h
    cases h
  | ok resolved =>
    rw [hresolve] at h
    simp only [bind, Except.bind] at h
    cases hregular : ensureRegularFile fs resolved.operationPath with
    | error error =>
      rw [hregular] at h
      cases h
    | ok existingMode =>
      rw [hregular] at h
      dsimp only at h
      have hfile : ∃ content mode, fs.lstat resolved.operationPath = some (.file content mode) ∧
          existingMode = permissionBits mode := by
        unfold ensureRegularFile at hregular
        split at hregular
        · cases hregular
        · next content mode hlstat =>
          cases hregular
          exact ⟨content, mode, hlstat, rfl⟩
        · cases hregular
      obtain ⟨content, mode, hlstat, rfl⟩ := hfile
      obtain ⟨place, hplace, hentry⟩ := Option.bind_eq_some_iff.mp hlstat
      have hne := ne_nil_of_file hlstat
      have hread : ∀ bytes, host.readFile fs resolved.operationPath = .ok bytes →
          bytes = content := by
        intro bytes hread
        have hstat : fs.stat resolved.operationPath = some (.file content mode) := by
          unfold stat
          rw [realpath_of_lstat hlstat rfl, hplace]
          exact hentry
        unfold WriteHost.readFile at hread
        split at hread
        · cases hread
        · rw [hstat] at hread
          cases hread
          rfl
      have hresolves := resolvePath_ok hresolve
      split at h
      · cases h
      · next bytes hbytes =>
        obtain rfl := hread bytes hbytes
        split at h
        · cases h
        · next hcount =>
          split at h
          · cases h
          · cases h
            refine ⟨place, bytes, mode, ?_, hne, hplace, hentry, rfl, not_not.mp hcount,
              not_not.mp hcount, rfl⟩
            unfold patchedPlace
            rw [hresolves.workspace]
            show fs.location (join resolved.workspace.root input.path) = some place
            rw [← hresolves.operation]
            exact hplace

theorem editsMatches_error {error : ToolDomainError} : EditsMatches registry fs input (.error error, fs) :=
  ⟨nofun, fun _ _ _ _ => rfl, fun _ _ _ _ hentry => hentry⟩

theorem encodesTo_ne_nil {o : List Char} (h : input.oldText.val = Utf16.encode o) : o ≠ [] := by
  rintro rfl
  exact input.oldText.property h

/-- A replacement that succeeded edits the matches exactly where nothing is lost. -/
theorem editsMatches_ok_iff {inspected : Patch} {fs' : FileSystem} {output : FilesystemWriteOutput}
    (hinspect : inspectPatch host registry input fs = .ok inspected)
    (hreplace : atomicReplace host inspected.resolved.operationPath
      (Utf16.utf8Bytes inspected.patched) (some inspected.existingMode) fs = (.ok (), fs'))
    (houtput : output.occurrences = some inspected.occurrences) :
    EditsMatches registry fs input (.ok output, fs') ↔
      Lossless fs input inspected.resolved.operationPath := by
  obtain ⟨place, content, mode, hnamed, hne, hplace, hentry, hmode, hcount, hoccurrences, hpatched⟩ :=
    inspectPatch_ok hinspect
  have hput := atomicReplace_ok hne hplace
    (fun e he => by rw [hentry] at he; cases he; rfl) hreplace
  have hnew := hput.here
  rw [hpatched, hmode] at hnew
  constructor
  · intro hedits
    obtain ⟨_, place', old, oldMode, new, newMode, oldBytes, newBytes, hnamed', hold, hafter, _,
      ⟨o, ho, rfl⟩, ⟨w, hw, rfl⟩, hlaw, _⟩ := hedits.edited output rfl
    rw [hnamed] at hnamed'
    cases hnamed'
    rw [hentry] at hold
    cases hold
    obtain ⟨rfl, _⟩ := Entry.file.inj (Option.some.inj (hnew.symm.trans hafter))
    rw [← hcount, ho, hw] at hlaw
    obtain ⟨chars, rfl⟩ := (bytes_replaced_iff (encodesTo_ne_nil ho) w content).mp hlaw
    refine ⟨⟨chars, mode, ?_⟩, ⟨_, o, ho, rfl⟩, ⟨_, w, hw, rfl⟩⟩
    unfold lstat
    rw [hplace]
    exact hentry
  · rintro ⟨⟨chars, mode', hlstat⟩, ⟨_, o, ho, rfl⟩, ⟨_, w, hw, rfl⟩⟩
    have hfile : content = Utf8.encodeChars chars := by
      unfold lstat at hlstat
      rw [hplace] at hlstat
      have hsame := hentry.symm.trans hlstat
      cases hsame
      rfl
    refine ⟨fun output' hok => ?_, nofun, nofun⟩
    cases hok
    refine ⟨by rw [houtput, hoccurrences], place, content, mode, _, _, _, _, hnamed, hentry, hnew,
      permissionBits_permissionBits mode, ⟨o, ho, rfl⟩, ⟨w, hw, rfl⟩, ?_,
      fun other hother => hput.elsewhere hother⟩
    have hlaw := (bytes_replaced_iff (encodesTo_ne_nil ho) w content).mpr ⟨chars, hfile⟩
    rw [← ho, ← hw, hcount] at hlaw
    exact hlaw

theorem patch_editsMatches_iff :
    EditsMatches registry fs input (patch host registry input fs) ↔
      ∀ inspected, inspectPatch host registry input fs = .ok inspected →
        Unhindered host fs inspected.resolved.operationPath (some inspected.existingMode) →
        Lossless fs input inspected.resolved.operationPath := by
  unfold patch
  cases hinspect : inspectPatch host registry input fs with
  | error error => exact iff_of_true editsMatches_error fun _ hok => absurd hok nofun
  | ok inspected =>
    obtain ⟨place, content, mode, hnamed, hne, hplace, hentry, _⟩ := inspectPatch_ok hinspect
    have hfree := @atomicReplace_ok_iff host fs inspected.resolved.operationPath place
      (Utf16.utf8Bytes inspected.patched) (some inspected.existingMode) hne hplace _ hentry nofun
    dsimp only
    cases hreplace : atomicReplace host inspected.resolved.operationPath
      (Utf16.utf8Bytes inspected.patched) (some inspected.existingMode) fs with
    | mk result after =>
      rw [hreplace] at hfree
      cases result with
      | error error =>
        obtain ⟨hothers, hnothing⟩ := atomicReplace_error hne hplace hreplace
        have hapart : place ≠ temporaryPath host place := by
          obtain ⟨_, directory, name, _, rfl, _⟩ := location_parent hne hplace
          exact Ne.symm (temporaryPath_ne host (by simp))
        refine iff_of_true ⟨nofun, fun _ _ place' hnamed' => ?_, fun _ _ path e hafter => ?_⟩ ?_
        · rw [hnamed] at hnamed'
          cases hnamed'
          exact hothers place hapart
        · by_cases htemporary : path = temporaryPath host place
          · rw [htemporary] at hafter ⊢
            exact hnothing e hafter
          · exact (hothers path htemporary) ▸ hafter
        · intro inspected' hok hunhindered
          cases hok
          cases hfree.mpr hunhindered
      | ok _ =>
        rw [editsMatches_ok_iff hinspect hreplace rfl]
        constructor
        · intro hlossless inspected' hok _
          cases hok
          exact hlossless
        · intro hall
          exact hall inspected rfl (hfree.mp rfl)

end Calls

/-- A patch edits only what it matched exactly when, as far as it gets to write, nothing is lost in
decoding and encoding. -/
theorem handler_editsMatches_iff (host : WriteHost) (registry : WorkspaceRegistry) (fs : FileSystem)
    (input : PatchInput) :
    EditsMatches registry fs input (handler host registry (.patch input) fs) ↔
      ∀ inspected, host.aborted = false → inspectPatch host registry input fs = .ok inspected →
        Unhindered host fs inspected.resolved.operationPath (some inspected.existingMode) →
        Lossless fs input inspected.resolved.operationPath := by
  unfold handler
  cases haborted : host.aborted with
  | true =>
    rw [if_pos rfl]
    exact iff_of_true editsMatches_error fun _ hnot => absurd hnot nofun
  | false =>
    rw [if_neg Bool.false_ne_true]
    show EditsMatches registry fs input (patch host registry input fs) ↔ _
    rw [patch_editsMatches_iff]
    exact ⟨fun hall inspected _ => hall inspected, fun hall inspected => hall inspected rfl⟩

/-- `/w` with a file that is not UTF-8: a byte `FF`, and an `x`. -/
def latinTree : FileSystem :=
  .ofEntries
    ⟨[([], .directory), ([⟨"w", isName_w⟩], .directory),
      ([⟨"w", isName_w⟩, ⟨"a", isName_a⟩], .file [0xFF, 120] 0o644)], by decide⟩
    40 (by decide) (by decide)

/-- `x` is to become `y`. -/
def latinPatch : PatchInput where
  workspace := "project"
  path := "a"
  oldText := ⟨[120], by decide⟩
  newText := [121]
  expectedOccurrences := none

/-- The first byte, which is not matched, becomes the three bytes of U+FFFD. -/
theorem patch_changes_other_byte :
    ¬ EditsMatches ⟨[projectWorkspace]⟩ latinTree latinPatch
      (handler calmHost ⟨[projectWorkspace]⟩ (.patch latinPatch) latinTree) := by
  intro h
  have hall := (@patch_editsMatches_iff calmHost ⟨[projectWorkspace]⟩ latinTree latinPatch).mp h
  obtain ⟨⟨chars, mode, hfile⟩, _, _⟩ := hall
    ⟨⟨projectWorkspace, [⟨"w", by decide⟩, ⟨"a", by decide⟩],
      [⟨"w", by decide⟩, ⟨"a", by decide⟩], true⟩, 0o644, [0xFFFD, 121], 1⟩ rfl
    ⟨⟨rfl, rfl⟩, fun _ => rfl, rfl, rfl⟩
  have hbytes : [0xFF, 120] = Utf8.encodeChars chars := by
    have hentry : some (Entry.file [0xFF, 120] 0o644) =
        some (.file (Utf8.encodeChars chars) mode) := hfile
    exact (Entry.file.inj (Option.some.inj hentry)).1
  have hread := Utf8.fatal_encodeChars chars
  rw [← hbytes] at hread
  revert hread
  exact nofun

end Doctmcp.Tools.FilesystemWrite

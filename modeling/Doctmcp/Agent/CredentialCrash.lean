import Doctmcp.Agent.CredentialFile

/-! # The file of the credential survives crashes -/

namespace Doctmcp.Agent.CredentialFile
open Doctmcp.Lib Doctmcp.Schemas PosixPath
set_option autoImplicit false

/-! ## The round trip -/

theorem mapM_id_some (chars : List Char) : (chars.map some).mapM id = some chars := by
  induction chars with
  | nil => rfl
  | cons c chars ih =>
    rw [List.map_cons, List.mapM_cons, ih]
    rfl

theorem stringOf_units (text : String) : stringOf (some (.string (Json.units text))) = some text := by
  unfold stringOf Json.units
  dsimp only
  rw [Utf16.decode_encode, mapM_id_some]
  exact congrArg some String.ofList_toList

theorem localDeviceCredentialSchema_values (parsed : LocalDeviceCredential) :
    localDeviceCredentialSchema ⟨parsed.deviceId.value, parsed.credential.val⟩ = some parsed := by
  unfold localDeviceCredentialSchema
  dsimp only
  rw [deviceIdSchema_value]
  dsimp only
  rw [dif_pos parsed.credential.property]

theorem reads_version : Json.Reads (Json.units "1") (.number 1) := by
  have hnumeral : Json.IsNumeral (Json.units "1") := by
    refine ⟨⟨0x31, [], rfl, by decide⟩, fun u hu => ?_⟩
    obtain rfl : u = 0x31 := List.mem_singleton.mp hu
    decide
  have hvalue : ((Json.digitsValue (Json.units "1") : ℕ) : ℚ) = 1 := by
    have hdigits : Json.digitsValue (Json.units "1") = 1 := by decide
    rw [hdigits, Nat.cast_one]
  have h := Json.reads_numeral hnumeral
  rwa [hvalue] at h

/-- The members of a written record as they are read. -/
def writtenMembers (parsed : LocalDeviceCredential) : List (Utf16.Text × Json.Value) :=
  [(Json.units "version", .number 1), (Json.units "deviceId", .string (Json.units parsed.deviceId.value)),
    (Json.units "credential", .string (Json.units parsed.credential.val))]

theorem persistedCredentialSchema_written (parsed : LocalDeviceCredential) :
    persistedCredentialSchema (.object (writtenMembers parsed)) = some parsed := by
  have hversion : Json.get? (writtenMembers parsed) (Json.units "version") = some (.number 1) := rfl
  have hdeviceId : Json.get? (writtenMembers parsed) (Json.units "deviceId") =
      some (.string (Json.units parsed.deviceId.value)) := rfl
  have hcredential : Json.get? (writtenMembers parsed) (Json.units "credential") =
      some (.string (Json.units parsed.credential.val)) := rfl
  have hone : isVersion (some (.number 1)) = true := by
    have h := Binary64.rounded_natCast (show 1 ≤ 2 ^ 53 by decide)
    rw [Nat.cast_one] at h
    exact decide_eq_true h
  have hkeys : (writtenMembers parsed).all (fun member => member.1 ∈
      [Json.units "deviceId", Json.units "credential", Json.units "version"]) = true := by
    simp [writtenMembers]
  unfold persistedCredentialSchema
  dsimp only
  rw [hkeys, hversion, hone, hdeviceId, hcredential, Bool.and_true, if_pos rfl, stringOf_units,
    stringOf_units]
  exact localDeviceCredentialSchema_values parsed

theorem reads_persistedMembers (parsed : LocalDeviceCredential) :
    List.Forall₂ Json.ReadsMember (persistedMembers parsed) (writtenMembers parsed) :=
  .cons ⟨rfl, reads_version⟩ (.cons ⟨rfl, Json.reads_quote _⟩ (.cons ⟨rfl, Json.reads_quote _⟩ .nil))

theorem wellFormed_persistedMembers (parsed : LocalDeviceCredential) :
    ∀ member ∈ persistedMembers parsed, Utf16.WellFormed member.2 := by
  simp only [persistedMembers, List.mem_cons, List.not_mem_nil, or_false, forall_eq_or_imp,
    forall_eq]
  exact ⟨⟨_, rfl⟩, Json.wellFormed_quote _, Json.wellFormed_quote _⟩

/-- What was written loads as it was. -/
theorem load_stringify (parsed : LocalDeviceCredential) :
    load (.ok (stringify parsed)) = .ok (some parsed) := by
  have hwellFormed := Json.wellFormed_stringifyObject (wellFormed_persistedMembers parsed)
  have hparse := Json.parse_stringifyObject (reads_persistedMembers parsed) (List.cons_ne_nil _ _)
  unfold load stringify
  dsimp only
  rw [Utf16.encode_lossy_utf8Bytes hwellFormed, hparse]
  dsimp only
  rw [persistedCredentialSchema_written]

namespace FileDeviceCredentialProvider
variable {p : FileDeviceCredentialProvider}

/-! ## The temporary path -/

theorem slash_not_mem_uuid (uuid : UuidV4) : '/' ∉ uuid.value.toList := by
  intro h
  obtain ⟨pattern, hpattern, hslash⟩ := JsString.fits_mem uuid.wellFormed '/' h
  rcases uuidV4Pattern_char hpattern hslash with hhex | hdash
  · exact absurd hhex (by decide)
  · exact absurd hdash (by decide)

/-- A temporary file is never the file of the credential. -/
theorem temporaryPath_ne (uuid : UuidV4) : p.temporaryPath uuid ≠ p.path := by
  obtain ⟨text, htext⟩ : ∃ text, text = "." ++ p.base.val ++ "." ++ uuid.value ++ ".tmp" := ⟨_, rfl⟩
  have hslash : '/' ∉ text.toList := by
    have hbase := p.base.property.2.2.2
    have huuid := slash_not_mem_uuid uuid
    rw [htext]
    simp only [String.toList_append, List.mem_append, not_or]
    exact ⟨⟨⟨⟨by decide, hbase⟩, by decide⟩, huuid⟩, by decide⟩
  have hjoin : p.temporaryPath uuid = push p.directory (component text) := by
    unfold temporaryPath join
    rw [← htext, components_segment hslash]
    rfl
  intro h
  have hlength := congrArg List.length (hjoin.symm.trans h)
  rw [hjoin] at h
  unfold path at h hlength
  cases hcomponent : component text with
  | here =>
    rw [hcomponent] at hlength
    simp [push] at hlength
  | up =>
    rw [hcomponent] at hlength
    simp [push] at hlength
  | name name =>
    rw [hcomponent] at h
    obtain rfl := List.singleton_inj.mp (List.append_cancel_left h)
    have hsize := congrArg (fun name : String => name.toList.length)
      ((component_eq_name hcomponent).trans htext)
    simp only [String.toList_append, List.length_append] at hsize
    have hdot : ".".toList.length = 1 := rfl
    omega

/-! ## One operation -/

/-- The files differ in this one at most. -/
def Alike (path : Path) (files files' : Files) : Prop :=
  ∀ other, other ≠ path → files'.get? other = files.get? other

theorem alike_set (path : Path) (files : Files) (content : List UInt8) :
    Alike path files (files.set path content) := fun _ h => files.get?_set_ne content h

theorem alike_delete (path : Path) (files : Files) : Alike path files (files.delete path) :=
  fun _ h => files.get?_delete_ne h

/-- Once it was written without a failure, the temporary file holds the whole record. -/
def Complete (files : Files) (call : Replacing) : Prop :=
  call.waits = .sync ∨ call.waits = .close false ∨ call.waits = .rename →
    files.get? call.temporaryPath = some (stringify call.parsed)

/-- How many operations may still settle. -/
def remaining : Operation → ℕ
  | .mkdir => 7
  | .openExclusive => 6
  | .writeFile => 5
  | .sync => 4
  | .close _ => 3
  | .rename => 2
  | .rm => 1

/-- What an operation that settles can do. -/
inductive Proceeds (p : FileDeviceCredentialProvider) (w : World) (call : Replacing) : World → Prop
  | awaits (files : Files) (next : Operation) (halike : Alike call.temporaryPath w.files files)
      (hcomplete : Complete files { call with waits := next })
      (hless : remaining next < remaining call.waits) :
      Proceeds p w call (await { w with files := files } call next)
  | replaces : Proceeds p w call (settle (p.move w call (stringify call.parsed)) ⟨.ok (), none⟩)
  | fails (files : Files) (removed : Bool) (halike : Alike call.temporaryPath w.files files)
      (hremoved : removed = true → files.get? call.temporaryPath = none) :
      Proceeds p w call
        (settle { w with files := files } ⟨.error .CREDENTIAL_STORAGE_FAILED, some removed⟩)

theorem proceed_cases {w : World} {call : Replacing} (h : Complete w.files call) (done : Bool)
    (written : ℕ) : Proceeds p w call (p.proceed w call done written) := by
  have hawait : ∀ next : Operation, Complete w.files { call with waits := next } →
      remaining next < remaining call.waits → Proceeds p w call (await w call next) :=
    fun next hcomplete hless => .awaits w.files next (fun _ _ => rfl) hcomplete hless
  have hset : ∀ (content : List UInt8) (next : Operation),
      Complete (w.files.set call.temporaryPath content) { call with waits := next } →
      remaining next < remaining call.waits →
      Proceeds p w call
        (await { w with files := w.files.set call.temporaryPath content } call next) :=
    fun content next hcomplete hless => .awaits _ next (alike_set _ _ _) hcomplete hless
  unfold proceed
  cases hwaits : call.waits with
  | mkdir => cases done <;> exact hawait _ nofun (by rw [hwaits]; decide)
  | openExclusive =>
    dsimp only
    split
    · exact hset _ _ nofun (by rw [hwaits]; decide)
    · exact hawait _ nofun (by rw [hwaits]; decide)
  | writeFile =>
    cases done with
    | false => exact hset _ _ nofun (by rw [hwaits]; decide)
    | true => exact hset _ _ (fun _ => w.files.get?_set_self _ _) (by rw [hwaits]; decide)
  | sync =>
    have hcontent := h (.inl hwaits)
    exact hawait _ (fun _ => hcontent) (by rw [hwaits]; exact Nat.lt_succ_self 3)
  | close failed =>
    have hless : ∀ next, remaining next < 3 → remaining next < remaining call.waits := by
      rw [hwaits]
      exact fun _ h => h
    cases done with
    | false => exact hawait .rm nofun (hless _ (by decide))
    | true =>
      cases failed with
      | false => exact hawait _ (fun _ => h (.inr (.inl hwaits))) (hless _ (by decide))
      | true => exact hawait _ nofun (hless _ (by decide))
  | rename =>
    dsimp only
    rw [h (.inr (.inr hwaits))]
    cases done with
    | false => exact hawait _ nofun (by rw [hwaits]; decide)
    | true => exact .replaces
  | rm =>
    cases done with
    | false => exact .fails w.files false (fun _ _ => rfl) nofun
    | true => exact .fails _ true (alike_delete _ _) fun _ => w.files.get?_delete_self _

/-! ## Every run -/

/-- The file holds the last credential whose rename took effect, and the running call writes
elsewhere. -/
structure Consistent (p : FileDeviceCredentialProvider) (w : World) : Prop where
  stored : w.files.get? p.path = w.committed.map stringify
  apart : ∀ call, w.running = some call → call.temporaryPath ≠ p.path
  complete : ∀ call, w.running = some call → Complete w.files call

theorem move_stored (w : World) (call : Replacing) :
    (p.move w call (stringify call.parsed)).files.get? p.path =
      (p.move w call (stringify call.parsed)).committed.map stringify :=
  OrderedMap.get?_set_self _ _ _

theorem Consistent.replace {w : World} (h : Consistent p w) (record : CredentialRecord)
    (uuid : UuidV4) : Consistent p (p.replace w record uuid) := by
  unfold FileDeviceCredentialProvider.replace
  split
  · exact ⟨h.stored, nofun, nofun⟩
  · refine ⟨h.stored, ?_, ?_⟩
    · rintro _ ⟨⟩
      exact temporaryPath_ne uuid
    · rintro _ ⟨⟩
      exact nofun

theorem Consistent.proceed {w : World} {call : Replacing} (h : Consistent p w)
    (hcall : w.running = some call) (done : Bool) (written : ℕ) :
    Consistent p (p.proceed w call done written) := by
  have hapart := h.apart call hcall
  have hcases := proceed_cases (p := p) (h.complete call hcall) done written
  generalize p.proceed w call done written = w' at hcases ⊢
  cases hcases with
  | awaits files next halike hcomplete hless =>
    refine ⟨(halike p.path hapart.symm).trans h.stored, ?_, ?_⟩
    · rintro _ ⟨⟩
      exact hapart
    · rintro _ ⟨⟩
      exact hcomplete
  | replaces => exact ⟨move_stored w call, nofun, nofun⟩
  | fails files removed halike hremoved =>
    exact ⟨(halike p.path hapart.symm).trans h.stored, nofun, nofun⟩

/-- A crash leaves the file as it was, or the rename took effect. -/
theorem abandon_stored {w : World} {call : Replacing} (h : Consistent p w)
    (hcall : w.running = some call) (left : Option (List UInt8)) (renamed : Bool) :
    (p.abandon w call left renamed).files.get? p.path =
      (p.abandon w call left renamed).committed.map stringify := by
  have hleft : (leave w call left).files.get? p.path = (leave w call left).committed.map stringify := by
    have hapart := (h.apart call hcall).symm
    cases left with
    | none => exact (w.files.get?_delete_ne hapart).trans h.stored
    | some bytes => exact (w.files.get?_set_ne bytes hapart).trans h.stored
  unfold abandon
  cases hwaits : call.waits with
  | mkdir => exact h.stored
  | rename =>
    dsimp only
    rw [h.complete call hcall (.inr (.inr hwaits))]
    cases renamed with
    | false => exact h.stored
    | true => exact move_stored w call
  | openExclusive | writeFile | sync | close failed | rm => exact hleft

theorem Consistent.step {w : World} (h : Consistent p w) (e : Event) : Consistent p (p.step w e) := by
  unfold FileDeviceCredentialProvider.step
  cases e with
  | replace record uuid =>
    dsimp only
    split
    · exact h.replace record uuid
    · exact h
  | settled done written =>
    dsimp only
    split
    · exact h
    · next call hcall => exact h.proceed hcall done written
  | crash left renamed =>
    dsimp only
    split
    · exact h
    · next call hcall => exact ⟨abandon_stored h hcall left renamed, nofun, nofun⟩

theorem Consistent.run {w : World} (h : Consistent p w) (es : List Event) :
    Consistent p (runFrom p.step w es) :=
  runFrom_invariant (P := Consistent p) (fun _ e hs => hs.step e) h es

theorem Consistent.loaded {w : World} (h : Consistent p w) : p.loaded w = .ok w.committed := by
  unfold FileDeviceCredentialProvider.loaded readFile
  rw [h.stored]
  cases w.committed with
  | none => rfl
  | some parsed => exact load_stringify parsed

/-! ## One call -/

/-- Where a call stands that no crash ended. -/
inductive Follows (before w : World) (parsed : LocalDeviceCredential) (temporaryPath : Path) : Prop
  | running (call : Replacing) (hcall : w.running = some call) (hparsed : call.parsed = parsed)
      (htemporary : call.temporaryPath = temporaryPath) (houtcomes : w.outcomes = before.outcomes)
      (halike : Alike temporaryPath before.files w.files)
  | replaced (hidle : w.running = none)
      (houtcomes : w.outcomes = before.outcomes ++ [⟨.ok (), none⟩])
      (hcommitted : w.committed = some parsed)
  | failed (removed : Bool) (hidle : w.running = none)
      (houtcomes : w.outcomes =
        before.outcomes ++ [⟨.error .CREDENTIAL_STORAGE_FAILED, some removed⟩])
      (halike : Alike temporaryPath before.files w.files)
      (hremoved : removed = true → w.files.get? temporaryPath = none)

theorem step_settled_idle {w : World} (h : w.running = none) (done : Bool) (written : ℕ) :
    p.step w (.settled done written) = w := by
  unfold FileDeviceCredentialProvider.step
  dsimp only
  rw [h]

theorem step_settled_running {w : World} {call : Replacing} (h : w.running = some call)
    (done : Bool) (written : ℕ) :
    p.step w (.settled done written) = p.proceed w call done written := by
  unfold FileDeviceCredentialProvider.step
  dsimp only
  rw [h]

theorem Follows.step {before w : World} {parsed : LocalDeviceCredential} {temporaryPath : Path}
    (h : Follows before w parsed temporaryPath) (hw : Consistent p w) (done : Bool) (written : ℕ) :
    Follows before (p.step w (.settled done written)) parsed temporaryPath := by
  cases h with
  | replaced hidle houtcomes hcommitted =>
    rw [step_settled_idle hidle]
    exact .replaced hidle houtcomes hcommitted
  | failed removed hidle houtcomes halike hremoved =>
    rw [step_settled_idle hidle]
    exact .failed removed hidle houtcomes halike hremoved
  | running call hcall hparsed htemporary houtcomes halike =>
    rw [step_settled_running hcall]
    have hcases := proceed_cases (p := p) (hw.complete call hcall) done written
    generalize p.proceed w call done written = w' at hcases ⊢
    subst hparsed htemporary
    cases hcases with
    | awaits files next halike' =>
      exact .running { call with waits := next } rfl rfl rfl houtcomes
        fun other hother => (halike' other hother).trans (halike other hother)
    | replaces => exact .replaced rfl (congrArg (· ++ _) houtcomes) rfl
    | fails files removed halike' hremoved =>
      exact .failed removed rfl (congrArg (· ++ _) houtcomes)
        (fun other hother => (halike' other hother).trans (halike other hother)) hremoved

/-- The operations of a call settle one after the other. -/
def settlements (operations : List (Bool × ℕ)) : List Event :=
  operations.map fun operation => .settled operation.1 operation.2

theorem follows_run {before w : World} {parsed : LocalDeviceCredential} {temporaryPath : Path}
    (h : Follows before w parsed temporaryPath) (hw : Consistent p w) (operations : List (Bool × ℕ)) :
    Follows before (runFrom p.step w (settlements operations)) parsed temporaryPath := by
  induction operations generalizing w with
  | nil => exact h
  | cons operation operations ih =>
    exact ih (h.step hw operation.1 operation.2) (hw.step (.settled operation.1 operation.2))

/-- A call settles once as many operations did as it may wait for. -/
theorem settles_within {w : World} (hw : Consistent p w) (operations : List (Bool × ℕ))
    (h : ∀ call, w.running = some call → remaining call.waits ≤ operations.length) :
    (runFrom p.step w (settlements operations)).running = none := by
  induction operations generalizing w with
  | nil =>
    cases hrunning : w.running with
    | none => exact hrunning
    | some call =>
      have hzero := h call hrunning
      have hpos : 0 < remaining call.waits := by cases call.waits <;> exact Nat.succ_pos _
      exact absurd hzero (Nat.not_le.mpr hpos)
  | cons operation operations ih =>
    refine ih (hw.step (.settled operation.1 operation.2)) fun next hnext => ?_
    cases hrunning : w.running with
    | none =>
      rw [step_settled_idle hrunning, hrunning] at hnext
      cases hnext
    | some call =>
      have hcases := proceed_cases (p := p) (hw.complete call hrunning) operation.1 operation.2
      rw [step_settled_running hrunning] at hnext
      generalize p.proceed w call operation.1 operation.2 = w' at hcases hnext
      cases hcases with
      | awaits files waits halike hcomplete hless =>
        cases hnext
        have hlength := h call hrunning
        rw [List.length_cons] at hlength
        show remaining waits ≤ operations.length
        omega
      | replaces => cases hnext
      | fails files removed halike hremoved => cases hnext

/-! ## The credential file -/

/-- What a settled call left, by its outcome. -/
def Leaves (p : FileDeviceCredentialProvider) (before after : World) (record : CredentialRecord)
    (uuid : UuidV4) (outcome : Outcome) : Prop :=
  match outcome.result with
  | .ok () =>
    ∃ parsed, parseCredentialRecord record = .ok parsed ∧ after.committed = some parsed ∧
      p.loaded after = .ok (some parsed)
  | .error .INVALID_CREDENTIAL_RECORD =>
    parseCredentialRecord record = .error .INVALID_CREDENTIAL_RECORD ∧ after.files = before.files
  | .error .CREDENTIAL_STORAGE_FAILED =>
    p.loaded after = p.loaded before ∧ Alike (p.temporaryPath uuid) before.files after.files ∧
      ∃ removed, outcome.removed = some removed ∧
        (removed = true → after.files.get? (p.temporaryPath uuid) = none)
  | .error .CREDENTIAL_STORAGE_INVALID => False

theorem Follows.leaves {before after : World} {parsed : LocalDeviceCredential}
    {record : CredentialRecord} {uuid : UuidV4}
    (h : Follows before after parsed (p.temporaryPath uuid)) (hafter : Consistent p after)
    (hparsed : parseCredentialRecord record = .ok parsed) (hidle : after.running = none) :
    ∃ outcome, after.outcomes = before.outcomes ++ [outcome] ∧
      Leaves p before after record uuid outcome := by
  cases h with
  | running call hcall =>
    rw [hidle] at hcall
    cases hcall
  | replaced _ houtcomes hcommitted =>
    refine ⟨_, houtcomes, parsed, hparsed, hcommitted, ?_⟩
    rw [hafter.loaded, hcommitted]
  | failed removed _ houtcomes halike hremoved =>
    refine ⟨_, houtcomes, ?_, halike, removed, rfl, hremoved⟩
    unfold FileDeviceCredentialProvider.loaded readFile
    rw [halike p.path (temporaryPath_ne uuid).symm]

/-- A world that a run from these files reaches. -/
def Reachable (p : FileDeviceCredentialProvider) (files : Files) (w : World) : Prop :=
  ∃ es, runFrom p.step (World.start files) es = w

/-- The world after a call some of whose operations settled, without a crash. -/
def called (p : FileDeviceCredentialProvider) (w : World) (record : CredentialRecord) (uuid : UuidV4)
    (operations : List (Bool × ℕ)) : World :=
  runFrom p.step (p.step w (.replace record uuid)) (settlements operations)

theorem consistent_start {files : Files} (hnone : files.get? p.path = none) :
    Consistent p (World.start files) := ⟨hnone, nofun, nofun⟩

theorem Reachable.consistent {files : Files} {w : World} (h : p.Reachable files w)
    (hnone : files.get? p.path = none) : Consistent p w := by
  obtain ⟨es, rfl⟩ := h
  exact (consistent_start hnone).run es

theorem parse_cases (record : CredentialRecord) :
    parseCredentialRecord record = .error .INVALID_CREDENTIAL_RECORD ∨
      ∃ parsed, parseCredentialRecord record = .ok parsed := by
  unfold parseCredentialRecord
  split
  · exact .inl rfl
  · exact .inr ⟨_, rfl⟩

theorem step_replace_idle {w : World} (h : w.running = none) (record : CredentialRecord)
    (uuid : UuidV4) : p.step w (.replace record uuid) = p.replace w record uuid := by
  unfold FileDeviceCredentialProvider.step
  dsimp only
  rw [h]

theorem run_settlements_idle {w : World} (h : w.running = none) (operations : List (Bool × ℕ)) :
    runFrom p.step w (settlements operations) = w := by
  induction operations with
  | nil => rfl
  | cons operation operations ih =>
    show runFrom p.step (p.step w _) (settlements operations) = w
    rw [step_settled_idle h, ih]

theorem called_leaves {w : World} (hw : Consistent p w) (hidle : w.running = none)
    (record : CredentialRecord) (uuid : UuidV4) (operations : List (Bool × ℕ))
    (hsettled : (p.called w record uuid operations).running = none) :
    ∃ outcome, (p.called w record uuid operations).outcomes = w.outcomes ++ [outcome] ∧
      Leaves p w (p.called w record uuid operations) record uuid outcome := by
  have hafter : Consistent p (p.called w record uuid operations) := (hw.step _).run _
  have hcalled := hw.step (.replace record uuid)
  rcases parse_cases record with hrefused | ⟨parsed, hparsed⟩
  · have hreplace : p.replace w record uuid =
        settle w ⟨.error .INVALID_CREDENTIAL_RECORD, none⟩ := by
      unfold FileDeviceCredentialProvider.replace
      rw [hrefused]
    unfold called
    rw [step_replace_idle hidle, hreplace, run_settlements_idle rfl]
    exact ⟨_, rfl, hrefused, rfl⟩
  · have hfollows : Follows w (p.step w (.replace record uuid)) parsed (p.temporaryPath uuid) := by
      rw [step_replace_idle hidle]
      unfold FileDeviceCredentialProvider.replace
      rw [hparsed]
      exact .running _ rfl rfl rfl rfl fun _ _ => rfl
    exact (follows_run hfollows hcalled operations).leaves hafter hparsed hsettled

theorem called_settles {w : World} (hw : Consistent p w) (hidle : w.running = none)
    (record : CredentialRecord) (uuid : UuidV4) (operations : List (Bool × ℕ))
    (h : 7 ≤ operations.length) : (p.called w record uuid operations).running = none := by
  refine settles_within (hw.step _) operations fun call hcall => ?_
  rw [step_replace_idle hidle] at hcall
  unfold FileDeviceCredentialProvider.replace at hcall
  split at hcall
  · cases hcall
  · cases hcall
    exact h

/-- From a path without a file, through every run of calls, failures and crashes: the file loads as
the credential of the last rename that took effect. A call that no crash ends settles once, with the
credential it was given or without a trace. -/
theorem credentialFile_crashSafe (p : FileDeviceCredentialProvider) (files : Files)
    (hnone : files.get? p.path = none) (w : World) (hw : p.Reachable files w) :
    p.loaded w = .ok w.committed ∧
      ∀ record uuid operations, w.running = none →
        (7 ≤ operations.length → (p.called w record uuid operations).running = none) ∧
        ((p.called w record uuid operations).running = none →
          ∃ outcome, (p.called w record uuid operations).outcomes = w.outcomes ++ [outcome] ∧
            Leaves p w (p.called w record uuid operations) record uuid outcome) :=
  have hconsistent := hw.consistent hnone
  ⟨hconsistent.loaded, fun record uuid operations hidle =>
    ⟨called_settles hconsistent hidle record uuid operations,
      called_leaves hconsistent hidle record uuid operations⟩⟩

/-- A crash while a second record is written leaves a torn temporary file, and the first record. -/
theorem credentialFile_crashSafe_torn :
    let p : FileDeviceCredentialProvider := ⟨[], "credential.json", by decide⟩
    let deviceId := "DE01CE00-0000-4000-8000-000000000000"
    let w := runFrom p.step (World.start .empty)
      [.replace ⟨deviceId, "".pushn 'a' 43⟩
          ⟨"00000000-0000-4000-8000-000000000001", by decide, by decide⟩,
        .settled true 0, .settled true 0, .settled true 0, .settled true 0, .settled true 0,
        .settled true 0,
        .replace ⟨deviceId, "".pushn 'b' 43⟩
          ⟨"00000000-0000-4000-8000-000000000002", by decide, by decide⟩,
        .settled true 0, .settled true 0, .crash (some [0x7B]) false]
    p.loaded w = .ok w.committed ∧
      w.committed.map (fun stored => stored.credential.val) = some ("".pushn 'a' 43) :=
  ⟨(credentialFile_crashSafe _ .empty rfl _ ⟨_, rfl⟩).1, by decide +kernel⟩

end FileDeviceCredentialProvider
end Doctmcp.Agent.CredentialFile

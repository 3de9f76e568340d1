import Doctmcp.Tools.Searching

/-! # What `list` and `search` show

The place of an entry is the canonical path that its traversal carries, so the deny check of the
entry is a check of the place where it really is. -/

namespace Doctmcp.Tools.FilesystemRead
open Doctmcp.Lib Doctmcp.Lib.PosixPath
set_option autoImplicit false

/-- The place may be shown: it is inside the root and outside every deny subtree. -/
def Exposable (workspace : WorkspaceMetadata) (place : Path) : Prop :=
  workspace.root <+: place ∧ ∀ denyPath ∈ workspace.deny, ¬ join workspace.root denyPath <+: place

theorem isDenied_eq_false_iff {workspace : WorkspaceMetadata} {place : Path} :
    isDenied workspace place = false ↔
      ∀ denyPath ∈ workspace.deny, ¬ join workspace.root denyPath <+: place := by
  unfold isDenied
  rw [List.any_eq_false]
  simp only [isPathInside_iff]

theorem linkAllowed_iff {workspace : WorkspaceMetadata} {target : Path} :
    linkAllowed workspace target = true ↔ Exposable workspace target := by
  unfold linkAllowed Exposable
  rw [Bool.and_eq_true, isPathInside_iff, Bool.not_eq_true', isDenied_eq_false_iff]

/-! ## The target -/

/-- What both actions know of their target. -/
structure Target (fs : FileSystem) (registry : WorkspaceRegistry) (workspaceId text : String)
    (o : Origin) (e : Entry) : Prop where
  workspace : registry.get workspaceId = some o.workspace
  operation : o.operationPath = join o.workspace.root text
  below : o.workspace.root <+: o.operationPath
  realpath : fs.realpath o.operationPath = some o.canonicalPath
  entry : fs.entry o.canonicalPath = some e
  exposable : Exposable o.workspace o.canonicalPath

section Target
variable {host : Host} {registry : WorkspaceRegistry} {workspaceId : String} {path : Option String}

theorem target_of_resolves {fs : FileSystem} {text : String} {resolved : ResolvedWorkspacePath}
    {e : Entry} (h : Resolves fs registry workspaceId text (some .read) resolved)
    (hexists : resolved.pathExists = true) (hstat : fs.stat resolved.operationPath = some e) :
    Target fs registry workspaceId text
      ⟨resolved.workspace, resolved.operationPath, resolved.canonicalPath⟩ e := by
  obtain ⟨hreal, hinside⟩ := h.found (by simp) hexists
  refine ⟨h.workspace, h.operation, ?_, hreal, ?_, hinside, ?_⟩
  · rw [h.operation]
    exact prefix_join h.safe _
  · unfold FileSystem.stat at hstat
    rw [hreal] at hstat
    exact hstat
  · intro denyPath hdeny
    exact (not_denied h.allowed hdeny).1.2

theorem listStart_ok {recursive : Option Bool} {limit : Option (Between 1 1000)}
    {maxDepth : Option (Between 1 10)} {r : ListRequest} {start : QueueItem}
    (h : listStart host registry workspaceId path recursive limit maxDepth = .ok (r, start)) :
    Target host.fs registry workspaceId (relativeTarget path) (r.origin start) .directory ∧
      start = (r.origin start).item [] ∧ r.limit = (limit.map Subtype.val).getD 200 ∧
      r.maxDepth = (maxDepth.map Subtype.val).getD 5 ∧ r.isRecursive = recursive.getD false := by
  unfold listStart at h
  dsimp only at h
  cases hresolved : resolvePath host.fs registry workspaceId (relativeTarget path) (some .read) with
  | error error =>
    rw [hresolved] at h
    cases h
  | ok resolved =>
    rw [hresolved] at h
    simp only [bind, Except.bind] at h
    split at h
    · cases h
    · next hexists =>
      rw [Bool.not_eq_true', Bool.not_eq_false] at hexists
      split at h
      · cases h
      · next hstat =>
        cases h
        refine ⟨target_of_resolves (resolvePath_ok hresolved) hexists hstat, ?_, rfl, rfl, rfl⟩
        simp [Origin.item, ListRequest.origin]
      · cases h

theorem searchStart_ok {query : Utf16.Text} {maxResults : Option (Between 1 200)}
    {r : SearchRequest} {e : Entry} {start : QueueItem}
    (h : searchStart host registry workspaceId path query maxResults = .ok (r, e, start)) :
    Target host.fs registry workspaceId (relativeTarget path) (r.origin start) e ∧
      start = (r.origin start).item [] ∧ r.query = query ∧
      r.maxResults = (maxResults.map Subtype.val).getD 50 := by
  unfold searchStart at h
  dsimp only at h
  cases hresolved : resolvePath host.fs registry workspaceId (relativeTarget path) (some .read) with
  | error error =>
    rw [hresolved] at h
    cases h
  | ok resolved =>
    rw [hresolved] at h
    simp only [bind, Except.bind] at h
    split at h
    · cases h
    · next hexists =>
      rw [Bool.not_eq_true', Bool.not_eq_false] at hexists
      split at h
      · cases h
      · next e hstat =>
        cases h
        refine ⟨target_of_resolves (resolvePath_ok hresolved) hexists hstat, ?_, rfl, rfl⟩
        simp [Origin.item, SearchRequest.origin]

end Target

/-! ## Entries -/

section Entries
variable {host : Host} {registry : WorkspaceRegistry} {workspaceId text : String} {o : Origin}
  {path : Path}

theorem Target.resolved (h : Target host.fs registry workspaceId text o .directory) :
    o.Resolved host.fs := ⟨h.realpath, h.entry⟩

theorem Target.join_relative (h : Target host.fs registry workspaceId text o .directory) (path : Path) :
    join o.workspace.root (relative o.workspace.root (o.operationPath ++ path)) =
      o.operationPath ++ path :=
  PosixPath.join_relative (h.below.trans (List.prefix_append _ _))

/-- An entry that is not hidden is in a place that may be shown. -/
theorem Target.place_exposable (h : Target host.fs registry workspaceId text o .directory)
    (hshown : o.hidden path = false) : Exposable o.workspace (o.canonicalPath ++ path) := by
  refine ⟨h.exposable.1.trans (List.prefix_append _ _), ?_⟩
  unfold Origin.hidden at hshown
  rw [Bool.or_eq_false_iff] at hshown
  exact isDenied_eq_false_iff.mp hshown.2

/-- Where the path of an entry leads, if it resolves: for a link the code has checked the target,
and anything else is in its own place. -/
theorem Target.target_exposable (h : Target host.fs registry workspaceId text o .directory)
    (hpath : Reachable (o.directories host) path) {name : Name} {e : Entry}
    (hentry : (name, e) ∈ o.dirents host path) (hshown : o.hidden (path ++ [name]) = false)
    (hlink : ∀ link, e = .symlink link → ∀ target,
      host.fs.realpath (o.operationPath ++ (path ++ [name])) = some target →
        linkAllowed o.workspace target = true)
    {target : Path}
    (hreal : host.fs.realpath (o.operationPath ++ (path ++ [name])) = some target) :
    Exposable o.workspace target := by
  obtain ⟨_, hplace⟩ := (h.resolved.mem_dirents_iff hpath).mp hentry
  cases hsymlink : e.isSymbolicLink with
  | true =>
    cases e with
    | symlink link => exact linkAllowed_iff.mp (hlink link rfl target hreal)
    | file _ _ => cases hsymlink
    | directory => cases hsymlink
    | other => cases hsymlink
  | false =>
    rw [← List.append_assoc] at hplace hreal
    rw [FileSystem.realpath_concat (h.resolved.reachable hpath).1 hplace hsymlink] at hreal
    cases hreal
    rw [List.append_assoc]
    exact h.place_exposable hshown

theorem Shows.exposed {r : ListRequest} (ho : o.workspace = r.workspace)
    (h : Target host.fs registry workspaceId text o .directory) {entry : ListEntry}
    (hshows : Shows host r o entry) :
    ∃ directory, host.fs.location (join o.workspace.root entry.path) =
        some (directory ++ [entry.name]) ∧
      Exposable o.workspace (directory ++ [entry.name]) ∧
      ∀ target, host.fs.realpath (join o.workspace.root entry.path) = some target →
        Exposable o.workspace target := by
  obtain ⟨path, ⟨name, e⟩, hpath, hentry, hsome⟩ := hshows
  have hreach := hpath.mono (r.children_subset host o)
  unfold ListRequest.shown at hsome
  split at hsome
  · cases hsome
  · next hshown =>
    rw [Bool.not_eq_true] at hshown
    obtain ⟨⟨type, size⟩, htype, rfl⟩ := Option.map_eq_some_iff.mp hsome
    dsimp only at hshown htype ⊢
    rw [← ho, h.join_relative]
    refine ⟨o.canonicalPath ++ path, ?_, ?_, ?_⟩
    · rw [← List.append_assoc, FileSystem.location_concat, (h.resolved.reachable hreach).1]
      rfl
    · rw [List.append_assoc]
      exact h.place_exposable hshown
    · intro target hreal
      refine h.target_exposable hreach hentry hshown ?_ hreal
      rintro link rfl target' hreal'
      unfold listedType at htype
      rw [hreal'] at htype
      dsimp only at htype
      rw [ho]
      split at htype
      · next hallowed => exact hallowed
      · cases htype

theorem LooksInto.exposed {r : SearchRequest} (ho : o.workspace = r.workspace)
    (h : Target host.fs registry workspaceId text o .directory) {file : Path}
    (hlooks : LooksInto host r o file) :
    ∃ real, host.fs.realpath file = some real ∧ Exposable o.workspace real := by
  obtain ⟨path, ⟨name, e⟩, hpath, hentry, hsome⟩ := hlooks
  obtain ⟨_, hplace⟩ := (h.resolved.mem_dirents_iff hpath).mp hentry
  unfold SearchRequest.file? at hsome
  split at hsome
  · cases hsome
  · next hshown =>
    rw [Bool.not_eq_true] at hshown
    dsimp only at hshown hsome
    split at hsome
    · next content mode =>
      cases hsome
      have hreal : host.fs.realpath (o.operationPath ++ (path ++ [name])) =
          some (o.canonicalPath ++ (path ++ [name])) := by
        rw [← List.append_assoc] at hplace ⊢
        rw [FileSystem.realpath_concat (h.resolved.reachable hpath).1 hplace rfl, List.append_assoc]
      exact ⟨_, hreal, h.place_exposable hshown⟩
    · next link =>
      split at hsome
      · next target content mode hreal _ =>
        split at hsome
        · next hallowed =>
          cases hsome
          exact ⟨target, hreal, ho ▸ linkAllowed_iff.mp hallowed⟩
        · cases hsome
      · cases hsome
    · cases hsome

end Entries

/-! ## The actions -/

section Actions
variable (host : Host) (registry : WorkspaceRegistry) (workspaceId : String) (path : Option String)

theorem getD_pos {max default : ℕ} (limit : Option (Between 1 max)) (h : 0 < default) :
    0 < (limit.map Subtype.val).getD default := by
  cases limit with
  | none => exact h
  | some limit => exact limit.2.1

theorem list_exposed (recursive : Option Bool) (limit : Option (Between 1 1000))
    (maxDepth : Option (Between 1 10)) :
    ∃ answer, (∀ rounds, host.fs.entries.size < rounds →
        list host rounds registry workspaceId path recursive limit maxDepth = some answer) ∧
      ∀ result, answer = .ok result → ∀ entry ∈ result.entries, ∃ workspace directory,
        registry.get workspaceId = some workspace ∧
        host.fs.location (join workspace.root entry.path) = some (directory ++ [entry.name]) ∧
        Exposable workspace (directory ++ [entry.name]) ∧
        ∀ target, host.fs.realpath (join workspace.root entry.path) = some target →
          Exposable workspace target := by
  cases hstart : listStart host registry workspaceId path recursive limit maxDepth with
  | error error =>
    refine ⟨.error error, fun rounds _ => ?_, nofun⟩
    unfold list
    rw [hstart]
  | ok started =>
    obtain ⟨r, start⟩ := started
    obtain ⟨htarget, hitem, hlimit, _⟩ := listStart_ok hstart
    have hprogress := @ListProgress.start r host (r.origin start) (by
      rw [hlimit]
      exact getD_pos limit (by decide))
    rw [← hitem] at hprogress
    obtain ⟨answer, hanswer⟩ := listLoop_terminates rfl htarget.resolved hprogress
      (Nat.lt_of_lt_of_le (Nat.lt_succ_self host.fs.entries.size) (Nat.le_add_left _ _))
    refine ⟨answer.map fun s => ⟨relativeTarget path, s.entries, s.truncated⟩, ?_, ?_⟩
    · intro rounds hrounds
      unfold list
      rw [hstart]
      dsimp only
      rw [listLoop_more hanswer hrounds]
      rfl
    · intro result hresult entry hentry
      cases answer with
      | error error => cases hresult
      | ok s =>
        cases hresult
        have hshows : Shows host r (r.origin start) entry := by
          rcases listLoop_ok rfl hprogress hanswer with ⟨all, hall⟩ | ⟨_, _, hshows⟩
          · exact hall.shows entry hentry
          · exact hshows entry hentry
        obtain ⟨directory, hexposed⟩ := hshows.exposed rfl htarget
        exact ⟨r.workspace, directory, htarget.workspace, hexposed⟩

theorem search_exposed (query : Utf16.Text) (maxResults : Option (Between 1 200)) :
    ∃ answer, (∀ rounds, host.fs.entries.size < rounds →
        search host rounds registry workspaceId path query maxResults = some answer) ∧
      ∀ file ∈ openedFiles SearchResult.opened answer, ∃ workspace real,
        registry.get workspaceId = some workspace ∧ host.fs.realpath file = some real ∧
          Exposable workspace real := by
  cases hstart : searchStart host registry workspaceId path query maxResults with
  | error error =>
    refine ⟨.error ⟨error, []⟩, fun rounds _ => ?_, nofun⟩
    unfold search
    rw [hstart]
  | ok started =>
    obtain ⟨r, e, start⟩ := started
    obtain ⟨htarget, hitem, _, hmax⟩ := searchStart_ok hstart
    have hroom : 0 < r.maxResults := by
      rw [hmax]
      exact getD_pos maxResults (by decide)
    cases e with
    | file content mode =>
      refine ⟨_, fun rounds _ => by unfold search; rw [hstart], ?_⟩
      have hopened := @searchFile_opened host r start.operationPath ⟨[], [], false, 0, 0, []⟩
        (fun file => file = start.operationPath) nofun rfl
      intro file hfile
      have hsame : file = start.operationPath := by
        cases hscan : searchFile host r start.operationPath ⟨[], [], false, 0, 0, []⟩ with
        | error failure =>
          rw [hscan] at hopened hfile
          exact hopened file hfile
        | ok result =>
          rw [hscan] at hopened hfile
          exact hopened file hfile
      rw [hsame]
      exact ⟨r.workspace, start.canonicalPath, htarget.workspace, htarget.realpath,
        htarget.exposable⟩
    | directory =>
      have hprogress := SearchProgress.start host (r.origin start) hroom
      rw [← hitem] at hprogress
      obtain ⟨answer, hanswer⟩ := searchLoop_terminates rfl htarget.resolved hprogress
        (Nat.lt_of_lt_of_le (Nat.lt_succ_self host.fs.entries.size) (Nat.le_add_left _ _))
      refine ⟨answer.map fun s => s.result r, ?_, ?_⟩
      · intro rounds hrounds
        unfold search
        rw [hstart]
        dsimp only
        rw [searchLoop_more hanswer hrounds]
        rfl
      · intro file hfile
        have hlooks : LooksInto host r (r.origin start) file := by
          have hopened := searchLoop_opened rfl hprogress nofun hanswer
          cases answer with
          | error failure => exact hopened file hfile
          | ok s => exact hopened file hfile
        obtain ⟨real, hreal, hexposable⟩ := hlooks.exposed rfl htarget
        exact ⟨r.workspace, real, htarget.workspace, hreal, hexposable⟩
    | symlink link =>
      refine ⟨_, fun rounds _ => by unfold search; rw [hstart], ?_⟩
      intro file hfile
      cases hfile
    | other =>
      refine ⟨_, fun rounds _ => by unfold search; rw [hstart], ?_⟩
      intro file hfile
      cases hfile

/-- Both actions end on every tree, however its links lead. Whatever `list` shows is really inside the
root and outside every deny subtree, and so is what it leads to; whatever `search` opens, even in a
call that throws, is a file in such a place. -/
theorem traversals_exposed :
    (∀ recursive limit maxDepth, ∃ answer,
      (∀ rounds, host.fs.entries.size < rounds →
        list host rounds registry workspaceId path recursive limit maxDepth = some answer) ∧
      ∀ result, answer = .ok result → ∀ entry ∈ result.entries, ∃ workspace directory,
        registry.get workspaceId = some workspace ∧
        host.fs.location (join workspace.root entry.path) = some (directory ++ [entry.name]) ∧
        Exposable workspace (directory ++ [entry.name]) ∧
        ∀ target, host.fs.realpath (join workspace.root entry.path) = some target →
          Exposable workspace target) ∧
    ∀ query maxResults, ∃ answer,
      (∀ rounds, host.fs.entries.size < rounds →
        search host rounds registry workspaceId path query maxResults = some answer) ∧
      ∀ file ∈ openedFiles SearchResult.opened answer, ∃ workspace real,
        registry.get workspaceId = some workspace ∧ host.fs.realpath file = some real ∧
          Exposable workspace real :=
  ⟨list_exposed host registry workspaceId path, search_exposed host registry workspaceId path⟩

end Actions

end Doctmcp.Tools.FilesystemRead

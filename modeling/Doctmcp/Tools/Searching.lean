import Doctmcp.Tools.Listing

/-! # The run of `search`

What the action finds in a file does not depend on what it has found before: as long as no bound of
the call is reached, every entry of a directory adds its own matches. -/

namespace Doctmcp.Tools.FilesystemRead
open Doctmcp.Lib Doctmcp.Lib.PosixPath
set_option autoImplicit false

/-- The size that `stat` gives for a file. -/
def Host.size (host : Host) (path : Path) : ℕ :=
  match host.fs.stat path with
  | some (.file content _) => content.length
  | _ => 0

/-- The text of a file that is looked into. -/
def Host.searched (host : Host) (path : Path) : Option String :=
  match host.fs.stat path with
  | some (.file content _) =>
    if MAX_SEARCH_FILE_SIZE < content.length then none
    else
      (host.openFile path).bind fun opened =>
        let buffer := host.fill opened.1 opened.2 0 content.length
        if isBinaryBuffer buffer then none else textDecode buffer
  | _ => none

namespace SearchRequest

def origin (r : SearchRequest) (start : QueueItem) : Origin :=
  ⟨r.workspace, start.operationPath, start.canonicalPath⟩

/-- The matches among the lines of a file, from the line of index `i` on. -/
def lineMatches (r : SearchRequest) (relPath : String) (i : ℕ) (lines : List (List Char)) :
    List Match :=
  (lines.zipIdx i).filterMap fun line =>
    if Utf16.includes (Utf16.encode line.1) r.query then
      some ⟨relPath, line.2 + 1, (Utf16.encode line.1).take MAX_SEARCH_LINE_PREVIEW⟩
    else none

/-- The matches of a file. -/
def fileMatches (r : SearchRequest) (host : Host) (filePath : Path) : List Match :=
  match host.searched filePath with
  | some text =>
    r.lineMatches (relative r.workspace.root filePath) 0 (splitLines text.toList)
  | none => []

/-- The file that the action looks into for an entry. -/
def file? (r : SearchRequest) (host : Host) (o : Origin) (path : Path) (dirent : Name × Entry) :
    Option Path :=
  if o.hidden (path ++ [dirent.1]) then none
  else
    let full := o.operationPath ++ (path ++ [dirent.1])
    match dirent.2 with
    | .file _ _ => some full
    | .symlink _ =>
      match host.fs.realpath full, host.fs.stat full with
      | some target, some (.file _ _) => if linkAllowed r.workspace target then some full else none
      | _, _ => none
    | _ => none

/-- The entry is a link, and the abort check before its file throws. -/
def swallowed (host : Host) (o : Origin) (path : Path) (dirent : Name × Entry) : Bool :=
  dirent.2.isSymbolicLink && host.aborted (.file (o.operationPath ++ (path ++ [dirent.1])))

/-- The matches that the action adds for an entry. -/
def entryMatches (r : SearchRequest) (host : Host) (o : Origin) (path : Path)
    (dirent : Name × Entry) : List Match :=
  match r.file? host o path dirent with
  | some full => if swallowed host o path dirent then [] else r.fileMatches host full
  | none => []

/-- What the action queues for an entry. -/
def queued (o : Origin) (path : Path) (dirent : Name × Entry) : Option QueueItem :=
  if dirent.2 = .directory ∧ o.hidden (path ++ [dirent.1]) = false then
    some (o.item (path ++ [dirent.1]))
  else none

end SearchRequest

/-- The bounds of a call. -/
structure Within (host : Host) (r : SearchRequest) (s : SearchState) : Prop where
  found : s.found.length ≤ r.maxResults
  counted : s.opened.length ≤ s.filesScanned
  files : s.filesScanned ≤ MAX_SEARCH_FILES
  sizes : (s.opened.map host.size).sum ≤ s.totalBytesScanned
  bytes : s.totalBytesScanned ≤ MAX_SEARCH_TOTAL_BYTES

/-- What looking into the file of `hits` leaves; `stop` says that a bound was reached. -/
structure Scanned (host : Host) (r : SearchRequest) (s : SearchState) (hits : List Match)
    (s' : SearchState) (stop : Bool) : Prop where
  queue : s'.queue = s.queue
  stopped : s'.truncated = stop
  whole : stop = false → s'.found = s.found ++ hits ∧ s'.found.length < r.maxResults
  within : Within host r s'

section File
variable {host : Host} {r : SearchRequest} {filePath : Path} {s s' : SearchState} {stop : Bool}

theorem searchLines_spec {relPath : String} {i : ℕ} {lines : List (List Char)}
    (h : searchLines r relPath i lines s = (s', stop)) (hroom : s.found.length < r.maxResults) :
    (∃ found, s' = { s with found := s.found ++ found, truncated := s.truncated || stop }) ∧
      s'.found.length ≤ r.maxResults ∧
      (stop = false → s'.found = s.found ++ r.lineMatches relPath i lines ∧
        s'.found.length < r.maxResults) := by
  induction lines generalizing i s with
  | nil =>
    cases h
    exact ⟨⟨[], by simp⟩, hroom.le, fun _ => ⟨by simp [SearchRequest.lineMatches], hroom⟩⟩
  | cons line lines ih =>
    unfold searchLines at h
    dsimp only at h
    split at h
    · next hincludes =>
      have hhit : r.lineMatches relPath i (line :: lines) =
          ⟨relPath, i + 1, (Utf16.encode line).take MAX_SEARCH_LINE_PREVIEW⟩ ::
            r.lineMatches relPath (i + 1) lines := by
        unfold SearchRequest.lineMatches
        rw [List.zipIdx_cons, List.filterMap_cons_some]
        rw [if_pos hincludes]
      split at h
      · next hfull =>
        cases h
        refine ⟨⟨[_], by rw [Bool.or_true]⟩, ?_, nofun⟩
        rw [List.length_append, List.length_singleton]
        exact hroom
      · next hless =>
        rw [Nat.not_le] at hless
        obtain ⟨⟨found, hstate⟩, hle, hwhole⟩ := ih h hless
        refine ⟨⟨⟨relPath, i + 1, (Utf16.encode line).take MAX_SEARCH_LINE_PREVIEW⟩ :: found, ?_⟩,
          hle, fun hstop => ⟨?_, (hwhole hstop).2⟩⟩
        · rw [hstate, List.append_assoc]
          rfl
        · rw [(hwhole hstop).1, hhit, List.append_assoc]
          rfl
    · next hwithout =>
      have hskip : r.lineMatches relPath i (line :: lines) =
          r.lineMatches relPath (i + 1) lines := by
        unfold SearchRequest.lineMatches
        rw [List.zipIdx_cons, List.filterMap_cons_none]
        rw [if_neg hwithout]
      rw [hskip]
      exact ih h hroom

/-- A file that is counted, and opened if its size is counted too. -/
theorem Within.grow (h : Within host r s) (filePath : Path) (hfound : s'.found = s.found)
    (hcount : s'.filesScanned = s.filesScanned + 1) (hfiles : s.filesScanned < MAX_SEARCH_FILES)
    (hopened : s'.opened = s.opened ∧ s.totalBytesScanned ≤ s'.totalBytesScanned ∨
      s'.opened = s.opened ++ [filePath] ∧
        s.totalBytesScanned + host.size filePath ≤ s'.totalBytesScanned)
    (hbytes : s'.totalBytesScanned ≤ MAX_SEARCH_TOTAL_BYTES) : Within host r s' := by
  have hcounted := h.counted
  have hsizes := h.sizes
  refine ⟨hfound ▸ h.found, ?_, by omega, ?_, hbytes⟩
  · rcases hopened with ⟨hopened, _⟩ | ⟨hopened, _⟩
    · rw [hopened]
      omega
    · rw [hopened, List.length_append, List.length_singleton]
      omega
  · rcases hopened with ⟨hopened, hle⟩ | ⟨hopened, hle⟩
    · rw [hopened]
      omega
    · rw [hopened, List.map_append, List.sum_append, List.map_singleton, List.sum_singleton]
      omega

theorem Within.requeue (h : Within host r s) (queue : List QueueItem) :
    Within host r { s with queue } :=
  ⟨h.found, h.counted, h.files, h.sizes, h.bytes⟩

theorem size_of_stat {content : List UInt8} {mode : ℕ}
    (h : host.fs.stat filePath = some (.file content mode)) : host.size filePath = content.length := by
  unfold Host.size
  rw [h]

theorem append_fileMatches_of_none (h : host.searched filePath = none) (found : List Match) :
    found = found ++ r.fileMatches host filePath := by
  unfold SearchRequest.fileMatches
  rw [h]
  exact (List.append_nil _).symm

theorem fileMatches_of_some {text : String} (h : host.searched filePath = some text) :
    r.fileMatches host filePath =
      r.lineMatches (relative r.workspace.root filePath) 0 (splitLines text.toList) := by
  unfold SearchRequest.fileMatches
  rw [h]

theorem searchContent_spec {content : List UInt8} {mode : ℕ}
    (hstat : host.fs.stat filePath = some (.file content mode))
    (h : searchContent host r filePath (relative r.workspace.root filePath) content.length
      { s with
        filesScanned := s.filesScanned + 1
        totalBytesScanned := s.totalBytesScanned + content.length } = (s', stop))
    (hwithin : Within host r s) (hroom : s.found.length < r.maxResults)
    (hopen : s.truncated = false) (hfiles : s.filesScanned < MAX_SEARCH_FILES)
    (hsize : content.length ≤ MAX_SEARCH_FILE_SIZE)
    (hbytes : s.totalBytesScanned + content.length ≤ MAX_SEARCH_TOTAL_BYTES) :
    Scanned host r s (r.fileMatches host filePath) s' stop := by
  have hsearched : host.searched filePath = (host.openFile filePath).bind fun opened =>
      if isBinaryBuffer (host.fill opened.1 opened.2 0 content.length) then none
      else textDecode (host.fill opened.1 opened.2 0 content.length) := by
    unfold Host.searched
    rw [hstat]
    exact if_neg (by omega)
  have hgrown := size_of_stat hstat
  unfold searchContent at h
  cases hfile : host.openFile filePath with
  | none =>
    rw [hfile] at h hsearched
    cases h
    refine ⟨rfl, hopen, fun _ => ⟨append_fileMatches_of_none hsearched _, hroom⟩, ?_⟩
    exact hwithin.grow filePath rfl rfl hfiles (.inl ⟨rfl, Nat.le_add_right _ _⟩) hbytes
  | some opened =>
    obtain ⟨real, whole⟩ := opened
    rw [hfile] at h
    rw [hfile, Option.bind_some] at hsearched
    dsimp only at h
    have hopened : Within host r
        { s with
          filesScanned := s.filesScanned + 1
          totalBytesScanned := s.totalBytesScanned + content.length
          opened := s.opened ++ [filePath] } :=
      hwithin.grow filePath rfl rfl hfiles (.inr ⟨rfl, Nat.le_of_eq (by rw [hgrown])⟩) hbytes
    split at h
    · next hbinary =>
      cases h
      rw [if_pos hbinary] at hsearched
      exact ⟨rfl, hopen, fun _ => ⟨append_fileMatches_of_none hsearched _, hroom⟩, hopened⟩
    · next htext =>
      rw [if_neg htext] at hsearched
      split at h
      · next hdecode =>
        cases h
        rw [hdecode] at hsearched
        exact ⟨rfl, hopen, fun _ => ⟨append_fileMatches_of_none hsearched _, hroom⟩, hopened⟩
      · next text hdecode =>
        obtain ⟨⟨found, hstate⟩, hle, hwhole⟩ := searchLines_spec h hroom
        refine ⟨?_, ?_, ?_, ?_⟩
        · rw [hstate]
        · rw [hstate, hopen]
          rfl
        · rw [fileMatches_of_some (hsearched.trans hdecode)]
          exact hwhole
        · rw [hstate] at hle ⊢
          exact ⟨hle, hopened.counted, hopened.files, hopened.sizes, hopened.bytes⟩

theorem searchFile_spec (h : searchFile host r filePath s = .ok (s', stop))
    (hwithin : Within host r s) (hroom : s.found.length < r.maxResults)
    (hopen : s.truncated = false) : Scanned host r s (r.fileMatches host filePath) s' stop := by
  unfold searchFile at h
  split at h
  · cases h
  · split at h
    · cases h
      exact ⟨rfl, rfl, nofun, hwithin.found, hwithin.counted, hwithin.files, hwithin.sizes,
        hwithin.bytes⟩
    · next hfiles =>
      rw [Nat.not_le] at hfiles
      have hcounted : Within host r { s with filesScanned := s.filesScanned + 1 } :=
        hwithin.grow filePath rfl rfl hfiles (.inl ⟨rfl, Nat.le_refl _⟩)
          hwithin.bytes
      dsimp only at h
      split at h
      · next content mode hstat =>
        split at h
        · next hlarge =>
          cases h
          refine ⟨rfl, hopen, fun _ => ⟨append_fileMatches_of_none ?_ _, hroom⟩, hcounted⟩
          unfold Host.searched
          rw [hstat]
          exact if_pos hlarge
        · next hsize =>
          split at h
          · cases h
            exact ⟨rfl, rfl, nofun, hcounted.found, hcounted.counted, hcounted.files,
              hcounted.sizes, hcounted.bytes⟩
          · next hbytes =>
            exact searchContent_spec hstat (Except.ok.inj h) hwithin hroom hopen hfiles
              (Nat.le_of_not_lt hsize) (Nat.le_of_not_lt hbytes)
      · next hother =>
        cases h
        refine ⟨rfl, hopen, fun _ => ⟨append_fileMatches_of_none ?_ _, hroom⟩, hcounted⟩
        unfold Host.searched
        split
        · next content mode hstat => exact absurd hstat (hother content mode)
        · rfl

/-- Only the abort check makes `searchFile` throw. -/
theorem searchFile_error {failure : SearchFailure} (h : searchFile host r filePath s = .error failure) :
    host.aborted (.file filePath) = true ∧ failure = s.aborted := by
  unfold searchFile at h
  split at h
  · next habort =>
    cases h
    exact ⟨habort, rfl⟩
  · dsimp only at h
    split at h
    · cases h
    · split at h
      · split at h
        · cases h
        · split at h
          · cases h
          · cases h
      · cases h

theorem searchFile_quiet {result : SearchState × Bool}
    (h : searchFile host r filePath s = .ok result) : host.aborted (.file filePath) = false := by
  cases habort : host.aborted (.file filePath) with
  | false => rfl
  | true =>
    unfold searchFile at h
    rw [if_pos habort] at h
    cases h

theorem Scanned.nothing (hwithin : Within host r s) (hroom : s.found.length < r.maxResults)
    (hopen : s.truncated = false) : Scanned host r s [] s false :=
  ⟨rfl, hopen, fun _ => ⟨(List.append_nil _).symm, hroom⟩, hwithin⟩

end File

section Entries
variable {host : Host} {r : SearchRequest} {o : Origin} {path : Path} {s s' : SearchState}
  {stop : Bool}

theorem searchLink_spec {name : Name} {link : String}
    (hshown : o.hidden (path ++ [name]) = false)
    (h : searchLink host r (o.operationPath ++ (path ++ [name])) s = (s', stop))
    (hwithin : Within host r s) (hroom : s.found.length < r.maxResults)
    (hopen : s.truncated = false) :
    Scanned host r s (r.entryMatches host o path (name, .symlink link)) s' stop := by
  have hnothing : r.file? host o path (name, .symlink link) = none →
      Scanned host r s (r.entryMatches host o path (name, .symlink link)) s false := by
    intro hnone
    unfold SearchRequest.entryMatches
    rw [hnone]
    exact .nothing hwithin hroom hopen
  have hfile : r.file? host o path (name, .symlink link) =
      match host.fs.realpath (o.operationPath ++ (path ++ [name])),
        host.fs.stat (o.operationPath ++ (path ++ [name])) with
      | some target, some (.file _ _) =>
        if linkAllowed r.workspace target then some (o.operationPath ++ (path ++ [name])) else none
      | _, _ => none := by
    unfold SearchRequest.file?
    rw [if_neg (ne_true_of_eq_false hshown)]
  unfold searchLink at h
  split at h
  · next hreal =>
    cases h
    rw [hreal] at hfile
    exact hnothing hfile
  · next target hreal =>
    rw [hreal] at hfile
    split at h
    · next hallowed =>
      split at h
      · next content mode hstat =>
        rw [hstat] at hfile
        dsimp only at hfile
        rw [if_pos hallowed] at hfile
        split at h
        · next result hscan =>
          subst h
          have hquiet : SearchRequest.swallowed host o path (name, .symlink link) = false :=
            searchFile_quiet hscan
          unfold SearchRequest.entryMatches
          rw [hfile]
          dsimp only
          rw [if_neg (ne_true_of_eq_false hquiet)]
          exact searchFile_spec hscan hwithin hroom hopen
        · next failure hscan =>
          -- The error of the abort check is lost, and the file with it.
          cases h
          have hlost : SearchRequest.swallowed host o path (name, .symlink link) = true :=
            (searchFile_error hscan).1
          unfold SearchRequest.entryMatches
          rw [hfile]
          dsimp only
          rw [if_pos hlost]
          exact .nothing hwithin hroom hopen
      · next hother =>
        cases h
        refine hnothing (hfile.trans ?_)
        split
        · next target content mode _ hstat => exact absurd hstat (hother content mode)
        · rfl
    · next hrefused =>
      cases h
      refine hnothing (hfile.trans ?_)
      split
      · next target' content mode hsame hstat =>
        cases hsame
        exact if_neg hrefused
      · rfl

theorem file?_of_hidden {name : Name} {e : Entry} (h : o.hidden (path ++ [name]) = true) :
    r.file? host o path (name, e) = none := if_pos h

theorem entryMatches_of_none {dirent : Name × Entry} (h : r.file? host o path dirent = none) :
    r.entryMatches host o path dirent = [] := by
  unfold SearchRequest.entryMatches
  rw [h]

/-- One entry: the call throws, or the entry is looked into or queued and the loop goes on unless a
bound was reached. -/
theorem searchEntries_cons (ho : o.workspace = r.workspace) {dirent : Name × Entry}
    {rest : List (Name × Entry)} {answer : Except SearchFailure SearchState}
    (h : searchEntries host r (o.item path) (dirent :: rest) s = answer)
    (hwithin : Within host r s) (hroom : s.found.length < r.maxResults)
    (hopen : s.truncated = false) :
    answer = .error s.aborted ∨ ∃ next stop,
      Scanned host r
        { s with queue := s.queue ++ (SearchRequest.queued o path dirent).toList }
        (r.entryMatches host o path dirent) next stop ∧
      (stop = true → answer = .ok next) ∧
      (stop = false → searchEntries host r (o.item path) rest next = answer) := by
  obtain ⟨name, e⟩ := dirent
  unfold searchEntries at h
  dsimp only at h
  rw [← ho, ← Origin.hidden_concat] at h
  have hfull : (o.item path).operationPath ++ [name] = o.operationPath ++ (path ++ [name]) := by
    simp [Origin.item]
  rw [hfull] at h
  have hstay : e ≠ .directory → s = { s with
      queue := s.queue ++ (SearchRequest.queued o path (name, e)).toList } := by
    intro he
    have hnone : SearchRequest.queued o path (name, e) = none := if_neg fun hboth => he hboth.1
    rw [hnone]
    simp
  split at h
  · exact .inl h.symm
  · split at h
    · next hhidden =>
      have hnone : SearchRequest.queued o path (name, e) = none := by
        refine if_neg fun hboth => ?_
        rw [hhidden] at hboth
        exact Bool.false_ne_true hboth.2.symm
      refine .inr ⟨s, false, ?_, (by simp), fun _ => h⟩
      rw [entryMatches_of_none (file?_of_hidden hhidden), hnone]
      simpa using Scanned.nothing hwithin hroom hopen
    · next hshown =>
      rw [Bool.not_eq_true] at hshown
      cases e with
      | symlink link =>
        rw [← hstay (by simp)]
        dsimp only at h
        split at h
        · next next hlink =>
          exact .inr ⟨next, true, searchLink_spec hshown hlink hwithin hroom hopen,
            fun _ => h.symm, (by simp)⟩
        · next next hlink =>
          exact .inr ⟨next, false, searchLink_spec hshown hlink hwithin hroom hopen, (by simp),
            fun _ => h⟩
      | directory =>
        have hqueued : SearchRequest.queued o path (name, .directory) =
            some (o.item (path ++ [name])) := if_pos ⟨rfl, hshown⟩
        refine .inr ⟨_, false, ?_, (by simp), fun _ => h⟩
        rw [hqueued, Origin.item_concat, entryMatches_of_none, hfull]
        · exact .nothing (hwithin.requeue _) hroom hopen
        · unfold SearchRequest.file?
          split
          · rfl
          · rfl
      | file content mode =>
        have hfile : r.file? host o path (name, .file content mode) =
            some (o.operationPath ++ (path ++ [name])) := by
          unfold SearchRequest.file?
          rw [if_neg (ne_true_of_eq_false hshown)]
        have hmatches : r.entryMatches host o path (name, .file content mode) =
            r.fileMatches host (o.operationPath ++ (path ++ [name])) := by
          unfold SearchRequest.entryMatches
          rw [hfile]
          rfl
        rw [← hstay (by simp), hmatches]
        dsimp only at h
        split at h
        · next failure hscan =>
          rw [← (searchFile_error hscan).2]
          exact .inl h.symm
        · next next hscan =>
          exact .inr ⟨next, true, searchFile_spec hscan hwithin hroom hopen,
            fun _ => h.symm, (by simp)⟩
        · next next hscan =>
          exact .inr ⟨next, false, searchFile_spec hscan hwithin hroom hopen, (by simp),
            fun _ => h⟩
      | other =>
        rw [← hstay (by simp)]
        refine .inr ⟨s, false, ?_, (by simp), fun _ => h⟩
        rw [entryMatches_of_none]
        · exact .nothing hwithin hroom hopen
        · unfold SearchRequest.file?
          split
          · rfl
          · rfl

/-- What the loop over the entries of a node does. -/
theorem searchEntries_spec (ho : o.workspace = r.workspace) {dirents : List (Name × Entry)}
    (h : searchEntries host r (o.item path) dirents s = .ok s')
    (hwithin : Within host r s) (hroom : s.found.length < r.maxResults)
    (hopen : s.truncated = false) :
    Within host r s' ∧ (s'.truncated = false →
      s'.found = s.found ++ dirents.flatMap (r.entryMatches host o path) ∧
      s'.queue = s.queue ++ dirents.filterMap (SearchRequest.queued o path) ∧
      s'.found.length < r.maxResults) := by
  induction dirents generalizing s with
  | nil =>
    cases h
    exact ⟨hwithin, fun _ => ⟨by simp, by simp, hroom⟩⟩
  | cons dirent rest ih =>
    obtain hthrown | ⟨next, stop, hscanned, hend, hmore⟩ :=
      searchEntries_cons ho h hwithin hroom hopen
    · cases hthrown
    cases stop with
    | true =>
      cases hend rfl
      refine ⟨hscanned.within, fun hwhole => ?_⟩
      rw [hscanned.stopped] at hwhole
      cases hwhole
    | false =>
      obtain ⟨hfound, hless⟩ := hscanned.whole rfl
      obtain ⟨hwithin', hwhole⟩ := ih (hmore rfl) hscanned.within hless hscanned.stopped
      refine ⟨hwithin', fun htruncated => ?_⟩
      obtain ⟨hfound', hqueue', hless'⟩ := hwhole htruncated
      refine ⟨?_, ?_, hless'⟩
      · rw [hfound', hfound, List.flatMap_cons, List.append_assoc]
      · rw [hqueue', hscanned.queue, List.append_assoc, List.filterMap_cons]
        cases SearchRequest.queued o path dirent with
        | none => rfl
        | some item => rfl

/-- A call that throws has kept its bounds until then. -/
theorem searchEntries_failure (ho : o.workspace = r.workspace) {dirents : List (Name × Entry)}
    {failure : SearchFailure} (h : searchEntries host r (o.item path) dirents s = .error failure)
    (hwithin : Within host r s) (hroom : s.found.length < r.maxResults)
    (hopen : s.truncated = false) : ∃ last, Within host r last ∧ failure = last.aborted := by
  induction dirents generalizing s with
  | nil => cases h
  | cons dirent rest ih =>
    obtain hthrown | ⟨next, stop, hscanned, hend, hmore⟩ :=
      searchEntries_cons ho h hwithin hroom hopen
    · exact ⟨s, hwithin, Except.error.inj hthrown⟩
    cases stop with
    | true => cases hend rfl
    | false => exact ih (hmore rfl) hscanned.within (hscanned.whole rfl).2 hscanned.stopped

end Entries

/-! ## The files that are opened -/

/-- The files that a call has opened, whether it throws or not. -/
def openedFiles {S : Type} (opened : S → List Path) : Except SearchFailure S → List Path
  | .ok s => opened s
  | .error failure => failure.opened

section Opened
variable {host : Host} {r : SearchRequest} {o : Origin} {path filePath : Path} {s : SearchState}
  {P : Path → Prop}

theorem searchLines_opened (r : SearchRequest) (relPath : String) (i : ℕ)
    (lines : List (List Char)) (s : SearchState) :
    (searchLines r relPath i lines s).1.opened = s.opened := by
  induction lines generalizing i s with
  | nil => rfl
  | cons line lines ih =>
    unfold searchLines
    dsimp only
    split
    · split
      · rfl
      · exact ih _ _
    · exact ih _ _

theorem searchContent_opened {relPath : String} {size : ℕ} (hs : ∀ file ∈ s.opened, P file)
    (hfile : P filePath) :
    ∀ file ∈ (searchContent host r filePath relPath size s).1.opened, P file := by
  have hopened : ∀ file ∈ s.opened ++ [filePath], P file := by
    intro file hmem
    rcases List.mem_append.mp hmem with hold | hnew
    · exact hs file hold
    · rw [List.mem_singleton.mp hnew]
      exact hfile
  unfold searchContent
  split
  · exact hs
  · dsimp only
    split
    · exact hopened
    · split
      · exact hopened
      · rw [searchLines_opened]
        exact hopened

theorem searchFile_opened (hs : ∀ file ∈ s.opened, P file) (hfile : P filePath) :
    ∀ file ∈ openedFiles (fun result => result.1.opened) (searchFile host r filePath s),
      P file := by
  unfold searchFile
  split
  · exact hs
  · split
    · exact hs
    · dsimp only
      split
      · split
        · exact hs
        · split
          · exact hs
          · exact @searchContent_opened host r filePath
              { s with
                filesScanned := s.filesScanned + 1
                totalBytesScanned := s.totalBytesScanned + _ } P _ _ hs hfile
      · exact hs

theorem searchLink_opened {name : Name} {link : String}
    (hshown : o.hidden (path ++ [name]) = false) (hs : ∀ file ∈ s.opened, P file)
    (hfile : ∀ file, r.file? host o path (name, .symlink link) = some file → P file) :
    ∀ file ∈ (searchLink host r (o.operationPath ++ (path ++ [name])) s).1.opened, P file := by
  unfold searchLink
  split
  · exact hs
  · next target hreal =>
    split
    · next hallowed =>
      split
      · next content mode hstat =>
        have hfull : P (o.operationPath ++ (path ++ [name])) := by
          refine hfile _ ?_
          unfold SearchRequest.file?
          rw [if_neg (ne_true_of_eq_false hshown)]
          dsimp only
          rw [hreal, hstat]
          exact if_pos hallowed
        have hopened := @searchFile_opened host r _ s P hs hfull
        split
        · next result hscan =>
          rw [hscan] at hopened
          exact hopened
        · exact hs
      · exact hs
    · exact hs

theorem searchEntries_opened (ho : o.workspace = r.workspace) {dirents : List (Name × Entry)}
    (hs : ∀ file ∈ s.opened, P file)
    (hfile : ∀ dirent ∈ dirents, ∀ file, r.file? host o path dirent = some file → P file) :
    ∀ file ∈ openedFiles SearchState.opened (searchEntries host r (o.item path) dirents s),
      P file := by
  induction dirents generalizing s with
  | nil => exact hs
  | cons dirent rest ih =>
    obtain ⟨name, e⟩ := dirent
    have hrest : ∀ dirent ∈ rest, ∀ file, r.file? host o path dirent = some file → P file :=
      fun dirent hmem => hfile dirent (List.mem_cons_of_mem _ hmem)
    have hthis := hfile (name, e) List.mem_cons_self
    unfold searchEntries
    dsimp only
    rw [← ho, ← Origin.hidden_concat]
    have hfull : (o.item path).operationPath ++ [name] = o.operationPath ++ (path ++ [name]) := by
      simp [Origin.item]
    rw [hfull]
    split
    · exact hs
    · split
      · exact ih hs hrest
      · next hshown =>
        rw [Bool.not_eq_true] at hshown
        cases e with
        | symlink link =>
          have hopened := searchLink_opened hshown hs hthis
          dsimp only
          split
          · next next hlink =>
            rw [hlink] at hopened
            exact hopened
          · next next hlink =>
            rw [hlink] at hopened
            exact ih hopened hrest
        | directory => exact @ih { s with queue := _ } hs hrest
        | file content mode =>
          have hopened := @searchFile_opened host r (o.operationPath ++ (path ++ [name])) s P hs (by
            refine hthis _ ?_
            unfold SearchRequest.file?
            rw [if_neg (ne_true_of_eq_false hshown)])
          dsimp only
          split
          · next failure hscan =>
            rw [hscan] at hopened
            exact hopened
          · next next hscan =>
            rw [hscan] at hopened
            exact hopened
          · next next hscan =>
            rw [hscan] at hopened
            exact ih hopened hrest
        | other => exact ih hs hrest

end Opened

/-! ## The loop over the queue -/

/-- Between two rounds: every node of `taken` has been searched, those of `queue` wait. -/
structure SearchProgress (host : Host) (r : SearchRequest) (o : Origin) (taken queue : List Path)
    (s : SearchState) : Prop where
  frontier : Frontier (o.directories host) taken queue
  items : s.queue = queue.map o.item
  found : s.found = taken.flatMap fun path =>
    (o.dirents host path).flatMap (r.entryMatches host o path)
  room : s.found.length < r.maxResults
  within : Within host r s
  whole : s.truncated = false

/-- The traversal looks into the file, for an entry that it reaches. -/
def LooksInto (host : Host) (r : SearchRequest) (o : Origin) (file : Path) : Prop :=
  ∃ path dirent, Reachable (o.directories host) path ∧ dirent ∈ o.dirents host path ∧
    r.file? host o path dirent = some file

section Loop
variable {host : Host} {r : SearchRequest} {o : Origin} {path : Path} {taken queue : List Path}
  {s s' : SearchState}

theorem Within.start (host : Host) (r : SearchRequest) (queue : List QueueItem) :
    Within host r ⟨queue, [], false, 0, 0, []⟩ :=
  ⟨Nat.zero_le _, Nat.le_refl _, Nat.zero_le _, Nat.le_refl _, Nat.zero_le _⟩

theorem SearchProgress.start (host : Host) (o : Origin) (hroom : 0 < r.maxResults) :
    SearchProgress host r o [] [[]] ⟨[o.item []], [], false, 0, 0, []⟩ :=
  ⟨.start, rfl, rfl, hroom, .start host r _, rfl⟩

theorem SearchProgress.goes (h : SearchProgress host r o taken queue s) :
    ¬ s.truncated = true := by
  rw [h.whole]
  exact Bool.false_ne_true

theorem filterMap_searchQueued (host : Host) (o : Origin) (path : Path) :
    (o.dirents host path).filterMap (SearchRequest.queued o path) =
      ((o.directories host path).map fun name => path ++ [name]).map o.item := by
  unfold SearchRequest.queued Origin.directories
  rw [List.map_map, List.map_filterMap]
  refine List.filterMap_congr fun dirent _ => ?_
  by_cases hshown : dirent.2 = .directory ∧ o.hidden (path ++ [dirent.1]) = false
  · rw [if_pos hshown, if_pos hshown]
    rfl
  · rw [if_neg hshown, if_neg hshown]
    rfl

/-- A directory that cannot be read has no entries. -/
theorem SearchProgress.skip (h : SearchProgress host r o taken (path :: queue) s)
    (hnone : host.sortedDirents (o.item path).operationPath = none) :
    SearchProgress host r o (taken ++ [path]) queue { s with queue := queue.map o.item } := by
  have hdirents : o.dirents host path = [] := Origin.dirents_of_none hnone
  have hdirectories : o.directories host path = [] := by
    unfold Origin.directories
    rw [hdirents]
    rfl
  have hfrontier := h.frontier.step (Origin.nodup_directories host o path)
  rw [hdirectories, List.map_nil, List.append_nil] at hfrontier
  refine ⟨hfrontier, rfl, ?_, h.room, h.within.requeue _, h.whole⟩
  rw [List.flatMap_append, List.flatMap_singleton, hdirents]
  exact h.found.trans (List.append_nil _).symm

theorem SearchProgress.next {dirents : List (Name × Entry)}
    (h : SearchProgress host r o taken (path :: queue) s) (ho : o.workspace = r.workspace)
    (hsome : host.sortedDirents (o.item path).operationPath = some dirents)
    (hrun : searchEntries host r (o.item path) dirents { s with queue := queue.map o.item } =
      .ok s') :
    Within host r s' ∧ (s'.truncated = false →
      SearchProgress host r o (taken ++ [path])
        (queue ++ (o.directories host path).map fun name => path ++ [name]) s') := by
  have hdirents := Origin.dirents_of_some hsome
  obtain ⟨hwithin, hwhole⟩ :=
    searchEntries_spec ho hrun (h.within.requeue _) h.room h.whole
  refine ⟨hwithin, fun htruncated => ?_⟩
  obtain ⟨hfound, hqueue, hroom⟩ := hwhole htruncated
  refine ⟨h.frontier.step (Origin.nodup_directories host o path), ?_, ?_, hroom, hwithin,
    htruncated⟩
  · rw [hqueue, ← hdirents, filterMap_searchQueued, List.map_append]
  · rw [hfound, List.flatMap_append, List.flatMap_singleton, hdirents]
    exact congrArg (· ++ _) h.found

theorem searchLoop_truncated {rounds : ℕ} (h : s.truncated = true) :
    searchLoop host r (rounds + 1) s = some (.ok s) := by
  unfold searchLoop
  split
  · rfl
  · rw [if_pos h]

/-- Every round takes a node, and there are no more nodes than entries of the tree. -/
theorem searchLoop_terminates (ho : o.workspace = r.workspace) (hresolved : o.Resolved host.fs)
    (h : SearchProgress host r o taken queue s) {rounds : ℕ}
    (hrounds : host.fs.entries.size < taken.length + rounds) :
    ∃ answer, searchLoop host r rounds s = some answer := by
  induction rounds generalizing taken queue s with
  | zero =>
    have hle := hresolved.frontier_le (fun _ => List.Subset.refl _) h.frontier
    rw [List.length_append] at hle
    omega
  | succ rounds ih =>
    have hle := hresolved.frontier_le (fun _ => List.Subset.refl _) h.frontier
    unfold searchLoop
    cases queue with
    | nil =>
      rw [h.items]
      exact ⟨_, rfl⟩
    | cons path queue =>
      rw [h.items, List.map_cons]
      split
      · exact ⟨_, rfl⟩
      · next current rest hqueue =>
        obtain ⟨rfl, rfl⟩ := List.cons.inj hqueue
        rw [if_neg h.goes]
        split
        · exact ⟨_, rfl⟩
        · split
          · next hnone =>
            refine ih (h.skip hnone) ?_
            rw [List.length_append, List.length_singleton]
            omega
          · next dirents hsome =>
            split
            · exact ⟨_, rfl⟩
            · next s' hrun =>
              cases htruncated : s'.truncated with
              | false =>
                refine ih ((h.next ho hsome hrun).2 htruncated) ?_
                rw [List.length_append, List.length_singleton]
                omega
              | true =>
                rw [List.length_append, List.length_cons] at hle
                obtain ⟨more, rfl⟩ : ∃ more, rounds = more + 1 := ⟨rounds - 1, by omega⟩
                exact ⟨_, searchLoop_truncated htruncated⟩

/-- More rounds change nothing. -/
theorem searchLoop_more {rounds more : ℕ} {answer : Except SearchFailure SearchState}
    (h : searchLoop host r rounds s = some answer) (hmore : rounds ≤ more) :
    searchLoop host r more s = some answer := by
  induction rounds generalizing more s with
  | zero => cases h
  | succ rounds ih =>
    obtain ⟨more, rfl⟩ : ∃ n, more = n + 1 := ⟨more - 1, by omega⟩
    have hless : rounds ≤ more := by omega
    unfold searchLoop at h ⊢
    split at h
    · exact h
    · split at h
      · next hstop =>
        rw [if_pos hstop]
        exact h
      · next hgo =>
        rw [if_neg hgo]
        split at h
        · next habort =>
          rw [if_pos habort]
          exact h
        · next hquiet =>
          rw [if_neg hquiet]
          split at h
          · exact ih h hless
          · split at h
            · exact h
            · exact ih h hless

/-- The loop ends with every node searched, or truncated. -/
theorem searchLoop_ok (ho : o.workspace = r.workspace) {rounds : ℕ}
    (h : SearchProgress host r o taken queue s)
    (hrun : searchLoop host r rounds s = some (.ok s')) :
    Within host r s' ∧ (s'.truncated = false → ∃ all, SearchProgress host r o all [] s') := by
  induction rounds generalizing taken queue s with
  | zero => cases hrun
  | succ rounds ih =>
    unfold searchLoop at hrun
    cases queue with
    | nil =>
      rw [h.items] at hrun
      cases hrun
      exact ⟨h.within, fun _ => ⟨taken, h⟩⟩
    | cons path queue =>
      rw [h.items, List.map_cons] at hrun
      split at hrun
      · next hqueue => cases hqueue
      · next current rest hqueue =>
        obtain ⟨rfl, rfl⟩ := List.cons.inj hqueue
        rw [if_neg h.goes] at hrun
        split at hrun
        · cases hrun
        · split at hrun
          · next hnone => exact ih (h.skip hnone) hrun
          · next dirents hsome =>
            split at hrun
            · cases hrun
            · next next hentries =>
              obtain ⟨hwithin, hnext⟩ := h.next ho hsome hentries
              cases htruncated : next.truncated with
              | false => exact ih (hnext htruncated) hrun
              | true =>
                cases rounds with
                | zero => cases hrun
                | succ rounds =>
                  rw [searchLoop_truncated htruncated] at hrun
                  cases hrun
                  refine ⟨hwithin, fun hwhole => ?_⟩
                  rw [htruncated] at hwhole
                  cases hwhole

theorem searchLoop_failure (ho : o.workspace = r.workspace) {rounds : ℕ}
    (h : SearchProgress host r o taken queue s) {failure : SearchFailure}
    (hrun : searchLoop host r rounds s = some (.error failure)) :
    ∃ last, Within host r last ∧ failure = last.aborted := by
  induction rounds generalizing taken queue s with
  | zero => cases hrun
  | succ rounds ih =>
    unfold searchLoop at hrun
    cases queue with
    | nil =>
      rw [h.items] at hrun
      cases hrun
    | cons path queue =>
      rw [h.items, List.map_cons] at hrun
      split at hrun
      · next hqueue => cases hqueue
      · next current rest hqueue =>
        obtain ⟨rfl, rfl⟩ := List.cons.inj hqueue
        rw [if_neg h.goes] at hrun
        split at hrun
        · cases hrun
          exact ⟨s, h.within, rfl⟩
        · split at hrun
          · next hnone => exact ih (h.skip hnone) hrun
          · next dirents hsome =>
            split at hrun
            · next failure' hentries =>
              cases hrun
              exact searchEntries_failure ho hentries (h.within.requeue _) h.room h.whole
            · next next hentries =>
              cases htruncated : next.truncated with
              | false => exact ih ((h.next ho hsome hentries).2 htruncated) hrun
              | true =>
                cases rounds with
                | zero => cases hrun
                | succ rounds =>
                  rw [searchLoop_truncated htruncated] at hrun
                  cases hrun

/-- Whether the loop throws or not, it has only opened files of entries that it reached. -/
theorem searchLoop_opened (ho : o.workspace = r.workspace) {rounds : ℕ}
    (h : SearchProgress host r o taken queue s)
    (hs : ∀ file ∈ s.opened, LooksInto host r o file) {answer : Except SearchFailure SearchState}
    (hrun : searchLoop host r rounds s = some answer) :
    ∀ file ∈ openedFiles SearchState.opened answer, LooksInto host r o file := by
  induction rounds generalizing taken queue s with
  | zero => cases hrun
  | succ rounds ih =>
    unfold searchLoop at hrun
    cases queue with
    | nil =>
      rw [h.items] at hrun
      cases hrun
      exact hs
    | cons path queue =>
      rw [h.items, List.map_cons] at hrun
      split at hrun
      · next hqueue => cases hqueue
      · next current rest hqueue =>
        obtain ⟨rfl, rfl⟩ := List.cons.inj hqueue
        rw [if_neg h.goes] at hrun
        split at hrun
        · cases hrun
          exact hs
        · split at hrun
          · next hnone => exact ih (h.skip hnone) hs hrun
          · next dirents hsome =>
            have hreachable :=
              h.frontier.reachable path (List.mem_append_right _ List.mem_cons_self)
            have hopened := @searchEntries_opened host r o path
              { s with queue := queue.map o.item } (LooksInto host r o) ho dirents hs
              fun dirent hmem file hfile =>
                ⟨path, dirent, hreachable, Origin.dirents_of_some hsome ▸ hmem, hfile⟩
            split at hrun
            · next failure hentries =>
              cases hrun
              rw [hentries] at hopened
              exact hopened
            · next next hentries =>
              rw [hentries] at hopened
              cases htruncated : next.truncated with
              | false => exact ih ((h.next ho hsome hentries).2 htruncated) hopened hrun
              | true =>
                cases rounds with
                | zero => cases hrun
                | succ rounds =>
                  rw [searchLoop_truncated htruncated] at hrun
                  cases hrun
                  exact hopened

end Loop

end Doctmcp.Tools.FilesystemRead

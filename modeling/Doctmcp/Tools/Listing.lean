import Doctmcp.Lib.Traversal
import Doctmcp.Tools.Resolver
import Doctmcp.Tools.FilesystemRead

/-! # The run of `list`

Both traversals carry a path as it was asked for and its canonical path side by side. Below a target
that resolves the second one is the real path of the first. -/

namespace Doctmcp.Tools.FilesystemRead
open Doctmcp.Lib Doctmcp.Lib.PosixPath
set_option autoImplicit false

/-! ## Relative nodes -/

/-- Where a traversal starts. -/
structure Origin where
  workspace : WorkspaceMetadata
  operationPath : Path
  canonicalPath : Path

namespace Origin

/-- The item of the queue for what lies at `path` below the start. -/
def item (o : Origin) (path : Path) : QueueItem :=
  ⟨o.operationPath ++ path, o.canonicalPath ++ path, path.length⟩

/-- The traversal passes over what lies at `path`. -/
def hidden (o : Origin) (path : Path) : Bool :=
  isDenied o.workspace (o.operationPath ++ path) || isDenied o.workspace (o.canonicalPath ++ path)

def dirents (o : Origin) (host : Host) (path : Path) : List (Name × Entry) :=
  (host.sortedDirents (o.operationPath ++ path)).getD []

/-- The directories that the traversal may enter from `path`. -/
def directories (o : Origin) (host : Host) (path : Path) : List Name :=
  (o.dirents host path).filterMap fun dirent =>
    if dirent.2 = .directory ∧ o.hidden (path ++ [dirent.1]) = false then some dirent.1 else none

/-- The start resolves to a directory. -/
structure Resolved (o : Origin) (fs : FileSystem) : Prop where
  realpath : fs.realpath o.operationPath = some o.canonicalPath
  directory : fs.entry o.canonicalPath = some .directory

section Nodes
variable {host : Host} {o : Origin} {path : Path}

theorem item_concat (o : Origin) (path : Path) (name : Name) :
    o.item (path ++ [name]) = ⟨(o.item path).operationPath ++ [name],
      (o.item path).canonicalPath ++ [name], (o.item path).currentDepth + 1⟩ := by
  simp [item]

theorem hidden_concat (o : Origin) (path : Path) (name : Name) :
    o.hidden (path ++ [name]) = (isDenied o.workspace ((o.item path).operationPath ++ [name]) ||
      isDenied o.workspace ((o.item path).canonicalPath ++ [name])) := by
  simp [hidden, item]

theorem mem_sortedDirents {name : Name} {e : Entry} {dirents : List (Name × Entry)}
    (h : host.sortedDirents path = some dirents) : (name, e) ∈ dirents ↔
      ∃ directory, host.fs.realpath path = some directory ∧
        host.fs.entry directory = some .directory ∧ host.readable directory = true ∧
        host.fs.entry (directory ++ [name]) = some e := by
  unfold Host.sortedDirents at h
  obtain ⟨directory, hreal, hread⟩ := Option.bind_eq_some_iff.mp h
  split at hread
  · next hopen =>
    cases hread
    rw [List.mem_insertionSort, FileSystem.mem_dirents, hreal]
    constructor
    · intro hentry
      exact ⟨directory, rfl, hopen.1, hopen.2, hentry⟩
    · rintro ⟨other, hother, _, _, hentry⟩
      cases hother
      exact hentry
  · cases hread

theorem mem_dirents {name : Name} {e : Entry} : (name, e) ∈ o.dirents host path ↔
    ∃ directory, host.fs.realpath (o.operationPath ++ path) = some directory ∧
      host.fs.entry directory = some .directory ∧ host.readable directory = true ∧
      host.fs.entry (directory ++ [name]) = some e := by
  unfold dirents
  cases hsorted : host.sortedDirents (o.operationPath ++ path) with
  | some found => exact mem_sortedDirents hsorted
  | none =>
    constructor
    · intro hmem
      cases hmem
    · rintro ⟨directory, hreal, hdirectory, hreadable, _⟩
      unfold Host.sortedDirents at hsorted
      rw [hreal, Option.bind_some, if_pos ⟨hdirectory, hreadable⟩] at hsorted
      cases hsorted

theorem dirents_of_some {dirents : List (Name × Entry)}
    (h : host.sortedDirents (o.item path).operationPath = some dirents) :
    o.dirents host path = dirents := by
  unfold Origin.dirents
  rw [show o.operationPath ++ path = (o.item path).operationPath from rfl, h]
  rfl

theorem dirents_of_none (h : host.sortedDirents (o.item path).operationPath = none) :
    o.dirents host path = [] := by
  unfold Origin.dirents
  rw [show o.operationPath ++ path = (o.item path).operationPath from rfl, h]
  rfl

theorem mem_directories {name : Name} : name ∈ o.directories host path ↔
    (name, .directory) ∈ o.dirents host path ∧ o.hidden (path ++ [name]) = false := by
  unfold directories
  rw [List.mem_filterMap]
  constructor
  · rintro ⟨⟨other, e⟩, hmem, hsome⟩
    split at hsome
    · next hshown =>
      cases hsome
      obtain ⟨rfl, hfree⟩ := hshown
      exact ⟨hmem, hfree⟩
    · cases hsome
  · rintro ⟨hmem, hfree⟩
    exact ⟨(name, .directory), hmem, if_pos ⟨rfl, hfree⟩⟩

/-- The canonical path that a node carries is its real path. -/
theorem Resolved.reachable (h : o.Resolved host.fs) (hpath : Reachable (o.directories host) path) :
    host.fs.realpath (o.operationPath ++ path) = some (o.canonicalPath ++ path) ∧
      host.fs.entry (o.canonicalPath ++ path) = some .directory := by
  induction hpath with
  | root =>
    rw [List.append_nil, List.append_nil]
    exact ⟨h.realpath, h.directory⟩
  | @step path name _ hname ih =>
    obtain ⟨directory, hreal, _, _, hentry⟩ := mem_dirents.mp (mem_directories.mp hname).1
    rw [ih.1] at hreal
    cases hreal
    rw [← List.append_assoc, ← List.append_assoc]
    exact ⟨FileSystem.realpath_concat ih.1 hentry rfl, hentry⟩

/-- The entries of a node are those of the directory at its canonical path. -/
theorem Resolved.mem_dirents_iff (h : o.Resolved host.fs)
    (hpath : Reachable (o.directories host) path) {name : Name} {e : Entry} :
    (name, e) ∈ o.dirents host path ↔ host.readable (o.canonicalPath ++ path) = true ∧
      host.fs.entry (o.canonicalPath ++ (path ++ [name])) = some e := by
  obtain ⟨hreal, hdirectory⟩ := h.reachable hpath
  rw [mem_dirents, hreal, ← List.append_assoc]
  constructor
  · rintro ⟨directory, hsame, _, hreadable, hentry⟩
    cases hsame
    exact ⟨hreadable, hentry⟩
  · rintro ⟨hreadable, hentry⟩
    exact ⟨_, rfl, hdirectory, hreadable, hentry⟩

theorem nodup_dirents (host : Host) (o : Origin) (path : Path) :
    ((o.dirents host path).map Prod.fst).Nodup := by
  unfold dirents Host.sortedDirents
  cases host.fs.realpath (o.operationPath ++ path) with
  | none => exact List.nodup_nil
  | some directory =>
    rw [Option.bind_some]
    split
    · have hperm := (List.perm_insertionSort (fun a b : Name × Entry =>
        host.localeLE a.1 b.1 = true) (host.fs.dirents directory)).map Prod.fst
      exact hperm.nodup_iff.mpr (FileSystem.nodup_dirents directory)
    · exact List.nodup_nil

theorem nodup_directories (host : Host) (o : Origin) (path : Path) :
    (o.directories host path).Nodup := by
  have hsublist : (o.directories host path).Sublist ((o.dirents host path).map Prod.fst) := by
    unfold directories
    induction o.dirents host path with
    | nil => exact List.Sublist.refl _
    | cons dirent rest ih =>
      rw [List.filterMap_cons, List.map_cons]
      split
      · exact ih.cons _
      · next name hname =>
        split at hname
        · cases hname
          exact ih.cons_cons _
        · cases hname
  exact (nodup_dirents host o path).sublist hsublist

/-- A traversal has no more nodes than the tree has entries. -/
theorem Resolved.frontier_le (h : o.Resolved host.fs) {children : Path → List Name}
    (hchildren : ∀ path, children path ⊆ o.directories host path) {taken queue : List Path}
    (hfrontier : Frontier children taken queue) :
    (taken ++ queue).length ≤ host.fs.entries.size := by
  have hle := hfrontier.length_le (fun path => o.canonicalPath ++ path) host.fs.entries.keys
    (List.append_right_injective _) ?_
  · simpa [OrderedMap.keys, OrderedMap.size] using hle
  · intro path hpath
    rw [OrderedMap.mem_keys_iff, OrderedMap.has_iff]
    exact ⟨_, (h.reachable (hpath.mono hchildren)).2⟩

end Nodes

end Origin

/-! ## list -/

namespace ListRequest

def origin (r : ListRequest) (start : QueueItem) : Origin :=
  ⟨r.workspace, start.operationPath, start.canonicalPath⟩

/-- The directories that the action enters from a node. -/
def children (r : ListRequest) (host : Host) (o : Origin) (path : Path) : List Name :=
  if r.isRecursive = true ∧ path.length + 1 < r.maxDepth then o.directories host path else []

/-- What the action shows of an entry. -/
def shown (r : ListRequest) (host : Host) (o : Origin) (path : Path) (dirent : Name × Entry) :
    Option ListEntry :=
  if o.hidden (path ++ [dirent.1]) then none
  else
    (listedType host r.workspace (o.operationPath ++ (path ++ [dirent.1])) dirent.2).map fun shown =>
      ⟨dirent.1, relative r.workspace.root (o.operationPath ++ (path ++ [dirent.1])), shown.1,
        shown.2⟩

/-- What the action queues for an entry. -/
def queued (r : ListRequest) (o : Origin) (path : Path) (dirent : Name × Entry) :
    Option QueueItem :=
  if dirent.2 = .directory ∧ o.hidden (path ++ [dirent.1]) = false ∧
      r.isRecursive = true ∧ path.length + 1 < r.maxDepth then
    some (o.item (path ++ [dirent.1]))
  else none

theorem children_subset (r : ListRequest) (host : Host) (o : Origin) (path : Path) :
    r.children host o path ⊆ o.directories host path := by
  unfold children
  split
  · exact List.Subset.refl _
  · exact List.nil_subset _

theorem nodup_children (r : ListRequest) (host : Host) (o : Origin) (path : Path) :
    (r.children host o path).Nodup := by
  unfold children
  split
  · exact Origin.nodup_directories host o path
  · exact List.nodup_nil

end ListRequest

section List
variable {host : Host} {r : ListRequest} {o : Origin} {path : Path}

theorem listedType_directory {e : Entry} {full : Path} {size : Option ℕ}
    (h : listedType host r.workspace full e = some (.directory, size)) : e = .directory := by
  unfold listedType at h
  cases e with
  | directory => rfl
  | file _ _ => cases h
  | other => cases h
  | symlink target =>
    dsimp only at h
    split at h
    · split at h
      · cases h
      · cases h
    · cases h

/-- What the loop over the entries of a node does: it shows them and queues its directories, unless
it stops at the limit. -/
theorem listEntries_spec (ho : o.workspace = r.workspace) {dirents : List (Name × Entry)}
    {s s' : ListState} (h : listEntries host r (o.item path) dirents s = .ok s')
    (hlimit : s.entries.length < r.limit) (hopen : s.truncated = false) :
    (s'.truncated = false ∧ s'.entries.length < r.limit ∧
      s'.entries = s.entries ++ dirents.filterMap (r.shown host o path) ∧
      s'.queue = s.queue ++ dirents.filterMap (r.queued o path)) ∨
    (s'.truncated = true ∧ s'.entries.length = r.limit ∧
      ∃ taken, taken <+: dirents ∧
        s'.entries = s.entries ++ taken.filterMap (r.shown host o path)) := by
  induction dirents generalizing s with
  | nil =>
    cases h
    exact .inl ⟨hopen, hlimit, by simp, by simp⟩
  | cons dirent rest ih =>
    obtain ⟨name, e⟩ := dirent
    unfold listEntries at h
    dsimp only at h
    rw [← ho, ← Origin.hidden_concat] at h
    have hfull : (o.item path).operationPath ++ [name] = o.operationPath ++ (path ++ [name]) := by
      simp [Origin.item]
    rw [hfull] at h
    split at h
    · cases h
    · split at h
      · next hhidden =>
        -- The entry is denied.
        have hskip : r.shown host o path (name, e) = none := if_pos hhidden
        rcases ih h hlimit hopen with ⟨htruncated, hlength, hentries, hqueue⟩ | hstopped
        · refine .inl ⟨htruncated, hlength, ?_, ?_⟩
          · rw [hentries, List.filterMap_cons_none hskip]
          · rw [hqueue, List.filterMap_cons_none]
            simp [ListRequest.queued, hhidden]
        · obtain ⟨htruncated, hlength, taken, htaken, hentries⟩ := hstopped
          refine .inr ⟨htruncated, hlength, (name, e) :: taken,
            List.cons_prefix_cons.mpr ⟨rfl, htaken⟩, ?_⟩
          rw [hentries, List.filterMap_cons_none hskip]
      · next hshown =>
        rw [Bool.not_eq_true] at hshown
        rw [ho] at h
        cases htype : listedType host r.workspace (o.operationPath ++ (path ++ [name])) e with
        | none =>
          -- A link that leads out of what may be shown.
          rw [htype] at h
          have hskip : r.shown host o path (name, e) = none := by
            unfold ListRequest.shown
            rw [if_neg (by simp [hshown]), htype]
            rfl
          have hfile : e ≠ .directory := by
            rintro rfl
            cases htype
          rcases ih h hlimit hopen with ⟨htruncated, hlength, hentries, hqueue⟩ | hstopped
          · refine .inl ⟨htruncated, hlength, ?_, ?_⟩
            · rw [hentries, List.filterMap_cons_none hskip]
            · rw [hqueue, List.filterMap_cons_none]
              simp [ListRequest.queued, hfile]
          · obtain ⟨htruncated, hlength, taken, htaken, hentries⟩ := hstopped
            refine .inr ⟨htruncated, hlength, (name, e) :: taken,
              List.cons_prefix_cons.mpr ⟨rfl, htaken⟩, ?_⟩
            rw [hentries, List.filterMap_cons_none hskip]
        | some shown =>
          obtain ⟨type, size⟩ := shown
          rw [htype] at h
          dsimp only at h
          have htake : r.shown host o path (name, e) =
              some ⟨name, relative r.workspace.root (o.operationPath ++ (path ++ [name])), type,
                size⟩ := by
            unfold ListRequest.shown
            rw [if_neg (by simp [hshown]), htype]
            rfl
          have hdirectory : type = .directory ↔ e = .directory := by
            constructor
            · rintro rfl
              exact listedType_directory htype
            · rintro rfl
              cases htype
              rfl
          split at h
          · next hfull =>
            cases h
            refine .inr ⟨rfl, ?_, [(name, e)], List.cons_prefix_cons.mpr ⟨rfl, List.nil_prefix⟩, ?_⟩
            · rw [List.length_append, List.length_singleton] at hfull ⊢
              omega
            · rw [List.filterMap_cons_some htake]
              rfl
          · next hroom =>
            rw [Nat.not_le] at hroom
            have hqueued : (if type = .directory ∧ r.isRecursive = true ∧
                  (o.item path).currentDepth + 1 < r.maxDepth then
                [(⟨o.operationPath ++ (path ++ [name]), (o.item path).canonicalPath ++ [name],
                  (o.item path).currentDepth + 1⟩ : QueueItem)]
                else []) = (r.queued o path (name, e)).toList := by
              unfold ListRequest.queued
              by_cases hqueue : type = .directory ∧ r.isRecursive = true ∧
                  (o.item path).currentDepth + 1 < r.maxDepth
              · rw [if_pos hqueue, if_pos ⟨hdirectory.mp hqueue.1, hshown, hqueue.2⟩, Origin.item_concat,
                  hfull]
                rfl
              · rw [if_neg hqueue, if_neg]
                · rfl
                · rintro ⟨he, _, hrest⟩
                  exact hqueue ⟨hdirectory.mpr he, hrest⟩
            rcases ih h hroom hopen with ⟨htruncated, hlength, hentries, hqueue⟩ | hstopped
            · refine .inl ⟨htruncated, hlength, ?_, ?_⟩
              · rw [hentries, List.filterMap_cons_some htake, List.append_assoc]
                rfl
              · rw [hqueue, hqueued, List.append_assoc]
                cases hnext : r.queued o path (name, e) with
                | none => rw [List.filterMap_cons_none hnext]; rfl
                | some item => rw [List.filterMap_cons_some hnext]; rfl
            · obtain ⟨htruncated, hlength, taken, htaken, hentries⟩ := hstopped
              refine .inr ⟨htruncated, hlength, (name, e) :: taken,
                List.cons_prefix_cons.mpr ⟨rfl, htaken⟩, ?_⟩
              rw [hentries, List.filterMap_cons_some htake, List.append_assoc]
              rfl

/-- An entry that the action shows, with where it found it. -/
def Shows (host : Host) (r : ListRequest) (o : Origin) (entry : ListEntry) : Prop :=
  ∃ path dirent, Reachable (r.children host o) path ∧ dirent ∈ o.dirents host path ∧
    r.shown host o path dirent = some entry

/-- Between two rounds of the loop: every node of `taken` has been listed, those of `queue` wait. -/
structure ListProgress (host : Host) (r : ListRequest) (o : Origin) (taken queue : List Path)
    (s : ListState) : Prop where
  frontier : Frontier (r.children host o) taken queue
  items : s.queue = queue.map o.item
  entries : s.entries =
    taken.flatMap fun path => (o.dirents host path).filterMap (r.shown host o path)
  room : s.entries.length < r.limit
  whole : s.truncated = false

theorem ListProgress.start (host : Host) (o : Origin) (hlimit : 0 < r.limit) :
    ListProgress host r o [] [[]] ⟨[o.item []], [], false⟩ :=
  ⟨.start, rfl, rfl, hlimit, rfl⟩

theorem ListProgress.shows {taken queue : List Path} {s : ListState}
    (h : ListProgress host r o taken queue s) : ∀ entry ∈ s.entries, Shows host r o entry := by
  intro entry hentry
  rw [h.entries] at hentry
  obtain ⟨path, hpath, hshown⟩ := List.mem_flatMap.mp hentry
  obtain ⟨dirent, hdirent, hsome⟩ := List.mem_filterMap.mp hshown
  exact ⟨path, dirent, h.frontier.reachable path (List.mem_append_left _ hpath), hdirent, hsome⟩

theorem ListProgress.goes {taken queue : List Path} {s : ListState}
    (h : ListProgress host r o taken queue s) : ¬ s.truncated = true := by
  rw [h.whole]
  exact Bool.false_ne_true

theorem filterMap_queued (host : Host) (r : ListRequest) (o : Origin) (path : Path) :
    (o.dirents host path).filterMap (r.queued o path) =
      ((r.children host o path).map fun name => path ++ [name]).map o.item := by
  unfold ListRequest.queued ListRequest.children
  by_cases hdeeper : r.isRecursive = true ∧ path.length + 1 < r.maxDepth
  · rw [if_pos hdeeper, List.map_map]
    unfold Origin.directories
    rw [List.map_filterMap]
    refine List.filterMap_congr fun dirent _ => ?_
    by_cases hshown : dirent.2 = .directory ∧ o.hidden (path ++ [dirent.1]) = false
    · rw [if_pos ⟨hshown.1, hshown.2, hdeeper⟩, if_pos hshown]
      rfl
    · rw [if_neg fun hall => hshown ⟨hall.1, hall.2.1⟩, if_neg hshown]
      rfl
  · rw [if_neg hdeeper, List.filterMap_eq_nil_iff.mpr]
    · rfl
    · intro dirent _
      rw [if_neg fun hall => hdeeper hall.2.2]

/-- A directory that cannot be read has no entries. -/
theorem ListProgress.skip {taken queue : List Path} {s : ListState}
    (h : ListProgress host r o taken (path :: queue) s)
    (hnone : host.sortedDirents (o.item path).operationPath = none) :
    ListProgress host r o (taken ++ [path]) queue { s with queue := queue.map o.item } := by
  have hdirents : o.dirents host path = [] := Origin.dirents_of_none hnone
  have hchildren : r.children host o path = [] := by
    unfold ListRequest.children Origin.directories
    rw [hdirents]
    split
    · rfl
    · rfl
  have hfrontier := h.frontier.step (r.nodup_children host o path)
  rw [hchildren, List.map_nil, List.append_nil] at hfrontier
  refine ⟨hfrontier, rfl, ?_, h.room, h.whole⟩
  rw [List.flatMap_append, List.flatMap_singleton, hdirents]
  exact h.entries.trans (List.append_nil _).symm

theorem ListProgress.next {taken queue : List Path} {s s' : ListState}
    {dirents : List (Name × Entry)} (h : ListProgress host r o taken (path :: queue) s)
    (ho : o.workspace = r.workspace)
    (hsome : host.sortedDirents (o.item path).operationPath = some dirents)
    (hrun : listEntries host r (o.item path) dirents { s with queue := queue.map o.item } = .ok s') :
    ListProgress host r o (taken ++ [path])
        (queue ++ (r.children host o path).map fun name => path ++ [name]) s' ∨
      s'.truncated = true ∧ s'.entries.length = r.limit ∧
        ∀ entry ∈ s'.entries, Shows host r o entry := by
  have hdirents : o.dirents host path = dirents := Origin.dirents_of_some hsome
  have hreachable := h.frontier.reachable path (List.mem_append_right _ List.mem_cons_self)
  rcases listEntries_spec ho hrun h.room h.whole with
    ⟨htruncated, hlength, hentries, hqueue⟩ | ⟨htruncated, hlength, shown, hshown, hentries⟩
  · refine .inl ⟨h.frontier.step (r.nodup_children host o path), ?_, ?_, hlength, htruncated⟩
    · rw [hqueue, ← hdirents, filterMap_queued, List.map_append]
    · rw [hentries, List.flatMap_append, List.flatMap_singleton, hdirents]
      exact congrArg (· ++ _) h.entries
  · refine .inr ⟨htruncated, hlength, ?_⟩
    intro entry hentry
    rw [hentries] at hentry
    rcases List.mem_append.mp hentry with hold | hnew
    · exact h.shows entry hold
    · obtain ⟨dirent, hdirent, htake⟩ := List.mem_filterMap.mp hnew
      exact ⟨path, dirent, hreachable, hdirents ▸ hshown.subset hdirent, htake⟩

theorem listLoop_truncated {rounds : ℕ} {s : ListState} (h : s.truncated = true) :
    listLoop host r (rounds + 1) s = some (.ok s) := by
  unfold listLoop
  split
  · rfl
  · rw [if_pos h]

/-- Every round takes a node, and there are no more nodes than entries of the tree. -/
theorem listLoop_terminates (ho : o.workspace = r.workspace) (hresolved : o.Resolved host.fs)
    {taken queue : List Path} {s : ListState} (h : ListProgress host r o taken queue s)
    {rounds : ℕ} (hrounds : host.fs.entries.size < taken.length + rounds) :
    ∃ answer, listLoop host r rounds s = some answer := by
  induction rounds generalizing taken queue s with
  | zero =>
    have hle := hresolved.frontier_le (r.children_subset host o) h.frontier
    rw [List.length_append] at hle
    omega
  | succ rounds ih =>
    have hle := hresolved.frontier_le (r.children_subset host o) h.frontier
    unfold listLoop
    cases queue with
    | nil =>
      rw [h.items]
      exact ⟨_, rfl⟩
    | cons path queue =>
      rw [h.items, List.map_cons]
      split
      · exact ⟨_, rfl⟩
      · next current rest hqueue =>
        obtain ⟨rfl, rfl⟩ := List.cons.inj hqueue
        rw [if_neg h.goes]
        split
        · exact ⟨_, rfl⟩
        · split
          · next hnone =>
            refine ih (h.skip hnone) ?_
            rw [List.length_append, List.length_singleton]
            omega
          · next dirents hsome =>
            split
            · exact ⟨_, rfl⟩
            · next s' hrun =>
              rcases h.next ho hsome hrun with hnext | ⟨htruncated, _⟩
              · refine ih hnext ?_
                rw [List.length_append, List.length_singleton]
                omega
              · rw [List.length_append, List.length_cons] at hle
                obtain ⟨more, rfl⟩ : ∃ more, rounds = more + 1 := ⟨rounds - 1, by omega⟩
                exact ⟨_, listLoop_truncated htruncated⟩

/-- More rounds change nothing. -/
theorem listLoop_more {rounds more : ℕ} {s : ListState} {answer : Except ToolDomainError ListState}
    (h : listLoop host r rounds s = some answer) (hmore : rounds ≤ more) :
    listLoop host r more s = some answer := by
  induction rounds generalizing more s with
  | zero => cases h
  | succ rounds ih =>
    obtain ⟨more, rfl⟩ : ∃ n, more = n + 1 := ⟨more - 1, by omega⟩
    have hless : rounds ≤ more := by omega
    unfold listLoop at h ⊢
    split at h
    · exact h
    · split at h
      · next hstop =>
        rw [if_pos hstop]
        exact h
      · next hgo =>
        rw [if_neg hgo]
        split at h
        · next habort =>
          rw [if_pos habort]
          exact h
        · next hquiet =>
          rw [if_neg hquiet]
          split at h
          · exact ih h hless
          · split at h
            · exact h
            · exact ih h hless

/-- The loop ends with every node listed, or with as many entries as it may return. -/
theorem listLoop_ok (ho : o.workspace = r.workspace) {rounds : ℕ} {taken queue : List Path}
    {s s' : ListState} (h : ListProgress host r o taken queue s)
    (hrun : listLoop host r rounds s = some (.ok s')) :
    (∃ all, ListProgress host r o all [] s') ∨
      s'.truncated = true ∧ s'.entries.length = r.limit ∧
        ∀ entry ∈ s'.entries, Shows host r o entry := by
  induction rounds generalizing taken queue s with
  | zero => cases hrun
  | succ rounds ih =>
    unfold listLoop at hrun
    cases queue with
    | nil =>
      rw [h.items] at hrun
      cases hrun
      exact .inl ⟨taken, h⟩
    | cons path queue =>
      rw [h.items, List.map_cons] at hrun
      split at hrun
      · next hqueue => cases hqueue
      · next current rest hqueue =>
        obtain ⟨rfl, rfl⟩ := List.cons.inj hqueue
        rw [if_neg h.goes] at hrun
        split at hrun
        · cases hrun
        · split at hrun
          · next hnone => exact ih (h.skip hnone) hrun
          · next dirents hsome =>
            split at hrun
            · cases hrun
            · next next hentries =>
              rcases h.next ho hsome hentries with hnext | hstopped
              · exact ih hnext hrun
              · cases rounds with
                | zero => cases hrun
                | succ rounds =>
                  rw [listLoop_truncated hstopped.1] at hrun
                  cases hrun
                  exact .inr hstopped

end List

end Doctmcp.Tools.FilesystemRead

import Doctmcp.Tools.Exposure

/-! # What `list` and `search` find

`Present` is an entry of the tree that a traversal has to come to, said of the tree alone. A call that
is not truncated returns every one of them. -/

namespace Doctmcp.Tools.FilesystemRead
open Doctmcp.Lib Doctmcp.Lib.PosixPath
set_option autoImplicit false

/-! ## Lines -/

def dropReturn (piece : List Char) : List Char :=
  if piece.getLast? = some '\r' then piece.dropLast else piece

/-- Each piece but the last one has ended in LF, or in CR and LF. -/
def dropReturns : List (List Char) → List (List Char)
  | [] => []
  | [last] => [last]
  | piece :: next :: rest => dropReturn piece :: dropReturns (next :: rest)

def lines (text : List Char) : List (List Char) := dropReturns (text.splitOn '\n')

theorem dropReturns_cons {piece : List Char} {rest : List (List Char)} (h : rest ≠ []) :
    dropReturns (piece :: rest) = dropReturn piece :: dropReturns rest := by
  cases rest with
  | nil => exact absurd rfl h
  | cons next rest => rfl

theorem dropReturn_cons (c d : Char) (piece : List Char) :
    dropReturn (c :: d :: piece) = c :: dropReturn (d :: piece) := by
  unfold dropReturn
  rw [List.getLast?_cons_cons, List.dropLast_cons_cons]
  split
  · rfl
  · rfl

theorem splitLines_feed (chars : List Char) :
    splitLines ('\n' :: chars) = [] :: splitLines chars := if_pos rfl

theorem splitLines_end {c : Char} (rest : List Char) (hc : c ≠ '\n') :
    splitLines (c :: '\n' :: rest) = dropReturn [c] :: splitLines rest := by
  show (if c = '\n' then _ else if c = '\r' then [] :: splitLines rest else [c] :: splitLines rest) = _
  rw [if_neg hc]
  unfold dropReturn
  rw [List.getLast?_singleton]
  by_cases hreturn : c = '\r'
  · rw [if_pos hreturn, if_pos (congrArg some hreturn)]
    rfl
  · rw [if_neg hreturn, if_neg fun hsome => hreturn (Option.some.inj hsome)]

theorem splitLines_inside {c d : Char} {rest line : List Char} {lines : List (List Char)}
    (hc : c ≠ '\n') (hd : d ≠ '\n') (h : splitLines (d :: rest) = line :: lines) :
    splitLines (c :: d :: rest) = (c :: line) :: lines := by
  unfold splitLines
  rw [if_neg hc, h]
  split
  · next hlf => exact absurd (List.cons.inj hlf).1 hd
  · next hcons _ =>
    cases hcons
    rfl
  · next hnil => cases hnil

theorem lines_cons (c : Char) (chars : List Char) :
    lines (c :: chars) =
      if c = '\n' then [] :: lines chars
      else dropReturns ((chars.splitOn '\n').modifyHead (c :: ·)) := by
  unfold lines
  rw [List.splitOn_cons_eq_if_modifyHead]
  by_cases hc : c = '\n'
  · rw [if_pos hc, if_pos (by simpa using hc), dropReturns_cons (List.splitOn_ne_nil _ _)]
    rfl
  · rw [if_neg hc, if_neg (by simpa using hc)]

/-- The source's `split` cuts where a line ends. -/
theorem splitLines_eq_lines (text : List Char) : splitLines text = lines text := by
  induction text with
  | nil => rfl
  | cons c chars ih =>
    rw [lines_cons]
    by_cases hc : c = '\n'
    · rw [if_pos hc, hc, splitLines_feed, ih]
    · rw [if_neg hc]
      cases chars with
      | nil => exact if_neg hc
      | cons d rest =>
        rw [lines_cons] at ih
        rw [List.splitOn_cons_eq_if_modifyHead]
        by_cases hd : d = '\n'
        · subst hd
          rw [if_pos rfl, splitLines_feed] at ih
          rw [if_pos (by rfl), List.modifyHead_cons, dropReturns_cons (List.splitOn_ne_nil _ _),
            splitLines_end rest hc, (List.cons.inj ih).2]
          rfl
        · rw [if_neg hd] at ih
          rw [if_neg (by simpa using hd)]
          obtain ⟨piece, pieces, hpieces⟩ :=
            List.exists_cons_of_ne_nil (List.splitOn_ne_nil '\n' rest)
          rw [hpieces, List.modifyHead_cons] at ih ⊢
          rw [List.modifyHead_cons]
          cases pieces with
          | nil => exact splitLines_inside hc hd ih
          | cons next pieces =>
            rw [dropReturns_cons (List.cons_ne_nil _ _)] at ih ⊢
            rw [dropReturn_cons]
            exact splitLines_inside hc hd ih

/-! ## The entries of the tree -/

/-- The directories that lead down from the target, through real directories that are not denied. -/
inductive Down (fs : FileSystem) (o : Origin) : Path → Prop
  | target : Down fs o []
  | enter {node : Path} {name : Name} : Down fs o node →
      fs.entry (o.canonicalPath ++ (node ++ [name])) = some .directory →
      o.hidden (node ++ [name]) = false → Down fs o (node ++ [name])

/-- An entry below the target that is not denied. -/
structure Present (fs : FileSystem) (o : Origin) (node : Path) (name : Name) (e : Entry) :
    Prop where
  down : Down fs o node
  entry : fs.entry (o.canonicalPath ++ (node ++ [name])) = some e
  shown : o.hidden (node ++ [name]) = false

section Tree
variable {host : Host} {o : Origin} {path node : Path} {name : Name} {e : Entry}

theorem reachable_iff_down (hresolved : o.Resolved host.fs)
    (hreadable : ∀ path, host.readable path = true) :
    Reachable (o.directories host) path ↔ Down host.fs o path := by
  constructor
  · intro h
    induction h with
    | root => exact .target
    | step hpath hname ih =>
      obtain ⟨hentry, hshown⟩ := Origin.mem_directories.mp hname
      exact .enter ih ((hresolved.mem_dirents_iff hpath).mp hentry).2 hshown
  · intro h
    induction h with
    | target => exact .root
    | enter _ hentry hshown ih =>
      refine .step ih (Origin.mem_directories.mpr ⟨?_, hshown⟩)
      exact (hresolved.mem_dirents_iff ih).mpr ⟨hreadable _, hentry⟩

theorem present_iff (hresolved : o.Resolved host.fs)
    (hreadable : ∀ path, host.readable path = true) :
    Present host.fs o node name e ↔ Reachable (o.directories host) node ∧
      (name, e) ∈ o.dirents host node ∧ o.hidden (node ++ [name]) = false := by
  constructor
  · rintro ⟨hdown, hentry, hshown⟩
    have hnode := (reachable_iff_down hresolved hreadable).mpr hdown
    exact ⟨hnode, (hresolved.mem_dirents_iff hnode).mpr ⟨hreadable _, hentry⟩, hshown⟩
  · rintro ⟨hnode, hentry, hshown⟩
    exact ⟨(reachable_iff_down hresolved hreadable).mp hnode,
      ((hresolved.mem_dirents_iff hnode).mp hentry).2, hshown⟩

theorem Present.realpath (hresolved : o.Resolved host.fs)
    (hreadable : ∀ path, host.readable path = true) (h : Present host.fs o node name e)
    (hlink : e.isSymbolicLink = false) :
    host.fs.realpath (o.operationPath ++ (node ++ [name])) =
      some (o.canonicalPath ++ (node ++ [name])) := by
  have hnode := (reachable_iff_down hresolved hreadable).mpr h.down
  have hentry := h.entry
  rw [← List.append_assoc] at hentry
  rw [← List.append_assoc, ← List.append_assoc]
  exact FileSystem.realpath_concat (hresolved.reachable hnode).1 hentry hlink

/-- Keys that name their entry are distinct over all nodes. -/
theorem nodup_contributions {K : Type} (host : Host) (o : Origin) {taken : List Path}
    (htaken : taken.Nodup) (keys : Path → Name × Entry → List K) (place : K → Path)
    (hkeys : ∀ path dirent, (keys path dirent).Nodup)
    (hplace : ∀ path dirent, ∀ key ∈ keys path dirent,
      place key = o.operationPath ++ (path ++ [dirent.1])) :
    (taken.flatMap fun path => (o.dirents host path).flatMap (keys path)).Nodup := by
  have hseparate : ∀ {path path' : Path} {dirent dirent' : Name × Entry} {key : K},
      key ∈ keys path dirent → key ∈ keys path' dirent' → path = path' ∧ dirent.1 = dirent'.1 := by
    intro path path' dirent dirent' key hkey hkey'
    have hsame : o.operationPath ++ (path ++ [dirent.1]) =
        o.operationPath ++ (path' ++ [dirent'.1]) :=
      (hplace _ _ _ hkey).symm.trans (hplace _ _ _ hkey')
    obtain ⟨hpath, hname⟩ := List.append_inj' (List.append_cancel_left hsame) rfl
    exact ⟨hpath, (List.cons.inj hname).1⟩
  refine List.nodup_flatMap.mpr ⟨fun path _ => List.nodup_flatMap.mpr ⟨fun dirent _ => hkeys _ _, ?_⟩, ?_⟩
  · have hnames := List.pairwise_map.mp (Origin.nodup_dirents host o path)
    refine hnames.imp fun hne => ?_
    intro key hkey hkey'
    exact hne (hseparate hkey hkey').2
  · refine List.Pairwise.imp (fun hne => ?_) htaken
    intro key hkey hkey'
    obtain ⟨dirent, _, hmem⟩ := List.mem_flatMap.mp hkey
    obtain ⟨dirent', _, hmem'⟩ := List.mem_flatMap.mp hkey'
    exact hne (hseparate hmem hmem').1

end Tree

/-! ## list -/

/-- How `list` describes an entry. -/
def listedAs : Entry → EntryType × Option ℕ
  | .file content _ => (.file, some content.length)
  | .directory => (.directory, none)
  | .symlink _ => (.symlink, none)
  | .other => (.other, none)

/-- How far down a call lists. -/
def listDepth (recursive : Option Bool) (maxDepth : Option (Between 1 10)) : ℕ :=
  if recursive.getD false then (maxDepth.map Subtype.val).getD 5 else 1

/-- What a whole list shows. -/
def Listed (fs : FileSystem) (o : Origin) (depth : ℕ) (entry : ListEntry) : Prop :=
  ∃ node e, Present fs o node entry.name e ∧ node.length + 1 ≤ depth ∧
    (∀ link target, e = .symlink link →
      fs.realpath (o.operationPath ++ (node ++ [entry.name])) = some target →
        Exposable o.workspace target) ∧
    entry.path = relative o.workspace.root (o.operationPath ++ (node ++ [entry.name])) ∧
    (entry.type, entry.size) = listedAs e

section List
variable {host : Host} {r : ListRequest} {o : Origin} {path node : Path}

theorem reachable_children_iff (hdepth : 1 ≤ r.maxDepth) :
    Reachable (r.children host o) path ↔ Reachable (o.directories host) path ∧
      path.length + 1 ≤ if r.isRecursive then r.maxDepth else 1 := by
  constructor
  · intro h
    refine ⟨h.mono (r.children_subset host o), ?_⟩
    cases h with
    | root =>
      split
      · exact hdepth
      · exact Nat.le_refl _
    | @step path name _ hname =>
      unfold ListRequest.children at hname
      split at hname
      · next hdeeper =>
        rw [if_pos hdeeper.1, List.length_append]
        exact hdeeper.2
      · cases hname
  · rintro ⟨h, hle⟩
    induction h with
    | root => exact .root
    | @step path name _ hname ih =>
      rw [List.length_append, List.length_singleton] at hle
      have hrecursive : r.isRecursive = true := by
        by_contra hflat
        rw [if_neg hflat] at hle
        omega
      rw [if_pos hrecursive] at hle ih
      refine .step (ih (by omega)) ?_
      unfold ListRequest.children
      rw [if_pos ⟨hrecursive, by omega⟩]
      exact hname

theorem listedType_iff {full : Path} {e : Entry} (hlstat : host.fs.lstat full = some e)
    {shown : EntryType × Option ℕ} :
    listedType host r.workspace full e = some shown ↔
      (∀ link target, e = .symlink link → host.fs.realpath full = some target →
        Exposable r.workspace target) ∧ shown = listedAs e := by
  cases e with
  | symlink link =>
    unfold listedType
    cases hreal : host.fs.realpath full with
    | none => simp [listedAs, eq_comm]
    | some target =>
      dsimp only
      by_cases hallowed : linkAllowed r.workspace target = true
      · rw [if_pos hallowed]
        have hexposable := linkAllowed_iff.mp hallowed
        simp [listedAs, hexposable, eq_comm]
      · rw [if_neg hallowed]
        have hrefused : ¬ Exposable r.workspace target := fun h => hallowed (linkAllowed_iff.mpr h)
        simp [hrefused]
  | directory => simp [listedType, listedAs, eq_comm]
  | file content mode => simp [listedType, listedAs, hlstat, eq_comm]
  | other => simp [listedType, listedAs, eq_comm]

theorem Present.lstat (hresolved : o.Resolved host.fs)
    (hreadable : ∀ path, host.readable path = true) {name : Name} {e : Entry}
    (h : Present host.fs o node name e) :
    host.fs.lstat (o.operationPath ++ (node ++ [name])) = some e := by
  have hnode := (reachable_iff_down hresolved hreadable).mpr h.down
  have hentry := h.entry
  unfold FileSystem.lstat
  rw [← List.append_assoc] at hentry ⊢
  rw [FileSystem.location_concat, (hresolved.reachable hnode).1]
  exact hentry

theorem shown_path {dirent : Name × Entry} {entry : ListEntry}
    (hbelow : o.workspace.root <+: o.operationPath) (ho : o.workspace = r.workspace)
    (h : r.shown host o node dirent = some entry) :
    join o.workspace.root entry.path = o.operationPath ++ (node ++ [dirent.1]) := by
  unfold ListRequest.shown at h
  split at h
  · cases h
  · obtain ⟨shown, _, rfl⟩ := Option.map_eq_some_iff.mp h
    rw [← ho]
    exact join_relative (hbelow.trans (List.prefix_append _ _))

/-- A list that is not truncated shows the entries of the tree, each of them once. -/
theorem ListProgress.complete {all : List Path} {s : ListState} (ho : o.workspace = r.workspace)
    (hresolved : o.Resolved host.fs) (hbelow : o.workspace.root <+: o.operationPath)
    (hreadable : ∀ path, host.readable path = true) (hdepth : 1 ≤ r.maxDepth)
    (h : ListProgress host r o all [] s) :
    (s.entries.map ListEntry.path).Nodup ∧ ∀ entry, entry ∈ s.entries ↔
      Listed host.fs o (if r.isRecursive then r.maxDepth else 1) entry := by
  constructor
  · have hkeys : s.entries.map ListEntry.path = all.flatMap fun path =>
        (o.dirents host path).flatMap fun dirent =>
          ((r.shown host o path dirent).map ListEntry.path).toList := by
      rw [h.entries, List.map_flatMap]
      refine List.flatMap_congr fun path _ => ?_
      rw [List.map_filterMap, List.filterMap_eq_flatMap_toList]
    rw [hkeys]
    refine nodup_contributions host o (by simpa using h.frontier.nodup) _
      (join o.workspace.root) (fun path dirent => ?_) ?_
    · cases r.shown host o path dirent with
      | none => exact List.nodup_nil
      | some entry => exact List.nodup_singleton _
    · intro path dirent key hkey
      obtain ⟨entry, hshown, rfl⟩ := Option.map_eq_some_iff.mp (Option.mem_toList.mp hkey)
      exact shown_path hbelow ho hshown
  · intro entry
    rw [h.entries, List.mem_flatMap]
    simp only [List.mem_filterMap, h.frontier.complete, reachable_children_iff hdepth]
    constructor
    · rintro ⟨node, ⟨hnode, hle⟩, ⟨name, e⟩, hentry, hsome⟩
      unfold ListRequest.shown at hsome
      split at hsome
      · cases hsome
      · next hshown =>
        rw [Bool.not_eq_true] at hshown
        obtain ⟨shown, htype, rfl⟩ := Option.map_eq_some_iff.mp hsome
        have hpresent := (present_iff hresolved hreadable).mpr ⟨hnode, hentry, hshown⟩
        obtain ⟨hallowed, hlisted⟩ := (listedType_iff (hpresent.lstat hresolved hreadable)).mp htype
        rw [← ho] at hallowed ⊢
        exact ⟨node, e, hpresent, hle, hallowed, rfl, hlisted⟩
    · rintro ⟨node, e, hpresent, hle, hallowed, hpath, hlisted⟩
      obtain ⟨hnode, hentry, hshown⟩ := (present_iff hresolved hreadable).mp hpresent
      refine ⟨node, ⟨hnode, hle⟩, (entry.name, e), hentry, ?_⟩
      unfold ListRequest.shown
      rw [ho] at hallowed hpath
      rw [if_neg (ne_true_of_eq_false hshown),
        (listedType_iff (hpresent.lstat hresolved hreadable)).mpr ⟨hallowed, hlisted⟩, ← hpath]
      rfl

end List

/-! ## search -/

/-- A file whose lines are compared with the query, and its text. -/
def Eligible (fs : FileSystem) (file : Path) (text : String) : Prop :=
  ∃ content mode, fs.stat file = some (.file content mode) ∧
    content.length ≤ MAX_SEARCH_FILE_SIZE ∧ (∀ byte ∈ content.take 8192, byte ≠ 0) ∧
    textDecode content = some text

/-- A line of the file that contains the query. -/
def IsMatch (fs : FileSystem) (root : Path) (query : Utf16.Text) (file : Path) (m : Match) : Prop :=
  ∃ text i line, Eligible fs file text ∧ (lines text.toList)[i]? = some line ∧
    Utf16.includes (Utf16.encode line) query = true ∧
    m = ⟨relative root file, i + 1, (Utf16.encode line).take MAX_SEARCH_LINE_PREVIEW⟩

/-- An entry that stands for a file that has to be looked into, itself or through a link. -/
structure Sought (fs : FileSystem) (o : Origin) (node : Path) (name : Name) (e : Entry) :
    Prop where
  present : Present fs o node name e
  file : ∃ content mode,
    fs.stat (o.operationPath ++ (node ++ [name])) = some (.file content mode)
  allowed : ∀ target, fs.realpath (o.operationPath ++ (node ++ [name])) = some target →
    Exposable o.workspace target

/-- The files that a search of the target has to look into. -/
def SoughtFile (fs : FileSystem) (o : Origin) (target : Entry) (file : Path) : Prop :=
  match target with
  | .file _ _ => file = o.operationPath
  | .directory => ∃ node name e, Sought fs o node name e ∧ file = o.operationPath ++ (node ++ [name])
  | _ => False

/-- The matches are those of the files, each of them once. -/
structure Reports (fs : FileSystem) (o : Origin) (target : Entry) (query : Utf16.Text)
    (found : List Match) : Prop where
  once : (found.map fun m => (m.path, m.lineNumber)).Nodup
  exact : ∀ m, m ∈ found ↔
    ∃ file, SoughtFile fs o target file ∧ IsMatch fs o.workspace.root query file m

/-- A link to a file with a match, before which the abort check throws. -/
def LosesLink (host : Host) (o : Origin) (target : Entry) (query : Utf16.Text) : Prop :=
  target = .directory ∧ ∃ node name link m, Sought host.fs o node name (.symlink link) ∧
    host.aborted (.file (o.operationPath ++ (node ++ [name]))) = true ∧
    IsMatch host.fs o.workspace.root query (o.operationPath ++ (node ++ [name])) m

section Search
variable {host : Host} {r : SearchRequest} {o : Origin} {node : Path} {name : Name} {e : Entry}
  {file : Path}

theorem fill_whole (hdelivered : ∀ file offset length, length ≤ host.delivered file offset length)
    (real : Path) (content : List UInt8) :
    host.fill real content 0 content.length = content := by
  unfold Host.fill
  dsimp only
  rw [List.drop_zero, List.take_length, List.take_of_length_le (hdelivered _ _ _), Nat.sub_self,
    List.replicate_zero, List.append_nil]

theorem isBinaryBuffer_eq_false_iff (buffer : List UInt8) :
    isBinaryBuffer buffer = false ↔ ∀ byte ∈ buffer.take 8192, byte ≠ 0 := by
  unfold isBinaryBuffer
  rw [List.any_eq_false]
  simp only [decide_eq_true_eq, ne_eq]

theorem searched_iff (hreadable : ∀ path, host.readable path = true)
    (hdelivered : ∀ file offset length, length ≤ host.delivered file offset length) {text : String} :
    host.searched file = some text ↔ Eligible host.fs file text := by
  unfold Host.searched Eligible
  cases hreal : host.fs.realpath file with
  | none =>
    have hstat : host.fs.stat file = none := by
      unfold FileSystem.stat
      rw [hreal]
      rfl
    rw [hstat]
    simp
  | some real =>
    have hstat : host.fs.stat file = host.fs.entry real := by
      unfold FileSystem.stat
      rw [hreal]
      rfl
    rw [hstat]
    cases hentry : host.fs.entry real with
    | none => simp
    | some e =>
      cases e with
      | file content mode =>
        have hopen : host.openFile file = some (real, content) := by
          unfold Host.openFile
          rw [hreal, Option.bind_some, hentry]
          exact if_pos (hreadable real)
        dsimp only
        rw [hopen, Option.bind_some, fill_whole hdelivered]
        constructor
        · intro h
          split at h
          · cases h
          · next hsize =>
            split at h
            · cases h
            · next hbinary =>
              rw [Bool.not_eq_true, isBinaryBuffer_eq_false_iff] at hbinary
              exact ⟨content, mode, rfl, Nat.le_of_not_lt hsize, hbinary, h⟩
        · rintro ⟨content', mode', hsame, hsize, hbinary, hdecode⟩
          cases hsame
          rw [if_neg (Nat.not_lt.mpr hsize), (isBinaryBuffer_eq_false_iff content).mpr hbinary,
            if_neg Bool.false_ne_true]
          exact hdecode
      | directory => simp
      | symlink _ => simp
      | other => simp

theorem mem_lineMatches {relPath : String} {i : ℕ} {lines : List (List Char)} {m : Match} :
    m ∈ r.lineMatches relPath i lines ↔ ∃ j line, lines[j]? = some line ∧
      Utf16.includes (Utf16.encode line) r.query = true ∧
      m = ⟨relPath, i + j + 1, (Utf16.encode line).take MAX_SEARCH_LINE_PREVIEW⟩ := by
  unfold SearchRequest.lineMatches
  rw [List.mem_filterMap]
  constructor
  · rintro ⟨⟨line, k⟩, hmem, hsome⟩
    obtain ⟨hle, hget⟩ := List.mem_zipIdx_iff_le_and_getElem?_sub.mp hmem
    dsimp only at hle hget hsome
    split at hsome
    · next hincludes =>
      cases hsome
      exact ⟨k - i, line, hget, hincludes, by rw [Nat.add_sub_cancel' hle]⟩
    · cases hsome
  · rintro ⟨j, line, hget, hincludes, rfl⟩
    refine ⟨(line, i + j), List.mem_zipIdx_iff_le_and_getElem?_sub.mpr ⟨Nat.le_add_right _ _, ?_⟩, ?_⟩
    · rw [Nat.add_sub_cancel_left]
      exact hget
    · exact if_pos hincludes

theorem nodup_lineMatches (r : SearchRequest) (relPath : String) (i : ℕ) (lines : List (List Char)) :
    ((r.lineMatches relPath i lines).map fun m => (m.path, m.lineNumber)).Nodup := by
  induction lines generalizing i with
  | nil => exact List.nodup_nil
  | cons line lines ih =>
    have hrest := ih (i + 1)
    have hcons : r.lineMatches relPath i (line :: lines) =
        (if Utf16.includes (Utf16.encode line) r.query then
          [(⟨relPath, i + 1, (Utf16.encode line).take MAX_SEARCH_LINE_PREVIEW⟩ : Match)]
        else []) ++ r.lineMatches relPath (i + 1) lines := by
      unfold SearchRequest.lineMatches
      rw [List.zipIdx_cons, List.filterMap_cons]
      split
      · next hnone =>
        split at hnone
        · cases hnone
        · next hwithout =>
          rw [if_neg hwithout]
          rfl
      · next m hsome =>
        split at hsome
        · next hincludes =>
          cases hsome
          rw [if_pos hincludes]
          rfl
        · cases hsome
    rw [hcons]
    split
    · rw [List.singleton_append, List.map_cons, List.nodup_cons]
      refine ⟨fun hmem => ?_, hrest⟩
      obtain ⟨m, hm, hkey⟩ := List.mem_map.mp hmem
      obtain ⟨j, _, _, _, rfl⟩ := mem_lineMatches.mp hm
      have hnumber : i + 1 + j + 1 = i + 1 := (Prod.mk.inj hkey).2
      omega
    · exact hrest

theorem mem_fileMatches (hreadable : ∀ path, host.readable path = true)
    (hdelivered : ∀ file offset length, length ≤ host.delivered file offset length) {m : Match} :
    m ∈ r.fileMatches host file ↔ IsMatch host.fs r.workspace.root r.query file m := by
  unfold SearchRequest.fileMatches IsMatch
  constructor
  · intro h
    split at h
    · next text hsearched =>
      obtain ⟨i, line, hline, hincludes, rfl⟩ := mem_lineMatches.mp h
      rw [splitLines_eq_lines] at hline
      rw [Nat.zero_add]
      exact ⟨text, i, line, (searched_iff hreadable hdelivered).mp hsearched, hline, hincludes, rfl⟩
    · cases h
  · rintro ⟨text, i, line, hsearched, hline, hincludes, rfl⟩
    rw [(searched_iff hreadable hdelivered).mpr hsearched]
    refine mem_lineMatches.mpr ⟨i, line, ?_, hincludes, by rw [Nat.zero_add]⟩
    rw [splitLines_eq_lines]
    exact hline

theorem nodup_fileMatches (r : SearchRequest) (host : Host) (file : Path) :
    ((r.fileMatches host file).map fun m => (m.path, m.lineNumber)).Nodup := by
  unfold SearchRequest.fileMatches
  split
  · exact nodup_lineMatches r _ _ _
  · exact List.nodup_nil

theorem fileMatches_path {m : Match} (h : m ∈ r.fileMatches host file) :
    m.path = relative r.workspace.root file := by
  unfold SearchRequest.fileMatches at h
  split at h
  · obtain ⟨_, _, _, _, rfl⟩ := mem_lineMatches.mp h
    rfl
  · cases h

/-- The files that the action looks into are those of the entries that it has to look into. -/
theorem file?_iff {registry : WorkspaceRegistry} {workspaceId text : String}
    (ho : o.workspace = r.workspace)
    (htarget : Target host.fs registry workspaceId text o .directory)
    (hreadable : ∀ path, host.readable path = true)
    (hnode : Reachable (o.directories host) node) (hentry : (name, e) ∈ o.dirents host node) :
    r.file? host o node (name, e) = some file ↔
      Sought host.fs o node name e ∧ file = o.operationPath ++ (node ++ [name]) := by
  have hplace : o.hidden (node ++ [name]) = false → Present host.fs o node name e := fun hshown =>
    (present_iff htarget.resolved hreadable).mpr ⟨hnode, hentry, hshown⟩
  have hstat : o.hidden (node ++ [name]) = false → e.isSymbolicLink = false →
      host.fs.realpath (o.operationPath ++ (node ++ [name])) =
        some (o.canonicalPath ++ (node ++ [name])) ∧
      host.fs.stat (o.operationPath ++ (node ++ [name])) = some e := by
    intro hshown hlink
    have hreal := (hplace hshown).realpath htarget.resolved hreadable hlink
    refine ⟨hreal, ?_⟩
    unfold FileSystem.stat
    rw [hreal]
    exact (hplace hshown).entry
  unfold SearchRequest.file?
  dsimp only
  constructor
  · intro h
    split at h
    · cases h
    · next hshown =>
      rw [Bool.not_eq_true] at hshown
      split at h
      · next content mode =>
        cases h
        obtain ⟨hreal, hstat⟩ := hstat hshown rfl
        refine ⟨⟨hplace hshown, ⟨content, mode, hstat⟩, fun target htarget' => ?_⟩, rfl⟩
        rw [hreal] at htarget'
        cases htarget'
        exact htarget.place_exposable hshown
      · next link =>
        split at h
        · next target content mode hreal hstat =>
          split at h
          · next hallowed =>
            cases h
            refine ⟨⟨hplace hshown, ⟨content, mode, hstat⟩, fun target' hreal' => ?_⟩, rfl⟩
            rw [hreal] at hreal'
            cases hreal'
            exact ho ▸ linkAllowed_iff.mp hallowed
          · cases h
        · cases h
      · cases h
  · rintro ⟨⟨hpresent, ⟨content, mode, hfile⟩, hallowed⟩, rfl⟩
    have hshown := hpresent.shown
    rw [if_neg (ne_true_of_eq_false hshown)]
    cases e with
    | file _ _ => rfl
    | symlink link =>
      obtain ⟨target, hreal, _⟩ := Option.bind_eq_some_iff.mp hfile
      rw [hreal, hfile]
      exact if_pos (linkAllowed_iff.mpr (ho ▸ hallowed target hreal))
    | directory =>
      rw [(hstat hshown rfl).2] at hfile
      cases hfile
    | other =>
      rw [(hstat hshown rfl).2] at hfile
      cases hfile

section Traversal
variable {registry : WorkspaceRegistry} {workspaceId text : String} {all : List Path}
  {s : SearchState}

/-- The matches of a traversal that has come to its end. -/
theorem SearchProgress.mem_found (h : SearchProgress host r o all [] s)
    (ho : o.workspace = r.workspace)
    (htarget : Target host.fs registry workspaceId text o .directory)
    (hreadable : ∀ path, host.readable path = true)
    (hdelivered : ∀ file offset length, length ≤ host.delivered file offset length) {m : Match} :
    m ∈ s.found ↔ ∃ node name e, Sought host.fs o node name e ∧
      SearchRequest.swallowed host o node (name, e) = false ∧
      IsMatch host.fs r.workspace.root r.query (o.operationPath ++ (node ++ [name])) m := by
  rw [h.found, List.mem_flatMap]
  simp only [List.mem_flatMap, h.frontier.complete]
  unfold SearchRequest.entryMatches
  constructor
  · rintro ⟨node, hnode, ⟨name, e⟩, hentry, hmatch⟩
    split at hmatch
    · next file hfile =>
      obtain ⟨hsought, rfl⟩ := (file?_iff ho htarget hreadable hnode hentry).mp hfile
      split at hmatch
      · cases hmatch
      · next hkept =>
        exact ⟨node, name, e, hsought, by simpa using hkept,
          (mem_fileMatches hreadable hdelivered).mp hmatch⟩
    · cases hmatch
  · rintro ⟨node, name, e, hsought, hkept, hmatch⟩
    obtain ⟨hnode, hentry, _⟩ := (present_iff htarget.resolved hreadable).mp hsought.present
    refine ⟨node, hnode, (name, e), hentry, ?_⟩
    rw [(file?_iff ho htarget hreadable hnode hentry).mpr ⟨hsought, rfl⟩]
    dsimp only
    rw [if_neg (ne_true_of_eq_false hkept)]
    exact (mem_fileMatches hreadable hdelivered).mpr hmatch

theorem SearchProgress.nodup_found (h : SearchProgress host r o all [] s)
    (ho : o.workspace = r.workspace)
    (htarget : Target host.fs registry workspaceId text o .directory) :
    (s.found.map fun m => (m.path, m.lineNumber)).Nodup := by
  rw [h.found, List.map_flatMap]
  have hkeys : (all.flatMap fun path => ((o.dirents host path).flatMap
        (r.entryMatches host o path)).map fun m => (m.path, m.lineNumber)) =
      all.flatMap fun path => (o.dirents host path).flatMap fun dirent =>
        (r.entryMatches host o path dirent).map fun m => (m.path, m.lineNumber) :=
    List.flatMap_congr fun path _ => List.map_flatMap
  rw [hkeys]
  refine nodup_contributions host o (by simpa using h.frontier.nodup) _
    (fun key => join o.workspace.root key.1) (fun path dirent => ?_) ?_
  · unfold SearchRequest.entryMatches
    split
    · split
      · exact List.nodup_nil
      · exact nodup_fileMatches r host _
    · exact List.nodup_nil
  · intro path dirent key hkey
    obtain ⟨m, hm, rfl⟩ := List.mem_map.mp hkey
    unfold SearchRequest.entryMatches at hm
    split at hm
    · next file hfile =>
      split at hm
      · cases hm
      · rw [fileMatches_path hm, ← ho]
        have hfull : file = o.operationPath ++ (path ++ [dirent.1]) := by
          unfold SearchRequest.file? at hfile
          split at hfile
          · cases hfile
          · dsimp only at hfile
            split at hfile
            · exact (Option.some.inj hfile).symm
            · split at hfile
              · split at hfile
                · exact (Option.some.inj hfile).symm
                · cases hfile
              · cases hfile
            · cases hfile
        rw [hfull]
        exact htarget.join_relative _
    · cases hm

/-- A search that is not truncated reports every match, unless it loses a link. -/
theorem SearchProgress.reports_iff (h : SearchProgress host r o all [] s)
    (ho : o.workspace = r.workspace)
    (htarget : Target host.fs registry workspaceId text o .directory)
    (hreadable : ∀ path, host.readable path = true)
    (hdelivered : ∀ file offset length, length ≤ host.delivered file offset length) :
    Reports host.fs o .directory r.query s.found ↔ ¬ LosesLink host o .directory r.query := by
  have hfound := @SearchProgress.mem_found host r o registry workspaceId text all s h ho htarget
    hreadable hdelivered
  rw [← ho] at hfound
  constructor
  · rintro hreports ⟨_, node, name, link, m, hsought, haborted, hmatch⟩
    have hmem : m ∈ s.found := (hreports.exact m).mpr ⟨_, ⟨node, name, _, hsought, rfl⟩, hmatch⟩
    obtain ⟨node', name', e, hsought', hkept, hmatch'⟩ := hfound.mp hmem
    -- The match that is reported comes from the same file, so from the same entry.
    have hpath : o.operationPath ++ (node ++ [name]) = o.operationPath ++ (node' ++ [name']) := by
      rw [← htarget.join_relative (node ++ [name]), ← htarget.join_relative (node' ++ [name'])]
      obtain ⟨_, _, _, _, _, _, rfl⟩ := hmatch
      obtain ⟨_, _, _, _, _, _, hsame⟩ := hmatch'
      rw [(Match.mk.inj hsame).1]
    obtain ⟨rfl, hname⟩ := List.append_inj' (List.append_cancel_left hpath) rfl
    cases hname
    have hentry := hsought.present.entry
    rw [hsought'.present.entry] at hentry
    cases hentry
    unfold SearchRequest.swallowed at hkept
    rw [haborted] at hkept
    cases hkept
  · intro hkeeps
    refine ⟨h.nodup_found ho htarget, fun m => ?_⟩
    rw [hfound]
    constructor
    · rintro ⟨node, name, e, hsought, _, hmatch⟩
      exact ⟨_, ⟨node, name, e, hsought, rfl⟩, hmatch⟩
    · rintro ⟨_, ⟨node, name, e, hsought, rfl⟩, hmatch⟩
      refine ⟨node, name, e, hsought, ?_, hmatch⟩
      rw [← Bool.not_eq_true]
      intro hlost
      unfold SearchRequest.swallowed at hlost
      rw [Bool.and_eq_true] at hlost
      cases e with
      | symlink link => exact hkeeps ⟨rfl, node, name, link, m, hsought, hlost.2, hmatch⟩
      | file _ _ => cases hlost.1
      | directory => cases hlost.1
      | other => cases hlost.1

end Traversal

end Search

/-! ## The actions -/

section Actions
variable {host : Host} {registry : WorkspaceRegistry} {workspaceId : String} {path : Option String}

theorem one_le_getD {max default : ℕ} (n : Option (Between 1 max)) (h : 1 ≤ default) :
    1 ≤ (n.map Subtype.val).getD default := by
  cases n with
  | none => exact h
  | some n => exact n.2.1

theorem list_complete (hreadable : ∀ path, host.readable path = true) {recursive : Option Bool}
    {limit : Option (Between 1 1000)} {maxDepth : Option (Between 1 10)} {rounds : ℕ}
    {result : ListResult}
    (h : list host rounds registry workspaceId path recursive limit maxDepth = some (.ok result)) :
    ∃ o, Target host.fs registry workspaceId (relativeTarget path) o .directory ∧
      result.entries.length ≤ (limit.map Subtype.val).getD 200 ∧
      (result.truncated = false → (result.entries.map ListEntry.path).Nodup ∧
        ∀ entry, entry ∈ result.entries ↔
          Listed host.fs o (listDepth recursive maxDepth) entry) := by
  unfold list at h
  cases hstart : listStart host registry workspaceId path recursive limit maxDepth with
  | error error =>
    rw [hstart] at h
    cases h
  | ok started =>
    obtain ⟨r, start⟩ := started
    obtain ⟨htarget, hitem, hlimit, hdepth, hrecursive⟩ := listStart_ok hstart
    have hprogress := @ListProgress.start r host (r.origin start) (by
      rw [hlimit]
      exact getD_pos limit (by decide))
    rw [← hitem] at hprogress
    rw [hstart] at h
    obtain ⟨answer, hloop, hanswer⟩ := Option.map_eq_some_iff.mp h
    cases answer with
    | error error => cases hanswer
    | ok s =>
      cases hanswer
      refine ⟨r.origin start, htarget, ?_⟩
      rw [← hlimit]
      rcases listLoop_ok rfl hprogress hloop with ⟨all, hall⟩ | ⟨htruncated, hlength, _⟩
      · refine ⟨hall.room.le, fun _ => ?_⟩
        have hcomplete := hall.complete rfl htarget.resolved htarget.below hreadable (by
          rw [hdepth]
          exact one_le_getD maxDepth (by decide))
        rw [hdepth, hrecursive] at hcomplete
        exact hcomplete
      · refine ⟨hlength.le, fun hwhole => ?_⟩
        rw [show s.truncated = false from hwhole] at htruncated
        cases htruncated

theorem Within.opened {r : SearchRequest} {s : SearchState} (h : Within host r s) :
    s.opened.length ≤ MAX_SEARCH_FILES ∧
      (s.opened.map host.size).sum ≤ MAX_SEARCH_TOTAL_BYTES :=
  ⟨h.counted.trans h.files, h.sizes.trans h.bytes⟩

theorem reports_nothing {fs : FileSystem} {o : Origin} {target : Entry} {query : Utf16.Text}
    (h : ∀ file, ¬ SoughtFile fs o target file) : Reports fs o target query [] :=
  ⟨List.nodup_nil, fun _ => ⟨nofun, fun ⟨file, hfile, _⟩ => absurd hfile (h file)⟩⟩

theorem search_complete (hreadable : ∀ path, host.readable path = true)
    (hdelivered : ∀ file offset length, length ≤ host.delivered file offset length)
    {query : Utf16.Text} {maxResults : Option (Between 1 200)} {rounds : ℕ}
    {answer : Except SearchFailure SearchResult}
    (h : search host rounds registry workspaceId path query maxResults = some answer) :
    (openedFiles SearchResult.opened answer).length ≤ MAX_SEARCH_FILES ∧
    ((openedFiles SearchResult.opened answer).map host.size).sum ≤ MAX_SEARCH_TOTAL_BYTES ∧
    ∀ result, answer = .ok result → ∃ o target,
      Target host.fs registry workspaceId (relativeTarget path) o target ∧
      result.found.length ≤ (maxResults.map Subtype.val).getD 50 ∧
      (result.truncated = false →
        (Reports host.fs o target query result.found ↔ ¬ LosesLink host o target query)) := by
  unfold search at h
  cases hstart : searchStart host registry workspaceId path query maxResults with
  | error error =>
    rw [hstart] at h
    cases h
    exact ⟨Nat.zero_le _, Nat.zero_le _, nofun⟩
  | ok started =>
    obtain ⟨r, e, start⟩ := started
    obtain ⟨htarget, hitem, hquery, hmax⟩ := searchStart_ok hstart
    have hroom : 0 < r.maxResults := by
      rw [hmax]
      exact getD_pos maxResults (by decide)
    rw [hstart] at h
    rw [← hquery, ← hmax]
    cases e with
    | file content mode =>
      cases hscan : searchFile host r start.operationPath ⟨[], [], false, 0, 0, []⟩ with
      | error failure =>
        dsimp only at h
        rw [hscan] at h
        cases h
        obtain ⟨_, rfl⟩ := searchFile_error hscan
        exact ⟨Nat.zero_le _, Nat.zero_le _, nofun⟩
      | ok scanned =>
        obtain ⟨s, stop⟩ := scanned
        dsimp only at h
        rw [hscan] at h
        cases h
        have hspec := searchFile_spec hscan (.start host r []) hroom rfl
        refine ⟨hspec.within.opened.1, hspec.within.opened.2, fun result hresult => ?_⟩
        cases hresult
        refine ⟨r.origin start, _, htarget, hspec.within.found, fun hwhole => ?_⟩
        have hstop : stop = false := hspec.stopped.symm.trans hwhole
        have hfound : s.found = r.fileMatches host start.operationPath := (hspec.whole hstop).1
        refine ⟨fun _ hlost => (nomatch hlost.1), fun _ => ⟨?_, fun m => ?_⟩⟩
        · show (s.found.map _).Nodup
          rw [hfound]
          exact nodup_fileMatches r host _
        · show m ∈ s.found ↔ _
          rw [hfound, mem_fileMatches hreadable hdelivered]
          constructor
          · intro hmatch
            exact ⟨_, rfl, hmatch⟩
          · rintro ⟨file, hfile, hmatch⟩
            cases hfile
            exact hmatch
    | directory =>
      have hprogress := SearchProgress.start host (r.origin start) hroom
      rw [← hitem] at hprogress
      obtain ⟨answer, hloop, rfl⟩ := Option.map_eq_some_iff.mp h
      cases answer with
      | error failure =>
        obtain ⟨last, hwithin, rfl⟩ := searchLoop_failure rfl hprogress hloop
        exact ⟨hwithin.opened.1, hwithin.opened.2, nofun⟩
      | ok s =>
        obtain ⟨hwithin, hwhole⟩ := searchLoop_ok rfl hprogress hloop
        refine ⟨hwithin.opened.1, hwithin.opened.2, fun result hresult => ?_⟩
        cases hresult
        refine ⟨r.origin start, _, htarget, hwithin.found, fun htruncated => ?_⟩
        obtain ⟨all, hall⟩ := hwhole htruncated
        exact hall.reports_iff rfl htarget hreadable hdelivered
    | symlink link =>
      cases h
      refine ⟨Nat.zero_le _, Nat.zero_le _, fun result hresult => ?_⟩
      cases hresult
      refine ⟨r.origin start, _, htarget, Nat.zero_le _, fun _ => ?_⟩
      exact ⟨fun _ hlost => (nomatch hlost.1), fun _ => reports_nothing fun _ => id⟩
    | other =>
      cases h
      refine ⟨Nat.zero_le _, Nat.zero_le _, fun result hresult => ?_⟩
      cases hresult
      refine ⟨r.origin start, _, htarget, Nat.zero_le _, fun _ => ?_⟩
      exact ⟨fun _ hlost => (nomatch hlost.1), fun _ => reports_nothing fun _ => id⟩

/-- On a tree that can be read, a list that is not truncated is whole, and a search that is not
truncated is whole exactly when it loses no link; both keep their bounds. -/
theorem traversals_complete (hreadable : ∀ path, host.readable path = true)
    (hdelivered : ∀ file offset length, length ≤ host.delivered file offset length) :
    (∀ recursive limit maxDepth rounds result,
      list host rounds registry workspaceId path recursive limit maxDepth = some (.ok result) →
      ∃ o, Target host.fs registry workspaceId (relativeTarget path) o .directory ∧
        result.entries.length ≤ (limit.map Subtype.val).getD 200 ∧
        (result.truncated = false → (result.entries.map ListEntry.path).Nodup ∧
          ∀ entry, entry ∈ result.entries ↔
            Listed host.fs o (listDepth recursive maxDepth) entry)) ∧
    ∀ query maxResults rounds answer,
      search host rounds registry workspaceId path query maxResults = some answer →
      (openedFiles SearchResult.opened answer).length ≤ MAX_SEARCH_FILES ∧
      ((openedFiles SearchResult.opened answer).map host.size).sum ≤ MAX_SEARCH_TOTAL_BYTES ∧
      ∀ result, answer = .ok result → ∃ o target,
        Target host.fs registry workspaceId (relativeTarget path) o target ∧
        result.found.length ≤ (maxResults.map Subtype.val).getD 50 ∧
        (result.truncated = false →
          (Reports host.fs o target query result.found ↔ ¬ LosesLink host o target query)) :=
  ⟨fun _ _ _ _ _ h => list_complete hreadable h,
    fun _ _ _ _ h => search_complete hreadable hdelivered h⟩

/-- `/w` with a file and a link to it. -/
def linkedTree : FileSystem :=
  .ofEntries
    ⟨[([], .directory), ([⟨"w", isName_w⟩], .directory),
      ([⟨"w", isName_w⟩, ⟨"a", isName_a⟩], .file [104, 105] 0o644),
      ([⟨"w", isName_w⟩, ⟨"l", isName_l⟩], .symlink "a")], by decide⟩
    40 (by decide) (by decide)

/-- The call is aborted just before it looks into the file of the link, its last step. -/
def lateAbort : Host where
  fs := linkedTree
  readable _ := true
  localeLE a b := a.val ≤ b.val
  delivered _ _ length := length
  aborted
    | .file path => path = [⟨"w", isName_w⟩, ⟨"l", isName_l⟩]
    | _ => false

theorem traversals_complete_linked :
    ∃ o, Target linkedTree ⟨[projectWorkspace]⟩ "project" "." o .directory ∧
      ∀ entry, entry ∈ [ListEntry.mk ⟨"a", by decide⟩ "a" .file (some 2),
        ListEntry.mk ⟨"l", by decide⟩ "l" .symlink none] ↔ Listed linkedTree o 1 entry := by
  obtain ⟨o, htarget, _, hwhole⟩ := (@traversals_complete lateAbort ⟨[projectWorkspace]⟩ "project"
    none (fun _ => rfl) (fun _ _ _ => Nat.le_refl _)).1 none none none 9
      ⟨".", [ListEntry.mk ⟨"a", by decide⟩ "a" .file (some 2),
        ListEntry.mk ⟨"l", by decide⟩ "l" .symlink none], false⟩ rfl
  exact ⟨o, htarget, (hwhole rfl).2⟩

/-- The match in the linked file is missing from a search that is not truncated. -/
theorem search_loses_link : ∃ result,
    search lateAbort 9 ⟨[projectWorkspace]⟩ "project" none [104] none = some (.ok result) ∧
    result.truncated = false ∧
    ∀ o target, Target linkedTree ⟨[projectWorkspace]⟩ "project" "." o target →
      ¬ Reports linkedTree o target [104] result.found := by
  refine ⟨⟨[104], [⟨"a", 1, [104, 105]⟩], false, 2, 1, [[⟨"w", by decide⟩, ⟨"a", by decide⟩]]⟩,
    rfl, rfl, ?_⟩
  rintro ⟨workspace, operationPath, canonicalPath⟩ target htarget hreports
  have hworkspace : some projectWorkspace = some workspace := htarget.workspace
  cases hworkspace
  have hoperation : operationPath = [⟨"w", by decide⟩] := htarget.operation
  subst hoperation
  have hcanonical : some [⟨"w", by decide⟩] = some canonicalPath := htarget.realpath
  cases hcanonical
  have hdirectory : some Entry.directory = some target := htarget.entry
  cases hdirectory
  have hsought : Sought linkedTree ⟨projectWorkspace, [⟨"w", by decide⟩], [⟨"w", by decide⟩]⟩ []
      ⟨"l", by decide⟩ (.symlink "a") := by
    refine ⟨⟨.target, rfl, by decide⟩, ⟨[104, 105], 0o644, rfl⟩, fun file hfile => ?_⟩
    have hreal : some [⟨"w", by decide⟩, ⟨"a", by decide⟩] = some file := hfile
    cases hreal
    exact linkAllowed_iff.mp (by decide)
  have hmissing := (hreports.exact ⟨"l", 1, [104, 105]⟩).mpr ⟨_, ⟨_, _, _, hsought, rfl⟩,
    "hi", 0, ['h', 'i'], ⟨[104, 105], 0o644, rfl, by decide,
      List.forall_iff_forall_mem.mp (by decide), rfl⟩, rfl, by decide, rfl⟩
  revert hmissing
  decide

end Actions

end Doctmcp.Tools.FilesystemRead

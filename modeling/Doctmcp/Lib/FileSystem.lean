import Doctmcp.Lib.OrderedMap
import Doctmcp.Lib.PosixPath

/-! # Directory trees with symbolic links

A tree maps the real path of each entry to the entry; whatever has an entry below it is a directory.
`walk` looks a path up component by component and follows links, at most `maxLinks` of them.
`location` is where the last entry of a path really is: the real path of its parent and its
name. Names are texts, so every name of a tree is valid UTF-8. -/

namespace Doctmcp.Lib
open PosixPath
set_option autoImplicit false

inductive Entry
  | file (content : List UInt8) (mode : ℕ)
  | directory
  | symlink (target : String)
  | other
  deriving DecidableEq

def Entry.isSymbolicLink : Entry → Bool
  | .symlink _ => true
  | _ => false

def Entry.isDirectory : Entry → Bool
  | .directory => true
  | _ => false

def Entry.isFile : Entry → Bool
  | .file _ _ => true
  | _ => false

structure FileSystem where
  entries : OrderedMap Path Entry
  maxLinks : ℕ
  root : entries.get? [] = some .directory
  parents : ∀ path name entry, entries.get? (path ++ [name]) = some entry →
    entries.get? path = some .directory

namespace FileSystem

/-- A tree given by its entries. -/
def ofEntries (entries : OrderedMap Path Entry) (maxLinks : ℕ)
    (root : entries.get? [] = some .directory)
    (closed : ∀ binding ∈ entries.entries,
      binding.1 = [] ∨ entries.get? binding.1.dropLast = some .directory) : FileSystem where
  entries := entries
  maxLinks := maxLinks
  root := root
  parents path name entry h := by
    have hmem := (OrderedMap.mem_entries_iff entries (path ++ [name]) entry).mpr h
    rcases closed _ hmem with hnil | hparent
    · simp at hnil
    · rwa [List.dropLast_concat] at hparent

def entry (fs : FileSystem) (path : Path) : Option Entry := fs.entries.get? path

/-! ## Looking up a path -/

/-- How far a path leads without following a link. -/
inductive Advance
  | reached (path : Path)
  | missing
  | link (directory : Path) (target : String) (rest : List Component)

def advance (fs : FileSystem) : Path → List Component → Advance
  | path, [] => .reached path
  | path, .here :: rest =>
    if fs.entry path = some .directory then advance fs path rest else .missing
  | path, .up :: rest =>
    if fs.entry path = some .directory then advance fs path.dropLast rest else .missing
  | path, .name name :: rest =>
    match fs.entry (path ++ [name]) with
    | none => .missing
    | some (.symlink target) => .link path target rest
    | some _ => advance fs (path ++ [name]) rest

/-- Where the target of a link in `directory` leads. -/
def follow (directory : Path) (target : String) : Path := if isAbsolute target then [] else directory

/-- The real path and the number of links that may still be followed. -/
def walk (fs : FileSystem) : ℕ → Path → List Component → Option (ℕ × Path)
  | 0, path, todo =>
    match fs.advance path todo with
    | .reached path => some (0, path)
    | _ => none
  | links + 1, path, todo =>
    match fs.advance path todo with
    | .reached path => some (links + 1, path)
    | .missing => none
    | .link directory target rest =>
      if target = "" then none
      else walk fs links (follow directory target) (components target ++ rest)

/-- `realpath`. A path that ends in a slash must lead to a directory. -/
def realpath (fs : FileSystem) (path : Path) (slash : Bool := false) : Option Path :=
  (fs.walk fs.maxLinks [] (path.map .name ++ if slash then [.here] else [])).map Prod.snd

/-- The real path of the entry that the path names, itself not followed. -/
def location (fs : FileSystem) (path : Path) : Option Path :=
  match path.getLast? with
  | none => some []
  | some name => (fs.realpath path.dropLast).map fun directory => directory ++ [name]

def lstat (fs : FileSystem) (path : Path) : Option Entry := (fs.location path).bind fs.entry

def stat (fs : FileSystem) (path : Path) : Option Entry := (fs.realpath path).bind fs.entry

/-- The names in the directory at a real path, in the order of the tree. -/
def names (fs : FileSystem) (directory : Path) : List Name :=
  fs.entries.keys.filterMap fun path =>
    if path.dropLast = directory then path.getLast? else none

/-- The entries of the directory at a real path, with their names. -/
def dirents (fs : FileSystem) (directory : Path) : List (Name × Entry) :=
  (fs.names directory).filterMap fun name =>
    (fs.entry (directory ++ [name])).map fun e => (name, e)

variable {fs : FileSystem}

/-! ## Entries -/

@[simp] theorem entry_nil : fs.entry [] = some .directory := fs.root

theorem entry_parent {path : Path} {name : Name} {e : Entry}
    (h : fs.entry (path ++ [name]) = some e) : fs.entry path = some .directory :=
  fs.parents path name e h

/-- Whatever stands above an entry is a directory. -/
theorem entry_above {path rest : Path} {e : Entry} (h : fs.entry (path ++ rest) = some e)
    (hrest : rest ≠ []) : fs.entry path = some .directory := by
  induction rest using List.reverseRecOn generalizing e with
  | nil => exact absurd rfl hrest
  | append_singleton rest name ih =>
    rw [← List.append_assoc] at h
    have hparent := entry_parent h
    by_cases hnil : rest = []
    · simpa [hnil] using hparent
    · exact ih hparent hnil

/-! ## Walks -/

theorem advance_here (path : Path) (rest : List Component) :
    fs.advance path (.here :: rest) =
      if fs.entry path = some .directory then fs.advance path rest else .missing := rfl

theorem advance_up (path : Path) (rest : List Component) :
    fs.advance path (.up :: rest) =
      if fs.entry path = some .directory then fs.advance path.dropLast rest else .missing := rfl

theorem advance_name (path : Path) (name : Name) (rest : List Component) :
    fs.advance path (.name name :: rest) =
      match fs.entry (path ++ [name]) with
      | none => .missing
      | some (.symlink target) => .link path target rest
      | some _ => fs.advance (path ++ [name]) rest := rfl

theorem advance_append (path : Path) (todo rest : List Component) :
    fs.advance path (todo ++ rest) =
      match fs.advance path todo with
      | .reached path => fs.advance path rest
      | .missing => .missing
      | .link directory target more => .link directory target (more ++ rest) := by
  induction todo generalizing path with
  | nil => rfl
  | cons step todo ih =>
    rw [List.cons_append]
    cases step with
    | here =>
      rw [advance_here, advance_here]
      split
      · exact ih path
      · rfl
    | up =>
      rw [advance_up, advance_up]
      split
      · exact ih path.dropLast
      · rfl
    | name name =>
      rw [advance_name, advance_name]
      split
      · rfl
      · rfl
      · exact ih (path ++ [name])

theorem walk_append (links : ℕ) (path : Path) (todo rest : List Component) :
    fs.walk links path (todo ++ rest) =
      (fs.walk links path todo).bind fun reached => fs.walk reached.1 reached.2 rest := by
  induction links generalizing path todo with
  | zero =>
    unfold walk
    rw [advance_append]
    cases hadvance : fs.advance path todo with
    | reached path' =>
      show _ = fs.walk 0 path' rest
      rw [walk]
    | missing => rfl
    | link directory target more => rfl
  | succ links ih =>
    rw [walk, advance_append, walk]
    cases hadvance : fs.advance path todo with
    | reached path' =>
      show _ = fs.walk (links + 1) path' rest
      rw [walk]
    | missing => rfl
    | link directory target more =>
      dsimp only
      split
      · rfl
      · rw [← List.append_assoc, ih]

theorem walk_nil (links : ℕ) (path : Path) : fs.walk links path [] = some (links, path) := by
  cases links with
  | zero => rfl
  | succ links => rfl

/-- A name that is no link leads to its entry. -/
theorem walk_name {links : ℕ} {path : Path} {name : Name} {e : Entry}
    (h : fs.entry (path ++ [name]) = some e) (hlink : e.isSymbolicLink = false) :
    fs.walk links path [.name name] = some (links, path ++ [name]) := by
  have hadvance : fs.advance path [.name name] = .reached (path ++ [name]) := by
    rw [advance_name, h]
    cases e with
    | symlink target => cases hlink
    | file _ _ | directory | other => rfl
  cases links with
  | zero =>
    rw [walk, hadvance]
  | succ links =>
    rw [walk, hadvance]

/-- What a walk reaches: an entry that is no link. -/
def Real (fs : FileSystem) (path : Path) : Prop :=
  ∃ e, fs.entry path = some e ∧ e.isSymbolicLink = false

theorem real_nil : fs.Real [] := ⟨.directory, fs.root, rfl⟩

theorem real_dropLast {path : Path} (h : fs.Real path) : fs.Real path.dropLast := by
  induction path using List.reverseRecOn with
  | nil => exact h
  | append_singleton path name _ =>
    obtain ⟨e, he, _⟩ := h
    rw [List.dropLast_concat]
    exact ⟨.directory, entry_parent he, rfl⟩

theorem advance_real {path path' : Path} {todo : List Component} (h : fs.Real path)
    (hadvance : fs.advance path todo = .reached path') : fs.Real path' := by
  induction todo generalizing path with
  | nil =>
    cases hadvance
    exact h
  | cons step todo ih =>
    cases step with
    | here =>
      rw [advance_here] at hadvance
      split at hadvance
      · exact ih h hadvance
      · cases hadvance
    | up =>
      rw [advance_up] at hadvance
      split at hadvance
      · exact ih (real_dropLast h) hadvance
      · cases hadvance
    | name name =>
      rw [advance_name] at hadvance
      split at hadvance
      · cases hadvance
      · cases hadvance
      · next e hlink he =>
        refine ih ⟨e, he, ?_⟩ hadvance
        cases e with
        | symlink target => exact absurd rfl (hlink target)
        | file _ _ | directory | other => rfl

theorem advance_link_real {path directory : Path} {target : String} {todo rest : List Component}
    (h : fs.Real path) (hadvance : fs.advance path todo = .link directory target rest) :
    fs.Real directory := by
  induction todo generalizing path with
  | nil => cases hadvance
  | cons step todo ih =>
    cases step with
    | here =>
      rw [advance_here] at hadvance
      split at hadvance
      · exact ih h hadvance
      · cases hadvance
    | up =>
      rw [advance_up] at hadvance
      split at hadvance
      · exact ih (real_dropLast h) hadvance
      · cases hadvance
    | name name =>
      rw [advance_name] at hadvance
      split at hadvance
      · cases hadvance
      · cases hadvance
        exact h
      · next e hlink he =>
        refine ih ⟨e, he, ?_⟩ hadvance
        cases e with
        | symlink target => exact absurd rfl (hlink target)
        | file _ _ | directory | other => rfl

theorem walk_real {links links' : ℕ} {path path' : Path} {todo : List Component}
    (h : fs.Real path) (hwalk : fs.walk links path todo = some (links', path')) :
    fs.Real path' := by
  induction links generalizing path todo with
  | zero =>
    unfold walk at hwalk
    split at hwalk
    · next reached hadvance =>
      cases hwalk
      exact advance_real h hadvance
    · cases hwalk
  | succ links ih =>
    rw [walk] at hwalk
    split at hwalk
    · next reached hadvance =>
      cases hwalk
      exact advance_real h hadvance
    · cases hwalk
    · next directory target rest hadvance =>
      split at hwalk
      · cases hwalk
      · refine ih ?_ hwalk
        unfold follow
        split
        · exact real_nil
        · exact advance_link_real h hadvance

/-! ## Real paths -/

theorem realpath_real {path real : Path} {slash : Bool}
    (h : fs.realpath path slash = some real) : fs.Real real := by
  unfold realpath at h
  obtain ⟨⟨links, path'⟩, hwalk, rfl⟩ := Option.map_eq_some_iff.mp h
  exact walk_real real_nil hwalk

@[simp] theorem realpath_nil : fs.realpath [] = some [] := by
  simp [realpath, walk_nil]

/-- Below a path that resolves, an entry that is no link resolves to its place. -/
theorem realpath_concat {path real : Path} {name : Name} {e : Entry}
    (h : fs.realpath path = some real) (hentry : fs.entry (real ++ [name]) = some e)
    (hlink : e.isSymbolicLink = false) : fs.realpath (path ++ [name]) = some (real ++ [name]) := by
  unfold realpath at h ⊢
  obtain ⟨⟨links, path'⟩, hwalk, rfl⟩ := Option.map_eq_some_iff.mp h
  simp only [if_neg Bool.false_ne_true, List.append_nil] at hwalk ⊢
  rw [List.map_append, walk_append, hwalk]
  show (fs.walk links path' [.name name]).map Prod.snd = _
  rw [walk_name hentry hlink]
  rfl

/-- A directory is its own real path. -/
theorem realpath_directory {path : Path} (h : fs.entry path = some .directory) :
    fs.realpath path = some path := by
  induction path using List.reverseRecOn with
  | nil => exact realpath_nil
  | append_singleton path name ih => exact realpath_concat (ih (entry_parent h)) h rfl

/-- What a path resolves to is its own real path. -/
theorem realpath_realpath {path real : Path} {slash : Bool}
    (h : fs.realpath path slash = some real) : fs.realpath real = some real := by
  obtain ⟨e, hentry, hlink⟩ := realpath_real h
  cases real using List.reverseRecOn with
  | nil => exact realpath_nil
  | append_singleton real name =>
    exact realpath_concat (realpath_directory (entry_parent hentry)) hentry hlink

/-- A path that resolves has an entry in what its parent resolves to. -/
theorem realpath_concat_some {path real : Path} {name : Name}
    (h : fs.realpath (path ++ [name]) = some real) :
    ∃ directory e, fs.realpath path = some directory ∧ fs.entry (directory ++ [name]) = some e ∧
      (e.isSymbolicLink = false → real = directory ++ [name]) := by
  have hparent : ∃ directory, fs.realpath path = some directory ∧
      ∃ links, (fs.walk links directory [.name name]).map Prod.snd = some real := by
    unfold realpath at h ⊢
    simp only [if_neg Bool.false_ne_true, List.append_nil] at h ⊢
    rw [List.map_append, walk_append] at h
    cases hwalk : fs.walk fs.maxLinks [] (path.map .name) with
    | none =>
      rw [hwalk] at h
      cases h
    | some reached =>
      rw [hwalk] at h
      exact ⟨reached.2, rfl, reached.1, h⟩
  obtain ⟨directory, hdirectory, links, hlast⟩ := hparent
  cases hentry : fs.entry (directory ++ [name]) with
  | none =>
    have hmissing : fs.advance directory [.name name] = .missing := by
      rw [advance_name, hentry]
    cases links with
    | zero =>
      rw [walk, hmissing] at hlast
      cases hlast
    | succ links =>
      rw [walk, hmissing] at hlast
      cases hlast
  | some e =>
    refine ⟨directory, e, hdirectory, hentry, fun hlink => ?_⟩
    rw [walk_name hentry hlink] at hlast
    cases hlast
    rfl

theorem location_concat (path : Path) (name : Name) :
    fs.location (path ++ [name]) = (fs.realpath path).map fun directory => directory ++ [name] := by
  simp [location]

/-- An entry that is no link is where its path resolves to. -/
theorem realpath_of_lstat {path : Path} {e : Entry} (h : fs.lstat path = some e)
    (hlink : e.isSymbolicLink = false) : fs.realpath path = fs.location path := by
  induction path using List.reverseRecOn with
  | nil => simp [location]
  | append_singleton path name _ =>
    unfold lstat at h
    rw [location_concat] at h ⊢
    cases hreal : fs.realpath path with
    | none =>
      rw [hreal] at h
      cases h
    | some real =>
      rw [hreal] at h
      exact realpath_concat hreal h hlink

theorem lstat_directory {path : Path} (h : fs.entry path = some .directory) :
    fs.lstat path = some .directory := by
  unfold lstat
  cases path using List.reverseRecOn with
  | nil => exact h
  | append_singleton path name =>
    rw [location_concat, realpath_directory (entry_parent h)]
    exact h

/-! ## Directories -/

theorem mem_names {directory : Path} {name : Name} :
    name ∈ fs.names directory ↔ ∃ e, fs.entry (directory ++ [name]) = some e := by
  unfold names entry
  rw [List.mem_filterMap]
  constructor
  · rintro ⟨path, hkey, hpath⟩
    split at hpath
    · next hparent =>
      have hsame : path = directory ++ [name] := by
        rw [← hparent, List.dropLast_append_getLast? name hpath]
      rw [← hsame, ← OrderedMap.has_iff, ← OrderedMap.mem_keys_iff]
      exact hkey
    · cases hpath
  · intro h
    refine ⟨directory ++ [name], ?_, by simp⟩
    rw [OrderedMap.mem_keys_iff, OrderedMap.has_iff]
    exact h

theorem nodup_names (directory : Path) : (fs.names directory).Nodup := by
  unfold names
  refine fs.entries.nodup.filterMap ?_
  intro p q name hp hq
  split at hp
  · next hpparent =>
    split at hq
    · next hqparent =>
      rw [← List.dropLast_append_getLast? name hp, ← List.dropLast_append_getLast? name hq,
        hpparent, hqparent]
    · cases hq
  · cases hp

theorem mem_dirents {directory : Path} {name : Name} {e : Entry} :
    (name, e) ∈ fs.dirents directory ↔ fs.entry (directory ++ [name]) = some e := by
  unfold dirents
  rw [List.mem_filterMap]
  constructor
  · rintro ⟨other, _, hother⟩
    obtain ⟨e', hentry, hsame⟩ := Option.map_eq_some_iff.mp hother
    cases hsame
    exact hentry
  · intro hentry
    exact ⟨name, mem_names.mpr ⟨e, hentry⟩, by rw [hentry]; rfl⟩

theorem nodup_dirents (directory : Path) : ((fs.dirents directory).map Prod.fst).Nodup := by
  have hsublist : ((fs.dirents directory).map Prod.fst).Sublist (fs.names directory) := by
    unfold dirents
    induction fs.names directory with
    | nil => exact List.Sublist.refl _
    | cons name rest ih =>
      rw [List.filterMap_cons]
      split
      · exact ih.cons _
      · next dirent hdirent =>
        obtain ⟨e, _, rfl⟩ := Option.map_eq_some_iff.mp hdirent
        exact ih.cons_cons _
  exact (nodup_names directory).sublist hsublist

end FileSystem

end Doctmcp.Lib

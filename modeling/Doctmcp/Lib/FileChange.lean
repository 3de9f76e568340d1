import Doctmcp.Lib.FileSystem

/-! # Changing a directory tree

The system calls that change the entries of a tree. `graft` and `prune` put an entry in its place and
take a subtree away, `transplant` moves a subtree; the calls look the place up first and refuse what
POSIX refuses. -/

namespace Doctmcp.Lib
open PosixPath
set_option autoImplicit false

/-- Why a system call fails. -/
inductive SystemError
  | EEXIST
  | ENOENT
  | ENOTDIR
  | EISDIR
  | ENOTEMPTY
  | EINVAL
  | EXDEV
  | ELOOP
  | other
  deriving DecidableEq

namespace FileSystem
variable {fs : FileSystem}

/-! ## Places -/

/-- An entry may stand at a place if its directory is there, and only a directory may stand where one
is. -/
structure Fits (fs : FileSystem) (place : Path) (e : Entry) : Prop where
  parent : place ≠ [] ∧ fs.entry place.dropLast = some .directory
  keeps : fs.entry place = some .directory → e = .directory

instance (place : Path) (e : Entry) : Decidable (fs.Fits place e) :=
  decidable_of_iff ((place ≠ [] ∧ fs.entry place.dropLast = some .directory) ∧
      (fs.entry place = some .directory → e = .directory))
    ⟨fun h => ⟨h.1, h.2⟩, fun h => ⟨h.1, h.2⟩⟩

/-- The tree with the entry in its place. -/
def graft (fs : FileSystem) (place : Path) (e : Entry) (h : fs.Fits place e) : FileSystem where
  entries := fs.entries.set place e
  maxLinks := fs.maxLinks
  root := by
    rw [OrderedMap.get?_set_ne _ _ (Ne.symm h.parent.1)]
    exact fs.root
  parents path name entry hentry := by
    rw [OrderedMap.get?_set] at hentry ⊢
    have hparent : fs.entry path = some .directory := by
      by_cases hplace : path ++ [name] = place
      · have hparent := h.parent.2
        rw [← hplace, List.dropLast_concat] at hparent
        exact hparent
      · rw [if_neg hplace] at hentry
        exact fs.parents path name entry hentry
    by_cases hpath : path = place
    · rw [if_pos hpath, h.keeps (hpath ▸ hparent)]
    · rw [if_neg hpath]
      exact hparent

/-- The tree without what stands at a place and below it. -/
def prune (fs : FileSystem) (place : Path) (h : place ≠ []) : FileSystem where
  entries := fs.entries.filter fun path _ => ¬ place <+: path
  maxLinks := fs.maxLinks
  root := by
    rw [OrderedMap.get?_filter, fs.root]
    refine Option.filter_eq_some_iff.mpr ⟨rfl, ?_⟩
    simpa using h
  parents path name entry hentry := by
    rw [OrderedMap.get?_filter, Option.filter_eq_some_iff] at hentry ⊢
    refine ⟨fs.parents path name entry hentry.1, ?_⟩
    have hkept : ¬ place <+: path ++ [name] := by simpa using hentry.2
    have habove : ¬ place <+: path := fun hfore => hkept (hfore.trans (List.prefix_append _ _))
    simpa using habove

/-- A subtree can go from one place to another. -/
structure Movable (fs : FileSystem) (source target : Path) : Prop where
  outside : ¬ source <+: target
  above : ¬ target <+: source
  parent : fs.entry target.dropLast = some .directory

/-- Where an entry is after the subtree at `source` has gone to `target`. -/
def movedTo (source target path : Path) : Option Path :=
  if target <+: path then none
  else if source <+: path then some (target ++ path.drop source.length)
  else some path

theorem movedTo_injective (source target : Path) (a b c : Path)
    (ha : movedTo source target a = some c) (hb : movedTo source target b = some c) : a = b := by
  unfold movedTo at ha hb
  split at ha
  · cases ha
  · next hkeepA =>
    split at hb
    · cases hb
    · next hkeepB =>
      split at ha
      · next hsourceA =>
        cases ha
        split at hb
        · next hsourceB =>
          have hdrop : a.drop source.length = b.drop source.length :=
            (List.append_cancel_left (Option.some.inj hb)).symm
          rw [← List.prefix_iff_eq_append.mp hsourceA, ← List.prefix_iff_eq_append.mp hsourceB, hdrop]
        · cases hb
          exact absurd (List.prefix_append _ _) hkeepB
      · cases ha
        split at hb
        · cases hb
          exact absurd (List.prefix_append _ _) hkeepA
        · cases hb
          rfl

theorem not_prefix_append {source target : Path} (houtside : ¬ source <+: target)
    (habove : ¬ target <+: source) (rest : Path) : ¬ target <+: source ++ rest := by
  intro hfore
  rcases List.prefix_or_prefix_of_prefix hfore (List.prefix_append source rest) with h | h
  · exact habove h
  · exact houtside h

theorem get?_moved (entries : OrderedMap Path Entry) {source target : Path}
    (houtside : ¬ source <+: target) (habove : ¬ target <+: source) (path : Path) :
    (entries.rekey (movedTo source target) (movedTo_injective source target)).get? path =
      if target <+: path then entries.get? (source ++ path.drop target.length)
      else if source <+: path then none
      else entries.get? path := by
  ext e
  rw [OrderedMap.get?_rekey]
  unfold movedTo
  constructor
  · rintro ⟨old, hmoved, hentry⟩
    split at hmoved
    · cases hmoved
    · next hkept =>
      split at hmoved
      · next hsource =>
        cases hmoved
        have hold : source ++ old.drop source.length = old := List.prefix_iff_eq_append.mp hsource
        rw [if_pos (List.prefix_append _ _), List.drop_left, hold]
        exact hentry
      · next hother =>
        cases hmoved
        rw [if_neg hkept, if_neg hother]
        exact hentry
  · intro h
    split at h
    · next htarget =>
      refine ⟨source ++ path.drop target.length, ?_, h⟩
      rw [if_neg (not_prefix_append houtside habove _), if_pos (List.prefix_append _ _),
        List.drop_left, List.prefix_iff_eq_append.mp htarget]
    · next hkept =>
      split at h
      · cases h
      · next hother => exact ⟨path, by rw [if_neg hkept, if_neg hother], h⟩

/-- The tree after the subtree at `source` has gone to `target`, in place of what stood there. -/
def transplant (fs : FileSystem) (source target : Path) (h : fs.Movable source target) :
    FileSystem where
  entries := fs.entries.rekey (movedTo source target) (movedTo_injective source target)
  maxLinks := fs.maxLinks
  root := by
    have htarget : ¬ target <+: [] := fun hnil => h.above (List.prefix_nil.mp hnil ▸ List.nil_prefix)
    have hsource : ¬ source <+: [] := fun hnil => h.outside (List.prefix_nil.mp hnil ▸ List.nil_prefix)
    rw [get?_moved _ h.outside h.above, if_neg htarget, if_neg hsource]
    exact fs.root
  parents path name entry hentry := by
    rw [get?_moved _ h.outside h.above] at hentry ⊢
    have hkeep : fs.entry path = some .directory → ¬ target <+: path → ¬ source <+: path →
        (if target <+: path then fs.entries.get? (source ++ path.drop target.length)
          else if source <+: path then none else fs.entries.get? path) = some .directory := by
      intro hparent htarget hsource
      rw [if_neg htarget, if_neg hsource]
      exact hparent
    split at hentry
    · next htarget =>
      by_cases hbelow : target <+: path
      · rw [if_pos hbelow]
        rw [List.drop_append_of_le_length hbelow.length_le, ← List.append_assoc] at hentry
        exact fs.parents _ _ _ hentry
      · -- The place itself: its directory has not moved.
        have hplace : target = path ++ [name] := by
          rcases List.prefix_concat_iff.mp htarget with hsame | hbelow'
          · exact hsame
          · exact absurd hbelow' hbelow
        have hparent := h.parent
        rw [hplace, List.dropLast_concat] at hparent
        refine hkeep hparent hbelow fun hsource => h.outside ?_
        rw [hplace]
        exact hsource.trans (List.prefix_append _ _)
    · next htarget =>
      split at hentry
      · cases hentry
      · next hsource =>
        exact hkeep (fs.parents _ _ _ hentry)
          (fun hfore => htarget (hfore.trans (List.prefix_append _ _)))
          (fun hfore => hsource (hfore.trans (List.prefix_append _ _)))

/-! ## Reading after a change -/

theorem entry_graft {place : Path} {e : Entry} (h : fs.Fits place e) (path : Path) :
    (fs.graft place e h).entry path = if path = place then some e else fs.entry path :=
  OrderedMap.get?_set _ _ _ _

/-- A tree in which the path is a directory. -/
theorem exists_directory (path : Path) : ∃ fs : FileSystem, fs.entry path = some .directory := by
  induction path using List.reverseRecOn with
  | nil => exact ⟨.ofEntries ⟨[([], .directory)], by decide⟩ 0 (by decide) (by decide), rfl⟩
  | append_singleton path name ih =>
    obtain ⟨fs, hparent⟩ := ih
    have hfits : fs.Fits (path ++ [name]) .directory :=
      ⟨⟨by simp, by rwa [List.dropLast_concat]⟩, fun _ => rfl⟩
    exact ⟨fs.graft _ _ hfits, by rw [entry_graft, if_pos rfl]⟩

theorem entry_prune {place : Path} (h : place ≠ []) (path : Path) :
    (fs.prune place h).entry path = if place <+: path then none else fs.entry path := by
  show (fs.entries.filter _).get? path = _
  rw [OrderedMap.get?_filter]
  by_cases hbelow : place <+: path
  · rw [if_pos hbelow]
    cases fs.entries.get? path with
    | none => rfl
    | some e => simp [Option.filter, hbelow]
  · rw [if_neg hbelow]
    show _ = fs.entries.get? path
    cases fs.entries.get? path with
    | none => rfl
    | some e => simp [Option.filter, hbelow]

theorem entry_transplant {source target : Path} (h : fs.Movable source target) (path : Path) :
    (fs.transplant source target h).entry path =
      if target <+: path then fs.entry (source ++ path.drop target.length)
      else if source <+: path then none
      else fs.entry path :=
  get?_moved _ h.outside h.above path

/-! ## Refusals -/

/-- Why `advance` misses. -/
def advanceError (fs : FileSystem) : Path → List Component → SystemError
  | _, [] => .ENOENT
  | path, .here :: rest =>
    if fs.entry path = some .directory then advanceError fs path rest else .ENOTDIR
  | path, .up :: rest =>
    if fs.entry path = some .directory then advanceError fs path.dropLast rest else .ENOTDIR
  | path, .name name :: rest =>
    match fs.entry (path ++ [name]) with
    | none => if fs.entry path = some .directory then .ENOENT else .ENOTDIR
    | some _ => advanceError fs (path ++ [name]) rest

/-- Why `walk` fails. -/
def walkError (fs : FileSystem) : ℕ → Path → List Component → SystemError
  | 0, path, todo =>
    match fs.advance path todo with
    | .missing => fs.advanceError path todo
    | _ => .ELOOP
  | links + 1, path, todo =>
    match fs.advance path todo with
    | .reached _ => .ENOENT
    | .missing => fs.advanceError path todo
    | .link directory target rest =>
      if target = "" then .ENOENT
      else walkError fs links (follow directory target) (components target ++ rest)

/-- Why a path does not resolve. -/
def realpathError (fs : FileSystem) (path : Path) : SystemError :=
  fs.walkError fs.maxLinks [] (path.map .name)

/-- Why there is no entry of this path. -/
def lstatError (fs : FileSystem) (path : Path) : SystemError :=
  match fs.location path with
  | none => fs.realpathError path.dropLast
  | some place => if fs.entry place.dropLast = some .directory then .ENOENT else .ENOTDIR

/-! ## System calls -/

/-- A file that is there can be changed in its place. -/
theorem fits_file {place : Path} {e : Entry} {content : List UInt8} {mode : ℕ}
    (h : fs.entry place = some (.file content mode)) : fs.Fits place e := by
  refine ⟨?_, fun hdirectory => ?_⟩
  · induction place using List.reverseRecOn with
    | nil =>
      rw [entry_nil] at h
      cases h
    | append_singleton place name _ =>
      rw [List.dropLast_concat]
      exact ⟨by simp, fs.parents _ _ _ h⟩
  · rw [h] at hdirectory
    cases hdirectory

/-- `open(path, "wx")` and what is written to the new file. -/
def create (fs : FileSystem) (path : Path) (content : List UInt8) (mode : ℕ) :
    Except SystemError FileSystem :=
  match fs.location path with
  | none => .error (fs.lstatError path)
  | some place =>
    match fs.entry place with
    | some _ => .error .EEXIST
    | none =>
      if h : fs.Fits place (.file content mode) then .ok (fs.graft place _ h)
      else .error (fs.lstatError path)

/-- `chmod(path, mode)` of a file, by a caller who may set every bit of the mode. -/
def chmod (fs : FileSystem) (path : Path) (mode : ℕ) : Except SystemError FileSystem :=
  match fs.realpath path with
  | none => .error (fs.realpathError path)
  | some place =>
    match h : fs.entry place with
    | some (.file content _) => .ok (fs.graft place (.file content mode) (fits_file h))
    | _ => .error .other

/-- `unlink(path)`. -/
def unlink (fs : FileSystem) (path : Path) : Except SystemError FileSystem :=
  match fs.location path with
  | none => .error (fs.lstatError path)
  | some place =>
    match fs.entry place with
    | none => .error (fs.lstatError path)
    | some .directory => .error .EISDIR
    | some _ => if h : place ≠ [] then .ok (fs.prune place h) else .error .EINVAL

/-- `mkdir(path)`. -/
def mkdir (fs : FileSystem) (path : Path) : Except SystemError FileSystem :=
  match fs.location path with
  | none => .error (fs.lstatError path)
  | some place =>
    match fs.entry place with
    | some _ => .error .EEXIST
    | none =>
      if h : fs.Fits place .directory then .ok (fs.graft place _ h)
      else .error (fs.lstatError path)

instance (source target : Path) : Decidable (fs.Movable source target) :=
  decidable_of_iff (¬ source <+: target ∧ ¬ target <+: source ∧
      fs.entry target.dropLast = some .directory)
    ⟨fun h => ⟨h.1, h.2.1, h.2.2⟩, fun h => ⟨h.1, h.2, h.3⟩⟩

/-- What may be replaced by a move of the entry: nothing, a file by a file, and an empty directory by a
directory. -/
def replaceable (fs : FileSystem) (e : Entry) (target : Path) : Except SystemError Unit :=
  match fs.entry target with
  | none => .ok ()
  | some old =>
    match e.isDirectory, old.isDirectory with
    | false, false => .ok ()
    | false, true => .error .EISDIR
    | true, false => .error .ENOTDIR
    | true, true => if fs.names target = [] then .ok () else .error .ENOTEMPTY

/-- `rename(oldPath, newPath)`. -/
def rename (fs : FileSystem) (oldPath newPath : Path) : Except SystemError FileSystem :=
  match fs.location oldPath, fs.location newPath with
  | some source, some target =>
    if fs.entry target.dropLast ≠ some .directory then .error .ENOTDIR
    else
      match fs.entry source with
      | none => .error (fs.lstatError oldPath)
      | some e =>
        if source = target then .ok fs
        else
          match fs.replaceable e target with
          | .error error => .error error
          | .ok () =>
            if h : fs.Movable source target then .ok (fs.transplant source target h)
            else .error .EINVAL
  | none, _ => .error (fs.lstatError oldPath)
  | some _, none => .error (fs.lstatError newPath)

/-! ## What the calls do -/

/-- Nothing stands below an entry that is no directory. -/
theorem entry_below {place rest : Path} (h : fs.entry place ≠ some .directory) (hrest : rest ≠ []) :
    fs.entry (place ++ rest) = none := by
  cases hentry : fs.entry (place ++ rest) with
  | none => rfl
  | some e => exact absurd (entry_above hentry hrest) h

/-- `fs'` is the tree `fs` with this entry at the place. -/
structure Put (fs : FileSystem) (place : Path) (e : Entry) (fs' : FileSystem) : Prop where
  links : fs'.maxLinks = fs.maxLinks
  entry : ∀ path, fs'.entry path = if path = place then some e else fs.entry path

theorem Put.here {place : Path} {e : Entry} {fs' : FileSystem} (h : fs.Put place e fs') :
    fs'.entry place = some e := by rw [h.entry, if_pos rfl]

theorem Put.elsewhere {place : Path} {e : Entry} {fs' : FileSystem} (h : fs.Put place e fs')
    {other : Path} (hother : other ≠ place) : fs'.entry other = fs.entry other := by
  rw [h.entry, if_neg hother]

theorem Put.trans {place : Path} {e e' : Entry} {fs' fs'' : FileSystem} (h : fs.Put place e fs')
    (h' : fs'.Put place e' fs'') : fs.Put place e' fs'' := by
  refine ⟨h'.links.trans h.links, fun path => ?_⟩
  rw [h'.entry, h.entry]
  split <;> rfl

theorem put_graft {place : Path} {e : Entry} (h : fs.Fits place e) :
    fs.Put place e (fs.graft place e h) := ⟨rfl, entry_graft h⟩

theorem create_ok {path place : Path} {content : List UInt8} {mode : ℕ} {fs' : FileSystem}
    (hplace : fs.location path = some place) (h : fs.create path content mode = .ok fs') :
    fs.entry place = none ∧ fs.Put place (.file content mode) fs' := by
  unfold create at h
  rw [hplace] at h
  dsimp only at h
  split at h
  · cases h
  · next hnone =>
    split at h
    · next hfits =>
      cases h
      exact ⟨hnone, put_graft hfits⟩
    · cases h

theorem location_of_create {path : Path} {content : List UInt8} {mode : ℕ} {fs' : FileSystem}
    (h : fs.create path content mode = .ok fs') : ∃ place, fs.location path = some place := by
  unfold create at h
  cases hplace : fs.location path with
  | none =>
    rw [hplace] at h
    cases h
  | some place => exact ⟨place, rfl⟩

/-- `mkdir` makes a directory where there was no entry. -/
theorem mkdir_ok {path : Path} {fs' : FileSystem} (h : fs.mkdir path = .ok fs') :
    ∃ place, fs.location path = some place ∧ fs.entry place = none ∧ fs.Put place .directory fs' := by
  unfold mkdir at h
  split at h
  · cases h
  · next place hplace =>
    split at h
    · cases h
    · next hnone =>
      split at h
      · next hfits =>
        cases h
        exact ⟨place, hplace, hnone, put_graft hfits⟩
      · cases h

theorem create_new {path place : Path} (hplace : fs.location path = some place)
    (hnone : fs.entry place = none) (hparent : place ≠ [] ∧ fs.entry place.dropLast = some .directory)
    (content : List UInt8) (mode : ℕ) : ∃ fs', fs.create path content mode = .ok fs' := by
  have hfits : fs.Fits place (.file content mode) := by
    refine ⟨hparent, fun hdirectory => ?_⟩
    rw [hnone] at hdirectory
    cases hdirectory
  unfold create
  rw [hplace]
  dsimp only
  rw [hnone]
  exact ⟨_, dif_pos hfits⟩

theorem chmod_file {path place : Path} {content : List UInt8} {mode : ℕ}
    (hplace : fs.realpath path = some place) (hfile : fs.entry place = some (.file content mode))
    (mode' : ℕ) :
    ∃ fs', fs.chmod path mode' = .ok fs' ∧ fs.Put place (.file content mode') fs' := by
  unfold chmod
  rw [hplace]
  dsimp only
  split
  · next content' mode'' hentry =>
    rw [hfile] at hentry
    cases hentry
    exact ⟨_, rfl, put_graft _⟩
  · next hother => exact absurd hfile (hother content mode)

/-- `unlink` removes the entry or changes nothing. -/
theorem unlink_ok {path place : Path} {fs' : FileSystem} (hplace : fs.location path = some place)
    (h : fs.unlink path = .ok fs') :
    fs.entry place ≠ none ∧ fs.entry place ≠ some .directory ∧
      ∀ other, fs'.entry other = if other = place then none else fs.entry other := by
  unfold unlink at h
  rw [hplace] at h
  dsimp only at h
  split at h
  · cases h
  · cases h
  · next e hdirectory hentry =>
    have hno : fs.entry place ≠ some .directory := by
      intro hsame
      rw [hentry] at hsame
      exact hdirectory (Option.some.inj hsame)
    split at h
    · next hne =>
      cases h
      refine ⟨by rw [hentry]; exact nofun, hno, fun other => ?_⟩
      rw [entry_prune]
      by_cases hbelow : place <+: other
      · rw [if_pos hbelow]
        obtain ⟨rest, rfl⟩ := hbelow
        by_cases hrest : rest = []
        · rw [if_pos (by rw [hrest, List.append_nil])]
        · rw [entry_below hno hrest]
          split <;> rfl
      · rw [if_neg hbelow, if_neg]
        intro hsame
        exact hbelow (hsame ▸ List.prefix_refl _)
    · cases h

theorem unlink_missing {path place : Path} (hplace : fs.location path = some place)
    (hnone : fs.entry place = none) : fs.unlink path = .error (fs.lstatError path) := by
  unfold unlink
  rw [hplace]
  dsimp only
  rw [hnone]

theorem unlink_file {path place : Path} {e : Entry} (hplace : fs.location path = some place)
    (hentry : fs.entry place = some e) (hfile : e ≠ .directory) : ∃ fs', fs.unlink path = .ok fs' := by
  have hne : place ≠ [] := by
    intro hnil
    rw [hnil, entry_nil] at hentry
    exact hfile (Option.some.inj hentry).symm
  unfold unlink
  rw [hplace]
  dsimp only
  rw [hentry]
  cases e with
  | directory => exact absurd rfl hfile
  | file _ _ | symlink _ | other => exact ⟨_, dif_pos hne⟩

/-- A file goes to a place where no directory stands. -/
theorem rename_file {source target oldPath newPath : Path} {content : List UInt8} {mode : ℕ}
    (hsource : fs.location oldPath = some source) (htarget : fs.location newPath = some target)
    (hfile : fs.entry source = some (.file content mode))
    (hparent : fs.entry target.dropLast = some .directory)
    (hfree : fs.entry target ≠ some .directory) (hne : source ≠ target) :
    ∃ fs', fs.rename oldPath newPath = .ok fs' ∧ fs'.maxLinks = fs.maxLinks ∧
      ∀ path, fs'.entry path =
        if path = target then some (.file content mode)
        else if path = source then none else fs.entry path := by
  have hsourceFree : fs.entry source ≠ some .directory := by
    rw [hfile]
    exact nofun
  have hmovable : fs.Movable source target := by
    refine ⟨?_, ?_, hparent⟩
    · rintro ⟨rest, rfl⟩
      have hrest : rest ≠ [] := fun hnil => hne (by rw [hnil, List.append_nil])
      -- The directory of the target would be the source or below it.
      rw [List.dropLast_append_of_ne_nil hrest] at hparent
      by_cases hnil : rest.dropLast = []
      · rw [hnil, List.append_nil] at hparent
        exact hsourceFree hparent
      · rw [entry_below hsourceFree hnil] at hparent
        cases hparent
    · rintro ⟨rest, rfl⟩
      have hrest : rest ≠ [] := fun hnil => hne (by rw [hnil, List.append_nil])
      rw [entry_below hfree hrest] at hfile
      cases hfile
  have hreplaceable : fs.replaceable (.file content mode) target = .ok () := by
    unfold replaceable
    cases hentry : fs.entry target with
    | none => rfl
    | some old =>
      cases old with
      | directory => exact absurd hentry hfree
      | file _ _ | symlink _ | other => rfl
  refine ⟨fs.transplant source target hmovable, ?_, rfl, fun path => ?_⟩
  · unfold rename
    rw [hsource, htarget]
    dsimp only
    rw [if_neg (not_not_intro hparent), hfile]
    dsimp only
    rw [if_neg hne, hreplaceable]
    exact dif_pos hmovable
  · rw [entry_transplant]
    by_cases hbelow : target <+: path
    · rw [if_pos hbelow]
      obtain ⟨rest, rfl⟩ := hbelow
      rw [List.drop_left]
      by_cases hrest : rest = []
      · rw [hrest, List.append_nil, List.append_nil, if_pos rfl, hfile]
      · have hother : target ++ rest ≠ target := by simpa using hrest
        rw [entry_below hsourceFree hrest, if_neg hother, entry_below hfree hrest]
        split <;> rfl
    · have hoff : path ≠ target := by
        rintro rfl
        exact hbelow (List.prefix_refl _)
      rw [if_neg hbelow, if_neg hoff]
      by_cases hbelow' : source <+: path
      · rw [if_pos hbelow']
        obtain ⟨rest, rfl⟩ := hbelow'
        by_cases hrest : rest = []
        · rw [if_pos (by rw [hrest, List.append_nil])]
        · rw [entry_below hsourceFree hrest]
          split <;> rfl
      · have hother : path ≠ source := by
          rintro rfl
          exact hbelow' (List.prefix_refl _)
        rw [if_neg hbelow', if_neg hother]

theorem rename_parent {oldPath newPath target : Path} {fs' : FileSystem}
    (htarget : fs.location newPath = some target) (h : fs.rename oldPath newPath = .ok fs') :
    fs.entry target.dropLast = some .directory := by
  unfold rename at h
  rw [htarget] at h
  cases hsource : fs.location oldPath with
  | none =>
    rw [hsource] at h
    cases h
  | some source =>
    rw [hsource] at h
    dsimp only at h
    split at h
    · cases h
    · next hparent => exact not_not.mp hparent

/-! ## Paths that keep leading where they did -/

/-- What a walk sees of an entry. -/
def shape : Entry → Entry
  | .file _ _ => .file [] 0
  | e => e

/-- Every entry of `fs` stands in `fs'` too, files perhaps with other content. -/
structure Keeps (fs fs' : FileSystem) : Prop where
  links : fs'.maxLinks = fs.maxLinks
  entry : ∀ path e, fs.entry path = some e → ∃ e', fs'.entry path = some e' ∧ shape e' = shape e

theorem shape_directory {e : Entry} (h : shape e = shape .directory) : e = .directory := by
  cases e with
  | directory => rfl
  | file _ _ | symlink _ | other => cases h

theorem shape_symlink {e : Entry} {target : String} (h : shape e = shape (.symlink target)) :
    e = .symlink target := by
  cases e with
  | symlink target' => exact h
  | file _ _ | directory | other => cases h

namespace Keeps
variable {fs' : FileSystem} (h : fs.Keeps fs')
include h

theorem directory {path : Path} (hentry : fs.entry path = some .directory) :
    fs'.entry path = some .directory := by
  obtain ⟨e, he, hshape⟩ := h.entry _ _ hentry
  rw [he, shape_directory hshape]

/-- A walk that does not miss goes the same way. -/
theorem advance (path : Path) (todo : List Component) (hfound : fs.advance path todo ≠ .missing) :
    fs'.advance path todo = fs.advance path todo := by
  induction todo generalizing path with
  | nil => rfl
  | cons step todo ih =>
    cases step with
    | here =>
      rw [advance_here] at hfound ⊢
      rw [advance_here]
      by_cases hdirectory : fs.entry path = some .directory
      · rw [if_pos hdirectory] at hfound ⊢
        rw [if_pos (h.directory hdirectory)]
        exact ih path hfound
      · rw [if_neg hdirectory] at hfound
        exact absurd rfl hfound
    | up =>
      rw [advance_up] at hfound ⊢
      rw [advance_up]
      by_cases hdirectory : fs.entry path = some .directory
      · rw [if_pos hdirectory] at hfound ⊢
        rw [if_pos (h.directory hdirectory)]
        exact ih path.dropLast hfound
      · rw [if_neg hdirectory] at hfound
        exact absurd rfl hfound
    | name name =>
      rw [advance_name] at hfound ⊢
      rw [advance_name]
      cases hentry : fs.entry (path ++ [name]) with
      | none =>
        rw [hentry] at hfound
        exact absurd rfl hfound
      | some e =>
        rw [hentry] at hfound
        obtain ⟨e', hentry', hshape⟩ := h.entry _ _ hentry
        rw [hentry']
        cases e with
        | symlink target =>
          rw [shape_symlink hshape]
        | file content mode =>
          cases e' with
          | file _ _ => exact ih _ hfound
          | directory | symlink _ | other => cases hshape
        | directory =>
          rw [shape_directory hshape]
          exact ih _ hfound
        | other =>
          cases e' with
          | other => exact ih _ hfound
          | file _ _ | directory | symlink _ => cases hshape

theorem walk {links : ℕ} {path : Path} {todo : List Component} {reached : ℕ × Path}
    (hwalk : fs.walk links path todo = some reached) : fs'.walk links path todo = some reached := by
  induction links generalizing path todo with
  | zero =>
    unfold FileSystem.walk at hwalk ⊢
    cases hadvance : fs.advance path todo with
    | reached path' =>
      rw [h.advance path todo (by rw [hadvance]; simp)]
      exact hwalk
    | missing =>
      rw [hadvance] at hwalk
      cases hwalk
    | link directory target rest =>
      rw [hadvance] at hwalk
      cases hwalk
  | succ links ih =>
    rw [FileSystem.walk] at hwalk ⊢
    cases hadvance : fs.advance path todo with
    | reached path' =>
      rw [h.advance path todo (by rw [hadvance]; simp), hadvance]
      rw [hadvance] at hwalk
      exact hwalk
    | missing =>
      rw [hadvance] at hwalk
      cases hwalk
    | link directory target rest =>
      rw [h.advance path todo (by rw [hadvance]; simp)]
      rw [hadvance] at hwalk ⊢
      dsimp only at hwalk ⊢
      split at hwalk
      · cases hwalk
      · next hne =>
        rw [if_neg hne]
        exact ih hwalk

theorem realpath {path real : Path} {slash : Bool} (hreal : fs.realpath path slash = some real) :
    fs'.realpath path slash = some real := by
  unfold FileSystem.realpath at hreal ⊢
  obtain ⟨reached, hwalk, hlast⟩ := Option.map_eq_some_iff.mp hreal
  rw [h.links, h.walk hwalk]
  exact congrArg some hlast

theorem location {path place : Path} (hplace : fs.location path = some place) :
    fs'.location path = some place := by
  induction path using List.reverseRecOn with
  | nil => exact hplace
  | append_singleton path name _ =>
    rw [location_concat] at hplace ⊢
    obtain ⟨directory, hreal, hlast⟩ := Option.map_eq_some_iff.mp hplace
    rw [h.realpath hreal]
    exact congrArg some hlast

end Keeps

theorem Keeps.refl (fs : FileSystem) : fs.Keeps fs := ⟨rfl, fun _ e hentry => ⟨e, hentry, rfl⟩⟩

theorem Keeps.trans {fs' fs'' : FileSystem} (h : fs.Keeps fs') (h' : fs'.Keeps fs'') :
    fs.Keeps fs'' := by
  refine ⟨h'.links.trans h.links, fun path e hentry => ?_⟩
  obtain ⟨e', hentry', hshape⟩ := h.entry _ _ hentry
  obtain ⟨e'', hentry'', hshape'⟩ := h'.entry _ _ hentry'
  exact ⟨e'', hentry'', hshape'.trans hshape⟩

theorem Put.keeps {place : Path} {e : Entry} {fs' : FileSystem} (h : fs.Put place e fs')
    (hsame : ∀ old, fs.entry place = some old → shape e = shape old) : fs.Keeps fs' := by
  refine ⟨h.links, fun path old hentry => ?_⟩
  rw [h.entry]
  by_cases hpath : path = place
  · rw [if_pos hpath]
    exact ⟨e, rfl, hsame old (hpath ▸ hentry)⟩
  · rw [if_neg hpath]
    exact ⟨old, hentry, rfl⟩

/-- An entry in a place that was free. -/
theorem Put.keeps_none {place : Path} {e : Entry} {fs' : FileSystem} (h : fs.Put place e fs')
    (hnone : fs.entry place = none) : fs.Keeps fs' :=
  h.keeps fun old hold => by
    rw [hnone] at hold
    cases hold

/-- A file in the place of a file, or of nothing. -/
theorem Put.keeps_file {place : Path} {e : Entry} {fs' : FileSystem} (h : fs.Put place e fs')
    (he : e.isFile = true) (hold : ∀ old, fs.entry place = some old → old.isFile = true) :
    fs.Keeps fs' := by
  refine h.keeps fun old hentry => ?_
  have hfile := hold old hentry
  cases e with
  | file _ _ =>
    cases old with
    | file _ _ => rfl
    | directory | symlink _ | other => cases hfile
  | directory | symlink _ | other => cases he

/-- Where the last entry of a path is. -/
theorem location_parent {path place : Path} (hpath : path ≠ []) (h : fs.location path = some place) :
    ∃ above directory name, path = above ++ [name] ∧ place = directory ++ [name] ∧
      fs.realpath above = some directory := by
  induction path using List.reverseRecOn with
  | nil => exact absurd rfl hpath
  | append_singleton above name _ =>
    rw [location_concat] at h
    obtain ⟨directory, hreal, rfl⟩ := Option.map_eq_some_iff.mp h
    exact ⟨above, directory, name, rfl, rfl, hreal⟩

/-- Where a path resolves, its entry is there. -/
theorem lstat_of_realpath {path real : Path} (h : fs.realpath path = some real) :
    ∃ e, fs.lstat path = some e := by
  induction path using List.reverseRecOn with
  | nil => exact ⟨.directory, fs.root⟩
  | append_singleton above name _ =>
    obtain ⟨directory, e, hdirectory, hentry, _⟩ := realpath_concat_some h
    refine ⟨e, ?_⟩
    unfold lstat
    rw [location_concat, hdirectory]
    exact hentry

theorem ne_nil_of_file {path : Path} {content : List UInt8} {mode : ℕ}
    (h : fs.lstat path = some (.file content mode)) : path ≠ [] := by
  rintro rfl
  have hroot : fs.lstat [] = some .directory := fs.root
  rw [hroot] at h
  cases h

/-- The paths above one that resolves resolve to directories. -/
theorem realpath_above {path rest real : Path} (h : fs.realpath (path ++ rest) = some real)
    (hrest : rest ≠ []) :
    ∃ directory, fs.realpath path = some directory ∧ fs.entry directory = some .directory := by
  induction rest using List.reverseRecOn generalizing real with
  | nil => exact absurd rfl hrest
  | append_singleton rest name ih =>
    rw [← List.append_assoc] at h
    obtain ⟨directory, e, hdirectory, hentry, _⟩ := realpath_concat_some h
    by_cases hnil : rest = []
    · rw [hnil, List.append_nil] at hdirectory
      exact ⟨directory, hdirectory, entry_parent hentry⟩
    · exact ih hdirectory hnil

end FileSystem

end Doctmcp.Lib

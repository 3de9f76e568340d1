import Doctmcp.Lib.FileChange
import Doctmcp.Tools.Resolver

/-! # Canonical paths of what does not exist

`canonicalizeTarget` climbs from a path that does not resolve to an ancestor that does. The name it
collects on each level is right unless the parent is `/`, where the slice drops a character of it. A
deny rule for a missing path is kept as its canonical path alone, so it denies the path itself only
where that place lies on it. -/

namespace Doctmcp.Tools
open Doctmcp.Lib Doctmcp.Lib.PosixPath
set_option autoImplicit false

/-! ## Texts of paths -/

/-- The code unit of the separator is one of the parent's text. -/
theorem length_append (s t : String) :
    JsString.length (s ++ t) = JsString.length s + JsString.length t := by
  simp [JsString.length]

/-- Below any directory but `/` the slice is the name, with the slash that follows it. -/
theorem slice_renderSlash {parent : Path} (h : parent ≠ []) (name : Name) (slash : Bool) :
    JsString.slice (JsString.length (render parent) + 1) (renderSlash (parent ++ [name]) slash) =
      name.val ++ if slash then "/" else "" := by
  have htext : renderSlash (parent ++ [name]) slash =
      (render parent ++ "/") ++ (name.val ++ if slash then "/" else "") := by
    have hrender : render (parent ++ [name]) = render parent ++ "/" ++ name.val := by
      unfold render
      rw [List.map_append, List.map_cons, List.map_nil, joinText_append (by rwa [ne_eq, List.map_eq_nil_iff])]
      simp only [String.append_assoc]
    unfold renderSlash
    rw [hrender]
    cases slash with
    | true => simp [String.append_assoc]
    | false => simp
  have hlength : JsString.length (render parent ++ "/") = JsString.length (render parent) + 1 :=
    length_append _ _
  rw [htext, ← hlength, JsString.slice_append]

/-! ## The loop -/

section Climb
variable {fs : FileSystem} {root : Path}

theorem climb_found {upward : List Name} {slash : Bool} {existing : Path}
    (h : fs.realpath upward.reverse slash = some existing) (missing : List String) :
    climb fs root upward slash missing = .ok ⟨missing.reverse.foldl join existing, false⟩ := by
  unfold climb
  rw [h]

theorem climb_up {parent : Path} {name : Name} {slash : Bool}
    (h : fs.realpath (parent ++ [name]) slash = none) (hroot : root <+: parent)
    (missing : List String) :
    climb fs root (parent ++ [name]).reverse slash missing =
      climb fs root parent.reverse false
        (missing ++ [JsString.slice (JsString.length (render parent) + 1)
          (renderSlash (parent ++ [name]) slash)]) := by
  have hinside : isPathInside root parent = true := (isPathInside_iff root parent).mpr hroot
  rw [List.reverse_concat]
  conv_lhs => unfold climb
  rw [List.reverse_cons, List.reverse_reverse, h]
  dsimp only
  rw [List.reverse_reverse, if_pos hinside, List.reverse_cons, List.reverse_reverse]

/-- From a path for which the climb is right it is right for whatever lies below and resolves, if it
does, to its place. -/
theorem climb_tail {base start tail : Path} {slash : Bool}
    (hbase : ∀ missing, climb fs root base.reverse false missing =
      .ok ⟨missing.reverse.foldl join start, false⟩)
    (hne : base ≠ []) (hroot : root <+: base)
    (hfront : ∀ front, front <+: tail → front ≠ [] → front ≠ tail → ∀ real,
      fs.realpath (base ++ front) = some real → real = start ++ front)
    (hlast : ∀ real, fs.realpath (base ++ tail) slash = some real → real = start ++ tail)
    (hslash : tail = [] → slash = false) (missing : List String) :
    climb fs root (base ++ tail).reverse slash missing =
      .ok ⟨missing.reverse.foldl join (start ++ tail), false⟩ := by
  induction tail using List.reverseRecOn generalizing slash missing with
  | nil =>
    rw [hslash rfl, List.append_nil, List.append_nil]
    exact hbase missing
  | append_singleton tail name ih =>
    cases hreal : fs.realpath (base ++ (tail ++ [name])) slash with
    | some real =>
      have hfound : fs.realpath (base ++ (tail ++ [name])).reverse.reverse slash = some real := by
        rw [List.reverse_reverse]
        exact hreal
      rw [climb_found hfound, hlast real hreal]
    | none =>
      rw [← List.append_assoc] at hreal ⊢
      have hparent : base ++ tail ≠ [] := by
        intro hnil
        exact hne (List.append_eq_nil_iff.mp hnil).1
      rw [climb_up hreal (hroot.trans (List.prefix_append _ _)), slice_renderSlash hparent]
      have hbelow : ∀ front, front <+: tail → front ≠ [] → ∀ real,
          fs.realpath (base ++ front) = some real → real = start ++ front := by
        intro front hfront' hnonempty
        refine hfront front (hfront'.trans (List.prefix_append _ _)) hnonempty ?_
        intro hsame
        have hlength := hfront'.length_le
        rw [hsame, List.length_append, List.length_singleton] at hlength
        omega
      have hclimb := @ih false (fun front hfore hnonempty _ =>
          hbelow front hfore hnonempty) ?_ (fun _ => rfl)
        (missing ++ [name.val ++ if slash then "/" else ""])
      · rw [hclimb, List.reverse_concat, List.foldl_cons, join_name_slash, List.append_assoc]
      · intro real hsome
        by_cases hnil : tail = []
        · -- The parent is the base, where the climb ends.
          subst hnil
          have hstart := hbase []
          rw [List.append_nil] at hsome ⊢
          rw [climb_found (by rwa [List.reverse_reverse])] at hstart
          cases hstart
          rfl
        · exact hbelow tail (List.prefix_refl _) hnil real hsome

theorem climb_resolved {base real : Path} (h : fs.realpath base = some real)
    (missing : List String) :
    climb fs root base.reverse false missing = .ok ⟨missing.reverse.foldl join real, false⟩ :=
  climb_found (by rwa [List.reverse_reverse]) missing

end Climb

/-! ## Missing paths -/

/-- `above` is the longest proper ancestor of the path that resolves. -/
structure LongestAncestor (fs : FileSystem) (path above below existing : Path) : Prop where
  split : path = above ++ below
  proper : below ≠ []
  resolves : fs.realpath above = some existing
  longest : ∀ front, front <+: below → front ≠ [] → front ≠ below →
    fs.realpath (above ++ front) = none

section Missing
variable {fs : FileSystem} {root path above below existing : Path} {slash : Bool}

theorem LongestAncestor.canonical (h : LongestAncestor fs path above below existing)
    (hmissing : fs.realpath path slash = none) (hroot : root <+: above) (habove : above ≠ []) :
    canonicalizeTarget fs root path slash = .ok ⟨existing ++ below, false⟩ := by
  unfold canonicalizeTarget
  rw [hmissing]
  dsimp only
  rw [h.split] at hmissing ⊢
  refine climb_tail (climb_resolved h.resolves) habove hroot ?_ ?_ ?_ []
  · intro front hfront hnonempty hne real hreal
    rw [h.longest front hfront hnonempty hne] at hreal
    cases hreal
  · intro real hreal
    rw [hmissing] at hreal
    cases hreal
  · intro hnil
    exact absurd hnil h.proper

/-- The root resolves, so no shorter ancestor is the longest one. -/
theorem LongestAncestor.root_above (h : LongestAncestor fs path above below existing)
    (hroot : ∃ real, fs.realpath root = some real) (hbelow : root <+: path) (hne : root ≠ path) :
    root <+: above := by
  rw [h.split] at hbelow hne
  rcases List.prefix_or_prefix_of_prefix hbelow (List.prefix_append above below) with hin | hover
  · exact hin
  · obtain ⟨front, rfl⟩ := hover
    have hfront : front <+: below := (List.prefix_append_right_inj above).mp hbelow
    by_cases hnil : front = []
    · exact ⟨[], by rw [hnil, List.append_nil, List.append_nil]⟩
    · have hnone := h.longest front hfront hnil fun hsame => hne (by rw [hsame])
      obtain ⟨real, hreal⟩ := hroot
      rw [hnone] at hreal
      cases hreal

/-- No directory stands where the path goes on from its ancestor. -/
theorem LongestAncestor.no_directory (h : LongestAncestor fs path above below existing)
    (hmissing : fs.realpath path = none) {front : Path} (hne : front ≠ []) (hfront : front <+: below) :
    fs.entry (existing ++ front) ≠ some .directory := by
  intro hentry
  obtain ⟨name, rest, rfl⟩ := List.exists_cons_of_ne_nil hne
  have hfirst : fs.entry (existing ++ [name]) = some .directory := by
    by_cases hrest : rest = []
    · rw [← hrest]
      exact hentry
    · rw [List.append_cons] at hentry
      exact FileSystem.entry_above hentry hrest
  have hreal := FileSystem.realpath_concat h.resolves hfirst rfl
  have hname : [name] <+: below := ((List.prefix_append [name] rest)).trans hfront
  by_cases hsame : [name] = below
  · rw [h.split, ← hsame, hreal] at hmissing
    cases hmissing
  · rw [h.longest [name] hname (List.cons_ne_nil _ _) hsame] at hreal
    cases hreal

theorem canonical_missing (h : LongestAncestor fs path above below existing)
    (hmissing : fs.realpath path slash = none) (hroot : ∃ real, fs.realpath root = some real)
    (hbelow : root <+: path) (hne : root ≠ path) (habove : above ≠ []) :
    canonicalizeTarget fs root path slash = .ok ⟨existing ++ below, false⟩ :=
  h.canonical hmissing (h.root_above hroot hbelow hne) habove

/-- Directly below `/` the slice lacks a character of the name. -/
theorem join_slice (name : Name) (slash : Bool) :
    join [] (JsString.slice (JsString.length (render []) + 1) (renderSlash [name] slash)) = [] ∨
      ∃ other : Name, join [] (JsString.slice (JsString.length (render []) + 1)
        (renderSlash [name] slash)) = [other] ∧ other.val = JsString.slice 1 name.val := by
  have hcut : JsString.slice (JsString.length (render []) + 1) (renderSlash [name] slash) =
      JsString.slice 1 name.val ++ if slash then "/" else "" := by
    rw [← String.toList_inj, String.toList_append]
    obtain ⟨c, cs, hname⟩ := List.exists_cons_of_ne_nil fun hnil =>
      name.property.1 (String.toList_eq_nil_iff.mp hnil)
    have htext : (renderSlash [name] slash).toList =
        '/' :: c :: (cs ++ if slash then ['/'] else []) := by
      have hrender : (render [name]).toList = '/' :: c :: cs := by
        unfold render
        rw [String.toList_append, List.map_cons, toList_joinText_cons, hname]
        simp
      unfold renderSlash
      cases slash with
      | true => simp [hrender]
      | false => simp [hrender]
    unfold JsString.slice
    rw [String.toList_ofList, String.toList_ofList, htext, hname]
    show JsString.dropUnits 1 (c :: (cs ++ _)) = JsString.dropUnits 1 (c :: cs) ++ _
    unfold JsString.dropUnits
    split
    · cases slash <;> simp
    · cases slash <;> simp
  have hfree : '/' ∉ (JsString.slice 1 name.val).toList := by
    intro hmem
    obtain ⟨c, cs, hname⟩ := List.exists_cons_of_ne_nil fun hnil =>
      name.property.1 (String.toList_eq_nil_iff.mp hnil)
    have hslash := name.property.2.2.2
    unfold JsString.slice at hmem
    rw [String.toList_ofList, hname] at hmem
    rw [hname] at hslash
    unfold JsString.dropUnits at hmem
    split at hmem
    · exact hslash (List.mem_cons_of_mem _ hmem)
    · rcases List.mem_cons.mp hmem with hreplaced | hmem
      · exact absurd hreplaced (by decide)
      · exact hslash (List.mem_cons_of_mem _ hmem)
  rw [hcut, join_segment hfree]
  cases hcomponent : component (JsString.slice 1 name.val) with
  | here => exact .inl rfl
  | up => exact .inl rfl
  | name other => exact .inr ⟨other, rfl, component_eq_name hcomponent⟩

theorem join_slice_ne (name : Name) (slash : Bool) (rest : Path) :
    join [] (JsString.slice (JsString.length (render []) + 1) (renderSlash [name] slash)) ++ rest ≠
      name :: rest := by
  intro hsame
  rcases join_slice name slash with hnil | ⟨other, hother, hslice⟩
  · rw [hnil] at hsame
    have hlength := congrArg List.length hsame
    simp at hlength
  · rw [hother] at hsame
    have hname : other = name := (List.cons.inj hsame).1
    rw [hname] at hslice
    exact JsString.slice_one_ne name.property.1 hslice.symm

theorem LongestAncestor.canonical_ne (h : LongestAncestor fs path [] below existing)
    (hmissing : fs.realpath path slash = none) :
    canonicalizeTarget fs [] path slash ≠ .ok ⟨existing ++ below, false⟩ := by
  have hexisting : existing = [] := by
    have hnil := h.resolves
    rw [FileSystem.realpath_nil] at hnil
    exact (Option.some.inj hnil).symm
  obtain ⟨name, rest, rfl⟩ := List.exists_cons_of_ne_nil h.proper
  have hpath : path = name :: rest := h.split
  subst hexisting hpath
  have htop : ∀ slash missing, fs.realpath [name] slash = none →
      climb fs [] [name].reverse slash missing = .ok ⟨missing.reverse.foldl join
        (join [] (JsString.slice (JsString.length (render []) + 1) (renderSlash [name] slash))),
          false⟩ := by
    intro slash missing hnone
    have hup := @climb_up fs [] [] name slash hnone List.nil_prefix missing
    rw [List.nil_append] at hup
    rw [hup, climb_resolved FileSystem.realpath_nil, List.reverse_concat, List.foldl_cons]
  unfold canonicalizeTarget
  rw [hmissing]
  dsimp only
  intro hfalse
  by_cases hrest : rest = []
  · subst hrest
    rw [htop slash [] hmissing] at hfalse
    have hsame := congrArg CanonicalTarget.canonicalPath (Except.ok.inj hfalse)
    exact join_slice_ne name slash [] (by simpa using hsame)
  · have hfirst : fs.realpath [name] = none := by
      have hlongest := h.longest [name] ⟨rest, rfl⟩ (by simp) (by simpa using Ne.symm hrest)
      simpa using hlongest
    have hclimb := @climb_tail fs [] [name] _ rest slash
      (fun missing => htop false missing hfirst) (by simp) List.nil_prefix ?_ ?_
      (fun hnil => absurd hnil hrest) []
    · rw [show name :: rest = [name] ++ rest from rfl, hclimb] at hfalse
      have hsame := congrArg CanonicalTarget.canonicalPath (Except.ok.inj hfalse)
      exact join_slice_ne name false rest (by simpa using hsame)
    · intro front hfront hnonempty hne real hreal
      have hnone := h.longest ([name] ++ front) ((List.prefix_append_right_inj [name]).mpr hfront)
        (by simp) (by simpa using hne)
      rw [List.nil_append] at hnone
      rw [hnone] at hreal
      cases hreal
    · intro real hreal
      rw [show [name] ++ rest = name :: rest from rfl, hmissing] at hreal
      cases hreal

end Missing

/-! ## Deny rules for missing paths -/

theorem mapM_ok {α β ε : Type} {f : α → Except ε β} {l : List α} {m : List β}
    (h : l.mapM f = .ok m) {a : α} (ha : a ∈ l) : ∃ b ∈ m, f a = .ok b := by
  induction l generalizing m with
  | nil => cases ha
  | cons x l ih =>
    rw [List.mapM_cons] at h
    cases hx : f x with
    | error error =>
      rw [hx] at h
      cases h
    | ok y =>
      rw [hx] at h
      cases hl : l.mapM f with
      | error error =>
        simp only [bind, Except.bind, hl] at h
        cases h
      | ok ys =>
        simp only [bind, Except.bind, hl] at h
        cases h
        rcases List.mem_cons.mp ha with rfl | ha
        · exact ⟨y, List.mem_cons_self, hx⟩
        · obtain ⟨b, hb, hfb⟩ := ih hl ha
          exact ⟨b, List.mem_cons_of_mem _ hb, hfb⟩

/-- A rule is registered as the relative path of where it leads, which is inside the root. -/
theorem canonicalizeDeny_ok_iff {fs : FileSystem} {root place : Path} {denyPath deny : String}
    {found : Bool} (htarget : canonicalizeTarget fs root (join root denyPath) (endsInSlash denyPath) =
      .ok ⟨place, found⟩) :
    canonicalizeDeny fs root denyPath = .ok deny ↔
      rejectUnsafeRelativePath denyPath = .ok () ∧ root <+: place ∧ relative root place = deny := by
  unfold canonicalizeDeny
  cases hsafe : rejectUnsafeRelativePath denyPath with
  | error error =>
    constructor
    · intro h
      cases h
    · intro h
      cases h.1
  | ok _ =>
    rw [htarget]
    simp only [bind, Except.bind, true_and]
    split
    · next hinside =>
      rw [Except.ok.injEq]
      exact ⟨fun h => ⟨(isPathInside_iff _ _).mp hinside, h⟩, And.right⟩
    · next houtside =>
      rw [isPathInside_iff] at houtside
      constructor
      · intro h
        cases h
      · intro h
        exact absurd h.1 houtside

/-- The registry, made in the tree, has a workspace at the root with a deny rule for the path. -/
structure Ruled (fs : FileSystem) (root path : Path) (slash : Bool) (registry : WorkspaceRegistry)
    (config : WorkspaceConfig) : Prop where
  created : ∃ cwd configs, WorkspaceRegistry.create fs cwd configs = .ok registry ∧
    config ∈ configs ∧ canonicalizeRoot fs cwd config.root = .ok root
  rule : ∃ denyPath ∈ config.deny, join root denyPath = path ∧ endsInSlash denyPath = slash

/-- Some registry can have a deny rule for the path: the root is a real path, and a text that is not
rejected names the path, which leads to a place inside the root. -/
structure Rulable (fs : FileSystem) (root path place : Path) (slash : Bool) : Prop where
  canonical : fs.realpath root = some root
  text : ∃ denyPath, rejectUnsafeRelativePath denyPath = .ok () ∧ join root denyPath = path ∧
    endsInSlash denyPath = slash
  inside : root <+: place

/-- A deny rule for the path denies it, and whatever lies below it, in every later tree in which the
path exists. -/
def DeniesOnceCreated (fs : FileSystem) (root path : Path) (slash : Bool) : Prop :=
  ∀ (registry : WorkspaceRegistry) (config : WorkspaceConfig),
    Ruled fs root path slash registry config →
    ∀ (later : FileSystem) (request : String) (capability : Option WorkspaceCapability)
      (rest : Path), later.lstat path ≠ none → join root request = path ++ rest →
      ∀ resolved, resolvePath later registry config.id request capability ≠ .ok resolved

/-- A deny rule for the path denies whatever is, or leads, at or below the place in any tree. -/
def DeniesPlace (fs : FileSystem) (root path place : Path) (slash : Bool) : Prop :=
  ∀ (registry : WorkspaceRegistry) (config : WorkspaceConfig),
    Ruled fs root path slash registry config →
    ∀ (later : FileSystem) (request : String) (capability : Option WorkspaceCapability)
      (resolved : ResolvedWorkspacePath),
      resolvePath later registry config.id request capability = .ok resolved →
      ¬ place <+: resolved.operationPath ∧ ¬ place <+: resolved.canonicalPath

section Rules
variable {fs : FileSystem} {root path place : Path} {slash : Bool}

/-- The registered rule leads to the canonical path. -/
theorem Ruled.registered {registry : WorkspaceRegistry} {config : WorkspaceConfig}
    (h : Ruled fs root path slash registry config)
    (htarget : canonicalizeTarget fs root path slash = .ok ⟨place, false⟩) :
    Rulable fs root path place slash ∧ ∃ workspace, registry.get config.id = some workspace ∧
      workspace.root = root ∧ ∃ deny ∈ workspace.deny, join root deny = place := by
  obtain ⟨cwd, configs, hcreate, hconfig, hroot⟩ := h.created
  obtain ⟨denyPath, hdenyPath, rfl, rfl⟩ := h.rule
  obtain ⟨root', rules, hroot', hrules, hget⟩ := create_get hcreate hconfig
  rw [hroot] at hroot'
  cases hroot'
  obtain ⟨deny, hdeny, hcanonical⟩ := mapM_ok hrules hdenyPath
  obtain ⟨hsafe, hinside, rfl⟩ := (canonicalizeDeny_ok_iff htarget).mp hcanonical
  have hreal : fs.realpath root = some root := by
    unfold canonicalizeRoot at hroot
    cases hresolve : fs.realpath (resolve cwd config.root) with
    | none =>
      rw [hresolve] at hroot
      cases hroot
    | some real =>
      rw [hresolve] at hroot
      cases hroot
      exact FileSystem.realpath_realpath hresolve
  exact ⟨⟨hreal, ⟨denyPath, hsafe, rfl, rfl⟩, hinside⟩, _, hget, rfl, _, hdeny,
    join_relative hinside⟩

/-- A workspace with the rule alone. -/
theorem Rulable.ruled (h : Rulable fs root path place slash)
    (htarget : canonicalizeTarget fs root path slash = .ok ⟨place, false⟩) :
    ∃ config, Ruled fs root path slash
      ⟨[⟨config.id, config.name, root, config.capabilities, [relative root place]⟩]⟩ config := by
  obtain ⟨denyPath, hsafe, rfl, rfl⟩ := h.text
  have hdeny := (canonicalizeDeny_ok_iff htarget).mpr ⟨hsafe, h.inside, rfl⟩
  have hroot : canonicalizeRoot fs [] (render root) = .ok root := by
    unfold canonicalizeRoot
    rw [resolve_render, h.canonical]
  refine ⟨⟨"project", "Project", render root, {}, [denyPath]⟩,
    ⟨[], _, ?_, List.mem_singleton_self _, hroot⟩, denyPath, List.mem_singleton_self _, rfl, rfl⟩
  unfold WorkspaceRegistry.create
  rw [List.foldlM_cons]
  unfold createWorkspace
  simp [hroot, hdeny, bind, Except.bind, pure, Except.pure, overlaps]

theorem deniesPlace (htarget : canonicalizeTarget fs root path slash = .ok ⟨place, false⟩) :
    DeniesPlace fs root path place slash := by
  intro registry config hruled later request capability resolved hresolved
  obtain ⟨_, workspace, hget, rfl, deny, hdeny, rfl⟩ := hruled.registered htarget
  have hresolves := resolvePath_ok hresolved
  have hworkspace : workspace = resolved.workspace :=
    Option.some.inj (hget.symm.trans hresolves.workspace)
  subst hworkspace
  exact (not_denied hresolves.allowed hdeny).1

/-- A place on the path is above whatever the rule has to deny. -/
theorem deniesOnceCreated (htarget : canonicalizeTarget fs root path slash = .ok ⟨place, false⟩)
    (hplace : Rulable fs root path place slash → place <+: path) :
    DeniesOnceCreated fs root path slash := by
  intro registry config hruled later request capability rest _ hrequest resolved hresolved
  obtain ⟨hrulable, workspace, hget, hroot, _⟩ := hruled.registered htarget
  have hresolves := resolvePath_ok hresolved
  have hworkspace : workspace = resolved.workspace :=
    Option.some.inj (hget.symm.trans hresolves.workspace)
  refine (deniesPlace htarget registry config hruled later request capability resolved hresolved).1 ?_
  rw [hresolves.operation, ← hworkspace, hroot, hrequest]
  exact (hplace hrulable).trans (List.prefix_append _ _)

/-- What is there, inside the root and denied by no rule, is let through. -/
theorem resolvePath_real {registry : WorkspaceRegistry} {id request : String}
    {workspace : WorkspaceMetadata} {real : Path} (hget : registry.get id = some workspace)
    (hsafe : rejectUnsafeRelativePath request = .ok ())
    (hreal : fs.realpath (join workspace.root request) = some real)
    (hinside : workspace.root <+: real)
    (hallowed : denies workspace none (join workspace.root request) real = false) :
    resolvePath fs registry id request none =
      .ok ⟨workspace, join workspace.root request, real, true⟩ := by
  have htarget : canonicalizeTarget fs workspace.root (join workspace.root request) =
      .ok ⟨real, true⟩ := by
    unfold canonicalizeTarget
    rw [hreal]
  unfold resolvePath
  simp [hget, hsafe, htarget, hallowed, (isPathInside_iff _ _).mpr hinside, finalEntryIsSymlink, bind,
    Except.bind]

/-- Where the place is not on the path, a tree in which the path is a directory gets past the rule. -/
theorem Rulable.prefix_of_denies (h : Rulable fs root path place slash)
    (htarget : canonicalizeTarget fs root path slash = .ok ⟨place, false⟩)
    (hdenies : DeniesOnceCreated fs root path slash) : place <+: path := by
  by_contra hapart
  obtain ⟨config, hruled⟩ := h.ruled htarget
  obtain ⟨later, hlater⟩ := FileSystem.exists_directory path
  obtain ⟨denyPath, hsafe, hpath, _⟩ := h.text
  have hbelow : root <+: path := hpath ▸ prefix_join hsafe root
  have hreal : later.realpath (join root denyPath) = some path := by
    rw [hpath]
    exact FileSystem.realpath_directory hlater
  refine hdenies _ config hruled later denyPath none [] ?_ (by rw [hpath, List.append_nil]) _
    (resolvePath_real (List.find?_cons_of_pos (by simp)) hsafe hreal hbelow ?_)
  · rw [FileSystem.lstat_directory hlater]
    exact Option.some_ne_none _
  · have hout : isPathInside place path = false := by
      rw [Bool.eq_false_iff, ne_eq, isPathInside_iff]
      exact hapart
    simp [denies, hpath, join_relative h.inside, hout]

end Rules

/-- The canonical path of a missing path is its longest ancestor that resolves, resolved, with the
remaining names, exactly where that ancestor is not the root of the file system. Its deny rule then
denies that place; it denies the path itself once that exists exactly where the place is the path or
lies above it, so over no link. -/
theorem canonicalizeTarget_missing_iff {fs : FileSystem} {root path above below existing : Path}
    {slash : Bool} (hroot : ∃ real, fs.realpath root = some real) (hbelow : root <+: path)
    (hne : root ≠ path) (hmissing : fs.realpath path slash = none)
    (hlongest : LongestAncestor fs path above below existing) :
    (canonicalizeTarget fs root path slash = .ok ⟨existing ++ below, false⟩ ∧
        DeniesOnceCreated fs root path slash ↔
      above ≠ [] ∧ (Rulable fs root path (existing ++ below) slash → existing ++ below <+: path)) ∧
    (above ≠ [] → canonicalizeTarget fs root path slash = .ok ⟨existing ++ below, false⟩ ∧
      DeniesPlace fs root path (existing ++ below) slash) := by
  have hcanonical := canonical_missing hlongest hmissing hroot hbelow hne
  refine ⟨⟨?_, ?_⟩, fun habove => ⟨hcanonical habove, deniesPlace (hcanonical habove)⟩⟩
  · rintro ⟨htarget, hdenies⟩
    refine ⟨?_, fun hrulable => hrulable.prefix_of_denies htarget hdenies⟩
    rintro rfl
    have hrootNil : root = [] := by
      rw [hlongest.split] at hbelow hne
      by_contra hsome
      have hnone := hlongest.longest root hbelow hsome hne
      obtain ⟨real, hreal⟩ := hroot
      rw [List.nil_append] at hnone
      rw [hnone] at hreal
      cases hreal
    subst hrootNil
    exact hlongest.canonical_ne hmissing htarget
  · rintro ⟨habove, hplace⟩
    exact ⟨hcanonical habove, deniesOnceCreated (hcanonical habove) hplace⟩

theorem longestAncestor_name {fs : FileSystem} {path above existing : Path} {name : Name}
    (hpath : path = above ++ [name]) (h : fs.realpath above = some existing) :
    LongestAncestor fs path above [name] existing := by
  refine ⟨hpath, by simp, h, ?_⟩
  intro front hfront hnil hne
  rcases List.prefix_cons_iff.mp hfront with rfl | ⟨rest, rfl, hrest⟩
  · exact absurd rfl hnil
  · rw [List.prefix_nil.mp hrest] at hne
    exact absurd rfl hne

/-- In `/w` a file is missing. -/
theorem canonicalizeTarget_missing_project :
    canonicalizeTarget projectTree [⟨"w", by decide⟩] [⟨"w", by decide⟩, ⟨"x", by decide⟩] =
        .ok ⟨[⟨"w", by decide⟩, ⟨"x", by decide⟩], false⟩ ∧
      DeniesOnceCreated projectTree [⟨"w", by decide⟩] [⟨"w", by decide⟩, ⟨"x", by decide⟩] false :=
  (@canonicalizeTarget_missing_iff projectTree [⟨"w", by decide⟩]
    [⟨"w", by decide⟩, ⟨"x", by decide⟩] [⟨"w", by decide⟩] [⟨"x", by decide⟩] [⟨"w", by decide⟩] false
    ⟨[⟨"w", by decide⟩], rfl⟩ ⟨[⟨"x", by decide⟩], rfl⟩ (by simp) rfl
    (longestAncestor_name rfl rfl)).1.mpr ⟨by simp, fun _ => List.prefix_refl _⟩

theorem isName_d : IsName "d" := by decide

/-- The tree with `/w/d/secret` as a link to the file. -/
def secretTree : FileSystem :=
  projectTree.graft [⟨"w", isName_w⟩, ⟨"d", isName_d⟩, ⟨"secret", by decide⟩] (.symlink "../a")
    (by decide)

/-- With a rule for `l/secret`, below the link to `d`. -/
def linkConfig : WorkspaceConfig := { projectConfig with deny := ["l/secret"] }

/-- With `/` as the root the missing `/secret` becomes `/ecret`; and the rule for `l/secret`, kept as
`d/secret`, lets the request for `l/secret` through once that is a link to `/w/a`. -/
theorem canonicalizeTarget_slash_or_link :
    (¬ ∀ (fs : FileSystem) (root path above below existing : Path) (slash : Bool),
      (∃ real, fs.realpath root = some real) → root <+: path → root ≠ path →
      fs.realpath path slash = none → LongestAncestor fs path above below existing →
      canonicalizeTarget fs root path slash = .ok ⟨existing ++ below, false⟩) ∧
    ¬ ∀ (fs : FileSystem) (root path above below existing : Path) (slash : Bool),
      (∃ real, fs.realpath root = some real) → root <+: path → root ≠ path →
      fs.realpath path slash = none → LongestAncestor fs path above below existing →
      DeniesOnceCreated fs root path slash := by
  constructor
  · intro h
    have hslice := h projectTree [] [⟨"secret", by decide⟩] [] [⟨"secret", by decide⟩] [] false
      ⟨[], rfl⟩ List.nil_prefix (by simp) rfl (longestAncestor_name rfl rfl)
    have hcut : canonicalizeTarget projectTree [] [⟨"secret", by decide⟩] =
        .ok ⟨[⟨"ecret", by decide⟩], false⟩ := rfl
    rw [hcut] at hslice
    exact absurd (congrArg CanonicalTarget.canonicalPath (Except.ok.inj hslice)) (by decide)
  · intro h
    have hdenies := h projectTree [⟨"w", by decide⟩]
      [⟨"w", by decide⟩, ⟨"l", by decide⟩, ⟨"secret", by decide⟩] [⟨"w", by decide⟩, ⟨"l", by decide⟩]
      [⟨"secret", by decide⟩] [⟨"w", by decide⟩, ⟨"d", by decide⟩] false ⟨[⟨"w", by decide⟩], rfl⟩
      ⟨[⟨"l", by decide⟩, ⟨"secret", by decide⟩], rfl⟩ (by simp) rfl (longestAncestor_name rfl rfl)
    have hlet : resolvePath secretTree ⟨[{ projectWorkspace with deny := ["d/secret"] }]⟩ "project"
        "l/secret" (some .read) = .ok ⟨{ projectWorkspace with deny := ["d/secret"] },
          [⟨"w", by decide⟩, ⟨"l", by decide⟩, ⟨"secret", by decide⟩],
          [⟨"w", by decide⟩, ⟨"a", by decide⟩], true⟩ := rfl
    exact hdenies ⟨[{ projectWorkspace with deny := ["d/secret"] }]⟩ linkConfig
      ⟨⟨[], [linkConfig], rfl, List.mem_singleton_self _, rfl⟩, "l/secret", List.mem_singleton_self _,
        rfl, rfl⟩ secretTree "l/secret" (some .read) [] (by decide) rfl _ hlet

end Doctmcp.Tools

import Mathlib.Data.List.Pairwise
import Doctmcp.Tools.Workspace

/-! # Soundness of the resolver

What `WorkspacePathResolver.resolve` promises of a path it lets through, for every text of the path
and every layout of links. -/

namespace Doctmcp.Tools
open Doctmcp.Lib Doctmcp.Lib.PosixPath
set_option autoImplicit false

/-! ## Containment -/

/-- The tests of `isPathInside` amount to containment of the lists of names. -/
theorem isPathInside_iff (root target : Path) : isPathInside root target = true ↔ root <+: target := by
  unfold isPathInside
  dsimp only
  constructor
  · intro h
    by_contra hout
    obtain ⟨segments, hsegments⟩ := relativeSegments_of_not_prefix hout
    have hchild : (relative root target).toList =
        ['.', '.'] ++ if segments = [] then [] else '/' :: (joinText segments).toList := by
      unfold relative
      rw [hsegments, toList_joinText_cons]
      rfl
    have hempty : relative root target ≠ "" := by
      intro hfalse
      rw [hfalse] at hchild
      cases hchild
    by_cases hnil : segments = []
    · rw [if_pos hnil] at hchild
      have hup : relative root target = ".." := String.toList_inj.mp hchild
      simp [hup] at h
    · rw [if_neg hnil] at hchild
      have hdots : ['.', '.', '/'].isPrefixOf (relative root target).toList = true := by
        rw [hchild]
        simp
      simp [hempty, hdots] at h
  · rintro ⟨rest, rfl⟩
    unfold relative
    rw [relativeSegments_append]
    cases rest with
    | nil => simp
    | cons name rest =>
      rw [List.map_cons]
      generalize rest.map Subtype.val = segments
      obtain ⟨_, hdots, hup, hslash⟩ := joinText_name name segments
      have hne : joinText (name.val :: segments) ≠ ".." := by
        intro hfalse
        rw [hfalse] at hdots
        exact hdots rfl
      have hfree : ['.', '.', '/'].isPrefixOf (joinText (name.val :: segments)).toList = false := by
        rw [Bool.eq_false_iff]
        intro hfalse
        exact hup (List.isPrefixOf_iff_prefix.mp hfalse)
      simp [hne, hfree, isAbsolute, hslash]

/-! ## Safe texts -/

/-- A segment without a backslash is a segment also where backslashes separate. -/
theorem splitOn_map_backslash (chars : List Char) :
    ∀ segment ∈ chars.splitOn '/', '\\' ∉ segment →
      segment ∈ (chars.map fun c => if c = '\\' then '/' else c).splitOn '/' := by
  -- The first segment and the others are followed separately.
  have hsplit : ∀ first others, chars.splitOn '/' = first :: others →
      ∃ first' others', (chars.map fun c => if c = '\\' then '/' else c).splitOn '/' =
          first' :: others' ∧
        ('\\' ∉ first → first' = first) ∧
        ∀ segment ∈ others, '\\' ∉ segment → segment ∈ others' := by
    induction chars with
    | nil =>
      intro first others h
      obtain ⟨rfl, rfl⟩ := List.cons.inj h
      exact ⟨[], [], rfl, fun _ => rfl, fun _ hmem => absurd hmem (by simp)⟩
    | cons c chars ih =>
      intro first others h
      obtain ⟨head, tail, hrest⟩ := List.exists_cons_of_ne_nil (List.splitOn_ne_nil '/' chars)
      obtain ⟨head', tail', hrest', hhead, htail⟩ := ih head tail hrest
      rw [List.splitOn_cons_eq_if_modifyHead, hrest] at h
      rw [List.map_cons, List.splitOn_cons_eq_if_modifyHead, hrest']
      by_cases hslash : c = '/'
      · subst hslash
        obtain ⟨rfl, rfl⟩ := List.cons.inj h
        refine ⟨[], head' :: tail', by simp, fun _ => rfl, ?_⟩
        intro segment hmem hfree
        rcases List.mem_cons.mp hmem with rfl | hmem
        · rw [hhead hfree]
          exact List.mem_cons_self
        · exact List.mem_cons_of_mem _ (htail segment hmem hfree)
      · have hne : (c == '/') = false := by simpa using hslash
        rw [hne] at h
        obtain ⟨rfl, rfl⟩ := List.cons.inj h
        by_cases hback : c = '\\'
        · subst hback
          refine ⟨[], head' :: tail', by simp, ?_, ?_⟩
          · intro hfree
            exact absurd List.mem_cons_self hfree
          · intro segment hmem hfree
            exact List.mem_cons_of_mem _ (htail segment hmem hfree)
        · refine ⟨c :: head', tail', by simp [hback, hslash], ?_, htail⟩
          intro hfree
          rw [hhead fun hmem => hfree (List.mem_cons_of_mem _ hmem)]
  intro segment hmem hfree
  obtain ⟨first, others, h⟩ := List.exists_cons_of_ne_nil (List.splitOn_ne_nil '/' chars)
  obtain ⟨first', others', h', hfirst, hothers⟩ := hsplit first others h
  rw [h] at hmem
  rw [h']
  rcases List.mem_cons.mp hmem with rfl | hmem
  · rw [hfirst hfree]
    exact List.mem_cons_self
  · exact List.mem_cons_of_mem _ (hothers segment hmem hfree)

theorem component_eq_up {text : String} (h : component text = .up) : text = ".." := by
  unfold component at h
  split at h
  · cases h
  · split at h
    · assumption
    · cases h

/-- A text that is not rejected does not go up. -/
theorem up_not_mem_components {path : String} (h : rejectUnsafeRelativePath path = .ok ()) :
    .up ∉ components path := by
  unfold rejectUnsafeRelativePath at h
  split at h
  · cases h
  · dsimp only at h
    split at h
    · cases h
    · next hsegments =>
      intro hup
      obtain ⟨chars, hchars, hcomponent⟩ := List.mem_map.mp hup
      have hdots : chars = ['.', '.'] := by
        have htext := congrArg String.toList (component_eq_up hcomponent)
        rwa [String.toList_ofList] at htext
      subst hdots
      exact hsegments (splitOn_map_backslash _ _ hchars (by decide))

theorem prefix_foldl_push {todo : List Component} (h : .up ∉ todo) (path : Path) :
    path <+: todo.foldl push path := by
  induction todo generalizing path with
  | nil => exact List.prefix_refl _
  | cons step todo ih =>
    rw [List.foldl_cons]
    have hrest := ih (fun hmem => h (List.mem_cons_of_mem _ hmem)) (push path step)
    refine List.IsPrefix.trans ?_ hrest
    cases step with
    | here => exact List.prefix_refl _
    | up => exact absurd List.mem_cons_self h
    | name name => exact List.prefix_append _ _

theorem prefix_join {path : String} (h : rejectUnsafeRelativePath path = .ok ()) (root : Path) :
    root <+: join root path :=
  prefix_foldl_push (up_not_mem_components h) root

/-! ## The registry -/

/-- No root is inside another one. -/
theorem pairwise_of_not_overlaps {workspaces : List WorkspaceMetadata}
    (h : overlaps workspaces = false) :
    workspaces.Pairwise fun a b => ¬ a.root <+: b.root ∧ ¬ b.root <+: a.root := by
  induction workspaces with
  | nil => exact List.Pairwise.nil
  | cons workspace others ih =>
    unfold overlaps at h
    rw [Bool.or_eq_false_iff] at h
    refine List.Pairwise.cons ?_ (ih h.2)
    intro other hother
    have hfree := List.any_eq_false.mp h.1 other hother
    simp only [Bool.or_eq_true, not_or, isPathInside_iff] at hfree
    exact hfree

theorem createWorkspace_ok {fs : FileSystem} {cwd : Path} {before after : List WorkspaceMetadata}
    {config : WorkspaceConfig} (h : createWorkspace fs cwd before config = .ok after) :
    ∃ root deny, config.id ∉ before.map WorkspaceMetadata.id ∧
      canonicalizeRoot fs cwd config.root = .ok root ∧
      config.deny.mapM (canonicalizeDeny fs root) = .ok deny ∧
      after = before ++ [⟨config.id, config.name, root, config.capabilities, deny⟩] := by
  unfold createWorkspace at h
  split at h
  · cases h
  · next hnew =>
    push Not at hnew
    cases hroot : canonicalizeRoot fs cwd config.root with
    | error error =>
      rw [hroot] at h
      cases h
    | ok root =>
      rw [hroot] at h
      cases hdeny : config.deny.mapM (canonicalizeDeny fs root) with
      | error error =>
        simp only [bind, Except.bind, hdeny] at h
        cases h
      | ok deny =>
        simp only [bind, Except.bind, hdeny] at h
        cases h
        exact ⟨root, deny, hnew.2.1, rfl, hdeny, rfl⟩

theorem create_ok {fs : FileSystem} {cwd : Path} {configs : List WorkspaceConfig}
    {registry : WorkspaceRegistry} (h : WorkspaceRegistry.create fs cwd configs = .ok registry) :
    configs.foldlM (createWorkspace fs cwd) [] = .ok registry.workspaces ∧
      overlaps registry.workspaces = false := by
  unfold WorkspaceRegistry.create at h
  cases hfold : configs.foldlM (createWorkspace fs cwd) [] with
  | error error =>
    rw [hfold] at h
    cases h
  | ok workspaces =>
    rw [hfold] at h
    simp only [bind, Except.bind] at h
    split at h
    · cases h
    · next hoverlap =>
      cases h
      exact ⟨rfl, by simpa using hoverlap⟩

/-- The loop over the configurations keeps ids unique and gives every one its workspace. -/
theorem createWorkspaces_ok {fs : FileSystem} {cwd : Path} {configs : List WorkspaceConfig}
    {before after : List WorkspaceMetadata}
    (h : configs.foldlM (createWorkspace fs cwd) before = .ok after)
    (hbefore : (before.map WorkspaceMetadata.id).Nodup) :
    (after.map WorkspaceMetadata.id).Nodup ∧ before ⊆ after ∧
      ∀ config ∈ configs, ∃ root deny, canonicalizeRoot fs cwd config.root = .ok root ∧
        config.deny.mapM (canonicalizeDeny fs root) = .ok deny ∧
        ⟨config.id, config.name, root, config.capabilities, deny⟩ ∈ after := by
  induction configs generalizing before with
  | nil =>
    cases h
    exact ⟨hbefore, List.Subset.refl _, fun config hconfig => by cases hconfig⟩
  | cons config configs ih =>
    rw [List.foldlM_cons] at h
    cases hstep : createWorkspace fs cwd before config with
    | error error =>
      rw [hstep] at h
      cases h
    | ok next =>
      rw [hstep] at h
      obtain ⟨root, deny, hnew, hroot, hdeny, rfl⟩ := createWorkspace_ok hstep
      have hnext : ((before ++ [(⟨config.id, config.name, root, config.capabilities, deny⟩ :
          WorkspaceMetadata)]).map WorkspaceMetadata.id).Nodup := by
        rw [List.map_append, List.nodup_append]
        refine ⟨hbefore, by simp, ?_⟩
        intro a ha b hb hsame
        have hid : b = config.id := by simpa using hb
        rw [hsame, hid] at ha
        exact hnew ha
      obtain ⟨hnodup, hsubset, hall⟩ := ih h hnext
      refine ⟨hnodup, fun workspace hmem => hsubset (List.mem_append_left _ hmem), ?_⟩
      intro other hother
      rcases List.mem_cons.mp hother with rfl | hother
      · exact ⟨root, deny, hroot, hdeny, hsubset (List.mem_append_right _ List.mem_cons_self)⟩
      · exact hall other hother

/-- Every configuration is found under its id. -/
theorem create_get {fs : FileSystem} {cwd : Path} {configs : List WorkspaceConfig}
    {registry : WorkspaceRegistry} (h : WorkspaceRegistry.create fs cwd configs = .ok registry)
    {config : WorkspaceConfig} (hconfig : config ∈ configs) :
    ∃ root deny, canonicalizeRoot fs cwd config.root = .ok root ∧
      config.deny.mapM (canonicalizeDeny fs root) = .ok deny ∧
      registry.get config.id = some ⟨config.id, config.name, root, config.capabilities, deny⟩ := by
  obtain ⟨hnodup, _, hall⟩ := createWorkspaces_ok (create_ok h).1 List.nodup_nil
  obtain ⟨root, deny, hroot, hdeny, hmem⟩ := hall config hconfig
  refine ⟨root, deny, hroot, hdeny, ?_⟩
  unfold WorkspaceRegistry.get
  cases hfind : registry.workspaces.find? fun workspace => workspace.id = config.id with
  | none =>
    have hnone := List.find?_eq_none.mp hfind _ hmem
    simp at hnone
  | some workspace =>
    have hid : workspace.id = config.id := by simpa using List.find?_some hfind
    rw [List.inj_on_of_nodup_map hnodup (List.mem_of_find?_eq_some hfind) hmem hid]

/-- Of two workspaces of a registry no path is inside both roots. -/
theorem separate {fs : FileSystem} {cwd : Path} {configs : List WorkspaceConfig}
    {registry : WorkspaceRegistry} (h : WorkspaceRegistry.create fs cwd configs = .ok registry)
    {a b : WorkspaceMetadata} (ha : a ∈ registry.workspaces) (hb : b ∈ registry.workspaces)
    (hne : a ≠ b) {path : Path} (hpath : a.root <+: path) : ¬ b.root <+: path := by
  have hpairwise := pairwise_of_not_overlaps (create_ok h).2
  have hapart : ¬ a.root <+: b.root ∧ ¬ b.root <+: a.root :=
    have : Std.Symm fun a b : WorkspaceMetadata => ¬ a.root <+: b.root ∧ ¬ b.root <+: a.root :=
      ⟨fun _ _ hab => ⟨hab.2, hab.1⟩⟩
    hpairwise.forall ha hb hne
  intro hpath'
  rcases List.prefix_or_prefix_of_prefix hpath hpath' with hab | hba
  · exact hapart.1 hab
  · exact hapart.2 hba

/-! ## The resolver -/

theorem registry_get {registry : WorkspaceRegistry} {id : String} {workspace : WorkspaceMetadata}
    (h : registry.get id = some workspace) :
    workspace ∈ registry.workspaces ∧ workspace.id = id := by
  unfold WorkspaceRegistry.get at h
  exact ⟨List.mem_of_find?_eq_some h, by simpa using List.find?_some h⟩

/-- What the checks of `resolve` leave. -/
structure Resolves (fs : FileSystem) (registry : WorkspaceRegistry) (workspaceId path : String)
    (capability : Option WorkspaceCapability) (resolved : ResolvedWorkspacePath) : Prop where
  workspace : registry.get workspaceId = some resolved.workspace
  safe : rejectUnsafeRelativePath path = .ok ()
  operation : resolved.operationPath = join resolved.workspace.root path
  target : ∃ target,
    canonicalizeTarget fs resolved.workspace.root resolved.operationPath = .ok target ∧
      resolved.canonicalPath = target.canonicalPath ∧
      (resolved.pathExists = true ↔ target.pathExists = true ∨ capability = some .delete ∧
        ∃ entry, fs.lstat resolved.operationPath = some entry ∧ entry.isSymbolicLink = true)
  inside : resolved.workspace.root <+: resolved.canonicalPath ∨ capability = some .delete ∧
    (∃ entry, fs.lstat resolved.operationPath = some entry ∧ entry.isSymbolicLink = true) ∧
    ∃ parent, fs.realpath resolved.operationPath.dropLast = some parent ∧
      resolved.workspace.root <+: parent
  notRoot : capability = some .delete → resolved.operationPath ≠ resolved.workspace.root
  allowed : denies resolved.workspace capability resolved.operationPath resolved.canonicalPath = false
  enabled : ∀ c, capability = some c → resolved.workspace.capabilities.get c = true

theorem finalEntryIsSymlink_iff {fs : FileSystem} {capability : Option WorkspaceCapability}
    {operationPath : Path} : finalEntryIsSymlink fs capability operationPath = true ↔
      capability = some .delete ∧
        ∃ entry, fs.lstat operationPath = some entry ∧ entry.isSymbolicLink = true := by
  unfold finalEntryIsSymlink
  cases hlstat : fs.lstat operationPath with
  | none => simp
  | some entry => simp

theorem parentInsideWorkspace_iff {fs : FileSystem} {root operationPath : Path} :
    parentInsideWorkspace fs root operationPath = true ↔
      ∃ parent, fs.realpath operationPath.dropLast = some parent ∧ root <+: parent := by
  unfold parentInsideWorkspace
  cases hreal : fs.realpath operationPath.dropLast with
  | none => simp
  | some parent => simp [isPathInside_iff]

theorem resolvePath_ok {fs : FileSystem} {registry : WorkspaceRegistry} {workspaceId path : String}
    {capability : Option WorkspaceCapability} {resolved : ResolvedWorkspacePath}
    (h : resolvePath fs registry workspaceId path capability = .ok resolved) :
    Resolves fs registry workspaceId path capability resolved := by
  unfold resolvePath at h
  split at h
  · cases h
  · next workspace hget =>
    cases hsafe : rejectUnsafeRelativePath path with
    | error error =>
      rw [hsafe] at h
      cases h
    | ok _ =>
      rw [hsafe] at h
      simp only [bind, Except.bind] at h
      cases htarget : canonicalizeTarget fs workspace.root (join workspace.root path) with
      | error error =>
        rw [htarget] at h
        cases h
      | ok target =>
        rw [htarget] at h
        dsimp only at h
        split at h
        · cases h
        · next hinside =>
          split at h
          · cases h
          · next hroot =>
            split at h
            · cases h
            · next hallowed =>
              have hresolves : ∀ pathExists, (pathExists = true ↔ target.pathExists = true ∨
                    finalEntryIsSymlink fs capability (join workspace.root path) = true) →
                  (∀ c, capability = some c → workspace.capabilities.get c = true) →
                  Resolves fs registry workspaceId path capability
                    ⟨workspace, join workspace.root path, target.canonicalPath, pathExists⟩ := by
                intro pathExists hexists henabled
                refine ⟨hget, hsafe, rfl, ⟨target, htarget, rfl, ?_⟩, ?_, ?_, ?_, henabled⟩
                · rw [hexists, finalEntryIsSymlink_iff]
                · cases hin : isPathInside workspace.root target.canonicalPath with
                  | true => exact .inl ((isPathInside_iff _ _).mp hin)
                  | false =>
                    simp only [hin, Bool.not_false, Bool.true_and, Bool.not_eq_true',
                      Bool.not_eq_false, Bool.and_eq_true, decide_eq_true_eq] at hinside
                    exact .inr ⟨hinside.1.1, (finalEntryIsSymlink_iff.mp hinside.1.2).2,
                      parentInsideWorkspace_iff.mp hinside.2.2⟩
                · intro hdelete hsame
                  exact hroot ⟨hdelete, hsame⟩
                · simpa using hallowed
              have hexists : (target.pathExists ||
                  finalEntryIsSymlink fs capability (join workspace.root path)) = true ↔
                  target.pathExists = true ∨
                    finalEntryIsSymlink fs capability (join workspace.root path) = true := by
                rw [Bool.or_eq_true]
              cases capability with
              | none =>
                cases h
                exact hresolves _ hexists fun c hc => by cases hc
              | some c =>
                dsimp only at h
                split at h
                · next henabled =>
                  cases h
                  refine hresolves _ hexists fun c' hc' => ?_
                  cases hc'
                  exact henabled
                · cases h

theorem climb_missing {fs : FileSystem} {root : Path} {upward : List Name} {slash : Bool}
    {missing : List String} {target : CanonicalTarget}
    (h : climb fs root upward slash missing = .ok target) : target.pathExists = false := by
  induction upward generalizing slash missing with
  | nil =>
    unfold climb at h
    split at h
    · cases h
      rfl
    · cases h
  | cons name above ih =>
    unfold climb at h
    split at h
    · cases h
      rfl
    · dsimp only at h
      split at h
      · exact ih h
      · cases h

/-- A target that was found is the real path. -/
theorem canonicalizeTarget_found {fs : FileSystem} {root path : Path} {slash : Bool}
    {target : CanonicalTarget} (h : canonicalizeTarget fs root path slash = .ok target)
    (hfound : target.pathExists = true) : fs.realpath path slash = some target.canonicalPath := by
  unfold canonicalizeTarget at h
  split at h
  · next canonicalPath hreal =>
    cases h
    exact hreal
  · rw [climb_missing h] at hfound
    cases hfound

/-- A path that was found, but not for a deletion, is the real path, inside the root. -/
theorem Resolves.found {fs : FileSystem} {registry : WorkspaceRegistry} {workspaceId path : String}
    {capability : Option WorkspaceCapability} {resolved : ResolvedWorkspacePath}
    (h : Resolves fs registry workspaceId path capability resolved)
    (hcapability : capability ≠ some .delete) (hexists : resolved.pathExists = true) :
    fs.realpath resolved.operationPath = some resolved.canonicalPath ∧
      resolved.workspace.root <+: resolved.canonicalPath := by
  obtain ⟨target, htarget, hcanonical, hfound⟩ := h.target
  constructor
  · rcases hfound.mp hexists with hfound | hdelete
    · rw [hcanonical]
      exact canonicalizeTarget_found htarget hfound
    · exact absurd hdelete.1 hcapability
  · rcases h.inside with hinside | hdelete
    · exact hinside
    · exact absurd hdelete.1 hcapability

/-- A path that was not found does not resolve. -/
theorem Resolves.missing {fs : FileSystem} {registry : WorkspaceRegistry} {workspaceId path : String}
    {capability : Option WorkspaceCapability} {resolved : ResolvedWorkspacePath}
    (h : Resolves fs registry workspaceId path capability resolved)
    (hmissing : resolved.pathExists = false) : fs.realpath resolved.operationPath = none := by
  obtain ⟨target, htarget, _, hfound⟩ := h.target
  cases hreal : fs.realpath resolved.operationPath with
  | none => rfl
  | some real =>
    unfold canonicalizeTarget at htarget
    rw [hreal] at htarget
    cases htarget
    rw [hfound.mpr (.inl rfl)] at hmissing
    cases hmissing

theorem not_denied {workspace : WorkspaceMetadata} {capability : Option WorkspaceCapability}
    {operationPath canonicalPath : Path}
    (h : denies workspace capability operationPath canonicalPath = false) {denyPath : String}
    (hdeny : denyPath ∈ workspace.deny) :
    (¬ join workspace.root denyPath <+: operationPath ∧
      ¬ join workspace.root denyPath <+: canonicalPath) ∧
    (capability = some .delete → ¬ operationPath <+: join workspace.root denyPath ∧
      ¬ canonicalPath <+: join workspace.root denyPath) := by
  have hfree := List.any_eq_false.mp h denyPath hdeny
  simp only [Bool.or_eq_true, Bool.and_eq_true, decide_eq_true_eq, not_or, not_and,
    isPathInside_iff] at hfree
  exact ⟨⟨hfree.1.1.1, hfree.1.1.2⟩, fun hdelete => ⟨hfree.1.2 hdelete, hfree.2 hdelete⟩⟩

/-- A path that the resolver lets through is below the root of its workspace as it is written and,
but for the deletion of a link that really is there, as it resolves, in no other workspace and in no
deny subtree; a path to delete holds no deny subtree and is not the root. -/
theorem resolvePath_sound {fs₀ fs : FileSystem} {cwd : Path} {configs : List WorkspaceConfig}
    {registry : WorkspaceRegistry} {workspaceId path : String}
    {capability : Option WorkspaceCapability} {resolved : ResolvedWorkspacePath}
    (hcreate : WorkspaceRegistry.create fs₀ cwd configs = .ok registry)
    (h : resolvePath fs registry workspaceId path capability = .ok resolved) :
    let root := resolved.workspace.root
    resolved.workspace ∈ registry.workspaces ∧ resolved.workspace.id = workspaceId ∧
    root <+: resolved.operationPath ∧
    (∀ c, capability = some c → resolved.workspace.capabilities.get c = true) ∧
    (∀ denyPath ∈ resolved.workspace.deny, ¬ join root denyPath <+: resolved.operationPath ∧
      ¬ join root denyPath <+: resolved.canonicalPath) ∧
    (root <+: resolved.canonicalPath ∧
        (∀ other ∈ registry.workspaces, resolved.workspace ≠ other →
          ¬ other.root <+: resolved.canonicalPath) ∨
      capability = some .delete ∧
        (∃ entry, fs.lstat resolved.operationPath = some entry ∧ entry.isSymbolicLink = true) ∧
        ∃ parent, fs.realpath resolved.operationPath.dropLast = some parent ∧ root <+: parent) ∧
    (capability = some .delete → resolved.operationPath ≠ root ∧
      ∀ denyPath ∈ resolved.workspace.deny, ¬ resolved.operationPath <+: join root denyPath ∧
        ¬ resolved.canonicalPath <+: join root denyPath) := by
  have hresolves := resolvePath_ok h
  obtain ⟨hmem, hid⟩ := registry_get hresolves.workspace
  refine ⟨hmem, hid, ?_, hresolves.enabled, ?_, ?_, ?_⟩
  · rw [hresolves.operation]
    exact prefix_join hresolves.safe _
  · intro denyPath hdeny
    exact (not_denied hresolves.allowed hdeny).1
  · rcases hresolves.inside with hinside | hlink
    · exact .inl ⟨hinside, fun other hother hne => separate hcreate hmem hother hne hinside⟩
    · exact .inr hlink
  · intro hdelete
    exact ⟨hresolves.notRoot hdelete, fun denyPath hdeny =>
      (not_denied hresolves.allowed hdeny).2 hdelete⟩

theorem isName_w : IsName "w" := by decide
theorem isName_a : IsName "a" := by decide
theorem isName_l : IsName "l" := by decide

/-- `/w` with a file, a directory and a link to the directory. -/
def projectTree : FileSystem :=
  .ofEntries
    ⟨[([], .directory), ([⟨"w", isName_w⟩], .directory),
      ([⟨"w", isName_w⟩, ⟨"a", isName_a⟩], .file [104, 105] 0o644),
      ([⟨"w", isName_w⟩, ⟨"d", by decide⟩], .directory),
      ([⟨"w", isName_w⟩, ⟨"l", isName_l⟩], .symlink "d")], by decide⟩
    40 (by decide) (by decide)

def projectConfig : WorkspaceConfig where
  id := "project"
  name := "Project"
  root := "/w"
  capabilities := { read := true, write := true, delete := true }
  deny := ["secret"]

/-- What the configuration gives on the tree. -/
def projectWorkspace : WorkspaceMetadata where
  id := "project"
  name := "Project"
  root := [⟨"w", by decide⟩]
  capabilities := { read := true, write := true, delete := true }
  deny := ["secret"]

theorem resolvePath_sound_project :
    ([⟨"w", by decide⟩] : Path) <+: [⟨"w", by decide⟩, ⟨"l", by decide⟩, ⟨"x", by decide⟩] :=
  (@resolvePath_sound projectTree projectTree [] [projectConfig] ⟨[projectWorkspace]⟩ "project"
    "l/x" (some .read) ⟨projectWorkspace, [⟨"w", by decide⟩, ⟨"l", by decide⟩, ⟨"x", by decide⟩],
      [⟨"w", by decide⟩, ⟨"d", by decide⟩, ⟨"x", by decide⟩], false⟩ rfl rfl).2.2.1

end Doctmcp.Tools

import Mathlib.Data.List.Basic
import Mathlib.Data.Nat.Notation
import Doctmcp.Lib.JsString

/-! # Paths of `node:path` on POSIX

A path text is split at `/` into components. An absolute normalised path is the list of its names,
so that `join`, `resolve`, `dirname` and `===` on such paths are operations on lists; `render`
gives its text. -/

namespace Doctmcp.Lib.PosixPath
set_option autoImplicit false

/-! ## Names and components -/

/-- A text that names an entry of a directory. -/
def IsName (text : String) : Prop :=
  text ≠ "" ∧ text ≠ "." ∧ text ≠ ".." ∧ '/' ∉ text.toList

instance (text : String) : Decidable (IsName text) := inferInstanceAs (Decidable (_ ∧ _))

/-- Names are texts: an entry whose name is not valid UTF-8 has none here. -/
abbrev Name := { text : String // IsName text }

/-- An absolute normalised path. -/
abbrev Path := List Name

/-- What stands between two slashes. -/
inductive Component
  | here
  | up
  | name (name : Name)
  deriving DecidableEq

def component (text : String) : Component :=
  if h : IsName text then .name ⟨text, h⟩ else if text = ".." then .up else .here

def components (text : String) : List Component :=
  (text.toList.splitOn '/').map fun chars => component (String.ofList chars)

def joinText (segments : List String) : String :=
  String.ofList (['/'].intercalate (segments.map String.toList))

/-! ## Operations -/

def push (path : Path) : Component → Path
  | .here => path
  | .up => path.dropLast
  | .name name => path ++ [name]

/-- `join(path, text)`. -/
def join (path : Path) (text : String) : Path := (components text).foldl push path

/-- `isAbsolute(text)`. -/
def isAbsolute (text : String) : Bool := text.toList.head? = some '/'

/-- `win32.isAbsolute(text)`: a leading separator, or a drive letter with `:` and a separator. -/
def win32IsAbsolute (text : String) : Bool :=
  match text.toList with
  | [] => false
  | c :: rest =>
    c = '/' || c = '\\' || (c.isAlpha && match rest with
      | ':' :: d :: _ => d = '/' || d = '\\'
      | _ => false)

/-- `resolve(text)` in the working directory `cwd`. -/
def resolve (cwd : Path) (text : String) : Path :=
  if isAbsolute text then join [] text else join cwd text

/-- The text of the path. -/
def render (path : Path) : String := "/" ++ joinText (path.map Subtype.val)

/-- The segments of `relative(source, target)`. -/
def relativeSegments : Path → Path → List String
  | a :: source, b :: target =>
    if a = b then relativeSegments source target
    else (a :: source).map (fun _ => "..") ++ (b :: target).map Subtype.val
  | source, target => source.map (fun _ => "..") ++ target.map Subtype.val

/-- `relative(source, target)`. -/
def relative (source target : Path) : String := joinText (relativeSegments source target)

/-! ## Text and names -/

theorem component_name (name : Name) : component name.val = .name name := dif_pos name.property

theorem toList_joinText (segments : List String) :
    (joinText segments).toList = ['/'].intercalate (segments.map String.toList) :=
  String.toList_ofList

@[simp] theorem joinText_nil : joinText [] = "" := rfl

theorem toList_joinText_cons (segment : String) (segments : List String) :
    (joinText (segment :: segments)).toList =
      segment.toList ++ if segments = [] then [] else '/' :: (joinText segments).toList := by
  rw [toList_joinText, toList_joinText, List.map_cons]
  cases segments with
  | nil => simp
  | cons other segments =>
    rw [List.map_cons, List.intercalate_cons_of_ne_nil (by simp), if_neg (by simp)]
    simp

theorem components_joinText {names : Path} (h : names ≠ []) :
    components (joinText (names.map Subtype.val)) = names.map .name := by
  unfold components
  rw [toList_joinText, List.splitOn_intercalate]
  · rw [List.map_map, List.map_map]
    refine List.map_congr_left fun name _ => ?_
    show component (String.ofList name.val.toList) = .name name
    rw [String.ofList_toList, component_name]
  · intro chars hchars
    rw [List.map_map] at hchars
    obtain ⟨name, _, rfl⟩ := List.mem_map.mp hchars
    exact name.property.2.2.2
  · intro hnil
    exact h (List.map_eq_nil_iff.mp (List.map_eq_nil_iff.mp hnil))

@[simp] theorem components_empty : components "" = [.here] := by decide

theorem foldl_push_names (path names : Path) :
    (names.map Component.name).foldl push path = path ++ names := by
  induction names generalizing path with
  | nil => simp
  | cons name names ih => rw [List.map_cons, List.foldl_cons, ih, push, List.append_assoc]; rfl

theorem join_joinText (path names : Path) :
    join path (joinText (names.map Subtype.val)) = path ++ names := by
  unfold join
  by_cases h : names = []
  · subst h
    rw [List.map_nil, joinText_nil, components_empty, List.append_nil]
    rfl
  · rw [components_joinText h, foldl_push_names]

theorem joinText_append {segments : List String} (h : segments ≠ []) (last : String) :
    joinText (segments ++ [last]) = joinText segments ++ "/" ++ last := by
  rw [← String.toList_inj, String.toList_append, String.toList_append]
  induction segments with
  | nil => exact absurd rfl h
  | cons segment segments ih =>
    rw [List.cons_append, toList_joinText_cons, toList_joinText_cons, if_neg (by simp)]
    by_cases hnil : segments = []
    · subst hnil
      simp [toList_joinText_cons]
    · rw [if_neg hnil, ih hnil]
      simp

theorem components_segment {text : String} (h : '/' ∉ text.toList) :
    components text = [component text] := by
  unfold components
  rw [List.splitOn_eq_singleton h, List.map_cons, String.ofList_toList]
  rfl

/-- A slash after the last segment changes nothing. -/
theorem join_segment {text : String} (h : '/' ∉ text.toList) (path : Path) (slash : Bool) :
    join path (text ++ if slash then "/" else "") = push path (component text) := by
  unfold join
  cases slash with
  | false =>
    rw [if_neg Bool.false_ne_true, String.append_empty, components_segment h]
    rfl
  | true =>
    have hsplit : components (text ++ "/") = [component text, .here] := by
      unfold components
      rw [String.toList_append, show "/".toList = ['/'] from rfl,
        List.splitOn_append_cons_self_of_not_mem h]
      rw [List.map_cons, String.ofList_toList]
      rfl
    rw [if_pos rfl, hsplit]
    rfl

theorem join_name_slash (path : Path) (name : Name) (slash : Bool) :
    join path (name.val ++ if slash then "/" else "") = path ++ [name] := by
  rw [join_segment name.property.2.2.2, component_name]
  rfl

theorem component_eq_name {text : String} {name : Name} (h : component text = .name name) :
    name.val = text := by
  unfold component at h
  split at h
  · cases h
    rfl
  · split at h
    · cases h
    · cases h

/-! ## Containment -/

theorem relativeSegments_append (path rest : Path) :
    relativeSegments path (path ++ rest) = rest.map Subtype.val := by
  induction path with
  | nil => cases rest <;> rfl
  | cons name path ih => rw [List.cons_append, relativeSegments, if_pos rfl, ih]

/-- Outside the source the relative path begins with `..`. -/
theorem relativeSegments_of_not_prefix {source target : Path} (h : ¬ source <+: target) :
    ∃ segments, relativeSegments source target = ".." :: segments := by
  induction source generalizing target with
  | nil => exact absurd List.nil_prefix h
  | cons a source ih =>
    cases target with
    | nil => exact ⟨_, rfl⟩
    | cons b target =>
      by_cases hab : a = b
      · subst hab
        rw [relativeSegments, if_pos rfl]
        refine ih fun hsame => h ?_
        exact List.cons_prefix_cons.mpr ⟨rfl, hsame⟩
      · rw [relativeSegments, if_neg hab]
        exact ⟨_, rfl⟩

/-- `join` undoes `relative` below the source. -/
theorem join_relative {source target : Path} (h : source <+: target) :
    join source (relative source target) = target := by
  obtain ⟨rest, rfl⟩ := h
  unfold relative
  rw [relativeSegments_append, join_joinText]

/-- A relative path that begins with a name is not empty, does not go up and is not absolute. -/
theorem joinText_name (name : Name) (segments : List String) :
    (joinText (name.val :: segments)).toList ≠ [] ∧
      (joinText (name.val :: segments)).toList ≠ ['.', '.'] ∧
      ¬ ['.', '.', '/'] <+: (joinText (name.val :: segments)).toList ∧
      (joinText (name.val :: segments)).toList.head? ≠ some '/' := by
  obtain ⟨text, hempty, hdot, hdots, hslash⟩ := name
  have hempty' : text.toList ≠ [] := fun h => hempty (String.toList_eq_nil_iff.mp h)
  have hdot' : text.toList ≠ ['.'] := fun h => hdot (String.toList_inj.mp h)
  have hdots' : text.toList ≠ ['.', '.'] := fun h => hdots (String.toList_inj.mp h)
  rw [toList_joinText_cons]
  generalize (if segments = [] then [] else '/' :: (joinText segments).toList) = tail
  match htext : text.toList with
  | [] => exact absurd htext hempty'
  | [c] =>
    rw [htext] at hdot' hslash
    have hc : c ≠ '.' := fun h => hdot' (by rw [h])
    have hc' : c ≠ '/' := fun h => hslash (by simp [h])
    simp [hc, hc', List.cons_prefix_cons, eq_comm]
  | [c, d] =>
    rw [htext] at hdots' hslash
    have hc' : c ≠ '/' := fun h => hslash (by simp [h])
    have hcd : ¬ (c = '.' ∧ d = '.') := fun h => hdots' (by rw [h.1, h.2])
    refine ⟨by simp, ?_, ?_, by simpa using hc'⟩
    · intro h
      have hsame : c = '.' ∧ d = '.' ∧ tail = [] := by simpa using h
      exact hcd ⟨hsame.1, hsame.2.1⟩
    · intro h
      have hsame := List.cons_prefix_cons.mp h
      exact hcd ⟨hsame.1.symm, (List.cons_prefix_cons.mp hsame.2).1.symm⟩
  | c :: d :: e :: rest =>
    rw [htext] at hslash
    have hc' : c ≠ '/' := fun h => hslash (by simp [h])
    have he : e ≠ '/' := fun h => hslash (by simp [h])
    refine ⟨by simp, by simp, ?_, by simpa using hc'⟩
    intro h
    have hsame := (List.cons_prefix_cons.mp (List.cons_prefix_cons.mp h).2).2
    exact he (List.cons_prefix_cons.mp hsame).1.symm

/-! ## Normalised texts -/

/-- An absolute text without empty, `.` and `..` segments; only `/` ends in a slash. -/
def IsNormalised (text : String) : Prop :=
  isAbsolute text = true ∧
    (text = "/" ∨ ∀ piece ∈ (text.toList.splitOn '/').tail, IsName (String.ofList piece))

instance (text : String) : Decidable (IsNormalised text) := inferInstanceAs (Decidable (_ ∧ _))

/-- What stands between the slashes of the text. -/
def segments (text : String) : List String :=
  ((text.toList.splitOn '/').filter (· ≠ [])).map String.ofList

theorem splitOn_slash (chars : List Char) :
    ('/' :: chars).splitOn '/' = [] :: chars.splitOn '/' := by
  have h := List.splitOn_append_cons_self (a := '/') [] chars
  rwa [List.nil_append, List.splitOn_nil] at h

theorem toList_render (path : Path) :
    (render path).toList = '/' :: ['/'].intercalate (path.map fun name => name.val.toList) := by
  unfold render
  rw [String.toList_append, toList_joinText, List.map_map]
  rfl

theorem splitOn_render {path : Path} (h : path ≠ []) :
    (render path).toList.splitOn '/' = [] :: path.map fun name => name.val.toList := by
  rw [toList_render, splitOn_slash, List.splitOn_intercalate]
  · intro chars hchars
    obtain ⟨name, _, rfl⟩ := List.mem_map.mp hchars
    exact name.property.2.2.2
  · intro hnil
    exact h (List.map_eq_nil_iff.mp hnil)

theorem segments_render (path : Path) : segments (render path) = path.map Subtype.val := by
  by_cases h : path = []
  · subst h
    rfl
  · unfold segments
    rw [splitOn_render h, List.filter_cons_of_neg (by simp), List.filter_eq_self.mpr]
    · rw [List.map_map]
      refine List.map_congr_left fun name _ => ?_
      exact String.ofList_toList
    · intro chars hchars
      obtain ⟨name, _, rfl⟩ := List.mem_map.mp hchars
      simpa using name.property.1

/-- The normalised texts are the texts of paths. -/
theorem exists_render {text : String} (h : IsNormalised text) : ∃ path, render path = text := by
  obtain ⟨habsolute, hroot | hnames⟩ := h
  · exact ⟨[], hroot.symm⟩
  · have hhead : text.toList.head? = some '/' := of_decide_eq_true habsolute
    cases htext : text.toList with
    | nil =>
      rw [htext] at hhead
      cases hhead
    | cons c rest =>
      rw [htext] at hhead
      obtain rfl : c = '/' := Option.some.inj hhead
      rw [htext, splitOn_slash, List.tail_cons] at hnames
      refine ⟨(rest.splitOn '/').attach.map fun piece =>
        ⟨String.ofList piece.val, hnames piece.val piece.property⟩, ?_⟩
      rw [← String.toList_inj, toList_render, htext, List.map_map]
      have hpieces : ((rest.splitOn '/').attach.map fun piece =>
          (String.ofList piece.val).toList) = rest.splitOn '/' := by
        rw [show (fun piece : { x // x ∈ rest.splitOn '/' } => (String.ofList piece.val).toList) =
          Subtype.val from funext fun piece => String.toList_ofList]
        exact List.attach_map_subtype_val _
      show '/' :: ['/'].intercalate ((rest.splitOn '/').attach.map fun piece =>
        (String.ofList piece.val).toList) = '/' :: rest
      rw [hpieces, List.intercalate_splitOn]

theorem resolve_render (cwd path : Path) : resolve cwd (render path) = path := by
  have habsolute : isAbsolute (render path) = true := by
    unfold isAbsolute
    rw [toList_render]
    rfl
  unfold resolve
  rw [if_pos habsolute]
  by_cases h : path = []
  · subst h
    decide
  · unfold join components
    rw [splitOn_render h, List.map_cons, List.foldl_cons, List.map_map]
    have hnames : path.map ((fun chars => component (String.ofList chars)) ∘
        fun name : Name => name.val.toList) = path.map Component.name := by
      refine List.map_congr_left fun name _ => ?_
      show component (String.ofList name.val.toList) = .name name
      rw [String.ofList_toList, component_name]
    rw [hnames, foldl_push_names]
    have hfirst : push [] (component (String.ofList [])) = [] := by decide
    rw [hfirst, List.nil_append]

end Doctmcp.Lib.PosixPath

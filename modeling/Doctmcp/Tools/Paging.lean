import Doctmcp.Tools.Completeness

/-! # Reading a file page by page

A client reads from offset 0 and goes on at the `nextOffset` of each answer. The pages cut the text into
pieces that end between characters, but the decoder drops a byte order mark at the start of each
piece. -/

namespace Doctmcp.Tools.FilesystemRead
open Doctmcp.Lib Doctmcp.Lib.PosixPath
set_option autoImplicit false

/-! ## The end of a page -/

theorem trimLoop_continuations {len i : ℕ} {bytes rest : List UInt8}
    (hbytes : ∀ b ∈ bytes, Utf8.IsContinuation b) (hlength : i + bytes.length ≤ 5) :
    trimLoop len i (bytes ++ rest) = trimLoop len (i + bytes.length) rest := by
  induction bytes generalizing i with
  | nil => rfl
  | cons b bytes ih =>
    rw [List.length_cons] at hlength
    have hb := hbytes b List.mem_cons_self
    unfold Utf8.IsContinuation at hb
    rw [List.cons_append, trimLoop, if_neg (by omega), if_neg (by omega), if_neg (by omega),
      ih (fun b' hmem => hbytes b' (List.mem_cons_of_mem _ hmem)) (by omega), List.length_cons]
    congr 1
    omega

theorem trimLoop_first {len i size : ℕ} {a : UInt8} {rest : List UInt8} (hi : i ≤ 4)
    (ha : Utf8.Announces a size) :
    trimLoop len i (a :: rest) = if i < size ∧ 1 < size then len - i else len := by
  have hexpected : 1 < size → (if a.toNat < 0xE0 then 2 else if a.toNat < 0xF0 then 3
      else if a.toNat < 0xF8 then 4 else 1) = size := by
    intro hsize
    rcases ha with ⟨rfl, _⟩ | ⟨rfl, hle, hlt⟩ | ⟨rfl, hle, hlt⟩ | ⟨rfl, hle, hlt⟩
    · omega
    · exact if_pos hlt
    · rw [if_neg (show ¬ a.toNat < 0xE0 by omega), if_pos hlt]
    · rw [if_neg (show ¬ a.toNat < 0xE0 by omega), if_neg (show ¬ a.toNat < 0xF0 by omega),
        if_pos hlt]
  rw [trimLoop, if_neg (by omega)]
  by_cases hsize : 1 < size
  · have hfirst : ¬ a.toNat < 0x80 ∧ 0xC0 ≤ a.toNat := by
      rcases ha with ⟨rfl, _⟩ | ⟨_, hle, _⟩ | ⟨_, hle, _⟩ | ⟨_, hle, _⟩
      · omega
      · omega
      · omega
      · omega
    rw [if_neg hfirst.1, if_pos hfirst.2]
    dsimp only
    rw [hexpected hsize]
    simp only [hsize, and_true]
  · have hone : a.toNat < 0x80 := by
      rcases ha with ⟨_, hlt⟩ | ⟨rfl, _⟩ | ⟨rfl, _⟩ | ⟨rfl, _⟩
      · exact hlt
      · omega
      · omega
      · omega
    rw [if_pos hone, if_neg (by omega)]

/-- Behind whole characters nothing is cut off. -/
theorem trimIncompleteUtf8Sequence_whole (chars : List Char) :
    trimIncompleteUtf8Sequence (Utf8.encodeChars chars) = (Utf8.encodeChars chars).length := by
  unfold trimIncompleteUtf8Sequence
  induction chars using List.reverseRecOn with
  | nil => rfl
  | append_singleton chars c _ =>
    generalize (Utf8.encodeChars (chars ++ [c])).length = len
    obtain ⟨a, rest, hshape, hrest, hsize⟩ := Utf8.encodeChar_shape c
    have hlast : Utf8.encodeChars [c] = a :: rest := by
      rw [Utf8.encodeChars_cons, hshape]
      exact List.append_nil _
    have hle := (Utf8.encodeChar_length c).2
    rw [hshape, List.length_cons] at hle
    rw [Utf8.encodeChars_append, hlast, List.reverse_append, List.reverse_cons, List.append_assoc,
      trimLoop_continuations (by simpa using hrest) (by rw [List.length_reverse]; omega),
      List.singleton_append, List.length_reverse, trimLoop_first (by omega) hsize, if_neg (by omega)]

/-- The front of a character is cut off. -/
theorem trimIncompleteUtf8Sequence_cut {chars : List Char} {c : Char} {cut : List UInt8}
    (hcut : cut <+: String.utf8EncodeChar c) (hless : cut.length < (String.utf8EncodeChar c).length) :
    trimIncompleteUtf8Sequence (Utf8.encodeChars chars ++ cut) = (Utf8.encodeChars chars).length := by
  obtain ⟨a, rest, hshape, hrest, hsize⟩ := Utf8.encodeChar_shape c
  have hle := (Utf8.encodeChar_length c).2
  rw [hshape] at hcut hless
  rw [hshape, List.length_cons] at hle
  rw [List.length_cons] at hless
  cases cut with
  | nil =>
    rw [List.append_nil]
    exact trimIncompleteUtf8Sequence_whole chars
  | cons b cut =>
    obtain ⟨rfl, hfront⟩ := List.cons_prefix_cons.mp hcut
    rw [List.length_cons] at hless
    unfold trimIncompleteUtf8Sequence
    rw [List.reverse_append, List.reverse_cons, List.append_assoc,
      trimLoop_continuations (fun b hb => hrest b (hfront.subset (List.mem_reverse.mp hb)))
        (by rw [List.length_reverse]; omega),
      List.singleton_append, List.length_reverse, trimLoop_first (by omega) hsize,
      if_pos (by omega), List.length_append, List.length_cons]
    omega

/-! ## A page -/

/-- What the decoder leaves of a piece of text. -/
def withoutMark : List Char → List Char
  | c :: rest => if c.toNat = 0xFEFF then rest else c :: rest
  | [] => []

theorem textDecode_encodeChars (chars : List Char) :
    textDecode (Utf8.encodeChars chars) = some (String.ofList (withoutMark chars)) := by
  unfold textDecode
  rw [Utf8.fatal_encodeChars, Option.map_some, String.toList_ofList]
  cases chars with
  | nil => rfl
  | cons c chars =>
    unfold withoutMark
    dsimp only
    split
    · rfl
    · rfl

/-- The path names a file that can be read and has these bytes. -/
structure NamesFile (host : Host) (registry : WorkspaceRegistry) (workspaceId path : String)
    (content : List UInt8) : Prop where
  resolves : ∃ resolved mode,
    resolvePath host.fs registry workspaceId path (some .read) = .ok resolved ∧
    resolved.pathExists = true ∧ host.fs.stat resolved.operationPath = some (.file content mode) ∧
    ∀ real, host.fs.realpath resolved.operationPath = some real → host.readable real = true
  delivered : ∀ file offset length, length ≤ host.delivered file offset length

/-- The answer to a call that starts between `before` and `after`. -/
def pageOf (path : String) (before after : List Char) (limit : ℕ) : ReadResult where
  path := path
  content := String.ofList (withoutMark (Utf8.fitting limit after))
  size := (Utf8.encodeChars (before ++ after)).length
  offset := (Utf8.encodeChars before).length
  limit := limit
  bytesRead := (Utf8.encodeChars (Utf8.fitting limit after)).length
  nextOffset :=
    (Utf8.encodeChars before).length + (Utf8.encodeChars (Utf8.fitting limit after)).length
  truncated :=
    (Utf8.encodeChars before).length + (Utf8.encodeChars (Utf8.fitting limit after)).length <
      (Utf8.encodeChars (before ++ after)).length

section Page
variable {host : Host} {registry : WorkspaceRegistry} {workspaceId path : String}
  {before after : List Char}

/-- What a call asks for. -/
def askedLimit (limit : Option (Between 1 MAX_READ_LIMIT)) : ℕ :=
  (limit.map Subtype.val).getD DEFAULT_READ_LIMIT

theorem fill_slice (hdelivered : ∀ file offset length, length ≤ host.delivered file offset length)
    (file : Path) (content : List UInt8) {offset length : ℕ}
    (hlength : length ≤ content.length - offset) :
    host.fill file content offset length = (content.drop offset).take length := by
  have hwanted : ((content.drop offset).take length).length = length := by
    rw [List.length_take, List.length_drop]
    omega
  unfold Host.fill
  dsimp only
  rw [List.take_of_length_le (by rw [hwanted]; exact hdelivered _ _ _), hwanted, Nat.sub_self,
    List.replicate_zero, List.append_nil]

theorem fitting_ne_nil {n : ℕ} (hn : 4 ≤ n) (hafter : after ≠ []) : Utf8.fitting n after ≠ [] := by
  cases after with
  | nil => exact absurd rfl hafter
  | cons c after =>
    have hle := (Utf8.encodeChar_length c).2
    unfold Utf8.fitting
    rw [if_pos (by omega)]
    exact List.cons_ne_nil _ _

theorem encodeChars_pos {chars : List Char} (h : chars ≠ []) : 0 < (Utf8.encodeChars chars).length := by
  cases chars with
  | nil => exact absurd rfl h
  | cons c chars =>
    have hpos := (Utf8.encodeChar_length c).1
    rw [Utf8.encodeChars_cons, List.length_append]
    omega

/-- What is read and kept of a call is the piece that fits. -/
theorem validLength_eq {limit : ℕ} (buffer : List UInt8)
    (hbuffer : buffer = (Utf8.encodeChars after).take limit) :
    (if (Utf8.encodeChars before).length + min limit (Utf8.encodeChars after).length <
        (Utf8.encodeChars (before ++ after)).length then trimIncompleteUtf8Sequence buffer
      else min limit (Utf8.encodeChars after).length) =
      (Utf8.encodeChars (Utf8.fitting limit after)).length ∧
    buffer.take (Utf8.encodeChars (Utf8.fitting limit after)).length =
      Utf8.encodeChars (Utf8.fitting limit after) := by
  obtain ⟨rest, cut, hsplit, htake, hrest⟩ := Utf8.take_encodeChars limit after
  have hwhole : (Utf8.encodeChars after).length =
      (Utf8.encodeChars (Utf8.fitting limit after)).length + (Utf8.encodeChars rest).length := by
    rw [← List.length_append, ← Utf8.encodeChars_append, ← hsplit]
  have hlength := congrArg List.length htake
  rw [List.length_take, List.length_append] at hlength
  rw [hbuffer, htake, List.take_left, Utf8.encodeChars_append, List.length_append]
  refine ⟨?_, rfl⟩
  rcases hrest with ⟨rfl, rfl⟩ | ⟨c, rest', rfl, hcut, hless, hsum⟩
  · rw [List.append_nil, trimIncompleteUtf8Sequence_whole]
    split
    · rfl
    · simpa using hlength
  · rw [trimIncompleteUtf8Sequence_cut hcut hless]
    rw [Utf8.encodeChars_cons, List.length_append] at hwhole
    split
    · rfl
    · omega

theorem readFile_page {operationPath real : Path} {limit : Option (Between 1 MAX_READ_LIMIT)}
    (hopen : host.openFile operationPath = some (real, Utf8.encodeChars (before ++ after)))
    (hdelivered : ∀ file offset length, length ≤ host.delivered file offset length)
    (hzero : (0 : UInt8) ∉ Utf8.encodeChars (before ++ after)) (hlimit : 4 ≤ askedLimit limit) :
    readFile host path operationPath (Utf8.encodeChars (before ++ after)).length
        (some (Utf8.encodeChars before).length) limit =
      .ok (pageOf path before after (askedLimit limit)) := by
  have hrest : (Utf8.encodeChars (before ++ after)).length - (Utf8.encodeChars before).length =
      (Utf8.encodeChars after).length := by
    rw [Utf8.encodeChars_append, List.length_append]
    omega
  have hfill : host.fill real (Utf8.encodeChars (before ++ after)) (Utf8.encodeChars before).length
      (min (askedLimit limit) (Utf8.encodeChars after).length) =
        (Utf8.encodeChars after).take (askedLimit limit) := by
    rw [fill_slice hdelivered _ _ (by rw [hrest]; exact Nat.min_le_right _ _),
      Utf8.encodeChars_append, List.drop_left, ← List.take_take, List.take_length]
  have hnothing : ¬ 0 < min (askedLimit limit) (Utf8.encodeChars after).length →
      [] = (Utf8.encodeChars after).take (askedLimit limit) := by
    intro hnone
    rw [List.eq_nil_of_length_eq_zero (show (Utf8.encodeChars after).length = 0 by omega),
      List.take_nil]
  obtain ⟨hvalid, htake⟩ := @validLength_eq before after (askedLimit limit) _ rfl
  have htext : isBinaryBuffer ((Utf8.encodeChars after).take (askedLimit limit)) = false := by
    rw [isBinaryBuffer_eq_false_iff]
    rintro byte hbyte rfl
    refine hzero ?_
    rw [Utf8.encodeChars_append]
    exact List.mem_append_right _ (List.mem_of_mem_take (List.mem_of_mem_take hbyte))
  have hsmall : ¬ (0 < min (askedLimit limit) (Utf8.encodeChars after).length ∧
      (Utf8.encodeChars (Utf8.fitting (askedLimit limit) after)).length = 0) := by
    rintro ⟨hpos, hzero⟩
    have hafter : after ≠ [] := by
      rintro rfl
      rw [show (Utf8.encodeChars []).length = 0 from rfl] at hpos
      omega
    have := encodeChars_pos (fitting_ne_nil hlimit hafter)
    omega
  unfold readFile
  simp only [Option.getD_some, hopen]
  rw [show (limit.map Subtype.val).getD DEFAULT_READ_LIMIT = askedLimit limit from rfl, hrest]
  simp only [bind, Except.bind]
  by_cases hread : 0 < min (askedLimit limit) (Utf8.encodeChars after).length
  · rw [if_pos hread, hfill, htext, if_neg Bool.false_ne_true, hvalid, if_neg hsmall, htake,
      textDecode_encodeChars]
    rfl
  · rw [if_neg hread, hnothing hread, htext, if_neg Bool.false_ne_true, hvalid, if_neg hsmall,
      htake, textDecode_encodeChars]
    rfl

theorem read_page {limit : Option (Between 1 MAX_READ_LIMIT)}
    (hfile : NamesFile host registry workspaceId path (Utf8.encodeChars (before ++ after)))
    (hzero : (0 : UInt8) ∉ Utf8.encodeChars (before ++ after)) (hlimit : 4 ≤ askedLimit limit) :
    read host registry workspaceId path (some (Utf8.encodeChars before).length) limit =
      .ok (pageOf path before after (askedLimit limit)) := by
  obtain ⟨resolved, mode, hresolved, hexists, hstat, hreadable⟩ := hfile.resolves
  obtain ⟨real, hreal, hentry⟩ := Option.bind_eq_some_iff.mp hstat
  have hopen : host.openFile resolved.operationPath =
      some (real, Utf8.encodeChars (before ++ after)) := by
    unfold Host.openFile
    rw [hreal, Option.bind_some, hentry]
    exact if_pos (hreadable real hreal)
  unfold read
  rw [hresolved]
  simp only [bind, Except.bind]
  rw [hexists, hstat]
  exact readFile_page hopen hfile.delivered hzero hlimit

end Page

/-! ## The run of a client -/

/-- The calls of a client that begins at `offset` and asks for these limits one after the other, until
an answer is not truncated. -/
def readPages (host : Host) (registry : WorkspaceRegistry) (workspaceId path : String) :
    ℕ → List (Option (Between 1 MAX_READ_LIMIT)) → List (Except ToolDomainError ReadResult)
  | _, [] => []
  | offset, limit :: limits =>
    match read host registry workspaceId path (some offset) limit with
    | .error error => [.error error]
    | .ok page =>
      .ok page ::
        if page.truncated then readPages host registry workspaceId path page.nextOffset limits
        else []

/-- The text that the answers return. -/
def returned (pages : List (Except ToolDomainError ReadResult)) : String :=
  String.join (pages.map fun
    | .ok page => page.content
    | .error _ => "")

/-- The claim about one run: what the answers return is the file. -/
structure Reconstructs (content : List UInt8) (calls : ℕ)
    (pages : List (Except ToolDomainError ReadResult)) : Prop where
  succeeds : ∀ page ∈ pages, ∃ result, page = .ok result
  advances : ∀ result, .ok result ∈ pages → result.offset < content.length →
    result.offset < result.nextOffset
  ends : content.length < calls → ∃ last, pages.getLast? = some (.ok last) ∧ last.truncated = false
  counts : ∀ result, .ok result ∈ pages →
    (Utf8.encode result.content).length = result.bytesRead
  whole : (∃ last, pages.getLast? = some (.ok last) ∧ last.truncated = false) →
    Utf8.encode (returned pages) = content

/-- The pieces into which the limits cut a text: each one as long as fits. -/
def pieces : List Char → List ℕ → List (List Char)
  | _, [] => []
  | after, limit :: limits =>
    Utf8.fitting limit after ::
      if (Utf8.fitting limit after).length < after.length then
        pieces (after.drop (Utf8.fitting limit after).length) limits
      else []

/-- The answers of a run that begins between `before` and `after`. -/
def pagesOf (path : String) : List Char → List Char → List ℕ → List ReadResult
  | _, _, [] => []
  | before, after, limit :: limits =>
    pageOf path before after limit ::
      if (Utf8.fitting limit after).length < after.length then
        pagesOf path (before ++ Utf8.fitting limit after)
          (after.drop (Utf8.fitting limit after).length) limits
      else []

def mark : Char := Char.ofNat 0xFEFF

section Run
variable {host : Host} {registry : WorkspaceRegistry} {workspaceId path : String}
  {before after : List Char} {limits : List ℕ}

theorem fitting_append_drop (n : ℕ) (after : List Char) :
    Utf8.fitting n after ++ after.drop (Utf8.fitting n after).length = after := by
  obtain ⟨rest, _, hsplit, _⟩ := Utf8.take_encodeChars n after
  have hdrop := congrArg (List.drop (Utf8.fitting n after).length) hsplit
  rw [List.drop_left] at hdrop
  rw [hdrop, ← hsplit]

theorem truncated_iff (path : String) (before after : List Char) (limit : ℕ) :
    (pageOf path before after limit).truncated = true ↔
      (Utf8.fitting limit after).length < after.length := by
  have hsplit := fitting_append_drop limit after
  have hbytes : (Utf8.encodeChars after).length =
      (Utf8.encodeChars (Utf8.fitting limit after)).length +
        (Utf8.encodeChars (after.drop (Utf8.fitting limit after).length)).length := by
    rw [← List.length_append, ← Utf8.encodeChars_append, hsplit]
  have htruncated : (pageOf path before after limit).truncated = true ↔
      (Utf8.encodeChars before).length + (Utf8.encodeChars (Utf8.fitting limit after)).length <
        (Utf8.encodeChars (before ++ after)).length := decide_eq_true_iff
  rw [htruncated, Utf8.encodeChars_append, List.length_append, hbytes]
  constructor
  · intro hmore
    by_contra hall
    rw [List.drop_of_length_le (Nat.le_of_not_lt hall)] at hmore
    exact absurd hmore (by simp [Utf8.encodeChars])
  · intro hmore
    have hpos := @encodeChars_pos (after.drop (Utf8.fitting limit after).length) (by
      intro hnil
      rw [List.drop_eq_nil_iff] at hnil
      omega)
    omega

theorem readPages_eq {asked : List (Option (Between 1 MAX_READ_LIMIT))}
    (hfile : NamesFile host registry workspaceId path (Utf8.encodeChars (before ++ after)))
    (hzero : (0 : UInt8) ∉ Utf8.encodeChars (before ++ after))
    (hlimits : ∀ limit ∈ asked, 4 ≤ askedLimit limit) :
    readPages host registry workspaceId path (Utf8.encodeChars before).length asked =
      (pagesOf path before after (asked.map askedLimit)).map .ok := by
  induction asked generalizing before after with
  | nil => rfl
  | cons limit asked ih =>
    rw [readPages, read_page hfile hzero (hlimits limit List.mem_cons_self), List.map_cons, pagesOf,
      List.map_cons]
    dsimp only
    congr 1
    have hsame : (before ++ Utf8.fitting (askedLimit limit) after) ++
        after.drop (Utf8.fitting (askedLimit limit) after).length = before ++ after := by
      rw [List.append_assoc, fitting_append_drop]
    by_cases hmore : (Utf8.fitting (askedLimit limit) after).length < after.length
    · rw [if_pos ((truncated_iff path before after _).mpr hmore), if_pos hmore]
      have hnext : (pageOf path before after (askedLimit limit)).nextOffset =
          (Utf8.encodeChars (before ++ Utf8.fitting (askedLimit limit) after)).length := by
        rw [Utf8.encodeChars_append, List.length_append]
        rfl
      rw [hnext]
      refine ih ?_ ?_ fun limit hlimit => hlimits limit (List.mem_cons_of_mem _ hlimit)
      · rw [hsame]
        exact hfile
      · rw [hsame]
        exact hzero
    · rw [if_neg fun htruncated => hmore ((truncated_iff path before after _).mp htruncated),
        if_neg hmore]
      rfl

theorem pagesOf_advances (hlimits : ∀ limit ∈ limits, 4 ≤ limit) :
    ∀ page ∈ pagesOf path before after limits, page.offset < (Utf8.encodeChars (before ++ after)).length →
      page.offset < page.nextOffset := by
  induction limits generalizing before after with
  | nil => nofun
  | cons limit limits ih =>
    intro page hpage hoffset
    rw [pagesOf, List.mem_cons] at hpage
    rcases hpage with rfl | hpage
    · have hafter : after ≠ [] := by
        rintro rfl
        rw [List.append_nil] at hoffset
        exact Nat.lt_irrefl _ hoffset
      have hpos := encodeChars_pos (fitting_ne_nil (hlimits limit List.mem_cons_self) hafter)
      exact Nat.lt_add_of_pos_right hpos
    · split at hpage
      · refine ih (fun limit hlimit => hlimits limit (List.mem_cons_of_mem _ hlimit)) page hpage ?_
        rw [List.append_assoc, fitting_append_drop]
        exact hoffset
      · cases hpage

/-- Every answer but the last one takes at least a byte. -/
theorem pagesOf_ends (hlimits : ∀ limit ∈ limits, 4 ≤ limit)
    (hcalls : (Utf8.encodeChars after).length < limits.length) :
    ∃ last, (pagesOf path before after limits).getLast? = some last ∧ last.truncated = false := by
  induction limits generalizing before after with
  | nil => cases hcalls
  | cons limit limits ih =>
    rw [pagesOf]
    by_cases hmore : (Utf8.fitting limit after).length < after.length
    · rw [if_pos hmore]
      have hafter : after ≠ [] := by
        rintro rfl
        cases hmore
      have hpos := encodeChars_pos (fitting_ne_nil (hlimits limit List.mem_cons_self) hafter)
      have hbytes := congrArg (fun chars => (Utf8.encodeChars chars).length)
        (fitting_append_drop limit after)
      rw [Utf8.encodeChars_append, List.length_append] at hbytes
      rw [List.length_cons] at hcalls
      obtain ⟨last, hlast, htruncated⟩ := @ih (before ++ Utf8.fitting limit after)
        (after.drop (Utf8.fitting limit after).length)
        (fun limit hlimit => hlimits limit (List.mem_cons_of_mem _ hlimit)) (by omega)
      refine ⟨last, ?_, htruncated⟩
      cases htail : pagesOf path (before ++ Utf8.fitting limit after)
          (after.drop (Utf8.fitting limit after).length) limits with
      | nil =>
        rw [htail] at hlast
        cases hlast
      | cons page pages =>
        rw [htail] at hlast
        rw [List.getLast?_cons_cons]
        exact hlast
    · rw [if_neg hmore]
      refine ⟨pageOf path before after limit, rfl, ?_⟩
      rw [← Bool.not_eq_true, truncated_iff]
      exact hmore

theorem mark_iff (c : Char) : c.toNat = 0xFEFF ↔ c = mark := by
  constructor
  · intro h
    rw [← Char.ofNat_toNat c, h]
    rfl
  · rintro rfl
    rfl

/-- A piece comes back whole unless it begins with the mark. -/
theorem withoutMark_eq_iff (piece : List Char) :
    (Utf8.encodeChars (withoutMark piece)).length = (Utf8.encodeChars piece).length ↔
      piece.head? ≠ some mark := by
  cases piece with
  | nil => simp [withoutMark]
  | cons c rest =>
    rw [List.head?_cons, ne_eq, Option.some.injEq, ← mark_iff]
    show (Utf8.encodeChars (if c.toNat = 0xFEFF then rest else c :: rest)).length = _ ↔ _
    by_cases hmark : c.toNat = 0xFEFF
    · have hpos := (Utf8.encodeChar_length c).1
      rw [if_pos hmark, Utf8.encodeChars_cons, List.length_append]
      constructor
      · omega
      · intro hne
        exact absurd hmark hne
    · rw [if_neg hmark]
      exact ⟨fun _ => hmark, fun _ => rfl⟩

theorem withoutMark_of_head {piece : List Char} (h : piece.head? ≠ some mark) :
    withoutMark piece = piece := by
  cases piece with
  | nil => rfl
  | cons c rest =>
    rw [List.head?_cons, ne_eq, Option.some.injEq, ← mark_iff] at h
    exact if_neg h

theorem pagesOf_counts :
    (∀ page ∈ pagesOf path before after limits,
      (Utf8.encode page.content).length = page.bytesRead) ↔
    ∀ piece ∈ pieces after limits, piece.head? ≠ some mark := by
  induction limits generalizing before after with
  | nil => exact ⟨fun _ => nofun, fun _ => nofun⟩
  | cons limit limits ih =>
    have hpage : (Utf8.encode (pageOf path before after limit).content).length =
          (pageOf path before after limit).bytesRead ↔
        (Utf8.fitting limit after).head? ≠ some mark := by
      rw [← withoutMark_eq_iff, ← Utf8.encode_ofList]
      rfl
    rw [pagesOf, pieces, List.forall_mem_cons, List.forall_mem_cons, hpage]
    by_cases hmore : (Utf8.fitting limit after).length < after.length
    · rw [if_pos hmore, if_pos hmore, ih]
    · rw [if_neg hmore, if_neg hmore]
      exact and_congr_right fun _ => ⟨fun _ => nofun, fun _ => nofun⟩

/-- A run to the end, of whose pieces none begins with the mark, returns the text. -/
theorem pagesOf_whole (hmark : ∀ piece ∈ pieces after limits, piece.head? ≠ some mark)
    {last : ReadResult} (hlast : (pagesOf path before after limits).getLast? = some last)
    (htruncated : last.truncated = false) :
    (pagesOf path before after limits).flatMap (fun page => page.content.toList) = after := by
  induction limits generalizing before after with
  | nil => cases hlast
  | cons limit limits ih =>
    rw [pieces, List.forall_mem_cons] at hmark
    have hcontent : (pageOf path before after limit).content.toList = Utf8.fitting limit after := by
      show (String.ofList (withoutMark (Utf8.fitting limit after))).toList = _
      rw [String.toList_ofList, withoutMark_of_head hmark.1]
    rw [pagesOf] at hlast ⊢
    rw [List.flatMap_cons, hcontent]
    by_cases hmore : (Utf8.fitting limit after).length < after.length
    · rw [if_pos hmore] at hlast hmark ⊢
      cases htail : pagesOf path (before ++ Utf8.fitting limit after)
          (after.drop (Utf8.fitting limit after).length) limits with
      | nil =>
        rw [htail] at hlast
        have hsame : pageOf path before after limit = last := Option.some.inj hlast
        rw [← hsame, (truncated_iff path before after limit).mpr hmore] at htruncated
        cases htruncated
      | cons page pages =>
        rw [htail, List.getLast?_cons_cons, ← htail] at hlast
        rw [← htail, ih hmark.2 hlast]
        exact fitting_append_drop limit after
    · rw [if_neg hmore, List.flatMap_nil, List.append_nil]
      have hsplit := fitting_append_drop limit after
      rw [List.drop_of_length_le (Nat.le_of_not_lt hmore), List.append_nil] at hsplit
      exact hsplit

end Run

/-- The answers of a client give back the file, whatever its limits, if and only if no page begins with
a byte order mark. -/
theorem reconstructs_iff {host : Host} {registry : WorkspaceRegistry} {workspaceId path : String}
    {text : String} {asked : List (Option (Between 1 MAX_READ_LIMIT))}
    (hfile : NamesFile host registry workspaceId path (Utf8.encode text))
    (hzero : (0 : UInt8) ∉ Utf8.encode text) (hlimits : ∀ limit ∈ asked, 4 ≤ askedLimit limit) :
    Reconstructs (Utf8.encode text) asked.length
        (readPages host registry workspaceId path 0 asked) ↔
      ∀ piece ∈ pieces text.toList (asked.map askedLimit), piece.head? ≠ some mark := by
  have hpages : readPages host registry workspaceId path 0 asked =
      (pagesOf path [] text.toList (asked.map askedLimit)).map .ok :=
    @readPages_eq host registry workspaceId path [] text.toList asked hfile hzero hlimits
  have hlimits' : ∀ limit ∈ asked.map askedLimit, 4 ≤ limit := by
    intro limit hlimit
    obtain ⟨asked, hasked, rfl⟩ := List.mem_map.mp hlimit
    exact hlimits asked hasked
  have hmem : ∀ {result : ReadResult}, .ok result ∈ readPages host registry workspaceId path 0 asked →
      result ∈ pagesOf path [] text.toList (asked.map askedLimit) := by
    intro result hresult
    rw [hpages] at hresult
    obtain ⟨page, hpage, hsame⟩ := List.mem_map.mp hresult
    cases hsame
    exact hpage
  have hlast : (∃ last, (readPages host registry workspaceId path 0 asked).getLast? = some (.ok last) ∧
        last.truncated = false) ↔
      ∃ last, (pagesOf path [] text.toList (asked.map askedLimit)).getLast? = some last ∧
        last.truncated = false := by
    rw [hpages, List.getLast?_map]
    simp
  constructor
  · intro h
    rw [← @pagesOf_counts path [] text.toList]
    intro page hpage
    refine h.counts page ?_
    rw [hpages]
    exact List.mem_map_of_mem hpage
  · intro hmark
    refine ⟨?_, ?_, ?_, ?_, ?_⟩
    · intro page hpage
      rw [hpages] at hpage
      obtain ⟨result, _, rfl⟩ := List.mem_map.mp hpage
      exact ⟨result, rfl⟩
    · intro result hresult
      exact pagesOf_advances hlimits' result (hmem hresult)
    · intro hcalls
      rw [hlast]
      exact pagesOf_ends hlimits' (by rw [List.length_map]; exact hcalls)
    · intro result hresult
      exact pagesOf_counts.mpr hmark result (hmem hresult)
    · intro hend
      obtain ⟨last, hlast, htruncated⟩ := hlast.mp hend
      have hwhole := pagesOf_whole hmark hlast htruncated
      unfold returned Utf8.encode
      rw [String.toList_join, hpages, List.map_map, List.flatMap_map]
      exact congrArg _ hwhole

/-- `/w` with a text that begins with a byte order mark, and one that does not. -/
def markedTree : FileSystem :=
  .ofEntries
    ⟨[([], .directory), ([⟨"w", isName_w⟩], .directory),
      ([⟨"w", isName_w⟩, ⟨"b", by decide⟩], .file [0xEF, 0xBB, 0xBF, 104] 0o644),
      ([⟨"w", isName_w⟩, ⟨"t", by decide⟩], .file [0xC3, 0xA9, 104] 0o644)], by decide⟩
    40 (by decide) (by decide)

def quietHost (fs : FileSystem) : Host where
  fs := fs
  readable _ := true
  localeLE a b := a.val ≤ b.val
  delivered _ _ length := length
  aborted _ := false

theorem reconstructs_accent :
    Reconstructs (Utf8.encode "éh") 2
      (readPages (quietHost markedTree) ⟨[projectWorkspace]⟩ "project" "t" 0 [none, none]) :=
  (@reconstructs_iff (quietHost markedTree) ⟨[projectWorkspace]⟩ "project" "t" "éh" [none, none]
    ⟨⟨_, _, rfl, rfl, rfl, fun _ _ => rfl⟩, fun _ _ _ => Nat.le_refl _⟩ (by decide)
    (by decide)).mpr (by decide)

/-- The mark is counted in `bytesRead` but not returned. -/
theorem readPages_loses_mark :
    ¬ Reconstructs [0xEF, 0xBB, 0xBF, 104] 1
      (readPages (quietHost markedTree) ⟨[projectWorkspace]⟩ "project" "b" 0 [none]) := by
  intro h
  have hpages : readPages (quietHost markedTree) ⟨[projectWorkspace]⟩ "project" "b" 0 [none] =
      [.ok ⟨"b", "h", 4, 0, 65536, 4, 4, false⟩] := rfl
  rw [hpages] at h
  have hcounts := h.counts _ List.mem_cons_self
  revert hcounts
  decide

end Doctmcp.Tools.FilesystemRead

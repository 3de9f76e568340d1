import Doctmcp.Lib.UpperCase

/-! # Pairing codes

`normalizePairingCode` and `formatPairingCode` of `apps/server/src/pairing.ts`, and the pattern by
which `parseStartResponse` of the agent's `pairing-client.ts` knows a formatted code. -/

namespace Doctmcp.Pairing
open Doctmcp.Lib Doctmcp.Lib.Utf16
set_option autoImplicit false

/-! ## The server -/

/-- The code units of an ASCII text. -/
def units (text : String) : Text := text.toList.map fun c => UInt16.ofNat c.toNat

def PAIRING_CODE_ALPHABET : Text := units "ABCDEFGHJKLMNPQRSTUVWXYZ23456789"
def PAIRING_CODE_SYMBOLS : ℕ := 12
def PAIRING_CODE_GROUP_SIZE : ℕ := 4

/-- `\s`. -/
def whitespace : Text :=
  [0x09, 0x0A, 0x0B, 0x0C, 0x0D, 0x20, 0xA0, 0x1680, 0x2000, 0x2001, 0x2002, 0x2003, 0x2004, 0x2005,
    0x2006, 0x2007, 0x2008, 0x2009, 0x200A, 0x2028, 0x2029, 0x202F, 0x205F, 0x3000, 0xFEFF]

def dash : UInt16 := 0x2D

/-- `[\s-]`. -/
def separators : Text := dash :: whitespace

/-- `text.replace(/[\s-]/g, "")`. -/
def strip (text : Text) : Text := text.filter fun u => u ∉ separators

def normalizePairingCode (pairingCode : Text) : Option Text :=
  let compact := strip (toUpperCase pairingCode)
  if compact.length ≠ PAIRING_CODE_SYMBOLS then none
  else if (symbols compact).any fun symbol => !includes PAIRING_CODE_ALPHABET symbol then none
  else some compact

/-- The slices of the loop of `formatPairingCode`. -/
def groups (normalizedCode : Text) : List Text :=
  (List.range ((normalizedCode.length + (PAIRING_CODE_GROUP_SIZE - 1)) /
      PAIRING_CODE_GROUP_SIZE)).map fun i =>
    (normalizedCode.drop (PAIRING_CODE_GROUP_SIZE * i)).take PAIRING_CODE_GROUP_SIZE

def formatPairingCode (normalizedCode : Text) : Text := [dash].intercalate (groups normalizedCode)

/-! ## The agent -/

/-- The class of the agent's pattern. -/
def symbolClass : Text := units "ABCDEFGHJKLMNPQRSTUVWXYZ23456789"

/-- What is left behind `n` symbols of the class. -/
def classes : ℕ → Text → Option Text
  | 0, text => some text
  | _ + 1, [] => none
  | n + 1, u :: text => if u ∈ symbolClass then classes n text else none

/-- What is left behind a dash. -/
def literalDash : Text → Option Text
  | [] => none
  | u :: text => if u = dash then some text else none

/-- `/^[…]{4}-[…]{4}-[…]{4}$/.test(text)`. -/
def matchesPattern (text : Text) : Bool :=
  (do
    let rest ← classes 4 text
    let rest ← literalDash rest
    let rest ← classes 4 rest
    let rest ← literalDash rest
    classes 4 rest) = some []

/-! ## The language of the codes -/

/-- A canonical code. -/
def IsCode (code : Text) : Prop :=
  code.length = PAIRING_CODE_SYMBOLS ∧ ∀ u ∈ code, u ∈ PAIRING_CODE_ALPHABET

instance (code : Text) : Decidable (IsCode code) := inferInstanceAs (Decidable (_ ∧ _))

/-- The letters outside ASCII that are written in symbols of the alphabet in upper case. -/
def foreignLetters : List (UInt16 × Text) :=
  [(0xDF, units "SS"), (0x17F, units "S"), (0xFB00, units "FF"), (0xFB02, units "FL"),
    (0xFB04, units "FFL"), (0xFB05, units "ST"), (0xFB06, units "ST")]

/-- An ASCII lower-case letter becomes the upper-case one. -/
def asciiUpper (u : UInt16) : UInt16 := if 0x61 ≤ u ∧ u ≤ 0x7A then u - 0x20 else u

/-- The symbols that a letter stands for. -/
def fold (u : UInt16) : Text := (foreignLetters.lookup u).getD [asciiUpper u]

/-- What a text stands for. -/
def folded (text : Text) : Text := (strip text).flatMap fold

/-! ## Upper case and the alphabet -/

/-- All letters of the text are symbols of the alphabet. -/
def Coded (text : Text) : Prop := ∀ u ∈ text, u ∈ PAIRING_CODE_ALPHABET

/-- Two texts that stand for the same code, if for any. -/
def Alike (a b : Text) : Prop := a = b ∨ ¬ Coded a ∧ ¬ Coded b

theorem coded_append {a b : Text} : Coded (a ++ b) ↔ Coded a ∧ Coded b := by
  unfold Coded
  simp only [List.mem_append]
  exact ⟨fun h => ⟨fun u hu => h u (.inl hu), fun u hu => h u (.inr hu)⟩,
    fun h u hu => hu.elim (h.1 u) (h.2 u)⟩

theorem Alike.append {a b c d : Text} (h : Alike a b) (h' : Alike c d) :
    Alike (a ++ c) (b ++ d) := by
  unfold Alike
  rw [coded_append, coded_append]
  rcases h with rfl | ⟨ha, hb⟩
  · rcases h' with rfl | ⟨hc, hd⟩
    · exact .inl rfl
    · exact .inr ⟨fun hcoded => hc hcoded.2, fun hcoded => hd hcoded.2⟩
  · exact .inr ⟨fun hcoded => ha hcoded.1, fun hcoded => hb hcoded.1⟩

theorem strip_append (a b : Text) : strip (a ++ b) = strip a ++ strip b := List.filter_append _ _

theorem folded_append (a b : Text) : folded (a ++ b) = folded a ++ folded b := by
  unfold folded
  rw [strip_append, List.flatMap_append]

/-- The code points of the alphabet and of the separators. -/
def known : List ℕ := (PAIRING_CODE_ALPHABET ++ separators).map UInt16.toNat

/-- The letters that stand for other symbols than themselves. -/
def changing : List ℕ := List.range' 0x61 26 ++ foreignLetters.map fun letter => letter.1.toNat

theorem known_plain : ∀ n ∈ known, n < 0xD800 ∨ 0xE000 ≤ n := by decide

theorem known_small : ∀ n ∈ known, n < 0x10000 := by decide

theorem changing_plain : ∀ n ∈ changing, n < 0xD800 ∨ 0xE000 ≤ n ∧ n < 0x10000 := by decide

theorem zero_not_known : 0 ∉ known := by decide

/-- A code point that is not known has a code unit that stays and is no symbol. -/
theorem unit_of_unknown {n : ℕ} (h : n ∉ known) :
    ∃ u ∈ unitsOf (Char.ofNat n), u ∉ PAIRING_CODE_ALPHABET ∧ u ∉ separators := by
  have hvalue : (Char.ofNat n).toNat = n ∨ (Char.ofNat n).toNat = 0 := by
    unfold Char.ofNat
    by_cases hvalid : n.isValidChar
    · rw [dif_pos hvalid]
      exact .inl rfl
    · rw [dif_neg hvalid]
      exact .inr rfl
  have hunknown : ∀ u : UInt16, u.toNat ∉ known → u ∉ PAIRING_CODE_ALPHABET ∧ u ∉ separators := by
    intro u hu
    have hmem : u ∉ PAIRING_CODE_ALPHABET ++ separators := fun hmem => hu (List.mem_map_of_mem hmem)
    exact ⟨fun hu => hmem (List.mem_append_left _ hu), fun hu => hmem (List.mem_append_right _ hu)⟩
  rcases unitsOf_cases (Char.ofNat n) with ⟨u, hunits, _, hu⟩ | ⟨u, v, hunits, hpair, _⟩
  · rw [hunits]
    refine ⟨u, List.mem_cons_self, hunknown u ?_⟩
    rw [hu]
    rcases hvalue with hn | hn
    · rw [hn]
      exact h
    · rw [hn]
      exact zero_not_known
  · rw [hunits]
    refine ⟨u, List.mem_cons_self, hunknown u fun hmem => ?_⟩
    have hplain := known_plain _ hmem
    unfold Pair at hpair
    omega

theorem not_coded_of_unknown {points : List ℕ} {n : ℕ} (hn : n ∈ points) (h : n ∉ known) :
    ¬ Coded (strip (encode (points.map Char.ofNat))) := by
  obtain ⟨u, hu, hsymbol, hstays⟩ := unit_of_unknown h
  intro hcoded
  refine hsymbol (hcoded u ?_)
  refine List.mem_filter.mpr ⟨?_, decide_eq_true hstays⟩
  exact List.mem_flatMap.mpr ⟨Char.ofNat n, List.mem_map_of_mem hn, hu⟩

/-- Of the code points with several targets, those that do not change into symbols have a target that
is unknown. -/
theorem expansions_unknown : ∀ e ∈ expansions,
    e.1 ∈ changing ∨ 0x80 ≤ e.1 ∧ ∃ n ∈ e.2, n ∉ known := by
  decide

/-- Of the ranges, those that do not change into symbols have unknown targets. -/
theorem ranges_unknown : ∀ r ∈ ranges,
    (∀ n ∈ List.range' r.1 (r.2.1 + 1 - r.1), n ∈ changing) ∨
      0x80 ≤ r.1 ∧ ∀ n ∈ known, n < r.2.2.2 ∨ r.2.2.2 + (r.2.1 - r.1) < n := by
  decide +kernel

theorem separators_stay : ∀ u ∈ separators,
    strip (encode (upperChar (Char.ofNat u.toNat))) = [] ∧ strip [u] = [] :=
  List.forall_iff_forall_mem.mp (by decide +kernel)

theorem changing_fold : ∀ n ∈ changing,
    strip (encode (upperChar (Char.ofNat n))) = fold (UInt16.ofNat n) ∧
      strip [UInt16.ofNat n] = [UInt16.ofNat n] := by
  decide +kernel

theorem fold_self {u : UInt16} (h : u.toNat ∉ changing) : fold u = [u] := by
  have hlookup : foreignLetters.lookup u = none := by
    rw [List.lookup_eq_none_iff]
    intro letter hletter
    rw [bne_iff_ne]
    rintro rfl
    exact h (List.mem_append_right _ (List.mem_map_of_mem hletter))
  have hrange : ¬ (0x61 ≤ u ∧ u ≤ 0x7A) := by
    rintro ⟨hlow, hhigh⟩
    have hlow' : 0x61 ≤ u.toNat := UInt16.le_iff_toNat_le.mp hlow
    have hhigh' : u.toNat ≤ 0x7A := UInt16.le_iff_toNat_le.mp hhigh
    refine h (List.mem_append_left _ ?_)
    rw [List.mem_range'_1]
    omega
  unfold fold asciiUpper
  rw [hlookup, if_neg hrange]
  rfl

theorem not_symbol_of_large {u : UInt16} (h : 0x80 ≤ u.toNat) : ¬ Coded [u] := by
  intro hcoded
  have hsmall : ∀ u ∈ PAIRING_CODE_ALPHABET, u.toNat < 0x80 :=
    List.forall_iff_forall_mem.mp (by decide)
  have hu := hsmall u (hcoded u List.mem_cons_self)
  omega

/-- A code unit that is no surrogate becomes, in upper case, what it stands for, or something else
that is no code. -/
theorem plain_alike {u : UInt16} (hplain : Plain u) :
    Alike (strip (encode (upperChar (Char.ofNat u.toNat)))) (folded [u]) := by
  by_cases hseparator : u ∈ separators
  · obtain ⟨hupper, hstrip⟩ := separators_stay u hseparator
    refine .inl ?_
    unfold folded
    rw [hupper, hstrip]
    rfl
  · have hstrip : strip [u] = [u] := List.filter_eq_self.mpr fun v hv => by
      rw [List.mem_singleton.mp hv]
      exact decide_eq_true hseparator
    have hfolded : folded [u] = fold u := by
      unfold folded
      rw [hstrip]
      exact List.append_nil _
    rw [hfolded]
    by_cases hchanging : u.toNat ∈ changing
    · refine .inl ?_
      rw [(changing_fold _ hchanging).1, UInt16.ofNat_toNat]
    · rw [fold_self hchanging]
      have hsize := u.toNat_lt
      have hvalue : (Char.ofNat u.toNat).toNat = u.toNat := Utf8.toNat_ofNat_valid (by
        unfold Plain at hplain
        omega)
      unfold upperChar
      rw [hvalue]
      rcases upperPoint_cases u.toNat with ⟨e, he, hpoint, hupper⟩ | ⟨r, hr, hfrom, hto, hupper⟩ |
        hupper
      · rw [hupper]
        rcases expansions_unknown e he with hknown | ⟨hlarge, n, hn, hunknown⟩
        · exact absurd (hpoint ▸ hknown) hchanging
        · exact .inr ⟨not_coded_of_unknown hn hunknown, not_symbol_of_large (hpoint ▸ hlarge)⟩
      · rw [hupper]
        rcases ranges_unknown r hr with hknown | ⟨hlarge, hapart⟩
        · refine absurd (hknown _ ?_) hchanging
          rw [List.mem_range'_1]
          omega
        · refine .inr ⟨not_coded_of_unknown List.mem_cons_self fun hmem => ?_,
            not_symbol_of_large (by omega)⟩
          have hout := hapart _ hmem
          omega
      · refine .inl ?_
        have hsame : encode ([u.toNat].map Char.ofNat) = [u] := by
          rcases unitsOf_cases (Char.ofNat u.toNat) with ⟨v, hunits, _, hv⟩ | ⟨v, w, _, hpair, hv⟩
          · rw [hvalue] at hv
            show unitsOf (Char.ofNat u.toNat) ++ [] = [u]
            rw [hunits, List.append_nil, UInt16.toNat_inj.mp hv]
          · omega
        rw [hupper, hsame, hstrip]

/-- A surrogate stays as it is. -/
theorem lone_stays {u : UInt16} (h : ¬ Plain u) : strip [u] = [u] ∧ folded [u] = [u] := by
  have hchanging : u.toNat ∉ changing := fun hmem => by
    have hsmall := changing_plain _ hmem
    unfold Plain at h
    omega
  have hseparator : u ∉ separators := fun hmem => by
    have hsmall := known_plain _ (List.mem_map_of_mem (List.mem_append_right _ hmem))
    unfold Plain at h
    omega
  have hstrip : strip [u] = [u] := List.filter_eq_self.mpr fun v hv => by
    rw [List.mem_singleton.mp hv]
    exact decide_eq_true hseparator
  refine ⟨hstrip, ?_⟩
  unfold folded
  rw [hstrip, List.flatMap_cons, fold_self hchanging]
  rfl

/-- A pair of surrogates is no code, in upper case neither. -/
theorem pair_alike {u v : UInt16} (hpair : Pair u v) :
    Alike (strip (encode (upperChar
        (Char.ofNat (0x10000 + (u.toNat - 0xD800) * 0x400 + (v.toNat - 0xDC00))))))
      (folded [u, v]) := by
  have hlone : ¬ Plain u := by
    unfold Pair at hpair
    unfold Plain
    omega
  refine .inr ⟨?_, fun hcoded => ?_⟩
  · generalize hpoint : 0x10000 + (u.toNat - 0xD800) * 0x400 + (v.toNat - 0xDC00) = n
    have hlarge : 0x10000 ≤ n ∧ n < 0x110000 := by
      unfold Pair at hpair
      omega
    have hvalue : (Char.ofNat n).toNat = n := Utf8.toNat_ofNat_valid (by omega)
    have hchanging : n ∉ changing := fun hmem => by
      have hsmall := changing_plain n hmem
      omega
    unfold upperChar
    rw [hvalue]
    rcases upperPoint_cases n with ⟨e, he, rfl, hupper⟩ | ⟨r, hr, hfrom, hto, hupper⟩ | hupper
    · rw [hupper]
      rcases expansions_unknown e he with hknown | ⟨_, m, hm, hunknown⟩
      · exact absurd hknown hchanging
      · exact not_coded_of_unknown hm hunknown
    · rw [hupper]
      rcases ranges_unknown r hr with hknown | ⟨_, hapart⟩
      · refine absurd (hknown _ ?_) hchanging
        rw [List.mem_range'_1]
        omega
      · refine not_coded_of_unknown List.mem_cons_self fun hmem => ?_
        have hout := hapart _ hmem
        omega
    · rw [hupper]
      refine not_coded_of_unknown List.mem_cons_self fun hmem => ?_
      have hsmall := known_small n hmem
      omega
  · rw [show [u, v] = [u] ++ [v] from rfl, folded_append, (lone_stays hlone).2, coded_append] at hcoded
    have hsurrogate : 0x80 ≤ u.toNat := by
      unfold Pair at hpair
      omega
    exact not_symbol_of_large hsurrogate hcoded.1

/-- The text in upper case without separators is what the text stands for, or neither is a code. -/
theorem toUpperCase_alike (text : Text) : Alike (strip (toUpperCase text)) (folded text) := by
  induction text using toUpperCase.induct with
  | case1 => exact .inl rfl
  | case2 u hplain =>
    rw [toUpperCase, if_pos hplain]
    exact plain_alike hplain
  | case3 u hplain =>
    rw [toUpperCase, if_neg hplain, (lone_stays hplain).1, (lone_stays hplain).2]
    exact .inl rfl
  | case4 u v us hplain ih =>
    rw [toUpperCase, if_pos hplain, strip_append, show u :: v :: us = [u] ++ v :: us from rfl,
      folded_append]
    exact (plain_alike hplain).append ih
  | case5 u v us hplain hpair ih =>
    rw [toUpperCase, if_neg hplain, if_pos hpair, strip_append,
      show u :: v :: us = [u, v] ++ us from rfl, folded_append]
    exact (pair_alike hpair).append ih
  | case6 u v us hplain hpair ih =>
    rw [toUpperCase, if_neg hplain, if_neg hpair, show u :: toUpperCase (v :: us) =
      [u] ++ toUpperCase (v :: us) from rfl, strip_append, show u :: v :: us = [u] ++ v :: us from rfl,
      folded_append, (lone_stays hplain).1, (lone_stays hplain).2]
    exact Alike.append (.inl rfl) ih

/-! ## Normalisation -/

theorem includes_singleton (text : Text) (u : UInt16) : includes text [u] = true ↔ u ∈ text := by
  unfold includes
  rw [decide_eq_true_eq, List.singleton_infix_iff]

/-- The check of the symbols is a check of the code units. -/
theorem symbols_included (text : Text) :
    ((symbols text).any fun symbol => !includes PAIRING_CODE_ALPHABET symbol) = false ↔
      Coded text := by
  induction text using symbols.induct with
  | case1 => exact iff_of_true rfl (List.forall_mem_nil _)
  | case2 u =>
    show (!includes PAIRING_CODE_ALPHABET [u] || false) = false ↔ Coded [u]
    rw [Bool.or_false, Bool.not_eq_false', includes_singleton]
    exact List.forall_mem_singleton.symm
  | case3 u v us hpair ih =>
    have hlone : ¬ Plain u := by
      unfold Pair at hpair
      unfold Plain
      omega
    have hu : u ∉ PAIRING_CODE_ALPHABET := fun hmem => by
      have hsmall := known_plain _ (List.mem_map_of_mem (List.mem_append_left _ hmem))
      unfold Plain at hlone
      omega
    refine iff_of_false ?_ fun hcoded => hu (hcoded u List.mem_cons_self)
    rw [symbols, if_pos hpair, List.any_cons, Bool.or_eq_false_iff, Bool.not_eq_false']
    rintro ⟨hincluded, _⟩
    have hwithin : [u, v] <:+: PAIRING_CODE_ALPHABET := of_decide_eq_true hincluded
    exact hu (hwithin.subset List.mem_cons_self)
  | case4 u v us hpair ih =>
    rw [symbols, if_neg hpair, List.any_cons, Bool.or_eq_false_iff, Bool.not_eq_false',
      includes_singleton, ih]
    exact List.forall_mem_cons.symm

/-- `normalizePairingCode` returns what the text stands for, if that is a code. -/
theorem normalizePairingCode_eq (text : Text) :
    normalizePairingCode text = if IsCode (folded text) then some (folded text) else none := by
  have hcompact : normalizePairingCode text =
      if IsCode (strip (toUpperCase text)) then some (strip (toUpperCase text)) else none := by
    unfold normalizePairingCode
    dsimp only
    by_cases hlength : (strip (toUpperCase text)).length = PAIRING_CODE_SYMBOLS
    · rw [if_neg (not_not_intro hlength)]
      by_cases hcoded : Coded (strip (toUpperCase text))
      · rw [(symbols_included _).mpr hcoded, if_neg Bool.false_ne_true, if_pos ⟨hlength, hcoded⟩]
      · rw [if_pos (Bool.of_not_eq_false fun hfalse => hcoded ((symbols_included _).mp hfalse)),
          if_neg fun hcode => hcoded hcode.2]
    · rw [if_pos hlength, if_neg fun hcode => hlength hcode.1]
  rw [hcompact]
  rcases toUpperCase_alike text with hsame | ⟨hupper, hfolded⟩
  · rw [hsame]
  · rw [if_neg fun hcode => hupper hcode.2, if_neg fun hcode => hfolded hcode.2]

theorem normalizePairingCode_eq_some_iff (text code : Text) :
    normalizePairingCode text = some code ↔ folded text = code ∧ IsCode code := by
  rw [normalizePairingCode_eq]
  constructor
  · intro h
    split at h
    · next hcode =>
      cases h
      exact ⟨rfl, hcode⟩
    · cases h
  · rintro ⟨rfl, hcode⟩
    rw [if_pos hcode]

/-- Symbols of the alphabet stand for themselves. -/
theorem symbols_stay : ∀ u ∈ PAIRING_CODE_ALPHABET, u ∉ separators ∧ fold u = [u] :=
  List.forall_iff_forall_mem.mp (by decide)

theorem strip_code {code : Text} (h : Coded code) : strip code = code :=
  List.filter_eq_self.mpr fun u hu => decide_eq_true (symbols_stay u (h u hu)).1

theorem folded_code {code : Text} (h : Coded code) : folded code = code := by
  unfold folded
  rw [strip_code h]
  induction code with
  | nil => rfl
  | cons u code ih =>
    rw [List.flatMap_cons, (symbols_stay u (h u List.mem_cons_self)).2,
      ih fun v hv => h v (List.mem_cons_of_mem u hv)]
    rfl

theorem strip_separator {u : UInt16} (h : u ∈ separators) (front back : Text) :
    strip (front ++ u :: back) = strip (front ++ back) := by
  unfold strip
  rw [List.filter_append, List.filter_append, List.filter_cons_of_neg]
  simpa using h

/-! ## Formatting -/

/-- The three groups of a code. -/
theorem formatPairingCode_eq {code : Text} (h : code.length = PAIRING_CODE_SYMBOLS) :
    formatPairingCode code =
      code.take 4 ++ dash :: ((code.drop 4).take 4 ++ dash :: code.drop 8) := by
  have hlast : (code.drop 8).take 4 = code.drop 8 := by
    refine List.take_of_length_le ?_
    rw [List.length_drop, h]
    decide
  unfold formatPairingCode groups
  rw [h]
  show [dash].intercalate [(code.drop 0).take 4, (code.drop 4).take 4, (code.drop 8).take 4] = _
  rw [hlast, List.drop_zero]
  simp [List.intercalate]

theorem classes_eq_some_iff (n : ℕ) (text rest : Text) :
    classes n text = some rest ↔
      ∃ front, text = front ++ rest ∧ front.length = n ∧ Coded front := by
  induction n generalizing text with
  | zero =>
    constructor
    · intro h
      cases h
      exact ⟨[], rfl, rfl, nofun⟩
    · rintro ⟨front, rfl, hlength, _⟩
      rw [List.eq_nil_of_length_eq_zero hlength]
      rfl
  | succ n ih =>
    cases text with
    | nil =>
      refine iff_of_false nofun ?_
      rintro ⟨front, hsplit, hlength, _⟩
      rw [(List.append_eq_nil_iff.mp hsplit.symm).1] at hlength
      cases hlength
    | cons u text =>
      constructor
      · intro h
        rw [classes] at h
        split at h
        · next hu =>
          obtain ⟨front, rfl, hlength, hcoded⟩ := (ih text).mp h
          exact ⟨u :: front, rfl, congrArg (· + 1) hlength, List.forall_mem_cons.mpr ⟨hu, hcoded⟩⟩
        · cases h
      · rintro ⟨front, hsplit, hlength, hcoded⟩
        obtain ⟨v, front, rfl⟩ := List.exists_cons_of_length_eq_add_one hlength
        obtain ⟨rfl, rfl⟩ := List.cons.inj hsplit
        have hu : u ∈ symbolClass := hcoded u List.mem_cons_self
        rw [classes, if_pos hu]
        exact (ih _).mpr ⟨front, rfl, Nat.succ.inj hlength, fun v hv =>
          hcoded v (List.mem_cons_of_mem u hv)⟩

theorem literalDash_eq_some_iff (text rest : Text) :
    literalDash text = some rest ↔ text = dash :: rest := by
  cases text with
  | nil => exact iff_of_false nofun nofun
  | cons u text =>
    rw [literalDash]
    by_cases hu : u = dash
    · rw [if_pos hu, hu, Option.some.injEq, List.cons.injEq, and_iff_right rfl]
    · rw [if_neg hu]
      exact iff_of_false nofun fun hsame => hu (List.cons.inj hsame).1

/-- What the agent's pattern accepts. -/
theorem matchesPattern_iff (text : Text) : matchesPattern text = true ↔
    ∃ a b c, text = a ++ dash :: (b ++ dash :: c) ∧ a.length = 4 ∧ b.length = 4 ∧ c.length = 4 ∧
      Coded a ∧ Coded b ∧ Coded c := by
  unfold matchesPattern
  simp only [decide_eq_true_eq, Option.bind_eq_bind, Option.bind_eq_some_iff, classes_eq_some_iff,
    literalDash_eq_some_iff]
  constructor
  · rintro ⟨_, ⟨a, rfl, ha, hacoded⟩, _, rfl, _, ⟨b, rfl, hb, hbcoded⟩, _, rfl, c, rfl, hc, hccoded⟩
    exact ⟨a, b, c, by rw [List.append_nil], ha, hb, hc, hacoded, hbcoded, hccoded⟩
  · rintro ⟨a, b, c, rfl, ha, hb, hc, hacoded, hbcoded, hccoded⟩
    exact ⟨_, ⟨a, rfl, ha, hacoded⟩, _, rfl, _, ⟨b, rfl, hb, hbcoded⟩, _, rfl, c,
      (List.append_nil c).symm, hc, hccoded⟩

theorem folded_format {code : Text} (h : IsCode code) : folded (formatPairingCode code) = code := by
  have hdash : dash ∈ separators := List.mem_cons_self
  have hstrip : strip (formatPairingCode code) = strip code := by
    rw [formatPairingCode_eq h.1, strip_separator hdash, ← List.append_assoc,
      strip_separator hdash, List.append_assoc]
    have hback : (code.drop 4).take 4 ++ code.drop 8 = code.drop 4 := by
      rw [show code.drop 8 = (code.drop 4).drop 4 by rw [List.drop_drop], List.take_append_drop]
    rw [hback, List.take_append_drop]
  have hfolded := folded_code h.2
  unfold folded at hfolded ⊢
  rw [hstrip]
  exact hfolded

/-- The formatted codes are what the agent accepts. -/
theorem formatted_iff_matches (text : Text) :
    (∃ code, IsCode code ∧ formatPairingCode code = text) ↔ matchesPattern text = true := by
  rw [matchesPattern_iff]
  constructor
  · rintro ⟨code, ⟨hlength, hcoded⟩, rfl⟩
    have hsize : code.length = 12 := hlength
    refine ⟨code.take 4, (code.drop 4).take 4, code.drop 8, formatPairingCode_eq hlength, ?_, ?_, ?_,
      fun u hu => hcoded u (List.mem_of_mem_take hu),
      fun u hu => hcoded u (List.mem_of_mem_drop (List.mem_of_mem_take hu)),
      fun u hu => hcoded u (List.mem_of_mem_drop hu)⟩
    · rw [List.length_take, hsize]
      rfl
    · rw [List.length_take, List.length_drop, hsize]
      rfl
    · rw [List.length_drop, hsize]
  · rintro ⟨a, b, c, rfl, ha, hb, hc, hacoded, hbcoded, hccoded⟩
    have hlength : (a ++ (b ++ c)).length = PAIRING_CODE_SYMBOLS := by
      rw [List.length_append, List.length_append, ha, hb, hc]
      rfl
    refine ⟨a ++ (b ++ c), ⟨hlength, coded_append.mpr ⟨hacoded, coded_append.mpr ⟨hbcoded, hccoded⟩⟩⟩,
      ?_⟩
    rw [formatPairingCode_eq hlength]
    have hbehind : (a ++ (b ++ c)).drop 4 = b ++ c := List.drop_left' ha
    have hlast : (a ++ (b ++ c)).drop 8 = c := by
      rw [← List.append_assoc]
      exact List.drop_left' (by rw [List.length_append, ha, hb])
    rw [hbehind, hlast, List.take_left' ha, List.take_left' hb]

/-- The codec: what is normalised to which code, that normalising is idempotent and blind to
separators, that it undoes formatting, and that both sides know the same formatted codes. -/
theorem pairingCodes_codec :
    (∀ text code, normalizePairingCode text = some code ↔ folded text = code ∧ IsCode code) ∧
      (∀ text, normalizePairingCode text = none ↔ ¬ IsCode (folded text)) ∧
      (∀ text code, normalizePairingCode text = some code →
        normalizePairingCode code = some code) ∧
      (∀ front back u, u ∈ separators →
        normalizePairingCode (front ++ u :: back) = normalizePairingCode (front ++ back)) ∧
      (∀ code, IsCode code → normalizePairingCode (formatPairingCode code) = some code) ∧
      ∀ text, (∃ code, IsCode code ∧ formatPairingCode code = text) ↔ matchesPattern text = true := by
  refine ⟨normalizePairingCode_eq_some_iff, fun text => ?_, fun text code h => ?_,
    fun front back u hu => ?_, fun code h => ?_, formatted_iff_matches⟩
  · rw [normalizePairingCode_eq]
    split
    · next hcode => exact iff_of_false nofun (not_not_intro hcode)
    · next hcode => exact iff_of_true rfl hcode
  · obtain ⟨_, hcode⟩ := (normalizePairingCode_eq_some_iff text code).mp h
    exact (normalizePairingCode_eq_some_iff code code).mpr ⟨folded_code hcode.2, hcode⟩
  · rw [normalizePairingCode_eq, normalizePairingCode_eq]
    unfold folded
    rw [strip_separator hu]
  · exact (normalizePairingCode_eq_some_iff _ _).mpr ⟨folded_format h, h⟩

/-- A long s is read as an `S`, though it is no ASCII letter. -/
theorem normalizePairingCode_long_s :
    ¬ ∀ text code, normalizePairingCode text = some code ↔
      (strip text).map asciiUpper = code ∧ IsCode code := by
  intro h
  have hcode := ((h (0x17F :: units "AAAAAAAAAAA") (units "SAAAAAAAAAAA")).mp (by decide +kernel)).1
  revert hcode
  decide

end Doctmcp.Pairing

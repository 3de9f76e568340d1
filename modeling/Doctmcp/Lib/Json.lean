import Mathlib.Algebra.Field.Rat
import Doctmcp.Lib.Utf16

/-! # JSON texts

`JSON.parse` by recursive descent over the code units of a text, and the writing of strings and
objects. A number has the exact value of its digits; an object keeps its members in order, and a later
member with the same key hides an earlier one. `Reads` says that a text is read as a value wherever it
stands, so that an object is read member by member. -/

namespace Doctmcp.Lib.Json
open Utf16
set_option autoImplicit false

inductive Value
  | null
  | bool (value : Bool)
  | number (value : ℚ)
  | string (text : Text)
  | array (items : List Value)
  | object (members : List (Text × Value))

/-- The code units of an ASCII text. -/
def units (text : String) : Text := encode text.toList

/-- The value of a key. -/
def get? (members : List (Text × Value)) (key : Text) : Option Value :=
  (members.reverse.find? fun member => member.1 = key).map Prod.snd

/-! ## Reading -/

def isSpace (u : UInt16) : Bool := u = 0x20 || u = 0x09 || u = 0x0A || u = 0x0D

def isDigit (u : UInt16) : Bool := 0x30 ≤ u && u ≤ 0x39

def skipSpace (text : Text) : Text := text.dropWhile isSpace

def digitsValue (digits : Text) : ℕ := digits.foldl (fun n u => 10 * n + (u.toNat - 0x30)) 0

def hexDigit (u : UInt16) : Option ℕ :=
  if 0x30 ≤ u ∧ u ≤ 0x39 then some (u.toNat - 0x30)
  else if 0x41 ≤ u ∧ u ≤ 0x46 then some (u.toNat - 0x37)
  else if 0x61 ≤ u ∧ u ≤ 0x66 then some (u.toNat - 0x57)
  else none

/-- The unit that follows a backslash, by what it stands for. -/
def escaped (u : UInt16) : Option UInt16 :=
  if u = 0x22 ∨ u = 0x5C ∨ u = 0x2F then some u
  else if u = 0x62 then some 0x08
  else if u = 0x66 then some 0x0C
  else if u = 0x6E then some 0x0A
  else if u = 0x72 then some 0x0D
  else if u = 0x74 then some 0x09
  else none

/-- A string after its opening quote, and what follows it. -/
def stringBody : Text → Option (Text × Text)
  | [] => none
  | u :: rest =>
    if u = 0x22 then some ([], rest)
    else if u = 0x5C then
      match rest with
      | [] => none
      | e :: rest =>
        if e = 0x75 then
          match rest with
          | a :: b :: c :: d :: rest => do
            let value := 4096 * (← hexDigit a) + 256 * (← hexDigit b) + 16 * (← hexDigit c) +
              (← hexDigit d)
            let (text, rest) ← stringBody rest
            some (UInt16.ofNat value :: text, rest)
          | _ => none
        else do
          let value ← escaped e
          let (text, rest) ← stringBody rest
          some (value :: text, rest)
    else if u < 0x20 then none
    else do
      let (text, rest) ← stringBody rest
      some (u :: text, rest)

/-- The digits of a fraction, if there is one. -/
def fraction (text : Text) : Option (Text × Text) :=
  if text.head? = some 0x2E then
    let digits := text.tail.takeWhile isDigit
    if digits = [] then none else some (digits, text.tail.dropWhile isDigit)
  else some ([], text)

/-- The exponent, if there is one. -/
def exponent (text : Text) : Option (ℤ × Text) :=
  if text.head? = some 0x65 ∨ text.head? = some 0x45 then
    let signed := text.tail.head? = some 0x2B ∨ text.tail.head? = some 0x2D
    let text' := if signed then text.tail.tail else text.tail
    let digits := text'.takeWhile isDigit
    if digits = [] then none
    else
      let value : ℤ := digitsValue digits
      some (if text.tail.head? = some 0x2D then -value else value, text'.dropWhile isDigit)
  else some (0, text)

def number (text : Text) : Option (Value × Text) := do
  let negative := text.head? = some 0x2D
  let text := if negative then text.tail else text
  let whole := text.takeWhile isDigit
  if whole = [] ∨ (whole.head? = some 0x30 ∧ 1 < whole.length) then none
  else
    let (fractional, text) ← fraction (text.dropWhile isDigit)
    let (power, text) ← exponent text
    let value := (digitsValue (whole ++ fractional) : ℚ) * 10 ^ (power - fractional.length)
    some (.number (if negative then -value else value), text)

/-- A word that stands for a value. -/
def literal (word : String) (value : Value) (text : Text) : Option (Value × Text) :=
  if (units word).isPrefixOf text then some (value, text.drop (units word).length) else none

mutual

/-- A value with the space before it, and what follows. The first argument bounds the depth of the
calls; a text has no more of them than units. -/
def value : ℕ → Text → Option (Value × Text)
  | 0, _ => none
  | fuel + 1, text =>
    match skipSpace text with
    | [] => none
    | u :: rest =>
      if u = 0x7B then
        if (skipSpace rest).head? = some 0x7D then some (.object [], (skipSpace rest).tail)
        else (members fuel rest).map fun (found, rest) => (.object found, rest)
      else if u = 0x5B then
        if (skipSpace rest).head? = some 0x5D then some (.array [], (skipSpace rest).tail)
        else (items fuel rest).map fun (found, rest) => (.array found, rest)
      else if u = 0x22 then (stringBody rest).map fun (text, rest) => (.string text, rest)
      else if u = 0x74 then literal "true" (.bool true) (u :: rest)
      else if u = 0x66 then literal "false" (.bool false) (u :: rest)
      else if u = 0x6E then literal "null" .null (u :: rest)
      else number (u :: rest)

/-- The members of an object up to its closing brace. -/
def members : ℕ → Text → Option (List (Text × Value) × Text)
  | 0, _ => none
  | fuel + 1, text =>
    match skipSpace text with
    | [] => none
    | u :: rest =>
      if u ≠ 0x22 then none
      else do
        let (key, rest) ← stringBody rest
        if (skipSpace rest).head? ≠ some 0x3A then none
        else
          let (found, rest) ← value fuel (skipSpace rest).tail
          if (skipSpace rest).head? = some 0x7D then some ([(key, found)], (skipSpace rest).tail)
          else if (skipSpace rest).head? = some 0x2C then
            (members fuel (skipSpace rest).tail).map fun (others, rest) =>
              ((key, found) :: others, rest)
          else none

/-- The items of an array up to its closing bracket. -/
def items : ℕ → Text → Option (List Value × Text)
  | 0, _ => none
  | fuel + 1, text => do
    let (found, rest) ← value fuel text
    if (skipSpace rest).head? = some 0x5D then some ([found], (skipSpace rest).tail)
    else if (skipSpace rest).head? = some 0x2C then
      (items fuel (skipSpace rest).tail).map fun (others, rest) => (found :: others, rest)
    else none

end

/-- `JSON.parse`; `none` where it throws. -/
def parse (text : Text) : Option Value :=
  match value (text.length + 1) text with
  | some (found, rest) => if skipSpace rest = [] then some found else none
  | none => none

/-! ## Writing -/

def hexUnit (n : ℕ) : UInt16 := if n < 10 then UInt16.ofNat (0x30 + n) else UInt16.ofNat (0x57 + n)

def unicodeEscape (u : UInt16) : Text :=
  [0x5C, 0x75, hexUnit (u.toNat / 4096), hexUnit (u.toNat / 256 % 16), hexUnit (u.toNat / 16 % 16),
    hexUnit (u.toNat % 16)]

/-- What is written for a unit that is no surrogate. -/
def escape (u : UInt16) : Text :=
  if u = 0x22 ∨ u = 0x5C then [0x5C, u]
  else if u = 0x08 then [0x5C, 0x62]
  else if u = 0x0C then [0x5C, 0x66]
  else if u = 0x0A then [0x5C, 0x6E]
  else if u = 0x0D then [0x5C, 0x72]
  else if u = 0x09 then [0x5C, 0x74]
  else if u < 0x20 then unicodeEscape u
  else [u]

def quoteBody : Text → Text
  | [] => []
  | [u] => if Plain u then escape u else unicodeEscape u
  | u :: v :: rest =>
    if Plain u then escape u ++ quoteBody (v :: rest)
    else if Pair u v then u :: v :: quoteBody rest
    else unicodeEscape u ++ quoteBody (v :: rest)

/-- `JSON.stringify` of a string. -/
def quote (text : Text) : Text := 0x22 :: quoteBody text ++ [0x22]

/-- `JSON.stringify` of an object, given its keys and the texts of their values. -/
def stringifyObject (members : List (Text × Text)) : Text :=
  0x7B :: [0x2C].intercalate (members.map fun member => quote member.1 ++ 0x3A :: member.2) ++
    [0x7D]

/-! ## Strings read back -/

/-- The unit in front of what a string reads. -/
def prepend (u : UInt16) (found : Option (Text × Text)) : Option (Text × Text) :=
  found.map fun (text, rest) => (u :: text, rest)

theorem stringBody_quote (rest : Text) : stringBody (0x22 :: rest) = some ([], rest) := by
  rw [stringBody.eq_def]
  exact if_pos rfl

theorem stringBody_verbatim {u : UInt16} (hquote : u ≠ 0x22) (hslash : u ≠ 0x5C)
    (hcontrol : ¬ u < 0x20) (text : Text) :
    stringBody (u :: text) = prepend u (stringBody text) := by
  rw [stringBody.eq_def]
  dsimp only
  rw [if_neg hquote, if_neg hslash, if_neg hcontrol]
  cases stringBody text <;> rfl

theorem stringBody_escaped {e v : UInt16} (hother : e ≠ 0x75) (h : escaped e = some v)
    (text : Text) : stringBody (0x5C :: e :: text) = prepend v (stringBody text) := by
  rw [stringBody.eq_def]
  dsimp only
  rw [if_neg (by decide), if_pos rfl, if_neg hother, h]
  cases stringBody text <;> rfl

theorem hexDigit_hexUnit : ∀ n < 16, hexDigit (hexUnit n) = some n := by decide

theorem stringBody_unicodeEscape (u : UInt16) (text : Text) :
    stringBody (unicodeEscape u ++ text) = prepend u (stringBody text) := by
  have hlt : u.toNat < 65536 := u.toNat_lt
  have hvalue : 4096 * (u.toNat / 4096) + 256 * (u.toNat / 256 % 16) + 16 * (u.toNat / 16 % 16) +
      u.toNat % 16 = u.toNat := by omega
  unfold unicodeEscape
  rw [List.cons_append, List.cons_append, List.cons_append, List.cons_append, List.cons_append,
    List.cons_append, List.nil_append, stringBody.eq_def]
  dsimp only
  rw [if_neg (by decide), if_pos rfl, if_pos rfl, hexDigit_hexUnit _ (by omega),
    hexDigit_hexUnit _ (by omega), hexDigit_hexUnit _ (by omega), hexDigit_hexUnit _ (by omega)]
  dsimp only [Option.bind_eq_bind, Option.bind_some]
  rw [hvalue, UInt16.ofNat_toNat]
  cases stringBody text <;> rfl

theorem stringBody_escape (u : UInt16) (text : Text) :
    stringBody (escape u ++ text) = prepend u (stringBody text) := by
  unfold escape
  split
  · next h =>
    have hescaped : escaped u = some u := if_pos (by tauto)
    rcases h with rfl | rfl
    · exact stringBody_escaped (by decide) hescaped text
    · exact stringBody_escaped (by decide) hescaped text
  · next hplain =>
    rw [not_or] at hplain
    split
    · next h => exact h ▸ stringBody_escaped (by decide) rfl text
    · split
      · next h => exact h ▸ stringBody_escaped (by decide) rfl text
      · split
        · next h => exact h ▸ stringBody_escaped (by decide) rfl text
        · split
          · next h => exact h ▸ stringBody_escaped (by decide) rfl text
          · split
            · next h => exact h ▸ stringBody_escaped (by decide) rfl text
            · split
              · exact stringBody_unicodeEscape u text
              · next hcontrol => exact stringBody_verbatim hplain.1 hplain.2 hcontrol text

theorem stringBody_quoteBody (text rest : Text) :
    stringBody (quoteBody text ++ 0x22 :: rest) = some (text, rest) := by
  induction text using quoteBody.induct with
  | case1 => exact stringBody_quote rest
  | case2 u hplain =>
    rw [quoteBody, if_pos hplain, stringBody_escape, stringBody_quote]
    rfl
  | case3 u hplain =>
    rw [quoteBody, if_neg hplain, stringBody_unicodeEscape, stringBody_quote]
    rfl
  | case4 u v text hplain ih =>
    rw [quoteBody, if_pos hplain, List.append_assoc, stringBody_escape, ih]
    rfl
  | case5 u v text hplain hpair ih =>
    -- A pair is written as it is: its units are neither marks nor controls.
    have hverbatim : ∀ {w : UInt16}, 0xD800 ≤ w.toNat → ∀ tail,
        stringBody (w :: tail) = prepend w (stringBody tail) := by
      intro w hw tail
      refine stringBody_verbatim ?_ ?_ ?_ tail
      · rintro rfl
        exact absurd hw (by decide)
      · rintro rfl
        exact absurd hw (by decide)
      · intro hcontrol
        have hlt : w.toNat < 0x20 := hcontrol
        omega
    have hhigh := hpair.1.1
    have hlow : 0xD800 ≤ v.toNat := le_trans (by decide) hpair.2.1
    rw [quoteBody, if_neg hplain, if_pos hpair, List.cons_append, List.cons_append,
      hverbatim hhigh, hverbatim hlow, ih]
    rfl
  | case6 u v text hplain hpair ih =>
    rw [quoteBody, if_neg hplain, if_neg hpair, List.append_assoc, stringBody_unicodeEscape, ih]
    rfl

/-! ## Objects read back -/

/-- What may follow the value of a member. -/
def Ends (rest : Text) : Prop := rest.head? = some 0x2C ∨ rest.head? = some 0x7D

/-- The text is read as the value wherever it stands as the value of a member. -/
def Reads (text : Text) (found : Value) : Prop :=
  ∀ fuel rest, text.length ≤ fuel → Ends rest → value fuel (text ++ rest) = some (found, rest)

theorem skipSpace_cons {u : UInt16} (h : isSpace u = false) (rest : Text) :
    skipSpace (u :: rest) = u :: rest := List.dropWhile_cons_of_neg (by rw [h]; exact nofun)

theorem reads_quote (text : Text) : Reads (quote text) (.string text) := by
  intro fuel rest hfuel _
  obtain _ | fuel := fuel
  · exact absurd hfuel (by simp [quote])
  · have htext : quote text ++ rest = 0x22 :: (quoteBody text ++ 0x22 :: rest) := by simp [quote]
    rw [htext, value, skipSpace_cons rfl]
    dsimp only
    rw [if_neg (by decide), if_neg (by decide), if_pos rfl, stringBody_quoteBody]
    rfl

theorem isDigit_false_of_ends {rest : Text} (h : Ends rest) :
    ∀ u ∈ rest.head?, isDigit u = false ∧ u ≠ 0x2E ∧ u ≠ 0x65 ∧ u ≠ 0x45 := by
  intro u hu
  rcases h with h | h
  · rw [h] at hu
    cases hu
    decide
  · rw [h] at hu
    cases hu
    decide

/-- A numeral without a leading zero. -/
def IsNumeral (digits : Text) : Prop :=
  (∃ u rest, digits = u :: rest ∧ u ≠ 0x30) ∧ ∀ u ∈ digits, isDigit u = true

theorem number_numeral {digits : Text} (h : IsNumeral digits) {rest : Text} (hends : Ends rest) :
    number (digits ++ rest) = some (.number (digitsValue digits), rest) := by
  obtain ⟨⟨u, others, rfl, hzero⟩, hdigits⟩ := h
  have hafter := isDigit_false_of_ends hends
  have htake : rest.takeWhile isDigit = [] ∧ rest.dropWhile isDigit = rest := by
    cases rest with
    | nil => exact ⟨rfl, rfl⟩
    | cons v rest =>
      have hv := (hafter v rfl).1
      exact ⟨List.takeWhile_cons_of_neg (by rw [hv]; exact nofun),
        List.dropWhile_cons_of_neg (by rw [hv]; exact nofun)⟩
  have hfraction : fraction rest = some ([], rest) := by
    refine if_neg fun h => ?_
    exact (hafter _ h).2.1 rfl
  have hexponent : exponent rest = some (0, rest) := by
    refine if_neg fun h => ?_
    rcases h with h | h
    · exact (hafter _ h).2.2.1 rfl
    · exact (hafter _ h).2.2.2 rfl
  have hsign : ((u :: others) ++ rest).head? ≠ some 0x2D := by
    intro h
    cases h
    exact absurd (hdigits 0x2D List.mem_cons_self) (by decide)
  have hwhole : ((u :: others) ++ rest).takeWhile isDigit = u :: others := by
    rw [List.takeWhile_append_of_pos hdigits, htake.1, List.append_nil]
  have hrest : ((u :: others) ++ rest).dropWhile isDigit = rest := by
    rw [List.dropWhile_append_of_pos hdigits, htake.2]
  have hnumeral : ¬ ((u :: others) = [] ∨
      ((u :: others).head? = some 0x30 ∧ 1 < (u :: others).length)) := by
    rintro (h | ⟨h, _⟩)
    · exact List.cons_ne_nil _ _ h
    · exact hzero (Option.some.inj h)
  unfold number
  simp only [if_neg hsign, hwhole, hrest, if_neg hnumeral, hfraction, hexponent, Option.bind_eq_bind,
    Option.bind_some, List.append_nil, List.length_nil, Nat.cast_zero, sub_zero, zpow_zero, mul_one]

theorem reads_numeral {digits : Text} (h : IsNumeral digits) :
    Reads digits (.number (digitsValue digits)) := by
  intro fuel rest hfuel hends
  have hnumber := number_numeral h hends
  obtain ⟨⟨u, others, rfl, _⟩, hdigits⟩ := h
  have hu := hdigits u List.mem_cons_self
  have hnot : ∀ {w : UInt16}, isDigit w = false → u ≠ w := by
    rintro w hw rfl
    exact Bool.false_ne_true (hw.symm.trans hu)
  have hspace : isSpace u = false := by
    simp only [isSpace, Bool.or_eq_false_iff, decide_eq_false_iff_not]
    exact ⟨⟨⟨hnot rfl, hnot rfl⟩, hnot rfl⟩, hnot rfl⟩
  obtain _ | fuel := fuel
  · exact absurd hfuel (by simp)
  · rw [List.cons_append, value, skipSpace_cons hspace]
    dsimp only
    rw [if_neg (hnot rfl), if_neg (hnot rfl), if_neg (hnot rfl), if_neg (hnot rfl),
      if_neg (hnot rfl), if_neg (hnot rfl), ← List.cons_append, hnumber]

/-- One member up to what follows its value. -/
theorem members_member {key text : Text} {found : Value} (h : Reads text found) {fuel : ℕ}
    (hfuel : text.length ≤ fuel) {rest : Text} (hends : Ends rest) :
    members (fuel + 1) (quote key ++ 0x3A :: (text ++ rest)) =
      if rest.head? = some 0x7D then some ([(key, found)], rest.tail)
      else (members fuel rest.tail).map fun (others, rest) => ((key, found) :: others, rest) := by
  have htext : quote key ++ 0x3A :: (text ++ rest) =
      0x22 :: (quoteBody key ++ 0x22 :: 0x3A :: (text ++ rest)) := by simp [quote]
  have hskip : skipSpace rest = rest := by
    cases rest with
    | nil => rfl
    | cons u rest =>
      refine skipSpace_cons ?_ rest
      rcases hends with h | h
      · cases h
        rfl
      · cases h
        rfl
  rw [htext, members, skipSpace_cons rfl]
  dsimp only
  rw [if_neg (by decide), stringBody_quoteBody]
  dsimp only [Option.bind_eq_bind, Option.bind_some]
  rw [skipSpace_cons rfl, if_neg (by simp), List.tail_cons, h fuel rest hfuel hends]
  dsimp only [Option.bind_some]
  rw [hskip]
  split
  · rfl
  · next hmore => rw [if_pos (hends.resolve_right hmore)]

/-- The members of an object between its braces. -/
def membersText (members : List (Text × Text)) : Text :=
  [0x2C].intercalate (members.map fun member => quote member.1 ++ 0x3A :: member.2)

/-- A written member is read as a member. -/
def ReadsMember (written : Text × Text) (found : Text × Value) : Prop :=
  written.1 = found.1 ∧ Reads written.2 found.2

theorem members_membersText {written : List (Text × Text)} {found : List (Text × Value)}
    (h : List.Forall₂ ReadsMember written found) (hsome : written ≠ []) {fuel : ℕ}
    (hfuel : (membersText written).length ≤ fuel) (rest : Text) :
    members fuel (membersText written ++ 0x7D :: rest) = some (found, rest) := by
  induction h generalizing fuel with
  | nil => exact absurd rfl hsome
  | @cons member member' written found hmember hothers ih =>
    obtain ⟨key, text⟩ := member
    obtain ⟨key', value'⟩ := member'
    obtain ⟨rfl, hreads⟩ := hmember
    cases hothers with
    | nil =>
      have hbody : membersText [(key, text)] = quote key ++ 0x3A :: text := List.intercalate_singleton
      obtain _ | fuel := fuel
      · exact absurd hfuel (by simp [hbody])
      · have hlength : text.length ≤ fuel := by
          rw [hbody, List.length_append, List.length_cons] at hfuel
          omega
        rw [hbody, List.append_assoc, List.cons_append,
          members_member hreads hlength (.inr rfl), if_pos List.head?_cons]
        rfl
    | @cons second second' others others' hsecond hothers =>
      have hbody : membersText ((key, text) :: second :: others) =
          quote key ++ 0x3A :: (text ++ 0x2C :: membersText (second :: others)) := by
        unfold membersText
        rw [List.map_cons, List.map_cons, List.intercalate_cons_cons]
        simp
      obtain _ | fuel := fuel
      · exact absurd hfuel (by simp [hbody])
      · have hlength : text.length ≤ fuel ∧ (membersText (second :: others)).length ≤ fuel := by
          rw [hbody, List.length_append, List.length_cons, List.length_append,
            List.length_cons] at hfuel
          omega
        have hrest := ih (List.cons_ne_nil _ _) hlength.2
        rw [hbody, List.append_assoc, List.cons_append, List.append_assoc, List.cons_append,
          members_member hreads hlength.1 (.inl rfl), if_neg (by simp), List.tail_cons, hrest]
        rfl

/-- An object is read with the members that were written. -/
theorem parse_stringifyObject {written : List (Text × Text)} {found : List (Text × Value)}
    (h : List.Forall₂ ReadsMember written found) (hsome : written ≠ []) :
    parse (stringifyObject written) = some (.object found) := by
  have htext : stringifyObject written = 0x7B :: (membersText written ++ [0x7D]) := rfl
  have hquote : ∃ text, membersText written ++ [0x7D] = 0x22 :: text := by
    cases written with
    | nil => exact absurd rfl hsome
    | cons member written =>
      cases written with
      | nil => exact ⟨_, rfl⟩
      | cons second written => exact ⟨_, rfl⟩
  have hlength : (membersText written).length ≤ (stringifyObject written).length := by
    rw [htext, List.length_cons, List.length_append]
    omega
  have hmembers := members_membersText h hsome hlength []
  obtain ⟨text, hfirst⟩ := hquote
  have hvalue : value ((stringifyObject written).length + 1) (0x7B :: (membersText written ++ [0x7D])) =
      some (.object found, []) := by
    rw [value, skipSpace_cons rfl]
    dsimp only
    rw [if_pos rfl, hmembers, hfirst, skipSpace_cons rfl, if_neg (by simp)]
    rfl
  unfold parse
  rw [← htext] at hvalue
  rw [hvalue]
  rfl

/-! ## Written texts are well formed -/

theorem plain_of_lt {u : UInt16} (h : u.toNat < 0x80) : Plain u := .inl (h.trans (by decide))

theorem wellFormed_unicodeEscape (u : UInt16) : WellFormed (unicodeEscape u) := by
  have hhex : ∀ n < 16, (hexUnit n).toNat < 0x80 := by decide
  have hlt : u.toNat < 65536 := u.toNat_lt
  refine wellFormed_of_plain fun v hv => plain_of_lt ?_
  simp only [unicodeEscape, List.mem_cons, List.not_mem_nil, or_false] at hv
  rcases hv with rfl | rfl | rfl | rfl | rfl | rfl
  · decide
  · decide
  · exact hhex _ (by omega)
  · exact hhex _ (by omega)
  · exact hhex _ (by omega)
  · exact hhex _ (by omega)

theorem wellFormed_escape {u : UInt16} (h : Plain u) : WellFormed (escape u) := by
  have hpair : ∀ {v : UInt16}, Plain v → WellFormed [0x5C, v] := by
    intro v hv
    refine wellFormed_of_plain fun w hw => ?_
    simp only [List.mem_cons, List.not_mem_nil, or_false] at hw
    rcases hw with rfl | rfl
    · exact plain_of_lt (by decide)
    · exact hv
  unfold escape
  split
  · exact hpair h
  · split
    · exact hpair (plain_of_lt (by decide))
    · split
      · exact hpair (plain_of_lt (by decide))
      · split
        · exact hpair (plain_of_lt (by decide))
        · split
          · exact hpair (plain_of_lt (by decide))
          · split
            · exact hpair (plain_of_lt (by decide))
            · split
              · exact wellFormed_unicodeEscape u
              · exact wellFormed_unit h

/-- A surrogate without its pair is escaped. -/
theorem wellFormed_quoteBody (text : Text) : WellFormed (quoteBody text) := by
  induction text using quoteBody.induct with
  | case1 => exact ⟨[], rfl⟩
  | case2 u hplain =>
    rw [quoteBody, if_pos hplain]
    exact wellFormed_escape hplain
  | case3 u hplain =>
    rw [quoteBody, if_neg hplain]
    exact wellFormed_unicodeEscape u
  | case4 u v text hplain ih =>
    rw [quoteBody, if_pos hplain]
    exact (wellFormed_escape hplain).append ih
  | case5 u v text hplain hpair ih =>
    rw [quoteBody, if_neg hplain, if_pos hpair]
    exact (wellFormed_pair hpair).append ih
  | case6 u v text hplain hpair ih =>
    rw [quoteBody, if_neg hplain, if_neg hpair]
    exact (wellFormed_unicodeEscape u).append ih

theorem wellFormed_mark {u : UInt16} (h : u.toNat < 0x80) {text : Text} (htext : WellFormed text) :
    WellFormed (u :: text) := (wellFormed_unit (plain_of_lt h)).append htext

theorem wellFormed_quote (text : Text) : WellFormed (quote text) :=
  wellFormed_mark (by decide)
    ((wellFormed_quoteBody text).append (wellFormed_mark (by decide) ⟨[], rfl⟩))

theorem wellFormed_membersText {written : List (Text × Text)}
    (h : ∀ member ∈ written, WellFormed member.2) : WellFormed (membersText written) := by
  induction written with
  | nil => exact ⟨[], rfl⟩
  | cons member written ih =>
    obtain ⟨hmember, hwritten⟩ := List.forall_mem_cons.mp h
    have hfirst : WellFormed (quote member.1 ++ 0x3A :: member.2) :=
      (wellFormed_quote member.1).append (wellFormed_mark (by decide) hmember)
    cases written with
    | nil =>
      unfold membersText
      rw [List.map_singleton, List.intercalate_singleton]
      exact hfirst
    | cons second written =>
      unfold membersText
      rw [List.map_cons, List.map_cons, List.intercalate_cons_cons]
      exact (hfirst.append (wellFormed_mark (by decide) ⟨[], rfl⟩)).append (ih hwritten)

theorem wellFormed_stringifyObject {written : List (Text × Text)}
    (h : ∀ member ∈ written, WellFormed member.2) : WellFormed (stringifyObject written) :=
  wellFormed_mark (by decide)
    ((wellFormed_membersText h).append (wellFormed_mark (by decide) ⟨[], rfl⟩))

end Doctmcp.Lib.Json

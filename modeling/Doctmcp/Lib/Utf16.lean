import Mathlib.Data.List.Basic
import Mathlib.Data.Nat.Notation
import Doctmcp.Lib.Utf8

/-! # Code units of ECMAScript strings

A string is a list of 16-bit code units; a code point outside the basic plane takes a pair of
surrogates. A surrogate without its pair stands for no code point. -/

namespace Doctmcp.Lib.Utf16
set_option autoImplicit false

abbrev Text := List UInt16

def unitsOf (c : Char) : Text :=
  if c.toNat < 0x10000 then [UInt16.ofNat c.toNat]
  else
    [UInt16.ofNat (0xD800 + (c.toNat - 0x10000) / 0x400),
      UInt16.ofNat (0xDC00 + (c.toNat - 0x10000) % 0x400)]

def encode (chars : List Char) : Text := chars.flatMap unitsOf

/-- A code unit that is no surrogate. -/
def Plain (u : UInt16) : Prop := u.toNat < 0xD800 ∨ 0xE000 ≤ u.toNat

instance (u : UInt16) : Decidable (Plain u) := inferInstanceAs (Decidable (_ ∨ _))

/-- A high and a low surrogate. -/
def Pair (u v : UInt16) : Prop :=
  (0xD800 ≤ u.toNat ∧ u.toNat < 0xDC00) ∧ 0xDC00 ≤ v.toNat ∧ v.toNat < 0xE000

instance (u v : UInt16) : Decidable (Pair u v) := inferInstanceAs (Decidable (_ ∧ _))

/-- The code points; `none` for a surrogate without its pair. -/
def decode : Text → List (Option Char)
  | [] => []
  | [u] => [if Plain u then some (Char.ofNat u.toNat) else none]
  | u :: v :: us =>
    if Plain u then some (Char.ofNat u.toNat) :: decode (v :: us)
    else if Pair u v then
      some (Char.ofNat (0x10000 + (u.toNat - 0xD800) * 0x400 + (v.toNat - 0xDC00))) :: decode us
    else none :: decode (v :: us)

/-- `text.includes(query)`. -/
def includes (text query : Text) : Bool := query <:+: text

/-- `Buffer.from(text, "utf8")`: a surrogate without its pair becomes U+FFFD. -/
def utf8Bytes (text : Text) : List UInt8 :=
  Utf8.encodeChars ((decode text).map fun c => c.getD (Char.ofNat 0xFFFD))

theorem toNat_ofNat {n : ℕ} (h : n < 0x10000) : (UInt16.ofNat n).toNat = n := by
  rw [UInt16.toNat_ofNat']
  exact Nat.mod_eq_of_lt h

theorem decode_unit {u : UInt16} (text : Text) (h : Plain u) :
    decode (u :: text) = some (Char.ofNat u.toNat) :: decode text := by
  cases text with
  | nil => simp only [decode, if_pos h]
  | cons v text => rw [decode, if_pos h]

theorem decode_pair {u v : UInt16} (text : Text) (h : Pair u v) :
    decode (u :: v :: text) =
      some (Char.ofNat (0x10000 + (u.toNat - 0xD800) * 0x400 + (v.toNat - 0xDC00))) ::
        decode text := by
  have hplain : ¬ Plain u := by
    unfold Plain
    unfold Pair at h
    omega
  rw [decode, if_neg hplain, if_pos h]

/-- The units of a character: one, or a pair. -/
theorem unitsOf_cases (c : Char) :
    (∃ u, unitsOf c = [u] ∧ Plain u ∧ u.toNat = c.toNat) ∨
      ∃ u v, unitsOf c = [u, v] ∧ Pair u v ∧
        0x10000 + (u.toNat - 0xD800) * 0x400 + (v.toNat - 0xDC00) = c.toNat := by
  have hvalid := Utf8.toNat_valid c
  unfold unitsOf
  split
  · next hsmall =>
    have hunit := toNat_ofNat hsmall
    refine .inl ⟨_, rfl, ?_, hunit⟩
    unfold Plain
    omega
  · next hlarge =>
    have hhigh := toNat_ofNat (show 0xD800 + (c.toNat - 0x10000) / 0x400 < 0x10000 by omega)
    have hlow := toNat_ofNat (show 0xDC00 + (c.toNat - 0x10000) % 0x400 < 0x10000 by omega)
    refine .inr ⟨_, _, rfl, ?_, ?_⟩
    · unfold Pair
      omega
    · omega

theorem decode_encode (chars : List Char) : decode (encode chars) = chars.map some := by
  induction chars with
  | nil => rfl
  | cons c chars ih =>
    have hcons : encode (c :: chars) = unitsOf c ++ encode chars := List.flatMap_cons
    rw [hcons, List.map_cons, ← ih]
    rcases unitsOf_cases c with ⟨u, hunits, hplain, hvalue⟩ | ⟨u, v, hunits, hpair, hvalue⟩
    · rw [hunits, List.singleton_append, decode_unit _ hplain, hvalue, Char.ofNat_toNat]
    · rw [hunits, List.cons_append, List.singleton_append, decode_pair _ hpair, hvalue,
        Char.ofNat_toNat]

theorem utf8Bytes_encode (chars : List Char) : utf8Bytes (encode chars) = Utf8.encodeChars chars := by
  unfold utf8Bytes
  rw [decode_encode, List.map_map]
  exact congrArg _ (List.map_id _)

/-! ## Well-formed texts -/

/-- Every surrogate has its pair. -/
def WellFormed (text : Text) : Prop := ∃ chars, text = encode chars

theorem encode_append (a b : List Char) : encode (a ++ b) = encode a ++ encode b :=
  List.flatMap_append

theorem encode_singleton (c : Char) : encode [c] = unitsOf c := List.append_nil _

theorem WellFormed.append {a b : Text} (ha : WellFormed a) (hb : WellFormed b) :
    WellFormed (a ++ b) := by
  obtain ⟨chars, rfl⟩ := ha
  obtain ⟨others, rfl⟩ := hb
  exact ⟨chars ++ others, (encode_append chars others).symm⟩

theorem wellFormed_unit {u : UInt16} (h : Plain u) : WellFormed [u] := by
  refine ⟨[Char.ofNat u.toNat], ?_⟩
  have hlt : u.toNat < 0x10000 := u.toNat_lt
  have hvalue : (Char.ofNat u.toNat).toNat = u.toNat := by
    refine Utf8.toNat_ofNat_valid ?_
    unfold Plain at h
    omega
  rw [encode_singleton]
  unfold unitsOf
  rw [hvalue, if_pos hlt, UInt16.ofNat_toNat]

theorem wellFormed_pair {u v : UInt16} (h : Pair u v) : WellFormed [u, v] := by
  obtain ⟨⟨hhigh, hhigh'⟩, hlow, hlow'⟩ := h
  obtain ⟨n, hn⟩ : ∃ n, n = 0x10000 + (u.toNat - 0xD800) * 0x400 + (v.toNat - 0xDC00) := ⟨_, rfl⟩
  have hvalue : (Char.ofNat n).toNat = n := Utf8.toNat_ofNat_valid (by omega)
  have hfirst : 0xD800 + (n - 0x10000) / 0x400 = u.toNat := by omega
  have hsecond : 0xDC00 + (n - 0x10000) % 0x400 = v.toNat := by omega
  refine ⟨[Char.ofNat n], ?_⟩
  rw [encode_singleton]
  unfold unitsOf
  rw [hvalue, if_neg (by omega), hfirst, hsecond, UInt16.ofNat_toNat, UInt16.ofNat_toNat]

theorem wellFormed_of_plain {text : Text} (h : ∀ u ∈ text, Plain u) : WellFormed text := by
  induction text with
  | nil => exact ⟨[], rfl⟩
  | cons u text ih =>
    obtain ⟨hu, htext⟩ := List.forall_mem_cons.mp h
    exact (wellFormed_unit hu).append (ih htext)

/-- A well-formed text is read back from its bytes. -/
theorem encode_lossy_utf8Bytes {text : Text} (h : WellFormed text) :
    encode (Utf8.lossy (utf8Bytes text)).toList = text := by
  obtain ⟨chars, rfl⟩ := h
  rw [utf8Bytes_encode, ← Utf8.encode_ofList, Utf8.lossy_encode, String.toList_ofList]

/-! ## Points -/

/-- The characters that `utf8Bytes` encodes. -/
def points (text : Text) : List Char := (decode text).map fun c => c.getD (Char.ofNat 0xFFFD)

theorem utf8Bytes_eq_iff {text other : Text} :
    utf8Bytes text = utf8Bytes other ↔ points text = points other := by
  constructor
  · intro h
    have hchars : Utf8.chars (utf8Bytes text) = Utf8.chars (utf8Bytes other) := congrArg _ h
    rwa [utf8Bytes, utf8Bytes, Utf8.chars_encodeChars, Utf8.chars_encodeChars] at hchars
  · exact fun h => congrArg Utf8.encodeChars h

/-- A unit that is no surrogate separates what is before it from what is after it. -/
theorem decode_append (front : Text) {u : UInt16} (hu : Plain u) (back : Text) :
    decode (front ++ u :: back) = decode front ++ decode (u :: back) := by
  induction front using decode.induct with
  | case1 => rfl
  | case2 v =>
    by_cases hv : Plain v
    · rw [List.singleton_append, decode_unit _ hv, decode_unit _ hv, decode, List.singleton_append]
    · have hpair : ¬ Pair v u := by
        unfold Pair
        unfold Plain at hu
        omega
      have hlone : decode [v] = [none] := by rw [decode, if_neg hv]
      have hfront : decode (v :: u :: back) = none :: decode (u :: back) := by
        rw [decode, if_neg hv, if_neg hpair]
      rw [List.singleton_append, hfront, hlone, List.singleton_append]
  | case3 v w front hv ih =>
    rw [List.cons_append, decode_unit _ hv, decode_unit _ hv, ih, List.cons_append]
  | case4 v w front hv hpair ih =>
    rw [List.cons_append, List.cons_append, decode_pair _ hpair, decode_pair _ hpair, ih,
      List.cons_append]
  | case5 v w front hv hpair ih =>
    rw [List.cons_append, List.cons_append, decode, if_neg hv, if_neg hpair, decode, if_neg hv,
      if_neg hpair, ← List.cons_append, ih, List.cons_append]

theorem points_append (front : Text) {u : UInt16} (hu : Plain u) (back : Text) :
    points (front ++ u :: back) = points front ++ Char.ofNat u.toNat :: points back := by
  rw [points, decode_append front hu, decode_unit _ hu, List.map_append, List.map_cons]
  rfl

theorem unitsOf_injective {a b : Char} (h : unitsOf a = unitsOf b) : a = b := by
  have hdecode := decode_encode [a]
  have hsame : encode [a] = encode [b] := by
    show unitsOf a ++ [] = unitsOf b ++ []
    rw [h]
  rw [hsame, decode_encode] at hdecode
  cases hdecode
  rfl

/-- The characters as words of code units. -/
def code : Code Char UInt16 where
  word := unitsOf
  starts u := ¬ (0xDC00 ≤ u.toNat ∧ u.toNat < 0xE000)
  shape c := by
    rcases unitsOf_cases c with ⟨u, hunits, hplain, _⟩ | ⟨u, v, hunits, hpair, _⟩
    · refine ⟨u, [], hunits, ?_, nofun⟩
      unfold Plain at hplain
      omega
    · refine ⟨u, [v], hunits, ?_, ?_⟩
      · unfold Pair at hpair
        omega
      · intro w hw
        rw [List.mem_singleton.mp hw]
        exact not_not_intro hpair.2
  free a b h := by
    refine unitsOf_injective (h.eq_of_length ?_)
    rcases unitsOf_cases a with ⟨u, hunits, hplain, _⟩ | ⟨u, v, hunits, hpair, _⟩
    · rcases unitsOf_cases b with ⟨x, hunits', _, _⟩ | ⟨x, y, hunits', hpair', _⟩
      · rw [hunits, hunits']
        rfl
      · -- A unit that is no surrogate does not begin a pair.
        rw [hunits, hunits'] at h
        obtain ⟨rfl, _⟩ := List.cons_prefix_cons.mp h
        unfold Plain at hplain
        unfold Pair at hpair'
        omega
    · rcases unitsOf_cases b with ⟨x, hunits', _, _⟩ | ⟨x, y, hunits', _, _⟩
      · have hle := h.length_le
        rw [hunits, hunits'] at hle
        exact absurd hle (by simp)
      · rw [hunits, hunits']
        rfl

end Doctmcp.Lib.Utf16

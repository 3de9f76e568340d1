import Mathlib.Algebra.GroupWithZero.Nat
import Mathlib.Data.List.Basic
import Mathlib.Data.Nat.Notation
import Doctmcp.Lib.Occurrences

/-! # Decoding UTF-8

`feed` is the byte-wise decoder of the Encoding standard: a state of the code point read so far,
the number of continuation bytes still needed and the range of the next one. It emits `some c`
for each code point and `none` for each ill-formed part, so that a caller may replace the
ill-formed parts (`lossy`) or refuse them (`fatal`). -/

namespace Doctmcp.Lib.Utf8
set_option autoImplicit false

/-- The decoder between two bytes. -/
structure Decoder where
  codePoint : ℕ
  needed : ℕ
  lower : ℕ
  upper : ℕ
  deriving DecidableEq, Repr

/-- Between two code points. -/
def idle : Decoder := ⟨0, 0, 0x80, 0xBF⟩

/-- The first byte of a code point. The ranges of `E0`, `ED`, `F0` and `F4` exclude overlong
forms, surrogates and code points above `10FFFF`. -/
def first (b : UInt8) : Decoder × List (Option Char) :=
  let n := b.toNat
  if n ≤ 0x7F then (idle, [some (Char.ofNat n)])
  else if 0xC2 ≤ n ∧ n ≤ 0xDF then (⟨n - 0xC0, 1, 0x80, 0xBF⟩, [])
  else if 0xE0 ≤ n ∧ n ≤ 0xEF then
    (⟨n - 0xE0, 2, if n = 0xE0 then 0xA0 else 0x80, if n = 0xED then 0x9F else 0xBF⟩, [])
  else if 0xF0 ≤ n ∧ n ≤ 0xF4 then
    (⟨n - 0xF0, 3, if n = 0xF0 then 0x90 else 0x80, if n = 0xF4 then 0x8F else 0xBF⟩, [])
  else (idle, [none])

/-- One byte. A byte outside the range ends an ill-formed part and is read again as a first
byte. -/
def next (d : Decoder) (b : UInt8) : Decoder × List (Option Char) :=
  if d.needed = 0 then first b
  else if d.lower ≤ b.toNat ∧ b.toNat ≤ d.upper then
    let codePoint := d.codePoint * 0x40 + (b.toNat - 0x80)
    if d.needed = 1 then (idle, [some (Char.ofNat codePoint)])
    else (⟨codePoint, d.needed - 1, 0x80, 0xBF⟩, [])
  else ((first b).1, none :: (first b).2)

/-- The bytes of one chunk. -/
def feed (d : Decoder) : List UInt8 → Decoder × List (Option Char)
  | [] => (d, [])
  | b :: bs => ((feed (next d b).1 bs).1, (next d b).2 ++ (feed (next d b).1 bs).2)

/-- The end of the input: a code point that lacks bytes is ill-formed. -/
def finish (d : Decoder) : List (Option Char) := if d.needed = 0 then [] else [none]

def decode (bytes : List UInt8) : List (Option Char) :=
  (feed idle bytes).2 ++ finish (feed idle bytes).1

/-- Ill-formed parts become U+FFFD. -/
def lossy (bytes : List UInt8) : String :=
  String.ofList ((decode bytes).map fun c => c.getD (Char.ofNat 0xFFFD))

/-- Ill-formed parts are refused. -/
def fatal (bytes : List UInt8) : Option String := ((decode bytes).mapM id).map String.ofList

def encode (text : String) : List UInt8 := text.toList.flatMap String.utf8EncodeChar

theorem feed_append (d : Decoder) (bs cs : List UInt8) :
    feed d (bs ++ cs) =
      ((feed (feed d bs).1 cs).1, (feed d bs).2 ++ (feed (feed d bs).1 cs).2) := by
  induction bs generalizing d with
  | nil => rfl
  | cons b bs ih => simp only [List.cons_append, feed, ih, List.append_assoc]

/-! ## Decoding what was encoded -/

theorem first_two {b : UInt8} (h : 0xC2 ≤ b.toNat ∧ b.toNat ≤ 0xDF) :
    first b = (⟨b.toNat - 0xC0, 1, 0x80, 0xBF⟩, []) := by
  unfold first
  dsimp only
  rw [if_neg (by omega), if_pos h]

theorem first_three {b : UInt8} (h : 0xE0 ≤ b.toNat ∧ b.toNat ≤ 0xEF) :
    first b = (⟨b.toNat - 0xE0, 2, if b.toNat = 0xE0 then 0xA0 else 0x80,
      if b.toNat = 0xED then 0x9F else 0xBF⟩, []) := by
  unfold first
  dsimp only
  rw [if_neg (by omega), if_neg (by omega), if_pos h]

theorem first_four {b : UInt8} (h : 0xF0 ≤ b.toNat ∧ b.toNat ≤ 0xF4) :
    first b = (⟨b.toNat - 0xF0, 3, if b.toNat = 0xF0 then 0x90 else 0x80,
      if b.toNat = 0xF4 then 0x8F else 0xBF⟩, []) := by
  unfold first
  dsimp only
  rw [if_neg (by omega), if_neg (by omega), if_neg (by omega), if_pos h]

theorem next_idle (b : UInt8) : next idle b = first b := if_pos rfl

theorem next_last {d : Decoder} {b : UInt8} (hneeded : d.needed = 1)
    (hrange : d.lower ≤ b.toNat ∧ b.toNat ≤ d.upper) :
    next d b = (idle, [some (Char.ofNat (d.codePoint * 0x40 + (b.toNat - 0x80)))]) := by
  unfold next
  dsimp only
  rw [if_neg (by omega), if_pos hrange, if_pos hneeded]

theorem next_more {d : Decoder} {b : UInt8} (hneeded : 1 < d.needed)
    (hrange : d.lower ≤ b.toNat ∧ b.toNat ≤ d.upper) :
    next d b =
      (⟨d.codePoint * 0x40 + (b.toNat - 0x80), d.needed - 1, 0x80, 0xBF⟩, []) := by
  unfold next
  dsimp only
  rw [if_neg (by omega), if_pos hrange, if_neg (by omega)]

theorem toNat_ofNat {n : ℕ} (h : n < 256) : (UInt8.ofNat n).toNat = n := by
  rw [UInt8.toNat_ofNat']
  exact Nat.mod_eq_of_lt h

/-- A character is no surrogate and not above `10FFFF`. -/
theorem toNat_valid (c : Char) : c.toNat < 0xD800 ∨ 0xDFFF < c.toNat ∧ c.toNat < 0x110000 :=
  c.valid

theorem ofNat_toNat' {c : Char} {n : ℕ} (h : n = c.toNat) : Char.ofNat n = c := by
  rw [h]
  exact Char.ofNat_toNat c

theorem toNat_ofNat_valid {n : ℕ} (h : n < 0xD800 ∨ 0xDFFF < n ∧ n < 0x110000) :
    (Char.ofNat n).toNat = n := by
  unfold Char.ofNat
  rw [dif_pos h]
  rfl

/-- The bytes of a code point. -/
def encodePoint (n : ℕ) : List UInt8 :=
  if n ≤ 0x7F then [UInt8.ofNat n]
  else if n ≤ 0x7FF then [UInt8.ofNat (n / 64 % 32 + 192), UInt8.ofNat (n % 64 + 128)]
  else if n ≤ 0xFFFF then
    [UInt8.ofNat (n / 4096 % 16 + 224), UInt8.ofNat (n / 64 % 64 + 128), UInt8.ofNat (n % 64 + 128)]
  else
    [UInt8.ofNat (n / 262144 % 8 + 240), UInt8.ofNat (n / 4096 % 64 + 128),
      UInt8.ofNat (n / 64 % 64 + 128), UInt8.ofNat (n % 64 + 128)]

theorem encodeChar_eq (c : Char) : String.utf8EncodeChar c = encodePoint c.toNat := rfl

theorem feed_two {a b : UInt8} (ha : 0xC2 ≤ a.toNat ∧ a.toNat ≤ 0xDF)
    (hb : 0x80 ≤ b.toNat ∧ b.toNat ≤ 0xBF) :
    feed idle [a, b] =
      (idle, [some (Char.ofNat ((a.toNat - 0xC0) * 0x40 + (b.toNat - 0x80)))]) := by
  have hlast := next_last (d := ⟨a.toNat - 0xC0, 1, 0x80, 0xBF⟩) rfl hb
  simp only [feed, next_idle, first_two ha, hlast, List.nil_append, List.append_nil]

theorem feed_three {a b c : UInt8} (ha : 0xE0 ≤ a.toNat ∧ a.toNat ≤ 0xEF)
    (hb : (if a.toNat = 0xE0 then 0xA0 else 0x80) ≤ b.toNat ∧
      b.toNat ≤ if a.toNat = 0xED then 0x9F else 0xBF)
    (hc : 0x80 ≤ c.toNat ∧ c.toNat ≤ 0xBF) :
    feed idle [a, b, c] =
      (idle, [some (Char.ofNat
        (((a.toNat - 0xE0) * 0x40 + (b.toNat - 0x80)) * 0x40 + (c.toNat - 0x80)))]) := by
  have hmore := next_more (d := ⟨a.toNat - 0xE0, 2, if a.toNat = 0xE0 then 0xA0 else 0x80,
    if a.toNat = 0xED then 0x9F else 0xBF⟩) (Nat.lt_succ_self 1) hb
  have hlast := next_last
    (d := ⟨(a.toNat - 0xE0) * 0x40 + (b.toNat - 0x80), 1, 0x80, 0xBF⟩) rfl hc
  simp only [feed, next_idle, first_three ha, hmore, Nat.add_one_sub_one, hlast, List.nil_append,
    List.append_nil]

theorem feed_four {a b c e : UInt8} (ha : 0xF0 ≤ a.toNat ∧ a.toNat ≤ 0xF4)
    (hb : (if a.toNat = 0xF0 then 0x90 else 0x80) ≤ b.toNat ∧
      b.toNat ≤ if a.toNat = 0xF4 then 0x8F else 0xBF)
    (hc : 0x80 ≤ c.toNat ∧ c.toNat ≤ 0xBF) (he : 0x80 ≤ e.toNat ∧ e.toNat ≤ 0xBF) :
    feed idle [a, b, c, e] =
      (idle, [some (Char.ofNat
        ((((a.toNat - 0xF0) * 0x40 + (b.toNat - 0x80)) * 0x40 + (c.toNat - 0x80)) * 0x40 +
          (e.toNat - 0x80)))]) := by
  have hmore := next_more (d := ⟨a.toNat - 0xF0, 3, if a.toNat = 0xF0 then 0x90 else 0x80,
    if a.toNat = 0xF4 then 0x8F else 0xBF⟩) (by decide : 1 < 3) hb
  have hmore' := next_more
    (d := ⟨(a.toNat - 0xF0) * 0x40 + (b.toNat - 0x80), 2, 0x80, 0xBF⟩) (Nat.lt_succ_self 1) hc
  have hlast := next_last
    (d := ⟨((a.toNat - 0xF0) * 0x40 + (b.toNat - 0x80)) * 0x40 + (c.toNat - 0x80), 1, 0x80, 0xBF⟩)
    rfl he
  simp only [feed, next_idle, first_four ha, hmore, hmore', Nat.add_one_sub_one, hlast,
    List.nil_append, List.append_nil]

theorem feed_encodeChar (c : Char) : feed idle (String.utf8EncodeChar c) = (idle, [some c]) := by
  have hvalid := toNat_valid c
  rw [encodeChar_eq]
  unfold encodePoint
  generalize hn : c.toNat = n at hvalid ⊢
  split
  · next hone =>
    have h0 := toNat_ofNat (show n < 256 by omega)
    unfold feed feed
    rw [next_idle]
    unfold first
    dsimp only
    rw [h0, if_pos hone, ofNat_toNat' hn.symm]
    rfl
  · split
    · next hone htwo =>
      have h0 := toNat_ofNat (show n / 64 % 32 + 192 < 256 by omega)
      have h1 := toNat_ofNat (show n % 64 + 128 < 256 by omega)
      rw [feed_two (by omega) (by omega), h0, h1, @ofNat_toNat' c _ (by omega)]
    · split
      · next hone htwo hthree =>
        have h0 := toNat_ofNat (show n / 4096 % 16 + 224 < 256 by omega)
        have h1 := toNat_ofNat (show n / 64 % 64 + 128 < 256 by omega)
        have h2 := toNat_ofNat (show n % 64 + 128 < 256 by omega)
        have hrange : (if n / 4096 % 16 + 224 = 0xE0 then 0xA0 else 0x80) ≤ n / 64 % 64 + 128 ∧
            n / 64 % 64 + 128 ≤ if n / 4096 % 16 + 224 = 0xED then 0x9F else 0xBF := by
          split <;> split <;> omega
        rw [feed_three (by omega) (by rw [h0, h1]; exact hrange) (by omega), h0, h1, h2,
          @ofNat_toNat' c _ (by omega)]
      · next hone htwo hthree =>
        have h0 := toNat_ofNat (show n / 262144 % 8 + 240 < 256 by omega)
        have h1 := toNat_ofNat (show n / 4096 % 64 + 128 < 256 by omega)
        have h2 := toNat_ofNat (show n / 64 % 64 + 128 < 256 by omega)
        have h3 := toNat_ofNat (show n % 64 + 128 < 256 by omega)
        have hrange : (if n / 262144 % 8 + 240 = 0xF0 then 0x90 else 0x80) ≤ n / 4096 % 64 + 128 ∧
            n / 4096 % 64 + 128 ≤ if n / 262144 % 8 + 240 = 0xF4 then 0x8F else 0xBF := by
          split <;> split <;> omega
        rw [feed_four (by omega) (by rw [h0, h1]; exact hrange) (by omega) (by omega), h0, h1, h2, h3,
          @ofNat_toNat' c _ (by omega)]

theorem feed_encode (text : List Char) :
    feed idle (text.flatMap String.utf8EncodeChar) = (idle, text.map some) := by
  induction text with
  | nil => rfl
  | cons c text ih =>
    rw [List.flatMap_cons, feed_append, feed_encodeChar, ih]
    rfl

theorem decode_encode (text : String) : decode (encode text) = text.toList.map some := by
  unfold decode encode
  rw [feed_encode]
  exact List.append_nil _

/-- What was encoded is accepted and read back. -/
theorem fatal_encode (text : String) : fatal (encode text) = some text := by
  have hall : ∀ chars : List Char, (chars.map some).mapM id = some chars := by
    intro chars
    induction chars with
    | nil => rfl
    | cons c chars ih =>
      rw [List.map_cons, List.mapM_cons, ih]
      rfl
  unfold fatal
  rw [decode_encode, hall]
  exact congrArg some (String.ofList_toList)

theorem lossy_encode (text : String) : lossy (encode text) = text := by
  unfold lossy
  rw [decode_encode, List.map_map]
  have hid : ((fun c : Option Char => c.getD (Char.ofNat 0xFFFD)) ∘ some) = id := rfl
  rw [hid, List.map_id]
  exact String.ofList_toList

/-! ## Cutting an encoding -/

def encodeChars (chars : List Char) : List UInt8 := chars.flatMap String.utf8EncodeChar

theorem encodeChars_cons (c : Char) (chars : List Char) :
    encodeChars (c :: chars) = String.utf8EncodeChar c ++ encodeChars chars := List.flatMap_cons

theorem encodeChars_append (a b : List Char) :
    encodeChars (a ++ b) = encodeChars a ++ encodeChars b := List.flatMap_append

theorem encode_ofList (chars : List Char) : encode (String.ofList chars) = encodeChars chars := by
  unfold encode
  rw [String.toList_ofList]
  rfl

theorem fatal_encodeChars (chars : List Char) :
    fatal (encodeChars chars) = some (String.ofList chars) := by
  rw [← encode_ofList, fatal_encode]

/-- A byte that goes on with a code point. -/
def IsContinuation (b : UInt8) : Prop := 0x80 ≤ b.toNat ∧ b.toNat < 0xC0

/-- A first byte, and how many bytes it announces. -/
def Announces (a : UInt8) (size : ℕ) : Prop :=
  size = 1 ∧ a.toNat < 0x80 ∨ size = 2 ∧ 0xC0 ≤ a.toNat ∧ a.toNat < 0xE0 ∨
    size = 3 ∧ 0xE0 ≤ a.toNat ∧ a.toNat < 0xF0 ∨ size = 4 ∧ 0xF0 ≤ a.toNat ∧ a.toNat < 0xF8

theorem encodeChar_shape (c : Char) : ∃ a rest, String.utf8EncodeChar c = a :: rest ∧
    (∀ b ∈ rest, IsContinuation b) ∧ Announces a (rest.length + 1) := by
  have hcontinuation : ∀ n, IsContinuation (UInt8.ofNat (n % 64 + 128)) := by
    intro n
    have hbyte := toNat_ofNat (show n % 64 + 128 < 256 by omega)
    unfold IsContinuation
    omega
  rw [encodeChar_eq]
  unfold encodePoint
  generalize c.toNat = n
  split
  · next hone =>
    refine ⟨_, [], rfl, nofun, .inl ⟨rfl, ?_⟩⟩
    rw [toNat_ofNat (by omega)]
    omega
  · split
    · refine ⟨_, _, rfl, ?_, .inr (.inl ⟨rfl, ?_⟩)⟩
      · simp only [List.mem_cons, List.not_mem_nil, or_false, forall_eq]
        exact hcontinuation _
      · rw [toNat_ofNat (by omega)]
        omega
    · split
      · refine ⟨_, _, rfl, ?_, .inr (.inr (.inl ⟨rfl, ?_⟩))⟩
        · simp only [List.mem_cons, List.not_mem_nil, or_false, forall_eq_or_imp, forall_eq]
          exact ⟨hcontinuation _, hcontinuation _⟩
        · rw [toNat_ofNat (by omega)]
          omega
      · refine ⟨_, _, rfl, ?_, .inr (.inr (.inr ⟨rfl, ?_⟩))⟩
        · simp only [List.mem_cons, List.not_mem_nil, or_false, forall_eq_or_imp, forall_eq]
          exact ⟨hcontinuation _, hcontinuation _, hcontinuation _⟩
        · rw [toNat_ofNat (by omega)]
          omega

theorem encodeChar_length (c : Char) :
    0 < (String.utf8EncodeChar c).length ∧ (String.utf8EncodeChar c).length ≤ 4 := by
  obtain ⟨a, rest, hshape, _, hsize⟩ := encodeChar_shape c
  rw [hshape, List.length_cons]
  unfold Announces at hsize
  omega

/-- The longest front whose encoding has at most `n` bytes. -/
def fitting : ℕ → List Char → List Char
  | _, [] => []
  | n, c :: chars =>
    if (String.utf8EncodeChar c).length ≤ n then
      c :: fitting (n - (String.utf8EncodeChar c).length) chars
    else []

/-- The first bytes of an encoding: the characters that fit, and the front of the next one. -/
theorem take_encodeChars (n : ℕ) (chars : List Char) :
    ∃ rest cut, chars = fitting n chars ++ rest ∧
      (encodeChars chars).take n = encodeChars (fitting n chars) ++ cut ∧
      (rest = [] ∧ cut = [] ∨ ∃ c rest', rest = c :: rest' ∧ cut <+: String.utf8EncodeChar c ∧
        cut.length < (String.utf8EncodeChar c).length ∧
        (encodeChars (fitting n chars)).length + cut.length = n) := by
  induction chars generalizing n with
  | nil => exact ⟨[], [], rfl, by simp [encodeChars, fitting], .inl ⟨rfl, rfl⟩⟩
  | cons c chars ih =>
    unfold fitting
    split
    · next hfits =>
      obtain ⟨rest, cut, hsplit, htake, hrest⟩ := ih (n - (String.utf8EncodeChar c).length)
      refine ⟨rest, cut, by rw [List.cons_append, ← hsplit], ?_, ?_⟩
      · rw [encodeChars_cons, encodeChars_cons, List.take_append, List.take_of_length_le hfits,
          htake, List.append_assoc]
      · rcases hrest with hnone | ⟨d, rest', hd, hcut, hless, hlength⟩
        · exact .inl hnone
        · refine .inr ⟨d, rest', hd, hcut, hless, ?_⟩
          rw [encodeChars_cons, List.length_append]
          omega
    · next hlarge =>
      refine ⟨c :: chars, (String.utf8EncodeChar c).take n, rfl, ?_,
        .inr ⟨c, chars, rfl, List.take_prefix _ _, ?_, ?_⟩⟩
      · rw [encodeChars_cons, List.take_append_of_le_length (by omega)]
        rfl
      · rw [List.length_take]
        omega
      · rw [List.length_take]
        show 0 + _ = n
        omega

theorem announces_unique {a : UInt8} {n m : ℕ} (hn : Announces a n) (hm : Announces a m) : n = m := by
  unfold Announces at hn hm
  omega

theorem encodeChar_injective {a b : Char} (h : String.utf8EncodeChar a = String.utf8EncodeChar b) :
    a = b := by
  have hfeed := congrArg (feed idle) h
  rw [feed_encodeChar, feed_encodeChar] at hfeed
  cases hfeed
  rfl

/-- The characters as words of bytes. -/
def code : Code Char UInt8 where
  word := String.utf8EncodeChar
  starts b := ¬ IsContinuation b
  shape c := by
    obtain ⟨a, rest, hshape, hrest, hsize⟩ := encodeChar_shape c
    refine ⟨a, rest, hshape, ?_, fun b hb => not_not_intro (hrest b hb)⟩
    unfold IsContinuation
    unfold Announces at hsize
    omega
  free a b h := by
    obtain ⟨x, rest, ha, _, hsize⟩ := encodeChar_shape a
    obtain ⟨y, rest', hb, _, hsize'⟩ := encodeChar_shape b
    have hfront := h
    rw [ha, hb] at hfront
    obtain ⟨rfl, hrest⟩ := List.cons_prefix_cons.mp hfront
    have hlength := announces_unique hsize hsize'
    refine encodeChar_injective (h.eq_of_length ?_)
    rw [ha, hb, List.length_cons, List.length_cons, hlength]

/-! ## The length of a decoded text

A code point that has been read takes as many bytes in the encoding as it was read from, and U+FFFD
takes three, which is as many as an ill-formed part has at most. The bytes of the open code point are
the reserve that the accounting carries from byte to byte. -/

/-- The bytes that a decoded part takes in the encoding. -/
def size : Option Char → ℕ
  | some c => (String.utf8EncodeChar c).length
  | none => 3

def sizes (parts : List (Option Char)) : ℕ := (parts.map size).sum

theorem sizes_append (a b : List (Option Char)) : sizes (a ++ b) = sizes a + sizes b := by
  unfold sizes
  rw [List.map_append, List.sum_append]

/-- The decoder has read so many bytes of the open code point. -/
def Reading (d : Decoder) (read : ℕ) : Prop :=
  d = idle ∧ read = 0 ∨
    (d.needed = 1 ∧ read = 1 ∧ (2 ≤ d.codePoint ∧ d.codePoint < 32) ∧
      d.lower = 0x80 ∧ d.upper = 0xBF) ∨
    (d.needed = 2 ∧ read = 1 ∧ d.codePoint < 16 ∧
      d.lower = (if d.codePoint = 0 then 0xA0 else 0x80) ∧
      d.upper = if d.codePoint = 13 then 0x9F else 0xBF) ∨
    (d.needed = 1 ∧ read = 2 ∧ (32 ≤ d.codePoint ∧ d.codePoint < 1024) ∧
      (d.codePoint < 864 ∨ 896 ≤ d.codePoint) ∧ d.lower = 0x80 ∧ d.upper = 0xBF) ∨
    (d.needed = 3 ∧ read = 1 ∧ d.codePoint < 5 ∧
      d.lower = (if d.codePoint = 0 then 0x90 else 0x80) ∧
      d.upper = if d.codePoint = 4 then 0x8F else 0xBF) ∨
    (d.needed = 2 ∧ read = 2 ∧ (16 ≤ d.codePoint ∧ d.codePoint < 272) ∧
      d.lower = 0x80 ∧ d.upper = 0xBF) ∨
    (d.needed = 1 ∧ read = 3 ∧ (1024 ≤ d.codePoint ∧ d.codePoint < 17408) ∧
      d.lower = 0x80 ∧ d.upper = 0xBF)

theorem reading_idle : Reading idle 0 := .inl ⟨rfl, rfl⟩

theorem size_ofNat {n : ℕ} (h : n < 0xD800 ∨ 0xDFFF < n ∧ n < 0x110000) :
    size (some (Char.ofNat n)) = (encodePoint n).length := by
  show (String.utf8EncodeChar (Char.ofNat n)).length = _
  rw [encodeChar_eq, toNat_ofNat_valid h]

theorem length_encodePoint (n : ℕ) : (encodePoint n).length =
    if n ≤ 0x7F then 1 else if n ≤ 0x7FF then 2 else if n ≤ 0xFFFF then 3 else 4 := by
  unfold encodePoint
  split
  · rfl
  · split
    · rfl
    · split
      · rfl
      · rfl

theorem first_reading (b : UInt8) :
    ∃ read, Reading (first b).1 read ∧ 1 ≤ read + sizes (first b).2 := by
  by_cases hone : b.toNat ≤ 0x7F
  · refine ⟨0, ?_, ?_⟩
    · unfold first
      dsimp only
      rw [if_pos hone]
      exact reading_idle
    · unfold first
      dsimp only
      rw [if_pos hone]
      show 1 ≤ 0 + (size (some (Char.ofNat b.toNat)) + 0)
      rw [size_ofNat (by omega), length_encodePoint, if_pos hone]
  · by_cases htwo : 0xC2 ≤ b.toNat ∧ b.toNat ≤ 0xDF
    · rw [first_two htwo]
      refine ⟨1, .inr (.inl ⟨rfl, rfl, ⟨?_, ?_⟩, rfl, rfl⟩), Nat.le_refl _⟩
      · show 2 ≤ b.toNat - 0xC0
        omega
      · show b.toNat - 0xC0 < 32
        omega
    · by_cases hthree : 0xE0 ≤ b.toNat ∧ b.toNat ≤ 0xEF
      · rw [first_three hthree]
        refine ⟨1, .inr (.inr (.inl ⟨rfl, rfl, ?_, ?_, ?_⟩)), Nat.le_refl _⟩
        · show b.toNat - 0xE0 < 16
          omega
        · show (if b.toNat = 0xE0 then 0xA0 else 0x80) =
            if b.toNat - 0xE0 = 0 then 0xA0 else 0x80
          split <;> split <;> omega
        · show (if b.toNat = 0xED then 0x9F else 0xBF) =
            if b.toNat - 0xE0 = 13 then 0x9F else 0xBF
          split <;> split <;> omega
      · by_cases hfour : 0xF0 ≤ b.toNat ∧ b.toNat ≤ 0xF4
        · rw [first_four hfour]
          refine ⟨1, .inr (.inr (.inr (.inr (.inl ⟨rfl, rfl, ?_, ?_, ?_⟩)))), Nat.le_refl _⟩
          · show b.toNat - 0xF0 < 5
            omega
          · show (if b.toNat = 0xF0 then 0x90 else 0x80) =
              if b.toNat - 0xF0 = 0 then 0x90 else 0x80
            split <;> split <;> omega
          · show (if b.toNat = 0xF4 then 0x8F else 0xBF) =
              if b.toNat - 0xF0 = 4 then 0x8F else 0xBF
            split <;> split <;> omega
        · refine ⟨0, ?_, ?_⟩
          · unfold first
            dsimp only
            rw [if_neg hone, if_neg htwo, if_neg hthree, if_neg hfour]
            exact reading_idle
          · unfold first
            dsimp only
            rw [if_neg hone, if_neg htwo, if_neg hthree, if_neg hfour]
            show 1 ≤ 0 + (3 + 0)
            omega

/-- The range of the next byte lies within the continuation bytes. -/
theorem Reading.range {d : Decoder} {read : ℕ} (h : Reading d read) {b : UInt8}
    (hrange : d.lower ≤ b.toNat ∧ b.toNat ≤ d.upper) : IsContinuation b := by
  have hbounds : 0x80 ≤ d.lower ∧ d.upper ≤ 0xBF := by
    rcases h with ⟨rfl, _⟩ | h | h | h | h | h | h
    · exact ⟨Nat.le_refl _, Nat.le_refl _⟩
    · omega
    · obtain ⟨_, _, _, hlower, hupper⟩ := h
      rw [hlower, hupper]
      constructor
      · split <;> omega
      · split <;> omega
    · omega
    · obtain ⟨_, _, _, hlower, hupper⟩ := h
      rw [hlower, hupper]
      constructor
      · split <;> omega
      · split <;> omega
    · omega
    · omega
  unfold IsContinuation
  omega

/-- A byte that does not go on closes an ill-formed part, if one is open, and begins anew. -/
theorem Reading.next_other {d : Decoder} {read : ℕ} (h : Reading d read) {b : UInt8}
    (hrange : ¬ (d.lower ≤ b.toNat ∧ b.toNat ≤ d.upper) ∨ d = idle) :
    next d b = ((first b).1, finish d ++ (first b).2) := by
  by_cases hidle : d = idle
  · rw [hidle, next_idle]
    rfl
  · have hneeded : d.needed ≠ 0 := by
      rcases h with ⟨hsame, _⟩ | h | h | h | h | h | h
      · exact absurd hsame hidle
      all_goals
        rw [h.1]
        decide
    unfold next finish
    rw [if_neg hneeded, if_neg (hrange.resolve_right hidle), if_neg hneeded]
    rfl

theorem Reading.read_le {d : Decoder} {read : ℕ} (h : Reading d read) :
    read ≤ sizes (finish d) := by
  unfold finish
  rcases h with ⟨rfl, rfl⟩ | h | h | h | h | h | h
  · exact Nat.zero_le _
  all_goals
    rw [if_neg (by rw [h.1]; decide)]
    show read ≤ 3 + 0
    omega

theorem Reading.next {d : Decoder} {read : ℕ} (h : Reading d read) (b : UInt8) :
    ∃ read', Reading (next d b).1 read' ∧ read + 1 ≤ read' + sizes (Utf8.next d b).2 := by
  by_cases hother : ¬ (d.lower ≤ b.toNat ∧ b.toNat ≤ d.upper) ∨ d = idle
  · rw [h.next_other hother, sizes_append]
    obtain ⟨read', hreading, hsize⟩ := first_reading b
    have hreserve := h.read_le
    exact ⟨read', hreading, by omega⟩
  · push Not at hother
    obtain ⟨⟨hlower, hupper⟩, hbusy⟩ := hother
    have hemit : ∀ n k, (n < 0xD800 ∨ 0xDFFF < n ∧ n < 0x110000) → k ≤ (encodePoint n).length →
        k ≤ 0 + sizes [some (Char.ofNat n)] := by
      intro n k hvalid hk
      show k ≤ 0 + (size (some (Char.ofNat n)) + 0)
      rw [size_ofNat hvalid]
      omega
    rcases h with ⟨hidle, _⟩ | h | h | h | h | h | h
    · exact absurd hidle hbusy
    · -- The second of two bytes.
      rw [next_last h.1 ⟨hlower, hupper⟩]
      refine ⟨0, reading_idle, hemit _ _ (by omega) ?_⟩
      rw [length_encodePoint, if_neg (by omega)]
      split <;> omega
    · -- The second of three.
      obtain ⟨hneeded, hread, hpoint, hlow, hhigh⟩ := h
      rw [next_more (by omega) ⟨hlower, hupper⟩]
      refine ⟨2, .inr (.inr (.inr (.inl ⟨?_, rfl, ⟨?_, ?_⟩, ?_, rfl, rfl⟩))), by omega⟩
      · show d.needed - 1 = 1
        omega
      · show 32 ≤ d.codePoint * 0x40 + (b.toNat - 0x80)
        split at hlow <;> omega
      · show d.codePoint * 0x40 + (b.toNat - 0x80) < 1024
        split at hhigh <;> omega
      · show d.codePoint * 0x40 + (b.toNat - 0x80) < 864 ∨
          896 ≤ d.codePoint * 0x40 + (b.toNat - 0x80)
        split at hhigh <;> omega
    · -- The third of three.
      rw [next_last h.1 ⟨hlower, hupper⟩]
      refine ⟨0, reading_idle, hemit _ _ (by omega) ?_⟩
      rw [length_encodePoint, if_neg (by omega), if_neg (by omega)]
      split <;> omega
    · -- The second of four.
      obtain ⟨hneeded, hread, hpoint, hlow, hhigh⟩ := h
      rw [next_more (by omega) ⟨hlower, hupper⟩]
      refine ⟨2, .inr (.inr (.inr (.inr (.inr (.inl ⟨?_, rfl, ⟨?_, ?_⟩, rfl, rfl⟩))))), by omega⟩
      · show d.needed - 1 = 2
        omega
      · show 16 ≤ d.codePoint * 0x40 + (b.toNat - 0x80)
        split at hlow <;> omega
      · show d.codePoint * 0x40 + (b.toNat - 0x80) < 272
        split at hhigh <;> omega
    · -- The third of four.
      rw [next_more (by omega) ⟨hlower, hupper⟩]
      refine ⟨3, .inr (.inr (.inr (.inr (.inr (.inr ⟨?_, rfl, ⟨?_, ?_⟩, rfl, rfl⟩))))), by omega⟩
      · show d.needed - 1 = 1
        omega
      · show 1024 ≤ d.codePoint * 0x40 + (b.toNat - 0x80)
        omega
      · show d.codePoint * 0x40 + (b.toNat - 0x80) < 17408
        omega
    · -- The fourth of four.
      rw [next_last h.1 ⟨hlower, hupper⟩]
      refine ⟨0, reading_idle, hemit _ _ (by omega) ?_⟩
      rw [length_encodePoint, if_neg (by omega), if_neg (by omega), if_neg (by omega)]
      omega

theorem Reading.feed {d : Decoder} {read : ℕ} (h : Reading d read) (bytes : List UInt8) :
    ∃ read', Reading (feed d bytes).1 read' ∧
      read + bytes.length ≤ read' + sizes (Utf8.feed d bytes).2 := by
  induction bytes generalizing d read with
  | nil => exact ⟨read, h, Nat.le_refl _⟩
  | cons b bytes ih =>
    obtain ⟨read', hreading, hsize⟩ := h.next b
    obtain ⟨read'', hreading', hsize'⟩ := ih hreading
    refine ⟨read'', hreading', ?_⟩
    show read + (bytes.length + 1) ≤
      read'' + sizes ((Utf8.next d b).2 ++ (Utf8.feed (Utf8.next d b).1 bytes).2)
    rw [sizes_append]
    omega

/-- A text has at least as many bytes in the encoding as it was decoded from. -/
theorem length_le_sizes (bytes : List UInt8) : bytes.length ≤ sizes (decode bytes) := by
  obtain ⟨read, hreading, hsize⟩ := reading_idle.feed bytes
  have hreserve := hreading.read_le
  unfold decode
  rw [sizes_append]
  omega

/-- A continuation byte without a first byte is ill-formed. -/
theorem decode_stray {b : UInt8} (h : IsContinuation b) (bytes : List UInt8) :
    decode (b :: bytes) = none :: decode bytes := by
  have hfirst : next idle b = (idle, [none]) := by
    unfold IsContinuation at h
    rw [next_idle]
    unfold first
    dsimp only
    rw [if_neg (by omega), if_neg (by omega), if_neg (by omega), if_neg (by omega)]
  unfold decode
  show ((next idle b).2 ++ (feed (next idle b).1 bytes).2) ++ finish (feed (next idle b).1 bytes).1 = _
  rw [hfirst]
  rfl

/-- Before a byte that does not go on with a code point the text can be cut. -/
theorem decode_append {bytes : List UInt8} {b : UInt8} (h : ¬ IsContinuation b)
    (front : List UInt8) : decode (front ++ b :: bytes) = decode front ++ decode (b :: bytes) := by
  obtain ⟨read, hreading, _⟩ := reading_idle.feed front
  have hnext := hreading.next_other (b := b) (.inl fun hrange => h (hreading.range hrange))
  have hfirst := reading_idle.next_other (b := b) (.inr rfl)
  unfold decode
  rw [feed_append]
  simp only [feed, hnext, hfirst, List.append_assoc]
  rfl

/-- A text in the encoding stands for itself wherever it occurs. -/
theorem decode_around {chars : List Char} (h : chars ≠ []) (front back : List UInt8) :
    decode (front ++ (encodeChars chars ++ back)) =
      decode front ++ (chars.map some ++ decode back) := by
  obtain ⟨c, chars, rfl⟩ := List.exists_cons_of_ne_nil h
  obtain ⟨a, rest, hshape, _, hsize⟩ := encodeChar_shape c
  have hstart : ¬ IsContinuation a := by
    unfold IsContinuation
    unfold Announces at hsize
    omega
  have hbytes : encodeChars (c :: chars) ++ back = a :: (rest ++ (encodeChars chars ++ back)) := by
    rw [encodeChars_cons, hshape, List.cons_append, List.cons_append, List.append_assoc]
  rw [hbytes, decode_append hstart, ← hbytes]
  have hfeed : feed idle (encodeChars (c :: chars)) = (idle, (c :: chars).map some) :=
    feed_encode (c :: chars)
  have hback : decode (encodeChars (c :: chars) ++ back) =
      (c :: chars).map some ++ decode back := by
    unfold decode
    rw [feed_append, hfeed, List.append_assoc]
  rw [hback]

/-- The characters that a text is decoded to. -/
def chars (bytes : List UInt8) : List Char := (decode bytes).map fun c => c.getD (Char.ofNat 0xFFFD)

theorem lossy_eq (bytes : List UInt8) : (lossy bytes).toList = chars bytes := String.toList_ofList

theorem length_encodeChars_chars (bytes : List UInt8) :
    (encodeChars (chars bytes)).length = sizes (decode bytes) := by
  unfold chars
  induction decode bytes with
  | nil => rfl
  | cons part parts ih =>
    rw [List.map_cons, encodeChars_cons, List.length_append, ih]
    show _ = size part + sizes parts
    cases part with
    | none => rfl
    | some c => rfl

theorem sizes_map_some (chars : List Char) :
    sizes (chars.map some) = (encodeChars chars).length := by
  induction chars with
  | nil => rfl
  | cons c chars ih =>
    rw [encodeChars_cons, List.length_append, ← ih]
    rfl

theorem chars_encodeChars (text : List Char) : chars (encodeChars text) = text := by
  have hlossy := congrArg String.toList (lossy_encode (String.ofList text))
  rwa [encode_ofList, lossy_eq, String.toList_ofList] at hlossy

/-! ## Replacing in an encoding -/

theorem stray_longer {b : UInt8} (h : IsContinuation b) (bytes : List UInt8) :
    (b :: bytes).length < sizes (decode (b :: bytes)) := by
  rw [decode_stray h]
  have hrest := length_le_sizes bytes
  show bytes.length + 1 < 3 + sizes (decode bytes)
  omega

/-- The bytes do not begin within a code point. -/
def Begins (bytes : List UInt8) : Prop := ∀ b, bytes.head? = some b → ¬ IsContinuation b

theorem begins_of_sizes {bytes : List UInt8} (h : sizes (decode bytes) ≤ bytes.length) :
    Begins bytes := by
  intro b hhead hstray
  cases bytes with
  | nil => cases hhead
  | cons a bytes =>
    cases hhead
    have hlonger := stray_longer hstray bytes
    omega

theorem begins_encodeChars (chars : List Char) : Begins (encodeChars chars) := by
  intro b hhead
  cases chars with
  | nil => cases hhead
  | cons c chars =>
    obtain ⟨a, rest, hencode, hstart⟩ := code.encode_starts (List.cons_ne_nil c chars)
    have hbytes : encodeChars (c :: chars) = a :: rest := hencode
    rw [hbytes] at hhead
    cases hhead
    exact hstart

theorem Begins.append {front back : List UInt8} (hfront : Begins front) (hback : Begins back) :
    Begins (front ++ back) := by
  cases front with
  | nil => exact hback
  | cons a front => exact hfront

/-- An encoding that is cut where a code point begins is an encoding before and behind the cut. -/
theorem encodeChars_cut {front back : List UInt8} {chars : List Char}
    (h : encodeChars chars = front ++ back) (hback : Begins back) :
    ∃ a b, chars = a ++ b ∧ front = encodeChars a ∧ back = encodeChars b := by
  cases back with
  | nil =>
    rw [List.append_nil] at h
    exact ⟨chars, [], (List.append_nil _).symm, h.symm, rfl⟩
  | cons byte back =>
    have hat : (code.encode chars)[front.length]? = some byte := by
      show (encodeChars chars)[front.length]? = some byte
      rw [h, List.getElem?_append_right (Nat.le_refl _), Nat.sub_self]
      rfl
    obtain ⟨a, b, rfl, hlength⟩ := code.boundary hat (hback byte rfl)
    rw [encodeChars_append] at h
    obtain ⟨hfront, hrest⟩ := List.append_inj h hlength
    exact ⟨a, b, rfl, hfront.symm, hrest.symm⟩

theorem sizes_around {o : List Char} (ho : o ≠ []) (front rest : List UInt8) :
    sizes (decode (front ++ (encodeChars o ++ rest))) =
      sizes (decode front) + ((encodeChars o).length + sizes (decode rest)) := by
  rw [decode_around ho, sizes_append, sizes_append, sizes_map_some]

/-- If the result of a replacement is an encoding and the text gains nothing in decoding, the text is
an encoding as well: no cut goes through a code point. -/
theorem valid_of_replaced {o w : List Char} (ho : o ≠ []) {n : ℕ} {bytes result : List UInt8}
    (h : Replaced (encodeChars o) (encodeChars w) n bytes result)
    (hsize : sizes (decode bytes) ≤ bytes.length) :
    Begins result ∧
      ∀ r, result = encodeChars r → ∃ chars, bytes = encodeChars chars := by
  induction h with
  | done _ => exact ⟨begins_of_sizes hsize, fun r hr => ⟨r, hr⟩⟩
  | @next n front rest result _ _ ih =>
    rw [sizes_around ho, List.length_append, List.length_append] at hsize
    have hfront := length_le_sizes front
    have hrest := length_le_sizes rest
    obtain ⟨hbegins, hvalid⟩ := ih (by omega)
    have hbehind : Begins (encodeChars w ++ result) := (begins_encodeChars w).append hbegins
    refine ⟨(begins_of_sizes (by omega)).append hbehind, fun r hr => ?_⟩
    obtain ⟨a, b, _, rfl, hb⟩ := encodeChars_cut hr.symm hbehind
    obtain ⟨_, r', _, _, hresult⟩ := encodeChars_cut hb.symm hbegins
    obtain ⟨chars, rfl⟩ := hvalid r' hresult
    exact ⟨a ++ (o ++ chars), by rw [encodeChars_append, encodeChars_append]⟩

end Doctmcp.Lib.Utf8

import Mathlib.Data.Nat.Notation

/-! # SHA-256

`crypto.subtle.digest("SHA-256", bytes)` on lists of bytes, with words as natural numbers below
`2 ^ 32`, and the lower-case hex text of a digest. -/

namespace Doctmcp.Lib.Sha256
set_option autoImplicit false

/-! ## Words -/

def add (x y : ℕ) : ℕ := (x + y) % 4294967296

def rotr (n x : ℕ) : ℕ := (x >>> n) ||| ((x <<< (32 - n)) % 4294967296)

def not (x : ℕ) : ℕ := x ^^^ 4294967295

def ch (x y z : ℕ) : ℕ := (x &&& y) ^^^ (not x &&& z)

def maj (x y z : ℕ) : ℕ := (x &&& y) ^^^ (x &&& z) ^^^ (y &&& z)

def bigSigma0 (x : ℕ) : ℕ := rotr 2 x ^^^ rotr 13 x ^^^ rotr 22 x

def bigSigma1 (x : ℕ) : ℕ := rotr 6 x ^^^ rotr 11 x ^^^ rotr 25 x

def smallSigma0 (x : ℕ) : ℕ := rotr 7 x ^^^ rotr 18 x ^^^ (x >>> 3)

def smallSigma1 (x : ℕ) : ℕ := rotr 17 x ^^^ rotr 19 x ^^^ (x >>> 10)

def constants : List ℕ :=
  [0x428a2f98, 0x71374491, 0xb5c0fbcf, 0xe9b5dba5, 0x3956c25b, 0x59f111f1, 0x923f82a4, 0xab1c5ed5,
   0xd807aa98, 0x12835b01, 0x243185be, 0x550c7dc3, 0x72be5d74, 0x80deb1fe, 0x9bdc06a7, 0xc19bf174,
   0xe49b69c1, 0xefbe4786, 0x0fc19dc6, 0x240ca1cc, 0x2de92c6f, 0x4a7484aa, 0x5cb0a9dc, 0x76f988da,
   0x983e5152, 0xa831c66d, 0xb00327c8, 0xbf597fc7, 0xc6e00bf3, 0xd5a79147, 0x06ca6351, 0x14292967,
   0x27b70a85, 0x2e1b2138, 0x4d2c6dfc, 0x53380d13, 0x650a7354, 0x766a0abb, 0x81c2c92e, 0x92722c85,
   0xa2bfe8a1, 0xa81a664b, 0xc24b8b70, 0xc76c51a3, 0xd192e819, 0xd6990624, 0xf40e3585, 0x106aa070,
   0x19a4c116, 0x1e376c08, 0x2748774c, 0x34b0bcb5, 0x391c0cb3, 0x4ed8aa4a, 0x5b9cca4f, 0x682e6ff3,
   0x748f82ee, 0x78a5636f, 0x84c87814, 0x8cc70208, 0x90befffa, 0xa4506ceb, 0xbef9a3f7, 0xc67178f2]

/-! ## The compression function -/

structure State where
  a : ℕ
  b : ℕ
  c : ℕ
  d : ℕ
  e : ℕ
  f : ℕ
  g : ℕ
  h : ℕ

def initial : State where
  a := 0x6a09e667
  b := 0xbb67ae85
  c := 0x3c6ef372
  d := 0xa54ff53a
  e := 0x510e527f
  f := 0x9b05688c
  g := 0x1f83d9ab
  h := 0x5be0cd19

/-- Extend the message schedule by `n` words; `w` holds its words newest first. -/
def schedule : ℕ → List ℕ → List ℕ
  | 0, w => w
  | n + 1, w =>
    schedule n (add (add (smallSigma1 (w.getD 1 0)) (w.getD 6 0))
      (add (smallSigma0 (w.getD 14 0)) (w.getD 15 0)) :: w)

def round (s : State) (kw : ℕ × ℕ) : State :=
  let t1 := add (add s.h (bigSigma1 s.e)) (add (ch s.e s.f s.g) (add kw.1 kw.2))
  let t2 := add (bigSigma0 s.a) (maj s.a s.b s.c)
  { a := add t1 t2, b := s.a, c := s.b, d := s.c, e := add s.d t1, f := s.e, g := s.f, h := s.g }

def compress (s : State) (block : List ℕ) : State :=
  let t := (constants.zip (schedule 48 block.reverse).reverse).foldl round s
  { a := add s.a t.a, b := add s.b t.b, c := add s.c t.c, d := add s.d t.d,
    e := add s.e t.e, f := add s.f t.f, g := add s.g t.g, h := add s.h t.h }

/-! ## Messages -/

/-- The bytes of `x`, most significant of `count` first. -/
def bigEndian : ℕ → ℕ → List ℕ
  | 0, _ => []
  | count + 1, x => bigEndian count (x / 256) ++ [x % 256]

/-- Append the `1` bit, the zeros and the length. -/
def pad (bytes : List ℕ) : List ℕ :=
  bytes ++ 128 :: List.replicate ((119 - bytes.length % 64) % 64) 0 ++
    bigEndian 8 (8 * bytes.length)

def words : List ℕ → List ℕ
  | a :: b :: c :: d :: rest => (((a * 256 + b) * 256 + c) * 256 + d) :: words rest
  | _ => []

/-- Cut the words into `n` blocks of 16 and compress them in order. -/
def blocks : ℕ → State → List ℕ → State
  | 0, s, _ => s
  | n + 1, s, w => blocks n (compress s (w.take 16)) (w.drop 16)

def digest (bytes : List ℕ) : List ℕ :=
  let w := words (pad bytes)
  let s := blocks (w.length / 16) initial w
  [s.a, s.b, s.c, s.d, s.e, s.f, s.g, s.h].flatMap (bigEndian 4)

theorem length_bigEndian (count x : ℕ) : (bigEndian count x).length = count := by
  induction count generalizing x with
  | zero => rfl
  | succ n ih => simp [bigEndian, ih]

@[simp] theorem length_digest (bytes : List ℕ) : (digest bytes).length = 32 := by
  simp [digest, length_bigEndian]

theorem bigEndian_lt (count x : ℕ) : ∀ b ∈ bigEndian count x, b < 256 := by
  induction count generalizing x with
  | zero => nofun
  | succ n ih =>
    intro b hb
    rcases List.mem_append.1 hb with hb | hb
    · exact ih _ b hb
    · rw [List.mem_singleton.1 hb]
      exact Nat.mod_lt _ (by decide)

theorem digest_lt (bytes : List ℕ) : ∀ b ∈ digest bytes, b < 256 := by
  intro b hb
  obtain ⟨word, -, hword⟩ := List.mem_flatMap.1 hb
  exact bigEndian_lt 4 word b hword

/-! ## Hex text -/

def hexDigit (n : ℕ) : Char := if n < 10 then Char.ofNat (48 + n) else Char.ofNat (87 + n)

/-- `byte.toString(16).padStart(2, "0")`. -/
def hexByte (byte : ℕ) : List Char := [hexDigit (byte / 16 % 16), hexDigit (byte % 16)]

/-- `[...bytes].map(hexByte).join("")`. -/
def hex (bytes : List ℕ) : String := String.ofList (bytes.flatMap hexByte)

/-- `new TextEncoder().encode(text)`. -/
def encode (text : String) : List ℕ :=
  (text.toList.flatMap String.utf8EncodeChar).map UInt8.toNat

example : hex (digest (encode "abc")) =
    "ba7816bf8f01cfea414140de5dae2223b00361a396177a9cb410ff61f20015ad" := by
  decide +kernel

end Doctmcp.Lib.Sha256

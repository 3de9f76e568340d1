import Doctmcp.Lib.JsString

/-! # Identifiers and digests

The wire identifiers of `packages/schemas`: device, credential and pairing-session ids are UUID v4
strings canonicalised to lower case, and secrets and pairing codes are stored only as 64 lower-case
hex digits. A parsed value carries the proof that it has the schema's form, so the stores never
hold an identifier that the schemas would refuse. -/

namespace Doctmcp.Schemas
open Doctmcp.Lib
set_option autoImplicit false

/-! ## UUID v4 -/

/-- `[0-9a-f]` under the `i` flag. -/
def isHexDigit (c : Char) : Bool :=
  ('0' ≤ c && c ≤ '9') || ('a' ≤ c && c ≤ 'f') || ('A' ≤ c && c ≤ 'F')

/-- `[89ab]` under the `i` flag. -/
def isVariantDigit (c : Char) : Bool :=
  c == '8' || c == '9' || c == 'a' || c == 'b' || c == 'A' || c == 'B'

/-- `UUID_V4_PATTERN`: one character class for each of its 36 positions. -/
def uuidV4Pattern : List (Char → Bool) :=
  List.replicate 8 isHexDigit ++ [(· == '-')] ++ List.replicate 4 isHexDigit ++
    [(· == '-'), (· == '4')] ++ List.replicate 3 isHexDigit ++ [(· == '-'), isVariantDigit] ++
    List.replicate 3 isHexDigit ++ [(· == '-')] ++ List.replicate 12 isHexDigit

theorem isHexDigit_lt {c : Char} (h : isHexDigit c = true) : c.toNat < 128 := by
  simp only [isHexDigit, Bool.or_eq_true, Bool.and_eq_true, decide_eq_true_eq, Char.le_def,
    UInt32.le_iff_toNat_le] at h
  have e9 : ('9'.val).toNat = 57 := rfl
  have ef : ('f'.val).toNat = 102 := rfl
  have eF : ('F'.val).toNat = 70 := rfl
  have hc : c.toNat = c.val.toNat := rfl
  omega

theorem ascii_hex_toLower : ∀ n < 128, isHexDigit (Char.ofNat n) = true →
    isHexDigit (Char.ofNat n).toLower = true := by decide

theorem isHexDigit_toLower {c : Char} (h : isHexDigit c = true) : isHexDigit c.toLower = true := by
  have := ascii_hex_toLower c.toNat (isHexDigit_lt h)
  rw [Char.ofNat_toNat] at this
  exact this h

theorem isVariantDigit_toLower {c : Char} (h : isVariantDigit c = true) :
    isVariantDigit c.toLower = true := by
  simp only [isVariantDigit, Bool.or_eq_true, beq_iff_eq] at h
  rcases h with ((((rfl | rfl) | rfl) | rfl) | rfl) | rfl <;> rfl

/-- Canonicalising keeps the pattern: every class of it is closed under lower-casing. -/
theorem uuidV4Pattern_toLower :
    ∀ p ∈ uuidV4Pattern, ∀ c, p c = true → p c.toLower = true := by
  intro p hp c hc
  simp only [uuidV4Pattern, List.mem_append, List.mem_replicate, List.mem_cons,
    List.not_mem_nil, or_false] at hp
  have hdash : ∀ d, (d == '-') = true → (d.toLower == '-') = true := by
    intro d hd
    rw [beq_iff_eq] at hd
    subst hd
    rfl
  have hfour : ∀ d, (d == '4') = true → (d.toLower == '4') = true := by
    intro d hd
    rw [beq_iff_eq] at hd
    subst hd
    rfl
  rcases hp with (((((((⟨-, rfl⟩ | rfl) | ⟨-, rfl⟩) | rfl | rfl) | ⟨-, rfl⟩) | rfl | rfl) |
    ⟨-, rfl⟩) | rfl) | ⟨-, rfl⟩
  all_goals first
    | exact isHexDigit_toLower hc
    | exact isVariantDigit_toLower hc
    | exact hdash c hc
    | exact hfour c hc

theorem uuidV4Pattern_char {p : Char → Bool} (hp : p ∈ uuidV4Pattern) {c : Char}
    (hc : p c = true) : isHexDigit c = true ∨ c = '-' := by
  simp only [uuidV4Pattern, List.mem_append, List.mem_replicate, List.mem_cons,
    List.not_mem_nil, or_false] at hp
  have hfour : (c == '4') = true → isHexDigit c = true := by
    intro h
    rw [beq_iff_eq] at h
    subst h
    rfl
  have hvariant : isVariantDigit c = true → isHexDigit c = true := by
    intro h
    simp only [isVariantDigit, Bool.or_eq_true, beq_iff_eq] at h
    rcases h with ((((rfl | rfl) | rfl) | rfl) | rfl) | rfl <;> rfl
  rcases hp with (((((((⟨-, rfl⟩ | rfl) | ⟨-, rfl⟩) | rfl | rfl) | ⟨-, rfl⟩) | rfl | rfl) |
    ⟨-, rfl⟩) | rfl) | ⟨-, rfl⟩
  all_goals first
    | exact .inl hc
    | exact .inl (hvariant hc)
    | exact .inr (beq_iff_eq.mp hc)
    | exact .inl (hfour hc)

/-- A canonical UUID v4. -/
@[ext] structure UuidV4 where
  value : String
  wellFormed : JsString.fits uuidV4Pattern value.toList = true
  canonical : JsString.toLowerCase value = value
  deriving DecidableEq

theorem UuidV4.value_ne_empty (id : UuidV4) : id.value ≠ "" := by
  intro h
  have := id.wellFormed
  rw [h] at this
  revert this
  decide

theorem toLowerCase_wellFormed {s : String} (h : JsString.fits uuidV4Pattern s.toList = true) :
    JsString.fits uuidV4Pattern (JsString.toLowerCase s).toList = true := by
  rw [JsString.toLowerCase, String.toList_ofList]
  exact JsString.fits_map uuidV4Pattern_toLower h

/-- `z.string().regex(UUID_V4_PATTERN).transform(toLowerCase)`. -/
def uuidV4Schema (input : String) : Option UuidV4 :=
  if h : JsString.fits uuidV4Pattern input.toList = true then
    some ⟨JsString.toLowerCase input, toLowerCase_wellFormed h, JsString.toLowerCase_idem input⟩
  else none

/-- Parsing again returns the same identifier. -/
@[simp] theorem uuidV4Schema_value (id : UuidV4) : uuidV4Schema id.value = some id := by
  unfold uuidV4Schema
  rw [dif_pos id.wellFormed]
  congr 1
  exact UuidV4.ext id.canonical

abbrev DeviceId := UuidV4
abbrev CredentialId := UuidV4
abbrev PairingSessionId := UuidV4

def deviceIdSchema (input : String) : Option DeviceId := uuidV4Schema input
def deviceCredentialIdSchema (input : String) : Option CredentialId := uuidV4Schema input
def pairingSessionIdSchema (input : String) : Option PairingSessionId := uuidV4Schema input

@[simp] theorem deviceIdSchema_value (id : DeviceId) : deviceIdSchema id.value = some id :=
  uuidV4Schema_value id

@[simp] theorem deviceCredentialIdSchema_value (id : CredentialId) :
    deviceCredentialIdSchema id.value = some id := uuidV4Schema_value id

@[simp] theorem pairingSessionIdSchema_value (id : PairingSessionId) :
    pairingSessionIdSchema id.value = some id := uuidV4Schema_value id

/-! ## Digests -/

/-- `[0-9a-f]`. -/
def isLowerHexDigit (c : Char) : Bool := ('0' ≤ c && c ≤ '9') || ('a' ≤ c && c ≤ 'f')

/-- `/^[0-9a-f]{64}$/`. -/
def isDigest (input : String) : Bool :=
  JsString.fits (List.replicate 64 isLowerHexDigit) input.toList

/-- A SHA-256 digest in lower-case hex. -/
@[ext] structure HexDigest where
  value : String
  wellFormed : isDigest value = true
  deriving DecidableEq

theorem isLowerHexDigit_lt {c : Char} (h : isLowerHexDigit c = true) : c.toNat < 128 := by
  apply isHexDigit_lt
  unfold isLowerHexDigit at h
  unfold isHexDigit
  rw [h, Bool.true_or]

@[simp] theorem HexDigest.length_value (d : HexDigest) : JsString.length d.value = 64 := by
  have h := JsString.length_of_fits (s := d.value) (fun p hp c hc => by
    rw [List.eq_of_mem_replicate hp] at hc
    have := isLowerHexDigit_lt hc
    omega) d.wellFormed
  rw [h, List.length_replicate]

/-- `DIGEST_PATTERN.test(value)`. -/
def digestPattern (input : String) : Option HexDigest :=
  if h : isDigest input = true then some ⟨input, h⟩ else none

@[simp] theorem digestPattern_value (d : HexDigest) : digestPattern d.value = some d := by
  simp [digestPattern, d.wellFormed]

end Doctmcp.Schemas

import Doctmcp.Lib.Base64
import Doctmcp.Lib.Operation
import Doctmcp.Lib.Sha256
import Doctmcp.Lib.Utf16
import Doctmcp.Schemas.Errors
import Doctmcp.Schemas.Records

/-! # Owner ids of OIDC principals

`deriveOidcOwnerId` of `public-mcp-auth.ts` hashes an issuer and a subject with a NUL between them.
The hashed bytes of two pairs agree exactly when the texts agree up to unpaired surrogates, or when
the NUL can stand at two places. `new URL` is a parameter. -/

namespace Doctmcp.PublicMcp
open Doctmcp.Lib Doctmcp.Lib.Operation Doctmcp.Lib.Utf16 Doctmcp.Schemas
set_option autoImplicit false

/-- The properties of a `URL` that `requireHttpsUrl` checks. -/
structure URL where
  protocol : Text
  username : Text
  password : Text
  search : Text
  hash : Text

def requireHttpsUrl (newURL : Text → Option URL) (value : Text) (field : String) :
    Except JsError URL := do
  let url ← orThrow (newURL value) (.error (field ++ " phải là URL hợp lệ."))
  if url.protocol ≠ encode "https:".toList ∨ url.username ≠ [] ∨ url.password ≠ [] ∨
      url.search ≠ [] ∨ url.hash ≠ [] then
    throw (.error (field ++ " phải là URL HTTPS hợp lệ."))
  return url

/-- `subject.trim()`. -/
def trim (text : Text) : Text :=
  let blank := fun u : UInt16 => JsString.isWhitespace (Char.ofNat u.toNat)
  ((text.dropWhile blank).reverse.dropWhile blank).reverse

/-- `OWNER_ID_DOMAIN`. -/
def ownerIdDomain : Text := encode "doctmcp-oidc-owner:v1".toList ++ [0]

/-- The bytes that are hashed. -/
def material (issuer subject : Text) : List UInt8 :=
  utf8Bytes (ownerIdDomain ++ issuer ++ [0] ++ subject)

def sha256 (bytes : List UInt8) : List ℕ := Sha256.digest (bytes.map UInt8.toNat)

def deriveOidcOwnerId (newURL : Text → Option URL) (issuer subject : Text) :
    Except JsError String := do
  let _ ← requireHttpsUrl newURL issuer "issuer"
  if subject = [] ∨ trim subject ≠ subject ∨ 1000 < subject.length then
    throw (.error "OIDC subject không hợp lệ.")
  let digest := sha256 (material issuer subject)
  let ownerId := String.ofList ("oidc:v1:".toList ++ Base64.base64Url digest)
  orThrow (ownerIdSchema ownerId) (.error "ownerId")

/-! ## The owner id -/

theorem isWhitespace_ascii {c : Char} (h : 32 < c.toNat ∧ c.toNat < 128) :
    JsString.isWhitespace c = false := by
  simp only [JsString.isWhitespace, Bool.or_eq_false_iff, Bool.and_eq_false_iff,
    decide_eq_false_iff_not, beq_eq_false_iff_ne]
  omega

/-- Visible ASCII text of at most 200 characters is an owner id. -/
theorem ownerIdSchema_ascii {cs : List Char} (hpos : cs ≠ []) (hlength : cs.length ≤ 200)
    (h : ∀ c ∈ cs, 32 < c.toNat ∧ c.toNat < 128) :
    ownerIdSchema (String.ofList cs) = some (String.ofList cs) := by
  have hpoints : JsString.codePoints (String.ofList cs) = cs.length := by
    rw [JsString.codePoints, String.toList_ofList]
  have hdrop : ∀ l : List Char, (∀ c ∈ l, c ∈ cs) → l.dropWhile JsString.isWhitespace = l := by
    intro l hl
    cases l with
    | nil => rfl
    | cons c l =>
      rw [List.dropWhile_cons, isWhitespace_ascii (h c (hl c (by simp)))]
      rfl
  have htrim : JsString.trim (String.ofList cs) = String.ofList cs := by
    rw [JsString.trim, String.toList_ofList, hdrop cs fun _ hc => hc,
      hdrop cs.reverse fun _ hc => List.mem_reverse.1 hc, List.reverse_reverse]
  rw [ownerIdSchema, hpoints, htrim]
  exact if_pos ⟨List.length_pos_iff.2 hpos, hlength, rfl⟩

/-- The owner id of a digest. -/
def ownerIdOf (digest : List ℕ) : String :=
  String.ofList ("oidc:v1:".toList ++ Base64.base64Url digest)

theorem ownerIdSchema_ownerIdOf (bytes : List UInt8) :
    ownerIdSchema (ownerIdOf (sha256 bytes)) = some (ownerIdOf (sha256 bytes)) := by
  have hbytes := Sha256.digest_lt (bytes.map UInt8.toNat)
  have hencoded := Base64.base64Url_eq hbytes
  have htag : ∀ c ∈ "oidc:v1:".toList, 32 < c.toNat ∧ c.toNat < 128 :=
    List.forall_iff_forall_mem.mp (by decide)
  apply ownerIdSchema_ascii
  · simp
  · rw [sha256, hencoded, List.length_append, List.length_map, Base64.length_sextets,
      Sha256.length_digest]
    decide
  · intro c hc
    rcases List.mem_append.1 hc with hc | hc
    · exact htag c hc
    · rw [sha256, hencoded] at hc
      obtain ⟨n, hn, rfl⟩ := List.mem_map.1 hc
      exact (Base64.letters n (Base64.sextets_lt hbytes n hn)).2.symm

theorem ownerIdOf_injective (bytes other : List UInt8) :
    ownerIdOf (sha256 bytes) = ownerIdOf (sha256 other) ↔ sha256 bytes = sha256 other := by
  constructor
  · intro h
    have hencoded := List.append_cancel_left (String.ofList_injective h)
    exact Base64.base64Url_injective (Sha256.digest_lt _) (Sha256.digest_lt _)
      ((Sha256.length_digest _).trans (Sha256.length_digest _).symm) hencoded
  · exact fun h => congrArg ownerIdOf h

/-! ## The pairs that are accepted -/

section Derive
variable {newURL : Text → Option URL} {issuer subject : Text}

/-- What `deriveOidcOwnerId` asks of an issuer and a subject. -/
def Accepted (newURL : Text → Option URL) (issuer subject : Text) : Prop :=
  (∃ url, requireHttpsUrl newURL issuer "issuer" = .ok url) ∧
    ¬ (subject = [] ∨ trim subject ≠ subject ∨ 1000 < subject.length)

theorem deriveOidcOwnerId_accepted (h : Accepted newURL issuer subject) :
    deriveOidcOwnerId newURL issuer subject =
      .ok (ownerIdOf (sha256 (material issuer subject))) := by
  obtain ⟨⟨url, hurl⟩, hsubject⟩ := h
  have hschema := ownerIdSchema_ownerIdOf (material issuer subject)
  unfold ownerIdOf at hschema
  unfold deriveOidcOwnerId
  rw [hurl]
  simp only [bind, Except.bind, if_neg hsubject]
  rw [hschema]
  rfl

theorem accepted_of_ok {ownerId : String}
    (h : deriveOidcOwnerId newURL issuer subject = .ok ownerId) :
    Accepted newURL issuer subject := by
  unfold deriveOidcOwnerId at h
  simp only [bind, Except.bind] at h
  cases hurl : requireHttpsUrl newURL issuer "issuer" with
  | error e =>
    rw [hurl] at h
    cases h
  | ok url =>
    rw [hurl] at h
    refine ⟨⟨url, hurl⟩, fun hsubject => ?_⟩
    simp only [if_pos hsubject] at h
    cases h

end Derive

/-! ## The hashed bytes -/

/-- The first NUL of one text stands where the other has a later one. -/
def Shifted (issuer subject issuer' subject' : Text) : Prop :=
  ∃ between, points issuer' = points issuer ++ Char.ofNat 0 :: between ∧
    points subject = between ++ Char.ofNat 0 :: points subject'

/-- The texts agree once an unpaired surrogate is U+FFFD, or one issuer continues the other with a
NUL and a beginning of the other's subject. -/
def Merged (issuer subject issuer' subject' : Text) : Prop :=
  (points issuer = points issuer' ∧ points subject = points subject') ∨
    Shifted issuer subject issuer' subject' ∨ Shifted issuer' subject' issuer subject

theorem plain_nul : Plain 0 := by decide

theorem points_material (issuer subject : Text) :
    points (ownerIdDomain ++ issuer ++ [0] ++ subject) =
      points (encode "doctmcp-oidc-owner:v1".toList) ++
        Char.ofNat 0 :: (points issuer ++ Char.ofNat 0 :: points subject) := by
  rw [ownerIdDomain, List.append_assoc, List.append_assoc, List.append_assoc,
    List.singleton_append, points_append _ plain_nul, List.singleton_append,
    points_append _ plain_nul]
  rfl

/-- Two cuts of one text at a letter are the same cut, or one of them is at a later letter. -/
theorem append_cons_eq_iff {A : Type} {z : A} {a b c d : List A} :
    a ++ z :: b = c ++ z :: d ↔ (a = c ∧ b = d) ∨
      (∃ m, c = a ++ z :: m ∧ b = m ++ z :: d) ∨ ∃ m, a = c ++ z :: m ∧ d = m ++ z :: b := by
  constructor
  · intro h
    rcases List.append_eq_append_iff.1 h with ⟨m, hc, hb⟩ | ⟨m, ha, hd⟩
    · cases m with
      | nil =>
        rw [List.append_nil] at hc
        exact .inl ⟨hc.symm, (List.cons.inj hb).2⟩
      | cons y m =>
        obtain ⟨rfl, htail⟩ := List.cons.inj hb
        exact .inr (.inl ⟨m, hc, htail⟩)
    · cases m with
      | nil =>
        rw [List.append_nil] at ha
        exact .inl ⟨ha, (List.cons.inj hd).2.symm⟩
      | cons y m =>
        obtain ⟨rfl, htail⟩ := List.cons.inj hd
        exact .inr (.inr ⟨m, ha, htail⟩)
  · rintro (⟨rfl, rfl⟩ | ⟨m, rfl, rfl⟩ | ⟨m, rfl, rfl⟩) <;> simp

theorem material_eq_iff (issuer subject issuer' subject' : Text) :
    material issuer subject = material issuer' subject' ↔
      Merged issuer subject issuer' subject' := by
  rw [material, material, utf8Bytes_eq_iff, points_material, points_material,
    List.append_cancel_left_eq, List.cons.injEq, append_cons_eq_iff]
  exact and_iff_right rfl

theorem merged_same_issuer (issuer subject subject' : Text) :
    Merged issuer subject issuer subject' ↔ points subject = points subject' := by
  have hnot : ∀ between : List Char, points issuer ≠ points issuer ++ Char.ofNat 0 :: between := by
    intro between h
    have := congrArg List.length h
    simp at this
  constructor
  · rintro (⟨-, h⟩ | ⟨between, h, -⟩ | ⟨between, h, -⟩)
    · exact h
    · exact absurd h (hnot between)
    · exact absurd h (hnot between)
  · exact fun h => .inl ⟨rfl, h⟩

/-- Two accepted pairs hash different bytes exactly when they are not merged; for one
issuer, exactly when the subjects differ otherwise than in unpaired surrogates. The owner ids differ
exactly when the digests do. -/
theorem deriveOidcOwnerId_separates_iff (newURL : Text → Option URL)
    {issuer subject issuer' subject' : Text} {ownerId ownerId' : String}
    (h : deriveOidcOwnerId newURL issuer subject = .ok ownerId)
    (h' : deriveOidcOwnerId newURL issuer' subject' = .ok ownerId') :
    (material issuer subject ≠ material issuer' subject' ↔
      ¬ Merged issuer subject issuer' subject') ∧
    (issuer = issuer' → (material issuer subject ≠ material issuer' subject' ↔
      points subject ≠ points subject')) ∧
    (ownerId ≠ ownerId' ↔
      sha256 (material issuer subject) ≠ sha256 (material issuer' subject')) := by
  refine ⟨not_congr (material_eq_iff _ _ _ _), ?_, ?_⟩
  · rintro rfl
    exact not_congr ((material_eq_iff _ _ _ _).trans (merged_same_issuer _ _ _))
  · have hvalue := deriveOidcOwnerId_accepted (accepted_of_ok h)
    have hvalue' := deriveOidcOwnerId_accepted (accepted_of_ok h')
    obtain rfl : ownerId = _ := Except.ok.inj (h.symm.trans hvalue)
    obtain rfl : ownerId' = _ := Except.ok.inj (h'.symm.trans hvalue')
    exact not_congr (ownerIdOf_injective _ _)

/-! ## Two subjects of one issuer -/

def exampleIssuer : Text := encode "https://issuer.example".toList

/-- `new URL` at the example issuer. -/
def exampleURL (value : Text) : Option URL :=
  if value = exampleIssuer then
    some { protocol := encode "https:".toList, username := [], password := [], search := [],
           hash := [] }
  else none

theorem accepted_example {subject : Text}
    (h : ¬ (subject = [] ∨ trim subject ≠ subject ∨ 1000 < subject.length)) :
    Accepted exampleURL exampleIssuer subject :=
  ⟨⟨_, rfl⟩, h⟩

theorem deriveOidcOwnerId_separates_users :
    material exampleIssuer (encode "user-123".toList) ≠
      material exampleIssuer (encode "user-124".toList) := by
  have hseparates := deriveOidcOwnerId_separates_iff exampleURL
    (deriveOidcOwnerId_accepted (accepted_example
      (show ¬ (encode "user-123".toList = [] ∨ _) by decide)))
    (deriveOidcOwnerId_accepted (accepted_example
      (show ¬ (encode "user-124".toList = [] ∨ _) by decide)))
  exact (hseparates.2.1 rfl).2 (by decide)

/-- Two different unpaired surrogates are both encoded as U+FFFD. -/
theorem deriveOidcOwnerId_merges_surrogates :
    ¬ ∀ (newURL : Text → Option URL) (issuer subject issuer' subject' : Text)
      (ownerId ownerId' : String), deriveOidcOwnerId newURL issuer subject = .ok ownerId →
        deriveOidcOwnerId newURL issuer' subject' = .ok ownerId' →
        (issuer, subject) ≠ (issuer', subject') →
        material issuer subject ≠ material issuer' subject' := by
  intro h
  have hsame : material exampleIssuer [0xD800] = material exampleIssuer [0xD801] :=
    (material_eq_iff _ _ _ _).2 (.inl ⟨rfl, by decide⟩)
  exact h exampleURL exampleIssuer [0xD800] exampleIssuer [0xD801] _ _
    (deriveOidcOwnerId_accepted (accepted_example (by decide)))
    (deriveOidcOwnerId_accepted (accepted_example (by decide))) (by decide) hsame

end Doctmcp.PublicMcp

import Mathlib.Data.List.DropRight
import Mathlib.Data.Nat.Notation

/-! # Base64

`btoa` cuts three bytes into four sextets, names each by a letter and pads the last group. Without
the padding the text still determines the bytes, since its length determines theirs. -/

namespace Doctmcp.Lib.Base64
set_option autoImplicit false

def sextets : List ℕ → List ℕ
  | [] => []
  | [a] => [a / 4, a % 4 * 16]
  | [a, b] => [a / 4, a % 4 * 16 + b / 16, b % 16 * 4]
  | a :: b :: c :: bytes =>
    a / 4 :: (a % 4 * 16 + b / 16) :: (b % 16 * 4 + c / 64) :: c % 64 :: sextets bytes

def letter (n : ℕ) : Char :=
  if n < 26 then Char.ofNat (65 + n)
  else if n < 52 then Char.ofNat (71 + n)
  else if n < 62 then Char.ofNat (n - 4)
  else if n = 62 then '+' else '/'

/-- `btoa` of a binary string. -/
def btoa (bytes : List ℕ) : List Char :=
  (sextets bytes).map letter ++ List.replicate ((3 - bytes.length % 3) % 3) '='

/-- `encoded.replaceAll("+", "-").replaceAll("/", "_")`, letter by letter. -/
def urlLetter (c : Char) : Char := if c = '+' then '-' else if c = '/' then '_' else c

/-- The URL alphabet without padding. -/
def base64Url (bytes : List ℕ) : List Char := ((btoa bytes).map urlLetter).rdropWhile (· == '=')

theorem sextets_lt {bytes : List ℕ} (h : ∀ b ∈ bytes, b < 256) : ∀ n ∈ sextets bytes, n < 64 := by
  induction bytes using sextets.induct with
  | case1 => nofun
  | case2 a =>
    have ha := h a (by simp)
    simp only [sextets, List.forall_mem_cons]
    exact ⟨by omega, by omega, nofun⟩
  | case3 a b =>
    have ha := h a (by simp)
    have hb := h b (by simp)
    simp only [sextets, List.forall_mem_cons]
    exact ⟨by omega, by omega, by omega, nofun⟩
  | case4 a b c bytes ih =>
    have ha := h a (by simp)
    have hb := h b (by simp)
    have hc := h c (by simp)
    simp only [sextets, List.forall_mem_cons]
    exact ⟨by omega, by omega, by omega, by omega,
      ih fun x hx => h x (by simp [hx])⟩

theorem length_sextets (bytes : List ℕ) :
    (sextets bytes).length = (4 * bytes.length + 2) / 3 := by
  induction bytes using sextets.induct with
  | case1 => rfl
  | case2 a => simp [sextets]
  | case3 a b => simp [sextets]
  | case4 a b c bytes ih =>
    simp only [sextets, List.length_cons, ih]
    omega

theorem sextets_injective {bytes bytes' : List ℕ} (h : ∀ b ∈ bytes, b < 256)
    (h' : ∀ b ∈ bytes', b < 256) (hlength : bytes.length = bytes'.length)
    (hsextets : sextets bytes = sextets bytes') : bytes = bytes' := by
  induction bytes using sextets.induct generalizing bytes' with
  | case1 => exact (List.length_eq_zero_iff.1 hlength.symm).symm
  | case2 a =>
    match bytes', hlength with
    | [a'], _ =>
      simp only [sextets, List.cons.injEq] at hsextets
      have heq : a = a' := by omega
      rw [heq]
  | case3 a b =>
    match bytes', hlength with
    | [a', b'], _ =>
      simp only [sextets, List.cons.injEq] at hsextets
      have hb := h b (by simp)
      have hb' := h' b' (by simp)
      have heq : a = a' ∧ b = b' := by omega
      rw [heq.1, heq.2]
  | case4 a b c bytes ih =>
    match bytes', hlength with
    | a' :: b' :: c' :: bytes', hlength =>
      simp only [sextets, List.cons.injEq] at hsextets
      obtain ⟨h1, h2, h3, h4, hrest⟩ := hsextets
      have hb := h b (by simp)
      have hb' := h' b' (by simp)
      have hc := h c (by simp)
      have hc' := h' c' (by simp)
      have heq : a = a' ∧ b = b' ∧ c = c' := by omega
      have htail : bytes = bytes' := by
        apply ih (fun x hx => h x (by simp [hx])) (fun x hx => h' x (by simp [hx])) _ hrest
        simpa using hlength
      rw [heq.1, heq.2.1, heq.2.2, htail]

theorem letters : ∀ n < 64, urlLetter (letter n) ≠ '=' ∧ (urlLetter (letter n)).toNat < 128 ∧
    32 < (urlLetter (letter n)).toNat := by
  decide +kernel

theorem letter_injective : ∀ n < 64, ∀ m < 64,
    urlLetter (letter n) = urlLetter (letter m) → n = m := by
  decide +kernel

theorem base64Url_eq {bytes : List ℕ} (h : ∀ b ∈ bytes, b < 256) :
    base64Url bytes = (sextets bytes).map fun n => urlLetter (letter n) := by
  have hkept : ∀ c ∈ (sextets bytes).map (fun n => urlLetter (letter n)), c ≠ '=' := by
    intro c hc
    obtain ⟨n, hn, rfl⟩ := List.mem_map.1 hc
    exact (letters n (sextets_lt h n hn)).1
  have hpadding : ∀ (k : ℕ) (cs : List Char), (∀ c ∈ cs, c ≠ '=') →
      (cs ++ List.replicate k '=').rdropWhile (· == '=') = cs := by
    intro k cs hcs
    induction k with
    | zero =>
      rw [List.replicate_zero, List.append_nil, List.rdropWhile_eq_self_iff]
      intro hne
      simpa using hcs _ (List.getLast_mem hne)
    | succ k ih =>
      rw [List.replicate_succ', ← List.append_assoc, List.rdropWhile_concat_pos _ _ _ (by rfl)]
      exact ih
  rw [base64Url, btoa, List.map_append, List.map_map, List.map_replicate]
  exact hpadding _ _ hkept

theorem base64Url_injective {bytes bytes' : List ℕ} (h : ∀ b ∈ bytes, b < 256)
    (h' : ∀ b ∈ bytes', b < 256) (hlength : bytes.length = bytes'.length)
    (hsame : base64Url bytes = base64Url bytes') : bytes = bytes' := by
  rw [base64Url_eq h, base64Url_eq h'] at hsame
  apply sextets_injective h h' hlength
  have hinjective : ∀ {l l' : List ℕ}, (∀ n ∈ l, n < 64) → (∀ n ∈ l', n < 64) →
      l.map (fun n => urlLetter (letter n)) = l'.map (fun n => urlLetter (letter n)) → l = l' := by
    intro l
    induction l with
    | nil =>
      intro l' _ _ hmap
      exact (List.map_eq_nil_iff.1 hmap.symm).symm
    | cons n l ih =>
      intro l' hl hl' hmap
      cases l' with
      | nil => cases hmap
      | cons n' l' =>
        obtain ⟨hhead, htail⟩ := List.cons.inj hmap
        rw [letter_injective n (hl n (by simp)) n' (hl' n' (by simp)) hhead,
          ih (fun m hm => hl m (by simp [hm])) (fun m hm => hl' m (by simp [hm])) htail]
  exact hinjective (sextets_lt h) (sextets_lt h') hsame

end Doctmcp.Lib.Base64

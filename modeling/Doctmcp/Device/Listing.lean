import Mathlib.Data.List.Pairwise
import Mathlib.Data.String.Basic
import Doctmcp.Device.Repository

/-! # The listing of an owner's devices

Both repositories list by `createdAt` and then by `deviceId`: the in-memory one orders ids by the
collation of the host's default locale, the SQLite one by their bytes. On canonical identifiers the
root collation is the order of the bytes (`root_eq_binary`), a tailored one need not be. -/

namespace Doctmcp.Device
open Doctmcp.Lib Doctmcp.Schemas
set_option autoImplicit false

/-! ## Collations -/

namespace Collation

/-- To compare ids by a key that tells them apart. -/
def ofKey {K : Type} [Ord K] [Std.TransOrd K] [Std.LawfulEqOrd K] (key : DeviceId → K)
    (hkey : Function.Injective key) : Collation where
  localeCompare := compareOn key
  consistent := inferInstance
  lawful :=
    { compare_self := Std.ReflOrd.compare_self
      eq_of_compare := fun h => hkey (Std.LawfulEqOrd.eq_of_compare h) }

/-- The order of the texts: SQLite compares the bytes of the column. -/
def binary : Collation := ofKey (·.value) fun _ _ => UuidV4.ext

theorem binary_lt_iff {left right : DeviceId} :
    binary.localeCompare left right = .lt ↔ left.value < right.value := by
  change compareOfLessAndEq left.value right.value = .lt ↔ _
  unfold compareOfLessAndEq
  split_ifs with hlt <;> simp [hlt]

/-- Two collations with the same ids in order are one comparison. -/
theorem localeCompare_congr {c c' : Collation} {left right : DeviceId}
    (hlt : c.localeCompare left right = .lt ↔ c'.localeCompare left right = .lt)
    (hgt : c.localeCompare right left = .lt ↔ c'.localeCompare right left = .lt) :
    c.localeCompare left right = c'.localeCompare left right := by
  rw [← Std.OrientedCmp.gt_iff_lt, ← Std.OrientedCmp.gt_iff_lt] at hgt
  cases h : c.localeCompare left right <;> cases h' : c'.localeCompare left right <;> simp_all

end Collation

/-! ## The root collation and a tailored one -/

/-- Where the root collation puts a character of a canonical UUID: the hyphen before the digits,
the digits before the letters. -/
def collationWeight (c : Char) : ℕ :=
  if c = '-' then 0
  else if '0' ≤ c ∧ c ≤ '9' then 1 + (c.toNat - '0'.toNat)
  else 11 + (c.toNat - 'a'.toNat)

theorem collationWeight_cases {c : Char} (h : isLowerHexDigit c = true ∨ c = '-') :
    (c.toNat = 45 ∧ collationWeight c = 0) ∨
    ((48 ≤ c.toNat ∧ c.toNat ≤ 57) ∧ collationWeight c = c.toNat - 47) ∨
    ((97 ≤ c.toNat ∧ c.toNat ≤ 102) ∧ collationWeight c = c.toNat - 86) := by
  rcases h with h | rfl
  · have hlt := isLowerHexDigit_lt h
    have hall : ∀ n < 128, isLowerHexDigit (Char.ofNat n) = true →
        ((48 ≤ n ∧ n ≤ 57) ∧ collationWeight (Char.ofNat n) = n - 47) ∨
        ((97 ≤ n ∧ n ≤ 102) ∧ collationWeight (Char.ofNat n) = n - 86) := by
      decide
    have hc := hall c.toNat hlt
    rw [Char.ofNat_toNat] at hc
    exact .inr (hc h)
  · exact .inl ⟨rfl, rfl⟩

theorem collationWeight_lt_iff {a b : Char} (ha : isLowerHexDigit a = true ∨ a = '-')
    (hb : isLowerHexDigit b = true ∨ b = '-') :
    collationWeight a < collationWeight b ↔ a < b := by
  have hlt : a < b ↔ a.toNat < b.toNat := by
    rw [Char.lt_def, UInt32.lt_iff_toNat_lt]
    exact Iff.rfl
  rw [hlt]
  have ha := collationWeight_cases ha
  have hb := collationWeight_cases hb
  omega

theorem collationWeight_inj {a b : Char} (ha : isLowerHexDigit a = true ∨ a = '-')
    (hb : isLowerHexDigit b = true ∨ b = '-') (h : collationWeight a = collationWeight b) :
    a = b := by
  have hnat : a.toNat = b.toNat := by
    have ha := collationWeight_cases ha
    have hb := collationWeight_cases hb
    omega
  rw [← Char.ofNat_toNat a, hnat, Char.ofNat_toNat]

theorem map_collationWeight_lt_iff {as bs : List Char}
    (has : ∀ c ∈ as, isLowerHexDigit c = true ∨ c = '-')
    (hbs : ∀ c ∈ bs, isLowerHexDigit c = true ∨ c = '-') :
    as.map collationWeight < bs.map collationWeight ↔ as < bs := by
  induction as generalizing bs with
  | nil => cases bs <;> simp
  | cons a as ih =>
    cases bs with
    | nil => simp
    | cons b bs =>
      have ha := has a List.mem_cons_self
      have hb := hbs b List.mem_cons_self
      have hrest := ih (fun c hc => has c (List.mem_cons_of_mem a hc))
        (fun c hc => hbs c (List.mem_cons_of_mem b hc))
      have heq : collationWeight a = collationWeight b ↔ a = b :=
        ⟨collationWeight_inj ha hb, congrArg _⟩
      rw [List.map_cons, List.map_cons, List.cons_lt_cons_iff, List.cons_lt_cons_iff, hrest, heq,
        collationWeight_lt_iff ha hb]

/-- The characters of a canonical identifier. -/
theorem uuid_chars (id : UuidV4) : ∀ c ∈ id.value.toList, isLowerHexDigit c = true ∨ c = '-' := by
  intro c hc
  have hpattern : isHexDigit c = true ∨ c = '-' := by
    obtain ⟨p, hp, hpc⟩ := JsString.fits_mem id.wellFormed c hc
    exact uuidV4Pattern_char hp hpc
  have hlower : c.toLower = c := by
    have hmap : id.value.toList.map Char.toLower = id.value.toList := by
      conv_rhs => rw [← id.canonical, JsString.toLowerCase, String.toList_ofList]
    rw [← List.map_id id.value.toList, List.map_map] at hmap
    exact List.map_inj_left.mp hmap c hc
  refine hpattern.imp_left fun hhex => ?_
  have hall : ∀ n < 128, isHexDigit (Char.ofNat n) = true →
      (Char.ofNat n).toLower = Char.ofNat n → isLowerHexDigit (Char.ofNat n) = true := by
    decide
  have := hall c.toNat (isHexDigit_lt hhex)
  rw [Char.ofNat_toNat] at this
  exact this hhex hlower

theorem weights_injective :
    Function.Injective fun id : DeviceId => id.value.toList.map collationWeight := by
  intro left right h
  have hle : ∀ {left right : DeviceId}, left.value.toList.map collationWeight =
      right.value.toList.map collationWeight → left.value ≤ right.value := by
    intro left right h
    refine not_lt.mp fun hlt => ?_
    have hweights := (map_collationWeight_lt_iff (uuid_chars right) (uuid_chars left)).mpr
      (String.lt_iff_toList_lt.mp hlt)
    rw [h] at hweights
    exact lt_irrefl _ hweights
  exact UuidV4.ext (le_antisymm (hle h) (hle h.symm))

theorem compare_list_lt_iff {as bs : List ℕ} : compare as bs = .lt ↔ as < bs := by
  change List.compareLex compare as bs = .lt ↔ as < bs
  induction as generalizing bs with
  | nil => cases bs <;> simp [List.compareLex]
  | cons a as ih =>
    cases bs with
    | nil => simp [List.compareLex]
    | cons b bs =>
      rw [List.compareLex_cons_cons, Ordering.then_eq_lt, ih, compare_lt_iff_lt, compare_eq_iff_eq,
        List.cons_lt_cons_iff]

namespace Collation

/-- The root collation of the ids: their letters are lower-case and their hyphens stand at the same
places, so the weights of the characters decide. -/
def root : Collation := ofKey (fun id => id.value.toList.map collationWeight) weights_injective

/-- On canonical identifiers the root collation is the order of the texts. -/
theorem root_eq_binary (left right : DeviceId) :
    root.localeCompare left right = binary.localeCompare left right := by
  have hlt : ∀ left right : DeviceId, root.localeCompare left right = .lt ↔
      binary.localeCompare left right = .lt := by
    intro left right
    rw [binary_lt_iff, String.lt_iff_toList_lt,
      ← map_collationWeight_lt_iff (uuid_chars left) (uuid_chars right)]
    exact compare_list_lt_iff
  exact localeCompare_congr (hlt left right) (hlt right left)

/-- What the Danish collation compares: `aa` is one letter, which comes last. -/
def danishElements : List Char → List ℕ
  | 'a' :: 'a' :: rest => 17 :: danishElements rest
  | c :: rest => collationWeight c :: danishElements rest
  | [] => []

/-- The letter `aa` as the two letters it is written with. -/
def spellOut (weight : ℕ) : List ℕ :=
  if weight = 17 then [collationWeight 'a', collationWeight 'a'] else [weight]

theorem spellOut_danishElements {cs : List Char}
    (hcs : ∀ c ∈ cs, isLowerHexDigit c = true ∨ c = '-') :
    (danishElements cs).flatMap spellOut = cs.map collationWeight := by
  fun_induction danishElements cs with
  | case1 rest ih =>
    have hrest := ih fun c hc => hcs c (List.mem_cons_of_mem _ (List.mem_cons_of_mem _ hc))
    rw [List.flatMap_cons, hrest]
    rfl
  | case2 c rest _ ih =>
    have hweight := collationWeight_cases (hcs c List.mem_cons_self)
    have hne : collationWeight c ≠ 17 := by omega
    rw [List.flatMap_cons, ih fun c' hc => hcs c' (List.mem_cons_of_mem c hc), spellOut,
      if_neg hne]
    rfl
  | case3 => rfl

theorem danishElements_injective :
    Function.Injective fun id : DeviceId => danishElements id.value.toList := by
  intro left right h
  refine weights_injective ?_
  dsimp only at h ⊢
  rw [← spellOut_danishElements (uuid_chars left), h, spellOut_danishElements (uuid_chars right)]

/-- The Danish (and Norwegian) collation of the ids. -/
def danish : Collation := ofKey (fun id => danishElements id.value.toList) danishElements_injective

end Collation

/-! ## The order of a listing -/

section Listing
variable {locale : Collation}

/-- By `createdAt`, then by `deviceId`. -/
def ListedBefore (locale : Collation) (left right : StoredDevice) : Prop :=
  left.createdAtMs < right.createdAtMs ∨ left.createdAtMs = right.createdAtMs ∧
    (locale.localeCompare left.deviceId right.deviceId).isLE = true

theorem compareListed_isLE (left right : StoredDevice) :
    (compareListed locale left right).isLE = true ↔ ListedBefore locale left right := by
  unfold compareListed ListedBefore
  rcases lt_trichotomy left.createdAtMs right.createdAtMs with h | h | h
  · rw [compare_lt_iff_lt.mpr h]
    simp [h]
  · rw [compare_eq_iff_eq.mpr h]
    simp [h]
  · rw [compare_gt_iff_gt.mpr h]
    have hne : ¬ left.createdAtMs = right.createdAtMs := h.ne'
    simp [h.le, hne]

theorem ListedBefore.trans {a b c : StoredDevice} (hab : ListedBefore locale a b)
    (hbc : ListedBefore locale b c) : ListedBefore locale a c := by
  rcases hab with hab | ⟨hab, hab'⟩
  · rcases hbc with hbc | ⟨hbc, -⟩
    · exact .inl (hab.trans hbc)
    · exact .inl (hbc ▸ hab)
  · rcases hbc with hbc | ⟨hbc, hbc'⟩
    · exact .inl (hab ▸ hbc)
    · exact .inr ⟨hab.trans hbc, Std.TransCmp.isLE_trans hab' hbc'⟩

theorem ListedBefore.total (a b : StoredDevice) :
    ListedBefore locale a b ∨ ListedBefore locale b a := by
  rcases lt_trichotomy a.createdAtMs b.createdAtMs with h | h | h
  · exact .inl (.inl h)
  · by_cases hle : (locale.localeCompare a.deviceId b.deviceId).isLE = true
    · exact .inl (.inr ⟨h, hle⟩)
    · have hlt := Std.OrientedCmp.lt_of_not_isLE hle
      exact .inr (.inr ⟨h.symm, by rw [hlt]; rfl⟩)
  · exact .inr (.inl h)

/-- The devices of the owner in the order of the comparison. -/
def listing (compareDevices : StoredDevice → StoredDevice → Ordering)
    (records : OrderedMap DeviceId StoredDevice) (ownerId : String) : List Schemas.Device :=
  ((records.values.filter (·.ownerId = ownerId)).mergeSort
    fun left right => (compareDevices left right).isLE).map toSnapshot

/-- A listing of an owner: exactly the owner's devices, each once, by `createdAt` and then by
`deviceId`. -/
structure Lists (locale : Collation) (records : OrderedMap DeviceId StoredDevice) (ownerId : String)
    (devices : List Schemas.Device) : Prop where
  exact : ∀ device, device ∈ devices ↔
    ∃ d record, records.get? d = some record ∧ record.ownerId = ownerId ∧ device = toSnapshot record
  once : (devices.map (·.deviceId)).Nodup
  ordered : devices.Pairwise fun left right => left.createdAt < right.createdAt ∨
    left.createdAt = right.createdAt ∧
      locale.localeCompare left.deviceId right.deviceId = .lt

/-- A listing of a map that keeps every device under its id. -/
theorem listing_lists {records : OrderedMap DeviceId StoredDevice}
    (hkeyed : ∀ d record, records.get? d = some record → record.deviceId = d) (ownerId : String) :
    Lists locale records ownerId (listing (compareListed locale) records ownerId) := by
  have hperm := List.mergeSort_perm (records.values.filter (·.ownerId = ownerId))
    fun left right => (compareListed locale left right).isLE
  have hids : (records.values.map (·.deviceId)) = records.keys := by
    unfold OrderedMap.values OrderedMap.keys
    rw [List.map_map]
    refine List.map_congr_left fun entry hentry => ?_
    exact hkeyed _ _ ((OrderedMap.mem_entries_iff records entry.1 entry.2).mp hentry)
  have hnodup : ((listing (compareListed locale) records ownerId).map (·.deviceId)).Nodup := by
    unfold listing
    rw [List.map_map]
    refine ((hperm.map _).nodup_iff).mpr ?_
    refine List.Nodup.sublist (List.filter_sublist.map _) ?_
    exact hids.symm ▸ records.nodup
  refine ⟨fun device => ?_, hnodup, ?_⟩
  · unfold listing
    rw [List.mem_map]
    constructor
    · rintro ⟨record, hrecord, rfl⟩
      rw [hperm.mem_iff, List.mem_filter, OrderedMap.mem_values_iff] at hrecord
      obtain ⟨⟨d, hd⟩, howner⟩ := hrecord
      exact ⟨d, record, hd, of_decide_eq_true howner, rfl⟩
    · rintro ⟨d, record, hd, howner, rfl⟩
      refine ⟨record, ?_, rfl⟩
      rw [hperm.mem_iff, List.mem_filter, OrderedMap.mem_values_iff]
      exact ⟨⟨d, hd⟩, decide_eq_true howner⟩
  · have hsorted : ((records.values.filter (·.ownerId = ownerId)).mergeSort fun left right =>
        (compareListed locale left right).isLE).Pairwise fun left right =>
          (compareListed locale left right).isLE = true := List.pairwise_mergeSort
      (fun a b c hab hbc => (compareListed_isLE a c).mpr
        (((compareListed_isLE a b).mp hab).trans ((compareListed_isLE b c).mp hbc)))
      (fun a b => by
        rw [Bool.or_eq_true, compareListed_isLE, compareListed_isLE]
        exact ListedBefore.total a b)
      (records.values.filter (·.ownerId = ownerId))
    unfold listing at hnodup ⊢
    rw [List.map_map, List.nodup_iff_pairwise_ne, List.pairwise_map] at hnodup
    rw [List.pairwise_map]
    refine (hsorted.and hnodup).imp fun {a b} h => ?_
    obtain ⟨hle, hne⟩ := h
    rcases (compareListed_isLE a b).mp hle with hlt | ⟨heq, hids⟩
    · exact .inl hlt
    · refine .inr ⟨heq, (Ordering.isLE_iff_eq_lt_or_eq_eq.mp hids).resolve_right fun h => ?_⟩
      exact hne (Std.LawfulEqCmp.eq_of_compare h)

/-- A listing is determined by the owner's devices. -/
theorem Lists.unique {records records' : OrderedMap DeviceId StoredDevice} {ownerId : String}
    {devices devices' : List Schemas.Device} (h : Lists locale records ownerId devices)
    (h' : Lists locale records' ownerId devices')
    (hsame : ∀ d record, record.ownerId = ownerId →
      (records.get? d = some record ↔ records'.get? d = some record)) : devices = devices' := by
  have hmem : ∀ device, device ∈ devices ↔ device ∈ devices' := by
    intro device
    rw [h.exact, h'.exact]
    constructor
    · rintro ⟨d, record, hrecord, howner, rfl⟩
      exact ⟨d, record, (hsame d record howner).mp hrecord, howner, rfl⟩
    · rintro ⟨d, record, hrecord, howner, rfl⟩
      exact ⟨d, record, (hsame d record howner).mpr hrecord, howner, rfl⟩
  have hperm := (List.perm_ext_iff_of_nodup h.once.of_map h'.once.of_map).mpr hmem
  refine hperm.eq_of_pairwise (fun a b _ _ hab hba => ?_) h.ordered h'.ordered
  rcases hab with hab | ⟨heq, hab⟩
  · rcases hba with hba | ⟨hba, -⟩
    · exact absurd hba hab.asymm
    · exact absurd hba hab.ne'
  · rcases hba with hba | ⟨-, hba⟩
    · exact absurd hba heq.not_gt
    · exact absurd hba (Std.OrientedCmp.not_lt_of_lt hab)

/-- Whether the locale orders those devices of the owner that were created at one instant as their
ids are ordered as texts. -/
def CollatesAsText (locale : Collation) (records : OrderedMap DeviceId StoredDevice)
    (ownerId : String) : Prop :=
  ∀ d left d' right, records.get? d = some left → records.get? d' = some right →
    left.ownerId = ownerId → right.ownerId = ownerId → left.createdAtMs = right.createdAtMs →
      locale.localeCompare left.deviceId right.deviceId =
        Collation.binary.localeCompare left.deviceId right.deviceId

/-- A listing is one by the texts of the ids exactly where the locale orders them so. -/
theorem Lists.binary_iff {records : OrderedMap DeviceId StoredDevice} {ownerId : String}
    {devices : List Schemas.Device} (h : Lists locale records ownerId devices) :
    Lists .binary records ownerId devices ↔ CollatesAsText locale records ownerId := by
  constructor
  · intro h' d left d' right hleft hright howner howner' hcreated
    let Same (a b : Schemas.Device) : Prop := a.createdAt = b.createdAt →
      locale.localeCompare a.deviceId b.deviceId =
        Collation.binary.localeCompare a.deviceId b.deviceId
    have : Std.Symm Same := ⟨fun a b hab hcreated =>
      calc locale.localeCompare b.deviceId a.deviceId
        _ = (locale.localeCompare a.deviceId b.deviceId).swap := Std.OrientedCmp.eq_swap
        _ = (Collation.binary.localeCompare a.deviceId b.deviceId).swap := by rw [hab hcreated.symm]
        _ = Collation.binary.localeCompare b.deviceId a.deviceId := Std.OrientedCmp.eq_swap.symm⟩
    have hself : ∀ a ∈ devices, Same a a := fun a _ _ =>
      Std.ReflCmp.compare_self.trans Std.ReflCmp.compare_self.symm
    -- of two devices one stands before the other, for either order
    have hpairs : devices.Pairwise Same := (h.ordered.and h'.ordered).imp
      fun {a b} hab hcreated => by
        have hlocale := (hab.1.resolve_left hcreated.not_lt).2
        exact hlocale.trans (hab.2.resolve_left hcreated.not_lt).2.symm
    exact hpairs.forall_of_forall hself ((h.exact _).mpr ⟨d, left, hleft, howner, rfl⟩)
      ((h.exact _).mpr ⟨d', right, hright, howner', rfl⟩) hcreated
  · intro hcollates
    refine ⟨h.exact, h.once, h.ordered.imp_of_mem fun {a b} ha hb hab => hab.imp_right ?_⟩
    rintro ⟨hcreated, hlocale⟩
    obtain ⟨d, left, hleft, howner, rfl⟩ := (h.exact a).mp ha
    obtain ⟨d', right, hright, howner', rfl⟩ := (h.exact b).mp hb
    have hsame := hcollates d left d' right hleft hright howner howner' hcreated
    exact ⟨hcreated, hsame.symm.trans hlocale⟩

end Listing
end Doctmcp.Device

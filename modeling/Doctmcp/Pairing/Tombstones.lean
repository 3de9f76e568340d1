import Mathlib.Data.List.DropRight
import Doctmcp.Pairing.Agreement

/-! # Codes are not used again

A code that a session was created with stays known: it is the code of a stored session until that is
pruned, and a tombstone afterwards, for good in SQLite and for as long as the queue of the in-memory
repository has room. The queue is the newest part of the list of all pruned codes
(`InStep`, `Prunes`), so a code that is gone from it was pruned long ago. -/

namespace Doctmcp.Pairing
open Doctmcp.Lib Doctmcp.Lib.Operation Doctmcp.Schemas Doctmcp.Device Doctmcp.Storage
set_option autoImplicit false

/-! ## The newest part of a list -/

section Newest
variable {A : Type} {n : ℕ}

theorem rtake_of_le {xs : List A} (h : xs.length ≤ n) : xs.rtake n = xs := by
  rw [List.rtake, Nat.sub_eq_zero_of_le h]
  rfl

theorem length_rtake_le (xs : List A) : (xs.rtake n).length ≤ n := by
  rw [List.rtake, List.length_drop]
  omega

theorem rtake_sublist (xs : List A) : List.Sublist (xs.rtake n) xs := List.drop_sublist _ _

theorem rtake_append (xs ys : List A) : (xs.rtake n ++ ys).rtake n = (xs ++ ys).rtake n := by
  simp only [List.rtake_eq_reverse_take_reverse, List.reverse_append, List.reverse_reverse,
    List.take_append, List.take_take]
  congr 3
  omega

/-- What is not in the newest part has as many after it. -/
theorem le_length_of_not_mem {d : A} {xs ys : List A} (h : d ∉ (xs ++ d :: ys).rtake n) :
    n ≤ ys.length := by
  by_contra hlt
  refine h ?_
  have hdrop : (xs ++ d :: ys).length - n ≤ xs.length := by
    rw [List.length_append, List.length_cons]
    omega
  rw [List.rtake, List.drop_append_of_le_length hdrop]
  exact List.mem_append_right _ List.mem_cons_self

end Newest

/-! ## The in-memory repository -/

namespace InMemoryPairingSessionRepository

/-- A stored session has the code. -/
def Live (m : InMemoryPairingSessionRepository) (digest : HexDigest) : Prop :=
  ∃ p record, m.recordsById.get? p = some record ∧ record.codeDigest = digest

/-- The index, the tombstones and their queue are in step with the sessions. -/
structure InStep (m : InMemoryPairingSessionRepository) : Prop where
  keyed : ∀ p record, m.recordsById.get? p = some record → record.pairingSessionId = p
  index : ∀ digest p, m.sessionIdByDigest.get? digest = some p ↔
    ∃ record, m.recordsById.get? p = some record ∧ record.codeDigest = digest
  /-- The set and the queue hold the same codes, -/
  tombstones : ∀ digest, digest ∈ m.expiredCodeTombstones ↔ digest ∈ m.expiredCodeTombstoneOrder
  /-- without repetition, -/
  set_nodup : m.expiredCodeTombstones.Nodup
  order_nodup : m.expiredCodeTombstoneOrder.Nodup
  /-- and none of a stored session. -/
  disjoint : ∀ digest ∈ m.expiredCodeTombstoneOrder, ¬ m.Live digest
  bounded : m.expiredCodeTombstoneOrder.length ≤ defaultPairingExpiredCodeTombstones

theorem inStep_new : InStep new where
  keyed p record h := by cases h
  index digest p := by
    constructor
    · intro h
      cases h
    · rintro ⟨record, h, -⟩
      cases h
  tombstones _ := Iff.rfl
  set_nodup := List.nodup_nil
  order_nodup := List.nodup_nil
  disjoint digest h := by cases h
  bounded := Nat.zero_le _

/-- Codes were pruned: the queue has the newest of them, and a code that is no longer that of a
session is one of them. -/
structure Prunes (m m' : InMemoryPairingSessionRepository) (codes : List HexDigest) : Prop where
  inStep : InStep m'
  order : m'.expiredCodeTombstoneOrder =
    (m.expiredCodeTombstoneOrder ++ codes).rtake defaultPairingExpiredCodeTombstones
  live : ∀ digest, m.Live digest → m'.Live digest ∨ digest ∈ codes

theorem Prunes.trans {m m' m'' : InMemoryPairingSessionRepository} {codes codes' : List HexDigest}
    (h : Prunes m m' codes) (h' : Prunes m' m'' codes') : Prunes m m'' (codes ++ codes') where
  inStep := h'.inStep
  order := by
    rw [h'.order, h.order, rtake_append, List.append_assoc]
  live digest hlive := by
    rcases h.live digest hlive with hlive' | hmem
    · exact (h'.live digest hlive').imp_right (List.mem_append_right codes)
    · exact .inr (List.mem_append_left codes' hmem)

theorem InStep.unpruned {m : InMemoryPairingSessionRepository} (h : InStep m) : Prunes m m [] where
  inStep := h
  order := by rw [List.append_nil, rtake_of_le h.bounded]
  live _ hlive := .inl hlive

theorem dropOldest_eq (tombstones order : List HexDigest) :
    dropOldest tombstones order =
      (tombstones.filter (· ∉ order.take (order.length - defaultPairingExpiredCodeTombstones)),
        order.rtake defaultPairingExpiredCodeTombstones) := by
  induction order generalizing tombstones with
  | nil => simp [dropOldest, List.rtake]
  | cons oldest order ih =>
    unfold dropOldest
    split_ifs with hfull
    · have hcount : (oldest :: order).length - defaultPairingExpiredCodeTombstones =
          (order.length - defaultPairingExpiredCodeTombstones) + 1 := by
        rw [List.length_cons] at hfull ⊢
        omega
      rw [ih]
      refine congrArg₂ Prod.mk ?_ ?_
      · rw [hcount, List.take_succ_cons, List.filter_filter]
        apply List.filter_congr
        intro digest _
        by_cases hd : digest = oldest
        · simp [hd]
        · simp [hd]
      · rw [List.rtake, List.rtake, hcount, List.drop_succ_cons]
    · rw [rtake_of_le (Nat.not_lt.mp hfull), Nat.sub_eq_zero_of_le (Nat.not_lt.mp hfull)]
      simp

variable {options : PairingRepositoryOptions} {m m' : InMemoryPairingSessionRepository} {atMs : ℤ}

/-! ### Pruning -/

/-- One turn of the loop, for a stored session that is due. -/
theorem InStep.pruneRecord (h : InStep m) {record : StoredPairingSession}
    (hrecord : m.recordsById.get? record.pairingSessionId = some record)
    (hdue : isPrunable options atMs record = true) (n : ℕ) :
    Prunes m (pruneRecord options atMs (m, n) record).1 [record.codeDigest] ∧
      ∀ p, p ≠ record.pairingSessionId →
        (InMemoryPairingSessionRepository.pruneRecord options atMs (m, n) record).1.recordsById.get? p =
          m.recordsById.get? p := by
  have hnew : record.codeDigest ∉ m.expiredCodeTombstoneOrder :=
    fun hmem => h.disjoint _ hmem ⟨_, record, hrecord, rfl⟩
  have hnew' : record.codeDigest ∉ m.expiredCodeTombstones :=
    fun hmem => hnew ((h.tombstones _).mp hmem)
  have hle : ¬ pruneAtMs options record > atMs := Int.not_lt.mpr (of_decide_eq_true hdue)
  have hafter : (InMemoryPairingSessionRepository.pruneRecord options atMs (m, n) record).1 =
      { recordsById := m.recordsById.delete record.pairingSessionId
        sessionIdByDigest := m.sessionIdByDigest.delete record.codeDigest
        expiredCodeTombstones := (record.codeDigest :: m.expiredCodeTombstones).filter
          (· ∉ (m.expiredCodeTombstoneOrder ++ [record.codeDigest]).take
            ((m.expiredCodeTombstoneOrder ++ [record.codeDigest]).length -
              defaultPairingExpiredCodeTombstones))
        expiredCodeTombstoneOrder := (m.expiredCodeTombstoneOrder ++ [record.codeDigest]).rtake
          defaultPairingExpiredCodeTombstones } := by
    unfold InMemoryPairingSessionRepository.pruneRecord
    rw [if_neg hle]
    dsimp only
    rw [if_neg hnew', dropOldest_eq]
  rw [hafter]
  have horder : (m.expiredCodeTombstoneOrder ++ [record.codeDigest]).Nodup :=
    List.Nodup.append h.order_nodup (List.nodup_singleton _) (List.disjoint_singleton.mpr hnew)
  have hget : ∀ p, (m.recordsById.delete record.pairingSessionId).get? p =
      if p = record.pairingSessionId then none else m.recordsById.get? p :=
    fun p => OrderedMap.get?_delete _ _ _
  -- The code of a session is that of no other.
  have hunique : ∀ p other, m.recordsById.get? p = some other →
      other.codeDigest = record.codeDigest → p = record.pairingSessionId := by
    intro p other hother hcode
    have hp := (h.index record.codeDigest p).mpr ⟨other, hother, hcode⟩
    rw [(h.index record.codeDigest record.pairingSessionId).mpr ⟨record, hrecord, rfl⟩] at hp
    exact (Option.some.inj hp).symm
  refine ⟨⟨⟨?_, ?_, ?_, ?_, ?_, ?_, ?_⟩, ?_, ?_⟩, ?_⟩
  · intro p other hother
    rw [hget] at hother
    split_ifs at hother
    exact h.keyed p other hother
  · intro digest p
    show (m.sessionIdByDigest.delete record.codeDigest).get? digest = some p ↔ _
    rw [OrderedMap.get?_delete]
    simp only [hget]
    by_cases hd : digest = record.codeDigest
    · rw [if_pos hd]
      constructor
      · intro hnone
        cases hnone
      · rintro ⟨other, hother, hcode⟩
        split_ifs at hother with hp
        exact absurd (hunique p other hother (hcode.trans hd)) hp
    · rw [if_neg hd, h.index]
      constructor
      · rintro ⟨other, hother, hcode⟩
        refine ⟨other, ?_, hcode⟩
        rw [if_neg ?_]
        · exact hother
        · intro hp
          rw [hp, hrecord] at hother
          exact hd (hcode.symm.trans (congrArg _ (Option.some.inj hother).symm))
      · rintro ⟨other, hother, hcode⟩
        split_ifs at hother
        exact ⟨other, hother, hcode⟩
  · intro digest
    rw [List.mem_filter, List.rtake]
    have hall := List.take_append_drop ((m.expiredCodeTombstoneOrder ++ [record.codeDigest]).length -
      defaultPairingExpiredCodeTombstones) (m.expiredCodeTombstoneOrder ++ [record.codeDigest])
    have hmem : digest ∈ record.codeDigest :: m.expiredCodeTombstones ↔
        digest ∈ m.expiredCodeTombstoneOrder ++ [record.codeDigest] := by
      rw [List.mem_cons, List.mem_append, List.mem_singleton, h.tombstones]
      exact or_comm
    rw [hmem]
    generalize (m.expiredCodeTombstoneOrder ++ [record.codeDigest]).length -
      defaultPairingExpiredCodeTombstones = k at hall ⊢
    rw [← hall] at horder
    constructor
    · rintro ⟨hd, hkept⟩
      rw [← hall] at hd
      exact (List.mem_append.mp hd).resolve_left (of_decide_eq_true hkept)
    · intro hd
      refine ⟨List.mem_of_mem_drop hd, decide_eq_true fun htaken => ?_⟩
      exact List.disjoint_of_nodup_append horder htaken hd
  · dsimp only
    exact (List.nodup_cons.mpr ⟨hnew', h.set_nodup⟩).filter _
  · dsimp only
    exact horder.sublist (rtake_sublist _)
  · dsimp only
    rintro digest hd ⟨p, other, hother, rfl⟩
    rw [hget] at hother
    split_ifs at hother with hp
    have hd' := (rtake_sublist _).subset hd
    rw [List.mem_append, List.mem_singleton] at hd'
    rcases hd' with hold | hcode
    · exact h.disjoint _ hold ⟨p, other, hother, rfl⟩
    · exact hp (hunique p other hother hcode)
  · dsimp only
    exact length_rtake_le _
  · dsimp only
  · rintro digest ⟨p, other, hother, rfl⟩
    by_cases hp : p = record.pairingSessionId
    · rw [hp, hrecord] at hother
      rw [← Option.some.inj hother]
      exact .inr List.mem_cons_self
    · refine .inl ⟨p, other, ?_, rfl⟩
      rw [hget, if_neg hp]
      exact hother
  · intro p hp
    rw [hget, if_neg hp]

theorem InStep.foldl_pruneRecord (h : InStep m) (records : List StoredPairingSession)
    (hids : (records.map (·.pairingSessionId)).Nodup)
    (hstored : ∀ record ∈ records, m.recordsById.get? record.pairingSessionId = some record)
    (n : ℕ) : Prunes m (records.foldl (InMemoryPairingSessionRepository.pruneRecord options atMs)
      (m, n)).1 ((records.filter (isPrunable options atMs)).map (·.codeDigest)) := by
  induction records generalizing m n with
  | nil => exact h.unpruned
  | cons record rest ih =>
    obtain ⟨hfirst, hrest⟩ := List.nodup_cons.mp hids
    rw [List.foldl_cons, List.filter_cons]
    cases hdue : isPrunable options atMs record with
    | false =>
      rw [pruneRecord_kept hdue]
      exact ih h hrest (fun other hother => hstored other (List.mem_cons_of_mem record hother)) n
    | true =>
      obtain ⟨hone, hothers⟩ := h.pruneRecord (hstored record List.mem_cons_self) hdue n
      have hstored' : ∀ other ∈ rest, (InMemoryPairingSessionRepository.pruneRecord options atMs
          (m, n) record).1.recordsById.get? other.pairingSessionId = some other := by
        intro other hother
        have hne : other.pairingSessionId ≠ record.pairingSessionId :=
          fun hsame => hfirst (List.mem_map.mpr ⟨other, hother, hsame⟩)
        rw [hothers _ hne]
        exact hstored other (List.mem_cons_of_mem record hother)
      rw [if_pos rfl, List.map_cons]
      exact hone.trans (ih hone.inStep hrest hstored' _)

/-- `#pruneExpiredRecords` prunes the codes of the sessions that are due. -/
theorem InStep.pruneExpiredRecords (h : InStep m) (atMs : ℤ) :
    Prunes m (InMemoryPairingSessionRepository.pruneExpiredRecords options atMs m).1
      ((prunable options atMs m).map (·.codeDigest)) := by
  have hids : m.recordsById.values.map (·.pairingSessionId) = m.recordsById.keys := by
    unfold OrderedMap.values OrderedMap.keys
    rw [List.map_map]
    apply List.map_congr_left
    rintro ⟨p, record⟩ hentry
    exact h.keyed p record ((OrderedMap.mem_entries_iff _ _ _).mp hentry)
  refine h.foldl_pruneRecord _ (hids ▸ m.recordsById.nodup) ?_ 0
  intro record hrecord
  obtain ⟨p, hp⟩ := (OrderedMap.mem_values_iff _ _).mp hrecord
  rw [h.keyed p record hp]
  exact hp

/-! ### Calls that change sessions in place -/

/-- The sessions keep their ids and codes, and nothing else changes but their state. -/
structure Rewrites (m m' : InMemoryPairingSessionRepository) : Prop where
  index : m'.sessionIdByDigest = m.sessionIdByDigest
  tombstones : m'.expiredCodeTombstones = m.expiredCodeTombstones
  order : m'.expiredCodeTombstoneOrder = m.expiredCodeTombstoneOrder
  records : ∀ p, (m'.recordsById.get? p).map (fun r => (r.pairingSessionId, r.codeDigest)) =
    (m.recordsById.get? p).map fun r => (r.pairingSessionId, r.codeDigest)

theorem Rewrites.refl (m : InMemoryPairingSessionRepository) : Rewrites m m :=
  ⟨rfl, rfl, rfl, fun _ => rfl⟩

theorem Rewrites.symm (h : Rewrites m m') : Rewrites m' m :=
  ⟨h.index.symm, h.tombstones.symm, h.order.symm, fun p => (h.records p).symm⟩

theorem Rewrites.record (h : Rewrites m m') {p : PairingSessionId} {record : StoredPairingSession}
    (hrecord : m'.recordsById.get? p = some record) : ∃ before, m.recordsById.get? p = some before ∧
      before.pairingSessionId = record.pairingSessionId ∧ before.codeDigest = record.codeDigest := by
  have hsame := h.records p
  rw [hrecord, Option.map_some, eq_comm, Option.map_eq_some_iff] at hsame
  obtain ⟨before, hbefore, heq⟩ := hsame
  exact ⟨before, hbefore, congrArg Prod.fst heq, congrArg Prod.snd heq⟩

theorem Rewrites.live (h : Rewrites m m') {digest : HexDigest} (hlive : m'.Live digest) :
    m.Live digest := by
  obtain ⟨p, record, hrecord, rfl⟩ := hlive
  obtain ⟨before, hbefore, -, hcode⟩ := h.record hrecord
  exact ⟨p, before, hbefore, hcode⟩

theorem Rewrites.prunes (h : Rewrites m m') (hm : InStep m) : Prunes m m' [] where
  inStep :=
    { keyed := by
        intro p record hrecord
        obtain ⟨before, hbefore, hid, -⟩ := h.record hrecord
        exact hid.symm.trans (hm.keyed p before hbefore)
      index := by
        intro digest p
        rw [h.index, hm.index]
        constructor
        · rintro ⟨before, hbefore, rfl⟩
          obtain ⟨record, hrecord, -, hcode⟩ := h.symm.record hbefore
          exact ⟨record, hrecord, hcode⟩
        · rintro ⟨record, hrecord, rfl⟩
          obtain ⟨before, hbefore, -, hcode⟩ := h.record hrecord
          exact ⟨before, hbefore, hcode⟩
      tombstones := by
        intro digest
        rw [h.tombstones, h.order]
        exact hm.tombstones digest
      set_nodup := h.tombstones ▸ hm.set_nodup
      order_nodup := h.order ▸ hm.order_nodup
      disjoint := fun digest hmem hlive => hm.disjoint digest (h.order ▸ hmem) (h.live hlive)
      bounded := h.order ▸ hm.bounded }
  order := by rw [h.order, List.append_nil, rtake_of_le hm.bounded]
  live _ hlive := .inl (h.symm.live hlive)

theorem rewrites_update {p : PairingSessionId} {record record' : StoredPairingSession}
    (hm : InStep m) (hrecord : m.recordsById.get? p = some record)
    (hid : record'.pairingSessionId = record.pairingSessionId)
    (hcode : record'.codeDigest = record.codeDigest) : Rewrites m (m.update record') := by
  refine ⟨rfl, rfl, rfl, ?_⟩
  intro q
  show ((m.recordsById.set record'.pairingSessionId record').get? q).map _ = _
  rw [OrderedMap.get?_set, hid, hm.keyed p record hrecord]
  split_ifs with hq
  · rw [hq, hrecord, Option.map_some, Option.map_some, hid, hcode]
  · rfl

theorem rewrites_expire (atMs : ℤ) : Rewrites m { m with
    recordsById := m.recordsById.mapValues fun _ => expireRecord atMs } := by
  refine ⟨rfl, rfl, rfl, ?_⟩
  intro p
  rw [OrderedMap.get?_mapValues, Option.map_map]
  congr 1
  funext record
  show ((expireRecord atMs record).pairingSessionId, (expireRecord atMs record).codeDigest) = _
  unfold expireRecord
  split_ifs
  · rfl
  · rfl

variable {s : MemoryStore}

/-- What a call leaves of the pairing repository. -/
def Leaves {α : Type} (s : MemoryStore) (result : Except JsError α × MemoryStore) : Prop :=
  Rewrites s.pairings result.2.pairings

theorem claim_leaves (hs : InStep s.pairings) (now : JsDate) (source : DeviceSource)
    (input : ClaimPairingRecordInput) : Leaves s (exec (claim now source input) s) := by
  unfold claim
  refine exec_bind_cases (fun _ _ => .refl _) fun digest _ => ?_
  refine exec_bind_cases (fun _ _ => .refl _) fun claimedAtMs _ => ?_
  rw [exec_get_bind]
  cases hfound : (s.pairings.sessionIdByDigest.get? digest).bind s.pairings.recordsById.get? with
  | none => exact .refl _
  | some record =>
    obtain ⟨p, -, hrecord⟩ := Option.bind_eq_some_iff.mp hfound
    dsimp only
    split_ifs
    · rw [exec_set_bind]
      exact rewrites_update hs hrecord rfl rfl
    · refine exec_failIf_cases (fun _ => .refl _) fun _ => ?_
      refine exec_failIf_cases (fun _ => .refl _) fun _ => ?_
      rw [exec_bind, exec_onDevices]
      rcases exec (InMemoryDeviceRepository.create source input.claim) s.devices with ⟨result, devices⟩
      cases result with
      | error e => exact .refl _
      | ok device =>
        dsimp only
        rw [exec_get_bind, exec_set_bind]
        have hclaimed : Rewrites s.pairings
            (s.pairings.update (record.claimBy claimedAtMs device.deviceId)) :=
          rewrites_update hs hrecord rfl rfl
        exact exec_bind_cases (fun _ _ => hclaimed) fun _ _ => hclaimed

theorem cancel_leaves (hs : InStep s.pairings) (id : String) (cancelledAt : JsDate) :
    Leaves s (exec (cancel id cancelledAt) s) := by
  unfold cancel
  refine exec_bind_cases (fun _ _ => .refl _) fun parsedId _ => ?_
  refine exec_bind_cases (fun _ _ => .refl _) fun cancelledAtMs _ => ?_
  rw [exec_get_bind]
  cases hrecord : s.pairings.recordsById.get? parsedId with
  | none => exact .refl _
  | some record =>
    have hleft : ∀ state, Rewrites s.pairings (s.pairings.update { record with state := state }) :=
      fun state => rewrites_update hs hrecord rfl rfl
    dsimp only
    split_ifs
    · have hexpired := hleft .expired
      rw [exec_set_bind]
      rw [exec_lift]
      exact hexpired
    · have hcancelled := hleft .cancelled
      refine exec_failIf_cases (fun _ => .refl _) fun _ => ?_
      refine exec_failIf_cases (fun _ => .refl _) fun _ => ?_
      rw [exec_set_bind]
      rw [exec_lift]
      exact hcancelled

theorem expire_leaves (s : MemoryStore) (expiredAt : JsDate) :
    Leaves s (exec (expire expiredAt) s) := by
  unfold expire
  refine exec_bind_cases (fun _ _ => .refl _) fun expiredAtMs _ => ?_
  rw [exec_get_bind, exec_set_bind]
  exact rewrites_expire expiredAtMs

theorem getById_leaves (s : MemoryStore) (id : String) : Leaves s (exec (getById id) s) := by
  unfold getById
  refine exec_bind_cases (fun _ _ => .refl _) fun parsedId _ => ?_
  rw [exec_get_bind]
  cases s.pairings.recordsById.get? parsedId with
  | none => exact .refl _
  | some record => exact exec_bind_cases (fun _ _ => .refl _) fun _ _ => .refl _

/-! ### create -/

/-- What `create` does with a session that passes its checks: it prunes, and takes the session if
its id and its code are free. -/
inductive CreateOutcome (options : PairingRepositoryOptions) (record : StoredPairingSession)
    (s : MemoryStore) : Except JsError PairingSession × MemoryStore → Prop
  | refused (e : JsError) : CreateOutcome options record s (.error e, prunedFor options record s)
  | accepted (session : PairingSession)
      (hid : (prunedFor options record s).pairings.recordsById.get? record.pairingSessionId = none)
      (hcode : (prunedFor options record s).pairings.sessionIdByDigest.get? record.codeDigest = none)
      (htombstone : record.codeDigest ∉ (prunedFor options record s).pairings.expiredCodeTombstones) :
      CreateOutcome options record s (.ok session, { s with
        pairings := (prunedFor options record s).pairings.insert record })

theorem createRecord_outcome (options : PairingRepositoryOptions) (record : StoredPairingSession)
    (s : MemoryStore) : CreateOutcome options record s (exec (createRecord options record) s) := by
  unfold createRecord
  rw [exec_get_bind, exec_set_bind]
  refine exec_failIf_cases (fun _ => .refused _) fun hid => ?_
  refine exec_failIf_cases (fun _ => .refused _) fun hcode => ?_
  refine exec_failIf_cases (fun _ => .refused _) fun _ => ?_
  refine exec_bind_cases (fun _ _ => .refused _) fun session _ => ?_
  rw [exec_set_bind, exec_pure]
  refine .accepted session ?_ ?_ fun hmem => hcode (.inr hmem)
  · exact (OrderedMap.has_false_iff _ _).mp (Bool.eq_false_iff.mpr hid)
  · exact (OrderedMap.has_false_iff _ _).mp (Bool.eq_false_iff.mpr fun hhas => hcode (.inl hhas))

theorem create_cases (options : PairingRepositoryOptions) (input : CreatePairingRecordInput)
    (s : MemoryStore) : (∃ e, newRecord input = .error e ∧
        exec (create options input) s = (.error e, s)) ∨
      ∃ record, newRecord input = .ok record ∧
        CreateOutcome options record s (exec (create options input) s) := by
  rw [create_eq]
  cases hnew : newRecord input with
  | error e => exact .inl ⟨e, rfl, rfl⟩
  | ok record =>
    rw [exec_lift_bind_eq rfl]
    exact .inr ⟨record, rfl, createRecord_outcome options record s⟩

/-- A new session keeps everything in step. -/
theorem InStep.insert (h : InStep m) {record : StoredPairingSession}
    (hid : m.recordsById.get? record.pairingSessionId = none)
    (hcode : m.sessionIdByDigest.get? record.codeDigest = none)
    (htombstone : record.codeDigest ∉ m.expiredCodeTombstones) :
    Prunes m (m.insert record) [] := by
  have hget : ∀ p, (m.insert record).recordsById.get? p =
      if p = record.pairingSessionId then some record else m.recordsById.get? p :=
    fun p => OrderedMap.get?_set _ _ _ _
  have hfree : ∀ p other, m.recordsById.get? p = some other → other.codeDigest ≠ record.codeDigest := by
    intro p other hother hsame
    have hindexed := (h.index record.codeDigest p).mpr ⟨other, hother, hsame⟩
    rw [hcode] at hindexed
    cases hindexed
  have hkept : ∀ {p other}, m.recordsById.get? p = some other → p ≠ record.pairingSessionId := by
    rintro p other hother rfl
    rw [hid] at hother
    cases hother
  refine ⟨⟨?_, ?_, h.tombstones, h.set_nodup, h.order_nodup, ?_, h.bounded⟩, ?_, ?_⟩
  · intro p other hother
    rw [hget] at hother
    split_ifs at hother with hp
    · rw [← Option.some.inj hother, hp]
    · exact h.keyed p other hother
  · intro digest p
    show (m.sessionIdByDigest.set record.codeDigest record.pairingSessionId).get? digest = some p ↔ _
    rw [OrderedMap.get?_set]
    simp only [hget]
    by_cases hd : digest = record.codeDigest
    · rw [if_pos hd]
      constructor
      · intro hp
        exact ⟨record, by rw [if_pos (Option.some.inj hp).symm], hd.symm⟩
      · rintro ⟨other, hother, hsame⟩
        split_ifs at hother with hp
        · rw [hp]
        · exact absurd (hsame.trans hd) (hfree p other hother)
    · rw [if_neg hd, h.index]
      constructor
      · rintro ⟨other, hother, hsame⟩
        exact ⟨other, by rw [if_neg (hkept hother)]; exact hother, hsame⟩
      · rintro ⟨other, hother, hsame⟩
        split_ifs at hother
        · rw [← Option.some.inj hother] at hsame
          exact absurd hsame.symm hd
        · exact ⟨other, hother, hsame⟩
  · rintro digest hmem ⟨p, other, hother, rfl⟩
    rw [hget] at hother
    split_ifs at hother
    · rw [← Option.some.inj hother] at hmem
      exact htombstone ((h.tombstones _).mpr hmem)
    · exact h.disjoint _ hmem ⟨p, other, hother, rfl⟩
  · show m.expiredCodeTombstoneOrder = _
    rw [List.append_nil, rtake_of_le h.bounded]
  · rintro digest ⟨p, other, hother, rfl⟩
    refine .inl ⟨p, other, ?_, rfl⟩
    rw [hget, if_neg (hkept hother)]
    exact hother

/-! ### Histories -/

/-- The codes that a call prunes, in the order of the loop. -/
def prunedCodes (options : PairingRepositoryOptions) (s : MemoryStore) : Call → List HexDigest
  | .create input => match newRecord input with
    | .ok record => (prunable options record.createdAtMs s.pairings).map (·.codeDigest)
    | .error _ => []
  | .pruneExpired (some expiredAtMs) => (prunable options expiredAtMs s.pairings).map (·.codeDigest)
  | _ => []

/-- The codes that a history of calls prunes. -/
def prunedBy (options : PairingRepositoryOptions) : MemoryStore → List Call → List HexDigest
  | _, [] => []
  | s, c :: calls => prunedCodes options s c ++ prunedBy options ((adapter options).call s c).2 calls

theorem prunedBy_append (s : MemoryStore) (calls calls' : List Call) :
    prunedBy options s (calls ++ calls') =
      prunedBy options s calls ++ prunedBy options ((adapter options).after s calls) calls' := by
  induction calls generalizing s with
  | nil => rfl
  | cons c calls ih =>
    show _ ++ prunedBy options _ (calls ++ calls') = (_ ++ prunedBy options _ calls) ++ _
    rw [ih, List.append_assoc]
    rfl

theorem create_prunes (hs : InStep s.pairings) (input : CreatePairingRecordInput) :
    Prunes s.pairings (exec (create options input) s).2.pairings
      (prunedCodes options s (.create input)) := by
  dsimp only [prunedCodes]
  rcases create_cases options input s with ⟨e, hnew, hexec⟩ | ⟨record, hnew, houtcome⟩
  · rw [hnew, hexec]
    exact hs.unpruned
  · rw [hnew]
    have hpruned : Prunes s.pairings (prunedFor options record s).pairings
        ((prunable options record.createdAtMs s.pairings).map (·.codeDigest)) :=
      hs.pruneExpiredRecords record.createdAtMs
    generalize exec (create options input) s = result at houtcome
    cases houtcome with
    | refused e => exact hpruned
    | accepted session hid hcode htombstone =>
      have hinserted := hpruned.trans (hpruned.inStep.insert hid hcode htombstone)
      rw [List.append_nil] at hinserted
      exact hinserted

theorem pruneExpired_prunes (hs : InStep s.pairings) (expiredAt : JsDate) :
    Prunes s.pairings (exec (pruneExpired options expiredAt) s).2.pairings
      (prunedCodes options s (.pruneExpired expiredAt)) := by
  cases expiredAt with
  | none => exact hs.unpruned
  | some expiredAtMs => exact hs.pruneExpiredRecords expiredAtMs

theorem call_prunes (hs : InStep s.pairings) (c : Call) :
    Prunes s.pairings ((adapter options).call s c).2.pairings (prunedCodes options s c) := by
  cases c with
  | create input => exact create_prunes hs input
  | getById id => exact (getById_leaves s id).prunes hs
  | claim now source input => exact (claim_leaves hs now source input).prunes hs
  | cancel id cancelledAt => exact (cancel_leaves hs id cancelledAt).prunes hs
  | expire expiredAt => exact (expire_leaves s expiredAt).prunes hs
  | pruneExpired expiredAt => exact pruneExpired_prunes hs expiredAt
  | createDevice source input => exact hs.unpruned

theorem run_prunes (hs : InStep s.pairings) (calls : List Call) :
    Prunes s.pairings ((adapter options).after s calls).pairings (prunedBy options s calls) := by
  induction calls generalizing s with
  | nil => exact hs.unpruned
  | cons c calls ih =>
    have hcall : Prunes s.pairings ((adapter options).call s c).2.pairings
        (prunedCodes options s c) := call_prunes hs c
    exact hcall.trans (ih hcall.inStep)

theorem after_inStep (options : PairingRepositoryOptions) (devices : InMemoryDeviceRepository)
    (calls : List Call) : InStep ((adapter options).after ⟨new, devices⟩ calls).pairings :=
  (run_prunes (s := ⟨new, devices⟩) inStep_new calls).inStep

theorem newRecord_code {input : CreatePairingRecordInput} {record : StoredPairingSession}
    (h : newRecord input = .ok record) : parseDigest input.codeDigest = .ok record.codeDigest := by
  unfold newRecord at h
  cases hid : parsePairingSessionId input.pairingSessionId with
  | error e => rw [hid] at h; cases h
  | ok id =>
  cases hdigest : parseDigest input.codeDigest with
  | error e => rw [hid, hdigest] at h; cases h
  | ok digest =>
  cases hcreated : readTimestamp input.createdAt "createdAt" with
  | error e => rw [hid, hdigest, hcreated] at h; cases h
  | ok createdAtMs =>
  cases hexpires : readTimestamp input.expiresAt "expiresAt" with
  | error e => rw [hid, hdigest, hcreated, hexpires] at h; cases h
  | ok expiresAtMs =>
    rw [hid, hdigest, hcreated, hexpires] at h
    change (if expiresAtMs ≤ createdAtMs then _ else Except.ok _) = _ at h
    split_ifs at h
    rw [← Except.ok.inj h]

end InMemoryPairingSessionRepository

/-- `create` takes a session with the code. -/
def Adapter.Accepts {S : Type} (A : Adapter S) (s : S) (input : CreatePairingRecordInput)
    (digest : HexDigest) : Prop :=
  parseDigest input.codeDigest = .ok digest ∧ ∃ session, (exec (A.create input) s).1 = .ok session

/-- After the last time that the code was pruned, as many others were as there are tombstones. -/
def OutOfTombstones (codes : List HexDigest) (digest : HexDigest) : Prop :=
  digest ∈ codes ∧ ∀ earlier later, codes = earlier ++ digest :: later →
    defaultPairingExpiredCodeTombstones ≤ later.length

namespace InMemoryPairingSessionRepository
variable {options : PairingRepositoryOptions} {s : MemoryStore}

/-- An accepted code was neither live nor a tombstone once `create` had pruned, and is live. -/
theorem accepts_fresh (hs : InStep s.pairings) {input : CreatePairingRecordInput}
    {digest : HexDigest} (h : (adapter options).Accepts s input digest) :
    digest ∉ (s.pairings.expiredCodeTombstoneOrder ++ prunedCodes options s (.create input)).rtake
      defaultPairingExpiredCodeTombstones ∧
    (s.pairings.Live digest → digest ∈ prunedCodes options s (.create input)) ∧
    (exec (create options input) s).2.pairings.Live digest := by
  obtain ⟨hdigest, session, hsession⟩ := h
  change (exec (create options input) s).1 = .ok session at hsession
  rcases create_cases options input s with ⟨e, hnew, hexec⟩ | ⟨record, hnew, houtcome⟩
  · rw [hexec] at hsession
    cases hsession
  · rw [newRecord_code hnew] at hdigest
    obtain rfl := Except.ok.inj hdigest
    have hpruned : Prunes s.pairings (prunedFor options record s).pairings
        ((prunable options record.createdAtMs s.pairings).map (·.codeDigest)) :=
      hs.pruneExpiredRecords record.createdAtMs
    dsimp only [prunedCodes]
    rw [hnew]
    generalize exec (create options input) s = result at houtcome hsession ⊢
    cases houtcome with
    | refused e => cases hsession
    | accepted session' hid hcode htombstone =>
      refine ⟨?_, ?_, ?_⟩
      · rw [← hpruned.order]
        exact fun hmem => htombstone ((hpruned.inStep.tombstones _).mpr hmem)
      · intro hlive
        refine (hpruned.live _ hlive).resolve_left ?_
        rintro ⟨p, other, hother, hsame⟩
        rw [(hpruned.inStep.index _ p).mpr ⟨other, hother, hsame⟩] at hcode
        cases hcode
      · exact ⟨record.pairingSessionId, record, OrderedMap.get?_set_self _ _ _, rfl⟩

/-- Before the code of a stored session is accepted, it is pruned, and after that as many others as
there are tombstones. -/
theorem pruned_between {middle : List Call} {again : CreatePairingRecordInput} {digest : HexDigest}
    (hs : InStep s.pairings) (hlive : s.pairings.Live digest)
    (hagain : (adapter options).Accepts ((adapter options).after s middle) again digest) :
    OutOfTombstones (prunedBy options s (middle ++ [.create again])) digest := by
  have hmiddle : Prunes s.pairings ((adapter options).after s middle).pairings
      (prunedBy options s middle) := run_prunes hs middle
  obtain ⟨hgone, hpruned, -⟩ := accepts_fresh hmiddle.inStep hagain
  rw [hmiddle.order, rtake_append] at hgone
  have hcodes : prunedBy options s (middle ++ [.create again]) = prunedBy options s middle ++
      prunedCodes options ((adapter options).after s middle) (.create again) := by
    rw [prunedBy_append]
    exact congrArg _ (List.append_nil _)
  rw [hcodes]
  constructor
  · rw [List.mem_append]
    rcases hmiddle.live digest hlive with hstill | hmem
    · exact .inr (hpruned hstill)
    · exact .inl hmem
  · intro earlier later hsplit
    rw [List.append_assoc, hsplit, ← List.append_assoc] at hgone
    exact le_length_of_not_mem hgone

end InMemoryPairingSessionRepository

/-! ## The SQLite repository -/

namespace SqlitePairingSessionRepository
variable {options : PairingRepositoryOptions}

/-- The code is a tombstone or that of a stored session. -/
def Known (db : Database) (digest : HexDigest) : Prop :=
  digest ∈ db.pairingCodeTombstones ∨
    ∃ p row, db.pairingSessions.get? p = some row ∧ row.codeDigest = digest

def Remembers (db db' : Database) : Prop := ∀ digest, Known db digest → Known db' digest

theorem Remembers.refl (db : Database) : Remembers db db := fun _ h => h

theorem Remembers.trans {db db' db'' : Database} (h : Remembers db db') (h' : Remembers db' db'') :
    Remembers db db'' := fun digest hknown => h' digest (h digest hknown)

/-- Where no session loses its code, every code stays known. -/
theorem remembers_of_codes {db db' : Database}
    (htombstones : ∀ digest ∈ db.pairingCodeTombstones, digest ∈ db'.pairingCodeTombstones)
    (hcodes : ∀ p row, db.pairingSessions.get? p = some row →
      row.codeDigest ∈ db'.pairingCodeTombstones ∨
        ∃ row', db'.pairingSessions.get? p = some row' ∧ row'.codeDigest = row.codeDigest) :
    Remembers db db' := by
  rintro digest (hmem | ⟨p, row, hrow, rfl⟩)
  · exact .inl (htombstones digest hmem)
  · rcases hcodes p row hrow with hmem | ⟨row', hrow', hcode⟩
    · exact .inl hmem
    · exact .inr ⟨p, row', hrow', hcode⟩

/-! ### Statements -/

theorem byId_remembers (id : PairingSessionId) : Moves Remembers (byId id) := fun db => .refl db

theorem byDigest_remembers (digest : HexDigest) : Moves Remembers (byDigest digest) :=
  fun db => .refl db

theorem prune_remembers (atMs : ℤ) : Moves Remembers (prune options atMs) := by
  intro db
  refine remembers_of_codes ?_ ?_
  · intro digest hmem
    exact List.mem_append_left _ hmem
  · intro p row hrow
    show row.codeDigest ∈ db.pairingCodeTombstones ++ _ ∨
      ∃ row', (db.pairingSessions.filter _).get? p = some row' ∧ _
    cases hdue : pruneCondition options atMs row with
    | false =>
      refine .inr ⟨row, ?_, rfl⟩
      rw [OrderedMap.get?_filter, hrow, Option.filter_some_pos]
      rw [hdue]
      rfl
    | true =>
      refine .inl ?_
      by_cases hmem : row.codeDigest ∈ db.pairingCodeTombstones
      · exact List.mem_append_left _ hmem
      · refine List.mem_append_right _ (List.mem_filter.mpr ⟨?_, decide_eq_true hmem⟩)
        have hvalue := (OrderedMap.mem_values_iff _ _).mpr ⟨p, hrow⟩
        exact List.mem_map_of_mem (List.mem_filter.mpr ⟨hvalue, hdue⟩)

theorem remembers_set {db : Database} {p : PairingSessionId} {row : PairingRow}
    (h : ∀ old, db.pairingSessions.get? p = some old → row.codeDigest = old.codeDigest) :
    Remembers db { db with pairingSessions := db.pairingSessions.set p row } := by
  refine remembers_of_codes (fun _ hmem => hmem) ?_
  intro q old hold
  by_cases hq : q = p
  · subst hq
    exact .inr ⟨row, OrderedMap.get?_set_self _ _ _, h old hold⟩
  · exact .inr ⟨old, (OrderedMap.get?_set_ne _ _ hq).trans hold, rfl⟩

theorem insertRow_remembers (row : PairingRow) : Moves Remembers (insertRow row) := by
  intro db
  unfold insertRow
  rw [exec_get_bind]
  refine exec_failIf_cases (P := fun r => Remembers db (Prod.snd r)) (fun _ => .refl db) fun _ => ?_
  refine exec_failIf_cases (P := fun r => Remembers db (Prod.snd r)) (fun _ => .refl db) fun hid => ?_
  refine exec_failIf_cases (P := fun r => Remembers db (Prod.snd r)) (fun _ => .refl db) fun _ => ?_
  refine remembers_set ?_
  intro old hold
  exact absurd ((OrderedMap.has_iff _ _).mpr ⟨old, hold⟩) hid

theorem requireReference_remembers (deviceId : Option DeviceId) :
    Moves Remembers (requireReference deviceId) := by
  cases deviceId with
  | none => exact Remembers.refl
  | some id =>
    intro db
    show Remembers db (exec (failIf _ _) db).2
    rw [exec_failIf]
    exact .refl db

/-- An `UPDATE` that does not assign the code. -/
theorem updateRow_remembers (id : PairingSessionId) (condition : PairingRow → Bool)
    {assign : PairingRow → PairingRow} (hcode : ∀ row, (assign row).codeDigest = row.codeDigest) :
    Moves Remembers (updateRow id condition assign) := by
  intro db
  unfold updateRow
  rw [exec_get_bind]
  cases hrow : (db.pairingSessions.get? id).filter condition with
  | none => exact .refl db
  | some row =>
    dsimp only
    refine exec_failIf_cases (P := fun r => Remembers db (Prod.snd r)) (fun _ => .refl db) fun _ => ?_
    rw [exec_bind]
    have hreference := requireReference_remembers (assign row).deviceId db
    rcases href : exec (requireReference (assign row).deviceId) db with ⟨result, db'⟩
    cases result with
    | error e =>
      rw [href] at hreference
      exact hreference
    | ok u =>
      rw [requireReference_ok href]
      dsimp only
      rw [exec_set_bind]
      refine remembers_set ?_
      intro old hold
      rw [hold] at hrow
      have hsame : old = row := Option.some.inj (Option.filter_eq_some_iff.mp hrow).1
      rw [hcode, hsame]

theorem readBack_remembers (id : PairingSessionId) (message : String) :
    Moves Remembers (readBack id message) := by
  unfold readBack
  refine Moves.bind Remembers.trans (byId_remembers id) fun found => ?_
  refine Moves.lift_bind Remembers.refl fun row => ?_
  exact fun db => .refl db

/-! ### Calls -/

theorem createInTransaction_remembers (source : DeviceSource) (input : CreateDeviceInput) :
    Moves Remembers (SqliteDeviceRepository.createInTransaction source input) := by
  intro db
  have houtcome := SqliteDeviceRepository.create_outcome source input db
  generalize exec (SqliteDeviceRepository.createInTransaction source input) db = result at houtcome
  cases houtcome with
  | thrown e => exact .refl db
  | created row hnew => exact remembers_of_codes (fun _ h => h) fun p row h => .inr ⟨row, h, rfl⟩

theorem create_remembers (input : CreatePairingRecordInput) :
    Moves Remembers (create options input) := by
  unfold create
  refine Moves.lift_bind Remembers.refl fun id => ?_
  refine Moves.lift_bind Remembers.refl fun codeDigest => ?_
  refine Moves.lift_bind Remembers.refl fun createdAtMs => ?_
  refine Moves.lift_bind Remembers.refl fun expiresAtMs => ?_
  refine Moves.failIf_bind Remembers.refl fun _ => ?_
  refine Moves.failIf_bind Remembers.refl fun _ => ?_
  refine Moves.transaction Remembers.refl ?_
  refine Moves.bind Remembers.trans (prune_remembers createdAtMs) fun _ => ?_
  refine Moves.bind Remembers.trans (byId_remembers id) fun existing => ?_
  refine Moves.failIf_bind Remembers.refl fun _ => ?_
  refine Moves.bind Remembers.trans (byDigest_remembers codeDigest) fun sameDigest => ?_
  refine Moves.bind Remembers.trans (fun db => Remembers.refl db) fun db => ?_
  refine Moves.failIf_bind Remembers.refl fun _ => ?_
  refine Moves.failIf_bind Remembers.refl fun _ => ?_
  refine Moves.bind Remembers.trans (insertRow_remembers _) fun _ => ?_
  exact readBack_remembers id _

theorem getById_remembers (id : String) : Moves Remembers (getById id) := by
  unfold getById
  refine Moves.lift_bind Remembers.refl fun parsedId => ?_
  refine Moves.bind Remembers.trans (byId_remembers parsedId) fun row => ?_
  cases row with
  | none => exact Remembers.refl
  | some row => exact Moves.lift_bind Remembers.refl fun _ => Remembers.refl

theorem claim_remembers (now : JsDate) (source : DeviceSource) (input : ClaimPairingRecordInput) :
    Moves Remembers (claim now source input) := by
  unfold claim
  refine Moves.lift_bind Remembers.refl fun codeDigest => ?_
  refine Moves.bind Remembers.trans ?_ fun result => ?_
  · refine Moves.transaction Remembers.refl ?_
    unfold claimInTransaction
    refine Moves.lift_bind Remembers.refl fun claimedAtMs => ?_
    refine Moves.bind Remembers.trans (byDigest_remembers codeDigest) fun found => ?_
    cases found.filter (·.state = .pending) with
    | none => exact Remembers.refl
    | some row =>
      dsimp only
      split_ifs
      · refine Moves.bind Remembers.trans (updateRow_remembers _ _ fun _ => rfl) fun _ => ?_
        exact Remembers.refl
      · refine Moves.failIf_bind Remembers.refl fun _ => ?_
        refine Moves.lift_bind Remembers.refl fun parsed => ?_
        refine Moves.bind Remembers.trans (createInTransaction_remembers source parsed) fun device => ?_
        refine Moves.bind Remembers.trans (updateRow_remembers _ _ fun _ => rfl) fun changes => ?_
        refine Moves.failIf_bind Remembers.refl fun _ => ?_
        exact Moves.bind Remembers.trans (readBack_remembers _ _) fun _ => Remembers.refl
  · exact (ReadOnly.lift _).moves Remembers.refl

theorem cancel_remembers (id : String) (cancelledAt : JsDate) :
    Moves Remembers (cancel id cancelledAt) := by
  unfold cancel
  refine Moves.lift_bind Remembers.refl fun parsedId => ?_
  refine Moves.lift_bind Remembers.refl fun nowMs => ?_
  refine Moves.transaction Remembers.refl ?_
  refine Moves.bind Remembers.trans (byId_remembers parsedId) fun found => ?_
  cases found with
  | none => exact Remembers.refl
  | some row =>
    dsimp only
    split_ifs
    · refine Moves.bind Remembers.trans (updateRow_remembers _ _ fun _ => rfl) fun _ => ?_
      exact readBack_remembers _ _
    · refine Moves.failIf_bind Remembers.refl fun _ => ?_
      refine Moves.failIf_bind Remembers.refl fun _ => ?_
      refine Moves.bind Remembers.trans (updateRow_remembers _ _ fun _ => rfl) fun _ => ?_
      exact readBack_remembers _ _

theorem expire_remembers (expiredAt : JsDate) : Moves Remembers (expire expiredAt) := by
  unfold expire
  refine Moves.lift_bind Remembers.refl fun nowMs => ?_
  refine Moves.transaction Remembers.refl fun db => ?_
  rw [exec_get_bind, exec_set_bind]
  refine remembers_of_codes (fun _ h => h) ?_
  intro p row hrow
  refine .inr ⟨InMemoryPairingSessionRepository.expireRecord nowMs row, ?_, ?_⟩
  · show (OrderedMap.mapValues _ _).get? p = _
    rw [OrderedMap.get?_mapValues, hrow]
    rfl
  · unfold InMemoryPairingSessionRepository.expireRecord
    split_ifs
    · rfl
    · rfl

theorem pruneExpired_remembers (expiredAt : JsDate) :
    Moves Remembers (pruneExpired options expiredAt) := by
  unfold pruneExpired
  refine Moves.lift_bind Remembers.refl fun nowMs => ?_
  exact Moves.transaction Remembers.refl (prune_remembers nowMs)

theorem call_remembers (db : Database) (c : Call) :
    Remembers db ((adapter options).call db c).2 := by
  cases c with
  | create input => exact create_remembers input db
  | getById id => exact getById_remembers id db
  | claim now source input => exact claim_remembers now source input db
  | cancel id cancelledAt => exact cancel_remembers id cancelledAt db
  | expire expiredAt => exact expire_remembers expiredAt db
  | pruneExpired expiredAt => exact pruneExpired_remembers expiredAt db
  | createDevice source input => exact createInTransaction_remembers source input db

theorem run_remembers (db : Database) (calls : List Call) :
    Remembers db ((adapter options).after db calls) := by
  induction calls generalizing db with
  | nil => exact .refl db
  | cons c calls ih => exact (call_remembers db c).trans (ih _)

/-- An accepted code was not known, and is. -/
theorem accepts_new {db : Database} {input : CreatePairingRecordInput} {digest : HexDigest}
    (h : (adapter options).Accepts db input digest) :
    ¬ Known db digest ∧ Known (exec (create options input) db).2 digest := by
  obtain ⟨hdigest, session, hsession⟩ := h
  change (exec (create options input) db).1 = .ok session at hsession
  rcases hexec : exec (create options input) db with ⟨result, db'⟩
  rw [hexec] at hsession
  obtain rfl : result = .ok session := hsession
  unfold create at hexec
  obtain ⟨id, -, hexec⟩ := exec_lift_bind_ok hexec
  obtain ⟨codeDigest, hcode, hexec⟩ := exec_lift_bind_ok hexec
  obtain rfl : codeDigest = digest := Except.ok.inj (hcode.symm.trans hdigest)
  obtain ⟨createdAtMs, -, hexec⟩ := exec_lift_bind_ok hexec
  obtain ⟨expiresAtMs, -, hexec⟩ := exec_lift_bind_ok hexec
  obtain ⟨-, hexec⟩ := exec_failIf_bind_ok hexec
  obtain ⟨-, hexec⟩ := exec_failIf_bind_ok hexec
  replace hexec := exec_transaction_ok hexec
  obtain ⟨n, pruned, hprune, hexec⟩ := exec_bind_ok hexec
  rw [exec_byId_bind] at hexec
  obtain ⟨-, hexec⟩ := exec_failIf_bind_ok hexec
  rw [exec_byDigest_bind, exec_get_bind] at hexec
  obtain ⟨hfree, hexec⟩ := exec_failIf_bind_ok hexec
  obtain ⟨-, hexec⟩ := exec_failIf_bind_ok hexec
  obtain ⟨u, inserted, hinsert, hexec⟩ := exec_bind_ok hexec
  constructor
  · intro hknown
    have hpruned : Remembers db (exec (prune options createdAtMs) db).2 :=
      prune_remembers createdAtMs db
    rw [hprune] at hpruned
    refine hfree ?_
    rcases hpruned _ hknown with hmem | ⟨p, row, hrow, hsame⟩
    · exact .inr hmem
    · refine .inl ?_
      rw [List.find?_isSome]
      exact ⟨row, (OrderedMap.mem_values_iff _ _).mpr ⟨p, hrow⟩, decide_eq_true hsame⟩
  · have hread := readBack_remembers id "Pairing create không thể đọc lại." inserted
    rw [hexec] at hread
    refine hread _ (.inr ⟨id, ⟨id, codeDigest, createdAtMs, expiresAtMs, input.localCorrelationId,
      .pending, none, none⟩, ?_, rfl⟩)
    rw [insertRow_ok hinsert]
    exact OrderedMap.get?_set_self _ _ _

/-- What was accepted is not accepted again. -/
theorem not_accepted_again {db : Database} {middle : List Call}
    {first second : CreatePairingRecordInput} {digest : HexDigest}
    (hfirst : (adapter options).Accepts db first digest) :
    ¬ (adapter options).Accepts
      ((adapter options).after ((adapter options).call db (.create first)).2 middle)
      second digest := by
  intro hsecond
  exact (accepts_new hsecond).1 (run_remembers _ middle _ (accepts_new hfirst).2)

end SqlitePairingSessionRepository

/-! ## Both repositories -/

/-- The in-memory repository takes a code again only when it is out of tombstones, and its index,
tombstones and queue are in step throughout; the SQLite repository never takes a code again. -/
theorem codes_not_reused (options : PairingRepositoryOptions) (devices : InMemoryDeviceRepository)
    (db : Database) (before middle : List Call) (first again : CreatePairingRecordInput)
    (digest : HexDigest) :
    let memory := InMemoryPairingSessionRepository.adapter options
    let sqlite := SqlitePairingSessionRepository.adapter options
    let store := memory.after ⟨.new, devices⟩ before
    let store' := (memory.call store (.create first)).2
    store.pairings.InStep ∧
      (memory.Accepts store first digest ∧
          memory.Accepts (memory.after store' middle) again digest →
        OutOfTombstones (InMemoryPairingSessionRepository.prunedBy options store'
          (middle ++ [.create again])) digest) ∧
      ¬ (sqlite.Accepts (sqlite.after db before) first digest ∧
        sqlite.Accepts (sqlite.after (sqlite.call (sqlite.after db before) (.create first)).2 middle)
          again digest) := by
  intro memory sqlite store store'
  have hstore : store.pairings.InStep :=
    InMemoryPairingSessionRepository.after_inStep options devices before
  refine ⟨hstore, ?_, ?_⟩
  · rintro ⟨hfirst, hagain⟩
    have hcreated : store'.pairings.InStep :=
      (InMemoryPairingSessionRepository.call_prunes hstore (.create first)).inStep
    have hlive := (InMemoryPairingSessionRepository.accepts_fresh hstore hfirst).2.2
    exact InMemoryPairingSessionRepository.pruned_between hcreated hlive hagain
  · rintro ⟨hfirst, hagain⟩
    exact SqlitePairingSessionRepository.not_accepted_again hfirst hagain

end Doctmcp.Pairing

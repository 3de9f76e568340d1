import Doctmcp.Pairing.Conformance

/-! # Pruning

What the two pairing repositories drop at a given time. The in-memory loop and the two SQL
statements drop the same sessions and remember the same codes, as long as the in-memory repository
has not run out of tombstones. -/

namespace Doctmcp.Pairing
open Doctmcp.Lib Doctmcp.Lib.Operation Doctmcp.Schemas Doctmcp.Device Doctmcp.Storage
set_option autoImplicit false

/-- The repositories hold the same sessions, tombstones and devices, the in-memory index finds every
session by its code, and `n` sessions were dropped so far. -/
structure Agree (options : PairingRepositoryOptions) (n : ℕ) (s : MemoryStore) (db : Database) :
    Prop where
  rows : db.pairingSessions = s.pairings.recordsById
  devices : db.devices = s.devices.records
  index : ∀ digest p, s.pairings.sessionIdByDigest.get? digest = some p ↔
    ∃ record, s.pairings.recordsById.get? p = some record ∧ record.codeDigest = digest
  tombstones : ∀ digest, digest ∈ db.pairingCodeTombstones ↔
    digest ∈ s.pairings.expiredCodeTombstones
  dropped : s.pairings.expiredCodeTombstoneOrder.length = n
  valid : (InMemoryPairingSessionRepository.adapter options).RecordsValid s

variable {options : PairingRepositoryOptions}

/-- `pruneAtMs <= expiredAtMs`. -/
def isPrunable (options : PairingRepositoryOptions) (atMs : ℤ) (record : StoredPairingSession) :
    Bool :=
  InMemoryPairingSessionRepository.pruneAtMs options record ≤ atMs

/-- The sessions that are dropped at `atMs`. -/
def prunable (options : PairingRepositoryOptions) (atMs : ℤ)
    (repository : InMemoryPairingSessionRepository) : List StoredPairingSession :=
  repository.recordsById.values.filter (isPrunable options atMs)

/-! ## The loop of the in-memory repository -/

namespace InMemoryPairingSessionRepository

theorem dropOldest_of_le {tombstones order : List HexDigest}
    (h : order.length ≤ defaultPairingExpiredCodeTombstones) :
    dropOldest tombstones order = (tombstones, order) := by
  cases order with
  | nil => rfl
  | cons oldest order =>
    unfold dropOldest
    exact if_neg (Nat.not_lt.mpr h)

/-- Dropping one session while there are tombstones left. -/
theorem pruneRecord_prunable {atMs : ℤ} (acc : InMemoryPairingSessionRepository × ℕ)
    {record : StoredPairingSession} (h : isPrunable options atMs record = true)
    (hroom : acc.1.expiredCodeTombstoneOrder.length < defaultPairingExpiredCodeTombstones) :
    pruneRecord options atMs acc record =
      ({ recordsById := acc.1.recordsById.delete record.pairingSessionId
         sessionIdByDigest := acc.1.sessionIdByDigest.delete record.codeDigest
         expiredCodeTombstones := if record.codeDigest ∈ acc.1.expiredCodeTombstones then
             acc.1.expiredCodeTombstones
           else record.codeDigest :: acc.1.expiredCodeTombstones
         expiredCodeTombstoneOrder :=
           acc.1.expiredCodeTombstoneOrder ++ [record.codeDigest] }, acc.2 + 1) := by
  have hle : pruneAtMs options record ≤ atMs := of_decide_eq_true h
  unfold pruneRecord
  rw [if_neg (Int.not_lt.mpr hle)]
  dsimp only
  rw [dropOldest_of_le]
  rw [List.length_append]
  exact hroom

theorem pruneRecord_kept {atMs : ℤ} {acc : InMemoryPairingSessionRepository × ℕ}
    {record : StoredPairingSession} (h : isPrunable options atMs record = false) :
    pruneRecord options atMs acc record = acc := by
  have hgt : ¬ pruneAtMs options record ≤ atMs := of_decide_eq_false h
  exact if_pos (Int.not_le.mp hgt)

/-- What the loop has done after the sessions `records`. -/
structure Pruned (before after : InMemoryPairingSessionRepository × ℕ)
    (dropped : List StoredPairingSession) : Prop where
  recordsById : after.1.recordsById =
    (dropped.map (·.pairingSessionId)).foldl OrderedMap.delete before.1.recordsById
  sessionIdByDigest : after.1.sessionIdByDigest =
    (dropped.map (·.codeDigest)).foldl OrderedMap.delete before.1.sessionIdByDigest
  tombstones : ∀ digest, digest ∈ after.1.expiredCodeTombstones ↔
    digest ∈ before.1.expiredCodeTombstones ∨ digest ∈ dropped.map (·.codeDigest)
  order : after.1.expiredCodeTombstoneOrder =
    before.1.expiredCodeTombstoneOrder ++ dropped.map (·.codeDigest)
  count : after.2 = before.2 + dropped.length

theorem foldl_pruneRecord (atMs : ℤ) (records : List StoredPairingSession)
    (acc : InMemoryPairingSessionRepository × ℕ)
    (hroom : acc.1.expiredCodeTombstoneOrder.length +
      (records.filter (isPrunable options atMs)).length ≤ defaultPairingExpiredCodeTombstones) :
    Pruned acc (records.foldl (pruneRecord options atMs) acc)
      (records.filter (isPrunable options atMs)) := by
  induction records generalizing acc with
  | nil => exact ⟨rfl, rfl, fun _ => by simp, by simp, rfl⟩
  | cons record records ih =>
    rw [List.foldl_cons]
    cases hdue : isPrunable options atMs record with
    | false =>
      rw [List.filter_cons, hdue] at hroom ⊢
      rw [pruneRecord_kept hdue]
      exact ih acc hroom
    | true =>
      rw [List.filter_cons, hdue, if_pos rfl, List.length_cons] at hroom
      have hstep := pruneRecord_prunable acc hdue (by omega)
      have hrest := ih (pruneRecord options atMs acc record) (by
        rw [hstep, List.length_append, List.length_singleton]
        omega)
      rw [List.filter_cons, hdue, if_pos rfl]
      rw [hstep] at hrest ⊢
      refine ⟨hrest.recordsById, hrest.sessionIdByDigest, fun digest => ?_, ?_, ?_⟩
      · rw [hrest.tombstones, List.map_cons, List.mem_cons]
        dsimp only
        split_ifs with hmem
        · refine ⟨fun h => h.imp_right .inr, ?_⟩
          rintro (h | rfl | h)
          · exact .inl h
          · exact .inl hmem
          · exact .inr h
        · rw [List.mem_cons]
          tauto
      · rw [hrest.order, List.append_assoc]
        rfl
      · rw [hrest.count, List.length_cons]
        dsimp only
        omega

theorem pruneExpiredRecords_pruned (atMs : ℤ) (repository : InMemoryPairingSessionRepository)
    (hroom : repository.expiredCodeTombstoneOrder.length +
      (prunable options atMs repository).length ≤ defaultPairingExpiredCodeTombstones) :
    Pruned (repository, 0) (pruneExpiredRecords options atMs repository)
      (prunable options atMs repository) :=
  foldl_pruneRecord atMs repository.recordsById.values (repository, 0) hroom

/-- Where nothing is due, nothing changes. -/
theorem pruneExpiredRecords_nil {atMs : ℤ} {repository : InMemoryPairingSessionRepository}
    (h : prunable options atMs repository = []) :
    pruneExpiredRecords options atMs repository = (repository, 0) := by
  have hkept : ∀ (records : List StoredPairingSession) (acc : InMemoryPairingSessionRepository × ℕ),
      (∀ record ∈ records, isPrunable options atMs record = false) →
      records.foldl (pruneRecord options atMs) acc = acc := by
    intro records acc hrecords
    induction records with
    | nil => rfl
    | cons record records ih =>
      rw [List.foldl_cons, pruneRecord_kept (hrecords record List.mem_cons_self)]
      exact ih fun other hother => hrecords other (List.mem_cons_of_mem record hother)
  refine hkept _ _ fun record hrecord => Bool.eq_false_iff.mpr fun hdue => ?_
  have hmem : record ∈ prunable options atMs repository := List.mem_filter.mpr ⟨hrecord, hdue⟩
  rw [h] at hmem
  cases hmem

end InMemoryPairingSessionRepository

/-! ## Both repositories -/

section Both
variable {n : ℕ} {s : MemoryStore} {db : Database}

theorem Agree.keyed (h : Agree options n s db) {p : PairingSessionId} {record : StoredPairingSession}
    (hrecord : s.pairings.recordsById.get? p = some record) : record.pairingSessionId = p :=
  (h.valid p record hrecord).1

/-- Two sessions with one code are one session. -/
theorem Agree.same_code (h : Agree options n s db) {p p' : PairingSessionId}
    {record record' : StoredPairingSession}
    (hrecord : s.pairings.recordsById.get? p = some record)
    (hrecord' : s.pairings.recordsById.get? p' = some record')
    (hcode : record.codeDigest = record'.codeDigest) : p = p' := by
  have hp := (h.index record.codeDigest p).mpr ⟨record, hrecord, rfl⟩
  have hp' := (h.index record.codeDigest p').mpr ⟨record', hrecord', hcode.symm⟩
  rw [hp] at hp'
  exact Option.some.inj hp'

/-- The `WHERE` of the prune statements is the test of the in-memory loop. -/
theorem pruneCondition_eq {record : StoredPairingSession} (hvalid : record.Valid) (atMs : ℤ) :
    SqlitePairingSessionRepository.pruneCondition options atMs record =
      isPrunable options atMs record := by
  unfold SqlitePairingSessionRepository.pruneCondition isPrunable
    InMemoryPairingSessionRepository.pruneAtMs
  by_cases hstate : record.state = .claimed
  · obtain ⟨-, t, ht, -⟩ := hvalid.claimed hstate
    simp [hstate, ht]
  · rw [if_neg hstate]
    cases hs : record.state with
    | claimed => exact absurd hs hstate
    | pending => rfl
    | expired => rfl
    | cancelled => rfl

/-- The database after `#prune`. -/
def prunedRows (options : PairingRepositoryOptions) (atMs : ℤ) (db : Database) : Database :=
  let condition := SqlitePairingSessionRepository.pruneCondition options atMs
  { db with
    pairingCodeTombstones := db.pairingCodeTombstones ++
      ((db.pairingSessions.values.filter condition).map (·.codeDigest)).filter
        (· ∉ db.pairingCodeTombstones)
    pairingSessions := db.pairingSessions.filter fun _ row => !condition row }

theorem Agree.prunable_rows (h : Agree options n s db) (atMs : ℤ) :
    db.pairingSessions.values.filter (SqlitePairingSessionRepository.pruneCondition options atMs) =
      prunable options atMs s.pairings := by
  rw [h.rows]
  refine List.filter_congr fun record hrecord => ?_
  obtain ⟨p, hp⟩ := (OrderedMap.mem_values_iff _ _).mp hrecord
  exact pruneCondition_eq (h.valid p record hp).2 atMs

theorem Agree.exec_prune (h : Agree options n s db) (atMs : ℤ) :
    exec (SqlitePairingSessionRepository.prune options atMs) db =
      (.ok (prunable options atMs s.pairings).length, prunedRows options atMs db) := by
  rw [← h.prunable_rows]
  rfl

/-- A dropped session is no longer found. -/
theorem Agree.dropped_none (h : Agree options n s db) {atMs : ℤ}
    (hroom : n + (prunable options atMs s.pairings).length ≤ defaultPairingExpiredCodeTombstones)
    {record : StoredPairingSession} (hrecord : record ∈ prunable options atMs s.pairings) :
    (InMemoryPairingSessionRepository.pruneExpiredRecords options atMs
      s.pairings).1.recordsById.get? record.pairingSessionId = none := by
  have hpruned := InMemoryPairingSessionRepository.pruneExpiredRecords_pruned atMs s.pairings
    (by rw [h.dropped]; exact hroom)
  rw [hpruned.recordsById, OrderedMap.get?_foldl_delete, if_pos]
  exact List.mem_map_of_mem hrecord

/-- Pruning keeps the agreement. -/
theorem Agree.prune (h : Agree options n s db) (atMs : ℤ)
    (hroom : n + (prunable options atMs s.pairings).length ≤
      defaultPairingExpiredCodeTombstones) :
    Agree options (n + (prunable options atMs s.pairings).length)
      { s with pairings :=
        (InMemoryPairingSessionRepository.pruneExpiredRecords options atMs s.pairings).1 }
      (prunedRows options atMs db) := by
  have hpruned := InMemoryPairingSessionRepository.pruneExpiredRecords_pruned atMs s.pairings
    (by rw [h.dropped]; exact hroom)
  generalize InMemoryPairingSessionRepository.pruneExpiredRecords options atMs s.pairings = after
    at hpruned ⊢
  have hrecords : after.1.recordsById =
      s.pairings.recordsById.filter fun _ record => !isPrunable options atMs record := by
    rw [hpruned.recordsById]
    exact OrderedMap.foldl_delete_values _ _ _ fun _ _ hrecord => h.keyed hrecord
  have hget : ∀ p record, after.1.recordsById.get? p = some record ↔
      s.pairings.recordsById.get? p = some record ∧ isPrunable options atMs record = false := by
    intro p record
    rw [hrecords, OrderedMap.get?_filter, Option.filter_eq_some_iff]
    simp
  refine ⟨?_, h.devices, fun digest p => ?_, fun digest => ?_, ?_, fun p record hrecord => ?_⟩
  · unfold prunedRows
    dsimp only
    rw [hrecords, h.rows]
    refine OrderedMap.filter_congr _ fun p record hrecord => ?_
    rw [pruneCondition_eq (h.valid p record hrecord).2]
  · show after.1.sessionIdByDigest.get? digest = some p ↔ _
    rw [hpruned.sessionIdByDigest, OrderedMap.get?_foldl_delete]
    constructor
    · intro hp
      split_ifs at hp with hdropped
      obtain ⟨record, hrecord, rfl⟩ := (h.index digest p).mp hp
      refine ⟨record, (hget p record).mpr ⟨hrecord, Bool.eq_false_iff.mpr fun hdue => ?_⟩, rfl⟩
      exact hdropped (List.mem_map.mpr ⟨record, List.mem_filter.mpr
        ⟨(OrderedMap.mem_values_iff _ _).mpr ⟨p, hrecord⟩, hdue⟩, rfl⟩)
    · rintro ⟨record, hrecord, rfl⟩
      obtain ⟨hrecord, hkept⟩ := (hget p record).mp hrecord
      rw [if_neg, h.index]
      · exact ⟨record, hrecord, rfl⟩
      · intro hdropped
        obtain ⟨other, hother, hcode⟩ := List.mem_map.mp hdropped
        obtain ⟨hother, hdue⟩ := List.mem_filter.mp hother
        obtain ⟨p', hp'⟩ := (OrderedMap.mem_values_iff _ _).mp hother
        obtain rfl := h.same_code hp' hrecord hcode
        rw [hrecord] at hp'
        obtain rfl := Option.some.inj hp'
        rw [hdue] at hkept
        cases hkept
  · unfold prunedRows
    dsimp only
    rw [hpruned.tombstones, ← h.prunable_rows atMs, ← h.tombstones, List.mem_append,
      List.mem_filter]
    by_cases hold : digest ∈ db.pairingCodeTombstones <;> simp [hold]
  · show after.1.expiredCodeTombstoneOrder.length = _
    rw [hpruned.order, List.length_append, List.length_map, h.dropped]
  · exact h.valid p record ((hget p record).mp hrecord).1

end Both
end Doctmcp.Pairing

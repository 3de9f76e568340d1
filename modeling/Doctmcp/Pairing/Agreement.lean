import Doctmcp.Pairing.Correspondence

/-! # The pairing repositories agree

The two adapters side by side. They run the same checks on the same sessions and write the same
session, with one difference: a `create` that is refused after pruning has pruned in memory, while
the transaction of the SQLite adapter takes the pruning back. -/

namespace Doctmcp.Pairing
open Doctmcp.Lib Doctmcp.Lib.Operation Doctmcp.Schemas Doctmcp.Device Doctmcp.Storage
set_option autoImplicit false

variable {options : PairingRepositoryOptions} {n : ℕ} {s : MemoryStore} {db : Database}

/-! ## One call -/

/-- Inputs as the services pass them: a correlation id and a claim that their schemas accept. -/
def WellFormed : Call → Prop
  | .create input => ∀ c ∈ input.localCorrelationId, pairingCorrelationIdSchema c = true
  | .claim _ _ input => claimPairingInputSchema input.claim ≠ none
  | _ => True

/-- How many sessions a call drops. -/
def prunes (options : PairingRepositoryOptions) (s : MemoryStore) : Call → ℕ
  | .create input => match newRecord input with
    | .ok record => (prunable options record.createdAtMs s.pairings).length
    | .error _ => 0
  | .pruneExpired expiredAt => pruned options s expiredAt
  | _ => 0

/-- The call is a `create` whose session is refused after pruning, and there are sessions to
drop. -/
def RefusedAfterPruning (options : PairingRepositoryOptions) (s : MemoryStore) : Call → Prop
  | .create input => ∃ record, newRecord input = .ok record ∧
      prunable options record.createdAtMs s.pairings ≠ [] ∧
      refusal options (prunedFor options record s).pairings record ≠ none
  | _ => False

/-- Both repositories give the same answer about every session. -/
def SameSessions (s : MemoryStore) (db : Database) : Prop :=
  ∀ id, SameResult (exec (InMemoryPairingSessionRepository.getById id) s).1
    (exec (SqlitePairingSessionRepository.getById id) db).1

theorem Agree.sameSessions (h : Agree options n s db) : SameSessions s db :=
  fun id => (getById_alike h id).1

theorem exec_getById_value (h : Agree options n s db) (p : PairingSessionId) :
    (exec (InMemoryPairingSessionRepository.getById p.value) s).1 =
      .ok ((s.pairings.recordsById.get? p).map (·.toSession)) := by
  have hp : parsePairingSessionId p.value = .ok p := by
    rw [parsePairingSessionId, pairingSessionIdSchema_value, orThrow_some]
  unfold InMemoryPairingSessionRepository.getById
  rw [hp, exec_lift_bind_eq rfl, exec_get_bind]
  cases hrecord : s.pairings.recordsById.get? p with
  | none => rfl
  | some record =>
    dsimp only
    rw [exec_lift_bind_eq (h.valid p record hrecord).2.snapshot]
    rfl

/-- Where a session was dropped in memory only, the repositories answer differently about it. -/
theorem not_sameSessions (h : Agree options n s db) {atMs : ℤ}
    (hroom : n + (prunable options atMs s.pairings).length ≤ defaultPairingExpiredCodeTombstones)
    (hdue : prunable options atMs s.pairings ≠ []) :
    ¬ SameSessions { s with pairings :=
      (InMemoryPairingSessionRepository.pruneExpiredRecords options atMs s.pairings).1 } db := by
  intro hsame
  obtain ⟨record, hrecord⟩ := List.exists_mem_of_ne_nil _ hdue
  obtain ⟨p, hp⟩ := (OrderedMap.mem_values_iff _ _).mp (List.mem_filter.mp hrecord).1
  obtain rfl := h.keyed hp
  have hbefore := exec_getById_value h record.pairingSessionId
  have hafter := exec_getById_value (h.prune atMs hroom) record.pairingSessionId
  rw [hp] at hbefore
  rw [h.dropped_none hroom hrecord] at hafter
  have hsome := (h.sameSessions record.pairingSessionId.value).ok hbefore
  have hnone := (hsame record.pairingSessionId.value).ok hafter
  rw [hsome] at hnone
  cases hnone

/-- What a call does to repositories that agree: the same result in any case, and agreement
afterwards unless a `create` was refused after pruning. -/
structure CallAlike (options : PairingRepositoryOptions) (n : ℕ) (refused : Prop)
    (out : Outcome × MemoryStore) (out' : Outcome × Database) : Prop where
  result : SameResult out.1 out'.1
  agree : ¬ refused → Agree options n out.2 out'.2
  differ : refused → ¬ SameSessions out.2 out'.2

theorem callAlike {α : Type} {f : α → Reply} (hf : ∀ a b, f a = f b → a = b)
    {out : Except JsError α × MemoryStore} {out' : Except JsError α × Database}
    (h : SameOutcome (Agree options n) out out') :
    CallAlike options n False (Adapter.reply f out) (Adapter.reply f out') :=
  ⟨(sameResult_map_iff hf _ _).mpr h.1, fun _ => h.2, False.elim⟩

theorem newSession_alike (h : Agree options n s db) {input : CreatePairingRecordInput}
    (hwf : WellFormed (.create input))
    (hroom : n + prunes options s (.create input) ≤ defaultPairingExpiredCodeTombstones) :
    CallAlike options (n + prunes options s (.create input))
      (RefusedAfterPruning options s (.create input))
      ((InMemoryPairingSessionRepository.adapter options).call s (.create input))
      ((SqlitePairingSessionRepository.adapter options).call db (.create input)) := by
  have hmemory := InMemoryPairingSessionRepository.create_eq options input s
  have hsqlite := SqlitePairingSessionRepository.create_eq options hwf db
  unfold prunes at hroom ⊢
  unfold RefusedAfterPruning
  simp only [Adapter.call, InMemoryPairingSessionRepository.adapter,
    SqlitePairingSessionRepository.adapter]
  dsimp only at hroom ⊢
  rw [hmemory, hsqlite]
  cases hnew : newRecord input with
  | error e =>
    refine ⟨rfl, fun _ => h, ?_⟩
    rintro ⟨record, hrecord, -⟩
    cases hrecord
  | ok record =>
    rw [hnew] at hroom
    dsimp only at hroom ⊢
    obtain ⟨hvalid, hpending⟩ := newRecord_valid hwf hnew
    rw [exec_lift_bind_eq rfl, exec_lift_bind_eq rfl,
      InMemoryPairingSessionRepository.exec_createRecord hvalid,
      SqlitePairingSessionRepository.exec_createRecord h hvalid hpending hroom]
    have hpruned := h.prune record.createdAtMs hroom
    cases hrefusal : refusal options (prunedFor options record s).pairings record with
    | none =>
      obtain ⟨hid, hcode, -, -⟩ := refusal_eq_none hpruned hrefusal
      refine ⟨rfl, fun _ => hpruned.insert hid hcode hvalid, ?_⟩
      rintro ⟨record', hrecord', -, hrefused⟩
      obtain rfl := Except.ok.inj hrecord'
      exact absurd hrefusal hrefused
    | some e =>
      refine ⟨rfl, fun hkept => ?_, ?_⟩
      · have hnil : prunable options record.createdAtMs s.pairings = [] := by
          by_contra hdue
          exact hkept ⟨record, rfl, hdue, by rw [hrefusal]; exact Option.some_ne_none e⟩
        have hsame : prunedFor options record s = s := by
          unfold prunedFor
          rw [InMemoryPairingSessionRepository.pruneExpiredRecords_nil hnil]
        show Agree options _ (prunedFor options record s) db
        rw [hsame, hnil]
        exact h
      · rintro ⟨record', hrecord', hdue, -⟩
        obtain rfl := Except.ok.inj hrecord'
        exact not_sameSessions h hroom hdue

/-- One call on repositories that agree. -/
theorem call_alike (h : Agree options n s db) {c : Call} (hwf : WellFormed c)
    (hroom : n + prunes options s c ≤ defaultPairingExpiredCodeTombstones) :
    CallAlike options (n + prunes options s c) (RefusedAfterPruning options s c)
      ((InMemoryPairingSessionRepository.adapter options).call s c)
      ((SqlitePairingSessionRepository.adapter options).call db c) := by
  cases c with
  | create input => exact newSession_alike h hwf hroom
  | getById id => exact callAlike (fun _ _ => Reply.found.inj) (getById_alike h id)
  | claim now source input =>
    refine callAlike (fun a b heq => ?_) (claim_alike h now source hwf)
    obtain ⟨hfst, hsnd⟩ := Reply.claimed.inj heq
    exact Prod.ext hfst hsnd
  | cancel id cancelledAt =>
    exact callAlike (fun _ _ => Reply.session.inj) (cancel_alike h id cancelledAt)
  | expire expiredAt => exact callAlike (fun _ _ => Reply.count.inj) (expire_alike h expiredAt)
  | pruneExpired expiredAt =>
    exact callAlike (fun _ _ => Reply.count.inj) (pruneExpired_alike h expiredAt hroom)
  | createDevice source input =>
    exact callAlike (fun _ _ => Reply.device.inj) (createDevice_alike h source input)

/-! ## Every history -/

/-- The two repositories side by side. -/
abbrev callBoth (options : PairingRepositoryOptions) (st : MemoryStore × Database) (c : Call) :
    MemoryStore × Database :=
  both (InMemoryPairingSessionRepository.adapter options).call
    (SqlitePairingSessionRepository.adapter options).call st c

/-- Both repositories return the same value, or fail with the same code, and afterwards answer
alike about every session. -/
def Answers (options : PairingRepositoryOptions) (st : MemoryStore × Database) (c : Call) : Prop :=
  SameResult ((InMemoryPairingSessionRepository.adapter options).call st.1 c).1
      ((SqlitePairingSessionRepository.adapter options).call st.2 c).1 ∧
    SameSessions (callBoth options st c).1 (callBoth options st c).2

/-- How many sessions a history of calls drops. -/
def prunings (options : PairingRepositoryOptions) : MemoryStore → List Call → ℕ
  | _, [] => 0
  | s, c :: calls => prunes options s c +
      prunings options ((InMemoryPairingSessionRepository.adapter options).call s c).2 calls

/-- Repositories without sessions, on the same devices. -/
def fresh (db : Database) : MemoryStore × Database :=
  ({ pairings := InMemoryPairingSessionRepository.new, devices := ⟨db.devices⟩ },
    { db with pairingSessions := OrderedMap.empty, pairingCodeTombstones := [] })

theorem agree_fresh (options : PairingRepositoryOptions) (db : Database) :
    Agree options 0 (fresh db).1 (fresh db).2 where
  rows := rfl
  devices := rfl
  index digest p := by
    constructor
    · intro h
      cases h
    · rintro ⟨record, hrecord, -⟩
      cases hrecord
  tombstones _ := Iff.rfl
  dropped := rfl
  valid _ _ hrecord := nomatch hrecord

theorem answers_iff {calls : List Call} (h : Agree options n s db)
    (hwf : ∀ c ∈ calls, WellFormed c)
    (hroom : n + prunings options s calls ≤ defaultPairingExpiredCodeTombstones) :
    Along (callBoth options) (Answers options) (s, db) calls ↔
      Along (callBoth options) (fun st c => ¬ RefusedAfterPruning options st.1 c) (s, db) calls := by
  induction calls generalizing n s db with
  | nil => exact Iff.rfl
  | cons c calls ih =>
    unfold prunings at hroom
    have hcall := call_alike h (hwf c List.mem_cons_self) (by omega)
    by_cases hrefused : RefusedAfterPruning options s c
    · exact iff_of_false (fun hanswers => hcall.differ hrefused hanswers.1.2)
        (fun hnever => hnever.1 hrefused)
    · have hagree := hcall.agree hrefused
      have hrest := ih hagree (fun c' hc' => hwf c' (List.mem_cons_of_mem c hc')) (by omega)
      exact and_congr (iff_of_true ⟨hcall.result, hagree.sameSessions⟩ hrefused) hrest

/-- Over every history of calls with well-formed inputs and no more prunings than tombstones, the
repositories answer alike at every call and about every session after it exactly when no `create`
is refused after there were sessions to prune for it. -/
theorem pairings_answer_alike (options : PairingRepositoryOptions) (db : Database)
    (calls : List Call) (hwf : ∀ c ∈ calls, WellFormed c)
    (hroom : prunings options (fresh db).1 calls ≤ defaultPairingExpiredCodeTombstones) :
    Along (callBoth options) (Answers options) (fresh db) calls ↔
      Along (callBoth options) (fun st c => ¬ RefusedAfterPruning options st.1 c) (fresh db)
        calls :=
  answers_iff (agree_fresh options db) hwf (by rw [Nat.zero_add]; exact hroom)

/-! ### A code that was used before -/

namespace Reuse

def firstId : PairingSessionId := ⟨"5e551000-0000-4000-8000-000000000001", by decide, by decide⟩
def secondId : PairingSessionId := ⟨"5e551000-0000-4000-8000-000000000002", by decide, by decide⟩
def code : HexDigest := ⟨"00112233445566778899aabbccddeeff00112233445566778899aabbccddeeff", by decide⟩

/-- The first session lives from 0 to 10. -/
def first : Call := .create ⟨firstId.value, code.value, some 0, some 10, none⟩

/-- At 20 a second one is created with the same code: the first is due, and its code is taken. -/
def second : Call := .create ⟨secondId.value, code.value, some 20, some 30, none⟩

def record : StoredPairingSession := ⟨secondId, code, 20, 30, none, .pending, none, none⟩

theorem wellFormed : ∀ c ∈ [first, second], WellFormed c := by
  intro c hc
  rcases List.mem_cons.mp hc with rfl | hc
  · intro correlation h
    cases h
  · obtain rfl := List.mem_singleton.mp hc
    intro correlation h
    cases h

theorem facts : prunings .default (fresh Database.migrated).1 [first, second] = 1 ∧
    newRecord ⟨secondId.value, code.value, some 20, some 30, none⟩ = .ok record ∧
    prunable .default 20 (callBoth .default (fresh Database.migrated) first).1.pairings ≠ [] ∧
    refusal .default (prunedFor .default record
      (callBoth .default (fresh Database.migrated) first).1).pairings record ≠ none := by
  decide +kernel

end Reuse

/-- One session was forgotten in memory only: both calls have well-formed inputs and one session is
pruned, yet the repositories do not answer alike. -/
theorem pairings_disagree :
    (∀ c ∈ [Reuse.first, Reuse.second], WellFormed c) ∧
      prunings .default (fresh Database.migrated).1 [Reuse.first, Reuse.second] ≤
        defaultPairingExpiredCodeTombstones ∧
      ¬ Along (callBoth .default) (Answers .default) (fresh Database.migrated)
        [Reuse.first, Reuse.second] := by
  obtain ⟨hprunings, hrecord, hdue, hrefused⟩ := Reuse.facts
  have hroom : prunings .default (fresh Database.migrated).1 [Reuse.first, Reuse.second] ≤
      defaultPairingExpiredCodeTombstones := by
    rw [hprunings]
    decide
  refine ⟨Reuse.wellFormed, hroom, fun hanswers => ?_⟩
  have hnever := (answers_iff (agree_fresh .default Database.migrated) Reuse.wellFormed
    (by rw [Nat.zero_add]; exact hroom)).mp hanswers
  exact hnever.2.1 ⟨Reuse.record, hrecord, hdue, hrefused⟩

/-- The first of the two calls alone. -/
theorem pairings_answer_alike_sample :
    Along (callBoth .default) (Answers .default) (fresh Database.migrated) [Reuse.first] ↔
      Along (callBoth .default) (fun st c => ¬ RefusedAfterPruning .default st.1 c)
        (fresh Database.migrated) [Reuse.first] :=
  pairings_answer_alike .default Database.migrated [Reuse.first]
    (fun c hc => Reuse.wellFormed c (List.mem_cons.mpr (.inl (List.mem_singleton.mp hc))))
    (by decide +kernel)

end Doctmcp.Pairing

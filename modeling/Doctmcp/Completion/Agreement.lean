import Doctmcp.Completion.Correspondence

/-! # The completion repositories agree

One call of each adapter after the other, over histories on a clock that does not go back. -/

namespace Doctmcp.Completion
open Doctmcp.Lib Doctmcp.Lib.Operation Doctmcp.Schemas
set_option autoImplicit false

/-! ## One call -/

inductive RepositoryCall
  | reserve (pairingSessionId : String)
  | transferReservation (fromPairingSessionId toPairingSessionId : String)
  | get (pairingSessionId : String)
  | setPending (input : CompletionGenerationInput)
  | beginRecovery (input : CompletionGenerationInput) (recoveryTargetCredentialId : String)
  | advanceRecovery (input : CompletionRepository.RecoveryStepInput)
      (recoveryTargetCredentialId : String)
  | finishRecovery (input : CompletionRepository.RecoveryStepInput)
  | acknowledge (pairingSessionId deviceId expectedCredentialId : String)
      (expectedCredentialVersion : ℕ)
  | delete (pairingSessionId : String)

inductive RepositoryReply
  | flag (value : Bool)
  | record (value : Option CompletionRecord)
  | deleted

/-- The versions that a call may store are positive. -/
def RepositoryCall.PositiveVersions : RepositoryCall → Prop
  | .setPending input => 0 < input.credentialVersion
  | .beginRecovery input _ => 0 < input.credentialVersion
  | _ => True

/-- Every in-memory operation but `delete` prunes. -/
def RepositoryCall.prunes : RepositoryCall → Prop
  | .delete _ => False
  | _ => True

/-- What a call answered, and the repository it left. -/
abbrev Answer (S : Type) := Except JsError RepositoryReply × S

def reply {S α : Type} (f : α → RepositoryReply) (out : Except JsError α × S) : Answer S :=
  (out.1.map f, out.2)

variable {now : ℤ} {repository : CompletionRepository} {table : CompletionTable}
  (options : CompletionRepositoryOptions)

/-- A call on the in-memory repository at a reading of the clock. -/
def CompletionRepository.call (repository : CompletionRepository) (c : ℤ × RepositoryCall) :
    Answer CompletionRepository :=
  match c.2 with
  | .reserve id => reply .flag (exec (reserve options (.at c.1) id) repository)
  | .transferReservation fromId toId =>
    reply .flag (exec (transferReservation (.at c.1) fromId toId) repository)
  | .get id => reply .record (exec (get (.at c.1) id) repository)
  | .setPending input => reply .record (exec (setPending options (.at c.1) input) repository)
  | .beginRecovery input target =>
    reply .record (exec (beginRecovery options (.at c.1) input target) repository)
  | .advanceRecovery input target =>
    reply .record (exec (advanceRecovery options (.at c.1) input target) repository)
  | .finishRecovery input =>
    reply .record (exec (finishRecovery options (.at c.1) input) repository)
  | .acknowledge id deviceId credentialId version =>
    reply .record (exec (acknowledge options (.at c.1) id deviceId credentialId version) repository)
  | .delete id => reply (fun _ => .deleted) (exec (delete id) repository)

/-- A call on the SQLite repository at a reading of the clock. -/
def SqliteCompletionRepository.call (table : CompletionTable) (c : ℤ × RepositoryCall) :
    Answer CompletionTable :=
  match c.2 with
  | .reserve id => reply .flag (exec (reserve options (some c.1) id) table)
  | .transferReservation fromId toId =>
    reply .flag (exec (transferReservation (some c.1) fromId toId) table)
  | .get id => reply .record (exec (get (some c.1) id) table)
  | .setPending input => reply .record (exec (setPending options (some c.1) input) table)
  | .beginRecovery input target =>
    reply .record (exec (beginRecovery options (some c.1) input target) table)
  | .advanceRecovery input target =>
    reply .record (exec (advanceRecovery options (some c.1) input target) table)
  | .finishRecovery input =>
    reply .record (exec (finishRecovery options (some c.1) input) table)
  | .acknowledge id deviceId credentialId version =>
    reply .record (exec (acknowledge options (some c.1) id deviceId credentialId version) table)
  | .delete id => reply (fun _ => .deleted) (exec (delete (some c.1) id) table)

/-- The repositories hold the same visible records, and as many records and reservations. -/
structure SameContents (repository : CompletionRepository) (table : CompletionTable) : Prop where
  visible : ∀ id, visible table id = repository.recordOf id
  size : table.rows.size = repository.records.size + repository.reservations.size

theorem Fresh.sameContents (h : Fresh now repository table) : SameContents repository table :=
  ⟨h.1.visible, h.1.size⟩

/-- The same result; agreement once the in-memory repository is pruned; the same contents if the
call pruned it. -/
structure CallAlike (now : ℤ) (prunes : Prop) (out : Answer CompletionRepository)
    (out' : Answer CompletionTable) : Prop where
  result : SameResult out.1 out'.1
  fresh : Fresh now (out.2.pruned now) out'.2
  contents : prunes → SameContents out.2 out'.2

theorem callAlike {α : Type} {f : α → RepositoryReply} (hf : ∀ a b, f a = f b → a = b)
    {prunes : Prop} {out : Except JsError α × CompletionRepository}
    {out' : Except JsError α × CompletionTable} (h : SameOutcome (Fresh now) out out') :
    CallAlike now prunes (reply f out) (reply f out') := by
  refine ⟨(sameResult_map_iff hf _ _).mpr h.1, ?_, fun _ => h.2.sameContents⟩
  have hpruned : (reply f out).2.pruned now = out.2 := h.2.2.pruned
  rw [hpruned]
  exact h.2

theorem call_alike (h : Fresh now (repository.pruned now) (table.pruned now))
    {c : RepositoryCall} (hversions : c.PositiveVersions) :
    CallAlike now c.prunes (CompletionRepository.call options repository (now, c))
      (SqliteCompletionRepository.call options table (now, c)) := by
  have hrecord : ∀ a b, RepositoryReply.record a = .record b → a = b :=
    fun _ _ => RepositoryReply.record.inj
  have hflag : ∀ a b, RepositoryReply.flag a = .flag b → a = b := fun _ _ => RepositoryReply.flag.inj
  cases c with
  | reserve id => exact callAlike hflag (reserve_alike options h id)
  | transferReservation fromId toId =>
    exact callAlike hflag (transferReservation_alike h fromId toId)
  | get id => exact callAlike hrecord (get_alike h id)
  | setPending input => exact callAlike hrecord (setPending_alike options h hversions)
  | beginRecovery input target =>
    exact callAlike hrecord (beginRecovery_alike options h hversions target)
  | advanceRecovery input target =>
    refine callAlike hrecord (replaceRecovering_alike options h input fun hversion => ?_)
    exact ⟨Nat.pos_of_ne_zero hversion, by simp [CompletionRepository.advancedRecord]⟩
  | finishRecovery input =>
    refine callAlike hrecord (replaceRecovering_alike options h input fun hversion => ?_)
    exact ⟨Nat.pos_of_ne_zero hversion, by simp [CompletionRepository.finishedRecord]⟩
  | acknowledge id deviceId credentialId version =>
    exact callAlike hrecord (acknowledge_alike options h id deviceId credentialId version)
  | delete id =>
    obtain ⟨hresult, hfresh⟩ := delete_alike h id
    have hreply : ∀ a b : Unit, RepositoryReply.deleted = RepositoryReply.deleted → a = b :=
      fun _ _ _ => rfl
    exact ⟨(sameResult_map_iff hreply _ _).mpr hresult, hfresh, False.elim⟩

/-! ## Every history -/

/-- The two repositories side by side. -/
abbrev callBoth (st : CompletionRepository × CompletionTable) (c : ℤ × RepositoryCall) :
    CompletionRepository × CompletionTable :=
  both (CompletionRepository.call options) (SqliteCompletionRepository.call options) st c

/-- Both repositories return the same result, and afterwards, if the operation prunes, hold the
same visible records and the same number of records and reservations. -/
def Answers (st : CompletionRepository × CompletionTable) (c : ℤ × RepositoryCall) : Prop :=
  SameResult (CompletionRepository.call options st.1 c).1
      (SqliteCompletionRepository.call options st.2 c).1 ∧
    (c.2.prunes → SameContents (callBoth options st c).1 (callBoth options st c).2)

theorem answers_along {earlier : ℤ} (h : Same (repository.pruned earlier) table)
    {calls : List (ℤ × RepositoryCall)}
    (hclock : (earlier :: calls.map Prod.fst).Pairwise (· ≤ ·))
    (hversions : ∀ c ∈ calls, c.2.PositiveVersions) :
    Along (callBoth options) (Answers options) (repository, table) calls := by
  induction calls generalizing repository table earlier with
  | nil => trivial
  | cons c calls ih =>
    obtain ⟨hearlier, hrest⟩ := List.pairwise_cons.mp hclock
    have hle : earlier ≤ c.1 := hearlier _ List.mem_cons_self
    have hfresh := h.prune c.1
    rw [pruned_pruned hle] at hfresh
    have hcall := call_alike options hfresh (hversions c List.mem_cons_self)
    refine ⟨⟨hcall.result, hcall.contents⟩, ?_⟩
    exact ih hcall.fresh.1 hrest fun c' hc' => hversions c' (List.mem_cons_of_mem c hc')

theorem same_new (now : ℤ) :
    Same (CompletionRepository.new.pruned now) CompletionTable.migrated where
  rows _ := rfl
  disjoint _ _ hstored := nomatch hstored
  valid _ _ hstored := nomatch hstored

/-- Over every history of calls with positive versions on a clock that does not go back, both
repositories answer alike at every call and hold the same contents whenever they have pruned. -/
theorem completions_agree (calls : List (ℤ × RepositoryCall))
    (hclock : (calls.map Prod.fst).Pairwise (· ≤ ·))
    (hversions : ∀ c ∈ calls, c.2.PositiveVersions) :
    Along (callBoth options) (Answers options)
      (CompletionRepository.new, CompletionTable.migrated) calls := by
  cases calls with
  | nil => trivial
  | cons c calls =>
    refine answers_along options (same_new c.1) ?_ hversions
    refine List.pairwise_cons.mpr ⟨fun later hlater => ?_, hclock⟩
    rcases List.mem_cons.mp hlater with rfl | hlater
    · exact Int.le_refl _
    · exact (List.pairwise_cons.mp hclock).1 later hlater

/-- A recovery of a reserved session that is finished and acknowledged, and a session that is
forgotten after its retention. -/
theorem completions_agree_sample :
    Along (callBoth .default) (Answers .default)
      (CompletionRepository.new, CompletionTable.migrated)
      [(0, .reserve "session"), (1, .beginRecovery ⟨"session", "device", "first", 1⟩ "second"),
        (2, .finishRecovery ⟨"session", "device", "first", 1, "second", 2⟩),
        (2, .acknowledge "session" "device" "second" 2), (400000, .get "session")] :=
  completions_agree .default _ (by decide)
    (by simp [RepositoryCall.PositiveVersions])

end Doctmcp.Completion

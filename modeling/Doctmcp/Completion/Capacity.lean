import Doctmcp.Lib.Runs
import Doctmcp.Completion.Agreement

/-! # The capacity of the completion repository

Every operation of the in-memory repository, with whatever its readings of the clock are. Capacity,
disjointness and the moves of a record hold in every run. What an operation that throws leaves is
another matter: `#store` deletes the reservation of the session before it reads the clock again, so
that an invalid second reading loses the reservation (`LosesReservation`). -/

namespace Doctmcp.Completion
open Doctmcp.Lib Doctmcp.Lib.Operation Doctmcp.Schemas
set_option autoImplicit false

/-! ## Operations with their readings -/

inductive RepositoryEvent
  | call (clock : Readings) (c : RepositoryCall)
  /-- The getter `size`. -/
  | size (clock : Readings)

inductive EventReply
  | call (reply : RepositoryReply)
  | size (n : ℕ)

namespace CompletionRepository
variable (options : CompletionRepositoryOptions)

/-- `get size()`. -/
def size (clock : Readings) : Operation CompletionRepository JsError ℕ := do
  pruneExpired clock
  let repository ← MonadState.get
  return repository.records.size + repository.reservations.size

def callAt (clock : Readings) (repository : CompletionRepository) :
    RepositoryCall → Answer CompletionRepository
  | .reserve id => reply .flag (exec (reserve options clock id) repository)
  | .transferReservation fromId toId =>
    reply .flag (exec (transferReservation clock fromId toId) repository)
  | .get id => reply .record (exec (get clock id) repository)
  | .setPending input => reply .record (exec (setPending options clock input) repository)
  | .beginRecovery input target =>
    reply .record (exec (beginRecovery options clock input target) repository)
  | .advanceRecovery input target =>
    reply .record (exec (advanceRecovery options clock input target) repository)
  | .finishRecovery input => reply .record (exec (finishRecovery options clock input) repository)
  | .acknowledge id deviceId credentialId version =>
    reply .record (exec (acknowledge options clock id deviceId credentialId version) repository)
  | .delete id => reply (fun _ => .deleted) (exec (delete id) repository)

def perform (repository : CompletionRepository) :
    RepositoryEvent → Except JsError EventReply × CompletionRepository
  | .call clock c =>
    let out := callAt options clock repository c
    (out.1.map .call, out.2)
  | .size clock =>
    let out := exec (size clock) repository
    (out.1.map .size, out.2)

def step (repository : CompletionRepository) (e : RepositoryEvent) : CompletionRepository :=
  (perform options repository e).2

/-! ## What a call can do -/

/-- A record in `state` may be replaced by one in `next`. -/
inductive MayMove : CompletionState → CompletionState → Prop
  | recover : MayMove .pending .recovering
  | deliver : MayMove .pending .delivered
  | advance : MayMove .recovering .recovering
  | finish : MayMove .recovering .pending

/-- The repository takes the record: it moves the one that is there, or there is room for it. Only
the session `adds` gets a new record. -/
inductive Takes (adds : Option String) (repository : CompletionRepository)
    (record : CompletionRecord) : Prop
  | moved (old : CompletionRecord) (hold : repository.recordOf record.pairingSessionId = some old)
      (hdevice : record.deviceId = old.deviceId) (hmove : MayMove old.state record.state)
  | added (hadds : adds = some record.pairingSessionId)
      (hnone : repository.recordOf record.pairingSessionId = none)
      (hstate : record.state = .pending ∨ record.state = .recovering)
      (hroom : repository.reservations.has record.pairingSessionId = true ∨
        ¬ isFull options repository)

/-- What an operation does to the repository, for the readings it takes. -/
inductive Effect (adds : Option String) (clock : Readings) (s : CompletionRepository) {α : Type} :
    Except JsError α × CompletionRepository → Prop
  | refused (error : JsError) (hprune : clock.prune = none) : Effect adds clock s (.error error, s)
  | pruned (now : ℤ) (hprune : clock.prune = some now) (result : Except JsError α) :
      Effect adds clock s (result, s.pruned now)
  | reserved (now t : ℤ) (hprune : clock.prune = some now) (id : String)
      (hrecord : (s.pruned now).records.has id = false)
      (hreservation : (s.pruned now).reservations.has id = false)
      (hroom : ¬ isFull options (s.pruned now)) (a : α) :
      Effect adds clock s (.ok a, { s.pruned now with
        reservations := (s.pruned now).reservations.set id (t + options.retentionMs) })
  | transferred (now expiresAtMs : ℤ) (hprune : clock.prune = some now) (fromId toId : String)
      (hfrom : (s.pruned now).reservations.get? fromId = some expiresAtMs)
      (hrecord : (s.pruned now).records.has toId = false)
      (hreservation : (s.pruned now).reservations.has toId = false) (a : α) :
      Effect adds clock s (.ok a, { s.pruned now with
        reservations := ((s.pruned now).reservations.delete fromId).set toId expiresAtMs })
  | stored (now t : ℤ) (hprune : clock.prune = some now) (hstore : clock.store = some t)
      (record : CompletionRecord) (htakes : Takes options adds (s.pruned now) record) (a : α) :
      Effect adds clock s (.ok a, (s.pruned now).stored (t + options.retentionMs) record)
  | lost (now : ℤ) (hprune : clock.prune = some now) (hstore : clock.store = none)
      (record : CompletionRecord) (htakes : Takes options adds (s.pruned now) record)
      (error : JsError) :
      Effect adds clock s (.error error, { s.pruned now with
        reservations := (s.pruned now).reservations.delete record.pairingSessionId })

/-- What every reachable repository has. -/
structure Bounded (s : CompletionRepository) : Prop where
  size : s.records.size + s.reservations.size ≤ options.maxRecords
  disjoint : ∀ id stored, s.records.get? id = some stored → s.reservations.get? id = none
  /-- A record is kept under its own session. -/
  keyed : ∀ id stored, s.records.get? id = some stored → stored.record.pairingSessionId = id

section Effects
variable {options} {adds : Option String} {clock : Readings} {s : CompletionRepository}

/-- An operation that prunes first, by its body on the pruned repository. -/
theorem effect_of_pruned {α : Type} {f : Unit → Operation CompletionRepository JsError α}
    (h : ∀ now, clock.prune = some now → Effect options adds clock s (exec (f ()) (s.pruned now))) :
    Effect options adds clock s (exec (pruneExpired clock >>= f) s) := by
  rw [exec_bind]
  unfold pruneExpired nowMs
  cases hprune : clock.prune with
  | none => exact .refused _ hprune
  | some now => exact h now hprune

theorem effect_store {now : ℤ} (hprune : clock.prune = some now) {record : CompletionRecord}
    (htakes : Takes options adds (s.pruned now) record) :
    Effect options adds clock s (exec (store options clock record) (s.pruned now)) := by
  unfold store nowMs
  rw [exec_get_bind, exec_set_bind]
  cases hstore : clock.store with
  | none => exact .lost now hprune hstore record htakes _
  | some t => exact .stored now t hprune hstore record htakes _

theorem effect_size (clock : Readings) (s : CompletionRepository) :
    Effect options none clock s (exec (size clock) s) :=
  effect_of_pruned fun now hprune => .pruned now hprune _

theorem effect_get (id : String) : Effect options adds clock s (exec (get clock id) s) :=
  effect_of_pruned fun now hprune => .pruned now hprune _

theorem effect_reserve (id : String) :
    Effect options adds clock s (exec (reserve options clock id) s) := by
  apply effect_of_pruned
  intro now hprune
  rw [exec_get_bind]
  split
  · exact .pruned now hprune _
  · next hnew =>
    split
    · exact .pruned now hprune _
    · next hroom =>
      unfold nowMs
      cases clock.store with
      | none => exact .pruned now hprune _
      | some t =>
        rw [not_or, Bool.not_eq_true, Bool.not_eq_true] at hnew
        exact .reserved now t hprune id hnew.1 hnew.2 hroom _

theorem effect_transferReservation (fromId toId : String) :
    Effect options adds clock s (exec (transferReservation clock fromId toId) s) := by
  apply effect_of_pruned
  intro now hprune
  rw [exec_get_bind]
  cases hfrom : (s.pruned now).reservations.get? fromId with
  | none => exact .pruned now hprune _
  | some expiresAtMs =>
    dsimp only
    split
    · exact .pruned now hprune _
    · next hnew =>
      rw [not_or, Bool.not_eq_true, Bool.not_eq_true] at hnew
      exact .transferred now expiresAtMs hprune fromId toId hfrom hnew.1 hnew.2 _

theorem takes_room {id : String} (h : ¬ ((s.reservations.has id = false) ∧ isFull options s)) :
    s.reservations.has id = true ∨ ¬ isFull options s := by
  by_cases hreservation : s.reservations.has id = true
  · exact .inl hreservation
  · exact .inr fun hfull => h ⟨Bool.eq_false_iff.2 hreservation, hfull⟩

theorem effect_setPending (input : CompletionGenerationInput) :
    Effect options (some input.pairingSessionId) clock s
      (exec (setPending options clock input) s) := by
  apply effect_of_pruned
  intro now hprune
  rw [exec_get_bind]
  cases hexisting : (s.pruned now).recordOf input.pairingSessionId with
  | some existing =>
    dsimp only
    split
    · exact .pruned now hprune _
    · exact .pruned now hprune _
  | none =>
    dsimp only
    split
    · exact .pruned now hprune _
    · next hroom =>
      exact effect_store hprune (.added rfl hexisting (.inl rfl) (takes_room hroom))

theorem effect_beginRecovery (input : CompletionGenerationInput) (target : String) :
    Effect options (some input.pairingSessionId) clock s
      (exec (beginRecovery options clock input target) s) := by
  apply effect_of_pruned
  intro now hprune
  rw [exec_get_bind]
  cases hexisting : (s.pruned now).recordOf input.pairingSessionId with
  | some existing =>
    dsimp only
    split
    · exact .pruned now hprune _
    · next hdelivered =>
      split
      · exact .pruned now hprune _
      · next hdevice =>
        split
        · exact .pruned now hprune _
        · next hrecovering =>
          have hpending : existing.state = .pending := by
            cases hstate : existing.state with
            | pending => rfl
            | recovering => exact absurd hstate hrecovering
            | delivered => exact absurd hstate hdelivered
          refine effect_store hprune (.moved existing hexisting (not_not.1 hdevice).symm ?_)
          rw [hpending]
          exact .recover
  | none =>
    dsimp only
    split
    · exact .pruned now hprune _
    · next hroom =>
      exact effect_store hprune (.added rfl hexisting (.inr rfl) (takes_room hroom))

/-- The two steps of a recovery. -/
theorem effect_replaceRecovering (input : RecoveryStepInput) {next : CompletionRecord}
    (hid : next.pairingSessionId = input.pairingSessionId) (hdevice : next.deviceId = input.deviceId)
    (hmove : MayMove .recovering next.state) :
    Effect options adds clock s (exec (replaceRecovering options clock input next) s) := by
  apply effect_of_pruned
  intro now hprune
  rw [exec_get_bind]
  cases hexisting : (s.pruned now).recordOf input.pairingSessionId with
  | none => exact .pruned now hprune _
  | some existing =>
    dsimp only
    split
    · next hmatches =>
      obtain ⟨hstate, hsame, -⟩ := hmatches
      refine effect_store hprune (.moved existing (hid ▸ hexisting) (hdevice.trans hsame.symm) ?_)
      rw [hstate]
      exact hmove
    · exact .pruned now hprune _

theorem effect_acknowledge (hs : Bounded options s) (id deviceId credentialId : String) (version : ℕ) :
    Effect options adds clock s (exec (acknowledge options clock id deviceId credentialId version) s) := by
  apply effect_of_pruned
  intro now hprune
  rw [exec_get_bind]
  cases hexisting : (s.pruned now).recordOf id with
  | none => exact .pruned now hprune _
  | some existing =>
    dsimp only
    split
    · split
      · exact .pruned now hprune _
      · split
        · next hpending =>
          have hid : existing.pairingSessionId = id := by
            obtain ⟨stored, hstored, rfl⟩ := Option.map_eq_some_iff.1 hexisting
            rw [pruned, OrderedMap.get?_filter] at hstored
            exact hs.keyed id stored (Option.filter_eq_some_iff.1 hstored).1
          refine effect_store hprune (.moved existing ?_ rfl ?_)
          · exact hid.symm ▸ hexisting
          · rw [hpending]
            exact .deliver
        · exact .pruned now hprune _
    · exact .pruned now hprune _

theorem Effect.reply {α : Type} {out : Except JsError α × CompletionRepository}
    (h : Effect options adds clock s out) (f : α → RepositoryReply) :
    Effect options adds clock s (Completion.reply f out) := by
  cases h with
  | refused error hprune => exact .refused error hprune
  | pruned now hprune result => exact .pruned now hprune (result.map f)
  | reserved now t hprune id hrecord hreservation hroom a =>
    exact .reserved now t hprune id hrecord hreservation hroom (f a)
  | transferred now expiresAtMs hprune fromId toId hfrom hrecord hreservation a =>
    exact .transferred now expiresAtMs hprune fromId toId hfrom hrecord hreservation (f a)
  | stored now t hprune hstore record htakes a =>
    exact .stored now t hprune hstore record htakes (f a)
  | lost now hprune hstore record htakes error =>
    exact .lost now hprune hstore record htakes error

end Effects

end CompletionRepository

/-- The session that a call may add a record for. -/
def RepositoryCall.adds : RepositoryCall → Option String
  | .setPending input => some input.pairingSessionId
  | .beginRecovery input _ => some input.pairingSessionId
  | _ => none

namespace CompletionRepository
variable {options : CompletionRepositoryOptions} {adds : Option String} {clock : Readings}
  {s : CompletionRepository}

theorem effect_call (hs : Bounded options s) (clock : Readings) (c : RepositoryCall)
    (hc : c.prunes) :
    Effect options c.adds clock s (callAt options clock s c) := by
  cases c with
  | reserve id => exact (effect_reserve id).reply _
  | transferReservation fromId toId => exact (effect_transferReservation fromId toId).reply _
  | get id => exact (effect_get id).reply _
  | setPending input => exact (effect_setPending input).reply _
  | beginRecovery input target => exact (effect_beginRecovery input target).reply _
  | advanceRecovery input target =>
    exact (effect_replaceRecovering input rfl rfl .advance).reply _
  | finishRecovery input => exact (effect_replaceRecovering input rfl rfl .finish).reply _
  | acknowledge id deviceId credentialId version =>
    exact (effect_acknowledge hs id deviceId credentialId version).reply _
  | delete => exact hc.elim

/-! ## Capacity and disjointness -/

theorem Bounded.pruned (hs : Bounded options s) (now : ℤ) : Bounded options (s.pruned now) where
  size := Nat.le_trans (Nat.add_le_add (OrderedMap.size_filter_le _ _)
    (OrderedMap.size_filter_le _ _)) hs.size
  disjoint id stored hstored := by
    rw [CompletionRepository.pruned, OrderedMap.get?_filter] at hstored
    rw [CompletionRepository.pruned, OrderedMap.get?_filter,
      hs.disjoint id stored (Option.filter_eq_some_iff.1 hstored).1]
    rfl
  keyed id stored hstored := by
    rw [CompletionRepository.pruned, OrderedMap.get?_filter] at hstored
    exact hs.keyed id stored (Option.filter_eq_some_iff.1 hstored).1

theorem Bounded.release (hs : Bounded options s) (id : String) :
    Bounded options { s with reservations := s.reservations.delete id } where
  size := Nat.le_trans (Nat.add_le_add_left (OrderedMap.size_delete_le _ _) _) hs.size
  disjoint id' stored hstored := by
    dsimp only
    rw [OrderedMap.get?_delete]
    split
    · rfl
    · exact hs.disjoint id' stored hstored
  keyed := hs.keyed

theorem Bounded.reserve (hs : Bounded options s) {id : String} (expiresAtMs : ℤ)
    (hrecord : s.records.has id = false) (hreservation : s.reservations.has id = false)
    (hroom : s.records.size + s.reservations.size < options.maxRecords) :
    Bounded options { s with reservations := s.reservations.set id expiresAtMs } where
  size := by
    dsimp only
    rw [OrderedMap.size_set_of_not_has _ _ _ hreservation]
    omega
  disjoint id' stored hstored := by
    dsimp only
    have hne : id' ≠ id := by
      rintro rfl
      rw [OrderedMap.has_false_iff, hstored] at hrecord
      cases hrecord
    rw [OrderedMap.get?_set_ne _ _ hne]
    exact hs.disjoint id' stored hstored
  keyed := hs.keyed

theorem Bounded.stored (hs : Bounded options s) {record : CompletionRecord} (expiresAtMs : ℤ)
    (htakes : Takes options adds s record) :
    Bounded options (s.stored expiresAtMs record) where
  size := by
    unfold CompletionRepository.stored
    dsimp only
    have hsize := hs.size
    have hle := s.reservations.size_delete_le record.pairingSessionId
    cases htakes with
    | moved old hold hdevice hmove =>
      obtain ⟨stored, hstored, -⟩ := Option.map_eq_some_iff.1 hold
      rw [OrderedMap.size_set_of_has _ _ _ ((OrderedMap.has_iff _ _).2 ⟨stored, hstored⟩)]
      omega
    | added hadds hnone hstate hroom =>
      have hnew : s.records.has record.pairingSessionId = false := by
        rw [OrderedMap.has_false_iff]
        exact Option.map_eq_none_iff.1 hnone
      rw [OrderedMap.size_set_of_not_has _ _ _ hnew]
      rcases hroom with hreservation | hroom
      · have hdelete := s.reservations.size_delete hreservation
        omega
      · have hless : s.records.size + s.reservations.size < options.maxRecords :=
          Nat.lt_of_not_le hroom
        omega
  disjoint id stored hstored := by
    unfold CompletionRepository.stored at hstored ⊢
    dsimp only at hstored ⊢
    rw [OrderedMap.get?_set] at hstored
    rw [OrderedMap.get?_delete]
    split
    · rfl
    · next hne =>
      rw [if_neg hne] at hstored
      exact hs.disjoint id stored hstored
  keyed id stored hstored := by
    unfold CompletionRepository.stored at hstored
    dsimp only at hstored
    rw [OrderedMap.get?_set] at hstored
    split at hstored
    · next hsame =>
      obtain rfl := Option.some.inj hstored
      exact hsame.symm
    · exact hs.keyed id stored hstored

theorem Bounded.effect {α : Type} {out : Except JsError α × CompletionRepository}
    (hs : Bounded options s) (h : Effect options adds clock s out) : Bounded options out.2 := by
  cases h with
  | refused => exact hs
  | pruned now => exact hs.pruned now
  | reserved now t hprune id hrecord hreservation hroom a =>
    exact (hs.pruned now).reserve _ hrecord hreservation (Nat.lt_of_not_le hroom)
  | transferred now expiresAtMs hprune fromId toId hfrom hrecord hreservation a =>
    have hhas : (s.pruned now).reservations.has fromId = true :=
      (OrderedMap.has_iff _ _).2 ⟨expiresAtMs, hfrom⟩
    have hsize := (hs.pruned now).size
    have hdelete := (s.pruned now).reservations.size_delete hhas
    apply ((hs.pruned now).release fromId).reserve expiresAtMs hrecord
    · dsimp only
      rw [OrderedMap.has_false_iff] at hreservation ⊢
      rw [OrderedMap.get?_delete, hreservation, ite_self]
    · dsimp only
      omega
  | stored now t hprune hstore record htakes a => exact (hs.pruned now).stored _ htakes
  | lost now hprune hstore record htakes error => exact (hs.pruned now).release _

theorem Bounded.step (hs : Bounded options s) (e : RepositoryEvent) :
    Bounded options (step options s e) := by
  cases e with
  | size clock =>
    have hsize := hs.effect (effect_size clock s)
    exact hsize
  | call clock c =>
    by_cases hc : c.prunes
    · have hcall := hs.effect (effect_call hs clock c hc)
      exact hcall
    · cases c with
      | delete id =>
        have hreleased := hs.release id
        refine ⟨Nat.le_trans (Nat.add_le_add_right (OrderedMap.size_delete_le _ _) _)
          hreleased.size, ?_, ?_⟩
        · intro j stored hstored
          have hstored : (s.records.delete id).get? j = some stored := hstored
          rw [OrderedMap.get?_delete] at hstored
          split at hstored
          · cases hstored
          · exact hreleased.disjoint j stored hstored
        · intro j stored hstored
          have hstored : (s.records.delete id).get? j = some stored := hstored
          rw [OrderedMap.get?_delete] at hstored
          split at hstored
          · cases hstored
          · exact hs.keyed j stored hstored
      | _ => exact absurd trivial hc

theorem bounded_new (options : CompletionRepositoryOptions) :
    Bounded options CompletionRepository.new where
  size := Nat.zero_le _
  disjoint := nofun
  keyed := nofun

/-! ## The moves of a record -/

/-- What has expired at the first reading is gone, and so is what a `delete` names. -/
def before (s : CompletionRepository) : RepositoryEvent → CompletionRepository
  | .call _ (.delete id) => ⟨s.records.delete id, s.reservations.delete id⟩
  | .call clock _ => prunedBy clock s
  | .size clock => prunedBy clock s
where
  prunedBy (clock : Readings) (s : CompletionRepository) : CompletionRepository :=
    match clock.prune with
    | none => s
    | some now => s.pruned now

inductive Moved : Option CompletionRecord → Option CompletionRecord → Prop
  | kept (record : Option CompletionRecord) : Moved record record
  | added (record : CompletionRecord) (hstate : record.state = .pending ∨ record.state = .recovering) :
      Moved none (some record)
  | moved (old record : CompletionRecord) (hdevice : record.deviceId = old.deviceId)
      (hmove : MayMove old.state record.state) : Moved (some old) (some record)

theorem moved_effect {α : Type} {out : Except JsError α × CompletionRepository}
    (h : Effect options adds clock s out) (id : String) :
    Moved ((before.prunedBy clock s).recordOf id) (out.2.recordOf id) := by
  unfold before.prunedBy
  cases h with
  | refused error hprune =>
    rw [hprune]
    exact .kept _
  | pruned now hprune result =>
    rw [hprune]
    exact .kept _
  | reserved now t hprune =>
    rw [hprune]
    exact .kept _
  | transferred now expiresAtMs hprune =>
    rw [hprune]
    exact .kept _
  | lost now hprune =>
    rw [hprune]
    exact .kept _
  | stored now t hprune hstore record htakes a =>
    rw [hprune]
    have hstored : ((s.pruned now).stored (t + options.retentionMs) record).recordOf id =
        if id = record.pairingSessionId then some record else (s.pruned now).recordOf id := by
      unfold recordOf stored
      dsimp only
      rw [OrderedMap.get?_set]
      split
      · rfl
      · rfl
    dsimp only
    rw [hstored]
    split
    · next hid =>
      subst hid
      cases htakes with
      | moved old hold hdevice hmove =>
        rw [hold]
        exact .moved old record hdevice hmove
      | added hadds hnone hstate hroom =>
        rw [hnone]
        exact .added record hstate
    · exact .kept _

theorem moved_step (hs : Bounded options s) (e : RepositoryEvent) (id : String) :
    Moved ((before s e).recordOf id) ((step options s e).recordOf id) := by
  cases e with
  | size clock =>
    have hsize := moved_effect (effect_size clock s : Effect options none clock s _) id
    exact hsize
  | call clock c =>
    by_cases hc : c.prunes
    · have hmoved := moved_effect (effect_call hs clock c hc) id
      cases c with
      | delete => exact hc.elim
      | _ => exact hmoved
    · cases c with
      | delete id => exact .kept _
      | _ => exact absurd trivial hc

/-! ## Transfers -/

/-- What `transferReservation` with the answer `result` does. -/
structure Transfers (fromId toId : String) (result : Except JsError RepositoryReply)
    (s s' : CompletionRepository) : Prop where
  records : s'.records = s.records
  total : s'.reservations.size = s.reservations.size
  refused : result ≠ .ok (.flag true) → s' = s
  moved : result = .ok (.flag true) → ∃ expiresAtMs,
    s.reservations.get? fromId = some expiresAtMs ∧ ∀ id, s'.reservations.get? id =
      if id = toId then some expiresAtMs else if id = fromId then none else s.reservations.get? id

theorem transfers_refl {fromId toId : String} {result : Except JsError RepositoryReply}
    (h : result ≠ .ok (.flag true)) : Transfers fromId toId result s s :=
  ⟨rfl, rfl, fun _ => rfl, fun hok => absurd hok h⟩

theorem exec_pruneExpired {α : Type} {now : ℤ} (hprune : clock.prune = some now)
    (f : Unit → Operation CompletionRepository JsError α) (s : CompletionRepository) :
    exec (pruneExpired clock >>= f) s = exec (f ()) (s.pruned now) := by
  rw [exec_bind]
  unfold pruneExpired nowMs
  rw [hprune]
  rfl

theorem transfers_call (clock : Readings) (s : CompletionRepository) (fromId toId : String) :
    let out := callAt options clock s (.transferReservation fromId toId)
    Transfers fromId toId out.1 (before.prunedBy clock s) out.2 := by
  intro out
  unfold before.prunedBy
  cases hprune : clock.prune with
  | none =>
    have hout : out = (.error (.error "Pairing completion repository clock is invalid."), s) := by
      show reply .flag (exec (transferReservation clock fromId toId) s) = _
      unfold transferReservation
      rw [exec_bind]
      unfold pruneExpired nowMs
      rw [hprune]
      rfl
    rw [hout]
    exact transfers_refl fun h => by cases h
  | some now =>
    have hout : out = reply .flag (exec (transferReservation clock fromId toId) s) := rfl
    unfold transferReservation at hout
    rw [exec_pruneExpired hprune, exec_get_bind] at hout
    dsimp only
    cases hfrom : (s.pruned now).reservations.get? fromId with
    | none =>
      rw [hfrom] at hout
      rw [hout]
      exact transfers_refl fun h => by cases h
    | some expiresAtMs =>
      rw [hfrom] at hout
      dsimp only at hout
      split at hout
      · rw [hout]
        exact transfers_refl fun h => by cases h
      · next hnew =>
        rw [not_or, Bool.not_eq_true, Bool.not_eq_true] at hnew
        rw [hout]
        refine ⟨rfl, ?_, fun h => absurd rfl h, fun _ => ⟨expiresAtMs, hfrom, ?_⟩⟩
        · have hhas : (s.pruned now).reservations.has fromId = true :=
            (OrderedMap.has_iff _ _).2 ⟨expiresAtMs, hfrom⟩
          have hdelete := (s.pruned now).reservations.size_delete hhas
          have hto : ((s.pruned now).reservations.delete fromId).has toId = false := by
            have hreservation := hnew.2
            rw [OrderedMap.has_false_iff] at hreservation ⊢
            rw [OrderedMap.get?_delete, hreservation, ite_self]
          have hset := OrderedMap.size_set_of_not_has _ _ expiresAtMs hto
          show (((s.pruned now).reservations.delete fromId).set toId expiresAtMs).size = _
          omega
        · intro id
          show (((s.pruned now).reservations.delete fromId).set toId expiresAtMs).get? id = _
          rw [OrderedMap.get?_set, OrderedMap.get?_delete]

/-! ## Operations that throw -/

/-- What has not expired at the first reading is the same before and after. -/
structure Untouched (clock : Readings) (s s' : CompletionRepository) : Prop where
  records : ∀ id stored, (∀ now ∈ clock.prune, now < stored.expiresAtMs) →
    (s'.records.get? id = some stored ↔ s.records.get? id = some stored)
  reservations : ∀ id expiresAtMs, (∀ now ∈ clock.prune, now < expiresAtMs) →
    (s'.reservations.get? id = some expiresAtMs ↔ s.reservations.get? id = some expiresAtMs)

theorem Untouched.refl (clock : Readings) (s : CompletionRepository) : Untouched clock s s :=
  ⟨fun _ _ _ => Iff.rfl, fun _ _ _ => Iff.rfl⟩

theorem untouched_pruned {now : ℤ} (hprune : clock.prune = some now) (s : CompletionRepository) :
    Untouched clock s (s.pruned now) where
  records id stored hlive := by
    have hlive := hlive now hprune
    rw [pruned, OrderedMap.get?_filter, Option.filter_eq_some_iff]
    exact and_iff_left (decide_eq_true hlive)
  reservations id expiresAtMs hlive := by
    have hlive := hlive now hprune
    rw [pruned, OrderedMap.get?_filter, Option.filter_eq_some_iff]
    exact and_iff_left (decide_eq_true hlive)

end CompletionRepository

def RepositoryEvent.clock : RepositoryEvent → Readings
  | .call clock _ => clock
  | .size clock => clock

namespace CompletionRepository
variable {options : CompletionRepositoryOptions} {adds : Option String} {clock : Readings}
  {s : CompletionRepository}

variable (options) in
/-- If the operation throws, everything that has not expired stays as it was. -/
def Atomic (s : CompletionRepository) (e : RepositoryEvent) : Prop :=
  ∀ error, (perform options s e).1 = .error error → Untouched e.clock s (step options s e)

/-- `setPending` or `beginRecovery` for a session with a reservation that has not expired, where the
second reading of the clock is invalid. -/
def LosesReservation (s : CompletionRepository) : RepositoryEvent → Prop
  | .call clock c => clock.store = none ∧
      ∃ now id, clock.prune = some now ∧ c.adds = some id ∧ reserved now s id = true
  | .size _ => False

theorem reserved_eq (now : ℤ) (id : String) :
    reserved now s id = (s.pruned now).reservations.has id := by
  rw [reserved, OrderedMap.has, pruned, OrderedMap.get?_filter]

theorem untouched_effect {α : Type} {error : JsError} {s' : CompletionRepository}
    (hs : Bounded options s)
    (h : Effect options adds clock s ((.error error, s') : Except JsError α × _))
    (hkeeps : clock.store = none → ∀ now id, clock.prune = some now → adds = some id →
      reserved now s id = false) : Untouched clock s s' := by
  cases h with
  | refused error hprune => exact .refl clock s
  | pruned now hprune result => exact untouched_pruned hprune s
  | lost now hprune hstore record htakes error =>
    -- There is no reservation to lose.
    have hnone : (s.pruned now).reservations.get? record.pairingSessionId = none := by
      cases htakes with
      | moved old hold hdevice hmove =>
        obtain ⟨stored, hstored, -⟩ := Option.map_eq_some_iff.1 hold
        exact (hs.pruned now).disjoint _ stored hstored
      | added hadds hnone hstate hroom =>
        have hreserved := hkeeps hstore now _ hprune hadds
        rw [reserved_eq] at hreserved
        exact (OrderedMap.has_false_iff _ _).1 hreserved
    rw [OrderedMap.delete_eq_self _ hnone]
    exact untouched_pruned hprune s

/-- `#store` with an invalid reading, for a session with a reservation. -/
theorem lost_call (hs : Bounded options s) {now : ℤ} {c : RepositoryCall} {id : String}
    (hprune : clock.prune = some now) (hstore : clock.store = none) (hadds : c.adds = some id)
    (hreserved : (s.pruned now).reservations.has id = true) :
    callAt options clock s c = (.error (.error "Pairing completion repository clock is invalid."),
      { s.pruned now with reservations := (s.pruned now).reservations.delete id }) := by
  have hnone : (s.pruned now).recordOf id = none := by
    by_contra hsome
    obtain ⟨record, hrecord⟩ := Option.ne_none_iff_exists'.1 hsome
    obtain ⟨stored, hstored, -⟩ := Option.map_eq_some_iff.1 hrecord
    have hdisjoint := (hs.pruned now).disjoint id stored hstored
    rw [OrderedMap.has, hdisjoint] at hreserved
    cases hreserved
  have hroom : ¬ ((s.pruned now).reservations.has id = false ∧ isFull options (s.pruned now)) := by
    rintro ⟨hfree, -⟩
    rw [hreserved] at hfree
    cases hfree
  have hlost : ∀ record : CompletionRecord, record.pairingSessionId = id →
      exec (store options clock record) (s.pruned now) =
        (.error (.error "Pairing completion repository clock is invalid."),
          { s.pruned now with reservations := (s.pruned now).reservations.delete id }) := by
    rintro record rfl
    unfold store nowMs
    rw [exec_get_bind, exec_set_bind, hstore]
    rfl
  cases c with
  | setPending input =>
    obtain rfl := Option.some.inj hadds
    show reply .record (exec (setPending options clock input) s) = _
    unfold setPending
    rw [exec_pruneExpired hprune, exec_get_bind, hnone]
    dsimp only
    rw [if_neg hroom, hlost _ rfl]
    rfl
  | beginRecovery input target =>
    obtain rfl := Option.some.inj hadds
    show reply .record (exec (beginRecovery options clock input target) s) = _
    unfold beginRecovery
    rw [exec_pruneExpired hprune, exec_get_bind, hnone]
    dsimp only
    rw [if_neg hroom, hlost _ rfl]
    rfl
  | _ => cases hadds

theorem error_of_map {α β : Type} {result : Except JsError α} {f : α → β} {error : JsError}
    (h : result.map f = .error error) : result = .error error := by
  cases result with
  | ok a => cases h
  | error e => exact congrArg Except.error (Except.error.inj h)

theorem atomic_iff (hs : Bounded options s) (e : RepositoryEvent) :
    Atomic options s e ↔ ¬ LosesReservation s e := by
  cases e with
  | size clock =>
    refine iff_of_true ?_ id
    intro error herror
    have hsize : Effect options none clock s (exec (size clock) s) := effect_size clock s
    have hfailed : (exec (size clock) s).1 = .error error := error_of_map herror
    show Untouched clock s (exec (size clock) s).2
    rw [← Prod.eta (exec (size clock) s), hfailed] at hsize
    exact untouched_effect hs hsize nofun
  | call clock c =>
    constructor
    · rintro hatomic ⟨hstore, now, id, hprune, hadds, hreserved⟩
      rw [reserved_eq] at hreserved
      have hcall := lost_call hs hprune hstore hadds hreserved
      have hout : perform options s (.call clock c) =
          (.error (.error "Pairing completion repository clock is invalid."),
            { s.pruned now with reservations := (s.pruned now).reservations.delete id }) := by
        rw [perform, hcall]
        rfl
      have huntouched := hatomic _ (congrArg Prod.fst hout)
      rw [step, hout] at huntouched
      obtain ⟨expiresAtMs, hget⟩ := (OrderedMap.has_iff _ _).1 hreserved
      rw [pruned, OrderedMap.get?_filter] at hget
      obtain ⟨hget, hlive⟩ := Option.filter_eq_some_iff.1 hget
      have hkept := (huntouched.reservations id expiresAtMs (by
        intro now' hnow'
        obtain rfl := Option.some.inj (hprune.symm.trans hnow')
        exact of_decide_eq_true hlive)).2 hget
      dsimp only at hkept
      rw [OrderedMap.get?_delete_self] at hkept
      cases hkept
    · intro hkeeps error herror
      by_cases hc : c.prunes
      · have heffect := effect_call hs clock c hc
        show Untouched clock s (callAt options clock s c).2
        have hfailed : (callAt options clock s c).1 = .error error := error_of_map herror
        rw [← Prod.eta (callAt options clock s c), hfailed] at heffect
        apply untouched_effect hs heffect
        intro hstore now id hprune hadds
        rw [Bool.eq_false_iff]
        exact fun hreserved => hkeeps ⟨hstore, now, id, hprune, hadds, hreserved⟩
      · cases c with
        | delete id => cases herror
        | _ => exact absurd trivial hc

/-! ## Runs -/

variable (options) in
/-- What holds of every step of every run. -/
structure Safe (s : CompletionRepository) (e : RepositoryEvent) : Prop where
  /-- Capacity, disjointness and the keys of the records, after the step. -/
  bounded : Bounded options (step options s e)
  moves : ∀ id, Moved ((before s e).recordOf id) ((step options s e).recordOf id)
  transfers : ∀ clock fromId toId, e = .call clock (.transferReservation fromId toId) →
    Transfers fromId toId (callAt options clock s (.transferReservation fromId toId)).1
      (before s e) (step options s e)

/-- Capacity, disjointness, transfers and the moves of the records hold in every run. Operations that
throw leave what has not expired exactly in the runs in which no reservation is lost. -/
theorem completionRepository_runs (options : CompletionRepositoryOptions)
    (events : List RepositoryEvent) :
    Along (step options) (Safe options) .new events ∧
      (Along (step options) (Atomic options) .new events ↔
        Along (step options) (fun s e => ¬ LosesReservation s e) .new events) := by
  have hbounded := fun (s : CompletionRepository) e (hs : Bounded options s) (_ : True) => hs.step e
  refine ⟨?_, ?_⟩
  · apply Along.of_invariant hbounded _ (bounded_new options) (along_true _ _)
    intro s e hs _
    refine ⟨hs.step e, moved_step hs e, ?_⟩
    rintro clock fromId toId rfl
    exact transfers_call clock s fromId toId
  · constructor
    · intro h
      apply Along.of_invariant (G := Atomic options) _ _ (bounded_new options) h
      · exact fun s e hs _ => hs.step e
      · exact fun s e hs hatomic => (atomic_iff hs e).1 hatomic
    · intro h
      apply Along.of_invariant (G := fun s e => ¬ LosesReservation s e) _ _ (bounded_new options) h
      · exact fun s e hs _ => hs.step e
      · exact fun s e hs hkeeps => (atomic_iff hs e).2 hkeeps

/-- The second reading of `setPending` is invalid, and the reservation of the session is gone. -/
theorem completionRepository_loses_reservation :
    ¬ Along (step .default) (Atomic .default) .new
      [.call (.at 0) (.reserve "session"),
        .call ⟨some 1, none⟩ (.setPending ⟨"session", "device", "credential", 1⟩)] := by
  rintro ⟨-, hatomic, -⟩
  have huntouched := hatomic (.error "Pairing completion repository clock is invalid.") rfl
  have hkept := huntouched.reservations "session" 300000 (by
    intro now hnow
    obtain rfl := Option.some.inj hnow
    decide)
  revert hkept
  decide

end CompletionRepository
end Doctmcp.Completion

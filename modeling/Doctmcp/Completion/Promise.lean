import Mathlib.Data.List.Induction
import Doctmcp.Completion.Invariant

/-! # What a promise knows

A session has at most one running promise, and what that promise has read of the record of its
session is still so: nobody else writes the record, except that a call may delete it or turn it
from pending to delivered. The generations of a device a promise changes in two ways only. -/

namespace Doctmcp.Completion
open Doctmcp.Lib Doctmcp.Lib.Operation Doctmcp.Schemas Doctmcp.Device Doctmcp.Pairing
open Doctmcp.Credential CompletionRepository
open DeviceCredentialService (Expects)
open InMemoryDeviceCredentialRepository (adapter)
set_option autoImplicit false

variable {options : ServiceOptions}

/-! ## The record and the cache -/

/-- The awaits of `#complete` on the way of a session without a record. -/
def CompletionStep.unrecorded : CompletionStep → Bool
  | .reserve | .issue | .dropReservation _ | .setPending _ | .readSource => true
  | _ => false

/-- The record that an iteration of `#recover` works on. -/
def CompletionStep.recovery : CompletionStep → Option (ℕ × CompletionRecord)
  | .readActive n r | .advanceRecovery n r _ | .rotate n r | .finishRecovery n r _ => some (n, r)
  | _ => none

/-- A session has at most one running promise, the cached one, and that promise knows what the
record of the session is: a resume on the way of a session without a record is right that there is
none, and an iteration works on the record that is there. -/
structure World.Tracks (w : World) (key : String) : Prop where
  cached : ∀ (j : ℕ) (t : Task), w.tasks[j]? = some t → t.key = key →
    t.step.isRunning = true → w.completionBySessionId.get? key = some j
  unrecorded : ∀ (j : ℕ) (t : Task), w.tasks[j]? = some t → t.key = key →
    t.recoverExisting = true → t.step.unrecorded = true → w.record key = none
  recorded : ∀ (j : ℕ) (t : Task), w.tasks[j]? = some t → t.key = key → ∀ n r,
    t.step.recovery = some (n, r) → ∀ r', w.record key = some r' → r' = r

/-- The next step of the call drops the cache entry of the acknowledged session. -/
def Call.forgets (key : String) : Call → Prop
  | .acknowledgeForget input => input.pairingSessionId = key
  | _ => False

/-- The event does not drop the cache entry of the session, which may still be running. -/
def World.Undisturbed (w : World) (key : String) : Event → Prop
  | .forgetPendingCompletion id _ => id ≠ key
  | .call i _ => ∀ c, w.calls[i]? = some c → ¬ c.forgets key
  | _ => True

theorem unrecorded_isRunning {s : CompletionStep} (h : s.unrecorded = true) :
    s.isRunning = true := by
  cases s <;> first | rfl | cases h

theorem recovery_isRunning {s : CompletionStep} {n : ℕ} {r : CompletionRecord}
    (h : s.recovery = some (n, r)) : s.isRunning = true := by
  cases s <;> first | rfl | cases h

theorem CompletionStep.WellFormed.recovers {s : CompletionStep} {id : String}
    (h : s.WellFormed id) {n : ℕ} {r : CompletionRecord} (hr : s.recovery = some (n, r)) :
    r.Recovers id := by
  cases s <;> first | (cases hr; exact h) | cases hr

theorem Task.result_running {t : Task} (h : t.step.isRunning = true) : t.result = none := by
  unfold Task.result
  cases hstep : t.step
  all_goals rw [hstep] at h
  all_goals cases h

theorem nextIteration_recovery (n : ℕ) : (nextIteration n).recovery = none := by
  rcases nextIteration_cases n with h | h <;> rw [h] <;> rfl

theorem nextIteration_unrecorded (n : ℕ) : (nextIteration n).unrecorded = false := by
  rcases nextIteration_cases n with h | h <;> rw [h] <;> rfl

/-! ## One step of a promise -/

section
variable {now : ℤ} {draw : Draw} {task : Task} {stores : Stores} {out : CompletionStep × Stores}

/-- A promise writes only the record of its own session. -/
theorem TaskStep.record_other (h : TaskStep options now draw task stores out)
    (htask : task.step.WellFormed task.key) {id : String} (hid : id ≠ task.key) :
    out.2.record now id = stores.record now id := by
  have hle := Int.le_refl now
  cases h with
  | throws _ c hkept | admitted c _ _ _ hkept | foundRecovering c _ _ _ _ _ hkept
  | foundPending c _ _ _ _ _ hkept | reserved c _ hkept | alreadyPending _ c _ _ _ hkept
  | begunFound _ _ _ c _ _ _ hkept | read _ _ _ c _ _ _ _ hkept | advanceRefused _ _ _ c _ hkept
  | finishRefused _ _ _ c _ hkept => exact hkept now hle id
  | dropped _ c _ hdeleted => exact (hdeleted now id).trans (if_neg hid)
  | pending _ c _ _ _ hrecord hstored =>
    subst hrecord
    exact (hstored now hle id).trans (if_neg hid)
  | begun _ _ c _ _ hstored | begunPending _ _ _ c _ _ _ _ hstored
  | advanced _ _ _ _ c _ _ _ hstored => exact (hstored now hle id).trans (if_neg hid)
  | finished n recovery _ _ c hstep _ _ hstored =>
    rw [hstep] at htask
    exact (hstored now hle id).trans (if_neg fun heq => hid (heq.trans htask.key))
  | _ => rfl

/-- What the promise knows of its record, it knows after the step. -/
theorem TaskStep.knows (h : TaskStep options now draw task stores out)
    (hunrecorded : task.recoverExisting = true → task.step.unrecorded = true →
      stores.record now task.key = none)
    (hrecorded : ∀ n r, task.step.recovery = some (n, r) →
      ∀ r', stores.record now task.key = some r' → r' = r) :
    (task.recoverExisting = true → out.1.unrecorded = true → out.2.record now task.key = none) ∧
      ∀ n r, out.1.recovery = some (n, r) → ∀ r', out.2.record now task.key = some r' → r' = r := by
  have hle := Int.le_refl now
  cases h with
  | admitted c _ hread _ hkept =>
    refine ⟨fun hrecover _ => ?_, fun _ _ h => (by cases h)⟩
    rcases hread with hread | hread
    · exact (hkept now hle _).trans hread
    · rw [hrecover] at hread
      cases hread
  | reserved c hstep hkept =>
    refine ⟨fun hrecover _ => ?_, fun _ _ h => (by cases h)⟩
    exact (hkept now hle _).trans (hunrecorded hrecover (by rw [hstep]; rfl))
  | issued _ _ hstep | alreadyExists hstep | issueThrown _ hstep =>
    exact ⟨fun hrecover _ => hunrecorded hrecover (by rw [hstep]; rfl), fun _ _ h => (by cases h)⟩
  | read n recovery _ c _ hread _ _ hkept =>
    refine ⟨fun _ h => (by cases h), fun n' r h r' hr' => ?_⟩
    cases h
    rw [Stores.record, hkept now hle] at hr'
    exact Option.some.inj (hr'.symm.trans hread)
  | active n recovery _ hstep | advances n recovery _ hstep =>
    refine ⟨fun _ h => (by cases h), fun n' r h => ?_⟩
    cases h
    exact hrecorded _ _ (by rw [hstep]; rfl)
  | rotated n recovery _ _ _ _ next hstep _ _ _ _ hnext =>
    rcases hnext with rfl | ⟨-, rfl⟩
    · refine ⟨fun _ h => (by cases h), fun n' r h => ?_⟩
      cases h
      exact hrecorded _ _ (by rw [hstep]; rfl)
    · exact ⟨fun _ h => (by cases h), fun _ _ h => (by cases h)⟩
  | advanced n | advanceRefused n | stale n | finishRefused n =>
    refine ⟨fun _ h => ?_, fun _ _ h => ?_⟩
    · rw [nextIteration_unrecorded] at h
      cases h
    · rw [nextIteration_recovery] at h
      cases h
  | idle hstep =>
    refine ⟨fun _ h => ?_, fun _ _ h => ?_⟩
    · rw [unrecorded_isRunning h] at hstep
      cases hstep
    · rw [recovery_isRunning h] at hstep
      cases hstep
  | _ => exact ⟨fun _ h => (by cases h), fun _ _ h => (by cases h)⟩

end

/-! ## One event -/

theorem getElem?_set_cases {α : Type} {l : List α} {i k : ℕ} {a b : α}
    (h : (l.set i a)[k]? = some b) : k = i ∧ b = a ∨ k ≠ i ∧ l[k]? = some b := by
  rw [List.getElem?_set] at h
  split at h
  · next hik =>
    split at h
    · exact .inl ⟨hik.symm, (Option.some.inj h).symm⟩
    · cases h
  · next hik => exact .inr ⟨fun heq => hik heq.symm, h⟩

/-- Nothing was added to the records of the session, and its promises stand where they stood or
where they need to know nothing. -/
theorem tracks_of_shrinks {w w' : World} {key : String} (h : w.Tracks key)
    (hcached : ∀ (j : ℕ) (t : Task), w'.tasks[j]? = some t → t.key = key →
      t.step.isRunning = true → w'.completionBySessionId.get? key = some j)
    (hrecord : ∀ r, w'.record key = some r → w.record key = some r)
    (htasks : ∀ (j : ℕ) (t : Task), w'.tasks[j]? = some t → w.tasks[j]? = some t ∨
      t.step.unrecorded = false ∧ t.step.recovery = none) : w'.Tracks key where
  cached := hcached
  unrecorded j t ht hkey hrecover hstep := by
    rcases htasks j t ht with ht | ⟨hnot, -⟩
    · cases hr : w'.record key with
      | none => rfl
      | some r =>
        have hnone := h.unrecorded j t ht hkey hrecover hstep
        rw [hrecord r hr] at hnone
        cases hnone
    · rw [hstep] at hnot
      cases hnot
  recorded j t ht hkey n r hstep r' hr' := by
    rcases htasks j t ht with ht | ⟨-, hnot⟩
    · exact h.recorded j t ht hkey n r hstep r' (hrecord r' hr')
    · rw [hstep] at hnot
      cases hnot

section Calls
variable {source : DeviceSource} {w w' : World} {i : ℕ} {call : Call} {key : String}

/-- A call adds no record, and replaces none but a pending one, by the delivered one. -/
theorem CallStep.record_shrinks (h : CallStep options source w i call w')
    (hrecords : w.RecordsWellFormed) {r : CompletionRecord} (hr : w'.record key = some r) :
    w.record key = some r ∨ ∃ existing, w.record key = some existing ∧
      existing.state = .pending ∧ r = { existing with state := .delivered } := by
  have hle := Int.le_refl w.now
  have hdelete : ∀ id c, Deleted id w.stores.completions c → live w.now c key = some r →
      w.record key = some r := by
    intro id c hdeleted hr
    have heq := hdeleted w.now key
    rw [hr] at heq
    split at heq
    · cases heq
    · exact heq.symm
  cases h with
  | throws _ _ c _ hkept | admitted _ _ c hkept | transferred _ _ _ c hkept
  | transferRefused _ _ _ c hkept | undelivered _ _ _ c _ hkept =>
    exact .inl ((hkept w.now hle key).symm.trans hr)
  | dropped id _ c hdeleted | forgot id c hdeleted => exact .inl (hdelete id c hdeleted hr)
  | acknowledged input device existing c hread _ _ hstate =>
    rcases hstate with ⟨-, hkept⟩ | ⟨hpending, hstored⟩
    · exact .inl ((hkept w.now hle key).symm.trans hr)
    · have hid := (hrecords _ _ hread).key
      by_cases hkey : key = existing.pairingSessionId
      · refine .inr ⟨existing, by rw [hkey, hid]; exact hread, hpending, ?_⟩
        subst hkey
        exact Option.some.inj (hr.symm.trans hstored.live_self)
      · exact .inl (((hstored w.now hle key).trans (if_neg hkey)).symm.trans hr)
  | _ => exact .inl hr

/-- After a call the promises of the session are the same, or a new one that just started, and the
cache still leads to the running one. -/
theorem CallStep.cached (h : CallStep options source w i call w') (ht : w.Tracks key)
    (hcall : ¬ call.forgets key) (j : ℕ) (t : Task) (htask : w'.tasks[j]? = some t)
    (hkey : t.key = key) (hrunning : t.step.isRunning = true) :
    w'.completionBySessionId.get? key = some j := by
  have hcreated : ∀ new : Task, w.completionBySessionId.get? new.key = none →
      (w.tasks ++ [new])[j]? = some t →
      (w.completionBySessionId.set new.key w.tasks.length).get? key = some j := by
    intro new hnone htask
    rw [List.getElem?_append] at htask
    rw [OrderedMap.get?_set]
    split at htask
    · have hcached := ht.cached j t htask hkey hrunning
      split
      · next heq =>
        rw [heq, hnone] at hcached
        cases hcached
      · exact hcached
    · next hlength =>
      rw [List.getElem?_singleton] at htask
      split at htask
      · obtain rfl := Option.some.inj htask
        rw [if_pos hkey.symm, show j = w.tasks.length by omega]
      · cases htask
  cases h with
  | claimCreated session device hnone => exact hcreated _ hnone htask
  | resumeCreated _ session device hnone => exact hcreated _ hnone htask
  | failed k _ promise _ cache hpromise hresult hcache =>
    rcases hcache with rfl | ⟨hget, rfl⟩
    · exact ht.cached j t htask hkey hrunning
    · have hcached := ht.cached j t htask hkey hrunning
      by_cases heq : key = promise.key
      · rw [heq, hget, Option.some.injEq] at hcached
        rw [hcached] at hpromise
        obtain rfl := Option.some.inj (hpromise.symm.trans htask)
        rw [Task.result_running hrunning] at hresult
        cases hresult
      · exact (OrderedMap.get?_delete_ne _ heq).trans hcached
  | forgotCached input =>
    exact (OrderedMap.get?_delete_ne _ fun heq => hcall heq.symm).trans
      (ht.cached j t htask hkey hrunning)
  | _ => exact ht.cached j t htask hkey hrunning

/-- Two promises of the session do not run at once. -/
theorem World.Tracks.unique (h : w.Tracks key) {j k : ℕ} {t u : Task}
    (ht : w.tasks[j]? = some t) (hu : w.tasks[k]? = some u) (htkey : t.key = key)
    (hukey : u.key = key) (htrunning : t.step.isRunning = true)
    (hurunning : u.step.isRunning = true) : j = k :=
  Option.some.inj ((h.cached j t ht htkey htrunning).symm.trans
    (h.cached k u hu hukey hurunning))

theorem tracks_call (h : CallStep options source w i call w') (hgood : w.Good options)
    (ht : w.Tracks key) (hcall : ¬ call.forgets key) : w'.Tracks key := by
  have htasks : ∀ (j : ℕ) (t : Task), w'.tasks[j]? = some t → w.tasks[j]? = some t ∨
      t.step = .readPersisted := by
    intro j t htask
    rcases h.tasks with heq | ⟨new, hstep, heq⟩
    · exact .inl (heq ▸ htask)
    · rw [heq, List.getElem?_append] at htask
      split at htask
      · exact .inl htask
      · obtain rfl := List.mem_singleton.mp (List.mem_of_getElem? htask)
        exact .inr hstep
  refine ⟨h.cached ht hcall, fun j t htask hkey hrecover hstep => ?_,
    fun j t htask hkey n r hstep r' hr' => ?_⟩
  · rcases htasks j t htask with hold | hnew
    · have hnone := ht.unrecorded j t hold hkey hrecover hstep
      cases hr : w'.record key with
      | none => rfl
      | some r =>
        rcases h.record_shrinks hgood.records hr with hr | ⟨_, hr, -⟩ <;>
        · rw [hnone] at hr
          cases hr
    · rw [hnew] at hstep
      cases hstep
  · rcases htasks j t htask with hold | hnew
    · have hsame := ht.recorded j t hold hkey n r hstep
      rcases h.record_shrinks hgood.records hr' with hr | ⟨existing, hr, hpending, -⟩
      · exact hsame r' hr
      · -- The record of a recovery is not pending.
        have hstate := ((hgood.tasks t (List.mem_of_getElem? hold)).recovers hstep).state
        rw [← hsame existing hr, hpending] at hstate
        cases hstate
    · rw [hnew] at hstep
      cases hstep

end Calls

theorem tracks_task {w : World} {key : String} (hgood : w.Good options) (h : w.Tracks key)
    {j : ℕ} {task : Task} (htask : w.tasks[j]? = some task) (draw : Draw) :
    (w.step options (.task j draw)).Tracks key := by
  have hstep := taskStep options w.now draw task hgood.sound.stores
  have hwf := hgood.tasks task (List.mem_of_getElem? htask)
  have hout : task.step.isRunning = false →
      stepTask options w.now draw task w.stores = (task.step, w.stores) := stepTask_idle
  simp only [World.step, htask]
  generalize stepTask options w.now draw task w.stores = out at hstep hout
  -- The other promises of the session have ended, and this one writes no other session's record.
  have hother : ∀ (k : ℕ) (t : Task), k ≠ j → w.tasks[k]? = some t → t.key = key →
      t.step.isRunning = true → out.2.record w.now key = w.record key := by
    intro k t hne ht hkey hrunning
    by_cases heq : key = task.key
    · cases hidle : task.step.isRunning with
      | true => exact absurd (h.unique ht htask hkey heq.symm hrunning hidle) hne
      | false => rw [hout hidle]; rfl
    · exact hstep.record_other hwf heq
  have hknows := fun hkey : task.key = key => hstep.knows
    (fun hrecover hunrecorded => hkey ▸ h.unrecorded j task htask hkey hrecover hunrecorded)
    (fun n r hr r' hr' => h.recorded j task htask hkey n r hr r' (hkey ▸ hr'))
  refine ⟨fun k t ht hkey hrunning => ?_, fun k t ht hkey hrecover hunrecorded => ?_,
    fun k t ht hkey n r hr r' hr' => ?_⟩
  · rcases getElem?_set_cases ht with ⟨rfl, rfl⟩ | ⟨-, ht⟩
    · cases hidle : task.step.isRunning with
      | true => exact h.cached k task htask hkey hidle
      | false =>
        rw [hout hidle] at hrunning
        exact absurd (hidle.symm.trans hrunning) (by decide)
    · exact h.cached k t ht hkey hrunning
  · rcases getElem?_set_cases ht with ⟨rfl, rfl⟩ | ⟨hne, ht⟩
    · exact hkey ▸ (hknows hkey).1 hrecover hunrecorded
    · exact (hother k t hne ht hkey (unrecorded_isRunning hunrecorded)).trans
        (h.unrecorded k t ht hkey hrecover hunrecorded)
  · rcases getElem?_set_cases ht with ⟨rfl, rfl⟩ | ⟨hne, ht⟩
    · exact (hknows hkey).2 n r hr r' (hkey ▸ hr')
    · refine h.recorded k t ht hkey n r hr r' ?_
      exact (hother k t hne ht hkey (recovery_isRunning hr)).symm.trans hr'

theorem tracks_step (w : World) (e : Event) {key : String} (hgood : w.Good options)
    (h : w.Tracks key) (hundisturbed : w.Undisturbed key e) :
    (w.step options e).Tracks key := by
  cases e with
  | tick ms =>
    exact tracks_of_shrinks h h.cached (fun _ => World.record_tick) fun _ _ ht => .inl ht
  | call i source =>
    simp only [World.step]
    cases hcall : w.calls[i]? with
    | none => exact h
    | some call =>
      exact tracks_call (callStep source i hgood.sound call) hgood h (hundisturbed call hcall)
  | task j draw =>
    cases htask : w.tasks[j]? with
    | none =>
      simp only [World.step, htask]
      exact h
    | some task => exact tracks_task hgood h htask draw
  | crash =>
    have hended : ∀ (j : ℕ) (t : Task), (w.step options .crash).tasks[j]? = some t →
        t.step.isRunning = false := by
      intro j t ht
      change (w.tasks.map _)[j]? = some t at ht
      rw [List.getElem?_map, Option.map_eq_some_iff] at ht
      obtain ⟨t', -, rfl⟩ := ht
      split
      · rfl
      · next hidle => simpa using hidle
    refine ⟨fun j t ht _ hrunning => ?_, fun j t ht _ _ hstep => ?_, fun j t ht _ n r hstep => ?_⟩
    · rw [hended j t ht] at hrunning
      cases hrunning
    · exact absurd ((hended j t ht).symm.trans (unrecorded_isRunning hstep)) (by decide)
    · exact absurd ((hended j t ht).symm.trans (recovery_isRunning hstep)) (by decide)
  | forgetPendingCompletion id preserve =>
    refine tracks_of_shrinks h (fun j t ht hkey hrunning => ?_) (fun _ hr => hr)
      fun _ _ ht => .inl ht
    exact (OrderedMap.get?_delete_ne _ fun heq => hundisturbed heq.symm).trans
      (h.cached j t ht hkey hrunning)
  | claimAndIssue | resumeClaimedPairing | acknowledgeDelivery | credential | pairing =>
    exact ⟨h.cached, h.unrecorded, h.recorded⟩

theorem tracks_init (now : ℤ) (key : String) : (World.init now).Tracks key :=
  ⟨fun _ _ h => (nomatch h), fun _ _ h => (nomatch h), fun _ _ h => (nomatch h)⟩

/-! ## The generation a promise installs -/

section
variable {now : ℤ} {draw : Draw} {task : Task} {stores : Stores} {out : CompletionStep × Stores}

/-- How a promise came to install a generation of its device. -/
inductive Installation (now : ℤ) (draw : Draw) (task : Task) (stores : Stores)
    (record : StoredCredential) : Prop
  | issued (hstep : task.step = .issue) (hid : record.credentialId = draw.credentialId)
      (hvacant : stores.active task.device.deviceId = none)
  | rotated (n : ℕ) (recovery : CompletionRecord) (current : StoredCredential)
      (hstep : task.step = .rotate n recovery)
      (hexpected : Expects stores.credentials task.device.deviceId recovery.credentialId
        recovery.credentialVersion current)
      (hid : deviceCredentialIdSchema (recovery.recoveryTargetCredentialId.getD "") =
        some record.credentialId)
      (hversion : record.version = current.version + 1)

/-- A promise leaves the generations alone, or installs one of its device and nothing else. -/
theorem TaskStep.credentials (h : TaskStep options now draw task stores out) :
    out.2.credentials = stores.credentials ∨
      out.2.completions = stores.completions ∧ ∃ record, record.deviceId = task.device.deviceId ∧
        adapter.Installs stores.credentials record out.2.credentials ∧
        Installation now draw task stores record := by
  cases h with
  | issued k record hstep hrecord hvacant h =>
    exact .inr ⟨rfl, record, by rw [hrecord]; rfl, h, .issued hstep (by rw [hrecord]; rfl) hvacant⟩
  | rotated n recovery current record id k next hstep hexpected hid hrecord h hnext =>
    exact .inr ⟨rfl, record, by rw [hrecord]; rfl, h,
      .rotated n recovery current hstep hexpected (by rw [hid, hrecord]; rfl)
        (by rw [hrecord]; rfl)⟩
  | _ => exact .inl rfl

/-- The source and target of a rotation, from the record the promise had read. -/
theorem Installation.rotated_ids {record : StoredCredential} {recovery : CompletionRecord}
    {current : StoredCredential} (hrecovery : recovery.Recovers task.key)
    (hexpected : Expects stores.credentials task.device.deviceId recovery.credentialId
      recovery.credentialVersion current)
    (hid : deviceCredentialIdSchema (recovery.recoveryTargetCredentialId.getD "") =
      some record.credentialId) :
    recovery.credentialId = current.credentialId.value ∧
      recovery.credentialVersion = current.version ∧
      recovery.recoveryTargetCredentialId = some record.credentialId.value := by
  obtain ⟨u, hu⟩ := hrecovery.credentialId
  obtain ⟨v, hv⟩ := hrecovery.reserved
  obtain ⟨-, hsource, hversion⟩ := hexpected
  rw [hu, deviceCredentialIdSchema_value, Option.some.injEq] at hsource
  rw [hv, Option.getD_some, deviceCredentialIdSchema_value, Option.some.injEq] at hid
  exact ⟨by rw [hu, hsource], hversion.symm, by rw [hv, hid]⟩

/-- The step that changes the active generation of a device into another one replaces the
generation the record names by the target it reserves. -/
theorem TaskStep.replaces (h : TaskStep options now draw task stores out)
    (htask : task.step.WellFormed task.key) {d : DeviceId} {current next : StoredCredential}
    (hcurrent : stores.active d = some current) (hnext : out.2.active d = some next)
    (hne : next ≠ current) : task.device.deviceId = d ∧ ∃ n recovery,
      task.step = .rotate n recovery ∧ recovery.credentialId = current.credentialId.value ∧
      recovery.credentialVersion = current.version ∧
      recovery.recoveryTargetCredentialId = some next.credentialId.value ∧
      next.version = current.version + 1 := by
  rcases h.credentials with hsame | ⟨-, record, hdevice, hinstalls, hhow⟩
  · rw [Stores.active, hsame] at hnext
    exact absurd (Option.some.inj (hnext.symm.trans hcurrent)) hne
  · rw [Stores.active, hinstalls.active_after] at hnext
    split at hnext
    · next hd =>
      obtain rfl := Option.some.inj hnext
      have hd : task.device.deviceId = d := hdevice.symm.trans hd.symm
      cases hhow with
      | issued _ _ hvacant =>
        rw [hd, hcurrent] at hvacant
        cases hvacant
      | rotated n recovery current' hstep hexpected hid hversion =>
        rw [hstep] at htask
        obtain ⟨hsource, hv, htarget⟩ := Installation.rotated_ids htask hexpected hid
        have hactive := hexpected.1
        rw [hd] at hactive
        obtain rfl := Option.some.inj (hactive.symm.trans hcurrent)
        exact ⟨hd, n, recovery, hstep, hsource, hv, htarget, hversion⟩
    · exact absurd (Option.some.inj (hnext.symm.trans hcurrent)) hne

end

end Doctmcp.Completion

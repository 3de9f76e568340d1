import Doctmcp.Completion.Promise

/-! # Recovery and foreign mutations

Recovery and the foreign rotates and revokes of a device meet in two stores. What keeps recovery
from undoing a mutation is that a promise acts on the record of its session only while that record
is the one it read (`World.Tracks`), and that after a mutation the record and the generation
of the device name different ids, with no way to meet again (`World.Superseded`). -/

namespace Doctmcp.Completion
open Doctmcp.Lib Doctmcp.Lib.Operation Doctmcp.Schemas Doctmcp.Device Doctmcp.Pairing
open Doctmcp.Credential CompletionRepository
open InMemoryDeviceCredentialRepository (adapter)
set_option autoImplicit false

variable {options : ServiceOptions}

/-! ## Runs without acknowledgement -/

namespace World

/-- No generation has used the id and no completion record names it. -/
def Fresh (w : World) (id : CredentialId) : Prop :=
  id ∉ w.stores.credentials.usedCredentialIds ∧
    ∀ stored ∈ w.stores.completions.records.values, stored.record.credentialId ≠ id.value ∧
      stored.record.recoveryTargetCredentialId ≠ some id.value

instance (w : World) (id : CredentialId) : Decidable (w.Fresh id) :=
  inferInstanceAs (Decidable (_ ∧ _))

theorem Fresh.record {w : World} {id : CredentialId} (h : w.Fresh id) {key : String}
    {r : CompletionRecord} (hr : w.record key = some r) :
    r.credentialId ≠ id.value ∧ r.recoveryTargetCredentialId ≠ some id.value := by
  obtain ⟨stored, hstored, rfl⟩ := Option.map_eq_some_iff.mp hr
  exact h.2 stored ((OrderedMap.mem_values_iff _ _).mpr
    ⟨key, (Option.filter_eq_some_iff.mp hstored).1⟩)

/-- The credential id that a foreign call wants to install. -/
def requestedId : Credential.Call → Option CredentialId
  | .issue input => deviceCredentialIdSchema input.credentialId
  | .rotate input => deviceCredentialIdSchema input.credentialId
  | _ => none

/-- Claims, resumes, foreign mutations, crashes and the passage of time, with fresh ids. -/
def Recovers (w : World) : Event → Prop
  | .acknowledgeDelivery _ | .forgetPendingCompletion _ _ => False
  | .task _ draw => w.Fresh draw.credentialId
  | .credential call => ∀ id ∈ requestedId call, w.Fresh id
  | _ => True

instance (w : World) (e : Event) : Decidable (w.Recovers e) := by
  unfold Recovers
  split <;> infer_instance

end World

/-- A call of `acknowledgeDelivery`. -/
def Call.acknowledges : Call → Bool
  | .acknowledgeSession _ | .acknowledgeDevice _ _ | .acknowledgeStore _ _
  | .acknowledgeForget _ => true
  | _ => false

theorem Call.not_forgets {call : Call} (h : call.acknowledges = false) (key : String) :
    ¬ call.forgets key := by
  cases call <;> first | exact fun hforgets => hforgets.elim | cases h

/-- A world in which no session is acknowledged or forgotten. -/
structure World.Recovering (options : ServiceOptions) (w : World) : Prop where
  good : w.Good options
  calls : ∀ call ∈ w.calls, call.acknowledges = false
  tracks : ∀ key, w.Tracks key

theorem CallStep.acknowledges {source : DeviceSource} {w w' : World} {i : ℕ} {call : Call}
    (h : CallStep options source w i call w') (hcall : call.acknowledges = false)
    (hcalls : ∀ c ∈ w.calls, c.acknowledges = false) : ∀ c ∈ w'.calls, c.acknowledges = false := by
  have hset : ∀ v : World, v.calls = w.calls → ∀ next : Call, next.acknowledges = false →
      ∀ c ∈ (v.setCall i next).calls, c.acknowledges = false := by
    intro v hv next hnext c hc
    rcases World.mem_setCall hc with hc | rfl
    · exact hcalls c (hv ▸ hc)
    · exact hnext
  cases h with
  | idle => exact hcalls
  | acknowledgeFound | acknowledgeOwned | acknowledged | forgotCached => cases hcall
  | _ => exact hset _ rfl _ rfl

theorem recovering_step (w : World) (e : Event) (h : w.Recovering options)
    (hallowed : w.Recovers e) : (w.step options e).Recovering options := by
  refine ⟨good_step w e h.good, ?_, fun key => tracks_step w e h.good (h.tracks key) ?_⟩
  · have hstart : ∀ next : Call, next.acknowledges = false →
        ∀ c ∈ (w.start next).calls, c.acknowledges = false := by
      intro next hnext c hc
      rcases List.mem_append.mp hc with hc | hc
      · exact h.calls c hc
      · exact List.mem_singleton.mp hc ▸ hnext
    cases e with
    | acknowledgeDelivery | forgetPendingCompletion => exact hallowed.elim
    | claimAndIssue | resumeClaimedPairing => exact hstart _ rfl
    | call i source =>
      simp only [World.step]
      cases hcall : w.calls[i]? with
      | none => exact h.calls
      | some call =>
        exact (callStep source i h.good.sound call).acknowledges
          (h.calls call (List.mem_of_getElem? hcall)) h.calls
    | task j draw =>
      simp only [World.step]
      cases w.tasks[j]? <;> exact h.calls
    | crash =>
      intro c hc
      obtain ⟨c', hc', rfl⟩ := List.mem_map.mp hc
      split
      · rfl
      · exact h.calls c' hc'
    | tick | credential | pairing => exact h.calls
  · cases e with
    | acknowledgeDelivery | forgetPendingCompletion => exact hallowed.elim
    | call i source =>
      exact fun c hc => Call.not_forgets (h.calls c (List.mem_of_getElem? hc)) key
    | _ => trivial

/-! ## After a mutation -/

/-- The latest generation of the device is revoked, or is one the record names neither as its
source nor as its target. -/
def Passed (s : InMemoryDeviceCredentialRepository) (d : DeviceId) (r : CompletionRecord) : Prop :=
  ∃ c, adapter.stored s d = some c ∧ (c.state = .revoked ∨ c.credentialId ∈ s.usedCredentialIds ∧
    r.credentialId ≠ c.credentialId.value ∧
    r.recoveryTargetCredentialId ≠ some c.credentialId.value)

/-- The device of session `p` was mutated from outside while the session had a record. -/
structure World.Superseded (options : ServiceOptions) (p : PairingSessionId) (d : DeviceId)
    (w : World) : Prop where
  owner : ∀ q, World.Links options w q d → q = p
  known : w.Known d
  passed : ∃ r, w.record p.value = some r ∧ Passed w.stores.credentials d r

/-- A record that names the ids of a passed one, or fresh ones, is passed. -/
theorem Passed.names {s : InMemoryDeviceCredentialRepository} {d : DeviceId}
    {r r' : CompletionRecord} (h : Passed s d r) {id : CredentialId}
    (hid : id ∉ s.usedCredentialIds)
    (hsource : r'.credentialId = r.credentialId ∨
      r.recoveryTargetCredentialId = some r'.credentialId)
    (htarget : ∀ t ∈ r'.recoveryTargetCredentialId, t = id.value) : Passed s d r' := by
  obtain ⟨c, hc, hstate⟩ := h
  refine ⟨c, hc, hstate.imp_right fun ⟨hused, hs, ht⟩ => ⟨hused, ?_, fun heq => ?_⟩⟩
  · rcases hsource with heq | heq
    · rwa [heq]
    · exact fun h => ht (by rw [heq, h])
  · obtain rfl := UuidV4.ext (htarget _ heq)
    exact hid hused

section
variable {now : ℤ} {draw : Draw} {task : Task} {stores : Stores} {out : CompletionStep × Stores}

/-- The record a promise leaves behind names no more than the one it found. -/
theorem TaskStep.passed (h : TaskStep options now draw task stores out)
    (htask : task.step.WellFormed task.key) (hdraw : draw.credentialId ∉
      stores.credentials.usedCredentialIds) {d : DeviceId} {id : String} {r r' : CompletionRecord}
    (hr : stores.record now id = some r) (hr' : out.2.record now id = some r')
    (hpassed : Passed stores.credentials d r) : Passed stores.credentials d r' := by
  have hle := Int.le_refl now
  by_cases hkey : id = task.key
  swap
  · rw [h.record_other htask hkey, hr, Option.some.injEq] at hr'
    rwa [← hr']
  subst hkey
  have hkeep : ∀ c, Kept now stores.completions c → live now c task.key = some r' →
      Passed stores.credentials d r' := by
    intro c hkept h
    rw [hkept now hle] at h
    obtain rfl := Option.some.inj (hr.symm.trans h)
    exact hpassed
  have hstore : ∀ (record : CompletionRecord) c,
      Stored options.completions now record stores.completions c →
      record.pairingSessionId = task.key → live now c task.key = some r' → record = r' := by
    intro record c hstored hid h
    rw [← hid, hstored.live_self, Option.some.injEq] at h
    exact h
  cases h with
  | throws _ c hkept | admitted c _ _ _ hkept | foundRecovering c _ _ _ _ _ hkept
  | foundPending c _ _ _ _ _ hkept | reserved c _ hkept | alreadyPending _ c _ _ _ hkept
  | begunFound _ _ _ c _ _ _ hkept | read _ _ _ c _ _ _ _ hkept | advanceRefused _ _ _ c _ hkept
  | finishRefused _ _ _ c _ hkept => exact hkeep c hkept hr'
  | dropped _ c _ hdeleted =>
    have heq := hdeleted now task.key
    rw [if_pos rfl] at heq
    exact (nomatch heq.symm.trans hr')
  | pending _ c _ _ hread | begun _ _ c _ hread =>
    rw [hr] at hread
    cases hread
  | begunPending _ _ existing c _ hread _ _ hstored =>
    obtain rfl := Option.some.inj (hread.symm.trans hr)
    obtain rfl := hstore _ c hstored rfl hr'
    exact hpassed.names hdraw (.inl rfl) fun t ht => (Option.mem_some_iff.mp ht).symm
  | advanced _ _ existing active c _ hread hmatches hstored =>
    obtain rfl := Option.some.inj (hread.symm.trans hr)
    obtain rfl := hstore _ c hstored rfl hr'
    exact hpassed.names hdraw (.inr hmatches.2.2.2.2.1) fun t ht => (Option.mem_some_iff.mp ht).symm
  | finished _ recovery existing issued c hstep hread hmatches hstored =>
    rw [hstep] at htask
    rw [htask.key] at hread
    obtain rfl := Option.some.inj (hread.symm.trans hr)
    obtain rfl := hstore _ c hstored htask.key hr'
    exact hpassed.names hdraw (.inr hmatches.2.2.2.2.1) fun t ht => (nomatch ht)
  | _ =>
    obtain rfl := Option.some.inj (hr.symm.trans hr')
    exact hpassed

end

/-- Another device's new generation leaves a passed record passed. -/
theorem Passed.installs {s s' : InMemoryDeviceCredentialRepository} {d : DeviceId}
    {r : CompletionRecord} (h : Passed s d r) {record : StoredCredential}
    (hi : adapter.Installs s record s') (hd : record.deviceId ≠ d) : Passed s' d r := by
  obtain ⟨c, hc, hstate⟩ := h
  refine ⟨c, ?_, hstate.imp_right fun ⟨hused, hnames⟩ => ⟨(hi.used _).mpr (.inr hused), hnames⟩⟩
  rw [hi.stored, if_neg (Ne.symm hd)]
  exact hc

/-- A new generation under an id that the record does not name. -/
theorem Passed.of_installs {s s' : InMemoryDeviceCredentialRepository} {r : CompletionRecord}
    {record : StoredCredential} (hi : adapter.Installs s record s')
    (hnames : r.credentialId ≠ record.credentialId.value ∧
      r.recoveryTargetCredentialId ≠ some record.credentialId.value) :
    Passed s' record.deviceId r :=
  ⟨record, by rw [hi.stored, if_pos rfl], .inr ⟨(hi.used _).mpr (.inl rfl), hnames⟩⟩

/-- A foreign call that mutates the device, or comes after one that did. -/
theorem callOutcome_passed {s : InMemoryDeviceCredentialRepository} {c : Credential.Call}
    {out : Credential.Outcome × InMemoryDeviceCredentialRepository} {d : DeviceId}
    {r : CompletionRecord} (h : adapter.CallOutcome s c out)
    (hfresh : ∀ id ∈ World.requestedId c, r.credentialId ≠ id.value ∧
      r.recoveryTargetCredentialId ≠ some id.value)
    (hpassed : Passed s d r ∨ adapter.active out.2 d ≠ adapter.active s d) :
    Passed out.2 d r := by
  have hinstall : ∀ (record : StoredCredential) s', adapter.Installs s record s' →
      record.credentialId ∈ World.requestedId c →
      Passed s d r ∨ adapter.active s' d ≠ adapter.active s d → Passed s' d r := by
    intro record s' hi hid hpassed
    by_cases hd : record.deviceId = d
    · subst hd
      exact .of_installs hi (hfresh _ hid)
    · refine hpassed.elim (fun h => h.installs hi hd) fun hne => absurd ?_ hne
      rw [hi.active_after, if_neg (Ne.symm hd)]
  cases h with
  | issued input record s' _ hid _ _ h => exact hinstall record s' h hid hpassed
  | rotated input current record s' _ _ _ hid _ _ h => exact hinstall record s' h hid hpassed
  | revoked input current t s' _ _ _ h =>
    by_cases hd : d = current.deviceId
    · exact ⟨current.revoke t, by rw [h.stored, if_pos hd], .inl rfl⟩
    · rcases hpassed with ⟨c, hc, hstate⟩ | hne
      · refine ⟨c, by rw [h.stored, if_neg hd]; exact hc, hstate.imp_right fun ⟨hused, hnames⟩ =>
          ⟨(h.used _).mpr hused, hnames⟩⟩
      · exact absurd (by rw [h.active_after, if_neg hd]) hne
  | deviceCreated device s' hstored hused =>
    rcases hpassed with ⟨c, hc, hstate⟩ | hne
    · exact ⟨c, by rw [hstored]; exact hc, hstate.imp_right fun ⟨hu, hnames⟩ =>
        ⟨(hused _).mpr hu, hnames⟩⟩
    · exact absurd (Credential.Adapter.active_of_stored hstored d) hne
  | _ => exact hpassed.resolve_right fun hne => hne rfl

theorem CallStep.credentials {source : DeviceSource} {w w' : World} {i : ℕ} {call : Call}
    (h : CallStep options source w i call w') :
    w'.stores.credentials = w.stores.credentials := by
  cases h <;> rfl

/-- One step of a promise after the mutation: the device stays superseded, and a resume leaves
its active generation as it is. -/
theorem superseded_task {w : World} (h : w.Recovering options) {p : PairingSessionId}
    {d : DeviceId} (hk : w.Superseded options p d) {j : ℕ} {draw : Draw} {task : Task}
    (htask : w.tasks[j]? = some task) (hfresh : w.Fresh draw.credentialId)
    (hlive : (w.step options (.task j draw)).record p.value ≠ none) :
    (w.step options (.task j draw)).Superseded options p d ∧ (task.recoverExisting = true →
      (w.step options (.task j draw)).stores.active d = w.stores.active d) := by
  obtain ⟨hknown, howner⟩ := owner_step w (.task j draw) h.good.sound hk.known hk.owner
  obtain ⟨r, hr, hpassed⟩ := hk.passed
  obtain ⟨r', hr'⟩ := Option.ne_none_iff_exists'.mp hlive
  have hmem := List.mem_of_getElem? htask
  have hwf := h.good.tasks task hmem
  have hstep := taskStep options w.now draw task h.good.sound.stores
  have hw' : w.step options (.task j draw) = { w with
      tasks := w.tasks.set j { task with step := (stepTask options w.now draw task w.stores).1 }
      stores := (stepTask options w.now draw task w.stores).2 } := by
    simp only [World.step, htask]
  have hlink : task.device.deviceId = d → task.key = p.value := fun hd =>
    congrArg UuidV4.value (hk.owner _ (.task task hmem (by rw [Task.link, hd])))
  rw [hw'] at hr' hknown howner ⊢
  have hpassed' := hstep.passed hwf hfresh.1 hr hr' hpassed
  rcases hstep.credentials with hsame | ⟨hrecords, record, hdevice, hi, hhow⟩
  · refine ⟨⟨howner, hknown, r', hr', ?_⟩, fun _ => ?_⟩
    · rw [hsame]
      exact hpassed'
    · rw [Stores.active, hsame]
      rfl
  · have hrr : r' = r := by
      change live w.now _ p.value = some r' at hr'
      rw [hrecords] at hr'
      exact Option.some.inj (hr'.symm.trans hr)
    subst hrr
    by_cases hd : record.deviceId = d
    swap
    · refine ⟨⟨howner, hknown, r', hr', hpassed.installs hi hd⟩, fun _ => ?_⟩
      exact (hi.active_after d).trans (if_neg (Ne.symm hd))
    have hkey := hlink (hdevice.symm.trans hd)
    cases hhow with
    | issued hat hid _ =>
      refine ⟨⟨howner, hknown, r', hr', ?_⟩, fun hrecover => ?_⟩
      · rw [← hd]
        refine .of_installs hi ?_
        rw [hid]
        exact hfresh.record hr
      · have hnone := (h.tracks _).unrecorded j task htask rfl hrecover (by rw [hat]; rfl)
        rw [hkey, hr] at hnone
        cases hnone
    | rotated n recovery current hat hexpected hid _ =>
      exfalso
      have hsame := (h.tracks _).recorded j task htask rfl n recovery (by rw [hat]; rfl) r'
        (by rw [hkey]; exact hr)
      subst hsame
      rw [hat] at hwf
      obtain ⟨hsource, -, -⟩ := Installation.rotated_ids hwf hexpected hid
      obtain ⟨c, hc, hstate⟩ := hpassed
      obtain ⟨hstored, hactive⟩ := Adapter.active_eq_some.mp hexpected.1
      rw [hdevice.symm.trans hd, hc] at hstored
      obtain rfl := Option.some.inj hstored
      rcases hstate with hrevoked | ⟨-, hne, -⟩
      · rw [hactive] at hrevoked
        cases hrevoked
      · exact hne hsource

theorem superseded_step (w : World) (e : Event) (h : w.Recovering options)
    {p : PairingSessionId} {d : DeviceId} (hk : w.Superseded options p d)
    (hallowed : w.Recovers e) (hlive : (w.step options e).record p.value ≠ none) :
    (w.step options e).Superseded options p d := by
  obtain ⟨hknown, howner⟩ := owner_step w e h.good.sound hk.known hk.owner
  obtain ⟨r, hr, hpassed⟩ := hk.passed
  obtain ⟨r', hr'⟩ := Option.ne_none_iff_exists'.mp hlive
  refine ⟨howner, hknown, ?_⟩
  cases e with
  | acknowledgeDelivery | forgetPendingCompletion => exact hallowed.elim
  | tick ms =>
    obtain rfl := Option.some.inj (hr.symm.trans (World.record_tick hr'))
    exact ⟨r, hr', hpassed⟩
  | call i source =>
    simp only [World.step] at hr' ⊢
    cases hcall : w.calls[i]? with
    | none => exact ⟨r, hr, hpassed⟩
    | some call =>
      rw [hcall] at hr'
      have hstep := callStep source i h.good.sound call
      refine ⟨r', hr', ?_⟩
      dsimp only
      rw [hstep.credentials]
      rcases hstep.record_shrinks h.good.records hr' with hold | ⟨existing, hold, -, rfl⟩
      · exact Option.some.inj (hr.symm.trans hold) ▸ hpassed
      · obtain rfl := Option.some.inj (hr.symm.trans hold)
        exact hpassed
  | task j draw =>
    cases htask : w.tasks[j]? with
    | none =>
      simp only [World.step, htask]
      exact ⟨r, hr, hpassed⟩
    | some task => exact (superseded_task h hk htask hallowed hlive).1.passed
  | credential call =>
    refine ⟨r, hr, callOutcome_passed (InMemoryDeviceCredentialRepository.contract _ call
      h.good.sound.stores.credentials) (fun id hid => (hallowed id hid).record hr) (.inl hpassed)⟩
  | _ => exact ⟨r, hr, hpassed⟩

/-! ## Whole runs -/

/-- During `es`, promise `j` of the session `key` read the record `recovery` in iteration `n`. -/
def ReadDuring (options : ServiceOptions) (now : ℤ) (es : List Event) (j n : ℕ) (key : String)
    (recovery : CompletionRecord) : Prop :=
  ∃ before rest, es = before ++ rest ∧
    (∃ t, (World.after options now before).tasks[j]? = some t ∧ t.key = key ∧
      t.step = .readRecovery n) ∧
    (World.after options now before).record key = some recovery

theorem TaskStep.recovery {now : ℤ} {draw : Draw} {task : Task} {stores : Stores}
    {out : CompletionStep × Stores} (h : TaskStep options now draw task stores out) {n : ℕ}
    {r : CompletionRecord} (hout : out.1.recovery = some (n, r)) :
    task.step.recovery = some (n, r) ∨
      task.step = .readRecovery n ∧ stores.record now task.key = some r := by
  cases h with
  | read n' recovery _ c hstep hread =>
    cases hout
    exact .inr ⟨hstep, hread⟩
  | active n' recovery _ hstep | advances n' recovery _ hstep =>
    cases hout
    exact .inl (by rw [hstep]; rfl)
  | rotated n' recovery _ _ _ _ next hstep _ _ _ _ hnext =>
    rcases hnext with rfl | ⟨-, rfl⟩
    · cases hout
      exact .inl (by rw [hstep]; rfl)
    · cases hout
  | advanced n' | advanceRefused n' | stale n' | finishRefused n' =>
    rw [nextIteration_recovery] at hout
    cases hout
  | idle => exact .inl hout
  | _ => cases hout

/-- A promise that works on a record was at the same place before the event, or has just read it. -/
theorem recovery_before {w : World} (hs : w.Sound options) (e : Event) {j n : ℕ} {t : Task}
    {r : CompletionRecord} (ht : (w.step options e).tasks[j]? = some t)
    (hr : t.step.recovery = some (n, r)) :
    ∃ t', w.tasks[j]? = some t' ∧ t'.key = t.key ∧ (t'.step.recovery = some (n, r) ∨
      t'.step = .readRecovery n ∧ w.record t.key = some r) := by
  cases e with
  | call i source =>
    simp only [World.step] at ht
    cases hcall : w.calls[i]? with
    | none =>
      rw [hcall] at ht
      exact ⟨t, ht, rfl, .inl hr⟩
    | some call =>
      rw [hcall] at ht
      rcases (callStep source i hs call).tasks with heq | ⟨new, hstart, heq⟩
      · dsimp only at ht
        rw [heq] at ht
        exact ⟨t, ht, rfl, .inl hr⟩
      · dsimp only at ht
        rw [heq, List.getElem?_append] at ht
        split at ht
        · exact ⟨t, ht, rfl, .inl hr⟩
        · obtain rfl := List.mem_singleton.mp (List.mem_of_getElem? ht)
          rw [hstart] at hr
          cases hr
  | task k draw =>
    simp only [World.step] at ht
    cases htask : w.tasks[k]? with
    | none =>
      rw [htask] at ht
      exact ⟨t, ht, rfl, .inl hr⟩
    | some task =>
      rw [htask] at ht
      rcases getElem?_set_cases ht with ⟨rfl, rfl⟩ | ⟨-, ht⟩
      · exact ⟨task, htask, rfl, (taskStep options w.now draw task hs.stores).recovery hr⟩
      · exact ⟨t, ht, rfl, .inl hr⟩
  | crash =>
    change (w.tasks.map _)[j]? = some t at ht
    rw [List.getElem?_map, Option.map_eq_some_iff] at ht
    obtain ⟨t', ht', rfl⟩ := ht
    split at hr
    · cases hr
    · next hidle => exact ⟨t', ht', by rw [if_neg hidle], .inl hr⟩
  | _ => exact ⟨t, ht, rfl, .inl hr⟩

theorem read_during (now : ℤ) (es : List Event) (j n : ℕ) (t : Task) (r : CompletionRecord)
    (ht : (World.after options now es).tasks[j]? = some t) (hr : t.step.recovery = some (n, r)) :
    ReadDuring options now es j n t.key r := by
  induction es using List.reverseRecOn generalizing t with
  | nil => cases ht
  | append_singleton es e ih =>
    rw [World.after_concat] at ht
    obtain ⟨t', ht', hkey, hbefore | ⟨hstep, hread⟩⟩ :=
      recovery_before (good_run now es).sound e ht hr
    · obtain ⟨before, rest, rfl, hreading⟩ := ih t' ht' hbefore
      exact ⟨before, rest ++ [e], by rw [List.append_assoc], hkey ▸ hreading⟩
    · exact ⟨es, [e], rfl, ⟨t', ht', hkey, hstep⟩, hread⟩

theorem recovering_run (now : ℤ) (es : List Event)
    (hrun : Along (World.step options) World.Recovers (World.init now) es) :
    (World.after options now es).Recovering options :=
  Along.invariant recovering_step
    ⟨good_init now, fun _ h => (nomatch h), tracks_init now⟩ hrun

/-- The event is a step of a resume: of the call, or of the promise it created. -/
def World.OfResume (w : World) : Event → Prop
  | .resumeClaimedPairing _ _ | .call _ _ => True
  | .task j _ => ∃ t, w.tasks[j]? = some t ∧ t.recoverExisting = true
  | _ => False

/-- The session's record was there when the foreign call committed, and stays until the end of
`rest`, neither expired nor deleted. -/
def RecordKept (options : ServiceOptions) (now : ℤ) (before : List Event)
    (mutation : Credential.Call) (rest : List Event) (p : PairingSessionId) : Prop :=
  ∀ part, part <+: rest →
    (World.after options now (before ++ .credential mutation :: part)).record p.value ≠ none

theorem superseded_run {now : ℤ} {before rest : List Event} {mutation : Credential.Call}
    (hrun : Along (World.step options) World.Recovers (World.init now)
      (before ++ .credential mutation :: rest)) {p : PairingSessionId} {d : DeviceId}
    (hsession : World.Links options (World.after options now before) p d)
    (hmutates : (World.after options now (before ++ [.credential mutation])).stores.active d ≠
      (World.after options now before).stores.active d)
    (hkept : RecordKept options now before mutation rest p) :
    (World.after options now (before ++ .credential mutation :: rest)).Superseded options p d := by
  induction rest using List.reverseRecOn with
  | nil =>
    rw [along_append] at hrun
    have hw := recovering_run now before hrun.1
    have hlive := hkept [] (List.prefix_refl _)
    obtain ⟨hknown, howner⟩ := owner_step _ (.credential mutation) hw.good.sound
      (hw.good.linked.known p d hsession) fun q hq => hw.good.linked.unique q p d hq hsession
    rw [World.after_concat] at hmutates hlive ⊢
    obtain ⟨r, hr⟩ := Option.ne_none_iff_exists'.mp hlive
    refine ⟨howner, hknown, r, hr, ?_⟩
    exact callOutcome_passed (InMemoryDeviceCredentialRepository.contract _ mutation
      hw.good.sound.stores.credentials) (fun id hid => (hrun.2.1 id hid).record hr) (.inr hmutates)
  | append_singleton rest e ih =>
    rw [← List.cons_append, ← List.append_assoc, along_append] at hrun
    have hw := recovering_run now _ hrun.1
    have hpart : ∀ part, part <+: rest → part <+: rest ++ [e] := fun part hp =>
      hp.trans (List.prefix_append _ _)
    have hlive := hkept (rest ++ [e]) (List.prefix_refl _)
    rw [← List.cons_append, ← List.append_assoc, World.after_concat] at hlive ⊢
    exact superseded_step _ e hw (ih hrun.1 fun part hp => hkept part (hpart part hp)) hrun.2.1
      hlive

/-- Recovery replaces only the generation its record names, by the target the record reserves, and
after a foreign mutation no step of a resume changes the active generation of the device. -/
theorem recovery_respects_mutations (options : ServiceOptions) (now : ℤ) (es : List Event)
    (hrun : Along (World.step options) World.Recovers (World.init now) es) :
    (∀ before j draw rest, es = before ++ .task j draw :: rest → ∀ task d current next,
      (World.after options now before).tasks[j]? = some task →
      (World.after options now before).stores.active d = some current →
      (World.after options now (before ++ [.task j draw])).stores.active d = some next →
      next ≠ current →
      task.device.deviceId = d ∧ ∃ n recovery, task.step = .rotate n recovery ∧
        recovery.credentialId = current.credentialId.value ∧
        recovery.credentialVersion = current.version ∧
        recovery.recoveryTargetCredentialId = some next.credentialId.value ∧
        next.version = current.version + 1 ∧
        ReadDuring options now before j n task.key recovery) ∧
    (∀ before mutation rest e more p d,
      es = before ++ .credential mutation :: (rest ++ e :: more) →
      World.Links options (World.after options now before) p d →
      (World.after options now (before ++ [.credential mutation])).stores.active d ≠
        (World.after options now before).stores.active d →
      RecordKept options now before mutation (rest ++ [e]) p →
      (World.after options now (before ++ .credential mutation :: rest)).OfResume e →
      (World.after options now (before ++ .credential mutation :: (rest ++ [e]))).stores.active d =
        (World.after options now (before ++ .credential mutation :: rest)).stores.active d) := by
  refine ⟨?_, ?_⟩
  · rintro before j draw rest rfl task d current next htask hcurrent hnext hne
    have hw : (World.after options now before).Good options := good_run now before
    rw [World.after_concat] at hnext
    simp only [World.step, htask] at hnext
    obtain ⟨hd, n, recovery, hstep, hsource, hversion, htarget, hnextVersion⟩ :=
      (taskStep options _ draw task hw.sound.stores).replaces
        (hw.tasks task (List.mem_of_getElem? htask)) hcurrent hnext hne
    exact ⟨hd, n, recovery, hstep, hsource, hversion, htarget, hnextVersion,
      read_during now before j n task recovery htask (by rw [hstep]; rfl)⟩
  · rintro before mutation rest e more p d rfl hsession hmutates hkept hresume
    have hsplit : before ++ .credential mutation :: (rest ++ e :: more) =
        (before ++ .credential mutation :: rest) ++ e :: more := by simp
    rw [hsplit, along_append] at hrun
    have hw := recovering_run now _ hrun.1
    have hk := superseded_run hrun.1 hsession hmutates fun part hp =>
      hkept part (hp.trans (List.prefix_append _ _))
    have hlive := hkept (rest ++ [e]) (List.prefix_refl _)
    rw [← List.cons_append, ← List.append_assoc, World.after_concat] at hlive ⊢
    cases e with
    | resumeClaimedPairing => rfl
    | call i source =>
      simp only [World.step]
      cases hcall : (World.after options now (before ++ .credential mutation :: rest)).calls[i]? with
      | none => rfl
      | some call =>
        exact congrArg (fun s => adapter.active s d) (callStep source i hw.good.sound call).credentials
    | task j draw =>
      obtain ⟨t, ht, hrecover⟩ := hresume
      exact (superseded_task hw hk ht hrun.2.1 hlive).2 hrecover
    | _ => exact hresume.elim

namespace Sample

/-- The claim crashes after its `issue`, and a resume goes on up to its rotation. -/
def rotating : List Event :=
  claim ++ promise 0 3 first ++ [.crash] ++ resume 1 ++ promise 1 5 second ++ promise 1 2 third

/-- The generation that the resume installs is revoked from outside. -/
def revoke : Credential.Call :=
  .revoke ⟨device.value, second.credentialId.value, some 2, some 1000⟩

/-- The resume rotates, the revoke commits, and the resume goes on. -/
theorem rotating_facts :
    let before := World.after Sample.options 1000 rotating
    let rotated := before.step Sample.options (.task 1 third)
    let revoked := rotated.step Sample.options (.credential revoke)
    (Along (World.step Sample.options) World.Recovers (World.init 1000) rotating ∧
      before.Recovers (.task 1 third) ∧ rotated.Recovers (.credential revoke) ∧
      revoked.Recovers (.task 1 third)) ∧
    (before.tasks[1]?.map Task.link = some (session, device) ∧
      (before.stores.active device).map (·.credentialId) = some first.credentialId) ∧
    (rotated.tasks[1]?.map Task.link = some (session, device) ∧
      (rotated.stores.active device).map (·.credentialId) = some second.credentialId) ∧
    revoked.tasks[1]?.map (·.recoverExisting) = some true ∧
    revoked.stores.active device = none ∧ revoked.record session.value ≠ none ∧
      (revoked.step Sample.options (.task 1 third)).record session.value ≠ none := by
  decide +kernel

end Sample

open Sample in
theorem recovery_respects_mutations_sample :
    (∃ n recovery, ReadDuring Sample.options 1000 rotating 1 n session.value recovery ∧
      recovery.recoveryTargetCredentialId = some second.credentialId.value) ∧
    (World.after Sample.options 1000 (rotating ++ [.task 1 third] ++ .credential revoke ::
      ([] ++ [.task 1 third]))).stores.active device = none := by
  have hfacts := rotating_facts
  generalize rotating = es at hfacts ⊢
  obtain ⟨⟨halong, hrotate, hrevoke, hgoes⟩, ⟨hlink, hsource⟩, ⟨hlinked, htarget⟩, hresume, hrevoked,
    hrecord, hkept⟩ := hfacts
  rw [← World.after_concat] at hrevoke hgoes hlinked htarget hresume hrevoked hrecord hkept
  rw [← World.after_concat] at hgoes hresume hrevoked hrecord hkept
  rw [← World.after_concat] at hkept
  have hrun := along_concat.mpr ⟨along_concat.mpr ⟨along_concat.mpr ⟨halong, hrotate⟩, hrevoke⟩, hgoes⟩
  rw [List.append_assoc (es ++ [_])] at hrun hkept
  obtain ⟨ha, hb⟩ := recovery_respects_mutations Sample.options 1000 _ hrun
  obtain ⟨task, htask, hlink⟩ := Option.map_eq_some_iff.mp hlink
  obtain ⟨task', htask', hlink'⟩ := Option.map_eq_some_iff.mp hlinked
  obtain ⟨current, hcurrent, hfirst⟩ := Option.map_eq_some_iff.mp hsource
  obtain ⟨next, hnext, hsecond⟩ := Option.map_eq_some_iff.mp htarget
  obtain ⟨resumed, hresumed, hrecover⟩ := Option.map_eq_some_iff.mp hresume
  constructor
  · have hne : next ≠ current := by
      rintro rfl
      exact absurd (hfirst.symm.trans hsecond) (by decide)
    obtain ⟨-, n, recovery, -, -, -, hid, -, hread⟩ := ha es 1 third _ (List.append_assoc _ _ _)
      task device current next htask hcurrent hnext hne
    have hkey : task.key = session.value := congrArg (fun link => link.1.value) hlink
    exact ⟨n, recovery, hkey ▸ hread, by rw [hid, hsecond]⟩
  · have hsession : World.Links Sample.options (World.after Sample.options 1000
        (es ++ [.task 1 third])) session device :=
      .task task' (List.mem_of_getElem? htask') hlink'
    have hstays := hb (es ++ [.task 1 third]) revoke [] (.task 1 third) [] session device rfl hsession
    rw [hstays ?mutates ?kept ?resumes]
    case mutates =>
      rw [hrevoked, hnext]
      exact (Option.some_ne_none next).symm
    case kept =>
      intro part hpart
      rcases List.prefix_cons_iff.mp hpart with rfl | ⟨rest, rfl, hrest⟩
      · exact hrecord
      · obtain rfl := List.prefix_nil.mp hrest
        exact hkept
    case resumes => exact ⟨resumed, hresumed, hrecover⟩
    exact hrevoked
end Doctmcp.Completion

import Doctmcp.Routing.Registry
import Doctmcp.Lib.Runs

/-! # The maps of the device session registry stay in step

Every call writes one of four things (`Writes`): the entry of a new registration, a heartbeat of a
live entry, the removal of a stored entry, or nothing but an empty registry. Each of them keeps the
three maps consistent, and what a call about one session or generation cannot reach is read off the
consistent maps. -/

namespace Doctmcp.Routing
open Doctmcp.Lib Doctmcp.Lib.Operation Doctmcp.Schemas Doctmcp.Gateway
set_option autoImplicit false

namespace DeviceSessionRegistry

/-! ## The owner index -/

/-- The index has the device under the owner. -/
def Indexed (r : DeviceSessionRegistry) (ownerId : String) (d : DeviceId) : Prop :=
  ∃ deviceIds, r.deviceIdsByOwner.get? ownerId = some deviceIds ∧ d ∈ deviceIds

/-- The sets of the index have no repetition and are not empty. -/
def SetsOfDevices (r : DeviceSessionRegistry) : Prop :=
  ∀ ownerId deviceIds, r.deviceIdsByOwner.get? ownerId = some deviceIds →
    deviceIds ≠ [] ∧ deviceIds.Nodup

variable {r r' : DeviceSessionRegistry} {o o' : String} {d d' : DeviceId}

theorem indexed_addOwnerDevice :
    (r.addOwnerDevice o d).Indexed o' d' ↔ (o' = o ∧ d' = d) ∨ r.Indexed o' d' := by
  unfold Indexed addOwnerDevice
  dsimp only
  rw [OrderedMap.get?_set]
  by_cases ho : o' = o
  · subst ho
    simp only [if_true, Option.some.injEq, exists_eq_left', true_and]
    cases hids : r.deviceIdsByOwner.get? o' with
    | none => simp
    | some ids =>
      have hsome : (some ids).getD [] = ids := rfl
      simp only [hsome, Option.some.injEq, exists_eq_left']
      by_cases hmem : d ∈ ids
      · rw [if_pos hmem]
        constructor
        · exact .inr
        · rintro (rfl | h)
          · exact hmem
          · exact h
      · rw [if_neg hmem, List.mem_append, List.mem_singleton]
        exact or_comm
  · simp [ho]

theorem setsOfDevices_addOwnerDevice (h : r.SetsOfDevices) :
    (r.addOwnerDevice o d).SetsOfDevices := by
  intro o' ids hids
  unfold addOwnerDevice at hids
  dsimp only at hids
  rw [OrderedMap.get?_set] at hids
  split_ifs at hids with ho hmem
  · obtain rfl := Option.some.inj hids
    cases hold : r.deviceIdsByOwner.get? o with
    | none =>
      rw [hold] at hmem
      cases hmem
    | some old => exact h o old hold
  · obtain rfl := Option.some.inj hids
    constructor
    · exact List.append_ne_nil_of_right_ne_nil _ (List.cons_ne_nil d [])
    · refine List.Nodup.append ?_ (List.nodup_singleton d) (List.disjoint_singleton.mpr hmem)
      cases hold : r.deviceIdsByOwner.get? o with
      | none => exact List.nodup_nil
      | some old => exact (h o old hold).2
  · exact h o' ids hids

theorem indexed_removeOwnerDevice :
    (r.removeOwnerDevice o d).Indexed o' d' ↔ r.Indexed o' d' ∧ ¬ (o' = o ∧ d' = d) := by
  unfold removeOwnerDevice Indexed
  cases hids : r.deviceIdsByOwner.get? o with
  | none =>
    refine (and_iff_left_of_imp ?_).symm
    rintro ⟨ids, hids', -⟩ ⟨rfl, -⟩
    rw [hids] at hids'
    cases hids'
  | some ids =>
    dsimp only
    by_cases ho : o' = o
    · subst ho
      have hleft : d' ∈ ids.filter (· ≠ d) ↔ d' ∈ ids ∧ d' ≠ d := by simp
      simp only [hids, Option.some.injEq, exists_eq_left', true_and, ← hleft]
      by_cases hempty : ids.filter (· ≠ d) = []
      · rw [if_pos hempty, hempty]
        simp
      · rw [if_neg hempty]
        simp
    · have hother : ∀ m : OrderedMap String (List DeviceId), (m = r.deviceIdsByOwner.delete o ∨
          m = r.deviceIdsByOwner.set o (ids.filter (· ≠ d))) →
            m.get? o' = r.deviceIdsByOwner.get? o' := by
        rintro m (rfl | rfl)
        · exact OrderedMap.get?_delete_ne _ ho
        · exact OrderedMap.get?_set_ne _ _ ho
      rw [hother _ (ite_eq_or_eq _ _ _)]
      simp [ho]

theorem setsOfDevices_removeOwnerDevice (h : r.SetsOfDevices) :
    (r.removeOwnerDevice o d).SetsOfDevices := by
  unfold removeOwnerDevice
  cases hids : r.deviceIdsByOwner.get? o with
  | none => exact h
  | some ids =>
    intro o' ids' hids'
    dsimp only at hids'
    split_ifs at hids' with hempty
    · rw [OrderedMap.get?_delete] at hids'
      split_ifs at hids'
      exact h o' ids' hids'
    · rw [OrderedMap.get?_set] at hids'
      split_ifs at hids'
      · obtain rfl := Option.some.inj hids'
        exact ⟨hempty, (h o ids hids).2.filter _⟩
      · exact h o' ids' hids'

/-! ## The three maps -/

structure Consistent (r : DeviceSessionRegistry) : Prop where
  /-- The session of a current entry maps back to it. -/
  registered : ∀ d entry, r.byDeviceId.get? d = some entry →
    r.registrationBySession.get? entry.session = some ⟨d, entry.registrationId⟩
  /-- A session has a reference only to the current entry that is its own. -/
  current : ∀ session ref, r.registrationBySession.get? session = some ref →
    ∃ entry, r.byDeviceId.get? ref.deviceId = some entry ∧
      entry.registrationId = ref.registrationId ∧ entry.session = session
  /-- The index has the devices of the current entries, each under its owner. -/
  owned : ∀ ownerId d, r.Indexed ownerId d ↔
    ∃ entry, r.byDeviceId.get? d = some entry ∧ entry.ownerId = ownerId
  sets : r.SetsOfDevices

theorem consistent_new : Consistent new where
  registered d entry h := by cases h
  current session ref h := by cases h
  owned ownerId d := by
    constructor
    · rintro ⟨deviceIds, h, -⟩
      cases h
    · rintro ⟨entry, h, -⟩
      cases h
  sets ownerId deviceIds h := by cases h

/-- Two entries of one session stand under one device: the device of its identity. -/
theorem device_of_session {entry entry' : StoredDeviceSession}
    (h : r.byDeviceId.get? d = some entry) (h' : r.byDeviceId.get? d' = some entry')
    (hsession : entry.session = entry'.session) : d = d' := by
  have hidentity := entry.identified.symm.trans
    ((congrArg BridgeGatewaySession.identity hsession).trans entry'.identified)
  rw [← r.keyed d entry h, ← r.keyed d' entry' h']
  exact congrArg AuthenticatedDeviceIdentity.deviceId (Option.some.inj hidentity)

/-- The reference of a session is to the entry that the session has. -/
theorem Consistent.referred_eq_some (h : Consistent r) {session : BridgeGatewaySession}
    {ref : SessionRegistrationRef} (href : r.registrationBySession.get? session = some ref) :
    ∃ entry, r.referred session ref = some entry ∧ entry.session = session ∧
      r.byDeviceId.get? ref.deviceId = some entry := by
  obtain ⟨entry, hentry, hid, hsession⟩ := h.current session ref href
  refine ⟨entry, ?_, hsession, hentry⟩
  unfold referred
  rw [hentry, Option.filter_some]
  simp [hid, hsession]

/-! ## What a call writes -/

/-- The maps after a registration, in the order in which `register` changes them. -/
def put (entry : StoredDeviceSession) (r : DeviceSessionRegistry) : DeviceSessionRegistry :=
  let stored := (r.setEntry entry).setRegistration entry.session ⟨entry.deviceId, entry.registrationId⟩
  let indexed := stored.addOwnerDevice entry.ownerId entry.deviceId
  match r.byDeviceId.get? entry.deviceId with
  | none => indexed
  | some previous =>
    let released := indexed.deleteRegistration previous.session
    if previous.ownerId ≠ entry.ownerId then
      released.removeOwnerDevice previous.ownerId previous.deviceId
    else released

/-- What a call does to a consistent registry. -/
inductive Writes (options : RegistryOptions) (states : SessionStates) (r : DeviceSessionRegistry) :
    DeviceSessionRegistry → Prop
  | nothing : Writes options states r r
  | registration (entry : StoredDeviceSession)
      (hnew : r.registrationBySession.get? entry.session = none)
      (hready : states entry.session = .ready) : Writes options states r (r.put entry)
  | heartbeat (d : DeviceId) (entry : StoredDeviceSession) (nowMs : ℤ)
      (hentry : r.byDeviceId.get? d = some entry) (hlive : IsLive options states entry nowMs) :
      Writes options states r
        (r.setEntry { entry with lastSeenAtMs := max entry.lastSeenAtMs nowMs })
  | eviction (d : DeviceId) (entry : StoredDeviceSession)
      (hentry : r.byDeviceId.get? d = some entry) : Writes options states r (r.remove entry)
  | clear : Writes options states r new

theorem removeOwnerDevice_byDeviceId :
    (r.removeOwnerDevice o d).byDeviceId = r.byDeviceId := by
  unfold removeOwnerDevice
  cases r.deviceIdsByOwner.get? o with
  | none => rfl
  | some ids => rfl

theorem removeOwnerDevice_registrations :
    (r.removeOwnerDevice o d).registrationBySession = r.registrationBySession := by
  unfold removeOwnerDevice
  cases r.deviceIdsByOwner.get? o with
  | none => rfl
  | some ids => rfl

theorem put_byDeviceId (entry : StoredDeviceSession) :
    (r.put entry).byDeviceId = r.byDeviceId.set entry.deviceId entry := by
  unfold put
  cases r.byDeviceId.get? entry.deviceId with
  | none => rfl
  | some previous =>
    dsimp only
    split_ifs
    · rw [removeOwnerDevice_byDeviceId]
      rfl
    · rfl

theorem put_registrations {entry : StoredDeviceSession}
    (hprevious : ∀ previous, r.byDeviceId.get? entry.deviceId = some previous →
      previous.session ≠ entry.session) (session : BridgeGatewaySession) :
    (r.put entry).registrationBySession.get? session =
      if session = entry.session then some ⟨entry.deviceId, entry.registrationId⟩
      else if (r.byDeviceId.get? entry.deviceId).map (·.session) = some session then none
      else r.registrationBySession.get? session := by
  unfold put
  cases hentry : r.byDeviceId.get? entry.deviceId with
  | none =>
    show (r.registrationBySession.set _ _).get? session = _
    rw [OrderedMap.get?_set]
    simp
  | some previous =>
    have hne := hprevious previous hentry
    have hreleased : ((r.registrationBySession.set entry.session
        ⟨entry.deviceId, entry.registrationId⟩).delete previous.session).get? session = _ :=
      OrderedMap.get?_delete _ _ _
    rw [OrderedMap.get?_set] at hreleased
    have hgoal : (if session = previous.session then none
        else if session = entry.session then some ⟨entry.deviceId, entry.registrationId⟩
          else r.registrationBySession.get? session) =
        (if session = entry.session then some ⟨entry.deviceId, entry.registrationId⟩
          else if (some previous).map (·.session) = some session then none
            else r.registrationBySession.get? session) := by
      by_cases hs : session = entry.session
      · rw [if_neg (fun h => hne (h.symm.trans hs)), if_pos hs, if_pos hs]
      · rw [if_neg hs, if_neg hs]
        by_cases hp : session = previous.session
        · simp [hp]
        · have hp' : ¬ previous.session = session := fun h => hp h.symm
          simp [hp, hp']
    dsimp only
    by_cases howner : previous.ownerId ≠ entry.ownerId
    · rw [if_pos howner, removeOwnerDevice_registrations]
      exact hreleased.trans hgoal
    · rw [if_neg howner]
      exact hreleased.trans hgoal

/-- A registration puts its device under its owner, and takes it from the owner before. -/
theorem put_indexed (entry : StoredDeviceSession) :
    (r.put entry).Indexed o d ↔ (o = entry.ownerId ∧ d = entry.deviceId) ∨
      (r.Indexed o d ∧ ∀ previous, r.byDeviceId.get? entry.deviceId = some previous →
        ¬ (o = previous.ownerId ∧ d = entry.deviceId)) := by
  have hadded : ∀ session : BridgeGatewaySession, ((((r.setEntry entry).setRegistration
      entry.session ⟨entry.deviceId, entry.registrationId⟩).addOwnerDevice entry.ownerId
        entry.deviceId).deleteRegistration session).Indexed o d ↔
          (o = entry.ownerId ∧ d = entry.deviceId) ∨ r.Indexed o d :=
    fun _ => indexed_addOwnerDevice
  unfold put
  cases hentry : r.byDeviceId.get? entry.deviceId with
  | none =>
    refine indexed_addOwnerDevice.trans (or_congr_right ?_)
    exact (and_iff_left fun previous h => by cases h).symm
  | some previous =>
    have hdevice : previous.deviceId = entry.deviceId := r.keyed _ previous hentry
    simp only [Option.some.injEq, forall_eq']
    by_cases howner : previous.ownerId ≠ entry.ownerId
    · rw [if_pos howner, indexed_removeOwnerDevice, hadded, hdevice]
      constructor
      · rintro ⟨h | h, hkept⟩
        · exact .inl h
        · exact .inr ⟨h, hkept⟩
      · rintro (⟨rfl, rfl⟩ | ⟨h, hkept⟩)
        · exact ⟨.inl ⟨rfl, rfl⟩, fun h => howner h.1.symm⟩
        · exact ⟨.inr h, hkept⟩
    · rw [if_neg howner, hadded, not_not.mp howner]
      by_cases hnew : o = entry.ownerId ∧ d = entry.deviceId
      · exact ⟨fun _ => .inl hnew, fun _ => .inl hnew⟩
      · simp only [hnew, false_or, not_false_iff, and_true]

theorem put_sets {entry : StoredDeviceSession} (h : r.SetsOfDevices) : (r.put entry).SetsOfDevices := by
  have hadded : ((r.setEntry entry).setRegistration entry.session
      ⟨entry.deviceId, entry.registrationId⟩).SetsOfDevices := h
  unfold put
  cases r.byDeviceId.get? entry.deviceId with
  | none => exact setsOfDevices_addOwnerDevice hadded
  | some previous =>
    dsimp only
    split_ifs
    · exact setsOfDevices_removeOwnerDevice (setsOfDevices_addOwnerDevice hadded)
    · exact setsOfDevices_addOwnerDevice hadded

/-- A registration of a session that has no entry yet keeps the maps consistent. -/
theorem Consistent.put (h : Consistent r) {entry : StoredDeviceSession}
    (hnew : r.registrationBySession.get? entry.session = none) : Consistent (r.put entry) := by
  have hother : ∀ d other, r.byDeviceId.get? d = some other → other.session ≠ entry.session := by
    intro d other hother hsame
    have hregistered := h.registered d other hother
    rw [hsame, hnew] at hregistered
    cases hregistered
  have hget : ∀ d, (r.put entry).byDeviceId.get? d =
      if d = entry.deviceId then some entry else r.byDeviceId.get? d := by
    intro d
    rw [put_byDeviceId, OrderedMap.get?_set]
  have hreg := put_registrations (hother entry.deviceId)
  constructor
  · intro d other hd
    rw [hget] at hd
    split_ifs at hd with heq
    · rw [← Option.some.inj hd, hreg, if_pos rfl, heq]
    · rw [hreg, if_neg (hother d other hd), if_neg ?_]
      · exact h.registered d other hd
      · -- The replaced entry stands under another device, so its session is another one.
        intro hprevious
        obtain ⟨previous, hp, hsession⟩ := Option.map_eq_some_iff.mp hprevious
        exact heq (device_of_session hd hp hsession.symm)
  · intro session ref href
    rw [hreg] at href
    split_ifs at href with hsession hreplaced
    · rw [← Option.some.inj href]
      exact ⟨entry, by rw [hget, if_pos rfl], rfl, hsession.symm⟩
    · obtain ⟨current, hcurrent, hid, hs⟩ := h.current session ref href
      refine ⟨current, ?_, hid, hs⟩
      rw [hget, if_neg ?_]
      · exact hcurrent
      · intro heq
        rw [heq] at hcurrent
        rw [hcurrent, Option.map_some, hs] at hreplaced
        exact hreplaced rfl
  · intro o d
    rw [put_indexed, h.owned]
    constructor
    · rintro (⟨rfl, rfl⟩ | ⟨⟨current, hcurrent, rfl⟩, hkept⟩)
      · exact ⟨entry, by rw [hget, if_pos rfl], rfl⟩
      · refine ⟨current, ?_, rfl⟩
        rw [hget, if_neg ?_]
        · exact hcurrent
        · intro heq
          exact hkept current (heq ▸ hcurrent) ⟨rfl, heq⟩
    · rintro ⟨current, hcurrent, rfl⟩
      rw [hget] at hcurrent
      split_ifs at hcurrent with heq
      · rw [← Option.some.inj hcurrent]
        exact .inl ⟨rfl, heq⟩
      · exact .inr ⟨⟨current, hcurrent, rfl⟩, fun _ _ hkept => heq hkept.2⟩
  · exact put_sets h.sets

theorem Consistent.heartbeat (h : Consistent r) {entry : StoredDeviceSession} {t : ℤ}
    (hentry : r.byDeviceId.get? d = some entry) :
    Consistent (r.setEntry { entry with lastSeenAtMs := t }) := by
  obtain rfl : entry.deviceId = d := r.keyed d entry hentry
  have hget : ∀ j, (r.setEntry { entry with lastSeenAtMs := t }).byDeviceId.get? j =
      if j = entry.deviceId then some { entry with lastSeenAtMs := t } else r.byDeviceId.get? j :=
    fun j => OrderedMap.get?_set _ _ _ _
  -- The entry after the heartbeat differs from the one before in nothing that the maps speak of.
  have hsame : ∀ j other, (r.setEntry { entry with lastSeenAtMs := t }).byDeviceId.get? j =
      some other → ∃ before, r.byDeviceId.get? j = some before ∧ before.session = other.session ∧
        before.registrationId = other.registrationId ∧ before.ownerId = other.ownerId := by
    intro j other hj
    rw [hget] at hj
    split_ifs at hj with heq
    · rw [← Option.some.inj hj]
      exact ⟨entry, heq ▸ hentry, rfl, rfl, rfl⟩
    · exact ⟨other, hj, rfl, rfl, rfl⟩
  have hback : ∀ j before, r.byDeviceId.get? j = some before → ∃ other,
      (r.setEntry { entry with lastSeenAtMs := t }).byDeviceId.get? j = some other ∧
        before.session = other.session ∧ before.registrationId = other.registrationId ∧
          before.ownerId = other.ownerId := by
    intro j before hj
    rw [hget]
    split_ifs with heq
    · rw [heq, hentry] at hj
      obtain rfl := Option.some.inj hj
      exact ⟨_, rfl, rfl, rfl, rfl⟩
    · exact ⟨before, hj, rfl, rfl, rfl⟩
  constructor
  · intro j other hj
    obtain ⟨before, hbefore, hsession, hid, -⟩ := hsame j other hj
    rw [← hsession, ← hid]
    exact h.registered j before hbefore
  · intro session ref href
    obtain ⟨before, hbefore, hid, hsession⟩ := h.current session ref href
    obtain ⟨other, hother, hs, hi, -⟩ := hback ref.deviceId before hbefore
    exact ⟨other, hother, hi.symm.trans hid, hs.symm.trans hsession⟩
  · intro o j
    refine (h.owned o j).trans ?_
    constructor
    · rintro ⟨before, hbefore, howner⟩
      obtain ⟨other, hother, -, -, ho⟩ := hback j before hbefore
      exact ⟨other, hother, ho.symm.trans howner⟩
    · rintro ⟨other, hother, howner⟩
      obtain ⟨before, hbefore, -, -, ho⟩ := hsame j other hother
      exact ⟨before, hbefore, ho.trans howner⟩
  · exact h.sets

/-! ## Removing an entry -/

/-- What `#remove` leaves of the maps, for an entry that is stored. -/
theorem remove_eq {entry : StoredDeviceSession} (hentry : r.byDeviceId.get? d = some entry) :
    r.remove entry = ((r.deleteEntry entry.deviceId).deleteRegistration entry.session).removeOwnerDevice
      entry.ownerId entry.deviceId := by
  unfold remove
  rw [if_neg]
  rw [r.keyed d entry hentry, hentry]
  simp

theorem remove_byDeviceId {entry : StoredDeviceSession} (hentry : r.byDeviceId.get? d = some entry) :
    (r.remove entry).byDeviceId = r.byDeviceId.delete d := by
  rw [remove_eq hentry, removeOwnerDevice_byDeviceId, ← r.keyed d entry hentry]
  rfl

theorem Consistent.remove (h : Consistent r) {entry : StoredDeviceSession}
    (hentry : r.byDeviceId.get? d = some entry) : Consistent (r.remove entry) := by
  have hdevice : entry.deviceId = d := r.keyed d entry hentry
  have hget : ∀ j, (r.remove entry).byDeviceId.get? j = if j = d then none else r.byDeviceId.get? j := by
    intro j
    rw [remove_byDeviceId hentry, OrderedMap.get?_delete]
  have hreg : ∀ session, (r.remove entry).registrationBySession.get? session =
      if session = entry.session then none else r.registrationBySession.get? session := by
    intro session
    rw [remove_eq hentry, removeOwnerDevice_registrations]
    exact OrderedMap.get?_delete _ _ _
  constructor
  · intro j other hj
    rw [hget] at hj
    split_ifs at hj with heq
    rw [hreg, if_neg (fun hs => heq (device_of_session hj hentry hs))]
    exact h.registered j other hj
  · intro session ref href
    rw [hreg] at href
    split_ifs at href with hsession
    obtain ⟨current, hcurrent, hid, hs⟩ := h.current session ref href
    refine ⟨current, ?_, hid, hs⟩
    rw [hget, if_neg ?_]
    · exact hcurrent
    · intro heq
      rw [heq, hentry] at hcurrent
      rw [← Option.some.inj hcurrent] at hs
      exact hsession hs.symm
  · intro o j
    rw [remove_eq hentry, indexed_removeOwnerDevice, ← remove_eq hentry, hdevice]
    refine (and_congr_left' (h.owned o j)).trans ?_
    constructor
    · rintro ⟨⟨current, hcurrent, rfl⟩, hkept⟩
      refine ⟨current, ?_, rfl⟩
      rw [hget, if_neg ?_]
      · exact hcurrent
      · intro heq
        rw [heq, hentry] at hcurrent
        rw [Option.some.inj hcurrent] at hkept
        exact hkept ⟨rfl, heq⟩
    · rintro ⟨current, hcurrent, rfl⟩
      rw [hget] at hcurrent
      split_ifs at hcurrent with heq
      exact ⟨⟨current, hcurrent, rfl⟩, fun hkept => heq hkept.2⟩
  · rw [remove_eq hentry]
    exact setsOfDevices_removeOwnerDevice h.sets

theorem Consistent.writes {options : RegistryOptions} {states : SessionStates} (h : Consistent r)
    (hwrites : Writes options states r r') : Consistent r' := by
  cases hwrites with
  | nothing => exact h
  | registration entry hnew _ => exact h.put hnew
  | heartbeat d entry nowMs hentry _ => exact h.heartbeat hentry
  | eviction d entry hentry => exact h.remove hentry
  | clear => exact consistent_new

/-! ## The calls -/

section Calls
variable {options : RegistryOptions} {states : SessionStates}

/-- The call has written what `Writes` allows, and no new entry but one with the id. -/
def Registers {A : Type} (options : RegistryOptions) (states : SessionStates)
    (r : DeviceSessionRegistry) (registrationId : String)
    (result : Except JsError A × DeviceSessionRegistry) : Prop :=
  Writes options states r result.2 ∧ ∀ d entry, result.2.byDeviceId.get? d = some entry →
    r.byDeviceId.get? d = some entry ∨
      (entry.registrationId = registrationId ∧ states entry.session = .ready)

theorem Registers.unchanged {A : Type} {registrationId : String} (result : Except JsError A) :
    Registers options states r registrationId (result, r) :=
  ⟨.nothing, fun _ _ hentry => .inl hentry⟩

theorem Registers.put {A : Type} {entry : StoredDeviceSession}
    (hnew : r.registrationBySession.get? entry.session = none)
    (hready : states entry.session = .ready) (result : Except JsError A) :
    Registers options states r entry.registrationId (result, r.put entry) := by
  refine ⟨.registration entry hnew hready, ?_⟩
  intro d other hother
  rw [show (result, r.put entry).2 = r.put entry from rfl, put_byDeviceId, OrderedMap.get?_set]
    at hother
  split_ifs at hother
  · rw [← Option.some.inj hother]
    exact .inr ⟨rfl, hready⟩
  · exact .inl hother

theorem registerNew_registers {source : RegistrySource} {session : BridgeGatewaySession}
    (credentialId : String) (credentialVersion : JsNumber)
    (hnew : r.registrationBySession.get? session = none) (hready : states session = .ready) :
    Registers options states r source.registrationId
      (exec (registerNew source session credentialId credentialVersion) r) := by
  unfold registerNew
  split
  · exact .unchanged _
  · rename_i identity hidentity
    refine exec_bind_cases (fun _ _ => .unchanged _) fun nowMs _ => ?_
    refine exec_bind_cases (fun _ _ => .unchanged _) fun generation _ => ?_
    rw [exec_get_bind]
    let entry : StoredDeviceSession :=
      { registrationId := source.registrationId, ownerId := identity.ownerId,
        deviceId := identity.deviceId, credentialGeneration := generation, connectedAtMs := nowMs,
        lastSeenAtMs := nowMs, session := session, identified := hidentity }
    have hput : ∀ result : Except JsError RegisterDeviceSessionResult,
        Registers options states r entry.registrationId (result, r.put entry) :=
      fun result => Registers.put hnew hready result
    unfold DeviceSessionRegistry.put at hput
    cases hprevious : r.byDeviceId.get? identity.deviceId with
    | none =>
      have hprevious' : r.byDeviceId.get? entry.deviceId = none := hprevious
      simp only [hprevious'] at hput
      exact hput _
    | some previous =>
      have hprevious' : r.byDeviceId.get? entry.deviceId = some previous := hprevious
      simp only [hprevious'] at hput
      exact hput _

theorem register_registers (h : Consistent r) (source : RegistrySource)
    (session : BridgeGatewaySession) (credentialId : String) (credentialVersion : JsNumber) :
    Registers options states r source.registrationId
      (exec (register states source session credentialId credentialVersion) r) := by
  unfold register
  refine exec_failIf_cases (fun _ => .unchanged _) fun _ => ?_
  refine exec_failIf_cases (fun _ => .unchanged _) fun hready => ?_
  rw [exec_get_bind]
  cases href : r.registrationBySession.get? session with
  | some ref =>
    obtain ⟨existing, hreferred, -⟩ := h.referred_eq_some href
    simp only [hreferred]
    exact .unchanged _
  | none => exact registerNew_registers credentialId credentialVersion href (not_not.mp hready)

theorem getBySession_unchanged (h : Consistent r) (session : BridgeGatewaySession) :
    (exec (getBySession session) r).2 = r := by
  unfold getBySession
  rw [exec_get_bind]
  cases href : r.registrationBySession.get? session with
  | none => rfl
  | some ref =>
    obtain ⟨entry, hreferred, -⟩ := h.referred_eq_some href
    simp only [hreferred]
    rfl

/-- A heartbeat writes the entry of its own session, or nothing. -/
theorem markHeartbeat_cases (h : Consistent r) (now : JsDate) (session : BridgeGatewaySession) :
    (exec (markHeartbeat options states now session) r).2 = r ∨
      ∃ d entry nowMs, now = some nowMs ∧ r.byDeviceId.get? d = some entry ∧
        entry.session = session ∧ IsLive options states entry nowMs ∧
          (exec (markHeartbeat options states now session) r).2 =
            r.setEntry { entry with lastSeenAtMs := max entry.lastSeenAtMs nowMs } := by
  unfold markHeartbeat
  rw [exec_get_bind]
  cases href : r.registrationBySession.get? session with
  | none => exact .inl rfl
  | some ref =>
    obtain ⟨entry, hreferred, hsession, hentry⟩ := h.referred_eq_some href
    simp only [hreferred]
    cases now with
    | none => exact .inl rfl
    | some nowMs =>
      have hread : readNowMs (some nowMs) = .ok nowMs := rfl
      rw [exec_lift_bind_eq hread]
      by_cases hlive : IsLive options states entry nowMs
      · rw [if_pos hlive]
        exact .inr ⟨ref.deviceId, entry, nowMs, rfl, hentry, hsession, hlive, rfl⟩
      · rw [if_neg hlive]
        exact .inl rfl

/-- The session of an evicted entry is forgotten before the entry, or with it: the maps are the
same. -/
theorem remove_deleteRegistration (entry : StoredDeviceSession) :
    (r.deleteRegistration entry.session).remove entry =
      if (r.byDeviceId.get? entry.deviceId).map (·.registrationId) ≠ some entry.registrationId then
        r.deleteRegistration entry.session
      else r.remove entry := by
  have htwice : (r.registrationBySession.delete entry.session).delete entry.session =
      r.registrationBySession.delete entry.session :=
    OrderedMap.delete_eq_self _ (OrderedMap.get?_delete_self _ _)
  have hsame : ((r.deleteRegistration entry.session).deleteEntry entry.deviceId).deleteRegistration
      entry.session = (r.deleteEntry entry.deviceId).deleteRegistration entry.session := by
    unfold deleteRegistration deleteEntry
    simp only [htwice]
  have hget : (r.deleteRegistration entry.session).byDeviceId = r.byDeviceId := rfl
  unfold remove
  rw [hget, hsame]
  by_cases hid : (r.byDeviceId.get? entry.deviceId).map (·.registrationId) ≠ some entry.registrationId
  · rw [if_pos hid, if_pos hid]
  · rw [if_neg hid, if_neg hid, if_neg hid]

/-- An eviction of a session removes the entry of that session, or nothing. -/
theorem evictSession_cases (h : Consistent r) (session : BridgeGatewaySession) :
    (exec (evictSession session) r).2 = r ∨
      ∃ d entry, r.byDeviceId.get? d = some entry ∧ entry.session = session ∧
        (exec (evictSession session) r).2 = r.remove entry := by
  unfold evictSession
  rw [exec_get_bind]
  cases href : r.registrationBySession.get? session with
  | none => exact .inl rfl
  | some ref =>
    obtain ⟨entry, hreferred, rfl, hentry⟩ := h.referred_eq_some href
    simp only [hreferred]
    refine .inr ⟨ref.deviceId, entry, hentry, rfl, ?_⟩
    show (r.deleteRegistration entry.session).remove entry = r.remove entry
    rw [remove_deleteRegistration, if_neg]
    rw [r.keyed _ entry hentry, hentry]
    simp

/-- An invalidation removes the entry of its device and generation, or nothing. -/
theorem evictGeneration_cases (d : DeviceId) (generation : DeviceSessionCredentialGeneration) :
    (exec (evictGeneration d generation) r).2 = r ∨
      ∃ entry, r.byDeviceId.get? d = some entry ∧ entry.credentialGeneration = generation ∧
        (exec (evictGeneration d generation) r).2 = r.remove entry := by
  unfold evictGeneration
  rw [exec_get_bind]
  cases hfound : (r.byDeviceId.get? d).filter (·.credentialGeneration = generation) with
  | none => exact .inl rfl
  | some entry =>
    obtain ⟨hentry, hgeneration⟩ := Option.filter_eq_some_iff.mp hfound
    exact .inr ⟨entry, hentry, of_decide_eq_true hgeneration, rfl⟩

end Calls

/-! ## Runs -/

/-- The registry with the states of the sessions, the last reading of the clock and the
registration ids that were drawn. -/
structure RegistryWorld where
  registry : DeviceSessionRegistry
  states : SessionStates
  time : Option ℤ
  drawn : List String

/-- A new registry, before the sessions in `states` are registered. -/
def RegistryWorld.new (states : SessionStates) : RegistryWorld :=
  ⟨DeviceSessionRegistry.new, states, none, []⟩

inductive RegistryEvent
  | register (source : RegistrySource) (session : BridgeGatewaySession) (credentialId : String)
      (credentialVersion : JsNumber)
  | getBySession (session : BridgeGatewaySession)
  | markHeartbeat (now : JsDate) (session : BridgeGatewaySession)
  | evictSession (session : BridgeGatewaySession)
  | evictGeneration (deviceId : DeviceId) (generation : DeviceSessionCredentialGeneration)
  | clear
  /-- `getActive`, `listActiveForOwner` or `getStatus`, which read the clock and write nothing. -/
  | read (now : JsDate)
  /-- The gateway changes the state of a session. -/
  | changes (session : BridgeGatewaySession) (state : GatewaySessionState)

/-- What the event reads the clock as. -/
def RegistryEvent.now : RegistryEvent → JsDate
  | .register source _ _ _ => source.now
  | .markHeartbeat now _ => now
  | .read now => now
  | _ => none

/-- The registry after the event. -/
def afterEvent (options : RegistryOptions) (states : SessionStates) (r : DeviceSessionRegistry) :
    RegistryEvent → DeviceSessionRegistry
  | .register source session credentialId credentialVersion =>
    (exec (register states source session credentialId credentialVersion) r).2
  | .getBySession session => (exec (getBySession session) r).2
  | .markHeartbeat now session => (exec (markHeartbeat options states now session) r).2
  | .evictSession session => (exec (evictSession session) r).2
  | .evictGeneration d generation => (exec (evictGeneration d generation) r).2
  | .clear => (exec clear r).2
  | .read _ => r
  | .changes _ _ => r

def RegistryWorld.step (options : RegistryOptions) (w : RegistryWorld) (event : RegistryEvent) :
    RegistryWorld where
  registry := afterEvent options w.states w.registry event
  states := match event with
    | .changes session state => Function.update w.states session state
    | _ => w.states
  time := event.now.or w.time
  drawn := match event with
    | .register source _ _ _ => source.registrationId :: w.drawn
    | _ => w.drawn

/-- The clock does not go back to before `t`. -/
def RegistryWorld.NotAfter (w : RegistryWorld) (t : ℤ) : Prop := ∀ s, w.time = some s → s ≤ t

/-- The clock does not decrease, registration ids are new, and no session returns to ready. -/
def Orderly (w : RegistryWorld) (event : RegistryEvent) : Prop :=
  (∀ t, event.now = some t → w.NotAfter t) ∧
    match event with
    | .register source _ _ _ => source.registrationId ∉ w.drawn
    | .changes session state => (state = .ready → w.states session = .ready ∨
        w.states session = .handshaking) ∧ (state = .handshaking → w.states session = .handshaking)
    | _ => True

/-- An event writes what `Writes` allows. -/
theorem event_writes {options : RegistryOptions} {w : RegistryWorld} (h : Consistent w.registry)
    (event : RegistryEvent) : Writes options w.states w.registry (w.step options event).registry := by
  show Writes options w.states w.registry (afterEvent options w.states w.registry event)
  cases event with
  | register source session credentialId credentialVersion =>
    exact (register_registers h source session credentialId credentialVersion).1
  | getBySession session =>
    rw [afterEvent, getBySession_unchanged h session]
    exact .nothing
  | markHeartbeat now session =>
    rw [afterEvent]
    rcases markHeartbeat_cases h now session with hsame | ⟨d, entry, nowMs, -, hentry, -, hlive, heq⟩
    · rw [hsame]
      exact .nothing
    · rw [heq]
      exact .heartbeat d entry nowMs hentry hlive
  | evictSession session =>
    rw [afterEvent]
    rcases evictSession_cases h session with hsame | ⟨d, entry, hentry, -, heq⟩
    · rw [hsame]
      exact .nothing
    · rw [heq]
      exact .eviction d entry hentry
  | evictGeneration d generation =>
    rw [afterEvent]
    rcases evictGeneration_cases d generation with hsame | ⟨entry, hentry, -, heq⟩
    · rw [hsame]
      exact .nothing
    · rw [heq]
      exact .eviction d entry hentry
  | clear => exact .clear
  | read now => exact .nothing
  | changes session state => exact .nothing

theorem consistent_run (options : RegistryOptions) (states : SessionStates)
    (events : List RegistryEvent) :
    Consistent (runFrom (RegistryWorld.step options) (.new states) events).registry := by
  have hstep : ∀ (w : RegistryWorld) (event : RegistryEvent), Consistent w.registry →
      Consistent (w.step options event).registry :=
    fun w event h => h.writes (event_writes h event)
  exact runFrom_invariant hstep consistent_new events

/-- An entry after an event was there before it, is the one that the event registered, or has had
the heartbeat of the event while it was live. -/
theorem event_entries {options : RegistryOptions} {w : RegistryWorld} (h : Consistent w.registry)
    {event : RegistryEvent} {d : DeviceId} {entry : StoredDeviceSession}
    (hentry : (w.step options event).registry.byDeviceId.get? d = some entry) :
    w.registry.byDeviceId.get? d = some entry ∨
      (entry.registrationId ∈ (w.step options event).drawn ∧ w.states entry.session = .ready ∧
        (Orderly w event → entry.registrationId ∉ w.drawn)) ∨
      ∃ before t, event.now = some t ∧ w.registry.byDeviceId.get? d = some before ∧
        IsLive options w.states before t ∧
          entry = { before with lastSeenAtMs := max before.lastSeenAtMs t } := by
  have hremoved : ∀ {j : DeviceId} {other : StoredDeviceSession},
      w.registry.byDeviceId.get? j = some other →
        (w.registry.remove other).byDeviceId.get? d = some entry →
          w.registry.byDeviceId.get? d = some entry := by
    intro j other hother hd
    rw [remove_byDeviceId hother, OrderedMap.get?_delete] at hd
    split_ifs at hd
    exact hd
  change (afterEvent options w.states w.registry event).byDeviceId.get? d = some entry at hentry
  cases event with
  | register source session credentialId credentialVersion =>
    have hregisters : Registers options w.states w.registry source.registrationId
        (exec (register w.states source session credentialId credentialVersion) w.registry) :=
      register_registers h source session credentialId credentialVersion
    refine (hregisters.2 d entry hentry).imp_right fun hnew => .inl ⟨?_, hnew.2, ?_⟩
    · exact hnew.1 ▸ List.mem_cons_self
    · exact fun horderly => hnew.1 ▸ horderly.2
  | getBySession session =>
    rw [afterEvent, getBySession_unchanged h session] at hentry
    exact .inl hentry
  | markHeartbeat now session =>
    rw [afterEvent] at hentry
    rcases markHeartbeat_cases h now session with hsame | ⟨j, other, t, rfl, hother, -, hlive, heq⟩
    · rw [hsame] at hentry
      exact .inl hentry
    · rw [heq] at hentry
      have hset : (w.registry.byDeviceId.set other.deviceId
        { other with lastSeenAtMs := max other.lastSeenAtMs t }).get? d = some entry := hentry
      rw [OrderedMap.get?_set] at hset
      split_ifs at hset with hd
      · refine .inr (.inr ⟨other, t, rfl, ?_, hlive, (Option.some.inj hset).symm⟩)
        rw [hd, w.registry.keyed j other hother]
        exact hother
      · exact .inl hset
  | evictSession session =>
    rw [afterEvent] at hentry
    rcases evictSession_cases h session with hsame | ⟨j, other, hother, -, heq⟩
    · rw [hsame] at hentry
      exact .inl hentry
    · rw [heq] at hentry
      exact .inl (hremoved hother hentry)
  | evictGeneration j generation =>
    rw [afterEvent] at hentry
    rcases evictGeneration_cases j generation with hsame | ⟨other, hother, -, heq⟩
    · rw [hsame] at hentry
      exact .inl hentry
    · rw [heq] at hentry
      exact .inl (hremoved hother hentry)
  | clear => cases hentry
  | read now => exact .inl hentry
  | changes session state => exact .inl hentry

/-! ## An entry that is not live stays so -/

/-- The entries have sessions that have become ready, and ids that were drawn. -/
def Entered (w : RegistryWorld) : Prop :=
  ∀ d entry, w.registry.byDeviceId.get? d = some entry →
    w.states entry.session ≠ .handshaking ∧ entry.registrationId ∈ w.drawn

/-- The two are the same object, at different times. -/
def SameEntry (entry entry' : StoredDeviceSession) : Prop :=
  entry.registrationId = entry'.registrationId ∧ entry.session = entry'.session

/-- The entry is not live at the last reading of the clock, if it is still stored. -/
def Dead (options : RegistryOptions) (entry : StoredDeviceSession) (w : RegistryWorld) : Prop :=
  entry.registrationId ∈ w.drawn ∧
    ∀ d entry', w.registry.byDeviceId.get? d = some entry' → SameEntry entry entry' →
      w.states entry'.session ≠ .ready ∨
        ∃ t, w.time = some t ∧ (options.heartbeatTimeoutMs : ℤ) ≤ t - entry'.lastSeenAtMs

theorem drawn_step {options : RegistryOptions} {w : RegistryWorld} {event : RegistryEvent}
    {registrationId : String} (h : registrationId ∈ w.drawn) :
    registrationId ∈ (w.step options event).drawn := by
  cases event with
  | register source session credentialId credentialVersion => exact List.mem_cons_of_mem _ h
  | getBySession session => exact h
  | markHeartbeat now session => exact h
  | evictSession session => exact h
  | evictGeneration d generation => exact h
  | clear => exact h
  | read now => exact h
  | changes session state => exact h

/-- In an orderly step a session that is past its handshake stays so, and does not return to
ready. -/
theorem states_step {options : RegistryOptions} {w : RegistryWorld} {event : RegistryEvent}
    (horderly : Orderly w event) {session : BridgeGatewaySession}
    (h : w.states session ≠ .handshaking) :
    (w.step options event).states session ≠ .handshaking ∧
      (w.states session ≠ .ready → (w.step options event).states session ≠ .ready) := by
  cases event with
  | changes other state =>
    show Function.update w.states other state session ≠ _ ∧
      (_ → Function.update w.states other state session ≠ _)
    rw [Function.update_apply]
    by_cases hs : session = other
    · rw [if_pos hs, hs]
      rw [hs] at h
      exact ⟨fun hstate => h (horderly.2.2 hstate),
        fun hready hstate => (horderly.2.1 hstate).elim hready h⟩
    · rw [if_neg hs]
      exact ⟨h, fun hready => hready⟩
  | register source session credentialId credentialVersion => exact ⟨h, id⟩
  | getBySession session => exact ⟨h, id⟩
  | markHeartbeat now session => exact ⟨h, id⟩
  | evictSession session => exact ⟨h, id⟩
  | evictGeneration d generation => exact ⟨h, id⟩
  | clear => exact ⟨h, id⟩
  | read now => exact ⟨h, id⟩

/-- In an orderly step the clock does not go back. -/
theorem time_step {options : RegistryOptions} {w : RegistryWorld} {event : RegistryEvent}
    (horderly : Orderly w event) {t : ℤ} (h : w.time = some t) :
    ∃ t', (w.step options event).time = some t' ∧ t ≤ t' := by
  show ∃ t', event.now.or w.time = some t' ∧ t ≤ t'
  cases hnow : event.now with
  | none => exact ⟨t, h, Int.le_refl t⟩
  | some t' => exact ⟨t', rfl, horderly.1 t' hnow t h⟩

theorem entered_step {options : RegistryOptions} {w : RegistryWorld} {event : RegistryEvent}
    (h : Consistent w.registry) (hentered : Entered w) (horderly : Orderly w event) :
    Entered (w.step options event) := by
  intro d entry hentry
  rcases event_entries h hentry with hold | ⟨hdrawn, hready, -⟩ | ⟨before, t, -, hbefore, -, rfl⟩
  · obtain ⟨hstate, hid⟩ := hentered d entry hold
    exact ⟨(states_step horderly hstate).1, drawn_step hid⟩
  · have hstate : w.states entry.session ≠ .handshaking := by
      rw [hready]
      exact fun hsame => by cases hsame
    exact ⟨(states_step horderly hstate).1, hdrawn⟩
  · obtain ⟨hstate, hid⟩ := hentered d before hbefore
    exact ⟨(states_step horderly hstate).1, drawn_step hid⟩

theorem dead_step {options : RegistryOptions} {w : RegistryWorld} {event : RegistryEvent}
    {dead : StoredDeviceSession} (h : Consistent w.registry) (hentered : Entered w)
    (hdead : Dead options dead w) (horderly : Orderly w event) :
    Dead options dead (w.step options event) := by
  refine ⟨drawn_step hdead.1, ?_⟩
  intro d entry hentry hsame
  rcases event_entries h hentry with hold | ⟨-, -, hnew⟩ | ⟨before, t, hnow, hbefore, hlive, rfl⟩
  · obtain ⟨hstate, -⟩ := hentered d entry hold
    rcases hdead.2 d entry hold hsame with hready | ⟨t, ht, hlate⟩
    · exact .inl ((states_step horderly hstate).2 hready)
    · obtain ⟨t', ht', hle⟩ := time_step horderly ht
      exact .inr ⟨t', ht', by omega⟩
  · exact absurd hdead.1 (hsame.1 ▸ hnew horderly)
  · -- A heartbeat of the entry would have needed it live.
    obtain ⟨hready, hrecent⟩ := hlive
    rcases hdead.2 d before hbefore hsame with hnot | ⟨s, hs, hlate⟩
    · exact absurd hready hnot
    · have hle := horderly.1 t hnow s hs
      omega

/-- At the last reading of the clock, or later, a dead entry is not live. -/
theorem Dead.not_live {options : RegistryOptions} {w : RegistryWorld}
    {dead entry : StoredDeviceSession} {d : DeviceId} {t : ℤ} (h : Dead options dead w)
    (hentry : w.registry.byDeviceId.get? d = some entry) (hsame : SameEntry dead entry)
    (ht : w.NotAfter t) : ¬ IsLive options w.states entry t := by
  rintro ⟨hready, hrecent⟩
  rcases h.2 d entry hentry hsame with hnot | ⟨s, hs, hlate⟩
  · exact hnot hready
  · have hle := ht s hs
    omega

theorem dead_of_not_live {options : RegistryOptions} {w : RegistryWorld}
    {entry : StoredDeviceSession} {d : DeviceId} {t : ℤ} (hentered : Entered w)
    (hentry : w.registry.byDeviceId.get? d = some entry) (htime : w.time = some t)
    (hlive : ¬ IsLive options w.states entry t) : Dead options entry w := by
  refine ⟨(hentered d entry hentry).2, ?_⟩
  intro d' entry' hentry' hsame
  have hdevice : d = d' := device_of_session hentry hentry' hsame.2
  rw [← hdevice, hentry] at hentry'
  obtain rfl := Option.some.inj hentry'
  by_cases hready : w.states entry.session = .ready
  · refine .inr ⟨t, htime, ?_⟩
    by_contra hrecent
    exact hlive ⟨hready, by omega⟩
  · exact .inl hready

/-! ## The laws of the registry -/

/-- The call leaves the entry of the device as it is. -/
def Spares {A : Type} (r : DeviceSessionRegistry) (d : DeviceId)
    (call : Operation DeviceSessionRegistry JsError A) : Prop :=
  (exec call r).2.byDeviceId.get? d = r.byDeviceId.get? d

structure RegistryLaws (options : RegistryOptions) (states : SessionStates)
    (r : DeviceSessionRegistry) : Prop where
  consistent : Consistent r
  /-- `listActiveForOwner` lists the live entries of the owner, each once. -/
  listed : ∀ ownerId t, ∃ sessions,
    listActiveForOwner options states (some t) ownerId r = .ok sessions ∧ sessions.Nodup ∧
      ∀ session, session ∈ sessions ↔ ∃ d entry, r.byDeviceId.get? d = some entry ∧
        entry.ownerId = ownerId ∧ IsLive options states entry t ∧ entry.snapshot = session
  /-- An eviction, a lookup or a heartbeat of another session, such as a replaced one. -/
  otherSession : ∀ d entry session now, r.byDeviceId.get? d = some entry → entry.session ≠ session →
    Spares r d (evictSession session) ∧ Spares r d (getBySession session) ∧
      Spares r d (markHeartbeat options states now session)
  /-- An invalidation of another generation, or of another device. -/
  otherGeneration : ∀ d entry d' generation, r.byDeviceId.get? d = some entry →
    (d' = d → entry.credentialGeneration ≠ generation) → Spares r d (evictGeneration d' generation)

/-- The live entries of a list of devices, as `listActiveForOwner` collects them. -/
theorem mem_listed {options : RegistryOptions} {states : SessionStates} {t : ℤ}
    {deviceIds : List DeviceId} {session : ActiveDeviceSession} :
    session ∈ ((deviceIds.filterMap r.byDeviceId.get?).filter
        (IsLive options states · t)).map (·.snapshot) ↔
      ∃ d entry, d ∈ deviceIds ∧ r.byDeviceId.get? d = some entry ∧ IsLive options states entry t ∧
        entry.snapshot = session := by
  simp only [List.mem_map, List.mem_filter, List.mem_filterMap, decide_eq_true_eq]
  constructor
  · rintro ⟨entry, ⟨⟨d, hd, hentry⟩, hlive⟩, hsnapshot⟩
    exact ⟨d, entry, hd, hentry, hlive, hsnapshot⟩
  · rintro ⟨d, entry, hd, hentry, hlive, hsnapshot⟩
    exact ⟨entry, ⟨⟨d, hd, hentry⟩, hlive⟩, hsnapshot⟩

/-- The devices of the collected entries are some of those of the list, in its order. -/
theorem listed_devices (deviceIds : List DeviceId) (keep : StoredDeviceSession → Bool) :
    List.Sublist ((((deviceIds.filterMap r.byDeviceId.get?).filter keep).map
      (·.snapshot)).map (·.deviceId)) deviceIds := by
  induction deviceIds with
  | nil => exact List.Sublist.refl _
  | cons d rest ih =>
    cases hentry : r.byDeviceId.get? d with
    | none =>
      rw [List.filterMap_cons_none hentry]
      exact ih.cons d
    | some entry =>
      have hdevice : entry.snapshot.deviceId = d := r.keyed d entry hentry
      rw [List.filterMap_cons_some hentry]
      cases hkeep : keep entry with
      | false =>
        rw [List.filter_cons_of_neg (by rw [hkeep]; exact Bool.false_ne_true)]
        exact ih.cons d
      | true =>
        rw [List.filter_cons_of_pos hkeep, List.map_cons, List.map_cons, hdevice]
        exact ih.cons_cons d

theorem Consistent.listed {options : RegistryOptions} {states : SessionStates} (h : Consistent r)
    (ownerId : String) (t : ℤ) : ∃ sessions,
      listActiveForOwner options states (some t) ownerId r = .ok sessions ∧ sessions.Nodup ∧
        ∀ session, session ∈ sessions ↔ ∃ d entry, r.byDeviceId.get? d = some entry ∧
          entry.ownerId = ownerId ∧ IsLive options states entry t ∧ entry.snapshot = session := by
  unfold listActiveForOwner
  cases hids : r.deviceIdsByOwner.get? ownerId with
  | none =>
    refine ⟨[], rfl, List.nodup_nil, ?_⟩
    intro session
    constructor
    · intro hmem
      cases hmem
    · rintro ⟨d, entry, hentry, howner, -⟩
      obtain ⟨deviceIds, hsome, -⟩ := (h.owned ownerId d).mpr ⟨entry, hentry, howner⟩
      rw [hids] at hsome
      cases hsome
  | some deviceIds =>
    refine ⟨_, rfl, ?_, ?_⟩
    · have hdevices := listed_devices (r := r) deviceIds
        (fun entry => decide (IsLive options states entry t))
      exact (hdevices.nodup (h.sets ownerId deviceIds hids).2).of_map _
    · intro session
      rw [mem_listed]
      have hindexed : ∀ d, d ∈ deviceIds ↔ ∃ entry, r.byDeviceId.get? d = some entry ∧
          entry.ownerId = ownerId := by
        intro d
        rw [← h.owned ownerId d]
        unfold Indexed
        rw [hids]
        simp
      constructor
      · rintro ⟨d, entry, hd, hentry, hlive, hsnapshot⟩
        obtain ⟨entry', hentry', howner⟩ := (hindexed d).mp hd
        rw [hentry] at hentry'
        obtain rfl := Option.some.inj hentry'
        exact ⟨d, entry, hentry, howner, hlive, hsnapshot⟩
      · rintro ⟨d, entry, hentry, howner, hlive, hsnapshot⟩
        exact ⟨d, entry, (hindexed d).mpr ⟨entry, hentry, howner⟩, hentry, hlive, hsnapshot⟩

theorem Consistent.laws {options : RegistryOptions} {states : SessionStates} (h : Consistent r) :
    RegistryLaws options states r where
  consistent := h
  listed := h.listed
  otherSession d entry session now hentry hother := by
    have hremoved : ∀ {j other}, r.byDeviceId.get? j = some other → other.session = session →
        (r.remove other).byDeviceId.get? d = r.byDeviceId.get? d := by
      intro j other hstored hsession
      have hne : d ≠ j := by
        rintro rfl
        rw [hentry] at hstored
        exact hother (Option.some.inj hstored ▸ hsession)
      rw [remove_byDeviceId hstored, OrderedMap.get?_delete_ne _ hne]
    unfold Spares
    refine ⟨?_, ?_, ?_⟩
    · rcases evictSession_cases h session with hsame | ⟨j, other, hstored, hsession, heq⟩
      · rw [hsame]
      · rw [heq]
        exact hremoved hstored hsession
    · rw [getBySession_unchanged h session]
    · rcases markHeartbeat_cases h now session with hsame | ⟨j, other, t, -, hstored, hsession, -, heq⟩
      · rw [hsame]
      · rw [heq]
        refine OrderedMap.get?_set_ne _ _ ?_
        rintro rfl
        rw [r.keyed j other hstored, hstored] at hentry
        exact hother (Option.some.inj hentry ▸ hsession)
  otherGeneration d entry d' generation hentry hother := by
    unfold Spares
    rcases evictGeneration_cases d' generation with hsame | ⟨other, hstored, hgeneration, heq⟩
    · rw [hsame]
    · have hne : d ≠ d' := by
        rintro rfl
        rw [hentry] at hstored
        exact hother rfl (Option.some.inj hstored ▸ hgeneration)
      rw [heq, remove_byDeviceId hstored, OrderedMap.get?_delete_ne _ hne]

/-- As long as the clock does not decrease, ids are new and no session returns to ready, an entry
that is not live at a reading of the clock is never live later. -/
def NeverRevives (options : RegistryOptions) (states : SessionStates) : Prop :=
  ∀ before after, Along (RegistryWorld.step options) Orderly (.new states) (before ++ after) →
    let w := runFrom (RegistryWorld.step options) (.new states) before
    let w' := runFrom (RegistryWorld.step options) w after
    ∀ d entry t, w.registry.byDeviceId.get? d = some entry → w.time = some t →
      ¬ IsLive options w.states entry t →
        ∀ d' entry' t', w'.registry.byDeviceId.get? d' = some entry' → SameEntry entry entry' →
          w'.NotAfter t' → ¬ IsLive options w'.states entry' t'

theorem never_revives (options : RegistryOptions) (states : SessionStates) :
    NeverRevives options states := by
  intro before after horderly w w' d entry t hentry htime hlive d' entry' t' hentry' hsame hnotAfter
  have hstep : ∀ (w : RegistryWorld) (event : RegistryEvent),
      (Consistent w.registry ∧ Entered w) → Orderly w event →
        Consistent (w.step options event).registry ∧ Entered (w.step options event) :=
    fun w event h ho => ⟨h.1.writes (event_writes h.1 event), entered_step h.1 h.2 ho⟩
  have hstart : Consistent (RegistryWorld.new states).registry ∧ Entered (.new states) :=
    ⟨consistent_new, fun d entry h => by cases h⟩
  obtain ⟨horderly₁, horderly₂⟩ := (along_append _ before after).mp horderly
  have hw : Consistent w.registry ∧ Entered w := Along.invariant hstep hstart horderly₁
  have hdead : Dead options entry w := dead_of_not_live hw.2 hentry htime hlive
  have hrun : (Consistent w'.registry ∧ Entered w') ∧ Dead options entry w' := by
    refine Along.invariant (P := fun w => (Consistent w.registry ∧ Entered w) ∧
      Dead options entry w) ?_ ⟨hw, hdead⟩ horderly₂
    exact fun w event h ho => ⟨hstep w event h.1 ho, dead_step h.1.1 h.1.2 h.2 ho⟩
  exact hrun.2.not_live hentry' hsame hnotAfter

/-- After every sequence of calls the three maps are consistent and the calls keep the laws, and
an entry that is not live stays so. -/
theorem registry_consistent (options : RegistryOptions) (states : SessionStates)
    (events : List RegistryEvent) :
    RegistryLaws options (runFrom (RegistryWorld.step options) (.new states) events).states
        (runFrom (RegistryWorld.step options) (.new states) events).registry ∧
      NeverRevives options states :=
  ⟨(consistent_run options states events).laws, never_revives options states⟩

end DeviceSessionRegistry
end Doctmcp.Routing

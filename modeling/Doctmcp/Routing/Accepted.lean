import Doctmcp.Routing.Heartbeat

/-! # Heartbeats that the runtime accepts

While a validation runs and the connection is ready, its session stays the registered one with the
same generation: whatever evicts the session also closes the connection. -/

namespace Doctmcp.Routing.Heartbeat
open Doctmcp.Lib Doctmcp.Lib.Operation Doctmcp.Schemas Doctmcp.Gateway DeviceSessionRegistry
open Gateway.Heartbeat (GatewayOptions Callback Validation handlePong)
set_option autoImplicit false

/-! ## The entry of a session -/

section
variable {options : RegistryOptions} {states : SessionStates} {r : DeviceSessionRegistry}
  {d : DeviceId} {session : BridgeGatewaySession} {registered : ActiveDeviceSession}

/-- The registry has the session under the generation of the snapshot. -/
def Holds (r : DeviceSessionRegistry) (session : BridgeGatewaySession)
    (registered : ActiveDeviceSession) : Prop :=
  ∃ entry, r.byDeviceId.get? registered.deviceId = some entry ∧ entry.session = session ∧
    entry.credentialGeneration = registered.credentialGeneration

theorem consistent_event (options : RegistryOptions) (states : SessionStates) (h : Consistent r)
    (event : RegistryEvent) : Consistent (afterEvent options states r event) := by
  obtain ⟨w, hw⟩ : ∃ w : RegistryWorld, w = ⟨r, states, none, []⟩ := ⟨_, rfl⟩
  have hregistry : Consistent w.registry := by
    rw [hw]
    exact h
  have hwrites := hregistry.writes (event_writes hregistry event : Writes options _ _ _)
  rwa [hw] at hwrites

theorem exec_getBySession (h : Consistent r) (session : BridgeGatewaySession) :
    exec (getBySession session) r = (.ok none, r) ∨
      ∃ d entry, r.byDeviceId.get? d = some entry ∧ entry.session = session ∧
        exec (getBySession session) r = (.ok (some entry.snapshot), r) := by
  unfold getBySession
  rw [exec_get_bind]
  cases href : r.registrationBySession.get? session with
  | none => exact .inl rfl
  | some ref =>
    obtain ⟨entry, hreferred, hsession, hentry⟩ := h.referred_eq_some href
    simp only [hreferred]
    exact .inr ⟨ref.deviceId, entry, hentry, hsession, rfl⟩

/-- `onHeartbeat` finds the session registered, or throws; the registry stays. -/
theorem beginHeartbeat_cases (h : Consistent r) (session : BridgeGatewaySession) :
    (exec (beginHeartbeat session) r).2 = r ∧
      ∀ registered, (exec (beginHeartbeat session) r).1 = .ok registered →
        Holds r session registered := by
  unfold beginHeartbeat
  rw [exec_bind]
  rcases exec_getBySession h session with hnone | ⟨d, entry, hentry, hsession, hfound⟩
  · rw [hnone]
    exact ⟨rfl, fun registered hok => by cases hok⟩
  · rw [hfound]
    have hidentity : ¬ session.identity = none := by
      rw [← hsession, entry.identified]
      exact Option.some_ne_none _
    dsimp only
    rw [exec_bind, exec_failIf, if_neg hidentity]
    refine ⟨rfl, fun registered hok => ?_⟩
    cases hok
    refine ⟨entry, ?_, hsession, rfl⟩
    show r.byDeviceId.get? entry.deviceId = some entry
    rw [r.keyed d entry hentry]
    exact hentry

theorem Holds.setEntry {entry : StoredDeviceSession} (hentry : r.byDeviceId.get? d = some entry)
    (t : ℤ) (h : Holds r session registered) :
    Holds (r.setEntry { entry with lastSeenAtMs := t }) session registered := by
  obtain ⟨own, hown, hsession, hgeneration⟩ := h
  have hdevice := r.keyed d entry hentry
  by_cases hsame : registered.deviceId = entry.deviceId
  · have hentries : own = entry := by
      rw [hsame, hdevice, hentry] at hown
      exact (Option.some.inj hown).symm
    refine ⟨{ entry with lastSeenAtMs := t }, ?_, by rw [← hsession, hentries],
      by rw [← hgeneration, hentries]⟩
    rw [hsame]
    exact r.byDeviceId.get?_set_self _ _
  · refine ⟨own, ?_, hsession, hgeneration⟩
    exact (r.byDeviceId.get?_set_ne _ hsame).trans hown

/-- Another session's entry is removed. -/
theorem Holds.remove {entry : StoredDeviceSession} (hentry : r.byDeviceId.get? d = some entry)
    (hother : entry.session ≠ session) (h : Holds r session registered) :
    Holds (r.remove entry) session registered := by
  obtain ⟨own, hown, hsession, hgeneration⟩ := h
  refine ⟨own, ?_, hsession, hgeneration⟩
  rw [remove_byDeviceId hentry, OrderedMap.get?_delete_ne _ fun hsame => ?_]
  · exact hown
  · rw [hsame, hentry] at hown
    cases hown
    exact hother hsession

/-- `onHeartbeat` resolves only when the generation that it read is that of the snapshot and the
session is still the registered one. -/
theorem endHeartbeat_cases (options : RegistryOptions) (states : SessionStates) (h : Consistent r)
    (now : JsDate) (session : BridgeGatewaySession) (registered : ActiveDeviceSession)
    (active : Option DeviceSessionCredentialGeneration) :
    Consistent (exec (endHeartbeat options states now session registered active) r).2 ∧
      ((exec (endHeartbeat options states now session registered active) r).1 = .ok () →
        active = some registered.credentialGeneration ∧ ∀ other, Holds r session other →
          Holds (exec (endHeartbeat options states now session registered active) r).2 session
            other) := by
  unfold endHeartbeat
  split
  · rw [exec_bind]
    have hconsistent : Consistent (exec (evictSession session) r).2 :=
      consistent_event options states h (.evictSession session)
    generalize exec (evictSession session) r = result at hconsistent ⊢
    obtain ⟨result, r'⟩ := result
    cases result with
    | ok evicted => exact ⟨hconsistent, fun hok => by cases hok⟩
    | error e => exact ⟨hconsistent, fun hok => by cases hok⟩
  · next hactive =>
    rw [exec_bind]
    have hconsistent : Consistent (exec (markHeartbeat options states now session) r).2 :=
      consistent_event options states h (.markHeartbeat now session)
    have hholds : ∀ other, Holds r session other →
        Holds (exec (markHeartbeat options states now session) r).2 session other := by
      intro other hother
      rcases markHeartbeat_cases h now session with hsame | ⟨d, entry, nowMs, -, hentry, -, -, heq⟩
      · rwa [hsame]
      · rw [heq]
        exact hother.setEntry hentry _
    generalize exec (markHeartbeat options states now session) r = result at hconsistent hholds ⊢
    obtain ⟨result, r'⟩ := result
    cases result with
    | error e => exact ⟨hconsistent, fun hok => by cases hok⟩
    | ok marked =>
      dsimp only
      rw [exec_failIf]
      exact ⟨hconsistent, fun _ => ⟨not_not.mp hactive, hholds⟩⟩

/-- The entry stays, or the registration replaces it. -/
def Replaces (d : DeviceId) (entry : StoredDeviceSession)
    (result : Except JsError RegisterDeviceSessionResult × DeviceSessionRegistry) : Prop :=
  result.2.byDeviceId.get? d = some entry ∨
    result.1.toOption.bind (·.replaced) = some entry.snapshot

theorem registerNew_replaces {entry : StoredDeviceSession}
    (hentry : r.byDeviceId.get? d = some entry) (source : RegistrySource)
    (session : BridgeGatewaySession) (credentialId : String) (credentialVersion : JsNumber) :
    Replaces d entry (exec (registerNew source session credentialId credentialVersion) r) := by
  unfold registerNew
  split
  · exact .inl hentry
  · rename_i identity hidentity
    refine exec_bind_cases (fun _ _ => .inl hentry) fun nowMs _ => ?_
    refine exec_bind_cases (fun _ _ => .inl hentry) fun generation _ => ?_
    rw [exec_get_bind]
    dsimp only
    by_cases hsame : d = identity.deviceId
    · subst hsame
      simp only [hentry]
      exact .inr rfl
    · refine .inl ?_
      cases hprevious : r.byDeviceId.get? identity.deviceId with
      | none =>
        show (r.byDeviceId.set identity.deviceId _).get? d = some entry
        rw [OrderedMap.get?_set_ne _ _ hsame]
        exact hentry
      | some previous =>
        dsimp only
        rw [exec_set_bind, exec_pure]
        dsimp only
        split_ifs
        · rw [removeOwnerDevice_byDeviceId]
          show (r.byDeviceId.set identity.deviceId _).get? d = some entry
          rw [OrderedMap.get?_set_ne _ _ hsame]
          exact hentry
        · show (r.byDeviceId.set identity.deviceId _).get? d = some entry
          rw [OrderedMap.get?_set_ne _ _ hsame]
          exact hentry

theorem register_replaces (h : Consistent r) {entry : StoredDeviceSession}
    (hentry : r.byDeviceId.get? d = some entry) (source : RegistrySource)
    (session : BridgeGatewaySession) (credentialId : String) (credentialVersion : JsNumber) :
    Replaces d entry
      (exec (register states source session credentialId credentialVersion) r) := by
  unfold register
  refine exec_failIf_cases (fun _ => .inl hentry) fun _ => ?_
  refine exec_failIf_cases (fun _ => .inl hentry) fun _ => ?_
  rw [exec_get_bind]
  cases href : r.registrationBySession.get? session with
  | none => exact registerNew_replaces hentry source session credentialId credentialVersion
  | some ref =>
    obtain ⟨existing, hreferred, -⟩ := h.referred_eq_some href
    simp only [hreferred]
    exact .inl hentry

/-- The entry stays, or its eviction is reported. -/
theorem evictGeneration_reports {entry : StoredDeviceSession}
    (hentry : r.byDeviceId.get? d = some entry) (d' : DeviceId)
    (generation : DeviceSessionCredentialGeneration) :
    (exec (evictGeneration d' generation) r).2.byDeviceId.get? d = some entry ∨
      (exec (evictGeneration d' generation) r).1.toOption.bind id = some entry.snapshot := by
  unfold evictGeneration
  rw [exec_get_bind]
  cases hfound : (r.byDeviceId.get? d').filter (·.credentialGeneration = generation) with
  | none => exact .inl hentry
  | some other =>
    obtain ⟨hother, -⟩ := Option.filter_eq_some_iff.mp hfound
    dsimp only
    rw [exec_set_bind, exec_pure]
    by_cases hsame : d = d'
    · rw [← hsame, hentry] at hother
      cases hother
      exact .inr rfl
    · refine .inl ?_
      show (r.remove other).byDeviceId.get? d = some entry
      rw [remove_byDeviceId hother, OrderedMap.get?_delete_ne _ hsame]
      exact hentry

end

/-! ## The invariant -/

variable {gatewayOptions : GatewayOptions} {options : RegistryOptions} {w : RuntimeWorld}

def HeartbeatStage.registered : HeartbeatStage → Option ActiveDeviceSession
  | .reading registered => some registered
  | .answered registered _ => some registered
  | .resolved registered => some registered
  | .queued => none
  | .rejected => none

structure Valid (w : RuntimeWorld) : Prop where
  sound : Gateway.Heartbeat.Sound w.gateway
  consistent : Consistent w.registry
  running : w.gateway.validations.map (·.session) = w.call.toList.map (·.session)
  held : w.gateway.connection.state = .ready → ∀ call ∈ w.call,
    ∀ registered ∈ call.stage.registered, Holds w.registry call.session registered

/-- The running validation, by the call. -/
theorem Valid.validation (h : Valid w) {call : HeartbeatCall} (hcall : w.call = some call) :
    ∃ v, w.gateway.validations = [v] ∧ v.session = call.session ∧
      w.gateway.connection.session = some call.session := by
  have hrunning := h.running
  rw [hcall] at hrunning
  obtain ⟨v, hv, hsession⟩ := List.map_eq_singleton_iff.mp hrunning
  have hown : v.session = call.session := hsession
  refine ⟨v, hv, hown, ?_⟩
  rw [← hown]
  exact h.sound.sessions v (by rw [hv]; exact List.mem_singleton_self v)

theorem Valid.uncalled (h : Valid w) (hnone : w.gateway.validations = []) : w.call = none := by
  have hrunning := h.running
  rw [hnone] at hrunning
  cases hcall : w.call with
  | none => rfl
  | some call =>
    rw [hcall] at hrunning
    cases hrunning

/-- A connection with a running validation is ready after a step only if it was. -/
theorem ready_before {g : Gateway.Heartbeat.World} (h : Gateway.Heartbeat.Sound g)
    (hrunning : g.validations ≠ []) {e : Gateway.Heartbeat.Event}
    (hready : (g.step gatewayOptions e).connection.state = .ready) :
    g.connection.state = .ready := by
  refine Gateway.Heartbeat.ready_of_past (fun hfresh => hrunning (h.fresh hfresh)) fun hgone => ?_
  have hmoves := Gateway.Heartbeat.step_moves gatewayOptions h.tidy e
  exact (hgone.moves hmoves).1.not_ready.1 hready

theorem consistent_sessionClosed (h : Consistent w.registry) : Consistent w.sessionClosed := by
  unfold RuntimeWorld.sessionClosed
  split
  · exact h
  · next session _ =>
    exact consistent_event .default w.states h (.evictSession session)

theorem consistent_gatewayStep (h : Consistent w.registry) (e : Gateway.Heartbeat.Event) :
    Consistent (w.gatewayStep gatewayOptions e).registry := by
  show Consistent (if _ then _ else _)
  split
  · exact consistent_sessionClosed h
  · exact h

/-- A step that leaves the connection ready evicts nothing. -/
theorem registry_gatewayStep (h : Gateway.Heartbeat.Sound w.gateway) {e : Gateway.Heartbeat.Event}
    (hready : (w.gateway.step gatewayOptions e).connection.state = .ready) :
    (w.gatewayStep gatewayOptions e).registry = w.registry := by
  refine if_neg fun hfinal => ?_
  have hclosed := (h.step e).tidy.finalized.mp hfinal.1
  exact absurd (hready.symm.trans hclosed) (by simp)

theorem Valid.gatewayStep (h : Valid w) {e : Gateway.Heartbeat.Event}
    (hsame : (w.gateway.step gatewayOptions e).validations = w.gateway.validations) :
    Valid (w.gatewayStep gatewayOptions e) where
  sound := h.sound.step e
  consistent := consistent_gatewayStep h.consistent e
  running := by
    show (w.gateway.step gatewayOptions e).validations.map _ = w.call.toList.map _
    rw [hsame]
    exact h.running
  held := by
    intro hready call hcall registered hregistered
    obtain ⟨v, hv, -⟩ := h.validation hcall
    have hbefore := ready_before h.sound (by rw [hv]; exact List.cons_ne_nil _ _) hready
    rw [registry_gatewayStep h.sound hready]
    exact h.held hbefore call hcall registered hregistered

/-- What evicts the session of the connection closes it. -/
theorem Valid.closeEvicted (h : Valid w) {r : DeviceSessionRegistry} (hr : Consistent r)
    {evicted : Option ActiveDeviceSession}
    (hkept : ∀ d entry, w.registry.byDeviceId.get? d = some entry →
      r.byDeviceId.get? d = some entry ∨ evicted = some entry.snapshot) :
    Valid (RuntimeWorld.closeEvicted gatewayOptions { w with registry := r } evicted) := by
  unfold RuntimeWorld.closeEvicted
  split
  · have hended := Gateway.Heartbeat.ended_closeConnection h.sound.tidy
    have hsound : Gateway.Heartbeat.Sound (w.gateway.step gatewayOptions .close) :=
      h.sound.step .close
    exact ⟨hsound, consistent_gatewayStep hr .close, h.running,
      fun hready => absurd hready hended.left.1⟩
  · next hother =>
    refine ⟨h.sound, hr, h.running, fun hready call hcall registered hregistered => ?_⟩
    obtain ⟨entry, hentry, hsession, hgeneration⟩ := h.held hready call hcall registered hregistered
    rcases hkept _ entry hentry with hstays | hevicted
    · exact ⟨entry, hstays, hsession, hgeneration⟩
    · obtain ⟨v, -, -, hown⟩ := h.validation hcall
      refine absurd ⟨?_, by rw [hevicted]; simp⟩ hother
      show evicted.map (·.session) = w.gateway.connection.session
      rw [hevicted, hown, ← hsession]
      rfl

theorem Valid.onReady (h : Valid w) (session : BridgeGatewaySession) (now : ℤ)
    (source : RegistrySource) (generation : Option DeviceSessionCredentialGeneration)
    (callback : Callback) :
    Valid (w.onReady gatewayOptions session now source generation callback) := by
  unfold RuntimeWorld.onReady
  split
  · exact h
  · next hopen =>
    rw [not_or, not_or, not_not] at hopen
    have hnone := h.uncalled (h.sound.fresh hopen.2.1)
    have hconsistent : Consistent (w.onSession session source generation).1 := by
      unfold RuntimeWorld.onSession
      split
      · exact h.consistent
      · exact h.consistent
      · exact consistent_event .default _ h.consistent (.register source session _ _)
    have hvalid : Valid { w with registry := (w.onSession session source generation).1 } := by
      refine ⟨h.sound, hconsistent, h.running, fun _ call hcall => ?_⟩
      rw [hnone] at hcall
      cases hcall
    exact hvalid.gatewayStep rfl

theorem Valid.onPong (h : Valid w) (payload : List UInt8) :
    Valid (w.onPong gatewayOptions payload) := by
  unfold RuntimeWorld.onPong
  split
  · exact h
  · next validation hpong =>
    obtain ⟨hready, -, -, hidle, -⟩ := Gateway.Heartbeat.handlePong_cases hpong
    have hnone := h.sound.idle hready hidle
    have hsound : Gateway.Heartbeat.Sound (w.gateway.step gatewayOptions (.pong payload)) :=
      h.sound.step (.pong payload)
    refine ⟨hsound, consistent_gatewayStep h.consistent (.pong payload), ?_, ?_⟩
    · show (w.gateway.onPong payload).validations.map _ = _
      unfold Gateway.Heartbeat.World.onPong
      rw [hpong]
      show (w.gateway.validations ++ [validation]).map _ = _
      rw [hnone]
      rfl
    · rintro _ call ⟨⟩ registered ⟨⟩

theorem Valid.onCall (h : Valid w) : Valid w.onCall := by
  unfold RuntimeWorld.onCall
  split
  · next session hcall =>
    obtain ⟨hregistry, hfound⟩ := beginHeartbeat_cases h.consistent session
    have hrunning := h.running
    rw [hcall] at hrunning
    split
    · next registered registry hexec =>
      rw [hexec] at hregistry hfound
      cases hregistry
      refine ⟨h.sound, h.consistent, hrunning, ?_⟩
      rintro _ call ⟨⟩ registered' ⟨⟩
      exact hfound registered rfl
    · next e registry hexec =>
      rw [hexec] at hregistry
      cases hregistry
      refine ⟨h.sound, h.consistent, hrunning, ?_⟩
      rintro _ call ⟨⟩ registered ⟨⟩
  · exact h

theorem Valid.onAnswer (h : Valid w) (succeeds : Bool) : Valid (w.onAnswer succeeds) := by
  unfold RuntimeWorld.onAnswer
  split
  · next session registered hcall =>
    have hrunning := h.running
    rw [hcall] at hrunning
    refine ⟨h.sound, h.consistent, hrunning, ?_⟩
    rintro hready call ⟨⟩ registered' hregistered
    cases succeeds with
    | false => cases hregistered
    | true =>
      cases hregistered
      exact h.held hready _ hcall registered rfl
  · exact h

theorem Valid.onResume (h : Valid w) (now : JsDate) : Valid (w.onResume options now) := by
  unfold RuntimeWorld.onResume
  split
  · next session registered active hcall =>
    have hrunning := h.running
    rw [hcall] at hrunning
    obtain ⟨hconsistent, hok⟩ :=
      endHeartbeat_cases options w.states h.consistent now session registered active
    split
    · next value registry hexec =>
      rw [hexec] at hconsistent hok
      refine ⟨h.sound, hconsistent, hrunning, ?_⟩
      rintro hready call ⟨⟩ registered' ⟨⟩
      exact (hok rfl).2 registered (h.held hready _ hcall registered rfl)
    · next e registry hexec =>
      rw [hexec] at hconsistent
      refine ⟨h.sound, hconsistent, hrunning, ?_⟩
      rintro _ call ⟨⟩ registered' ⟨⟩
  · exact h

theorem Valid.settled (h : Valid w) {call : HeartbeatCall} (hcall : w.call = some call)
    (valid : Bool) (now : ℤ) :
    Valid { w.gatewayStep gatewayOptions (.settled valid now) with call := none } := by
  obtain ⟨v, hv, -⟩ := h.validation hcall
  have hsound : Gateway.Heartbeat.Sound (w.gateway.step gatewayOptions (.settled valid now)) :=
    h.sound.step (.settled valid now)
  refine ⟨hsound, consistent_gatewayStep h.consistent _, ?_, fun _ call hnone => by cases hnone⟩
  show (w.gateway.onSettled valid now).validations.map _ = _
  unfold Gateway.Heartbeat.World.onSettled
  rw [hv]
  rfl

theorem Valid.onSettle (h : Valid w) (now : ℤ) : Valid (w.onSettle gatewayOptions now) := by
  unfold RuntimeWorld.onSettle
  split
  · next hcall => exact h.settled hcall true now
  · next hcall => exact h.settled hcall false now
  · exact h

theorem Valid.step (h : Valid w) (e : RuntimeEvent) : Valid (w.step gatewayOptions options e) := by
  cases e with
  | «open» => exact h.gatewayStep rfl
  | ready session now source generation callback =>
    exact h.onReady session now source generation callback
  | tick now nonce sent =>
    refine h.gatewayStep ?_
    show (w.gateway.onTick gatewayOptions now nonce sent).validations = _
    unfold Gateway.Heartbeat.World.onTick
    split <;> rfl
  | pong payload => exact h.onPong payload
  | fail => exact h.gatewayStep rfl
  | close => exact h.gatewayStep rfl
  | finalize => exact h.gatewayStep rfl
  | call => exact h.onCall
  | answer succeeds => exact h.onAnswer succeeds
  | resume now => exact h.onResume now
  | settle now => exact h.onSettle now
  | register source session credentialId credentialVersion =>
    show Valid (w.onRegister gatewayOptions source session credentialId credentialVersion)
    unfold RuntimeWorld.onRegister
    split
    · exact h
    · exact h.closeEvicted
        (consistent_event options w.states h.consistent (.register source session _ _))
        fun d entry hentry => register_replaces h.consistent hentry _ _ _ _
  | invalidate d generation =>
    exact h.closeEvicted
      (consistent_event options w.states h.consistent (.evictGeneration d generation))
      fun d' entry hentry => evictGeneration_reports hentry d generation
  | otherHeartbeat now session =>
    show Valid (if _ then _ else _)
    split
    · exact h
    · refine ⟨h.sound, consistent_event options w.states h.consistent (.markHeartbeat now session),
        h.running, ?_⟩
      intro hready call hcall registered hregistered
      have hheld := h.held hready call hcall registered hregistered
      show Holds (exec (markHeartbeat options w.states now session) w.registry).2 _ _
      rcases markHeartbeat_cases h.consistent now session with
        hsame | ⟨d, entry, nowMs, -, hentry, -, -, heq⟩
      · rwa [hsame]
      · rw [heq]
        exact hheld.setEntry hentry _
  | otherClosed session =>
    show Valid (if _ then _ else _)
    split
    · exact h
    · next hother =>
      refine ⟨h.sound, consistent_event options w.states h.consistent (.evictSession session),
        h.running, ?_⟩
      intro hready call hcall registered hregistered
      have hheld := h.held hready call hcall registered hregistered
      show Holds (exec (evictSession session) w.registry).2 _ _
      rcases evictSession_cases h.consistent session with hsame | ⟨d, entry, hentry, hsession, heq⟩
      · rwa [hsame]
      · rw [heq]
        refine hheld.remove hentry ?_
        intro hsame
        obtain ⟨v, -, -, hown⟩ := h.validation hcall
        exact hother (hown.trans (congrArg some (hsame.symm.trans hsession)))
  | changes session state => exact ⟨h.sound, h.consistent, h.running, h.held⟩
  | credential d generation => exact ⟨h.sound, h.consistent, h.running, h.held⟩

/-! ## What a step changes -/

/-- The gateway takes one step or none. Only `settle` settles a validation, with the result of
`onHeartbeat`. -/
def Takes (gatewayOptions : GatewayOptions) (w : RuntimeWorld) (e : RuntimeEvent) (w' : RuntimeWorld) :
    Prop :=
  w'.gateway = w.gateway ∨
    ∃ event, w'.gateway = w.gateway.step gatewayOptions event ∧
      ∀ now, event = .settled true now → ∃ call registered, e = .settle now ∧
        w.call = some call ∧ call.stage = .resolved registered

theorem takes_closeEvicted (e : RuntimeEvent) (r : DeviceSessionRegistry)
    (evicted : Option ActiveDeviceSession) :
    Takes gatewayOptions w e
      (RuntimeWorld.closeEvicted gatewayOptions { w with registry := r } evicted) := by
  unfold RuntimeWorld.closeEvicted
  split
  · exact .inr ⟨.close, rfl, by simp⟩
  · exact .inl rfl

theorem step_takes (gatewayOptions : GatewayOptions) (options : RegistryOptions) (w : RuntimeWorld)
    (e : RuntimeEvent) :
    Takes gatewayOptions w e (w.step gatewayOptions options e) := by
  cases e with
  | «open» => exact .inr ⟨.open, rfl, by simp⟩
  | ready session now source generation callback =>
    show Takes gatewayOptions w _ (w.onReady gatewayOptions session now source generation callback)
    unfold RuntimeWorld.onReady
    split
    · exact .inl rfl
    · exact .inr ⟨.ready _ _ _, rfl, by simp⟩
  | tick now nonce sent => exact .inr ⟨.tick now nonce sent, rfl, by simp⟩
  | pong payload =>
    show Takes gatewayOptions w _ (w.onPong gatewayOptions payload)
    unfold RuntimeWorld.onPong
    split
    · exact .inl rfl
    · exact .inr ⟨.pong payload, rfl, by simp⟩
  | fail => exact .inr ⟨.fail, rfl, by simp⟩
  | close => exact .inr ⟨.close, rfl, by simp⟩
  | finalize => exact .inr ⟨.finalize, rfl, by simp⟩
  | call =>
    show Takes gatewayOptions w _ w.onCall
    unfold RuntimeWorld.onCall
    split
    · split <;> exact .inl rfl
    · exact .inl rfl
  | answer succeeds =>
    show Takes gatewayOptions w _ (w.onAnswer succeeds)
    unfold RuntimeWorld.onAnswer
    split <;> exact .inl rfl
  | resume now =>
    show Takes gatewayOptions w _ (w.onResume options now)
    unfold RuntimeWorld.onResume
    split
    · split <;> exact .inl rfl
    · exact .inl rfl
  | settle now =>
    show Takes gatewayOptions w _ (w.onSettle gatewayOptions now)
    unfold RuntimeWorld.onSettle
    split
    · next hcall =>
      refine .inr ⟨.settled true now, rfl, fun later hlater => ?_⟩
      cases hlater
      exact ⟨_, _, rfl, hcall, rfl⟩
    · exact .inr ⟨.settled false now, rfl, by simp⟩
    · exact .inl rfl
  | register source session credentialId credentialVersion =>
    show Takes gatewayOptions w _
      (w.onRegister gatewayOptions source session credentialId credentialVersion)
    unfold RuntimeWorld.onRegister
    split
    · exact .inl rfl
    · exact takes_closeEvicted _ _ _
  | invalidate d generation => exact takes_closeEvicted _ _ _
  | otherHeartbeat now session =>
    show Takes gatewayOptions w _ (if _ then _ else _)
    split <;> exact .inl rfl
  | otherClosed session =>
    show Takes gatewayOptions w _ (if _ then _ else _)
    split <;> exact .inl rfl
  | changes session state => exact .inl rfl
  | credential d generation => exact .inl rfl

/-- A stage before `getActive` has answered, or after `onHeartbeat` has failed. -/
def HeartbeatStage.Unread : HeartbeatStage → Prop
  | .queued => True
  | .reading _ => True
  | .rejected => True
  | .answered _ _ => False
  | .resolved _ => False

/-- Where a call comes from. -/
inductive Origin (w : RuntimeWorld) (call : HeartbeatCall) : Prop
  | same (hcall : w.call = some call)
  | unread (hstage : call.stage.Unread)
  | answers (registered : ActiveDeviceSession)
      (hcall : w.call = some ⟨call.session, .reading registered⟩)
      (hstage : call.stage = .answered registered (w.active registered.deviceId))
  | resolves (registered : ActiveDeviceSession)
      (hcall : w.call =
        some ⟨call.session, .answered registered (some registered.credentialGeneration)⟩)
      (hstage : call.stage = .resolved registered)

/-- Every call after the step has an origin before it. -/
def Calls (w w' : RuntimeWorld) : Prop := ∀ call ∈ w'.call, Origin w call

theorem calls_same {w' : RuntimeWorld} (h : w'.call = w.call) : Calls w w' :=
  fun _ hcall => .same (h.symm.trans hcall)

theorem calls_none {w' : RuntimeWorld} (h : w'.call = none) : Calls w w' := by
  intro call hcall
  rw [h] at hcall
  cases hcall

theorem calls_some {w' : RuntimeWorld} {call : HeartbeatCall} (hcall : w'.call = some call)
    (h : Origin w call) : Calls w w' := by
  intro other hother
  cases hcall.symm.trans hother
  exact h

theorem calls_closeEvicted (r : DeviceSessionRegistry) (evicted : Option ActiveDeviceSession) :
    Calls w (RuntimeWorld.closeEvicted gatewayOptions { w with registry := r } evicted) := by
  unfold RuntimeWorld.closeEvicted
  split <;> exact calls_same rfl

theorem step_calls (h : Valid w) (e : RuntimeEvent) :
    Calls w (w.step gatewayOptions options e) := by
  cases e with
  | «open» | tick | fail | close | finalize | changes | credential => exact calls_same rfl
  | ready session now source generation callback =>
    show Calls w (w.onReady gatewayOptions session now source generation callback)
    unfold RuntimeWorld.onReady
    split <;> exact calls_same rfl
  | pong payload =>
    show Calls w (w.onPong gatewayOptions payload)
    unfold RuntimeWorld.onPong
    split
    · exact calls_same rfl
    · exact calls_some rfl (.unread trivial)
  | call =>
    show Calls w w.onCall
    unfold RuntimeWorld.onCall
    split
    · split <;> exact calls_some rfl (.unread trivial)
    · exact calls_same rfl
  | answer succeeds =>
    show Calls w (w.onAnswer succeeds)
    unfold RuntimeWorld.onAnswer
    split
    · next session registered hcall =>
      cases succeeds with
      | false => exact calls_some rfl (.unread trivial)
      | true => exact calls_some rfl (.answers registered hcall rfl)
    · exact calls_same rfl
  | resume now =>
    show Calls w (w.onResume options now)
    unfold RuntimeWorld.onResume
    split
    · next session registered active hcall =>
      have hok := (endHeartbeat_cases options w.states h.consistent now session registered active).2
      split
      · next value registry hexec =>
        rw [hexec] at hok
        obtain rfl := (hok rfl).1
        exact calls_some rfl (.resolves registered hcall rfl)
      · exact calls_some rfl (.unread trivial)
    · exact calls_same rfl
  | settle now =>
    show Calls w (w.onSettle gatewayOptions now)
    unfold RuntimeWorld.onSettle
    split
    · exact calls_none rfl
    · exact calls_none rfl
    · exact calls_same rfl
  | register source session credentialId credentialVersion =>
    show Calls w (w.onRegister gatewayOptions source session credentialId credentialVersion)
    unfold RuntimeWorld.onRegister
    split
    · exact calls_same rfl
    · exact calls_closeEvicted _ _
  | invalidate d generation => exact calls_closeEvicted _ _
  | otherHeartbeat now session =>
    show Calls w (if _ then _ else _)
    split <;> exact calls_same rfl
  | otherClosed session =>
    show Calls w (if _ then _ else _)
    split <;> exact calls_same rfl

/-! ## Every run -/

section
variable (gatewayOptions options) (others : SessionStates)
  (active : DeviceId → Option DeviceSessionCredentialGeneration)

/-- The runtime after these events. -/
def runtimeAfter (es : List RuntimeEvent) : RuntimeWorld :=
  runFrom (RuntimeWorld.step gatewayOptions options) (.new others active) es

/-- In the run, `getActive` read the generation of the snapshot as the active one. -/
def WasActive (es : List RuntimeEvent) (session : BridgeGatewaySession)
    (registered : ActiveDeviceSession) (generation : DeviceSessionCredentialGeneration) : Prop :=
  ∃ front, front <+: es ∧
    (runtimeAfter gatewayOptions options others active front).call =
      some ⟨session, .reading registered⟩ ∧
    (runtimeAfter gatewayOptions options others active front).active registered.deviceId =
      some generation

end

variable {others : SessionStates} {active : DeviceId → Option DeviceSessionCredentialGeneration}

theorem runtimeAfter_concat (es : List RuntimeEvent) (e : RuntimeEvent) :
    runtimeAfter gatewayOptions options others active (es ++ [e]) =
      (runtimeAfter gatewayOptions options others active es).step gatewayOptions options e := by
  unfold runtimeAfter
  rw [runFrom_append]
  rfl

theorem valid_new : Valid (.new others active) := by
  refine ⟨Gateway.Heartbeat.sound_new, consistent_new, rfl, fun hready => ?_⟩
  cases hready

theorem valid_after (es : List RuntimeEvent) :
    Valid (runtimeAfter gatewayOptions options others active es) :=
  runFrom_invariant (P := Valid) (fun _ e h => h.step e) valid_new es

/-- What `getActive` answered was active. -/
def Known (gatewayOptions : GatewayOptions) (options : RegistryOptions) (others : SessionStates)
    (active : DeviceId → Option DeviceSessionCredentialGeneration) (es : List RuntimeEvent)
    (call : HeartbeatCall) : Prop :=
  (∀ registered generation, call.stage = .answered registered (some generation) →
    WasActive gatewayOptions options others active es call.session registered generation) ∧
  ∀ registered, call.stage = .resolved registered →
    WasActive gatewayOptions options others active es call.session registered
      registered.credentialGeneration

theorem WasActive.later {es : List RuntimeEvent} {session : BridgeGatewaySession}
    {registered : ActiveDeviceSession} {generation : DeviceSessionCredentialGeneration}
    (h : WasActive gatewayOptions options others active es session registered generation)
    (e : RuntimeEvent) :
    WasActive gatewayOptions options others active (es ++ [e]) session registered generation := by
  obtain ⟨front, hfront, hread⟩ := h
  exact ⟨front, hfront.trans (List.prefix_append _ _), hread⟩

theorem known (es : List RuntimeEvent) :
    ∀ call ∈ (runtimeAfter gatewayOptions options others active es).call,
      Known gatewayOptions options others active es call := by
  induction es using List.reverseRecOn with
  | nil =>
    intro call hcall
    cases hcall
  | append_singleton es e ih =>
    intro call hcall
    rw [runtimeAfter_concat] at hcall
    cases step_calls (valid_after es) e call hcall with
    | same hsame =>
      obtain ⟨hanswered, hresolved⟩ := ih call hsame
      exact ⟨fun registered generation hstage => (hanswered registered generation hstage).later e,
        fun registered hstage => (hresolved registered hstage).later e⟩
    | unread hstage =>
      constructor
      · intro registered generation h
        rw [h] at hstage
        exact hstage.elim
      · intro registered h
        rw [h] at hstage
        exact hstage.elim
    | answers registered hreading hstage =>
      constructor
      · intro registered' generation h
        rw [hstage] at h
        injection h with hregistered hactive
        subst hregistered
        exact ⟨es, List.prefix_append _ _, hreading, hactive⟩
      · intro registered' h
        rw [hstage] at h
        cases h
    | resolves registered hanswered hstage =>
      constructor
      · intro registered' generation h
        rw [hstage] at h
        cases h
      · intro registered' h
        rw [hstage] at h
        cases h
        exact ((ih _ hanswered).1 registered registered.credentialGeneration rfl).later e

/-- What holds of the heartbeat in the runtime after the events of a run. -/
structure RuntimeSound (gatewayOptions : GatewayOptions) (options : RegistryOptions)
    (others : SessionStates) (active : DeviceId → Option DeviceSessionCredentialGeneration)
    (es : List RuntimeEvent) : Prop where
  /-- Its connection is one of the gateway. -/
  gateway : ∃ events, (runtimeAfter gatewayOptions options others active es).gateway =
    Gateway.Heartbeat.after gatewayOptions events
  /-- After the handshake the time of the last heartbeat changes only when `onHeartbeat` resolved. -/
  advances : ∀ e,
    (runtimeAfter gatewayOptions options others active es).gateway.connection.state ≠ .handshaking →
    (runtimeAfter gatewayOptions options others active (es ++ [e])).gateway.connection.lastHeartbeatAtMs ≠
      (runtimeAfter gatewayOptions options others active es).gateway.connection.lastHeartbeatAtMs →
    ∃ now call registered, e = .settle now ∧
      (runtimeAfter gatewayOptions options others active es).call = some call ∧
      call.stage = .resolved registered ∧
      (runtimeAfter gatewayOptions options others active es).gateway.connection.state = .ready
  /-- Where a resolved `onHeartbeat` is about to be accepted, the session is the registered one and its
  generation was active. -/
  accepts : ∀ call registered,
    (runtimeAfter gatewayOptions options others active es).call = some call →
    call.stage = .resolved registered →
    (runtimeAfter gatewayOptions options others active es).gateway.connection.state = .ready →
    (runtimeAfter gatewayOptions options others active es).gateway.connection.session =
        some call.session ∧
      Holds (runtimeAfter gatewayOptions options others active es).registry call.session registered ∧
      WasActive gatewayOptions options others active es call.session registered
        registered.credentialGeneration

theorem gateway_after (es : List RuntimeEvent) :
    ∃ events, (runtimeAfter gatewayOptions options others active es).gateway =
      Gateway.Heartbeat.after gatewayOptions events := by
  induction es using List.reverseRecOn with
  | nil => exact ⟨[], rfl⟩
  | append_singleton es e ih =>
    obtain ⟨events, hevents⟩ := ih
    rw [runtimeAfter_concat]
    rcases step_takes gatewayOptions options
      (runtimeAfter gatewayOptions options others active es) e with hsame | ⟨event, htakes, -⟩
    · exact ⟨events, hsame.trans hevents⟩
    · refine ⟨events ++ [event], ?_⟩
      rw [htakes, hevents, Gateway.Heartbeat.after_concat]

theorem runtimeSound (es : List RuntimeEvent) :
    RuntimeSound gatewayOptions options others active es where
  gateway := gateway_after es
  advances := by
    intro e hpast hlast
    have hvalid : Valid (runtimeAfter gatewayOptions options others active es) := valid_after es
    rw [runtimeAfter_concat] at hlast
    rcases step_takes gatewayOptions options
      (runtimeAfter gatewayOptions options others active es) e with hsame | ⟨event, htakes, hsettled⟩
    · rw [hsame] at hlast
      exact absurd rfl hlast
    · rw [htakes] at hlast
      obtain ⟨_, _, hadvances⟩ := Gateway.Heartbeat.past_moves hpast
        (Gateway.Heartbeat.step_moves gatewayOptions hvalid.sound.tidy event)
      obtain ⟨now, v, hevent, _, hready, _⟩ := hadvances hlast
      obtain ⟨call, registered, he, hcall, hstage⟩ := hsettled now hevent
      exact ⟨now, call, registered, he, hcall, hstage, hready⟩
  accepts := by
    intro call registered hcall hstage hready
    have hvalid : Valid (runtimeAfter gatewayOptions options others active es) := valid_after es
    obtain ⟨v, -, -, hsession⟩ := hvalid.validation hcall
    refine ⟨hsession, hvalid.held hready call hcall registered ?_, (known es call hcall).2 _ hstage⟩
    rw [hstage]
    rfl

/-- Of every run of a connection, and of every run of the runtime around one. -/
theorem heartbeat_sound (gatewayOptions : GatewayOptions) (options : RegistryOptions)
    (others : SessionStates) (active : DeviceId → Option DeviceSessionCredentialGeneration) :
    (∀ es, Gateway.Heartbeat.HeartbeatSound gatewayOptions es) ∧
      ∀ es, RuntimeSound gatewayOptions options others active es :=
  ⟨Gateway.Heartbeat.heartbeatSound gatewayOptions, runtimeSound⟩

end Doctmcp.Routing.Heartbeat

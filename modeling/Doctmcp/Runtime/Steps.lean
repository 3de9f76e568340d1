import Doctmcp.Runtime.Sound

/-! # The steps of the runtime

Every step of the runtime keeps what holds between its parts. First what it hears of the gateway and what
it takes from the registry; then the hooks of a handshake; then the operations. -/

namespace Doctmcp.Runtime
open Doctmcp.Lib Doctmcp.Lib.Operation Doctmcp.Schemas Doctmcp.Gateway Doctmcp.Credential Doctmcp.Routing
open Doctmcp.Gateway.Connections (BridgeGatewayOptions BridgeHello GatewaySession Effect Readings
  ReadyGuard Grants)
open Doctmcp.Routing.DeviceSessionRegistry
open Doctmcp.Routing.Heartbeat (HeartbeatCall beginHeartbeat endHeartbeat)
set_option autoImplicit false

/-! ## Calls that register nothing -/

/-- The entries that are left stood there before, with their generations. -/
structure Shrinks (r r' : DeviceSessionRegistry) : Prop where
  consistent : Consistent r'
  entries : ∀ d entry, r'.byDeviceId.get? d = some entry → ∃ entry', r.byDeviceId.get? d = some entry' ∧
    entry'.credentialGeneration = entry.credentialGeneration

section
variable {r : DeviceSessionRegistry}

theorem Shrinks.refl (h : Consistent r) : Shrinks r r := ⟨h, fun _ entry hentry => ⟨entry, hentry, rfl⟩⟩

theorem shrinks_remove (h : Consistent r) {d : DeviceId} {entry : StoredDeviceSession}
    (hentry : r.byDeviceId.get? d = some entry) : Shrinks r (r.remove entry) where
  consistent := h.remove hentry
  entries := by
    intro d' other hother
    rw [remove_byDeviceId hentry, OrderedMap.get?_delete] at hother
    split_ifs at hother
    exact ⟨other, hother, rfl⟩

theorem shrinks_evictSession (h : Consistent r) (session : BridgeGatewaySession) :
    Shrinks r (exec (evictSession session) r).2 := by
  obtain heq | ⟨d, entry, hentry, -, heq⟩ := evictSession_cases h session
  · rw [heq]
    exact .refl h
  · rw [heq]
    exact shrinks_remove h hentry

theorem shrinks_evictGeneration (h : Consistent r) (d : DeviceId)
    (generation : DeviceSessionCredentialGeneration) :
    Shrinks r (exec (evictGeneration d generation) r).2 := by
  obtain heq | ⟨entry, hentry, -, heq⟩ := evictGeneration_cases (r := r) d generation
  · rw [heq]
    exact .refl h
  · rw [heq]
    exact shrinks_remove h hentry

theorem shrinks_markHeartbeat (h : Consistent r) (options : RegistryOptions) (states : SessionStates)
    (now : JsDate) (session : BridgeGatewaySession) :
    Shrinks r (exec (markHeartbeat options states now session) r).2 := by
  obtain heq | ⟨d, entry, nowMs, -, hentry, -, -, heq⟩ := markHeartbeat_cases h now session
  · rw [heq]
    exact .refl h
  · rw [heq]
    refine ⟨h.heartbeat hentry, fun d' other hother => ?_⟩
    obtain rfl : entry.deviceId = d := r.keyed d entry hentry
    change (r.byDeviceId.set entry.deviceId _).get? d' = some other at hother
    rw [OrderedMap.get?_set] at hother
    split_ifs at hother with hd
    · cases hother
      exact ⟨entry, hd ▸ hentry, rfl⟩
    · exact ⟨other, hother, rfl⟩

theorem shrinks_beginHeartbeat (h : Consistent r) (session : BridgeGatewaySession) :
    Shrinks r (exec (beginHeartbeat session) r).2 := by
  unfold beginHeartbeat
  rw [exec_bind]
  have hsame := getBySession_unchanged h session
  generalize exec (getBySession session) r = out at hsame
  obtain ⟨result, r'⟩ := out
  obtain rfl : r' = r := hsame
  cases result with
  | error e => exact .refl h
  | ok found =>
    cases found with
    | none => exact .refl h
    | some registered =>
      exact exec_failIf_cases (P := fun out => Shrinks r' out.2) (fun _ => .refl h) fun _ => .refl h

theorem shrinks_endHeartbeat (h : Consistent r) (options : RegistryOptions) (states : SessionStates)
    (now : JsDate) (session : BridgeGatewaySession) (registered : ActiveDeviceSession)
    (active : Option DeviceSessionCredentialGeneration) :
    Shrinks r (exec (endHeartbeat options states now session registered active) r).2 := by
  unfold endHeartbeat
  by_cases hactive : active ≠ some registered.credentialGeneration
  · rw [if_pos hactive, exec_bind]
    have hevicts := shrinks_evictSession h session
    generalize exec (evictSession session) r = out at hevicts ⊢
    obtain ⟨result, r'⟩ := out
    cases result <;> exact hevicts
  · rw [if_neg hactive, exec_bind]
    have hmarks := shrinks_markHeartbeat h options states now session
    generalize exec (markHeartbeat options states now session) r = out at hmarks ⊢
    obtain ⟨result, r'⟩ := out
    cases result with
    | error e => exact hmarks
    | ok marked =>
      dsimp only
      rw [exec_failIf]
      exact hmarks

/-! ## What a registration registers -/

theorem cloneGeneration_ok {credentialId : String} {version : ℕ}
    {generation : DeviceSessionCredentialGeneration}
    (h : cloneGeneration credentialId (some (version : ℤ)) = .ok generation) :
    generation.credentialId = credentialId ∧ generation.credentialVersion = version := by
  unfold cloneGeneration at h
  change (if _ : _ then _ else _) = _ at h
  split at h
  · cases h
    exact ⟨rfl, rfl⟩
  · cases h

theorem cloneGeneration_of_has {entry : StoredDeviceSession} {generation : CredentialGeneration}
    (h : Has entry generation) : cloneGeneration generation.credentialId.value
      (some (generation.credentialVersion : ℤ)) = .ok entry.credentialGeneration := by
  obtain ⟨hid, hversion⟩ := h
  rw [← hid, ← hversion]
  exact dif_pos ⟨entry.credentialGeneration.credentialId_nonempty,
    entry.credentialGeneration.credentialVersion_pos⟩

theorem evictGeneration_gone {d : DeviceId} {generation : DeviceSessionCredentialGeneration}
    {entry : StoredDeviceSession}
    (hentry : (exec (evictGeneration d generation) r).2.byDeviceId.get? d = some entry) :
    entry.credentialGeneration ≠ generation := by
  unfold evictGeneration at hentry
  rw [exec_get_bind] at hentry
  cases hfound : (r.byDeviceId.get? d).filter (·.credentialGeneration = generation) with
  | none =>
    simp only [hfound] at hentry
    intro heq
    have hstored : r.byDeviceId.get? d = some entry := hentry
    rw [hstored] at hfound
    simp [heq] at hfound
  | some found =>
    simp only [hfound] at hentry
    have hstored : (r.remove found).byDeviceId.get? d = some entry := hentry
    rw [remove_byDeviceId (Option.filter_eq_some_iff.mp hfound).1, OrderedMap.get?_delete_self] at hstored
    cases hstored

/-- The entries stood there before, but for one of the session, with the generation. -/
def RegistersOnly (r : DeviceSessionRegistry) (session : BridgeGatewaySession) (credentialId : String)
    (credentialVersion : JsNumber) (r' : DeviceSessionRegistry) : Prop :=
  ∀ d entry, r'.byDeviceId.get? d = some entry → r.byDeviceId.get? d = some entry ∨
    ∃ identity, session.identity = some identity ∧ identity.deviceId = d ∧
      cloneGeneration credentialId credentialVersion = .ok entry.credentialGeneration

theorem registersOnly_refl (session : BridgeGatewaySession) (credentialId : String)
    (credentialVersion : JsNumber) : RegistersOnly r session credentialId credentialVersion r :=
  fun _ _ hentry => .inl hentry

theorem registerNew_registersOnly (source : RegistrySource) (session : BridgeGatewaySession)
    (credentialId : String) (credentialVersion : JsNumber) :
    RegistersOnly r session credentialId credentialVersion
      (exec (registerNew source session credentialId credentialVersion) r).2 := by
  unfold registerNew
  split
  · exact registersOnly_refl _ _ _
  · rename_i identity hidentity
    refine exec_bind_cases (P := fun out => RegistersOnly r session credentialId credentialVersion out.2)
      (fun _ _ => registersOnly_refl _ _ _) fun nowMs _ => ?_
    refine exec_bind_cases (P := fun out => RegistersOnly r session credentialId credentialVersion out.2)
      (fun _ _ => registersOnly_refl _ _ _) fun generation hgeneration => ?_
    rw [exec_get_bind]
    let entry : StoredDeviceSession :=
      { registrationId := source.registrationId, ownerId := identity.ownerId,
        deviceId := identity.deviceId, credentialGeneration := generation, connectedAtMs := nowMs,
        lastSeenAtMs := nowMs, session := session, identified := hidentity }
    have hput : RegistersOnly r session credentialId credentialVersion (r.put entry) := by
      intro d other hother
      rw [put_byDeviceId, OrderedMap.get?_set] at hother
      split_ifs at hother with hd
      · cases hother
        exact .inr ⟨identity, hidentity, hd.symm, hgeneration⟩
      · exact .inl hother
    unfold DeviceSessionRegistry.put at hput
    cases hprevious : r.byDeviceId.get? identity.deviceId with
    | none =>
      have hprevious' : r.byDeviceId.get? entry.deviceId = none := hprevious
      simp only [hprevious'] at hput
      exact hput
    | some previous =>
      have hprevious' : r.byDeviceId.get? entry.deviceId = some previous := hprevious
      simp only [hprevious'] at hput
      exact hput

theorem register_registersOnly (h : Consistent r) (states : SessionStates) (source : RegistrySource)
    (session : BridgeGatewaySession) (credentialId : String) (credentialVersion : JsNumber) :
    RegistersOnly r session credentialId credentialVersion
      (exec (register states source session credentialId credentialVersion) r).2 := by
  unfold register
  refine exec_failIf_cases (P := fun out => RegistersOnly r session credentialId credentialVersion out.2)
    (fun _ => registersOnly_refl _ _ _) fun _ => ?_
  refine exec_failIf_cases (P := fun out => RegistersOnly r session credentialId credentialVersion out.2)
    (fun _ => registersOnly_refl _ _ _) fun _ => ?_
  rw [exec_get_bind]
  cases href : r.registrationBySession.get? session with
  | some ref =>
    obtain ⟨existing, hreferred, -⟩ := h.referred_eq_some href
    simp only [hreferred]
    exact registersOnly_refl _ _ _
  | none => exact registerNew_registersOnly source session credentialId credentialVersion

end

section
variable {S : Type} {A : Adapter S} {options : RuntimeOptions} {log : List Effect} {w : ServerRuntime S}

namespace Sound

theorem registry (h : Sound A options log w) {registry : DeviceSessionRegistry}
    (hshrinks : Shrinks w.registry registry) : Sound A options log { w with registry } :=
  { h with
    consistent := hshrinks.consistent
    entries := by
      intro d entry hentry
      obtain ⟨entry', hentry', hsame⟩ := hshrinks.entries d entry hentry
      obtain ⟨g, hg, hactive⟩ := h.entries d entry' hentry'
      unfold Has at hg
      rw [hsame] at hg
      exact ⟨g, hg, hactive⟩ }

end Sound

/-! ## Hearing the gateway -/

namespace ServerRuntime
variable (w)

theorem release_gateway (guard : ℕ) : (w.release guard).gateway = w.gateway := by
  unfold release
  split
  · rfl
  · dsimp only
    split <;> rfl

theorem release_stopping (guard : ℕ) : (w.release guard).stopping = w.stopping := by
  unfold release
  split
  · rfl
  · dsimp only
    split <;> rfl

theorem release_credentialMutationCounts (guard : ℕ) :
    (w.release guard).credentialMutationCounts = w.credentialMutationCounts := by
  unfold release
  split
  · rfl
  · dsimp only
    split <;> rfl

/-- What hearing leaves as it is. -/
structure Hears (w w' : ServerRuntime S) : Prop where
  gateway : w'.gateway = w.gateway
  stopping : w'.stopping = w.stopping
  mutations : w'.credentialMutationCounts = w.credentialMutationCounts

theorem hear_hears (e : Effect) : Hears w (w.hear e) := by
  unfold hear
  split
  · exact ⟨rfl, rfl, rfl⟩
  · exact ⟨w.release_gateway _, w.release_stopping _, w.release_credentialMutationCounts _⟩
  · exact ⟨rfl, rfl, rfl⟩
  · exact ⟨rfl, rfl, rfl⟩

theorem foldl_hear_gateway (es : List Effect) : (es.foldl hear w).gateway = w.gateway := by
  induction es generalizing w with
  | nil => rfl
  | cons e es ih => exact (ih (w.hear e)).trans (w.hear_hears e).gateway

/-- What the runtime grants in `beginSessionReady`. -/
def Granted : Grants := fun identity guard =>
  guard = .lease → ∃ found, identity = some found ∧ w.stopping = false ∧
    ¬ w.isCredentialMutationActive found.deviceId

end ServerRuntime

namespace Sound

theorem hears (h : Sound A options log w) {e : Effect}
    (hacquires : ∀ identity guard, e = .acquires (some identity) (some guard) →
      (∀ e' ∈ log, e'.guard ≠ some guard) ∧ w.stopping = false ∧
        ¬ w.isCredentialMutationActive identity.deviceId) :
    Sound A options (log ++ [e]) (w.hear e) := by
  unfold ServerRuntime.hear
  split
  case h_1 identity guard =>
    obtain ⟨hfresh, hstopping, hidle⟩ := hacquires identity guard rfl
    exact h.acquires hfresh hstopping hidle
  case h_2 guard => exact h.releases guard
  case h_3 session reason =>
    exact (h.registry (shrinks_evictSession h.consistent _)).passes (by simp) (by simp)
  case h_4 hnot₁ hnot₂ hnot₃ => exact h.passes hnot₁ hnot₂

/-- A step of the gateway, with guards for devices that no operation is counted for. -/
theorem hears_all {es : List Effect} (h : Sound A options log w)
    (hfresh : ∀ before after identity guard, es = before ++ .acquires identity (some guard) :: after →
      ∀ e ∈ log ++ before, e.guard ≠ some guard)
    (hgranted : ∀ identity guard, .acquires identity guard ∈ es → w.Granted identity (.ofGuard guard)) :
    Sound A options (log ++ es) (es.foldl ServerRuntime.hear w) := by
  induction es generalizing w log with
  | nil => simpa using h
  | cons e es ih =>
    have hhears := w.hear_hears e
    have hfirst : Sound A options (log ++ [e]) (w.hear e) := by
      refine h.hears fun identity guard he => ?_
      subst he
      obtain ⟨found, hfound, hstopping, hidle⟩ := hgranted (some identity) (some guard) (by simp) rfl
      cases hfound
      exact ⟨by simpa using hfresh [] es (some identity) guard rfl, hstopping, hidle⟩
    have hrest := ih hfirst
      (fun before after identity guard hes => by
        simpa using hfresh (e :: before) after identity guard (by rw [hes]; rfl))
      (fun identity guard hmem hlease => by
        unfold ServerRuntime.isCredentialMutationActive
        rw [hhears.stopping, hhears.mutations]
        exact hgranted identity guard (List.mem_cons_of_mem e hmem) hlease)
    simpa using hrest

theorem gatewayStep (h : Sound A options w.gateway.log w) (event : Connections.Event) (r : Readings)
    (hgranted : ∀ i ref hello result identity, event = .resume i (.identity result) →
      w.gateway.calls.get? i = some (.authenticating ref hello) →
      Connections.authenticate options.gateway hello result = .ok identity →
      w.Granted identity r.guard) :
    Sound A options (w.gatewayStep options event r).gateway.log (w.gatewayStep options event r) := by
  have hmoves : Connections.Moves options.gateway False w.Granted w.gateway
      (w.gateway.step options.gateway (event, r)) := Connections.step_moves False.elim hgranted
  obtain ⟨es, hlog, hes⟩ := hmoves.grows
  unfold ServerRuntime.gatewayStep
  dsimp only
  rw [ServerRuntime.foldl_hear_gateway, hlog, List.drop_left]
  have hheld := Connections.keeps_of_moves (fun _ _ hmove hw => hmove.leases hw) hmoves h.held
  have hjustified := Connections.keeps_of_moves (fun _ _ hmove hw => hmove.justified hw) hmoves
    h.justified
  refine (h.gateway hjustified hheld).hears_all ?_ hes
  intro before after identity guard hsplit
  have hentries : (w.gateway.step options.gateway (event, r)).log =
      (w.gateway.log ++ before) ++ .acquires identity (some guard) :: after := by
    rw [hlog, hsplit, List.append_assoc]
  exact hheld.fresh hentries

theorem closeSession (h : Sound A options w.gateway.log w) (session : BridgeGatewaySession) (r : Readings) :
    Sound A options (w.closeSession options session r).gateway.log (w.closeSession options session r) := by
  unfold ServerRuntime.closeSession
  split
  · exact h
  · exact h.gatewayStep _ r (by simp)

/-- A hello without `auth` is refused. -/
theorem not_authenticated {hello : BridgeHello} (hauth : hello.auth = none)
    (result : Except (Option String) (Option AuthenticatedDeviceIdentity))
    (identity : Option AuthenticatedDeviceIdentity) :
    Connections.authenticate options.gateway hello result ≠ .ok identity := by
  unfold Connections.authenticate
  rw [hauth]
  simp [RuntimeOptions.gateway]

theorem authenticated_identity {hello : BridgeHello} {found : AuthenticatedDeviceIdentity}
    {identity : Option AuthenticatedDeviceIdentity}
    (h : Connections.authenticate options.gateway hello (.ok (some found)) = .ok identity) :
    identity = some found := by
  cases hauth : hello.auth with
  | none => exact absurd h (not_authenticated hauth _ identity)
  | some auth =>
    unfold Connections.authenticate at h
    simp only [hauth, RuntimeOptions.gateway, Bool.true_eq_false, if_false] at h
    split at h
    · cases h
    · cases h
      rfl

theorem onGateway (h : Sound A options w.gateway.log w) (event : Connections.Event) (r : Readings) :
    Sound A options (w.onGateway options event r).gateway.log (w.onGateway options event r) := by
  cases event with
  | resume i answer =>
    show Sound A options (ite _ _ _ : ServerRuntime S).gateway.log (ite _ _ _)
    split
    · exact h
    case isFalse hhooked =>
      refine h.gatewayStep _ r fun j ref hello result identity heq hcall hresult => ?_
      cases heq
      rw [hcall, Option.any_some] at hhooked
      have hauth : hello.auth = none := by simpa [ServerRuntime.hooked] using hhooked
      exact absurd hresult (not_authenticated hauth result identity)
  | heartbeatSettled ref valid => exact h
  | _ => exact h.gatewayStep _ r (by simp)

/-! ## The hooks of a handshake -/

theorem onIdentity (h : Sound A options w.gateway.log w) (a : ℕ) (r : Readings) :
    Sound A options (w.onIdentity options a r).gateway.log (w.onIdentity options a r) := by
  unfold ServerRuntime.onIdentity
  split
  case h_2 => exact h
  case h_1 i d credential result hget =>
    split
    case h_2 => exact h
    case h_1 ref hello hcall =>
      refine h.gatewayStep _ _ fun j ref' hello' result' identity heq hcall' hresult => ?_
      cases heq
      rw [hcall] at hcall'
      cases hcall'
      intro hlease
      cases result with
      | error e => cases hlease
      | ok found =>
        replace hlease : ite (w.stopping = true ∨ w.isCredentialMutationActive found.deviceId)
          ReadyGuard.throws ReadyGuard.lease = .lease := hlease
        split at hlease
        · cases hlease
        case isFalse hidle =>
          exact ⟨found, authenticated_identity hresult, by simpa using fun h => hidle (.inl h),
            fun h => hidle (.inr h)⟩

theorem onValidation (hA : A.Contract) (h : Sound A options w.gateway.log w) (i : ℕ) :
    Sound A options (w.onValidation A i).gateway.log (w.onValidation A i) := by
  unfold ServerRuntime.onValidation
  split
  case h_2 => exact h
  case h_1 ref hello identity guard hcall =>
    cases hauth : hello.auth with
    | none => exact h
    | some auth =>
      dsimp only
      obtain ⟨hfinds, hdevice⟩ := verify_finds w.devices (d := auth.deviceId) hA h.valid
        auth.credential
      have hacquired := h.justified.validating hcall rfl
      generalize exec (verify A w.devices auth.deviceId auth.credential) w.credentials = out at hfinds hdevice
      obtain ⟨result, s⟩ := out
      have hsame : s = w.credentials := by
        obtain ⟨e, he⟩ | ⟨v, hv, -⟩ := hfinds
        · cases he
          rfl
        · cases hv
          rfl
      subst hsame
      exact { h with
        unrecorded := by
          intro n hn
          have hne : n ≠ guard := by
            rintro rfl
            exact hn _ hacquired rfl
          refine ⟨(h.unrecorded n hn).1, ?_⟩
          show (w.validations.set guard result).get? n = none
          rw [OrderedMap.get?_set_ne _ _ hne]
          exact (h.unrecorded n hn).2
        recorded := by
          intro n d hn
          refine ⟨(h.recorded n d hn).1, fun v => ?_⟩
          show (w.validations.set guard result).get? n = some (.ok v) → _
          rw [OrderedMap.get?_set]
          split_ifs with hguard
          · intro hv hd
            cases hv
            obtain ⟨e, he⟩ | ⟨v', hv', hactive⟩ := hfinds
            · cases he
            · cases hv'
              obtain ⟨r, hr, hc⟩ := hactive _ rfl
              rw [← hd, hdevice v rfl]
              exact ⟨r, hr, by rw [hc]⟩
          · exact (h.recorded n d hn).2 v }

theorem onValidated (h : Sound A options w.gateway.log w) (i : ℕ) (r : Readings) :
    Sound A options (w.onValidated options i r).gateway.log (w.onValidated options i r) := by
  unfold ServerRuntime.onValidated
  split
  case h_2 => exact h
  case h_1 ref hello identity guard hcall =>
    split
    · exact h
    · exact h.gatewayStep _ r (by simp)
    case h_3 verified hverified =>
      split
      · exact h.gatewayStep _ r (by simp)
      case isFalse hsame =>
        have hacquired := h.justified.validating hcall rfl
        refine gatewayStep ?_ _ r (by simp)
        exact { h with
          unrecorded := by
            intro n hn
            have hne : n ≠ guard := by
              rintro rfl
              exact hn _ hacquired rfl
            refine ⟨?_, (h.unrecorded n hn).2⟩
            rw [OrderedMap.get?_set_ne _ _ hne]
            exact (h.unrecorded n hn).1
          recorded := by
            intro n d hn
            refine ⟨fun g => ?_, (h.recorded n d hn).2⟩
            rw [OrderedMap.get?_set]
            split_ifs with hguard
            · subst hguard
              intro hg
              cases hg
              obtain ⟨⟨identity', hacquired', rfl⟩, -⟩ := (h.leased n d).mp hn
              cases h.held.acquires_unique hacquired hacquired'
              exact (h.recorded n _ hn).2 verified hverified (by rw [not_not.mp hsame])
            · exact (h.recorded n d hn).1 g }

/-- What `onSession` registers was read under the guard of its handshake, which is still held. -/
theorem onSession (h : Sound A options w.gateway.log w) (i : ℕ) (source : RegistrySource) (r : Readings) :
    Sound A options (w.onSession options i source r).gateway.log (w.onSession options i source r) := by
  unfold ServerRuntime.onSession
  split
  case h_2 => exact h
  case h_1 session guard hcall =>
    split
    · exact h
    case isFalse hbound =>
      cases hgeneration : w.credentialGenerationByIdentity.get? guard with
      | none => exact h.bindings _
      | some generation =>
        dsimp only
        have honly := register_registersOnly h.consistent w.states source session.toBridgeGatewaySession
          generation.credentialId.value (some (generation.credentialVersion : ℤ))
        have hwrites : Writes options.registry w.states w.registry
            (exec (register w.states source session.toBridgeGatewaySession generation.credentialId.value
              (some (generation.credentialVersion : ℤ))) w.registry).2 :=
          (register_registers h.consistent source session.toBridgeGatewaySession
            generation.credentialId.value (some (generation.credentialVersion : ℤ))).1
        generalize exec (register w.states source session.toBridgeGatewaySession
          generation.credentialId.value (some (generation.credentialVersion : ℤ))) w.registry = registered
          at honly hwrites
        have hdelete : ∀ n g, (w.credentialGenerationByIdentity.delete guard).get? n = some g →
            w.credentialGenerationByIdentity.get? n = some g := by
          intro n g hn
          rw [OrderedMap.get?_delete] at hn
          split_ifs at hn
          exact hn
        have hregistered : Sound A options w.gateway.log
            { w with
              credentialGenerationByIdentity := w.credentialGenerationByIdentity.delete guard
              registry := registered.2
              bindings := w.bindings.set guard registered.1.toOption.isSome } :=
          { h with
            consistent := h.consistent.writes hwrites
            unrecorded := by
              intro n hn
              refine ⟨?_, (h.unrecorded n hn).2⟩
              rw [OrderedMap.get?_delete, (h.unrecorded n hn).1, ite_self]
            recorded := fun n d hn =>
              ⟨fun g hg => (h.recorded n d hn).1 g (hdelete n g hg), (h.recorded n d hn).2⟩
            entries := by
              intro d entry hentry
              obtain hold | ⟨identity, hidentity, rfl, hclone⟩ := honly d entry hentry
              · exact h.entries d entry hold
              · refine ⟨generation, cloneGeneration_ok hclone, .inl ?_⟩
                have hheld : w.gateway.heldBy i = some guard := by
                  simp [Connections.World.heldBy, hcall, Connections.Call.held]
                have hacquired := h.justified.binding hcall rfl
                have hlease : w.leases.get? guard = some identity.deviceId :=
                  (h.leased guard _).mpr
                    ⟨⟨identity, hidentity ▸ hacquired, rfl⟩, h.held.not_released hheld⟩
                exact (h.recorded guard _ hlease).1 generation hgeneration }
        split
        · exact hregistered
        · exact hregistered.closeSession _ r

theorem onBound (h : Sound A options w.gateway.log w) (i : ℕ) (returns : Bool) (r : Readings) :
    Sound A options (w.onBound options i returns r).gateway.log (w.onBound options i returns r) := by
  unfold ServerRuntime.onBound
  split
  · split
    · exact h
    · exact h.gatewayStep _ r (by simp)
  · exact h

/-! ## `onHeartbeat` and invalidations -/

theorem onHeartbeat (h : Sound A options w.gateway.log w) (ref : ℕ) :
    Sound A options (w.onHeartbeat ref).gateway.log (w.onHeartbeat ref) := by
  unfold ServerRuntime.onHeartbeat
  split
  · exact (h.registry (shrinks_beginHeartbeat h.consistent _)).heartbeats _
  · exact h

theorem onHeartbeatActive (hA : A.Contract) (h : Sound A options w.gateway.log w) (ref : ℕ) :
    Sound A options (w.onHeartbeatActive A ref).gateway.log (w.onHeartbeatActive A ref) := by
  unfold ServerRuntime.onHeartbeatActive
  split
  case h_2 => exact h
  case h_1 session registered hget =>
    dsimp only
    have hfinds := contract_getActive hA h.valid (deviceIdSchema_value registered.deviceId)
    generalize exec (A.getActive registered.deviceId.value) w.credentials = out at hfinds
    obtain ⟨e, rfl⟩ | ⟨found, rfl, -⟩ := hfinds
    · exact h.heartbeats _
    · exact h.heartbeats _

theorem onHeartbeatAnswered (h : Sound A options w.gateway.log w) (ref : ℕ) (now : JsDate) :
    Sound A options (w.onHeartbeatAnswered options ref now).gateway.log
      (w.onHeartbeatAnswered options ref now) := by
  unfold ServerRuntime.onHeartbeatAnswered
  split
  · exact (h.registry (shrinks_endHeartbeat h.consistent _ _ _ _ _ _)).heartbeats _
  · exact h

theorem onHeartbeatSettled (h : Sound A options w.gateway.log w) (ref : ℕ) (r : Readings) :
    Sound A options (w.onHeartbeatSettled options ref r).gateway.log
      (w.onHeartbeatSettled options ref r) := by
  unfold ServerRuntime.onHeartbeatSettled
  split
  · exact (h.heartbeats (w.heartbeats.delete ref)).gatewayStep _ r (by simp)
  · exact (h.heartbeats (w.heartbeats.delete ref)).gatewayStep _ r (by simp)
  · exact h

theorem evictCredentialGeneration (h : Sound A options w.gateway.log w) (d : DeviceId)
    (generation : CredentialGeneration) (r : Readings) :
    Sound A options (w.evictCredentialGeneration options d generation r).gateway.log
      (w.evictCredentialGeneration options d generation r) := by
  unfold ServerRuntime.evictCredentialGeneration
  split
  · exact h
  · dsimp only
    split
    · exact h.registry (shrinks_evictGeneration h.consistent d _)
    · exact (h.registry (shrinks_evictGeneration h.consistent d _)).closeSession _ r

theorem onInvalidation (h : Sound A options w.gateway.log w) (d : DeviceId)
    (generation : CredentialGeneration) (r : Readings) :
    Sound A options (w.onInvalidation options d generation r).gateway.log
      (w.onInvalidation options d generation r) := by
  unfold ServerRuntime.onInvalidation
  split
  · exact h
  · exact h.evictCredentialGeneration d generation r

end Sound

end
end Doctmcp.Runtime

import Doctmcp.Runtime.Operations

/-! # Operations are not undone

What an operation has read, replaced and returned stays, whatever step the runtime takes. -/

namespace Doctmcp.Runtime
open Doctmcp.Lib Doctmcp.Lib.Operation Doctmcp.Schemas Doctmcp.Gateway Doctmcp.Credential Doctmcp.Routing
open Doctmcp.Gateway.Connections (Effect Readings)
open Doctmcp.Routing.DeviceSessionRegistry
set_option autoImplicit false

section
variable {S : Type} {A : Adapter S} {options : RuntimeOptions} {w : ServerRuntime S}

/-- What stays of an operation. -/
structure LifecycleOperation.Continues (op op' : LifecycleOperation) : Prop where
  kind : op'.kind = op.kind
  deviceId : op'.deviceId = op.deviceId
  current : ∀ result, op.current = some result → op'.current = some result
  replaced : ∀ g ∈ op.replaced, g ∈ op'.replaced
  returned : ∀ succeeds, op.stage = .returned succeeds → op'.stage = .returned succeeds

theorem LifecycleOperation.Continues.refl (op : LifecycleOperation) : op.Continues op :=
  ⟨rfl, rfl, fun _ h => h, fun _ h => h, fun _ h => h⟩

theorem LifecycleOperation.Continues.trans {op op' op'' : LifecycleOperation} (h : op.Continues op')
    (h' : op'.Continues op'') : op.Continues op'' where
  kind := h'.kind.trans h.kind
  deviceId := h'.deviceId.trans h.deviceId
  current := fun result hr => h'.current result (h.current result hr)
  replaced := fun g hg => h'.replaced g (h.replaced g hg)
  returned := fun succeeds hs => h'.returned succeeds (h.returned succeeds hs)

/-- Every operation is still there. -/
def Continues (operations operations' : Heap LifecycleOperation) : Prop :=
  ∀ k op, operations.get? k = some op → ∃ op', operations'.get? k = some op' ∧ op.Continues op'

theorem Continues.refl (operations : Heap LifecycleOperation) : Continues operations operations :=
  fun _ op hop => ⟨op, hop, .refl op⟩

theorem Continues.trans {operations operations' operations'' : Heap LifecycleOperation}
    (h : Continues operations operations') (h' : Continues operations' operations'') :
    Continues operations operations'' := by
  intro k op hop
  obtain ⟨op', hop', hc⟩ := h k op hop
  obtain ⟨op'', hop'', hc'⟩ := h' k op' hop'
  exact ⟨op'', hop'', hc.trans hc'⟩

theorem continues_map {operations : Heap LifecycleOperation} {f : LifecycleOperation → LifecycleOperation}
    (hf : ∀ op : LifecycleOperation, op.Continues (f op)) : Continues operations (operations.map f) :=
  fun k op hop => ⟨f op, by rw [Heap.get?_map, hop]; rfl, hf op⟩

theorem continues_modify {operations : Heap LifecycleOperation} {k : ℕ} {op : LifecycleOperation}
    (hop : operations.get? k = some op) {f : LifecycleOperation → LifecycleOperation}
    (hf : op.Continues (f op)) : Continues operations (operations.modify k f) := by
  intro j op' hop'
  by_cases hj : j = k
  · subst hj
    rw [hop] at hop'
    cases hop'
    exact ⟨f op, by rw [Heap.get?_modify_self, hop]; rfl, hf⟩
  · exact ⟨op', by rw [Heap.get?_modify_ne _ hj, hop'], .refl op'⟩

theorem continues_drained (p : DeviceId → Bool) (op : LifecycleOperation) :
    op.Continues (LifecycleOperation.drained p op) := by
  obtain ⟨hdraining, -, heq⟩ | ⟨-, heq⟩ := drained_cases p op
  · rw [heq]
    exact ⟨rfl, rfl, fun _ h => h, fun _ h => h, fun succeeds h => by rw [hdraining] at h; cases h⟩
  · rw [heq]
    exact .refl op

theorem continues_authenticationDrained (p : DeviceId → Bool) (op : LifecycleOperation) :
    op.Continues (LifecycleOperation.authenticationDrained p op) := by
  obtain ⟨succeeds, hstage, -, heq⟩ | ⟨-, heq⟩ := authenticationDrained_cases p op
  · rw [heq]
    exact ⟨rfl, rfl, fun _ h => h, fun _ h => h, fun succeeds h => by rw [hstage] at h; cases h⟩
  · rw [heq]
    exact .refl op

theorem continues_setStage {k : ℕ} {op : LifecycleOperation} (hop : w.operations.get? k = some op)
    (hactive : op.isActive = true) (stage : LifecycleStage) :
    Continues w.operations (w.setStage k stage).operations := by
  refine continues_modify hop ⟨rfl, rfl, fun _ h => h, fun _ h => h, fun succeeds h => ?_⟩
  simp [LifecycleOperation.isActive, h] at hactive

theorem continues_release (w : ServerRuntime S) (guard : ℕ) :
    Continues w.operations (w.release guard).operations := by
  unfold ServerRuntime.release
  split
  · exact .refl _
  · dsimp only
    split
    · exact .refl _
    · exact continues_map (continues_drained _)

theorem continues_hear (w : ServerRuntime S) (e : Effect) : Continues w.operations (w.hear e).operations := by
  unfold ServerRuntime.hear
  split
  · exact .refl _
  · exact continues_release w _
  · exact .refl _
  · exact .refl _

theorem continues_gatewayStep (w : ServerRuntime S) (event : Connections.Event) (r : Readings) :
    Continues w.operations (w.gatewayStep options event r).operations := by
  have hfold : ∀ (es : List Effect) (w : ServerRuntime S),
      Continues w.operations (es.foldl ServerRuntime.hear w).operations := by
    intro es
    induction es with
    | nil => exact fun w => .refl _
    | cons e es ih => exact fun w => (continues_hear w e).trans (ih (w.hear e))
  exact hfold _ { w with gateway := w.gateway.step options.gateway (event, r) }

theorem continues_closeSession (w : ServerRuntime S) (session : BridgeGatewaySession) (r : Readings) :
    Continues w.operations (w.closeSession options session r).operations := by
  unfold ServerRuntime.closeSession
  split
  · exact .refl _
  · exact continues_gatewayStep w _ r

theorem continues_evictCredentialGeneration (w : ServerRuntime S) (d : DeviceId)
    (generation : CredentialGeneration) (r : Readings) :
    Continues w.operations (w.evictCredentialGeneration options d generation r).operations := by
  unfold ServerRuntime.evictCredentialGeneration
  split
  case h_1 => exact .refl _
  case h_2 cloned hclone =>
    dsimp only
    split
    case h_1 => exact .refl _
    case h_2 evicted hevicted =>
      exact continues_closeSession { w with registry := (exec (evictGeneration d cloned) w.registry).2 }
        evicted.session r

theorem continues_onGateway (w : ServerRuntime S) (event : Connections.Event) (r : Readings) :
    Continues w.operations (w.onGateway options event r).operations := by
  unfold ServerRuntime.onGateway
  split
  · split
    · exact .refl _
    · exact continues_gatewayStep w _ r
  · exact .refl _
  · exact continues_gatewayStep w _ r

theorem continues_authenticateDevice (w : ServerRuntime S) (i : ℕ) :
    Continues w.operations (w.authenticateDevice i).operations := by
  unfold ServerRuntime.authenticateDevice
  split
  · split
    · exact .refl _
    · split
      · exact .refl _
      · split <;> exact .refl _
  · exact .refl _

theorem continues_endAuthentication (w : ServerRuntime S) (d : DeviceId) :
    Continues w.operations (w.endAuthentication d).operations := by
  unfold ServerRuntime.endAuthentication
  dsimp only
  split
  · exact .refl _
  · exact continues_map (continues_authenticationDrained _)

theorem continues_onAuthenticated (w : ServerRuntime S) (a : ℕ) :
    Continues w.operations (w.onAuthenticated a).operations := by
  unfold ServerRuntime.onAuthenticated
  split
  case h_1 i d credential result hget => exact continues_endAuthentication (w.setAuthentication a _) d
  case h_2 => exact .refl _

theorem continues_onIdentity (w : ServerRuntime S) (a : ℕ) (r : Readings) :
    Continues w.operations (w.onIdentity options a r).operations := by
  unfold ServerRuntime.onIdentity
  split
  · split
    · exact continues_gatewayStep w _ _
    · exact .refl _
  · exact .refl _

theorem continues_onValidation (w : ServerRuntime S) (i : ℕ) :
    Continues w.operations (w.onValidation A i).operations := by
  unfold ServerRuntime.onValidation
  split
  · split <;> exact .refl _
  · exact .refl _

theorem continues_onValidated (w : ServerRuntime S) (i : ℕ) (r : Readings) :
    Continues w.operations (w.onValidated options i r).operations := by
  unfold ServerRuntime.onValidated
  split
  case h_1 ref hello identity guard hcall =>
    split
    · exact .refl _
    · exact continues_gatewayStep w _ r
    case h_3 verified hverified =>
      split
      · exact continues_gatewayStep w _ r
      · exact continues_gatewayStep { w with
          credentialGenerationByIdentity := w.credentialGenerationByIdentity.set guard
            (generationFromCredential verified.credential) } _ r
  case h_2 => exact .refl _

theorem continues_onSession (w : ServerRuntime S) (i : ℕ) (source : RegistrySource) (r : Readings) :
    Continues w.operations (w.onSession options i source r).operations := by
  unfold ServerRuntime.onSession
  split
  case h_2 => exact .refl _
  case h_1 session guard hcall =>
    split
    · exact .refl _
    · split
      · exact .refl _
      case h_2 generation hgeneration =>
        dsimp only
        generalize exec (register w.states source session.toBridgeGatewaySession
          generation.credentialId.value (some (generation.credentialVersion : ℤ))) w.registry = registered
        split
        case h_1 => exact .refl _
        case h_2 replaced hreplaced =>
          exact continues_closeSession { w with
            credentialGenerationByIdentity := w.credentialGenerationByIdentity.delete guard
            registry := registered.2
            bindings := w.bindings.set guard registered.1.toOption.isSome } replaced.session r

theorem continues_onBound (w : ServerRuntime S) (i : ℕ) (returns : Bool) (r : Readings) :
    Continues w.operations (w.onBound options i returns r).operations := by
  unfold ServerRuntime.onBound
  split
  · split
    · exact .refl _
    · exact continues_gatewayStep w _ r
  · exact .refl _

theorem continues_onHeartbeatSettled (w : ServerRuntime S) (ref : ℕ) (r : Readings) :
    Continues w.operations (w.onHeartbeatSettled options ref r).operations := by
  unfold ServerRuntime.onHeartbeatSettled
  split
  · exact continues_gatewayStep { w with heartbeats := w.heartbeats.delete ref } _ r
  · exact continues_gatewayStep { w with heartbeats := w.heartbeats.delete ref } _ r
  · exact .refl _

theorem continues_replace (w : ServerRuntime S) (k : ℕ) (draw : Draw) (now : JsDate) :
    Continues w.operations (w.replace A k draw now).operations := by
  unfold ServerRuntime.replace
  split
  case h_1 d current replaced hop =>
    split
    · exact continues_setStage hop rfl _
    · split <;> exact continues_setStage hop rfl _
  case h_2 d current replaced hop =>
    split
    · exact continues_setStage hop rfl _
    · split <;> exact continues_setStage hop rfl _
  case h_3 => exact .refl _

theorem continues_evict (w : ServerRuntime S) (k : ℕ) (r : Readings) :
    Continues w.operations (w.evict options k r).operations := by
  unfold ServerRuntime.evict
  split
  case h_2 => exact .refl _
  case h_1 kind d current generation replaced hop =>
    refine Continues.trans ?_ (continues_evictCredentialGeneration _ d generation r)
    exact continues_modify hop ⟨rfl, rfl, fun _ h => h, fun g hg => List.mem_append_left _ hg,
      fun succeeds h => by cases h⟩

/-- No step undoes what an operation has done. -/
theorem continues_step (w : ServerRuntime S) (event : Event) :
    Continues w.operations (w.step A options event).operations := by
  cases event with
  | gateway event r => exact continues_onGateway w event r
  | authenticateDevice i => exact continues_authenticateDevice w i
  | verified a =>
    show Continues w.operations (w.onVerified A a).operations
    unfold ServerRuntime.onVerified
    split <;> exact .refl _
  | authenticated a => exact continues_onAuthenticated w a
  | identity a r => exact continues_onIdentity w a r
  | validation i => exact continues_onValidation w i
  | validated i r => exact continues_onValidated w i r
  | session i source r => exact continues_onSession w i source r
  | bound i returns r => exact continues_onBound w i returns r
  | heartbeat ref =>
    show Continues w.operations (w.onHeartbeat ref).operations
    unfold ServerRuntime.onHeartbeat
    split <;> exact .refl _
  | heartbeatActive ref =>
    show Continues w.operations (w.onHeartbeatActive A ref).operations
    unfold ServerRuntime.onHeartbeatActive
    split <;> exact .refl _
  | heartbeatAnswered ref now =>
    show Continues w.operations (w.onHeartbeatAnswered options ref now).operations
    unfold ServerRuntime.onHeartbeatAnswered
    split <;> exact .refl _
  | heartbeatSettled ref r => exact continues_onHeartbeatSettled w ref r
  | operation kind d =>
    show Continues w.operations (w.runCredentialLifecycleOperation kind d).operations
    unfold ServerRuntime.runCredentialLifecycleOperation
    split
    · exact .refl _
    · exact fun k op hop => ⟨op, Heap.get?_alloc_of_some hop _, .refl op⟩
  | readCurrent k =>
    show Continues w.operations (w.readCurrent A k).operations
    unfold ServerRuntime.readCurrent
    split
    case h_1 => exact .refl _
    case h_2 kind d stage replaced hnot hop =>
      exact continues_modify hop ⟨rfl, rfl, by simp, fun _ h => h, fun _ h => h⟩
    case h_3 => exact .refl _
  | enter k =>
    show Continues w.operations (w.enter k).operations
    unfold ServerRuntime.enter
    split
    case h_1 hop => exact continues_setStage hop rfl _
    case h_2 => exact .refl _
  | run k =>
    show Continues w.operations (w.run k).operations
    unfold ServerRuntime.run
    split
    case h_1 hop =>
      split
      · exact continues_setStage hop rfl _
      · exact continues_setStage hop rfl _
    case h_2 => exact .refl _
  | replace k draw now => exact continues_replace w k draw now
  | issueCredential k draw now =>
    show Continues w.operations (w.issueCredential A k draw now).operations
    unfold ServerRuntime.issueCredential
    split <;> exact .refl _
  | recoverCredential k expected credentialId secret now =>
    show Continues w.operations (w.recoverCredential A k expected credentialId secret now).operations
    unfold ServerRuntime.recoverCredential
    split
    case h_1 hop =>
      split
      · exact .refl _
      · exact continues_setStage hop rfl _
    case h_2 => exact .refl _
  | finish k succeeds =>
    show Continues w.operations (w.finish k succeeds).operations
    unfold ServerRuntime.finish
    split
    case h_1 hop => exact continues_setStage hop rfl _
    case h_2 => exact .refl _
  | evict k r => exact continues_evict w k r
  | published k =>
    show Continues w.operations (w.published k).operations
    unfold ServerRuntime.published
    split
    case h_1 hop => exact continues_setStage hop rfl _
    case h_2 hop => exact continues_setStage hop rfl _
    case h_3 => exact .refl _
  | leave k =>
    show Continues w.operations (w.leave k).operations
    unfold ServerRuntime.leave
    split
    case h_1 hop => exact continues_setStage hop rfl _
    case h_2 => exact .refl _
  | invalidation d generation r =>
    show Continues w.operations (w.onInvalidation options d generation r).operations
    unfold ServerRuntime.onInvalidation
    split
    · exact .refl _
    · exact continues_evictCredentialGeneration w d generation r
  | createDevice device => exact .refl _
  | stop =>
    show Continues w.operations w.stop.operations
    unfold ServerRuntime.stop
    split
    · exact .refl _
    · exact (continues_map (continues_authenticationDrained _)).trans (continues_map (continues_drained _))
  | clear =>
    show Continues w.operations w.clear.operations
    unfold ServerRuntime.clear
    split <;> exact .refl _

variable (A options) in
theorem continues_run (w : ServerRuntime S) (events : List Event) :
    Continues w.operations (runFrom (ServerRuntime.step A options) w events).operations := by
  induction events generalizing w with
  | nil => exact .refl _
  | cons event events ih =>
    rw [runFrom_cons]
    exact (continues_step w event).trans (ih _)

end
end Doctmcp.Runtime

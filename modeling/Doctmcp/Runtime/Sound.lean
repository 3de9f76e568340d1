import Doctmcp.Runtime.ServerRuntime

/-! # What holds between the parts of the runtime

While a handshake of a device holds its guard, no operation replaces the credential of the device: an
operation runs only when the guards of its device are drained, and no guard is given out while it is
counted. So what a handshake validated is active when its session is registered, and an entry of the
registry whose generation is not active is one that an operation is about to evict. -/

namespace Doctmcp.Runtime
open Doctmcp.Lib Doctmcp.Lib.Operation Doctmcp.Schemas Doctmcp.Gateway Doctmcp.Credential Doctmcp.Routing
open Doctmcp.Gateway.Connections (BridgeGatewayOptions BridgeHello GatewaySession Effect Readings
  ReadyGuard)
open Doctmcp.Routing.DeviceSessionRegistry
set_option autoImplicit false

/-- An entry of the registry has the generation. -/
def Has (entry : StoredDeviceSession) (generation : CredentialGeneration) : Prop :=
  entry.credentialGeneration.credentialId = generation.credentialId.value ∧
    entry.credentialGeneration.credentialVersion = generation.credentialVersion

theorem Has.unique {entry : StoredDeviceSession} {g g' : CredentialGeneration} (h : Has entry g)
    (h' : Has entry g') : g = g' := by
  obtain ⟨id, version⟩ := g
  obtain ⟨id', version'⟩ := g'
  have hid : id = id' := UuidV4.ext (h.1.symm.trans h'.1)
  have hversion : version = version' := h.2.symm.trans h'.2
  rw [hid, hversion]

namespace LifecycleOperation

/-- The generation that the operation is about to evict. -/
def evicts (op : LifecycleOperation) : Option CredentialGeneration :=
  match op.stage with
  | .evicting generation => some generation
  | _ => none

/-- The operation may change the store, or is about to. -/
def Excludes (stopping : Bool) (op : LifecycleOperation) : Prop :=
  match op.stage with
  | .drained => stopping = false
  | .running => True
  | .evicting _ => True
  | .publishing _ => True
  | _ => False

/-- The generation that a revocation or a rotation read at first. -/
def Names (op : LifecycleOperation) (generation : CredentialGeneration) : Prop :=
  ∃ c, op.current = some (.ok c) ∧ generationFromCredential c = generation

/-- What a revocation or a rotation has done by its stage. -/
def Done (op : LifecycleOperation) : Prop :=
  op.kind ≠ .completion →
    match op.stage with
    | .evicting generation => op.Names generation
    | .publishing generation => op.Names generation ∧ generation ∈ op.replaced
    | .authenticationDraining true => ∃ generation ∈ op.replaced, op.Names generation
    | .authenticationDrained true => ∃ generation ∈ op.replaced, op.Names generation
    | .returned true => ∃ generation ∈ op.replaced, op.Names generation
    | _ => True

/-- A generation that the operation has replaced. -/
def Replaced (op : LifecycleOperation) (generation : CredentialGeneration) : Prop :=
  generation ∈ op.replaced ∨ op.evicts = some generation

end LifecycleOperation

section
variable {S : Type} (A : Adapter S)

/-! ## Guards -/

/-- The guards that are not released, by what was heard of the gateway. -/
def Leased (log : List Effect) (leases : OrderedMap ℕ DeviceId) : Prop :=
  ∀ n d, leases.get? n = some d ↔
    (∃ identity, .acquires (some identity) (some n) ∈ log ∧ identity.deviceId = d) ∧ .releases n ∉ log

/-- Nothing is recorded for a guard that was not acquired. -/
def Unrecorded (log : List Effect) (generations : OrderedMap ℕ CredentialGeneration)
    (validations : OrderedMap ℕ (Except JsError VerifiedDeviceCredential)) : Prop :=
  ∀ n, (∀ e ∈ log, e.guard ≠ some n) → generations.get? n = none ∧ validations.get? n = none

/-- What was read under a guard is active. -/
def Recorded (credentials : S) (leases : OrderedMap ℕ DeviceId)
    (generations : OrderedMap ℕ CredentialGeneration)
    (validations : OrderedMap ℕ (Except JsError VerifiedDeviceCredential)) : Prop :=
  ∀ n d, leases.get? n = some d →
    (∀ g, generations.get? n = some g → IsActive A credentials d g) ∧
      ∀ v, validations.get? n = some (.ok v) → v.identity.deviceId = d →
        IsActive A credentials d (generationFromCredential v.credential)

/-! ## Operations -/

/-- No guard of the device is held while an operation may change the store. -/
def Excluded (stopping : Bool) (operations : Heap LifecycleOperation)
    (leases : OrderedMap ℕ DeviceId) : Prop :=
  ∀ k op, operations.get? k = some op → op.Excludes stopping → ∀ n, leases.get? n ≠ some op.deviceId

/-- What an operation waits for is there. -/
def Waiting (stopping : Bool) (ready authentications : Counters DeviceId)
    (operations : Heap LifecycleOperation) : Prop :=
  ∀ k op, operations.get? k = some op →
    (op.stage = .draining → stopping = false ∧ 0 < ready.count op.deviceId) ∧
      ∀ succeeds, op.stage = .authenticationDraining succeeds →
        stopping = false ∧ 0 < authentications.count op.deviceId

/-- No authentication is left of before an operation that is about to leave. -/
def Left (stopping : Bool) (operations : Heap LifecycleOperation)
    (authentications : Heap Authentication) : Prop :=
  ∀ k op succeeds, operations.get? k = some op → op.stage = .authenticationDrained succeeds →
    stopping = false → ∀ a auth, authentications.get? a = some auth → auth.deviceId = op.deviceId →
      auth.isPending = false

/-- An entry of the registry is active, or is about to be evicted. -/
def Entries (credentials : S) (registry : DeviceSessionRegistry)
    (operations : Heap LifecycleOperation) : Prop :=
  ∀ d entry, registry.byDeviceId.get? d = some entry → ∃ g, Has entry g ∧
    (IsActive A credentials d g ∨
      ∃ k op, operations.get? k = some op ∧ op.deviceId = d ∧ op.evicts = some g)

/-- What operations have replaced is retired; each generation was replaced by one of them. -/
structure Replacements (credentials : S) (operations : Heap LifecycleOperation) : Prop where
  retired : ∀ k op g, operations.get? k = some op → op.Replaced g → Retired A credentials op.deviceId g
  once : ∀ k k' op op' g, operations.get? k = some op → operations.get? k' = some op' →
    op.deviceId = op'.deviceId → op.Replaced g → op'.Replaced g → k = k'
  evicted : ∀ k op g, operations.get? k = some op → g ∈ op.replaced → op.evicts ≠ some g
  current : ∀ k op c, operations.get? k = some op → op.current = some (.ok c) →
    c.deviceId = op.deviceId
  done : ∀ k op, operations.get? k = some op → op.Done

/-- A credential that an authentication has verified is active, or its device is being changed. -/
def Verified (stopping : Bool) (credentials : S) (authentications : Heap Authentication)
    (operations : Heap LifecycleOperation) : Prop :=
  ∀ a auth v, authentications.get? a = some auth → auth.stage = .verified (.ok v) → stopping = false →
    IsActive A credentials auth.deviceId (generationFromCredential v.credential) ∨
      ∃ k op, operations.get? k = some op ∧ op.deviceId = auth.deviceId ∧ op.isActive = true

/-- The counts are those of what is in progress. -/
structure Counted (ready mutations authentication : Counters DeviceId) (leases : OrderedMap ℕ DeviceId)
    (operations : Heap LifecycleOperation) (authentications : Heap Authentication) : Prop where
  ready : Counts ready fun d => leases.values.countP (· = d)
  mutations : Counts mutations fun d => operations.countP fun op => op.deviceId = d && op.isActive
  authentications : Counts authentication fun d =>
    authentications.countP fun auth => auth.deviceId = d && auth.isPending

structure Sound (options : RuntimeOptions) (log : List Effect) (w : ServerRuntime S) : Prop where
  justified : w.gateway.Justified options.gateway
  held : w.gateway.Leases
  consistent : Consistent w.registry
  valid : A.RecordsValid w.credentials
  leased : Leased log w.leases
  unrecorded : Unrecorded log w.credentialGenerationByIdentity w.validations
  recorded : Recorded A w.credentials w.leases w.credentialGenerationByIdentity w.validations
  counted : w.stopping = false → Counted w.sessionReadyCounts w.credentialMutationCounts
    w.authenticationCounts w.leases w.operations w.authentications
  excluded : Excluded w.stopping w.operations w.leases
  waiting : Waiting w.stopping w.sessionReadyCounts w.authenticationCounts w.operations
  left : Left w.stopping w.operations w.authentications
  entries : Entries A w.credentials w.registry w.operations
  replacements : Replacements A w.credentials w.operations
  verified : Verified A w.stopping w.credentials w.authentications w.operations

end

/-! ## Small changes -/

section
variable {S : Type} {A : Adapter S} {options : RuntimeOptions} {log : List Effect} {w : ServerRuntime S}

namespace Sound

/-- No operation is in progress for a device that is not counted. -/
theorem idle (h : Sound A options log w) (hstopping : w.stopping = false) {d : DeviceId}
    (hidle : ¬ w.isCredentialMutationActive d) {k : ℕ} {op : LifecycleOperation}
    (hop : w.operations.get? k = some op) (hdevice : op.deviceId = d) : op.isActive = false := by
  by_contra hactive
  refine hidle ?_
  unfold ServerRuntime.isCredentialMutationActive
  rw [(h.counted hstopping).mutations d]
  exact Heap.countP_pos.mpr ⟨k, op, hop, by simp [hdevice, hactive]⟩

theorem gateway (h : Sound A options log w) {gateway : Connections.World}
    (hjustified : gateway.Justified options.gateway) (hheld : gateway.Leases) :
    Sound A options log { w with gateway } :=
  { h with justified := hjustified, held := hheld }

theorem bindings (h : Sound A options log w) (bindings : OrderedMap ℕ Bool) :
    Sound A options log { w with bindings } := { h with }

theorem heartbeats (h : Sound A options log w)
    (heartbeats : OrderedMap ℕ Routing.Heartbeat.HeartbeatCall) :
    Sound A options log { w with heartbeats } := { h with }

/-! ### Hearing the gateway -/

theorem passes (h : Sound A options log w) {e : Effect}
    (hacquires : ∀ identity guard, e ≠ .acquires (some identity) (some guard))
    (hreleases : ∀ guard, e ≠ .releases guard) :
    Sound A options (log ++ [e]) w :=
  { h with
    leased := by
      intro n d
      rw [h.leased n d]
      constructor
      · rintro ⟨⟨identity, hmem, hd⟩, hnot⟩
        exact ⟨⟨identity, by simp [hmem], hd⟩, by simp [hnot, Ne.symm (hreleases n)]⟩
      · rintro ⟨⟨identity, hmem, hd⟩, hnot⟩
        refine ⟨⟨identity, ?_, hd⟩, fun h => hnot (by simp [h])⟩
        simpa [Ne.symm (hacquires _ _)] using hmem
    unrecorded := fun n hn => h.unrecorded n fun e' he' => hn e' (List.mem_append_left _ he') }

/-- A guard is given out for a device that no operation is counted for. -/
theorem acquires (h : Sound A options log w) {identity : AuthenticatedDeviceIdentity} {guard : ℕ}
    (hfresh : ∀ e ∈ log, e.guard ≠ some guard) (hstopping : w.stopping = false)
    (hidle : ¬ w.isCredentialMutationActive identity.deviceId) :
    Sound A options (log ++ [.acquires (some identity) (some guard)])
      (w.beginSessionReady identity.deviceId guard) := by
  have hnone : w.leases.get? guard = none := by
    cases hget : w.leases.get? guard with
    | none => rfl
    | some d =>
      obtain ⟨⟨identity', hmem, -⟩, -⟩ := (h.leased guard d).mp hget
      exact absurd rfl (hfresh _ hmem)
  have hunrecorded := h.unrecorded guard hfresh
  exact { h with
    leased := by
      intro n d
      show (w.leases.set guard identity.deviceId).get? n = some d ↔ _
      rw [OrderedMap.get?_set]
      by_cases hn : n = guard
      · subst hn
        simp only [if_true, Option.some.injEq, List.mem_append, List.mem_singleton]
        constructor
        · intro hd
          refine ⟨⟨identity, .inr rfl, hd⟩, ?_⟩
          rintro (hmem | heq)
          · exact hfresh _ hmem rfl
          · cases heq
        · rintro ⟨⟨identity', hmem | heq, hd⟩, -⟩
          · exact absurd rfl (hfresh _ hmem)
          · cases heq
            exact hd
      · rw [if_neg hn, h.leased n d]
        simp [hn]
    unrecorded := fun n hn => h.unrecorded n fun e' he' => hn e' (List.mem_append_left _ he')
    recorded := by
      intro n d
      show (w.leases.set guard identity.deviceId).get? n = some d → _
      rw [OrderedMap.get?_set]
      by_cases hn : n = guard
      · subst hn
        intro _
        refine ⟨fun g hg => ?_, fun v hv => ?_⟩
        · cases hunrecorded.1.symm.trans hg
        · cases hunrecorded.2.symm.trans hv
      · rw [if_neg hn]
        exact h.recorded n d
    counted := fun hs => { h.counted hs with
      ready := (h.counted hs).ready.increment fun d => by
        show (w.leases.set guard identity.deviceId).values.countP (· = d) = _
        rw [OrderedMap.countP_values_set_new _ _ _ hnone]
        simp [List.countP_singleton] }
    excluded := by
      intro k op hop hexcludes n
      show (w.leases.set guard identity.deviceId).get? n ≠ some op.deviceId
      rw [OrderedMap.get?_set]
      by_cases hn : n = guard
      · rw [if_pos hn]
        intro heq
        have hinactive := h.idle hstopping hidle hop (Option.some.inj heq).symm
        unfold LifecycleOperation.isActive at hinactive
        unfold LifecycleOperation.Excludes at hexcludes
        cases hstage : op.stage <;> simp [hstage] at hinactive hexcludes
      · rw [if_neg hn]
        exact h.excluded k op hop hexcludes n
    waiting := by
      intro k op hop
      obtain ⟨hready, hauthentication⟩ := h.waiting k op hop
      refine ⟨fun hstage => ⟨(hready hstage).1, ?_⟩, hauthentication⟩
      show 0 < (w.sessionReadyCounts.increment identity.deviceId).count op.deviceId
      rw [Counters.count_increment]
      exact Nat.lt_of_lt_of_le (hready hstage).2 (Nat.le_add_right _ _) }

end Sound

/-! ### Operations that stay what they are -/

/-- The operation has not got on with the store. -/
structure LifecycleOperation.Same (op op' : LifecycleOperation) : Prop where
  deviceId : op'.deviceId = op.deviceId
  replaced : op'.replaced = op.replaced
  evicts : op'.evicts = op.evicts
  isActive : op'.isActive = op.isActive
  current : ∀ c, op'.current = some (.ok c) → c.deviceId = op'.deviceId
  done : op'.Done

/-- What an operation is when nothing is in the way of it. -/
structure LifecycleOperation.Proper (op : LifecycleOperation) : Prop where
  current : ∀ c, op.current = some (.ok c) → c.deviceId = op.deviceId
  done : op.Done

theorem Sound.proper (h : Sound A options log w) {k : ℕ} {op : LifecycleOperation}
    (hop : w.operations.get? k = some op) : op.Proper :=
  ⟨fun c => h.replacements.current k op c hop, h.replacements.done k op hop⟩

/-- Each operation stays what it is. -/
structure SameOperations (operations operations' : Heap LifecycleOperation) : Prop where
  before : ∀ k op', operations'.get? k = some op' → ∃ op, operations.get? k = some op ∧ op.Same op'
  after : ∀ k op, operations.get? k = some op → ∃ op', operations'.get? k = some op' ∧ op.Same op'

theorem sameOperations_map {operations : Heap LifecycleOperation}
    {f : LifecycleOperation → LifecycleOperation}
    (hf : ∀ k op, operations.get? k = some op → op.Same (f op)) :
    SameOperations operations (operations.map f) where
  before := by
    intro k op' hop'
    obtain ⟨op, hop, rfl⟩ := Heap.get?_map_eq_some.mp hop'
    exact ⟨op, hop, hf k op hop⟩
  after := fun k op hop => ⟨f op, by rw [Heap.get?_map, hop]; rfl, hf k op hop⟩

theorem LifecycleOperation.Same.trans {op op' op'' : LifecycleOperation} (h : op.Same op')
    (h' : op'.Same op'') : op.Same op'' where
  deviceId := h'.deviceId.trans h.deviceId
  replaced := h'.replaced.trans h.replaced
  evicts := h'.evicts.trans h.evicts
  isActive := h'.isActive.trans h.isActive
  current := h'.current
  done := h'.done

theorem SameOperations.trans {operations operations' operations'' : Heap LifecycleOperation}
    (h : SameOperations operations operations') (h' : SameOperations operations' operations'') :
    SameOperations operations operations'' where
  before := by
    intro k op'' hop''
    obtain ⟨op', hop', hs'⟩ := h'.before k op'' hop''
    obtain ⟨op, hop, hs⟩ := h.before k op' hop'
    exact ⟨op, hop, hs.trans hs'⟩
  after := by
    intro k op hop
    obtain ⟨op', hop', hs⟩ := h.after k op hop
    obtain ⟨op'', hop'', hs'⟩ := h'.after k op' hop'
    exact ⟨op'', hop'', hs.trans hs'⟩

theorem SameOperations.proper {operations operations' : Heap LifecycleOperation}
    (h : SameOperations operations operations') (k : ℕ) (op' : LifecycleOperation)
    (hop' : operations'.get? k = some op') : op'.Proper := by
  obtain ⟨op, -, hs⟩ := h.before k op' hop'
  exact ⟨hs.current, hs.done⟩

theorem LifecycleOperation.Same.refl {op : LifecycleOperation} (h : op.Proper) : op.Same op :=
  ⟨rfl, rfl, rfl, rfl, h.current, h.done⟩

theorem Sound.sameOperations_modify (h : Sound A options log w) {k : ℕ}
    {f : LifecycleOperation → LifecycleOperation}
    (hf : ∀ op, w.operations.get? k = some op → op.Same (f op)) :
    SameOperations w.operations (w.operations.modify k f) where
  before := by
    intro j op' hop'
    obtain ⟨op, hop, hif⟩ := (Heap.get?_modify_eq_some _ _ _).mp hop'
    refine ⟨op, hop, ?_⟩
    by_cases hj : j = k
    · subst hj
      rw [if_pos rfl] at hif
      exact hif ▸ hf op hop
    · rw [if_neg hj] at hif
      exact hif ▸ .refl (h.proper hop)
  after := by
    intro j op hop
    by_cases hj : j = k
    · subst hj
      exact ⟨f op, by simp [hop], hf op hop⟩
    · exact ⟨op, by rw [Heap.get?_modify_ne _ hj, hop], .refl (h.proper hop)⟩

variable {credentials : S} {operations operations' : Heap LifecycleOperation}

theorem Entries.same {registry : DeviceSessionRegistry} (h : Entries A credentials registry operations)
    (hsame : SameOperations operations operations') : Entries A credentials registry operations' := by
  intro d entry hentry
  obtain ⟨g, hg, hactive | ⟨k, op, hop, hdevice, hevicts⟩⟩ := h d entry hentry
  · exact ⟨g, hg, .inl hactive⟩
  · obtain ⟨op', hop', hs⟩ := hsame.after k op hop
    exact ⟨g, hg, .inr ⟨k, op', hop', hs.deviceId.trans hdevice, hs.evicts.trans hevicts⟩⟩

theorem LifecycleOperation.Same.replaced_iff {op op' : LifecycleOperation} (h : op.Same op')
    (g : CredentialGeneration) : op'.Replaced g ↔ op.Replaced g := by
  unfold LifecycleOperation.Replaced
  rw [h.replaced, h.evicts]

theorem Replacements.same (h : Replacements A credentials operations)
    (hsame : SameOperations operations operations') : Replacements A credentials operations' where
  retired := by
    intro k op' g hop' hg
    obtain ⟨op, hop, hs⟩ := hsame.before k op' hop'
    rw [hs.deviceId]
    exact h.retired k op g hop ((hs.replaced_iff g).mp hg)
  once := by
    intro k k' op₁' op₂' g hop₁' hop₂' hdevice hg₁ hg₂
    obtain ⟨op₁, hop₁, hs₁⟩ := hsame.before k op₁' hop₁'
    obtain ⟨op₂, hop₂, hs₂⟩ := hsame.before k' op₂' hop₂'
    rw [hs₁.deviceId, hs₂.deviceId] at hdevice
    exact h.once k k' op₁ op₂ g hop₁ hop₂ hdevice ((hs₁.replaced_iff g).mp hg₁)
      ((hs₂.replaced_iff g).mp hg₂)
  evicted := by
    intro k op' g hop' hg
    obtain ⟨op, hop, hs⟩ := hsame.before k op' hop'
    rw [hs.evicts]
    exact h.evicted k op g hop (hs.replaced ▸ hg)
  current := by
    intro k op' c hop' hc
    obtain ⟨op, -, hs⟩ := hsame.before k op' hop'
    exact hs.current c hc
  done := by
    intro k op' hop'
    obtain ⟨op, -, hs⟩ := hsame.before k op' hop'
    exact hs.done

theorem Verified.same {stopping : Bool} {authentications : Heap Authentication}
    (h : Verified A stopping credentials authentications operations)
    (hsame : SameOperations operations operations') :
    Verified A stopping credentials authentications operations' := by
  intro a auth v hauth hstage hstopping
  obtain hactive | ⟨k, op, hop, hdevice, hactive⟩ := h a auth v hauth hstage hstopping
  · exact .inl hactive
  · obtain ⟨op', hop', hs⟩ := hsame.after k op hop
    exact .inr ⟨k, op', hop', hs.deviceId.trans hdevice, hs.isActive.trans hactive⟩

theorem SameOperations.countP (hsame : SameOperations operations operations') (d : DeviceId) :
    (operations.countP fun op => op.deviceId = d && op.isActive) =
      operations'.countP fun op => op.deviceId = d && op.isActive := by
  refine Heap.countP_congr fun k => ?_
  cases hop : operations.get? k with
  | none =>
    cases hop' : operations'.get? k with
    | none => rfl
    | some op' =>
      obtain ⟨op, hsome, -⟩ := hsame.before k op' hop'
      rw [hop] at hsome
      cases hsome
  | some op =>
    obtain ⟨op', hop', hs⟩ := hsame.after k op hop
    rw [hop', Option.map_some, Option.map_some, hs.deviceId, hs.isActive]

/-- Operations move, none of them with the store. -/
theorem Sound.moves (h : Sound A options log w) (hsame : SameOperations w.operations operations')
    (hexcluded : Excluded w.stopping operations' w.leases)
    (hwaiting : Waiting w.stopping w.sessionReadyCounts w.authenticationCounts operations')
    (hleft : Left w.stopping operations' w.authentications) :
    Sound A options log { w with operations := operations' } :=
  { h with
    counted := fun hs => { h.counted hs with
      mutations := fun d => by
        rw [(h.counted hs).mutations d]
        exact hsame.countP d }
    excluded := hexcluded
    waiting := hwaiting
    left := hleft
    entries := h.entries.same hsame
    replacements := h.replacements.same hsame
    verified := h.verified.same hsame }

theorem Sound.sameOperations_refl (h : Sound A options log w) : SameOperations w.operations w.operations where
  before := fun _ op' hop' => ⟨op', hop', .refl (h.proper hop')⟩
  after := fun _ op hop => ⟨op, hop, .refl (h.proper hop)⟩

/-! ### The guards are drained -/

theorem drained_cases (p : DeviceId → Bool) (op : LifecycleOperation) :
    (op.stage = .draining ∧ p op.deviceId = true ∧
        LifecycleOperation.drained p op = { op with stage := .drained }) ∨
      (¬ (op.stage = .draining ∧ p op.deviceId = true) ∧
        LifecycleOperation.drained p op = op) := by
  unfold LifecycleOperation.drained
  by_cases hp : p op.deviceId = true ∧ op.stage = .draining
  · exact .inl ⟨hp.2, hp.1, if_pos hp⟩
  · exact .inr ⟨fun h => hp h.symm, if_neg hp⟩

theorem no_lease_of_count {leases : OrderedMap ℕ DeviceId} {d : DeviceId}
    (h : leases.values.countP (· = d) = 0) (n : ℕ) : leases.get? n ≠ some d := by
  intro hn
  have hmem := (OrderedMap.mem_values_iff leases d).mpr ⟨n, hn⟩
  simpa using List.countP_eq_zero.mp h d hmem

theorem sameOperations_drained (hproper : ∀ k op, operations.get? k = some op → op.Proper)
    (p : DeviceId → Bool) : SameOperations operations (operations.map (LifecycleOperation.drained p)) := by
  refine sameOperations_map fun k op hop => ?_
  replace hproper := hproper k op hop
  rcases drained_cases p op with ⟨hdraining, -, heq⟩ | ⟨-, heq⟩
  · rw [heq]
    exact ⟨rfl, rfl, by simp [LifecycleOperation.evicts, hdraining],
      by simp [LifecycleOperation.isActive, hdraining], hproper.current, fun _ => trivial⟩
  · rw [heq]
    exact .refl hproper

theorem Sound.releases_with (h : Sound A options log w) {guard : ℕ} {d : DeviceId}
    (hget : w.leases.get? guard = some d) (hsame : SameOperations w.operations operations')
    (hexcluded : Excluded w.stopping operations' (w.leases.delete guard))
    (hwaiting : Waiting w.stopping (w.sessionReadyCounts.decrement d) w.authenticationCounts operations')
    (hleft : Left w.stopping operations' w.authentications) :
    Sound A options (log ++ [.releases guard])
      { w with
        leases := w.leases.delete guard
        sessionReadyCounts := w.sessionReadyCounts.decrement d
        operations := operations' } :=
  { h with
    leased := by
      intro n d'
      show (w.leases.delete guard).get? n = some d' ↔ _
      rw [OrderedMap.get?_delete]
      by_cases hn : n = guard
      · simp [hn]
      · rw [if_neg hn, h.leased n d']
        simp [hn]
    unrecorded := fun n hn => h.unrecorded n fun e' he' => hn e' (List.mem_append_left _ he')
    recorded := by
      intro n d'
      show (w.leases.delete guard).get? n = some d' → _
      rw [OrderedMap.get?_delete]
      by_cases hn : n = guard
      · simp [hn]
      · rw [if_neg hn]
        exact h.recorded n d'
    counted := fun hs => { h.counted hs with
      ready := (h.counted hs).ready.decrement fun d' => by
        have hdelete := OrderedMap.countP_values_delete w.leases (fun d'' => decide (d'' = d')) hget
        simpa [List.countP_singleton] using hdelete
      mutations := fun d' => by
        rw [(h.counted hs).mutations d']
        exact hsame.countP d' }
    excluded := hexcluded
    waiting := hwaiting
    left := hleft
    entries := h.entries.same hsame
    replacements := h.replacements.same hsame
    verified := h.verified.same hsame }

theorem Sound.releases (h : Sound A options log w) (guard : ℕ) :
    Sound A options (log ++ [.releases guard]) (w.release guard) := by
  unfold ServerRuntime.release
  cases hget : w.leases.get? guard with
  | none =>
    exact { h with
      leased := by
        intro n d
        by_cases hn : n = guard
        · subst hn
          rw [hget]
          simp
        · rw [h.leased n d]
          simp [hn]
      unrecorded := fun n hn => h.unrecorded n fun e' he' => hn e' (List.mem_append_left _ he') }
  | some d =>
    dsimp only
    have hfewer : ∀ n d', (w.leases.delete guard).get? n = some d' → w.leases.get? n = some d' := by
      intro n d' hn
      rw [OrderedMap.get?_delete] at hn
      split_ifs at hn
      exact hn
    have hother : ∀ d', d' ≠ d →
        (w.sessionReadyCounts.decrement d).count d' = w.sessionReadyCounts.count d' := by
      intro d' hd
      rw [Counters.count_decrement, if_neg (Ne.symm hd), Nat.sub_zero]
    split
    case isTrue hhas =>
      refine h.releases_with hget h.sameOperations_refl ?_ ?_ h.left
      · exact fun k op hop hexcludes n hn => h.excluded k op hop hexcludes n (hfewer n _ hn)
      · intro k op hop
        refine ⟨fun hstage => ⟨((h.waiting k op hop).1 hstage).1, ?_⟩, (h.waiting k op hop).2⟩
        by_cases hd : op.deviceId = d
        · rw [hd]
          exact Counters.count_pos_of_has_decrement hhas
        · rw [hother _ hd]
          exact ((h.waiting k op hop).1 hstage).2
    case isFalse hhas =>
      refine h.releases_with hget (sameOperations_drained (fun _ _ => h.proper) _) ?_ ?_ ?_
      · intro k op' hop' hexcludes n hn
        obtain ⟨op, hop, rfl⟩ := Heap.get?_map_eq_some.mp hop'
        rcases drained_cases (fun d' => decide (d' = d)) op with ⟨hdraining, hp, heq⟩ | ⟨-, heq⟩
        · -- the count of the device is down to zero, so that no guard is left
          rw [heq] at hn
          have hd : op.deviceId = d := of_decide_eq_true hp
          have hstopping := ((h.waiting k op hop).1 hdraining).1
          have hcount := (h.counted hstopping).ready.decrement
            (fun d' => by
              have hdelete := OrderedMap.countP_values_delete w.leases (fun d'' => decide (d'' = d')) hget
              simpa [List.countP_singleton] using hdelete) d
          rw [Counters.count_of_not_has (Bool.eq_false_of_not_eq_true hhas)] at hcount
          exact no_lease_of_count hcount.symm n (hd ▸ hn)
        · rw [heq] at hexcludes hn
          exact h.excluded k op hop hexcludes n (hfewer n _ hn)
      · intro k op' hop'
        obtain ⟨op, hop, rfl⟩ := Heap.get?_map_eq_some.mp hop'
        rcases drained_cases (fun d' => decide (d' = d)) op with ⟨hdraining, hp, heq⟩ | ⟨hnot, heq⟩
        · rw [heq]
          simp
        · rw [heq]
          refine ⟨fun hstage => ⟨((h.waiting k op hop).1 hstage).1, ?_⟩, (h.waiting k op hop).2⟩
          rw [hother _ fun hd => hnot ⟨hstage, decide_eq_true hd⟩]
          exact ((h.waiting k op hop).1 hstage).2
      · intro k op' succeeds hop' hstage
        obtain ⟨op, hop, rfl⟩ := Heap.get?_map_eq_some.mp hop'
        rcases drained_cases (fun d' => decide (d' = d)) op with ⟨-, -, heq⟩ | ⟨-, heq⟩
        · rw [heq] at hstage
          cases hstage
        · rw [heq] at hstage ⊢
          exact h.left k op succeeds hop hstage

end
end Doctmcp.Runtime

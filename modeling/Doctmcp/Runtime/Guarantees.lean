import Doctmcp.Credential.Conformance
import Doctmcp.Runtime.Continuation

/-! # What the runtime guarantees

Over every run of the runtime, with any repository that keeps the contract of the credential stores: what
the registry admits, what an operation that has returned has made an end of, whom a hook lets in, and what
an operation waits for. -/

namespace Doctmcp.Runtime
open Doctmcp.Lib Doctmcp.Lib.Operation Doctmcp.Schemas Doctmcp.Gateway Doctmcp.Credential Doctmcp.Routing
open Doctmcp.Gateway.Connections (Effect Readings)
open Doctmcp.Routing.DeviceSessionRegistry
set_option autoImplicit false

section
variable {S : Type} {A : Adapter S} {options : RuntimeOptions} {w : ServerRuntime S}

theorem sound_new {credentials : S} (h : A.RecordsValid credentials) :
    Sound A options [] (ServerRuntime.new credentials) where
  justified := Connections.justified_new
  held := Connections.leases_new
  consistent := consistent_new
  valid := h
  leased := by simp [Leased, ServerRuntime.new]
  unrecorded := by simp [Unrecorded, ServerRuntime.new]
  recorded := by simp [Recorded, ServerRuntime.new]
  counted := fun _ => ⟨fun d => rfl, fun d => rfl, fun d => rfl⟩
  excluded := by simp [Excluded, ServerRuntime.new]
  waiting := by simp [Waiting, ServerRuntime.new]
  left := by simp [Left, ServerRuntime.new]
  entries := by simp [Entries, ServerRuntime.new, DeviceSessionRegistry.new]
  replacements := by constructor <;> simp [ServerRuntime.new]
  verified := by simp [Verified, ServerRuntime.new]

variable (options) in
theorem sound_run (hA : A.Contract) {credentials : S} (h : A.RecordsValid credentials) (events : List Event) :
    let w := runFrom (ServerRuntime.step A options) (.new credentials) events
    Sound A options w.gateway.log w :=
  runFrom_invariant (P := fun w => Sound A options w.gateway.log w) (fun _ event hw => hw.step hA event)
    (sound_new h) events

end

/-! ## A laptop

It has a credential; it connects, and then its credential is revoked. -/

namespace Laptop

def deviceId : DeviceId := ⟨"1a970900-0000-4000-8000-000000000001", by decide, by decide⟩

def credentialId : CredentialId := ⟨"c4ede000-0000-4000-8000-000000000001", by decide, by decide⟩

def record : StoredCredential :=
  ⟨credentialId, deviceId, 1, digestDeviceCredentialSecret "secret", 0, .active, none⟩

def store : InMemoryDeviceCredentialRepository :=
  ⟨OrderedMap.empty.set deviceId record, [credentialId]⟩

theorem recordsValid : InMemoryDeviceCredentialRepository.adapter.RecordsValid store := by
  intro d r hr
  change (OrderedMap.empty.set deviceId record).get? d = some r at hr
  rw [OrderedMap.get?_set] at hr
  split_ifs at hr with hd
  · cases hr
    exact ⟨hd.symm, record.valid_iff.mpr (by simp [record, maxSafeInteger])⟩
  · cases hr

def options : RuntimeOptions :=
  ⟨⟨1000, 4000, by decide, by decide, by decide, by decide⟩, .default, by decide, 1000, 1000⟩

def readings : Readings := ⟨0, credentialId, .none, true, true, true⟩

def handshake : List Event :=
  [.createDevice ⟨deviceId, "owner", "laptop", ⟨"linux-x64", none, none⟩, 0, 0⟩,
    .gateway (.upgrade true) readings, .gateway (.opened 0) readings,
    .gateway (.message 0 (.ok (.hello ⟨"1", "session", some ⟨deviceId, "secret"⟩⟩))) readings,
    .authenticateDevice 0, .verified 0, .authenticated 0, .identity 0 readings, .validation 0,
    .validated 0 readings, .session 0 ⟨some 0, "registration"⟩ readings, .bound 0 true readings]

def revocation : List Event :=
  [.operation .revoke deviceId, .readCurrent 0, .enter 0, .run 0, .replace 0 ⟨credentialId, ""⟩ (some 1),
    .evict 0 readings, .published 0, .leave 0]

end Laptop

section
variable {S : Type} {A : Adapter S} {options : RuntimeOptions} {w : ServerRuntime S}

/-! ## Sessions and operations -/

variable (options) in
/-- No session outlives its credential: the generation of a registered session is active, unless an
operation of the device has replaced it and is about to evict the session. -/
theorem entries_run (hA : A.Contract) {credentials : S} (h : A.RecordsValid credentials)
    (events : List Event) :
    let w := runFrom (ServerRuntime.step A options) (.new credentials) events
    Entries A w.credentials w.registry w.operations :=
  (sound_run options hA h events).entries

theorem entries_run_handshake :
    let w := runFrom (ServerRuntime.step InMemoryDeviceCredentialRepository.adapter Laptop.options)
      (.new Laptop.store) Laptop.handshake
    Entries InMemoryDeviceCredentialRepository.adapter w.credentials w.registry w.operations :=
  entries_run Laptop.options InMemoryDeviceCredentialRepository.contract Laptop.recordsValid Laptop.handshake

/-- A handshake holds a guard that it acquired for the device. -/
def ServerRuntime.Readies (w : ServerRuntime S) (d : DeviceId) : Prop :=
  ∃ i guard identity, w.gateway.heldBy i = some guard ∧
    .acquires (some identity) (some guard) ∈ w.gateway.log ∧ identity.deviceId = d

/-- An authentication of the device is pending. -/
def ServerRuntime.Authenticates (w : ServerRuntime S) (d : DeviceId) : Prop :=
  ∃ a auth, w.authentications.get? a = some auth ∧ auth.deviceId = d ∧ auth.isPending = true

theorem Sound.readies_iff (h : Sound A options w.gateway.log w) (d : DeviceId) :
    w.Readies d ↔ ∃ guard, w.leases.get? guard = some d := by
  constructor
  · rintro ⟨i, guard, identity, hheld, hacquired, hd⟩
    exact ⟨guard, (h.leased guard d).mpr ⟨⟨identity, hacquired, hd⟩, h.held.not_released hheld⟩⟩
  · rintro ⟨guard, hlease⟩
    obtain ⟨⟨identity, hacquired, hd⟩, hreleased⟩ := (h.leased guard d).mp hlease
    obtain ⟨i, hheld⟩ := h.held.holder hacquired hreleased
    exact ⟨i, guard, identity, hheld, hacquired, hd⟩

/-- The handshakes of a device and what replaces its credential keep out of each other's way: none is
ready-bound while an operation may change the store, and an operation waits only for one that is there. -/
structure ServerRuntime.Drains (w : ServerRuntime S) : Prop where
  excludes : ∀ k op, w.operations.get? k = some op →
    (op.stage = .running ∨ (∃ g, op.stage = .evicting g) ∨ ∃ g, op.stage = .publishing g) →
      ¬ w.Readies op.deviceId
  waits : ∀ k op, w.operations.get? k = some op → op.stage = .draining → w.Readies op.deviceId
  lasts : ∀ k op succeeds, w.operations.get? k = some op → op.stage = .authenticationDraining succeeds →
    w.Authenticates op.deviceId

variable (options) in
/-- However handshakes, authentications and operations interleave, a credential is replaced only while no
handshake of its device is ready-bound, and no operation waits for what is over. -/
theorem drains_run (hA : A.Contract) {credentials : S} (h : A.RecordsValid credentials)
    (events : List Event) :
    (runFrom (ServerRuntime.step A options) (.new credentials) events).Drains := by
  have hsound := sound_run options hA h events
  generalize runFrom (ServerRuntime.step A options) (.new credentials) events = w at hsound
  constructor
  · intro k op hop hstage hreadies
    obtain ⟨guard, hlease⟩ := (hsound.readies_iff _).mp hreadies
    refine hsound.excluded k op hop ?_ guard hlease
    unfold LifecycleOperation.Excludes
    obtain hstage | ⟨g, hstage⟩ | ⟨g, hstage⟩ := hstage <;> simp [hstage]
  · intro k op hop hstage
    obtain ⟨hs, hpos⟩ := (hsound.waiting k op hop).1 hstage
    rw [(hsound.counted hs).ready] at hpos
    obtain ⟨d, hmem, hd⟩ := List.countP_pos_iff.mp hpos
    obtain ⟨guard, hlease⟩ := (OrderedMap.mem_values_iff _ _).mp hmem
    exact (hsound.readies_iff _).mpr ⟨guard, (of_decide_eq_true hd) ▸ hlease⟩
  · intro k op succeeds hop hstage
    obtain ⟨hs, hpos⟩ := (hsound.waiting k op hop).2 succeeds hstage
    rw [(hsound.counted hs).authentications] at hpos
    obtain ⟨a, auth, hauth, hboth⟩ := Heap.countP_pos.mp hpos
    exact ⟨a, auth, hauth, by simpa using hboth⟩

/-- A revocation that comes while the handshake validates waits for it. -/
theorem drains_run_revocation :
    let w := runFrom (ServerRuntime.step InMemoryDeviceCredentialRepository.adapter Laptop.options)
      (.new Laptop.store) (Laptop.handshake.take 8 ++ Laptop.revocation.take 3)
    (w.operations.get? 0).map (·.stage) = some .draining ∧ w.Drains :=
  ⟨by decide +kernel, drains_run Laptop.options InMemoryDeviceCredentialRepository.contract
    Laptop.recordsValid (Laptop.handshake.take 8 ++ Laptop.revocation.take 3)⟩

/-! ## Hooks -/

theorem Sound.mutationActive_iff (h : Sound A options w.gateway.log w) (hs : w.stopping = false)
    (d : DeviceId) : w.isCredentialMutationActive d ↔
      ∃ k op, w.operations.get? k = some op ∧ op.deviceId = d ∧ op.isActive = true := by
  unfold ServerRuntime.isCredentialMutationActive
  rw [(h.counted hs).mutations d, Heap.countP_pos]
  simp

/-- A hook lets a device in. -/
def ServerRuntime.Admits (w : ServerRuntime S) (d : DeviceId) : Prop :=
  w.stopping = false ∧ ∀ k op, w.operations.get? k = some op → op.deviceId = d → op.isActive = false

theorem Sound.admits_iff (h : Sound A options w.gateway.log w) (d : DeviceId) :
    w.Admits d ↔ ¬ (w.stopping = true ∨ w.isCredentialMutationActive d) := by
  unfold ServerRuntime.Admits
  cases hs : w.stopping with
  | true => simp
  | false =>
    rw [h.mutationActive_iff hs d]
    simp

/-- What the answer of the store to an authentication comes to: the identity, where the device may be let
in, and then the credential is active now. -/
def ServerRuntime.Accepts (A : Adapter S) (w : ServerRuntime S) (a : ℕ) : Prop :=
  ∀ i d secret result identity, w.authentications.get? a = some ⟨i, d, secret, .verified result⟩ →
    (((w.onAuthenticated a).authentications.get? a).map (·.stage) = some (.settled (.ok identity)) ↔
      w.Admits d ∧ ∃ v, result = .ok v ∧ v.identity = identity) ∧
    (w.Admits d → ∀ v, result = .ok v →
      IsActive A w.credentials d (generationFromCredential v.credential))

theorem Sound.accepts (h : Sound A options w.gateway.log w) (a : ℕ) : w.Accepts A a := by
  intro i d secret result identity hget
  constructor
  · have hsettled : ((w.onAuthenticated a).authentications.get? a).map (·.stage) =
        some (.settled (w.settles d result)) := by
      unfold ServerRuntime.onAuthenticated
      rw [hget]
      dsimp only
      unfold ServerRuntime.endAuthentication ServerRuntime.setAuthentication
      dsimp only
      split <;> simp [hget]
    rw [hsettled, h.admits_iff]
    unfold ServerRuntime.settles
    cases result with
    | error e => simp
    | ok v =>
      by_cases hbusy : w.stopping = true ∨ w.isCredentialMutationActive d
      · simp [hbusy]
      · simp [hbusy]
  · rintro hadmits v rfl
    obtain hactive | ⟨k, op, hop, hdevice, hbusy⟩ := h.verified a _ v hget rfl hadmits.1
    · exact hactive
    · rw [hadmits.2 k op hop hdevice] at hbusy
      cases hbusy

variable (options) in
/-- A device is authenticated with a credential that is active when the authentication returns, whatever
has happened since the store verified it. -/
theorem accepts_run (hA : A.Contract) {credentials : S} (h : A.RecordsValid credentials)
    (events : List Event) (a : ℕ) :
    (runFrom (ServerRuntime.step A options) (.new credentials) events).Accepts A a :=
  (sound_run options hA h events).accepts a

theorem accepts_run_handshake :
    (runFrom (ServerRuntime.step InMemoryDeviceCredentialRepository.adapter Laptop.options)
      (.new Laptop.store) (Laptop.handshake.take 6)).Accepts InMemoryDeviceCredentialRepository.adapter 0 :=
  accepts_run Laptop.options InMemoryDeviceCredentialRepository.contract Laptop.recordsValid
    (Laptop.handshake.take 6) 0

/-! ## Replaced generations -/

/-- The generation of the device is over. -/
structure ServerRuntime.Ended (A : Adapter S) (w : ServerRuntime S) (d : DeviceId)
    (generation : CredentialGeneration) : Prop where
  inactive : ¬ IsActive A w.credentials d generation
  unregistered : ∀ entry, w.registry.byDeviceId.get? d = some entry → ¬ Has entry generation
  unbound : ∀ guard, w.leases.get? guard = some d →
    w.credentialGenerationByIdentity.get? guard ≠ some generation
  refused : ∀ a auth v, w.authentications.get? a = some auth → auth.deviceId = d →
    auth.stage = .verified (.ok v) → generationFromCredential v.credential = generation → ¬ w.Admits d

theorem Sound.ended (h : Sound A options w.gateway.log w) {k : ℕ} {op : LifecycleOperation}
    {g : CredentialGeneration} (hop : w.operations.get? k = some op) (hmem : g ∈ op.replaced) :
    w.Ended A op.deviceId g := by
  have hinactive := (h.replacements.retired k op g hop (.inl hmem)).not_active
  constructor
  · exact hinactive
  · intro entry hentry hhas
    obtain ⟨g', hg', hactive | ⟨k', op', hop', hdevice, hevicts⟩⟩ := h.entries _ entry hentry
    · exact hinactive (hhas.unique hg' ▸ hactive)
    · rw [← hhas.unique hg'] at hevicts
      obtain rfl := h.replacements.once k k' op op' g hop hop' hdevice.symm (.inl hmem) (.inr hevicts)
      rw [hop] at hop'
      cases hop'
      exact h.replacements.evicted k op g hop hmem hevicts
  · intro guard hlease hbound
    exact hinactive ((h.recorded guard _ hlease).1 g hbound)
  · rintro a auth v hauth hdevice hstage rfl hadmits
    obtain hactive | ⟨k', op', hop', hdevice', hbusy⟩ := h.verified a auth v hauth hstage hadmits.1
    · exact hinactive (hdevice ▸ hactive)
    · rw [hadmits.2 k' op' hop' (hdevice'.trans hdevice)] at hbusy
      cases hbusy

variable (options) in
/-- When a revocation or a rotation has returned, the credential that it read is over, then and after
whatever follows. -/
theorem returned_run (hA : A.Contract) {credentials : S} (h : A.RecordsValid credentials)
    (before after : List Event) {k : ℕ} {op : LifecycleOperation}
    (hop : (runFrom (ServerRuntime.step A options) (.new credentials) before).operations.get? k = some op)
    (hkind : op.kind ≠ .completion) (hreturned : op.stage = .returned true) :
    ∃ c, op.current = some (.ok c) ∧
      (runFrom (ServerRuntime.step A options) (.new credentials) (before ++ after)).Ended A op.deviceId
        (generationFromCredential c) := by
  have hdone := ((sound_run options hA h before).proper hop).done hkind
  rw [hreturned] at hdone
  obtain ⟨g, hmem, c, hc, rfl⟩ := hdone
  refine ⟨c, hc, ?_⟩
  have hsound := sound_run options hA h (before ++ after)
  rw [runFrom_append] at hsound ⊢
  obtain ⟨op', hop', hcontinues⟩ := continues_run A options
    (runFrom (ServerRuntime.step A options) (.new credentials) before) after k op hop
  rw [← hcontinues.deviceId]
  exact hsound.ended hop' (hcontinues.replaced _ hmem)

theorem returned_run_revocation : ∃ op c,
    (runFrom (ServerRuntime.step InMemoryDeviceCredentialRepository.adapter Laptop.options)
      (.new Laptop.store) (Laptop.handshake ++ Laptop.revocation)).operations.get? 0 = some op ∧
    op.current = some (.ok c) ∧
    (runFrom (ServerRuntime.step InMemoryDeviceCredentialRepository.adapter Laptop.options)
      (.new Laptop.store) ((Laptop.handshake ++ Laptop.revocation) ++ Laptop.handshake)).Ended
        InMemoryDeviceCredentialRepository.adapter op.deviceId (generationFromCredential c) := by
  have hreturned : ((runFrom (ServerRuntime.step InMemoryDeviceCredentialRepository.adapter Laptop.options)
      (.new Laptop.store) (Laptop.handshake ++ Laptop.revocation)).operations.get? 0).map
        (fun op => (op.kind, op.stage)) = some (.revoke, .returned true) := by
    decide +kernel
  obtain ⟨op, hop, hboth⟩ := Option.map_eq_some_iff.mp hreturned
  obtain ⟨hkind, hstage⟩ := Prod.mk.inj hboth
  obtain ⟨c, hc, hended⟩ := returned_run Laptop.options InMemoryDeviceCredentialRepository.contract
    Laptop.recordsValid (Laptop.handshake ++ Laptop.revocation) Laptop.handshake hop (by simp [hkind]) hstage
  exact ⟨op, c, hop, hc, hended⟩

end
end Doctmcp.Runtime

import Doctmcp.Lib.Automaton
import Doctmcp.Gateway.Moves

/-! # The handshakes of the gateway

What has to have happened when a session is created, in any interleaving of any number of handshakes, and
what becomes of the guards that `beginSessionReady` returns. -/

namespace Doctmcp.Gateway.Connections
open Doctmcp.Lib Doctmcp.Schemas Relation
open Doctmcp.Bridge (JSONRPCMessage BridgeErrorCode BridgeCloseCode CloseReason)
set_option autoImplicit false

/-- The connection has a socket. -/
def World.HasSocket (w : World) (ref : ℕ) : Prop :=
  ∃ c, w.connections.get? ref = some c ∧ c.ws = true

section
variable (options : BridgeGatewayOptions)

/-! ## What a session is created on -/

/-- The identity is what `authenticate` makes of a hello of this version of the protocol. -/
def Authentic (hello : BridgeHello) (identity : Option AuthenticatedDeviceIdentity) : Prop :=
  hello.bridgeProtocolVersion = BRIDGE_PROTOCOL_VERSION ∧
    ∃ result, authenticate options hello result = .ok identity

/-- What is known of an entry of the log from the entries before it. -/
def Founded (before : List Effect) : Effect → Prop
  | .authenticates _ hello identity => Authentic options hello identity
  | .validates ref hello identity guard => Guarded options before ref hello (some identity) guard
  | .creates session guard => Entitled options before session guard
  | _ => True

structure World.Justified (w : World) : Prop where
  founded : EachAfter (Founded options) w.log
  waits : ∀ i call, w.calls.get? i = some call → w.Waits options call
  socket : ∀ ref hello identity, .authenticates ref hello identity ∈ w.log → w.HasSocket ref

variable {options} {clean : Prop} {grants : Grants} {w w' : World}

theorem Move.log_mono (h : Move options clean grants w w') {e : Effect} (he : e ∈ w.log) : e ∈ w'.log := by
  cases h with
  | ends ref c f gone fallback => simp [World.log_ends, he]
  | releases i call => simp [World.log_release, he]
  | _ => simp [World.createSession, he]

theorem Move.hasSocket (h : Move options clean grants w w') {ref : ℕ} (hsocket : w.HasSocket ref) :
    w'.HasSocket ref := by
  obtain ⟨c, hc, hws⟩ := hsocket
  have hmodify : ∀ (ref' : ℕ) (f : GatewayConnection → GatewayConnection),
      (∀ c, w.connections.get? ref' = some c → c.ws = true → (f c).ws = true) →
        ∃ c, (w.connections.modify ref' f).get? ref = some c ∧ c.ws = true := by
    intro ref' f hf
    rw [Heap.get?_modify, hc]
    by_cases href : ref = ref'
    · rw [if_pos href]
      exact ⟨f c, rfl, hf c (href ▸ hc) hws⟩
    · rw [if_neg href]
      exact ⟨c, rfl, hws⟩
  cases h with
  | connects listed => exact ⟨c, Heap.get?_alloc_of_some hc _, hws⟩
  | touches ref' f hf => exact hmodify ref' f fun c hc => (hf c hc).ws
  | leaves ref' c' code => exact hmodify ref' _ fun _ _ h => h
  | ends ref' c' f gone fallback hc' hopen hf =>
    unfold World.HasSocket
    rw [World.connections_ends, World.connections_forget]
    refine hmodify ref' f fun c'' hc'' => ?_
    rw [hc'] at hc''
    cases hc''
    exact hf.ws
  | readies i c' session guard now =>
    refine hmodify session.connection _ fun c'' _ h => ?_
    exact (World.armReadyIdleTimeout_touch _ _).ws h
  | releases i call =>
    unfold World.HasSocket
    simpa using ⟨c, hc, hws⟩
  | _ => exact ⟨c, hc, hws⟩

theorem Move.guarded (h : Move options clean grants w w') {ref : ℕ} {hello : BridgeHello}
    {identity : Option AuthenticatedDeviceIdentity} {guard : Option ℕ}
    (hguarded : Guarded options w.log ref hello identity guard) :
    Guarded options w'.log ref hello identity guard :=
  ⟨h.log_mono hguarded.1, fun hbegin => h.log_mono (hguarded.2 hbegin)⟩

theorem Move.keeps_waits (h : Move options clean grants w w') {call : Call}
    (hwaits : w.Waits options call) : w'.Waits options call := by
  cases call with
  | authenticating ref hello => exact ⟨hwaits.1, h.hasSocket hwaits.2⟩
  | validating ref hello identity guard => exact h.guarded hwaits
  | binding session guard => exact h.log_mono hwaits
  | _ => trivial

/-- A call that is there after a move was there before it, or it waits as it may. -/
theorem Move.call (h : Move options clean grants w w') {i : ℕ} {call : Call}
    (hcall : w'.calls.get? i = some call) : w.calls.get? i = some call ∨ w.Waits options call := by
  have hset : ∀ (j : ℕ) (call' : Call), w.Waits options call' →
      (w.calls.modify j fun _ => call').get? i = some call → w.calls.get? i = some call ∨ w.Waits options call := by
    intro j call' hwaits hcall
    obtain ⟨old, hold, hif⟩ := (Heap.get?_modify_eq_some _ _ _).mp hcall
    by_cases hi : i = j
    · rw [if_pos hi] at hif
      exact .inr (hif ▸ hwaits)
    · rw [if_neg hi] at hif
      exact .inl (hif ▸ hold)
  have hpush : ∀ call' : Call, w.Waits options call' → (w.calls.alloc call').get? i = some call →
      w.calls.get? i = some call ∨ w.Waits options call := by
    intro call' hwaits hcall
    rcases (Heap.get?_alloc_eq_some _ _).mp hcall with ⟨-, rfl⟩ | hcall
    · exact .inr hwaits
    · exact .inl hcall
  cases h with
  | waits call' hwaits => exact hpush call' hwaits hcall
  | proceeds j old call' hold hwaits => exact hset j call' hwaits hcall
  | acquires j ref hello => exact hset j _ (by trivial) hcall
  | declines j ref hello => exact hset j _ (by trivial) hcall
  | releases j old hold =>
    rw [World.calls_release] at hcall
    exact hset j _ (by trivial) hcall
  | reports j session reason => exact hset j _ (by trivial) hcall
  | ends ref c f gone fallback =>
    cases hsession : c.session with
    | none =>
      rw [hsession, World.calls_ends_none, World.calls_forget] at hcall
      exact .inl hcall
    | some session =>
      rw [hsession, World.calls_ends_some, World.calls_forget] at hcall
      exact hpush _ (by trivial) hcall
  | drops => exact .inl (by simpa using hcall)
  | _ => exact .inl hcall

theorem Move.founded (h : Move options clean grants w w') (hw : w.Justified options) :
    EachAfter (Founded options) w'.log := by
  have hkeep := hw.founded
  cases h with
  | leaves ref c code frames =>
    refine hkeep.append fun e he before => ?_
    rcases List.mem_cons.mp he with rfl | he
    · trivial
    · split at he
      · simp only [List.mem_append, List.mem_map, List.mem_singleton] at he
        obtain ⟨frame, -, rfl⟩ | rfl := he <;> trivial
      · cases he
  | ends ref c f gone fallback =>
    rw [World.log_ends, World.log_forget]
    refine hkeep.append fun e he before => ?_
    simp only [List.mem_cons, Option.mem_toList, Option.map_eq_some_iff] at he
    obtain rfl | ⟨session, -, rfl⟩ := he <;> trivial
  | drops session => exact hkeep
  | tells ref c effect hc hopen hclosing hhandshaking heffect =>
    refine hkeep.concat ?_
    cases effect <;> trivial
  | authenticates i ref hello result identity hcall hresult =>
    exact hkeep.concat ⟨(hw.waits i _ hcall).1, result, hresult⟩
  | acquires i ref hello => exact hkeep.concat (by trivial)
  | declines i ref hello => exact hkeep.concat (by trivial)
  | validates i ref hello identity guard hcall => exact hkeep.concat (hw.waits i _ hcall)
  | readies i c session guard now hcall hc hopen hstate hfree hobject hentitled =>
    have hcreates : EachAfter (Founded options) (w.log ++ [.creates session guard]) :=
      hkeep.concat hentitled
    have hlog : ((w.createSession options session guard now).emit [.acks session guard]).log =
        (w.log ++ [.creates session guard]) ++
          [.enters session.connection .ready, .acks session guard] := by
      simp [World.createSession]
    rw [hlog]
    refine hcreates.append fun e he before => ?_
    simp only [List.mem_cons, List.not_mem_nil, or_false] at he
    obtain rfl | rfl := he <;> trivial
  | releases i call =>
    rw [World.log_release]
    refine hkeep.append fun e he before => ?_
    simp only [Option.mem_toList, Option.map_eq_some_iff] at he
    obtain ⟨guard, -, rfl⟩ := he
    trivial
  | reports i session reason => exact hkeep.concat (by trivial)
  | _ => exact hkeep

/-- Only a call that waits for the answer of `authenticate` learns of an identity. -/
theorem Move.socket (h : Move options clean grants w w') (hw : w.Justified options) {ref : ℕ}
    {hello : BridgeHello} {identity : Option AuthenticatedDeviceIdentity}
    (hmem : .authenticates ref hello identity ∈ w'.log) : w'.HasSocket ref := by
  by_cases hold : .authenticates ref hello identity ∈ w.log
  · exact h.hasSocket (hw.socket ref hello identity hold)
  · have hsocket : w.HasSocket ref := by
      cases h with
      | authenticates i ref' hello' result identity' hcall =>
        simp only [World.log_emit, List.mem_append, hold, List.mem_singleton, false_or] at hmem
        cases hmem
        exact (hw.waits i _ hcall).2
      | leaves ref' c code frames =>
        simp only [World.log_emit, World.log_modify, List.mem_append, hold, false_or, List.mem_cons,
          reduceCtorEq] at hmem
        split at hmem
        · simp at hmem
        · cases hmem
      | ends ref' c f gone fallback => simp [World.log_ends, hold] at hmem
      | tells ref' c effect hc hopen hclosing hhandshaking heffect =>
        simp only [World.log_emit, List.mem_append, hold, List.mem_singleton, false_or] at hmem
        cases hmem
        exact heffect.elim
      | readies i c session guard now => simp [World.createSession, hold] at hmem
      | releases i call => simp [World.log_release, hold] at hmem
      | drops session => simp [hold] at hmem
      | _ => simp [hold] at hmem
    exact h.hasSocket hsocket

theorem Move.justified (h : Move options clean grants w w') (hw : w.Justified options) :
    w'.Justified options where
  founded := h.founded hw
  waits := by
    intro i call hcall
    rcases h.call hcall with hold | hwaits
    · exact h.keeps_waits (hw.waits i call hold)
    · exact h.keeps_waits hwaits
  socket := fun _ _ _ hmem => h.socket hw hmem

/-- A session that may be created was authenticated. -/
theorem Entitled.authenticates (hw : w.Justified options) {session : GatewaySession} {guard : Option ℕ}
    (h : Entitled options w.log session guard) : ∃ hello, .authenticates session.connection hello
      session.identity ∈ w.log := by
  obtain ⟨hello, -, ⟨hguarded, -⟩ | ⟨identity, hidentity, hmem⟩⟩ := h
  · exact ⟨hello, hguarded.1⟩
  · obtain ⟨before, after, hlog⟩ := List.append_of_mem hmem
    have hguarded : Guarded options before session.connection hello (some identity) guard :=
      hw.founded before _ after hlog
    rw [hidentity]
    exact ⟨hello, hlog ▸ List.mem_append_left _ hguarded.1⟩

theorem justified_new : World.new.Justified options where
  founded := eachAfter_nil
  waits := fun i call hcall => by cases hcall
  socket := fun ref hello identity hmem => by cases hmem

theorem justified_run (events : List (Event × Readings)) :
    (runFrom (World.step options) World.new events).Justified options :=
  runFrom_moves (fun _ _ h hw => h.justified hw) justified_new events

variable (options) in
/-- What stands before a session that is created: its hello, of this version of the protocol, its identity,
and the guard that was acquired for it. It has no identity only where that is allowed; otherwise it is the
device that the hello names, and it was validated under the guard. -/
def Admitted (before : List Effect) : Effect → Prop
  | .creates session guard =>
    ∃ hello : BridgeHello, hello.bridgeProtocolVersion = BRIDGE_PROTOCOL_VERSION ∧
      hello.sessionId = session.id ∧
      .authenticates session.connection hello session.identity ∈ before ∧
      (options.beginSessionReady = true → .acquires session.identity guard ∈ before) ∧
      match session.identity with
      | none => hello.auth = none ∧ options.allowLegacyUnauthenticated = true
      | some identity =>
        options.authenticateDevice = true ∧
          (∃ auth, hello.auth = some auth ∧ identity.deviceId = auth.deviceId) ∧
          (options.validateSessionReady = true →
            .validates session.connection hello identity guard ∈ before)
  | _ => True

theorem authentic_none {hello : BridgeHello} (h : Authentic options hello none) :
    hello.auth = none ∧ options.allowLegacyUnauthenticated = true := by
  obtain ⟨-, result, hresult⟩ := h
  unfold authenticate at hresult
  cases hauth : hello.auth with
  | none => simpa [hauth] using hresult
  | some auth =>
    simp only [hauth] at hresult
    split at hresult
    · cases hresult
    · split at hresult
      · cases hresult
      · cases hresult
      · split at hresult <;> cases hresult

theorem authentic_some {hello : BridgeHello} {identity : AuthenticatedDeviceIdentity}
    (h : Authentic options hello (some identity)) :
    options.authenticateDevice = true ∧ ∃ auth, hello.auth = some auth ∧
      identity.deviceId = auth.deviceId := by
  obtain ⟨-, result, hresult⟩ := h
  unfold authenticate at hresult
  cases hauth : hello.auth with
  | none =>
    simp only [hauth] at hresult
    split at hresult <;> cases hresult
  | some auth =>
    simp only [hauth] at hresult
    split at hresult
    · cases hresult
    case isFalse hset =>
      split at hresult
      · cases hresult
      · cases hresult
      · split at hresult
        · cases hresult
        case isFalse hsame =>
          cases hresult
          exact ⟨by simpa using hset, auth, rfl, not_not.mp hsame⟩

/-- Where every entry is founded, every session is admitted. -/
theorem admitted_of_founded {log : List Effect} (h : EachAfter (Founded options) log) :
    EachAfter (Admitted options) log := by
  intro before e after hlog
  have hbefore : ∀ e' ∈ before, ∃ before', Founded options before' e' := by
    intro e' he'
    obtain ⟨l, m, rfl⟩ := List.append_of_mem he'
    exact ⟨l, h l e' (m ++ e :: after) (by simpa using hlog)⟩
  cases e with
  | creates session guard =>
    obtain ⟨hello, hid, hlogged⟩ : Entitled options before session guard := h before _ after hlog
    have hguarded : Guarded options before session.connection hello session.identity guard := by
      rcases hlogged with ⟨hguarded, -⟩ | ⟨identity, hidentity, hmem⟩
      · exact hguarded
      · obtain ⟨l, m, rfl⟩ := List.append_of_mem hmem
        have hvalidates : Guarded options l session.connection hello (some identity) guard :=
          h l (.validates session.connection hello identity guard) (m ++ .creates session guard :: after)
            (by simpa using hlog)
        rw [hidentity]
        exact ⟨List.mem_append_left _ hvalidates.1, fun hbegin =>
          List.mem_append_left _ (hvalidates.2 hbegin)⟩
    have hauthenticates := hguarded.1
    obtain ⟨_, hauthentic⟩ := hbefore _ hauthenticates
    refine ⟨hello, hauthentic.1, hid, hauthenticates, hguarded.2, ?_⟩
    cases hidentity : session.identity with
    | none =>
      rw [hidentity] at hauthentic
      exact authentic_none hauthentic
    | some identity =>
      rw [hidentity] at hauthentic
      obtain ⟨hset, hauth⟩ := authentic_some hauthentic
      refine ⟨hset, hauth, fun hvalidate => ?_⟩
      rcases hlogged with ⟨-, hnone⟩ | ⟨identity', hidentity', hmem⟩
      · obtain ⟨auth, hauth, -⟩ := hauth
        simp [hidentity, hauth, hvalidate] at hnone
      · rw [hidentity] at hidentity'
        cases hidentity'
        exact hmem
  | _ => trivial

variable (options) in
/-- However the handshakes of any number of connections interleave, no session is created before its
device was authenticated and validated. -/
theorem log_admitted (events : List (Event × Readings)) :
    EachAfter (Admitted options) (runFrom (World.step options) World.new events).log :=
  admitted_of_founded (justified_run events).founded

/-! ## Guards -/

/-- The guard that an effect is about. -/
def Effect.guard : Effect → Option ℕ
  | .acquires _ guard => guard
  | .validates _ _ _ guard => guard
  | .creates _ guard => guard
  | .acks _ guard => guard
  | .releases guard => some guard
  | _ => none

/-- What becomes of a guard. -/
inductive Lease
  | free
  | held
  | released
  deriving DecidableEq

/-- Sessions are validated, created and acknowledged under a guard while it is held. -/
def Lease.step : Lease → Effect → Option Lease
  | .free, .acquires _ _ => some .held
  | .held, .validates _ _ _ _ => some .held
  | .held, .creates _ _ => some .held
  | .held, .acks _ _ => some .held
  | .held, .releases _ => some .released
  | _, _ => none

namespace World

/-- The part of the log that is about a guard. -/
def lease (w : World) (guard : ℕ) : List Effect := w.log.filter fun e => e.guard = some guard

/-- The guard that the call `i` holds. -/
def heldBy (w : World) (i : ℕ) : Option ℕ := (w.calls.get? i).bind Call.held

/-- A guard is held by the one call that acquired it. -/
structure Leases (w : World) : Prop where
  reads : ∀ guard, ∃ lease, reads Lease.step .free (w.lease guard) = some lease ∧
    (lease = .free ↔ w.guards ≤ guard) ∧ (lease = .held ↔ ∃ i, w.heldBy i = some guard)
  once : ∀ i j guard, w.heldBy i = some guard → w.heldBy j = some guard → i = j

theorem lease_append {w w' : World} (es : List Effect) (hlog : w'.log = w.log ++ es) (guard : ℕ) :
    w'.lease guard = w.lease guard ++ es.filter fun e => e.guard = some guard := by
  unfold lease
  rw [hlog, List.filter_append]

theorem Leases.frame (h : w.Leases) (hheld : ∀ i, w'.heldBy i = w.heldBy i)
    (hguards : w'.guards = w.guards) {es : List Effect} (hlog : w'.log = w.log ++ es)
    (hes : ∀ e ∈ es, ∀ guard, e.guard = some guard →
      (∃ i, w.heldBy i = some guard) ∧ Lease.step .held e = some .held) : w'.Leases where
  reads := by
    intro guard
    obtain ⟨lease, hreads, hfree, hheldBy⟩ := h.reads guard
    refine ⟨lease, ?_, by rw [hguards]; exact hfree, by simpa only [hheld] using hheldBy⟩
    rw [lease_append _ hlog, reads_append_of_eq hreads]
    clear hlog hreads
    induction es with
    | nil => rfl
    | cons e es ih =>
      have hrest := ih fun e' he' => hes e' (List.mem_cons_of_mem e he')
      by_cases he : e.guard = some guard
      · obtain ⟨hholder, hstep⟩ := hes e List.mem_cons_self guard he
        have hlease : lease = .held := hheldBy.mpr hholder
        subst hlease
        rw [List.filter_cons_of_pos (by simpa using he)]
        exact reads_cons_eq_some.mpr ⟨.held, hstep, hrest⟩
      · rw [List.filter_cons_of_neg (by simpa using he)]
        exact hrest
  once := by
    intro i j guard hi hj
    exact h.once i j guard (hheld i ▸ hi) (hheld j ▸ hj)

theorem heldBy_setCall (w : World) {i : ℕ} {call : Call} (hcall : w.calls.get? i = some call)
    (call' : Call) (j : ℕ) :
    (w.setCall i call').heldBy j = if j = i then call'.held else w.heldBy j := by
  unfold heldBy
  rw [calls_setCall, Heap.get?_modify]
  by_cases hj : j = i
  · simp [hj, hcall]
  · simp [hj]

theorem heldBy_setCall_of_eq (w : World) {i : ℕ} {call call' : Call}
    (hcall : w.calls.get? i = some call) (hheld : call'.held = call.held) (j : ℕ) :
    (w.setCall i call').heldBy j = w.heldBy j := by
  rw [heldBy_setCall w hcall]
  by_cases hj : j = i
  · simp [hj, heldBy, hcall, hheld]
  · simp [hj]

theorem heldBy_alloc {w w' : World} (call : Call) (hcalls : w'.calls = w.calls.alloc call)
    (hheld : call.held = none) (j : ℕ) : w'.heldBy j = w.heldBy j := by
  unfold heldBy
  rw [hcalls, Heap.get?_alloc]
  by_cases hj : j = w.calls.next
  · simp [hj, hheld]
  · simp [hj]

theorem Leases.acquires (h : w.Leases) {i ref : ℕ} {hello : BridgeHello}
    (identity : Option AuthenticatedDeviceIdentity)
    (hcall : w.calls.get? i = some (.authenticating ref hello)) :
    (({ w with guards := w.guards + 1 }.emit [.acquires identity (some w.guards)]).setCall i
      (.unwinding (some w.guards))).Leases := by
  have hheld : ∀ j, (({ w with guards := w.guards + 1 }.emit [.acquires identity (some w.guards)]).setCall i
      (.unwinding (some w.guards))).heldBy j = if j = i then some w.guards else w.heldBy j :=
    fun j => heldBy_setCall (w := { w with guards := w.guards + 1 }.emit [.acquires identity (some w.guards)]) hcall _ j
  have hnone : w.heldBy i = none := by simp [heldBy, hcall, Call.held]
  have hfresh : ∀ j guard, w.heldBy j = some guard → guard < w.guards := by
    intro j guard hj
    obtain ⟨lease, -, hfree, hholds⟩ := h.reads guard
    by_contra hle
    have hlease : lease = .held := hholds.mpr ⟨j, hj⟩
    rw [hlease] at hfree
    cases hfree.mpr (Nat.le_of_not_lt hle)
  constructor
  · intro guard
    obtain ⟨lease, hreads, hfree, hholds⟩ := h.reads guard
    by_cases hguard : guard = w.guards
    · subst hguard
      have hlease : lease = .free := hfree.mpr (Nat.le_refl _)
      subst hlease
      refine ⟨.held, ?_, by simp, by simpa using ⟨i, by simp [hheld]⟩⟩
      rw [lease_append (w := w) [.acquires identity (some w.guards)] (by simp), reads_append_of_eq hreads]
      simp [Effect.guard, Doctmcp.Lib.reads, Lease.step]
    · refine ⟨lease, ?_, ?_, ?_⟩
      · rw [lease_append (w := w) [.acquires identity (some w.guards)] (by simp), reads_append_of_eq hreads]
        simp [Effect.guard, Ne.symm hguard]
      · rw [hfree]
        simp only [guards_setCall, guards_emit]
        omega
      · rw [hholds]
        simp only [hheld]
        constructor
        · rintro ⟨j, hj⟩
          refine ⟨j, ?_⟩
          rw [if_neg, hj]
          rintro rfl
          rw [hnone] at hj
          cases hj
        · rintro ⟨j, hj⟩
          by_cases hji : j = i
          · rw [if_pos hji] at hj
            cases hj
            exact absurd rfl hguard
          · rw [if_neg hji] at hj
            exact ⟨j, hj⟩
  · intro j k guard hj hk
    rw [hheld] at hj hk
    by_cases hji : j = i
    · by_cases hki : k = i
      · rw [hji, hki]
      · rw [if_pos hji] at hj
        rw [if_neg hki] at hk
        cases hj
        exact absurd (hfresh k _ hk) (Nat.lt_irrefl _)
    · by_cases hki : k = i
      · rw [if_neg hji] at hj
        rw [if_pos hki] at hk
        cases hk
        exact absurd (hfresh j _ hj) (Nat.lt_irrefl _)
      · rw [if_neg hji] at hj
        rw [if_neg hki] at hk
        exact h.once j k guard hj hk

theorem Leases.releases (h : w.Leases) {i guard : ℕ} {call : Call}
    (hcall : w.calls.get? i = some call) (hguard : call.held = some guard) :
    ((w.setCall i .returned).emit [.releases guard]).Leases := by
  have hheld : ∀ j, ((w.setCall i .returned).emit [.releases guard]).heldBy j =
      if j = i then none else w.heldBy j := fun j => heldBy_setCall w hcall .returned j
  have hi : w.heldBy i = some guard := by simp [heldBy, hcall, hguard]
  constructor
  · intro guard'
    obtain ⟨lease, hreads, hfree, hholds⟩ := h.reads guard'
    by_cases hsame : guard' = guard
    · subst hsame
      have hlease : lease = .held := hholds.mpr ⟨i, hi⟩
      subst hlease
      refine ⟨.released, ?_, by simpa using hfree, ?_⟩
      · rw [lease_append (w := w) [.releases guard'] (by simp), reads_append_of_eq hreads]
        simp [Effect.guard, Doctmcp.Lib.reads, Lease.step]
      · simp only [hheld, reduceCtorEq, false_iff]
        rintro ⟨j, hj⟩
        by_cases hji : j = i
        · simp [hji] at hj
        · rw [if_neg hji] at hj
          exact hji (h.once j i guard' hj hi)
    · refine ⟨lease, ?_, hfree, ?_⟩
      · rw [lease_append (w := w) [.releases guard] (by simp), reads_append_of_eq hreads]
        simp [Effect.guard, Ne.symm hsame]
      · rw [hholds]
        simp only [hheld]
        constructor
        · rintro ⟨j, hj⟩
          refine ⟨j, ?_⟩
          rw [if_neg, hj]
          rintro rfl
          rw [hi] at hj
          cases hj
          exact hsame rfl
        · rintro ⟨j, hj⟩
          by_cases hji : j = i
          · simp [hji] at hj
          · rw [if_neg hji] at hj
            exact ⟨j, hj⟩
  · intro j k guard' hj hk
    rw [hheld] at hj hk
    by_cases hji : j = i
    · simp [hji] at hj
    · by_cases hki : k = i
      · simp [hki] at hk
      · rw [if_neg hji] at hj
        rw [if_neg hki] at hk
        exact h.once j k guard' hj hk

end World

theorem Move.leases (h : Move options clean grants w w') (hw : w.Leases) : w'.Leases := by
  have hnil : ∀ e ∈ ([] : List Effect), ∀ guard, e.guard = some guard →
      (∃ i, w.heldBy i = some guard) ∧ Lease.step .held e = some .held := by simp
  cases h with
  | connects listed => exact hw.frame (fun _ => rfl) rfl (List.append_nil _).symm hnil
  | touches ref f => exact hw.frame (fun _ => rfl) rfl (List.append_nil _).symm hnil
  | stops => exact hw.frame (fun _ => rfl) rfl (List.append_nil _).symm hnil
  | leaves ref c code frames =>
    refine hw.frame (fun _ => rfl) rfl rfl fun e he guard hguard => ?_
    rcases List.mem_cons.mp he with rfl | he
    · cases hguard
    · split at he
      · simp only [List.mem_append, List.mem_map, List.mem_singleton] at he
        obtain ⟨frame, -, rfl⟩ | rfl := he <;> cases hguard
      · cases he
  | ends ref c f gone fallback =>
    have hheld : ∀ i, ((w.forget gone).ends ref f c.session (c.closeReason.getD fallback)).heldBy i =
        w.heldBy i := by
      cases hsession : c.session with
      | none =>
        intro i
        unfold World.heldBy
        rw [World.calls_ends_none, World.calls_forget]
      | some session =>
        refine World.heldBy_alloc (.notifying session (c.closeReason.getD fallback)) ?_ rfl
        rw [World.calls_ends_some, World.calls_forget]
    refine hw.frame hheld (by simp) (by rw [World.log_ends, World.log_forget]) fun e he guard hguard => ?_
    simp only [List.mem_cons, Option.mem_toList, Option.map_eq_some_iff] at he
    obtain rfl | ⟨session, -, rfl⟩ := he <;> cases hguard
  | drops session => exact hw.frame (fun _ => rfl) rfl (List.append_nil _).symm hnil
  | tells ref c effect hc hopen hclosing hhandshaking heffect =>
    refine hw.frame (fun _ => rfl) rfl rfl fun e he guard hguard => ?_
    cases List.mem_singleton.mp he
    cases effect <;> first | exact False.elim heffect | cases hguard
  | waits call hwaits hheld =>
    exact hw.frame (World.heldBy_alloc _ rfl hheld) rfl (List.append_nil _).symm hnil
  | proceeds i call call' hcall hwaits hheld =>
    exact hw.frame (w.heldBy_setCall_of_eq hcall hheld) rfl (List.append_nil _).symm hnil
  | authenticates i ref hello result identity =>
    refine hw.frame (fun _ => rfl) rfl rfl fun e he guard hguard => ?_
    cases List.mem_singleton.mp he
    cases hguard
  | acquires i ref hello identity hgrants hcall => exact hw.acquires identity hcall
  | declines i ref hello identity hgrants hcall =>
    refine hw.frame (w.heldBy_setCall_of_eq hcall rfl) rfl rfl fun e he guard hguard => ?_
    cases List.mem_singleton.mp he
    cases hguard
  | validates i ref hello identity guard hcall =>
    refine hw.frame (fun _ => rfl) rfl rfl fun e he guard' hguard => ?_
    cases List.mem_singleton.mp he
    replace hguard : guard = some guard' := hguard
    have hheld : w.heldBy i = some guard' := by simp [World.heldBy, hcall, Call.held, hguard]
    exact ⟨⟨i, hheld⟩, rfl⟩
  | readies i c session guard now hcall =>
    have hlog : ((w.createSession options session guard now).emit [.acks session guard]).log =
        w.log ++ [.creates session guard, .enters session.connection .ready, .acks session guard] := by
      simp [World.createSession]
    refine hw.frame (fun _ => rfl) rfl hlog fun e he guard' hguard => ?_
    have hheld : guard = some guard' → w.heldBy i = some guard' := by
      rintro rfl
      simp [World.heldBy, hcall, Call.held]
    simp only [List.mem_cons, List.not_mem_nil, or_false] at he
    rcases he with rfl | rfl | rfl
    · exact ⟨⟨i, hheld hguard⟩, rfl⟩
    · cases hguard
    · exact ⟨⟨i, hheld hguard⟩, rfl⟩
  | releases i call hcall =>
    cases hheld : call.held with
    | none => exact hw.frame (w.heldBy_setCall_of_eq hcall hheld.symm) rfl (List.append_nil _).symm hnil
    | some guard => exact hw.releases hcall hheld
  | reports i session reason hcall =>
    refine hw.frame (w.heldBy_setCall_of_eq hcall rfl) rfl rfl fun e he guard hguard => ?_
    cases List.mem_singleton.mp he
    cases hguard

theorem heldBy_new (i : ℕ) : World.new.heldBy i = none := by
  show ((Heap.empty : Heap Call).get? i).bind Call.held = none
  rw [Heap.get?_empty, Option.bind_none]

theorem leases_new : World.new.Leases where
  reads := fun guard => ⟨.free, reads_nil _, by simp [World.new], by simp [heldBy_new]⟩
  once := fun i j guard hi => by simp [heldBy_new] at hi

variable (options) in
theorem leases_run (events : List (Event × Readings)) :
    (runFrom (World.step options) World.new events).Leases :=
  runFrom_moves (fun _ _ h hw => h.leases hw) leases_new events

def Effect.isAcquires : Effect → Bool
  | .acquires _ _ => true
  | _ => false

def Effect.isReleases : Effect → Bool
  | .releases _ => true
  | _ => false

theorem marks_acquires : Marks Lease.step (fun e => e.isAcquires = true) (· ≠ .free) where
  iff := by
    intro q e q' h
    cases q <;> cases e <;> cases h <;> simp [Effect.isAcquires]
  stays := by
    intro q e q' h
    cases q <;> cases e <;> cases h <;> simp

theorem marks_releases : Marks Lease.step (fun e => e.isReleases = true) (· = .released) where
  iff := by
    intro q e q' h
    cases q <;> cases e <;> cases h <;> simp [Effect.isReleases]
  stays := by
    intro q e q' h
    cases q <;> cases e <;> cases h <;> simp

theorem count_acquires (w : World) (guard : ℕ) :
    (w.log.countP fun e => e.isAcquires && e.guard = some guard) =
      (w.lease guard).countP fun e => e.isAcquires = true := by
  unfold World.lease
  rw [List.countP_filter]
  simp

theorem count_releases (w : World) (guard : ℕ) :
    w.log.count (.releases guard) = (w.lease guard).countP fun e => e.isReleases = true := by
  unfold World.lease List.count
  rw [List.countP_filter]
  apply List.countP_congr
  intro e _
  cases e <;> simp [Effect.isReleases, Effect.guard]

variable (options) in
/-- Every guard that `beginSessionReady` returned is released once, when the handshake that it was
returned to is over, and until then that handshake alone holds it. What is validated, created or
acknowledged under a guard comes after its acquisition and before its release. -/
theorem guard_run (events : List (Event × Readings)) (guard : ℕ) :
    let w := runFrom (World.step options) World.new events
    (w.log.countP fun e => e.isAcquires && e.guard = some guard) = (if guard < w.guards then 1 else 0) ∧
      w.log.count (.releases guard) ≤ 1 ∧
      (guard < w.guards →
        (w.log.count (.releases guard) = 0 ↔ ∃ i call, w.calls.get? i = some call ∧
          call.held = some guard)) ∧
      (∀ i j call call', w.calls.get? i = some call → call.held = some guard →
        w.calls.get? j = some call' → call'.held = some guard → i = j) ∧
      Precedes (fun e => e.isAcquires = true ∧ e.guard = some guard)
        (fun e => e.isAcquires = false ∧ e.guard = some guard) w.log ∧
      w.log.Pairwise fun x y => x = .releases guard → y.guard ≠ some guard := by
  intro w
  have hleases : w.Leases := leases_run options events
  obtain ⟨lease, hreads, hfree, hheld⟩ := hleases.reads guard
  have hacquires := marks_acquires.countP_eq hreads (by simp)
  have hreleases := marks_releases.countP_eq hreads (by simp)
  rw [← count_acquires] at hacquires
  rw [← count_releases] at hreleases
  refine ⟨?_, ?_, ?_, ?_, ?_, ?_⟩
  · rw [hacquires]
    by_cases hlt : guard < w.guards
    · have hne : lease ≠ .free := fun h => absurd (hfree.mp h) (Nat.not_le_of_lt hlt)
      rw [if_pos hne, if_pos hlt]
    · have heq : lease = .free := hfree.mpr (Nat.le_of_not_lt hlt)
      rw [if_neg (by simp [heq]), if_neg hlt]
  · rw [hreleases]
    split <;> omega
  · intro hlt
    have hne : lease ≠ .free := fun h => absurd (hfree.mp h) (Nat.not_le_of_lt hlt)
    rw [hreleases]
    have hholds : (∃ i, w.heldBy i = some guard) ↔
        ∃ i call, w.calls.get? i = some call ∧ call.held = some guard := by
      simp [World.heldBy, Option.bind_eq_some_iff]
    rw [← hholds, ← hheld]
    cases lease <;> simp at hne ⊢
  · intro i j call call' hi hcall hj hcall'
    exact hleases.once i j guard (by simp [World.heldBy, hi, hcall])
      (by simp [World.heldBy, hj, hcall'])
  · have hprecedes : Precedes (fun e : Effect => e.isAcquires = true) (fun e => e.isAcquires = false)
        (w.lease guard) := by
      refine precedes_of_reads (S := (· ≠ .free)) ?_ ?_ hreads (by simp)
      · intro q e q' h
        cases q <;> cases e <;> cases h <;> simp [Effect.isAcquires]
      · intro q e q' h
        cases q <;> cases e <;> cases h <;> simp [Effect.isAcquires]
    exact hprecedes.of_filter.imp (fun e he => by simpa using he) (fun e he => by simpa using he)
  · have hpairwise : (w.lease guard).Pairwise fun x y => x.isReleases = true → ¬ True := by
      refine pairwise_of_reads (S := (· = .released)) ?_ ?_ ?_ hreads
      · intro q e q' h
        cases q <;> cases e <;> cases h <;> simp [Effect.isReleases]
      · intro q e q' h
        cases q <;> cases e <;> cases h <;> simp
      · intro q e q' h
        cases q <;> cases e <;> cases h <;> simp
    refine (List.pairwise_filter.mp hpairwise).imp fun h hx hy => ?_
    subst hx
    exact h (by simp [Effect.guard]) (by simp [hy]) rfl trivial

/-! ## What the surroundings see of a guard -/

/-- A guard that a call holds is not released. -/
theorem World.Leases.not_released (h : w.Leases) {i guard : ℕ} (hi : w.heldBy i = some guard) :
    .releases guard ∉ w.log := by
  obtain ⟨lease, hreads, -, hheld⟩ := h.reads guard
  have hcount := marks_releases.countP_eq hreads (by simp)
  rw [← count_releases, hheld.mpr ⟨i, hi⟩] at hcount
  exact List.count_eq_zero.mp (by simpa using hcount)

/-- A guard that was acquired and is not released is held. -/
theorem World.Leases.holder (h : w.Leases) {guard : ℕ} {identity : Option AuthenticatedDeviceIdentity}
    (hacquired : .acquires identity (some guard) ∈ w.log) (hreleased : .releases guard ∉ w.log) :
    ∃ i, w.heldBy i = some guard := by
  obtain ⟨lease, hreads, -, hheld⟩ := h.reads guard
  have hacquires := marks_acquires.countP_eq hreads (by simp)
  have hreleases := marks_releases.countP_eq hreads (by simp)
  rw [← count_releases, List.count_eq_zero.mpr hreleased] at hreleases
  have hpos : 0 < w.log.countP fun e => e.isAcquires && e.guard = some guard :=
    List.countP_pos_iff.mpr ⟨_, hacquired, by simp [Effect.isAcquires, Effect.guard]⟩
  rw [count_acquires, hacquires] at hpos
  refine hheld.mp ?_
  cases lease <;> simp at hpos hreleases ⊢

/-- Nothing is under a guard before it is acquired. -/
theorem World.Leases.fresh (h : w.Leases) {before after : List Effect}
    {identity : Option AuthenticatedDeviceIdentity} {guard : ℕ}
    (hlog : w.log = before ++ .acquires identity (some guard) :: after) :
    ∀ e ∈ before, e.guard ≠ some guard := by
  obtain ⟨lease, hreads, -⟩ := h.reads guard
  have hsplit : w.lease guard = (before.filter fun e => e.guard = some guard) ++
      .acquires identity (some guard) :: after.filter fun e => e.guard = some guard := by
    unfold World.lease
    rw [hlog, List.filter_append, List.filter_cons_of_pos (by simp [Effect.guard])]
  rw [hsplit] at hreads
  obtain ⟨q, hbefore, hrest⟩ := reads_append_eq_some.mp hreads
  obtain ⟨q', hacquires, -⟩ := reads_cons_eq_some.mp hrest
  have hq : q = .free := by cases q <;> cases hacquires; rfl
  subst hq
  intro e he hguard
  have hmem : e ∈ before.filter fun e => e.guard = some guard := by simp [he, hguard]
  -- the automaton does not come back to a free guard
  obtain ⟨l, m, hlm⟩ := List.append_of_mem hmem
  rw [hlm] at hbefore
  obtain ⟨q₁, -, hrest⟩ := reads_append_eq_some.mp hbefore
  obtain ⟨q₂, he', hm⟩ := reads_cons_eq_some.mp hrest
  have hne : q₂ ≠ .free := by
    intro h
    subst h
    cases q₁ <;> cases e <;> cases he'
  exact keeps_of_reads (S := (· ≠ .free)) marks_acquires.stays hm hne rfl

/-- A guard is acquired for one identity. -/
theorem World.Leases.acquires_unique (h : w.Leases) {identity identity' : Option AuthenticatedDeviceIdentity}
    {guard : ℕ} (hmem : .acquires identity (some guard) ∈ w.log)
    (hmem' : .acquires identity' (some guard) ∈ w.log) : identity = identity' := by
  obtain ⟨before, after, hlog⟩ := List.append_of_mem hmem
  rw [hlog] at hmem'
  rcases List.mem_append.mp hmem' with hbefore | hafter
  · exact absurd rfl (h.fresh hlog _ hbefore)
  · rcases List.mem_cons.mp hafter with heq | hafter
    · cases heq
      rfl
    · obtain ⟨between, rest, hrest⟩ := List.append_of_mem hafter
      have hlog' : w.log = (before ++ .acquires identity (some guard) :: between) ++
          .acquires identity' (some guard) :: rest := by
        rw [hlog, hrest, List.append_assoc, List.cons_append]
      exact absurd rfl (h.fresh hlog' (.acquires identity (some guard)) (by simp))

/-- The answer of `beginSessionReady` that an entry records. -/
def ReadyGuard.ofGuard : Option ℕ → ReadyGuard
  | Option.none => .none
  | some _ => .lease

/-- Guards are acquired only where they are granted. -/
def World.Grows (grants : Grants) (w w' : World) : Prop :=
  ∃ es, w'.log = w.log ++ es ∧
    ∀ identity guard, .acquires identity guard ∈ es → grants identity (.ofGuard guard)

theorem World.Grows.refl (w : World) : w.Grows grants w := ⟨[], by simp, by simp⟩

theorem World.Grows.trans {w'' : World} (h : w.Grows grants w') (h' : w'.Grows grants w'') :
    w.Grows grants w'' := by
  obtain ⟨es, hlog, hes⟩ := h
  obtain ⟨es', hlog', hes'⟩ := h'
  refine ⟨es ++ es', by rw [hlog', hlog, List.append_assoc], fun identity guard hmem => ?_⟩
  rcases List.mem_append.mp hmem with hmem | hmem
  · exact hes identity guard hmem
  · exact hes' identity guard hmem

theorem Move.grows (h : Move options clean grants w w') : w.Grows grants w' := by
  have hlog : ∀ es : List Effect, w'.log = w.log ++ es → (∀ e ∈ es, e.isAcquires = false) →
      w.Grows grants w' := by
    intro es hlog hes
    refine ⟨es, hlog, fun identity guard hmem => ?_⟩
    cases hes _ hmem
  cases h with
  | leaves ref c code frames =>
    refine hlog (.enters ref .closing ::
      if c.ws then frames.map (.sends ref) ++ [.closes ref code] else []) rfl ?_
    intro e he
    rcases List.mem_cons.mp he with rfl | he
    · rfl
    · split at he
      · simp only [List.mem_append, List.mem_map, List.mem_singleton] at he
        obtain ⟨frame, -, rfl⟩ | rfl := he <;> rfl
      · cases he
  | ends ref c f gone fallback =>
    refine hlog _ (by rw [World.log_ends, World.log_forget]) ?_
    cases c.session <;> simp [Effect.isAcquires]
  | tells ref c effect hc hopen hclosing hhandshaking heffect =>
    refine hlog [effect] rfl ?_
    cases effect <;> first | (cases heffect; done) | simp [Effect.isAcquires]
  | acquires i ref hello identity hgrants =>
    refine ⟨[.acquires identity (some w.guards)], by simp, fun identity' guard hmem => ?_⟩
    cases List.mem_singleton.mp hmem
    exact hgrants
  | declines i ref hello identity hgrants =>
    refine ⟨[.acquires identity none], by simp, fun identity' guard hmem => ?_⟩
    cases List.mem_singleton.mp hmem
    exact hgrants
  | readies i c session guard now =>
    refine hlog [.creates session guard, .enters session.connection .ready, .acks session guard] ?_ ?_
    · simp [World.createSession]
    · simp [Effect.isAcquires]
  | releases i call =>
    refine hlog _ (World.log_release _ _) ?_
    cases call.held <;> simp [Effect.isAcquires]
  | drops session => exact hlog [] (by simp) (by simp)
  | authenticates i ref hello result identity =>
    exact hlog [.authenticates ref hello identity] rfl (by simp [Effect.isAcquires])
  | validates i ref hello identity guard =>
    exact hlog [.validates ref hello identity guard] rfl (by simp [Effect.isAcquires])
  | reports i session reason =>
    exact hlog [.onSessionClosed session reason] rfl (by simp [Effect.isAcquires])
  | _ => exact hlog [] (by simp) (by simp)

theorem Moves.grows (h : Moves options clean grants w w') : w.Grows grants w' := by
  induction h with
  | refl => exact .refl w
  | tail _ hlast ih => exact ih.trans hlast.grows

/-- A call that validates or binds has acquired its guard for the identity of its session. -/
theorem World.Justified.binding (h : w.Justified options) {i : ℕ} {session : GatewaySession}
    {guard : Option ℕ} (hcall : w.calls.get? i = some (.binding session guard))
    (hbegin : options.beginSessionReady = true) : .acquires session.identity guard ∈ w.log := by
  have hcreated : .creates session guard ∈ w.log := h.waits i _ hcall
  obtain ⟨before, after, hlog⟩ := List.append_of_mem hcreated
  obtain ⟨hello, -, -, -, hacquired, -⟩ := admitted_of_founded h.founded before _ after hlog
  rw [hlog]
  exact List.mem_append_left _ (hacquired hbegin)

theorem World.Justified.validating (h : w.Justified options) {i ref : ℕ} {hello : BridgeHello}
    {identity : AuthenticatedDeviceIdentity} {guard : Option ℕ}
    (hcall : w.calls.get? i = some (.validating ref hello identity guard))
    (hbegin : options.beginSessionReady = true) : .acquires (some identity) guard ∈ w.log :=
  (h.waits i _ hcall).2 hbegin

end

end Doctmcp.Gateway.Connections

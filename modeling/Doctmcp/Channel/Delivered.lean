import Doctmcp.Channel.Steps

/-! # Acknowledged deliveries and the channel

After the callback has succeeded for a session, its completion record is delivered, and
`forgetPendingCompletion` without `preserveDelivered` deletes it. `acknowledge` takes no entry out
of the map before its callback, and what awaits something else meanwhile does not look again:
`cancel` and `close` go on to forget the session of an entry that has been acknowledged. -/

namespace Doctmcp.Channel
open Doctmcp.Lib Doctmcp.Schemas Doctmcp.Completion
set_option autoImplicit false

/-- A coordinator, and the effects of all its steps, newest first. -/
structure History where
  coordinator : Coordinator
  log : List Effect

namespace History

def new : History := ⟨Coordinator.new, []⟩

def step (options : CoordinatorOptions) (h : History) (ev : Event) : History :=
  let c := h.coordinator.step options ev
  ⟨c, c.effects ++ h.log⟩

/-- The sessions for which the callback has succeeded. -/
def acknowledged (h : History) : List PairingSessionId :=
  h.log.filterMap fun effect =>
    match effect with
    | .deliveryAcknowledged message => some message.pairingSessionId
    | _ => none

theorem mem_acknowledged {h : History} {s : PairingSessionId} : s ∈ h.acknowledged ↔
    ∃ message, .deliveryAcknowledged message ∈ h.log ∧ message.pairingSessionId = s := by
  unfold acknowledged
  rw [List.mem_filterMap]
  constructor
  · rintro ⟨effect, heffect, hs⟩
    split at hs
    · exact ⟨_, heffect, Option.some.inj hs⟩
    · cases hs
  · rintro ⟨message, hmessage, rfl⟩
    exact ⟨_, hmessage, rfl⟩

end History

/-- No session is forgotten after its delivery was acknowledged. -/
def KeepsDelivered (log : List Effect) : Prop :=
  ∀ later message earlier, log = later ++ .deliveryAcknowledged message :: earlier →
    .forgetPendingCompletion message.pairingSessionId false ∉ later

/-- When a callback succeeds, no `cancel` or `close` is in progress that is going to remove the
session; and no `cancel`, `close` or expiry begins for a session that has been acknowledged. -/
def Undisturbed (options : CoordinatorOptions) (h : History) (ev : Event) : Prop :=
  (∀ message ∈ confirmed h.coordinator ev, ¬ HeldBy h.coordinator message.pairingSessionId) ∧
    ∀ s ∈ h.acknowledged, ¬ Ends options h.coordinator ev s

variable {options : CoordinatorOptions}

/-! ## The run -/

/-- What holds in every state of an undisturbed run. -/
structure Delivered (options : CoordinatorOptions) (h : History) : Prop where
  invariant : Invariant options h.coordinator
  free : ∀ s ∈ h.acknowledged, ¬ HeldBy h.coordinator s
  keeps : KeepsDelivered h.log

theorem delivered_new (options : CoordinatorOptions) : Delivered options History.new where
  invariant := invariant_new options
  free _ hs := by cases hs
  keeps later message earlier hlog := by
    cases later <;> cases hlog

/-- The step in which a callback succeeds begins to remove nothing. -/
theorem not_ends_of_confirmed {c : Coordinator} {ev : Event} {message : PairingAck}
    (hconfirmed : confirmed c ev = some message) (s : PairingSessionId) : ¬ Ends options c ev s := by
  intro hends
  cases ev with
  | resume i ok prune check timer =>
    obtain ⟨-, ⟨session, proof, hcall⟩, -⟩ := hends
    cases ok with
    | true =>
      unfold confirmed at hconfirmed
      dsimp only at hconfirmed
      rw [hcall] at hconfirmed
      cases hconfirmed
    | false => cases hconfirmed
  | request request => cases hconfirmed
  | expiryTimer e => cases hconfirmed
  | waiterTimer w => cases hconfirmed

/-- A step that forgets no acknowledged session leaves a log that keeps them. -/
theorem KeepsDelivered.append {log effects : List Effect} (h : KeepsDelivered log)
    (hnew : ∀ message, .deliveryAcknowledged message ∈ effects →
      effects = [.deliveryAcknowledged message])
    (hold : ∀ message, .deliveryAcknowledged message ∈ log →
      .forgetPendingCompletion message.pairingSessionId false ∉ effects) :
    KeepsDelivered (effects ++ log) := by
  intro later message earlier hlog
  rcases List.append_eq_append_iff.mp hlog with ⟨rest, rfl, hrest⟩ | ⟨rest, hrest, hold'⟩
  · intro hforget
    have hmem : .deliveryAcknowledged message ∈ log := hrest ▸ List.mem_append_right _ List.mem_cons_self
    rcases List.mem_append.mp hforget with hforget | hforget
    · exact hold message hmem hforget
    · exact h rest message earlier hrest hforget
  · cases rest with
    | nil =>
      rw [List.append_nil] at hrest
      subst hrest
      have hlog' : .deliveryAcknowledged message :: earlier = log := hold'
      exact hold message (hlog' ▸ List.mem_cons_self)
    | cons effect rest =>
      obtain ⟨rfl, -⟩ := List.cons.inj hold'
      have hmem : Effect.deliveryAcknowledged message ∈ effects :=
        hrest ▸ List.mem_append_right _ List.mem_cons_self
      have hsingle := hnew message hmem
      rw [hsingle] at hrest
      have hlater : later = [] := by
        have hlength := congrArg List.length hrest
        simp only [List.length_append, List.length_cons, List.length_nil] at hlength
        exact List.length_eq_zero_iff.mp (by omega)
      rw [hlater]
      exact List.not_mem_nil

theorem delivered_step {h : History} {ev : Event} (hd : Delivered options h)
    (hguard : Undisturbed options h ev) : Delivered options (h.step options ev) := by
  have hstep := step_stepped hd.invariant ev
  obtain ⟨hconfirms, hundisturbed⟩ := hguard
  have hsucceeds : ∀ message, .deliveryAcknowledged message ∈ (h.coordinator.step options ev).effects →
      confirmed h.coordinator ev = some message ∧
        (h.coordinator.step options ev).effects = [.deliveryAcknowledged message] := by
    intro message hmem
    rcases hstep.about _ hmem trivial with hjustified | ⟨other, hother, heq, hsingle⟩
    · exact hjustified.elim
    · obtain rfl := Effect.deliveryAcknowledged.inj heq
      exact ⟨hother, hsingle⟩
  refine ⟨hstep.invariant, fun s hs hheld => ?_, ?_⟩
  · obtain ⟨message, hmem, rfl⟩ := History.mem_acknowledged.mp hs
    rcases List.mem_append.mp hmem with hnew | hold
    · obtain ⟨hconfirmed, -⟩ := hsucceeds message hnew
      rcases hstep.held _ hheld with hheld | hends
      · exact hconfirms message hconfirmed hheld
      · exact not_ends_of_confirmed hconfirmed _ hends
    · have hacknowledged := History.mem_acknowledged.mpr ⟨message, hold, rfl⟩
      rcases hstep.held _ hheld with hheld | hends
      · exact hd.free _ hacknowledged hheld
      · exact hundisturbed _ hacknowledged hends
  · refine hd.keeps.append (fun message hmem => (hsucceeds message hmem).2) fun message hmem hforget => ?_
    have hacknowledged := History.mem_acknowledged.mpr ⟨message, hmem, rfl⟩
    rcases hstep.forgets _ hforget with hends | hheld
    · exact hundisturbed _ hacknowledged hends
    · exact hd.free _ hacknowledged hheld

/-- In an undisturbed run, no session is forgotten after its delivery was acknowledged. -/
theorem acknowledged_never_forgotten {evs : List Event}
    (hrun : Along (History.step options) (Undisturbed options) History.new evs) :
    KeepsDelivered (runFrom (History.step options) History.new evs).log := by
  have hdelivered : Delivered options (runFrom (History.step options) History.new evs) :=
    hrun.invariant (fun _ _ hd hguard => delivered_step hd hguard) (delivered_new options)
  exact hdelivered.keeps

/-! ## The condition is needed -/

theorem effects_discard (c : Coordinator) (e : ℕ) (entry : PairingChannelEntry)
    (error : PairingChannelErrorCode) (code : ℕ) (reason : String) :
    .forgetPendingCompletion entry.session.pairingSessionId false ∈
      (c.discard e entry error code reason).effects := by
  unfold Coordinator.discard Coordinator.removeEntry Coordinator.rejectDelivery
  cases entry.delivery <;> exact List.mem_cons_self

theorem effects_closeLoop {c : Coordinator} (h : Core options c) {refs : List ℕ}
    (hrefs : ∀ j ∈ refs, ∃ s, c.sessionOf j = some s) {effect : Effect}
    (heffect : effect ∈ c.effects) :
    effect ∈ (Operation.exec (Segment.closeLoop refs) c).2.effects := by
  cases refs with
  | nil => exact heffect
  | cons e rest =>
    obtain ⟨s, hs⟩ := hrefs e List.mem_cons_self
    obtain ⟨entry, hentry, -⟩ := Option.map_eq_some_iff.mp hs
    unfold Segment.closeLoop
    rw [Segment.exec_readEntry_bind hentry, if_pos (h.pending e entry hentry),
      Segment.exec_update_bind]
    exact List.mem_cons_of_mem _ heffect

/-- A `cancel` or a `close` that goes on forgets the session of its entry, acknowledged or not. -/
theorem held_forgets {c : Coordinator} (h : Invariant options c) {i e : ℕ} {call : Call}
    (hcall : c.calls.get? i = some call)
    (hremoves : call = .cancelSession e ∨ ∃ rest, call = .closeSession e rest)
    {s : PairingSessionId} (hs : c.sessionOf e = some s) (ok : Bool) (prune check timer : JsDate) :
    .forgetPendingCompletion s false ∈
      (c.step options (.resume i ok prune check timer)).effects := by
  have hheap : ∃ entry, c.silent.heap.get? e = some entry ∧ entry.session.pairingSessionId = s :=
    Option.map_eq_some_iff.mp hs
  obtain ⟨entry, hentry, rfl⟩ := hheap
  rw [step_resume hcall]
  rcases hremoves with rfl | ⟨rest, rfl⟩
  · show _ ∈ (Operation.exec (Segment.cancelled e) c.silent).2.effects
    unfold Segment.cancelled
    rw [Segment.exec_readEntry_bind hentry, Segment.exec_update_bind]
    exact effects_discard _ _ _ _ _ _
  · show _ ∈ (Operation.exec (Segment.closeEntry e >>= fun _ => Segment.closeLoop rest)
      c.silent).2.effects
    unfold Segment.closeEntry
    have hdiscard : Evolves options _ (fun _ => True) c.silent _ := evolves_discard h.core.silent
      hentry .SERVER_SHUTDOWN 1012 "Server shutdown" trivial
    rw [bind_assoc, Segment.exec_readEntry_bind hentry, Segment.exec_update_bind]
    refine effects_closeLoop hdiscard.core (fun j hj => ?_) (effects_discard _ _ _ _ _ _)
    obtain ⟨other, hother⟩ := h.calls i _ hcall j (List.mem_cons_of_mem e hj)
    exact ⟨other, hdiscard.sessions j other hother⟩

/-! ## A close after an acknowledgement -/

instance (c : Coordinator) (call : Call) (s : PairingSessionId) : Decidable (Held c call s) :=
  match call with
  | .cancelSession e => inferInstanceAs (Decidable (c.sessionOf e = some s))
  | .closeSession e rest => inferInstanceAs (Decidable (∃ j ∈ e :: rest, c.sessionOf j = some s))
  | .registerDigest _ _ | .attachDigest _ _ _ | .attachSent _ _ | .credentialSent _ _ _ _
  | .acknowledgeDelivery _ _ _ _ | .deliveryAcknowledged _ _ _ _ | .deliveryRefused _
  | .closeSent _ | .waiting _ | .returned | .threw _ => .isFalse nofun

instance (c : Coordinator) (s : PairingSessionId) : Decidable (HeldBy c s) :=
  decidable_of_iff (∃ call ∈ c.calls.cells, Held c call s) <| by
    constructor
    · rintro ⟨call, hcall, hheld⟩
      obtain ⟨i, hi⟩ := List.mem_iff_getElem?.mp hcall
      exact ⟨i, call, hi, hheld⟩
    · rintro ⟨i, call, hcall, hheld⟩
      exact ⟨call, List.mem_of_getElem? hcall, hheld⟩

/-- Nothing is acknowledged before or in the step. -/
def Unconfirmed (h : History) (ev : Event) : Prop :=
  confirmed h.coordinator ev = none ∧ h.acknowledged = []

instance (h : History) (ev : Event) : Decidable (Unconfirmed h ev) :=
  inferInstanceAs (Decidable (_ ∧ _))

theorem Unconfirmed.undisturbed {h : History} {ev : Event} (hnone : Unconfirmed h ev) :
    Undisturbed options h ev := by
  refine ⟨fun message hmessage => ?_, fun s hs => ?_⟩
  · rw [hnone.1] at hmessage
    cases hmessage
  · rw [hnone.2] at hs
    cases hs

namespace Overlap

def sessionId : PairingSessionId := ⟨"5e551000-0000-4000-8000-000000000011", by decide, by decide⟩
def deviceId : DeviceId := ⟨"de71ce00-0000-4000-8000-000000000001", by decide, by decide⟩
def credentialId : CredentialId := ⟨"c4ed0000-0000-4000-8000-000000000001", by decide, by decide⟩

def session : PairingSession where
  pairingSessionId := sessionId
  state := .pending
  createdAt := 0
  expiresAt := 100
  localCorrelationId := none
  claimedAt := none
  deviceId := none

def completed : CompletedPairingCredential where
  session := { session with state := .claimed, claimedAt := some 10, deviceId := some deviceId }
  device := ⟨deviceId, "owner", "laptop", ⟨"linux", none, none⟩, 10, 10⟩
  credential := ⟨credentialId, 1, deviceId, .active, 10, none⟩
  secret := "secret"

def proof : String := "AAAAAAAAAAAAAAAAAAAAAAAAAAAAAAAAAAAAAAAAAAA"
def socket : Socket := ⟨0, "socket"⟩
def ack : PairingAck := ⟨sessionId, deviceId, credentialId, 1⟩

/-- Register, attach, deliver: the credential is on its way to the socket. -/
def delivering : List Event :=
  [.request (.register session proof (some 0)), .resume 0 true (some 0) (some 0) (some 0),
    .request (.attach sessionId.value proof socket (some 1)), .resume 1 true none none none,
    .resume 1 true none none none,
    .request (.deliver completed (some 11) (some 11) (some 11)), .resume 2 true none none none,
    .request (.acknowledge socket ack (some 12))]

/-- The callback succeeds, and `acknowledge` goes on. -/
def acknowledging : List Event := [.resume 3 true none none none, .resume 3 true none none none]

/-- The client sends `pairing.close` right after its `pairing.ack`. -/
def overlapping : List Event :=
  delivering ++ .request (.cancel sessionId.value (some socket)) :: acknowledging ++
    [.resume 4 true none none none]

end Overlap
open Overlap

/-- An acknowledgement that nothing overlaps. -/
theorem acknowledged_never_forgotten_sample :
    KeepsDelivered
      (runFrom (History.step .default) History.new (delivering ++ acknowledging)).log := by
  have hbefore : Along (History.step .default) Unconfirmed History.new delivering := by
    decide +kernel
  have hsent : let h := runFrom (History.step .default) History.new delivering
      h.acknowledged = [] ∧ ¬ HeldBy h.coordinator sessionId ∧
        h.coordinator.calls.get? 3 = some (.acknowledgeDelivery 0 0 socket ack) ∧
        (h.step .default (.resume 3 true none none none)).coordinator.calls.get? 3 =
          some (.deliveryAcknowledged 0 0 socket ack) ∧
        confirmed (h.step .default (.resume 3 true none none none)).coordinator
          (.resume 3 true none none none) = none := by
    decide +kernel
  obtain ⟨hnone, hfree, hcall, hcall', hquiet⟩ := hsent
  refine acknowledged_never_forgotten
    ((along_append _ _ _).mpr ⟨?_, ⟨fun message hmessage => ?_, fun s hs => ?_⟩,
      ⟨fun message hmessage => ?_, fun s _ hends => ?_⟩, trivial⟩)
  · exact Along.of_invariant (P := fun _ => True) (fun _ _ _ _ => trivial)
      (fun _ _ _ hunconfirmed => hunconfirmed.undisturbed) trivial hbefore
  · rw [confirmed_of_call hcall] at hmessage
    obtain rfl := Option.some.inj hmessage
    exact hfree
  · rw [hnone] at hs
    cases hs
  · rw [hquiet] at hmessage
    cases hmessage
  · obtain ⟨-, ⟨session, proof, hdigest⟩, -⟩ := hends
    rw [hcall'] at hdigest
    cases hdigest

/-- The close goes on after the acknowledgement has finished, and forgets the delivered record. -/
theorem acknowledged_forgotten :
    ¬ KeepsDelivered (runFrom (History.step .default) History.new overlapping).log := by
  have hlog : let h := runFrom (History.step .default) History.new overlapping
      h.log = [.forgetPendingCompletion sessionId false, .pairingClose socket,
        .forgetPendingCompletion sessionId true] ++
          .deliveryAcknowledged ack :: h.log.drop 4 := by
    decide +kernel
  intro hkeeps
  exact hkeeps _ _ _ hlog List.mem_cons_self

end Doctmcp.Channel

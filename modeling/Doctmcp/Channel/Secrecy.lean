import Doctmcp.Channel.Delivered

/-! # Secrecy and settlement

A credential goes only to the socket that is attached to its session, and only that socket confirms
it; a promise of `deliver` resolves after that confirmation, and every waiter is settled. All of it
rests on the map having the entries that are in use: a call that goes on to remove an entry whose
session was registered again removes the other one from the map, and leaves it its socket, its
delivery and its waiters. -/

namespace Doctmcp.Channel
open Doctmcp.Lib Doctmcp.Lib.Operation Doctmcp.Schemas Doctmcp.Completion
set_option autoImplicit false

/-- The socket is attached to the session, and presented the proof that is registered for it. -/
def AttachedWithProof (c : Coordinator) (socket : Socket) (s : PairingSessionId) : Prop :=
  ∃ e entry, c.entryOf s = some (e, entry) ∧ entry.socket = some socket ∧
    entry.presented = some entry.proof

/-- The callback has succeeded for a message that names the credential, and was called with that
credential on the message from a socket. -/
def Confirmed (log : List Effect) (completed : CompletedPairingCredential) : Prop :=
  ∃ later message earlier socket, log = later ++ .deliveryAcknowledged message :: earlier ∧
    Segment.matchesDelivery message completed ∧
    completed.session.pairingSessionId = message.pairingSessionId ∧
    .acknowledgeDelivery socket message (Segment.acknowledgeInput completed) ∈ earlier

/-- The waiter whose promise the call returns. -/
def Call.waiter : Call → Option ℕ
  | .credentialSent _ _ _ waiter => waiter
  | .waiting w => some w
  | _ => none

/-- The waiter is one of a delivery of that credential. -/
def WaitsFor (completed : CompletedPairingCredential) (c : Coordinator) (w : ℕ) : Prop :=
  ∃ waiter delivery, c.waiters.get? w = some waiter ∧
    c.deliveries.get? waiter.delivery = some delivery ∧
    delivery.completed.session.pairingSessionId = completed.session.pairingSessionId ∧
    delivery.completed.credential.credentialId = completed.credential.credentialId ∧
    delivery.completed.credential.version = completed.credential.version ∧
    delivery.completed.secret = completed.secret

structure Secrecy (options : CoordinatorOptions) (h : History) : Prop where
  sent : ∀ socket completed, .credential socket completed ∈ h.coordinator.effects →
    AttachedWithProof h.coordinator socket completed.session.pairingSessionId
  /-- The callback is called on messages from the attached socket. -/
  asked : ∀ socket message input,
    .acknowledgeDelivery socket message input ∈ h.coordinator.effects →
      AttachedWithProof h.coordinator socket message.pairingSessionId
  /-- A `deliver` that begins now throws, or returns the promise of a waiter for its own credential. -/
  delivers : ∀ completed live deadline timer,
    let out := exec (Segment.deliver options completed live deadline timer) h.coordinator
    ∀ call, out.1 = .ok call → ∃ w, call.waiter = some w ∧ WaitsFor completed out.2 w
  resolved : ∀ w waiter, h.coordinator.waiters.get? w = some waiter →
    .resolved ∈ waiter.settlements → ∃ delivery,
      h.coordinator.deliveries.get? waiter.delivery = some delivery ∧
        Confirmed h.log delivery.completed
  once : ∀ w waiter, h.coordinator.waiters.get? w = some waiter → waiter.settlements.length ≤ 1
  /-- The waiters of an entry that is not in the map any more are settled. -/
  settled : ∀ w waiter delivery, h.coordinator.waiters.get? w = some waiter →
    h.coordinator.deliveries.get? waiter.delivery = some delivery →
    h.coordinator.entries.get? delivery.completed.session.pairingSessionId ≠ some delivery.entry →
      waiter.settlements ≠ []
  bounded : h.coordinator.entries.size ≤ options.maxPendingSessions

/-- The proof is claimed in the run. -/
def Claimed (evs : List Event) (proof : String) : Prop := ∃ ev ∈ evs, ev.proof = some proof

variable {options : CoordinatorOptions}

theorem Confirmed.append {log : List Effect} {completed : CompletedPairingCredential}
    (h : Confirmed log completed) (effects : List Effect) : Confirmed (effects ++ log) completed := by
  obtain ⟨later, message, earlier, socket, rfl, hconfirmed⟩ := h
  exact ⟨effects ++ later, message, earlier, socket, (List.append_assoc _ _ _).symm, hconfirmed⟩

/-! ## What `deliver` waits for -/

namespace Segment
variable {completed : CompletedPairingCredential} {c : Coordinator}

/-- The call that a piece of code leaves has thrown or returns the promise of a waiter for the
credential. -/
def Waits (completed : CompletedPairingCredential)
    (out : Except PairingChannelErrorCode Call × Coordinator) : Prop :=
  ∀ call, out.1 = .ok call → ∃ w, call.waiter = some w ∧ WaitsFor completed out.2 w

theorem Waits.throws (code : PairingChannelErrorCode) (c : Coordinator) :
    Waits completed (.error code, c) := by
  intro call hcall
  cases hcall

theorem waits_credentialDone {e w : ℕ} (h : WaitsFor completed c w) :
    Waits completed (exec (credentialDone e (some w)) c) := by
  intro call hcall
  cases hcall
  exact ⟨w, rfl, h⟩

theorem waits_sendPendingDelivery {e w : ℕ} (socket : Socket) (h : WaitsFor completed c w) :
    Waits completed (exec (sendPendingDelivery e socket (some w)) c) := by
  unfold sendPendingDelivery
  rw [exec_get_bind]
  refine readEntry_cases (.throws _ _) fun entry _ => ?_
  split
  · exact waits_credentialDone h
  · split_ifs
    · exact waits_credentialDone h
    · rw [exec_update_bind, exec_update_bind]
      intro call hcall
      cases hcall
      obtain ⟨waiter, delivery, hwaiter, hd, hsame⟩ := h
      refine ⟨w, rfl, waiter, _, hwaiter,
        (Heap.get?_modify_eq_some _ _ _).mpr ⟨delivery, hd, rfl⟩, ?_⟩
      split_ifs <;> exact hsame

theorem waits_awaitDelivery {e d : ℕ} {delivery : PendingDelivery}
    (hd : c.deliveries.get? d = some delivery)
    (hsame : delivery.completed.session.pairingSessionId = completed.session.pairingSessionId ∧
      delivery.completed.credential.credentialId = completed.credential.credentialId ∧
      delivery.completed.credential.version = completed.credential.version ∧
      delivery.completed.secret = completed.secret) :
    Waits completed (exec (awaitDelivery e d) c) := by
  unfold awaitDelivery createWaiter
  simp only [bind_assoc]
  rw [exec_get_bind, exec_update_bind, pure_bind]
  have hwaits : WaitsFor completed { c with
      waiters := c.waiters.alloc ⟨d, true, []⟩
      deliveries := c.deliveries.modify d fun delivery =>
        { delivery with waiters := delivery.waiters ++ [c.waiters.next] } } c.waiters.next := by
    refine ⟨⟨d, true, []⟩, { delivery with waiters := delivery.waiters ++ [c.waiters.next] },
      ?_, ?_, hsame⟩
    · show (c.waiters.alloc _).get? _ = _
      rw [Heap.get?_alloc, if_pos rfl]
    · show (c.deliveries.modify d _).get? d = _
      rw [Heap.get?_modify_self, hd]
      rfl
  refine readEntry_cases (.throws _ _) fun entry _ => ?_
  cases entry.socket with
  | some socket => exact waits_sendPendingDelivery socket hwaits
  | none => exact waits_credentialDone (e := e) hwaits

theorem waits_deliver (h : Core options c) (live deadline timer : JsDate) :
    Waits completed (exec (deliver options completed live deadline timer) c) := by
  unfold deliver ensureOpen
  simp only [bind_assoc]
  rw [exec_get_bind]
  refine exec_failIf_cases (fun _ => .throws _ _) fun _ => ?_
  refine exec_failIf_cases (fun _ => .throws _ _) fun _ => ?_
  refine exec_bind_cases (fun code _ => .throws _ _) fun claimedAt _ => ?_
  refine exec_failIf_cases (fun _ => .throws _ _) fun _ => ?_
  have hdrops : ∀ s, pairingSessionIdSchema completed.session.pairingSessionId.value = some s →
      Due c s live → True := fun _ _ _ => trivial
  refine liveEntry_cases h hdrops (fun c' _ => .throws _ _) fun s e entry hs hentry => ?_
  rw [pairingSessionIdSchema_value] at hs
  obtain rfl := Option.some.inj hs
  obtain ⟨-, hheap⟩ := entryOf_eq_some.mp hentry
  refine exec_failIf_cases (fun _ => .throws _ _) fun hsession => ?_
  cases hdelivery : entry.delivery with
  | none =>
    refine exec_bind_cases (fun code _ => .throws _ _) fun t _ => ?_
    split_ifs
    · rw [exec_update_bind]
      exact .throws _ _
    · unfold setDeadline
      simp only [bind_assoc]
      rw [exec_update_bind]
      refine exec_bind_cases (fun code _ => .throws _ _) fun _ _ => ?_
      rw [exec_update_bind, exec_get_bind, exec_update_bind, exec_update_bind]
      have hnew : (c.deliveries.alloc (newDelivery e completed)).get? c.deliveries.next =
          some (newDelivery e completed) := by
        rw [Heap.get?_alloc, if_pos rfl]
      exact waits_awaitDelivery hnew ⟨rfl, rfl, rfl, rfl⟩
  | some d =>
    rw [exec_get_bind]
    obtain ⟨delivery, hd, howner⟩ := h.delivery e entry d hheap hdelivery
    rw [hd, orThrow_some, exec_lift_bind_eq rfl]
    refine exec_failIf_cases (fun _ => .throws _ _) fun hsame => ?_
    refine waits_awaitDelivery hd ⟨?_, ?_, ?_, ?_⟩
    · have howned := h.owner d delivery hd
      rw [howner, Coordinator.sessionOf, hheap] at howned
      exact (Option.some.inj howned).symm.trans (not_not.mp hsession)
    · by_contra hne
      exact hsame (.inl hne)
    · by_contra hne
      exact hsame (.inr (.inl hne))
    · by_contra hne
      exact hsame (.inr (.inr hne))

end Segment

/-! ## The run -/

/-- What holds in every state of a run that removes no entry by mistake and whose proofs are all
in `proofs`. -/
structure Guarded (options : CoordinatorOptions) (proofs : String → Prop) (h : History) : Prop where
  invariant : Invariant options h.coordinator
  reset : Reset h.coordinator
  known : ∀ proof, Known h.coordinator proof → proofs proof
  justified : ∀ effect ∈ h.coordinator.effects, effect.AboutCredential →
    Justified h.coordinator effect ∨ ∃ message, effect = .deliveryAcknowledged message
  asked : ∀ i e d socket message,
    h.coordinator.calls.get? i = some (.acknowledgeDelivery e d socket message) → ∃ delivery,
      h.coordinator.deliveries.get? d = some delivery ∧
        .acknowledgeDelivery socket message (Segment.acknowledgeInput delivery.completed) ∈ h.log
  succeeded : ∀ i e d socket message,
    h.coordinator.calls.get? i = some (.deliveryAcknowledged e d socket message) → ∃ delivery,
      h.coordinator.deliveries.get? d = some delivery ∧ Confirmed h.log delivery.completed
  resolved : ∀ w waiter, h.coordinator.waiters.get? w = some waiter →
    .resolved ∈ waiter.settlements → ∃ delivery,
      h.coordinator.deliveries.get? waiter.delivery = some delivery ∧
        Confirmed h.log delivery.completed

theorem guarded_new (options : CoordinatorOptions) (proofs : String → Prop) :
    Guarded options proofs History.new where
  invariant := invariant_new options
  reset := reset_new
  known proof hknown := by
    rcases hknown with ⟨e, entry, hentry, -⟩ | ⟨i, call, hcall, -⟩
    · cases hentry
    · cases hcall
  justified effect heffect := by cases heffect
  asked i e d socket message hcall := by cases hcall
  succeeded i e d socket message hcall := by cases hcall
  resolved w waiter hwaiter := by cases hwaiter

theorem guarded_step {proofs : String → Prop} {h : History} {ev : Event}
    (hg : Guarded options proofs h) (hsafe : ¬ RemovesOther h.coordinator ev)
    (hproof : ∀ proof, ev.proof = some proof → proofs proof) :
    Guarded options proofs (h.step options ev) := by
  have hstep := step_stepped hg.invariant ev
  have hkept : ∀ d delivery, h.coordinator.deliveries.get? d = some delivery →
      Confirmed h.log delivery.completed → ∃ delivery',
        (h.step options ev).coordinator.deliveries.get? d = some delivery' ∧
          Confirmed (h.step options ev).log delivery'.completed := by
    intro d delivery hd hconfirmed
    obtain ⟨delivery', hd', -, hcompleted⟩ := hstep.deliveries d delivery hd
    exact ⟨delivery', hd', hcompleted ▸ hconfirmed.append _⟩
  refine
    { invariant := hstep.invariant
      reset := hstep.reset hsafe hg.reset
      known := fun proof hknown => ?_
      justified := fun effect heffect habout => ?_
      asked := fun i e d socket message hcall => ?_
      succeeded := fun i e d socket message hcall => ?_
      resolved := fun w waiter' hwaiter' hresolved => ?_ }
  · rcases hknown with ⟨e, entry, hentry, hpresented⟩ | ⟨i, call, hcall, hcallProof⟩
    · exact hg.known proof (hstep.known e entry proof hentry hpresented)
    · rcases call_learns hg.invariant hcall hcallProof with hold | hclaimed
      · exact hg.known proof hold
      · exact hproof proof hclaimed
  · refine (hstep.about effect heffect habout).imp_right fun hconfirmed => ?_
    obtain ⟨message, -, heq, -⟩ := hconfirmed
    exact ⟨message, heq⟩
  · rcases hstep.asked i e d socket message hcall with hold | ⟨delivery, hd, hasked⟩
    · obtain ⟨delivery, hd, hasked⟩ := hg.asked i e d socket message hold
      obtain ⟨delivery', hd', -, hcompleted⟩ := hstep.deliveries d delivery hd
      exact ⟨delivery', hd', hcompleted ▸ List.mem_append_right _ hasked⟩
    · exact ⟨delivery, hd, List.mem_append_left _ hasked⟩
  · rcases hstep.succeeded i e d socket message hcall with hold | ⟨hasking, hsucceeds⟩
    · obtain ⟨delivery, hd, hconfirmed⟩ := hg.succeeded i e d socket message hold
      exact hkept d delivery hd hconfirmed
    · obtain ⟨delivery, hd, hasked⟩ := hg.asked i e d socket message hasking
      obtain ⟨same, hsame, -, hmatches, hsession⟩ := hg.invariant.calls i _ hasking
      obtain rfl : delivery = same := Option.some.inj (hd.symm.trans hsame)
      obtain ⟨delivery', hd', -, hcompleted⟩ := hstep.deliveries d delivery hd
      obtain ⟨earlier, later, heffects⟩ := List.append_of_mem hsucceeds
      refine ⟨delivery', hd', hcompleted ▸ ⟨earlier, message, later ++ h.log, socket, ?_, hmatches,
        hsession, List.mem_append_right _ hasked⟩⟩
      show (h.coordinator.step options ev).effects ++ h.log = _
      rw [heffects, List.append_assoc, List.cons_append]
  · obtain ⟨waiter, hwaiter, hsame, hbefore⟩ := hstep.resolved w waiter' hwaiter' hresolved
    rw [← hsame]
    rcases hbefore with hold | ⟨i, e, socket, message, hcall⟩
    · obtain ⟨delivery, hd, hconfirmed⟩ := hg.resolved w waiter hwaiter hold
      exact hkept _ delivery hd hconfirmed
    · obtain ⟨delivery, hd, hconfirmed⟩ := hg.succeeded i e waiter.delivery socket message hcall
      exact hkept _ delivery hd hconfirmed

/-! ## What the invariant says -/

theorem Guarded.attached {proofs : String → Prop} {h : History} (hg : Guarded options proofs h)
    (hinjective : ∀ p q, proofs p → proofs q → digestProof p = digestProof q → p = q)
    {socket : Socket} {s : PairingSessionId} (hsent : SentTo h.coordinator socket s) :
    AttachedWithProof h.coordinator socket s := by
  obtain ⟨e, entry, hentry, rfl, hsocket, hdelivery⟩ := hsent
  obtain ⟨p, hpresented, hdigest⟩ := hg.invariant.core.attached e entry socket hentry hsocket
  have hmapped : h.coordinator.entries.get? entry.session.pairingSessionId = some e :=
    (hg.reset e entry hentry).resolve_right fun hreset => hdelivery hreset.2
  have hp : proofs p := hg.known p (.inl ⟨e, entry, hentry, .inr hpresented⟩)
  have hregistered : proofs entry.proof := hg.known _ (.inl ⟨e, entry, hentry, .inl rfl⟩)
  obtain rfl := hinjective p entry.proof hp hregistered hdigest
  exact ⟨e, entry, entryOf_eq_some.mpr ⟨hmapped, hentry⟩, hsocket, hpresented⟩

theorem Guarded.secrecy {proofs : String → Prop} {h : History} (hg : Guarded options proofs h)
    (hinjective : ∀ p q, proofs p → proofs q → digestProof p = digestProof q → p = q) :
    Secrecy options h where
  sent socket completed hmem := by
    rcases hg.justified _ hmem trivial with hsent | ⟨message, heq⟩
    · exact hg.attached hinjective hsent
    · cases heq
  asked socket message input hmem := by
    rcases hg.justified _ hmem trivial with ⟨hsent, -⟩ | ⟨message, heq⟩
    · exact hg.attached hinjective hsent
    · cases heq
  delivers completed live deadline timer :=
    Segment.waits_deliver hg.invariant.core live deadline timer
  resolved := hg.resolved
  once w waiter hwaiter := (hg.invariant.core.waiter w waiter hwaiter).2.1
  settled w waiter delivery hwaiter hd hgone hopen := by
    obtain ⟨-, -, same, hsame, hwaits⟩ := hg.invariant.core.waiter w waiter hwaiter
    obtain rfl : delivery = same := Option.some.inj (hd.symm.trans hsame)
    obtain ⟨entry, hentry, hcurrent⟩ := hg.invariant.core.current waiter.delivery delivery hd
      (List.ne_nil_of_mem (hwaits hopen))
    have hsession := hg.invariant.core.owner waiter.delivery delivery hd
    rw [Coordinator.sessionOf, hentry] at hsession
    obtain hid : entry.session.pairingSessionId = _ := Option.some.inj hsession
    rcases hg.reset delivery.entry entry hentry with hmapped | ⟨-, hnone⟩
    · exact hgone (hid ▸ hmapped)
    · rw [hnone] at hcurrent
      cases hcurrent
  bounded := hg.invariant.core.bounded

/-- In every run in which no call goes on to remove an entry whose session was registered again,
the channel keeps its credentials and settles its waiters. -/
theorem channel_secret {evs : List Event}
    (hinjective : ∀ p q, Claimed evs p → Claimed evs q → digestProof p = digestProof q → p = q)
    (hrun : Along (History.step options) (fun h ev => ¬ RemovesOther h.coordinator ev)
      History.new evs) :
    Secrecy options (runFrom (History.step options) History.new evs) := by
  have hclaimed : ∀ ev ∈ evs, ∀ proof, ev.proof = some proof → Claimed evs proof :=
    fun ev hev _ hproof => ⟨ev, hev, hproof⟩
  have hguarded : Guarded options (Claimed evs) (runFrom (History.step options) History.new evs) :=
    (hrun.and_forall hclaimed).invariant
      (fun _ _ hg hguard => guarded_step hg hguard.1 hguard.2) (guarded_new options _)
  exact hguarded.secrecy hinjective

/-! ## A session that is registered again -/

instance (c : Coordinator) (e : ℕ) : Decidable (Current c e) :=
  inferInstanceAs (Decidable (∀ id ∈ c.sessionOf e, ∀ j ∈ c.entries.get? id, j = e))

instance (c : Coordinator) (ev : Event) : Decidable (RemovesOther c ev) :=
  match ev with
  | .resume i _ _ _ _ =>
    decidable_of_iff (∃ call ∈ c.calls.get? i, ∃ e ∈ call.removes, ¬ Current c e) <| by
      constructor
      · rintro ⟨call, hcall, e, he, hother⟩
        exact ⟨call, e, hcall, he, hother⟩
      · rintro ⟨call, e, hcall, he, hother⟩
        exact ⟨call, hcall, e, he, hother⟩
  | .request _ | .expiryTimer _ | .waiterTimer _ => .isFalse fun hother => hother

namespace Reregistered
open Overlap

def secondProof : String := "BBBBBBBBBBBBBBBBBBBBBBBBBBBBBBBBBBBBBBBBBBB"
def secondSocket : Socket := ⟨1, "second socket"⟩

/-- Two cancels of one session overlap. The session is registered again after the first has
finished, its credential delivered and its socket attached; then the second cancel goes on. -/
def cancelledTwice : List Event :=
  [.request (.register session proof (some 0)), .resume 0 true (some 0) (some 0) (some 0),
    .request (.cancel sessionId.value none), .request (.cancel sessionId.value none),
    .resume 1 true none none none,
    .request (.register session proof (some 1)), .resume 3 true (some 1) (some 1) (some 1),
    .request (.deliver completed (some 11) (some 11) (some 11)),
    .request (.attach sessionId.value proof socket (some 12)), .resume 5 true none none none,
    .resume 2 true none none none]

/-- Another socket is attached to a third entry of the session before the first `attach` goes on. -/
def attachedTwice : List Event :=
  [.request (.register session secondProof (some 13)), .resume 6 true (some 13) (some 13) (some 13),
    .request (.attach sessionId.value secondProof secondSocket (some 14)),
    .resume 7 true none none none, .resume 7 true none none none, .resume 5 true none none none]

end Reregistered
open Overlap Reregistered

/-- A delivery that nothing disturbs. -/
theorem channel_secret_sample :
    Secrecy .default
      (runFrom (History.step .default) History.new (delivering ++ acknowledging)) := by
  have hclaimed : ∀ p, Claimed (delivering ++ acknowledging) p → p = proof := by
    rintro p ⟨ev, hev, hp⟩
    simp only [delivering, acknowledging, List.cons_append, List.nil_append, List.mem_cons,
      List.not_mem_nil, or_false] at hev
    rcases hev with rfl | rfl | rfl | rfl | rfl | rfl | rfl | rfl | rfl | rfl <;>
      first | exact (Option.some.inj hp).symm | cases hp
  exact channel_secret (fun p q hp hq _ => (hclaimed p hp).trans (hclaimed q hq).symm)
    (by decide +kernel)

/-- The credential is sent to a socket while another one is attached to its session. -/
theorem channel_leaks :
    ¬ Secrecy .default
      (runFrom (History.step .default) History.new (cancelledTwice ++ attachedTwice)) := by
  intro hsecrecy
  have hlast : let h := runFrom (History.step .default) History.new (cancelledTwice ++ attachedTwice)
      .credential socket completed ∈ h.coordinator.effects ∧
        (h.coordinator.entryOf sessionId).map (·.2.socket) = some (some secondSocket) := by
    decide +kernel
  obtain ⟨e, entry, hentry, hsocket, -⟩ := hsecrecy.sent _ _ hlast.1
  have hsame := hlast.2
  rw [show completed.session.pairingSessionId = sessionId from rfl] at hentry
  rw [hentry, Option.map_some, hsocket] at hsame
  exact absurd (Option.some.inj (Option.some.inj hsame)) (by decide)

end Doctmcp.Channel

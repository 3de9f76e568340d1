import Doctmcp.Channel.Coordinator

/-! # The objects of the coordinator

What holds of the entries, deliveries and waiters in every state (`Core`), and what a piece of code
that finishes no delivery can do to them (`Evolves`): it keeps the invariant, and forgets sessions
only where its caller says so. That an entry which the map no longer has is reset (`Reset`) needs
more: no code may remove an entry whose session has been given to another one. -/

namespace Doctmcp.Channel
open Doctmcp.Lib Doctmcp.Lib.Operation Doctmcp.Schemas Doctmcp.Completion
set_option autoImplicit false

/-! ## The invariant -/

/-- A proof that was presented and one that was registered have the same digest. -/
def SameDigest (presented : Option String) (proof : String) : Prop :=
  ∃ p, presented = some p ∧ digestProof p = digestProof proof

structure Core (options : CoordinatorOptions) (c : Coordinator) : Prop where
  /-- The map has the entry of the session. -/
  mapped : ∀ id e, c.entries.get? id = some e → c.sessionOf e = some id
  pending : ∀ e entry, c.heap.get? e = some entry → entry.session.state = .pending
  digest : ∀ e entry, c.heap.get? e = some entry →
    entry.proofDigest = digestProof entry.proof ∨ entry.proofDigest = ""
  attached : ∀ e entry socket, c.heap.get? e = some entry → entry.socket = some socket →
    SameDigest entry.presented entry.proof
  /-- The delivery of an entry was created for it. -/
  delivery : ∀ e entry d, c.heap.get? e = some entry → entry.delivery = some d →
    ∃ delivery, c.deliveries.get? d = some delivery ∧ delivery.entry = e
  owner : ∀ d delivery, c.deliveries.get? d = some delivery →
    c.sessionOf delivery.entry = some delivery.completed.session.pairingSessionId
  /-- A delivery has waiters only as long as its entry has the delivery. -/
  current : ∀ d delivery, c.deliveries.get? d = some delivery → delivery.waiters ≠ [] →
    ∃ entry, c.heap.get? delivery.entry = some entry ∧ entry.delivery = some d
  waits : ∀ d delivery w, c.deliveries.get? d = some delivery → w ∈ delivery.waiters →
    ∃ waiter, c.waiters.get? w = some waiter ∧ waiter.delivery = d ∧ waiter.settlements = []
  waiter : ∀ w waiter, c.waiters.get? w = some waiter →
    (waiter.timer = true ↔ waiter.settlements = []) ∧ waiter.settlements.length ≤ 1 ∧
      ∃ delivery, c.deliveries.get? waiter.delivery = some delivery ∧
        (waiter.settlements = [] → w ∈ delivery.waiters)
  bounded : c.entries.size ≤ options.maxPendingSessions

/-- An entry that the map does not have has no socket and no delivery. -/
def Reset (c : Coordinator) : Prop :=
  ∀ e entry, c.heap.get? e = some entry →
    c.entries.get? entry.session.pairingSessionId = some e ∨
      (entry.socket = none ∧ entry.delivery = none)

/-- The proof that a call goes on with. -/
def Call.proof : Call → Option String
  | .registerDigest _ proof | .attachDigest _ _ proof => some proof
  | _ => none

/-- The coordinator has the proof: an entry was registered with it, or its socket presented it, or
a call goes on with it. -/
def Known (c : Coordinator) (proof : String) : Prop :=
  (∃ e entry, c.heap.get? e = some entry ∧
    (entry.proof = proof ∨ entry.presented = some proof)) ∨
    ∃ i call, c.calls.get? i = some call ∧ call.proof = some proof

/-- Effects that are about a credential: it is sent, or its delivery is acknowledged. -/
def Effect.AboutCredential : Effect → Prop
  | .credential _ _ | .acknowledgeDelivery _ _ _ | .deliveryAcknowledged _ => True
  | _ => False

/-- What code that finishes no delivery can do. It forgets no session but those in `drops`, and it
keeps `Reset` where `safe` holds. -/
structure Evolves (options : CoordinatorOptions) (safe : Prop) (drops : PairingSessionId → Prop)
    (c c' : Coordinator) : Prop where
  core : Core options c'
  reset : safe → Reset c → Reset c'
  calls : c'.calls = c.calls
  sessions : ∀ e id, c.sessionOf e = some id → c'.sessionOf e = some id
  deliveries : ∀ d delivery, c.deliveries.get? d = some delivery →
    ∃ delivery', c'.deliveries.get? d = some delivery' ∧ delivery'.entry = delivery.entry ∧
      delivery'.completed = delivery.completed
  resolved : ∀ w waiter', c'.waiters.get? w = some waiter' → .resolved ∈ waiter'.settlements →
    ∃ waiter, c.waiters.get? w = some waiter ∧ .resolved ∈ waiter.settlements ∧
      waiter.delivery = waiter'.delivery
  forgets : ∀ id, .forgetPendingCompletion id false ∈ c'.effects →
    .forgetPendingCompletion id false ∈ c.effects ∨ drops id
  quiet : ∀ effect ∈ c'.effects, effect.AboutCredential → effect ∈ c.effects
  known : ∀ proof, Known c' proof → Known c proof

variable {options : CoordinatorOptions} {safe : Prop} {drops : PairingSessionId → Prop}
  {c c' c'' : Coordinator}

namespace Evolves

theorem refl (h : Core options c) : Evolves options safe drops c c where
  core := h
  reset _ hreset := hreset
  calls := rfl
  sessions _ _ hsession := hsession
  deliveries _ delivery hdelivery := ⟨delivery, hdelivery, rfl, rfl⟩
  resolved _ waiter hwaiter hresolved := ⟨waiter, hwaiter, hresolved, rfl⟩
  forgets _ hforget := .inl hforget
  quiet _ heffect _ := heffect
  known _ hknown := hknown

theorem trans (h : Evolves options safe drops c c') (h' : Evolves options safe drops c' c'') :
    Evolves options safe drops c c'' where
  core := h'.core
  reset hsafe hreset := h'.reset hsafe (h.reset hsafe hreset)
  calls := h'.calls.trans h.calls
  sessions e id hsession := h'.sessions e id (h.sessions e id hsession)
  deliveries d delivery hdelivery := by
    obtain ⟨delivery', hdelivery', hentry, hcompleted⟩ := h.deliveries d delivery hdelivery
    obtain ⟨delivery'', hdelivery'', hentry', hcompleted'⟩ := h'.deliveries d delivery' hdelivery'
    exact ⟨delivery'', hdelivery'', hentry'.trans hentry, hcompleted'.trans hcompleted⟩
  resolved w waiter'' hwaiter'' hresolved'' := by
    obtain ⟨waiter', hwaiter', hresolved', hsame'⟩ := h'.resolved w waiter'' hwaiter'' hresolved''
    obtain ⟨waiter, hwaiter, hresolved, hsame⟩ := h.resolved w waiter' hwaiter' hresolved'
    exact ⟨waiter, hwaiter, hresolved, hsame.trans hsame'⟩
  forgets id hforget := (h'.forgets id hforget).elim (h.forgets id) .inr
  quiet effect heffect habout := h.quiet effect (h'.quiet effect heffect habout) habout
  known proof hknown := h.known proof (h'.known proof hknown)

theorem weaken {safe' : Prop} {drops' : PairingSessionId → Prop}
    (h : Evolves options safe drops c c') (hsafe : safe' → safe)
    (hdrops : ∀ id, drops id → drops' id) : Evolves options safe' drops' c c' where
  core := h.core
  reset hsafe' := h.reset (hsafe hsafe')
  calls := h.calls
  sessions := h.sessions
  deliveries := h.deliveries
  resolved := h.resolved
  forgets id hforget := (h.forgets id hforget).imp_right (hdrops id)
  quiet := h.quiet
  known := h.known

end Evolves

/-- Code that changes the entries alone, and no proof of them, learns no proof. -/
theorem known_of_heap {proof : String} (hcalls : c'.calls = c.calls)
    (hback : ∀ e entry', c'.heap.get? e = some entry' → ∃ entry, c.heap.get? e = some entry ∧
      entry'.proof = entry.proof ∧ entry'.presented = entry.presented)
    (h : Known c' proof) : Known c proof := by
  rcases h with ⟨e, entry', hentry', hproof⟩ | ⟨i, call, hcall, hproof⟩
  · obtain ⟨entry, hentry, hsame, hpresented⟩ := hback e entry' hentry'
    rw [hsame, hpresented] at hproof
    exact .inl ⟨e, entry, hentry, hproof⟩
  · exact .inr ⟨i, call, hcalls ▸ hcall, hproof⟩

/-! ## Changing one object -/

/-- Changes of an entry that the invariant does not see, or that take its socket away. -/
structure Touches (f : PairingChannelEntry → PairingChannelEntry) : Prop where
  session : ∀ entry, (f entry).session = entry.session
  proofDigest : ∀ entry, (f entry).proofDigest = entry.proofDigest
  proof : ∀ entry, (f entry).proof = entry.proof
  presented : ∀ entry, (f entry).presented = entry.presented
  delivery : ∀ entry, (f entry).delivery = entry.delivery
  socket : ∀ entry, (f entry).socket = entry.socket ∨ (f entry).socket = none

theorem sessionOf_modifyEntry (c : Coordinator) (e : ℕ)
    {f : PairingChannelEntry → PairingChannelEntry}
    (hf : ∀ entry, (f entry).session = entry.session) (j : ℕ) :
    (c.modifyEntry e f).sessionOf j = c.sessionOf j := by
  unfold Coordinator.sessionOf Coordinator.modifyEntry
  dsimp only
  rw [Heap.get?_modify]
  by_cases hj : j = e
  · rw [if_pos hj, Option.map_map]
    congr 1
    funext entry
    exact congrArg _ (hf entry)
  · rw [if_neg hj]

theorem evolves_touchEntry (h : Core options c) (e : ℕ)
    {f : PairingChannelEntry → PairingChannelEntry} (hf : Touches f) :
    Evolves options safe drops c (c.modifyEntry e f) := by
  have hsessions := sessionOf_modifyEntry c e hf.session
  have hentry : ∀ j entry', (c.modifyEntry e f).heap.get? j = some entry' →
      ∃ entry, c.heap.get? j = some entry ∧ entry'.session = entry.session ∧
        entry'.proofDigest = entry.proofDigest ∧ entry'.proof = entry.proof ∧
        entry'.presented = entry.presented ∧ entry'.delivery = entry.delivery ∧
        (entry'.socket = entry.socket ∨ entry'.socket = none) := by
    intro j entry' hentry'
    obtain ⟨entry, hentry, heq⟩ := (Heap.get?_modify_eq_some _ _ _).mp hentry'
    split_ifs at heq
    · subst heq
      exact ⟨entry, hentry, hf.session entry, hf.proofDigest entry, hf.proof entry,
        hf.presented entry, hf.delivery entry, hf.socket entry⟩
    · subst heq
      exact ⟨entry, hentry, rfl, rfl, rfl, rfl, rfl, .inl rfl⟩
  refine
    { core :=
        { mapped := fun id j hj => (hsessions j).trans (h.mapped id j hj)
          pending := fun j entry' hentry' => ?_
          digest := fun j entry' hentry' => ?_
          attached := fun j entry' socket hentry' hsocket => ?_
          delivery := fun j entry' d hentry' hd => ?_
          owner := fun d delivery hd => (hsessions _).trans (h.owner d delivery hd)
          current := fun d delivery hd hne => ?_
          waits := h.waits
          waiter := h.waiter
          bounded := h.bounded }
      reset := fun _ hreset j entry' hentry' => ?_
      calls := rfl
      sessions := fun j id hsession => (hsessions j).trans hsession
      deliveries := fun _ delivery hdelivery => ⟨delivery, hdelivery, rfl, rfl⟩
      resolved := fun _ waiter hwaiter hresolved => ⟨waiter, hwaiter, hresolved, rfl⟩
      forgets := fun _ hforget => .inl hforget
      quiet := fun _ heffect _ => heffect
      known := fun _ => known_of_heap rfl fun j entry' hentry' => ?_ }
  · obtain ⟨entry, hentry, hsession, -⟩ := hentry j entry' hentry'
    rw [hsession]
    exact h.pending j entry hentry
  · obtain ⟨entry, hentry, -, hdigest, hproof, -⟩ := hentry j entry' hentry'
    rw [hdigest, hproof]
    exact h.digest j entry hentry
  · obtain ⟨entry, hentry, -, -, hproof, hpresented, -, hsame | hnone⟩ := hentry j entry' hentry'
    · rw [hproof, hpresented]
      exact h.attached j entry socket hentry (hsame ▸ hsocket)
    · rw [hnone] at hsocket
      cases hsocket
  · obtain ⟨entry, hentry, -, -, -, -, hdelivery, -⟩ := hentry j entry' hentry'
    exact h.delivery j entry d hentry (hdelivery ▸ hd)
  · obtain ⟨entry, hentry, hcurrent⟩ := h.current d delivery hd hne
    refine ⟨if delivery.entry = e then f entry else entry,
      (Heap.get?_modify_eq_some _ _ _).mpr ⟨entry, hentry, rfl⟩, ?_⟩
    split_ifs
    · rw [hf.delivery, hcurrent]
    · exact hcurrent
  · obtain ⟨entry, hentry, hsession, -, -, -, hdelivery, hsocket⟩ := hentry j entry' hentry'
    rw [hsession, hdelivery]
    refine (hreset j entry hentry).imp id fun hcleared => ⟨?_, hcleared.2⟩
    rcases hsocket with hsame | hnone
    · rw [hsame, hcleared.1]
    · exact hnone
  · obtain ⟨entry, hentry, -, -, hproof, hpresented, -⟩ := hentry j entry' hentry'
    exact ⟨entry, hentry, hproof, hpresented⟩

/-- Changes of a delivery that the invariant does not see. -/
structure TouchesDelivery (f : PendingDelivery → PendingDelivery) : Prop where
  entry : ∀ delivery, (f delivery).entry = delivery.entry
  completed : ∀ delivery, (f delivery).completed = delivery.completed
  waiters : ∀ delivery, (f delivery).waiters = delivery.waiters

theorem evolves_touchDelivery (h : Core options c) (d : ℕ) {f : PendingDelivery → PendingDelivery}
    (hf : TouchesDelivery f) : Evolves options safe drops c (c.modifyDelivery d f) := by
  have hback : ∀ j delivery', (c.modifyDelivery d f).deliveries.get? j = some delivery' →
      ∃ delivery, c.deliveries.get? j = some delivery ∧ delivery'.entry = delivery.entry ∧
        delivery'.completed = delivery.completed ∧ delivery'.waiters = delivery.waiters := by
    intro j delivery' hdelivery'
    obtain ⟨delivery, hdelivery, heq⟩ := (Heap.get?_modify_eq_some _ _ _).mp hdelivery'
    split_ifs at heq
    · subst heq
      exact ⟨delivery, hdelivery, hf.entry delivery, hf.completed delivery, hf.waiters delivery⟩
    · subst heq
      exact ⟨delivery, hdelivery, rfl, rfl, rfl⟩
  have hforth : ∀ j delivery, c.deliveries.get? j = some delivery →
      ∃ delivery', (c.modifyDelivery d f).deliveries.get? j = some delivery' ∧
        delivery'.entry = delivery.entry ∧ delivery'.completed = delivery.completed ∧
        delivery'.waiters = delivery.waiters := by
    intro j delivery hdelivery
    refine ⟨if j = d then f delivery else delivery,
      (Heap.get?_modify_eq_some _ _ _).mpr ⟨delivery, hdelivery, rfl⟩, ?_⟩
    split_ifs
    · exact ⟨hf.entry delivery, hf.completed delivery, hf.waiters delivery⟩
    · exact ⟨rfl, rfl, rfl⟩
  refine
    { core :=
        { mapped := h.mapped
          pending := h.pending
          digest := h.digest
          attached := h.attached
          delivery := fun e entry j hentry hj => ?_
          owner := fun j delivery' hdelivery' => ?_
          current := fun j delivery' hdelivery' hne => ?_
          waits := fun j delivery' w hdelivery' hw => ?_
          waiter := fun w waiter hwaiter => ?_
          bounded := h.bounded }
      reset := fun _ hreset => hreset
      calls := rfl
      sessions := fun _ _ hsession => hsession
      deliveries := fun j delivery hdelivery => ?_
      resolved := fun _ waiter hwaiter hresolved => ⟨waiter, hwaiter, hresolved, rfl⟩
      forgets := fun _ hforget => .inl hforget
      quiet := fun _ heffect _ => heffect
      known := fun _ hknown => hknown }
  · obtain ⟨delivery, hdelivery, howner⟩ := h.delivery e entry j hentry hj
    obtain ⟨delivery', hdelivery', hentry', -⟩ := hforth j delivery hdelivery
    exact ⟨delivery', hdelivery', hentry'.trans howner⟩
  · obtain ⟨delivery, hdelivery, hentry, hcompleted, -⟩ := hback j delivery' hdelivery'
    rw [hentry, hcompleted]
    exact h.owner j delivery hdelivery
  · obtain ⟨delivery, hdelivery, hentry, -, hwaiters⟩ := hback j delivery' hdelivery'
    rw [hentry]
    exact h.current j delivery hdelivery (hwaiters ▸ hne)
  · obtain ⟨delivery, hdelivery, -, -, hwaiters⟩ := hback j delivery' hdelivery'
    exact h.waits j delivery w hdelivery (hwaiters ▸ hw)
  · obtain ⟨htimer, honce, delivery, hdelivery, hopen⟩ := h.waiter w waiter hwaiter
    obtain ⟨delivery', hdelivery', -, -, hwaiters⟩ := hforth _ delivery hdelivery
    exact ⟨htimer, honce, delivery', hdelivery', fun hnil => hwaiters ▸ hopen hnil⟩
  · obtain ⟨delivery', hdelivery', hentry, hcompleted, -⟩ := hforth j delivery hdelivery
    exact ⟨delivery', hdelivery', hentry, hcompleted⟩

theorem evolves_emit (h : Core options c) (effect : Effect) (hquiet : ¬ effect.AboutCredential)
    (hforget : ∀ id, effect ≠ .forgetPendingCompletion id false) :
    Evolves options safe drops c (c.emit effect) where
  core := ⟨h.mapped, h.pending, h.digest, h.attached, h.delivery, h.owner, h.current, h.waits,
    h.waiter, h.bounded⟩
  reset _ hreset := hreset
  calls := rfl
  sessions _ _ hsession := hsession
  deliveries _ delivery hdelivery := ⟨delivery, hdelivery, rfl, rfl⟩
  resolved _ waiter hwaiter hresolved := ⟨waiter, hwaiter, hresolved, rfl⟩
  forgets id hmem := by
    rcases List.mem_cons.mp hmem with heq | hmem
    · exact absurd heq.symm (hforget id)
    · exact .inl hmem
  quiet other hmem habout := by
    rcases List.mem_cons.mp hmem with rfl | hmem
    · exact absurd habout hquiet
    · exact hmem
  known _ hknown := hknown

/-! ## Settling waiters -/

theorem mem_waitersOf {d w : ℕ} :
    w ∈ c.waitersOf d ↔ ∃ delivery, c.deliveries.get? d = some delivery ∧ w ∈ delivery.waiters := by
  unfold Coordinator.waitersOf
  cases hdelivery : c.deliveries.get? d with
  | none => simp
  | some delivery => simp

/-- The change of a delivery that drops the waiters `ws`. -/
structure DropsWaiters (ws : List ℕ) (f : PendingDelivery → PendingDelivery) : Prop where
  entry : ∀ delivery, (f delivery).entry = delivery.entry
  completed : ∀ delivery, (f delivery).completed = delivery.completed
  subset : ∀ delivery, ∀ w ∈ (f delivery).waiters, w ∈ delivery.waiters ∧ w ∉ ws

/-- Waiters of a delivery are settled as they are dropped from it. -/
theorem core_settled (h : Core options c) (d : ℕ) {ws : List ℕ}
    {f : PendingDelivery → PendingDelivery} (hf : DropsWaiters ws f)
    (hws : ∀ w ∈ ws, w ∈ c.waitersOf d)
    (hkept : ∀ delivery, c.deliveries.get? d = some delivery →
      ∀ w ∈ delivery.waiters, w ∉ ws → w ∈ (f delivery).waiters)
    (settlement : Settlement) : Core options ((c.modifyDelivery d f).settle ws settlement) := by
  have hback : ∀ j delivery', (c.modifyDelivery d f).deliveries.get? j = some delivery' →
      ∃ delivery, c.deliveries.get? j = some delivery ∧ delivery'.entry = delivery.entry ∧
        delivery'.completed = delivery.completed ∧
        (∀ w ∈ delivery'.waiters, w ∈ delivery.waiters ∧ (j = d → w ∉ ws)) := by
    intro j delivery' hdelivery'
    obtain ⟨delivery, hdelivery, heq⟩ := (Heap.get?_modify_eq_some _ _ _).mp hdelivery'
    refine ⟨delivery, hdelivery, ?_⟩
    split_ifs at heq with hj
    · subst heq
      exact ⟨hf.entry delivery, hf.completed delivery, fun w hw =>
        ⟨(hf.subset delivery w hw).1, fun _ => (hf.subset delivery w hw).2⟩⟩
    · subst heq
      exact ⟨rfl, rfl, fun w hw => ⟨hw, fun hd => absurd hd hj⟩⟩
  have hforth : ∀ j delivery, c.deliveries.get? j = some delivery →
      (c.modifyDelivery d f).deliveries.get? j = some (if j = d then f delivery else delivery) :=
    fun j delivery hdelivery => (Heap.get?_modify_eq_some _ _ _).mpr ⟨delivery, hdelivery, rfl⟩
  -- a waiter is in the set of its own delivery only
  have hown : ∀ w waiter, c.waiters.get? w = some waiter → w ∈ ws →
      waiter.delivery = d ∧ waiter.settlements = [] := by
    intro w waiter hwaiter hmem
    obtain ⟨delivery, hdelivery, hw⟩ := mem_waitersOf.mp (hws w hmem)
    obtain ⟨waiter', hwaiter', hd, hopen⟩ := h.waits d delivery w hdelivery hw
    obtain rfl : waiter = waiter' := Option.some.inj (hwaiter.symm.trans hwaiter')
    exact ⟨hd, hopen⟩
  refine
    { mapped := h.mapped
      pending := h.pending
      digest := h.digest
      attached := h.attached
      delivery := fun e entry j hentry hj => ?_
      owner := fun j delivery' hdelivery' => ?_
      current := fun j delivery' hdelivery' hne => ?_
      waits := fun j delivery' w hdelivery' hw => ?_
      waiter := fun w waiter' hwaiter' => ?_
      bounded := h.bounded }
  · obtain ⟨delivery, hdelivery, howner⟩ := h.delivery e entry j hentry hj
    refine ⟨_, hforth j delivery hdelivery, ?_⟩
    split_ifs
    · exact (hf.entry delivery).trans howner
    · exact howner
  · obtain ⟨delivery, hdelivery, hentry, hcompleted, -⟩ := hback j delivery' hdelivery'
    rw [hentry, hcompleted]
    exact h.owner j delivery hdelivery
  · obtain ⟨delivery, hdelivery, hentry, -, hwaiters⟩ := hback j delivery' hdelivery'
    rw [hentry]
    apply h.current j delivery hdelivery
    obtain ⟨w, hw⟩ := List.exists_mem_of_ne_nil _ hne
    exact List.ne_nil_of_mem (hwaiters w hw).1
  · obtain ⟨delivery, hdelivery, -, -, hwaiters⟩ := hback j delivery' hdelivery'
    obtain ⟨hold, hnot⟩ := hwaiters w hw
    obtain ⟨waiter, hwaiter, hd, hopen⟩ := h.waits j delivery w hdelivery hold
    have hout : w ∉ ws := fun hmem =>
      hnot (hd.symm.trans (hown w waiter hwaiter hmem).1) hmem
    exact ⟨waiter, (Heap.get?_modifyAll_eq_some _ _ _).mpr ⟨waiter, hwaiter, if_neg hout⟩, hd,
      hopen⟩
  · obtain ⟨waiter, hwaiter, heq⟩ := (Heap.get?_modifyAll_eq_some _ _ _).mp hwaiter'
    obtain ⟨htimer, honce, delivery, hdelivery, hopen⟩ := h.waiter w waiter hwaiter
    split_ifs at heq with hmem
    · subst heq
      have hnil := (hown w waiter hwaiter hmem).2
      refine ⟨by simp, by simp [hnil], _, hforth _ delivery hdelivery, fun hcons => ?_⟩
      cases hcons
    · subst heq
      refine ⟨htimer, honce, _, hforth _ delivery hdelivery, fun hnil => ?_⟩
      have hw := hopen hnil
      split_ifs with hd
      · exact hkept delivery (hd ▸ hdelivery) w hw hmem
      · exact hw

theorem evolves_settled (h : Core options c) (d : ℕ) {ws : List ℕ}
    {f : PendingDelivery → PendingDelivery} (hf : DropsWaiters ws f)
    (hws : ∀ w ∈ ws, w ∈ c.waitersOf d)
    (hkept : ∀ delivery, c.deliveries.get? d = some delivery →
      ∀ w ∈ delivery.waiters, w ∉ ws → w ∈ (f delivery).waiters)
    (code : PairingChannelErrorCode) :
    Evolves options safe drops c ((c.modifyDelivery d f).settle ws (.rejected code)) := by
  refine
    { core := core_settled h d hf hws hkept _
      reset := fun _ hreset => hreset
      calls := rfl
      sessions := fun _ _ hsession => hsession
      deliveries := fun j delivery hdelivery => ?_
      resolved := fun w waiter' hwaiter' hresolved => ?_
      forgets := fun _ hforget => .inl hforget
      quiet := fun _ heffect _ => heffect
      known := fun _ hknown => hknown }
  · refine ⟨_, (Heap.get?_modify_eq_some _ _ _).mpr ⟨delivery, hdelivery, rfl⟩, ?_⟩
    split_ifs
    · exact ⟨hf.entry delivery, hf.completed delivery⟩
    · exact ⟨rfl, rfl⟩
  · obtain ⟨waiter, hwaiter, heq⟩ := (Heap.get?_modifyAll_eq_some _ _ _).mp hwaiter'
    split_ifs at heq with hmem
    · subst heq
      refine ⟨waiter, hwaiter, ?_, rfl⟩
      rcases List.mem_cons.mp hresolved with heq | hresolved
      · cases heq
      · exact hresolved
    · subst heq
      exact ⟨waiter, hwaiter, hresolved, rfl⟩

theorem dropsWaiters_clear (ws : List ℕ) :
    DropsWaiters ws fun delivery => { delivery with waiters := [] } where
  entry _ := rfl
  completed _ := rfl
  subset _ _ hw := nomatch hw

theorem kept_clear (c : Coordinator) (d : ℕ) : ∀ delivery, c.deliveries.get? d = some delivery →
    ∀ w ∈ delivery.waiters, w ∉ c.waitersOf d →
      w ∈ ({ delivery with waiters := [] } : PendingDelivery).waiters :=
  fun delivery hdelivery _ hw hnot => absurd (mem_waitersOf.mpr ⟨delivery, hdelivery, hw⟩) hnot

theorem evolves_rejectWaiters (h : Core options c) (d : ℕ) (code : PairingChannelErrorCode) :
    Evolves options safe drops c (c.rejectWaiters d code) :=
  evolves_settled h d (dropsWaiters_clear _) (fun _ hw => hw) (kept_clear c d) code

theorem evolves_rejectDelivery (h : Core options c) (entry : PairingChannelEntry)
    (code : PairingChannelErrorCode) : Evolves options safe drops c (c.rejectDelivery entry code) := by
  unfold Coordinator.rejectDelivery
  cases entry.delivery with
  | none => exact .refl h
  | some d => exact evolves_rejectWaiters h d code

theorem evolves_closeSocket (h : Core options c) (entry : PairingChannelEntry) (code : ℕ)
    (reason : String) : Evolves options safe drops c (c.closeSocket entry code reason) := by
  unfold Coordinator.closeSocket
  cases entry.socket with
  | none => exact .refl h
  | some socket => exact evolves_emit h _ id nofun

@[simp] theorem rejectDelivery_heap (entry : PairingChannelEntry) (code : PairingChannelErrorCode)
    (c : Coordinator) : (c.rejectDelivery entry code).heap = c.heap := by
  unfold Coordinator.rejectDelivery
  cases entry.delivery <;> rfl

@[simp] theorem rejectDelivery_entries (entry : PairingChannelEntry)
    (code : PairingChannelErrorCode) (c : Coordinator) :
    (c.rejectDelivery entry code).entries = c.entries := by
  unfold Coordinator.rejectDelivery
  cases entry.delivery <;> rfl

@[simp] theorem closeSocket_heap (entry : PairingChannelEntry) (code : ℕ) (reason : String)
    (c : Coordinator) : (c.closeSocket entry code reason).heap = c.heap := by
  unfold Coordinator.closeSocket
  cases entry.socket <;> rfl

@[simp] theorem closeSocket_entries (entry : PairingChannelEntry) (code : ℕ) (reason : String)
    (c : Coordinator) : (c.closeSocket entry code reason).entries = c.entries := by
  unfold Coordinator.closeSocket
  cases entry.socket <;> rfl

/-! ## Removing entries -/

/-- An entry without waiters is reset. -/
theorem core_removed (h : Core options c) {e : ℕ}
    (hquiet : ∀ d delivery, c.deliveries.get? d = some delivery → delivery.entry = e →
      delivery.waiters = []) : Core options (c.modifyEntry e Coordinator.removed) := by
  have hsessions := sessionOf_modifyEntry c e (f := Coordinator.removed) fun _ => rfl
  have hentry : ∀ j entry', (c.modifyEntry e Coordinator.removed).heap.get? j = some entry' →
      ∃ entry, c.heap.get? j = some entry ∧
        (if j = e then Coordinator.removed entry else entry) = entry' :=
    fun j entry' => (Heap.get?_modify_eq_some _ _ _).mp
  refine
    { mapped := fun id j hj => (hsessions j).trans (h.mapped id j hj)
      pending := fun j entry' hentry' => ?_
      digest := fun j entry' hentry' => ?_
      attached := fun j entry' socket hentry' hsocket => ?_
      delivery := fun j entry' d hentry' hd => ?_
      owner := fun d delivery hd => (hsessions _).trans (h.owner d delivery hd)
      current := fun d delivery hd hne => ?_
      waits := h.waits
      waiter := h.waiter
      bounded := h.bounded }
  all_goals try obtain ⟨entry, hentry, rfl⟩ := hentry j entry' hentry'
  · split_ifs
    · exact h.pending j entry hentry
    · exact h.pending j entry hentry
  · split_ifs
    · exact .inr rfl
    · exact h.digest j entry hentry
  · split_ifs at hsocket ⊢
    · cases hsocket
    · exact h.attached j entry socket hentry hsocket
  · split_ifs at hd
    · cases hd
    · exact h.delivery j entry d hentry hd
  · obtain ⟨entry, hentry, hcurrent⟩ := h.current d delivery hd hne
    have hother : delivery.entry ≠ e := fun heq => hne (hquiet d delivery hd heq)
    exact ⟨entry, (Heap.get?_modify_ne _ hother _).trans hentry, hcurrent⟩

/-- The map loses a session, and the channel asks to forget it. -/
theorem evolves_forget (h : Core options c) (id : PairingSessionId) (preserve : Bool)
    (hdrops : preserve = false → drops id) :
    Evolves options False drops c
      (Coordinator.emit (.forgetPendingCompletion id preserve)
        { c with entries := c.entries.delete id }) where
  core :=
    { mapped := by
        intro j e he
        have he := (OrderedMap.get?_delete c.entries id j).symm.trans he
        split_ifs at he
        exact h.mapped j e he
      pending := h.pending
      digest := h.digest
      attached := h.attached
      delivery := h.delivery
      owner := h.owner
      current := h.current
      waits := h.waits
      waiter := h.waiter
      bounded := (OrderedMap.size_filter_le _ _).trans h.bounded }
  reset hfalse _ := hfalse.elim
  calls := rfl
  sessions _ _ hsession := hsession
  deliveries _ delivery hdelivery := ⟨delivery, hdelivery, rfl, rfl⟩
  resolved _ waiter hwaiter hresolved := ⟨waiter, hwaiter, hresolved, rfl⟩
  forgets j hmem := by
    rcases List.mem_cons.mp hmem with heq | hmem
    · injection heq with hid hpreserve
      subst hid
      exact .inr (hdrops hpreserve.symm)
    · exact .inl hmem
  quiet effect hmem habout := by
    rcases List.mem_cons.mp hmem with rfl | hmem
    · exact habout.elim
    · exact hmem
  known _ hknown := hknown

/-- `#removeEntry` of an entry: the others stay reset if the session is not another entry's. -/
theorem evolves_removeEntry (h : Core options c) {e : ℕ} {entry : PairingChannelEntry}
    (hentry : c.heap.get? e = some entry) (preserve : Bool)
    (hdrops : preserve = false → drops entry.session.pairingSessionId) :
    Evolves options (∀ j, c.entries.get? entry.session.pairingSessionId = some j → j = e) drops c
      (c.removeEntry e entry preserve) := by
  let forgotten := Coordinator.emit
    (.forgetPendingCompletion entry.session.pairingSessionId preserve)
    { c with entries := c.entries.delete entry.session.pairingSessionId }
  let rejected := forgotten.rejectDelivery entry .PAIRING_UNAVAILABLE
  have hforget : Evolves options False drops c forgotten := evolves_forget h _ preserve hdrops
  have hreject : Evolves options False drops forgotten rejected :=
    evolves_rejectDelivery hforget.core entry _
  have hheap : rejected.heap = c.heap := rejectDelivery_heap entry _ forgotten
  have hentries : rejected.entries = c.entries.delete entry.session.pairingSessionId :=
    rejectDelivery_entries entry _ forgotten
  have hquiet : ∀ d delivery, rejected.deliveries.get? d = some delivery → delivery.entry = e →
      delivery.waiters = [] := by
    intro d delivery hdelivery howner
    by_contra hne
    obtain ⟨entry', hentry', hcurrent⟩ := hreject.core.current d delivery hdelivery hne
    rw [howner, hheap, hentry] at hentry'
    obtain rfl := Option.some.inj hentry'
    have hcleared : rejected.deliveries = (forgotten.clearWaiters d).deliveries := by
      show (forgotten.rejectDelivery entry _).deliveries = _
      rw [Coordinator.rejectDelivery, hcurrent]
      rfl
    rw [hcleared] at hdelivery
    obtain ⟨before, -, heq⟩ := (Heap.get?_modify_eq_some _ _ _).mp hdelivery
    rw [if_pos rfl] at heq
    subst heq
    exact hne rfl
  have hall := hforget.trans hreject
  have hsessions := sessionOf_modifyEntry rejected e (f := Coordinator.removed) fun _ => rfl
  have hfinal : Core options (c.removeEntry e entry preserve) := core_removed hreject.core hquiet
  have hknown : ∀ p, Known (c.removeEntry e entry preserve) p → Known rejected p := by
    refine fun p => known_of_heap rfl fun j entry' hentry' => ?_
    obtain ⟨old, hold, rfl⟩ := (Heap.get?_modify_eq_some rejected.heap e _).mp hentry'
    refine ⟨old, hold, ?_⟩
    split_ifs <;> exact ⟨rfl, rfl⟩
  refine
    { core := hfinal
      reset := fun hsafe hreset j entry' hentry' => ?_
      calls := hall.calls
      sessions := fun j id hsession => (hsessions j).trans (hall.sessions j id hsession)
      deliveries := hall.deliveries
      resolved := hall.resolved
      forgets := hall.forgets
      quiet := hall.quiet
      known := fun p hp => hall.known p (hknown p hp) }
  obtain ⟨old, hold, rfl⟩ := (Heap.get?_modify_eq_some rejected.heap e _).mp hentry'
  rw [hheap] at hold
  split_ifs with hj
  · exact .inr ⟨rfl, rfl⟩
  · refine (hreset j old hold).imp_left fun hmapped => ?_
    show rejected.entries.get? _ = _
    rw [hentries, OrderedMap.get?_delete, if_neg, hmapped]
    intro hid
    rw [hid] at hmapped
    exact hj (hsafe j hmapped)

theorem evolves_discard (h : Core options c) {e : ℕ} {entry : PairingChannelEntry}
    (hentry : c.heap.get? e = some entry) (error : PairingChannelErrorCode) (code : ℕ)
    (reason : String) (hdrops : drops entry.session.pairingSessionId) :
    Evolves options (∀ j, c.entries.get? entry.session.pairingSessionId = some j → j = e) drops c
      (c.discard e entry error code reason) := by
  have hreject : Evolves options True drops c (c.rejectDelivery entry error) :=
    evolves_rejectDelivery h entry error
  have hclose := hreject.trans (evolves_closeSocket hreject.core entry code reason)
  have hheap : ((c.rejectDelivery entry error).closeSocket entry code reason).heap.get? e =
      some entry := by
    rw [closeSocket_heap, rejectDelivery_heap, hentry]
  have hremove : Evolves options _ drops _ _ :=
    evolves_removeEntry hclose.core hheap false fun _ => hdrops
  rw [closeSocket_entries, rejectDelivery_entries] at hremove
  exact (hclose.weaken (fun _ => trivial) fun _ hdrop => hdrop).trans hremove

theorem entryOf_eq_some {id : PairingSessionId} {e : ℕ} {entry : PairingChannelEntry} :
    c.entryOf id = some (e, entry) ↔ c.entries.get? id = some e ∧ c.heap.get? e = some entry := by
  unfold Coordinator.entryOf
  cases c.entries.get? id with
  | none => simp
  | some j =>
    cases hj : c.heap.get? j with
    | none =>
      simp only [Option.bind_some, hj, Option.map_none, Option.some.injEq]
      constructor
      · exact nofun
      · rintro ⟨rfl, hentry⟩
        rw [hj] at hentry
        cases hentry
    | some entry' =>
      simp only [Option.bind_some, hj, Option.map_some, Option.some.injEq, Prod.mk.injEq]
      constructor
      · rintro ⟨rfl, rfl⟩
        exact ⟨rfl, hj⟩
      · rintro ⟨rfl, hentry⟩
        exact ⟨rfl, Option.some.inj (hj.symm.trans hentry)⟩

theorem Core.session_of_entryOf (h : Core options c) {id : PairingSessionId} {e : ℕ}
    {entry : PairingChannelEntry} (hentry : c.entryOf id = some (e, entry)) :
    entry.session.pairingSessionId = id := by
  obtain ⟨hmapped, hheap⟩ := entryOf_eq_some.mp hentry
  have hsession := h.mapped id e hmapped
  rw [Coordinator.sessionOf, hheap] at hsession
  exact Option.some.inj hsession

theorem evolves_expire (h : Core options c) (id : PairingSessionId)
    (hdrops : (∃ x, c.entryOf id = some x) → drops id) :
    Evolves options True drops c (c.expire id) := by
  unfold Coordinator.expire
  cases hentry : c.entryOf id with
  | none => exact .refl h
  | some x =>
    obtain ⟨e, entry⟩ := x
    obtain ⟨hmapped, hheap⟩ := entryOf_eq_some.mp hentry
    have hid := h.session_of_entryOf hentry
    have hdiscard : Evolves options _ drops _ _ := evolves_discard h hheap .TIMEOUT 1000 "Pairing expired"
      (hid ▸ hdrops ⟨_, hentry⟩)
    refine hdiscard.weaken (fun _ j hj => ?_) fun _ hdrop => hdrop
    rw [hid, hmapped] at hj
    exact (Option.some.inj hj).symm

theorem removeEntry_heap (e : ℕ) (entry : PairingChannelEntry) (preserve : Bool)
    (c : Coordinator) :
    (c.removeEntry e entry preserve).heap = c.heap.modify e Coordinator.removed := by
  unfold Coordinator.removeEntry Coordinator.modifyEntry
  dsimp only
  rw [rejectDelivery_heap]
  rfl

theorem removeEntry_entries (e : ℕ) (entry : PairingChannelEntry) (preserve : Bool)
    (c : Coordinator) :
    (c.removeEntry e entry preserve).entries =
      c.entries.delete entry.session.pairingSessionId := by
  unfold Coordinator.removeEntry Coordinator.modifyEntry
  dsimp only
  rw [rejectDelivery_entries]
  rfl

/-- Expiring a session leaves the entries of the others. -/
theorem entryOf_expire (h : Core options c) {id j : PairingSessionId}
    {x : ℕ × PairingChannelEntry} (hx : (c.expire id).entryOf j = some x) :
    c.entryOf j = some x := by
  unfold Coordinator.expire at hx
  cases hentry : c.entryOf id with
  | none => simpa only [hentry] using hx
  | some y =>
    obtain ⟨e, entry⟩ := y
    obtain ⟨e', entry'⟩ := x
    rw [hentry] at hx
    dsimp only at hx
    have hid := h.session_of_entryOf hentry
    obtain ⟨hmapped, hheap⟩ := entryOf_eq_some.mp hx
    rw [Coordinator.discard, removeEntry_entries, closeSocket_entries, rejectDelivery_entries, hid,
      OrderedMap.get?_delete] at hmapped
    rw [Coordinator.discard, removeEntry_heap, closeSocket_heap, rejectDelivery_heap] at hheap
    split_ifs at hmapped with hj
    have hne : e' ≠ e := by
      rintro rfl
      have hother := h.mapped j e' hmapped
      rw [h.mapped id e' (entryOf_eq_some.mp hentry).1] at hother
      exact hj (Option.some.inj hother).symm
    rw [Heap.get?_modify_ne _ hne] at hheap
    exact entryOf_eq_some.mpr ⟨hmapped, hheap⟩

/-- The entry of a session has reached its deadline at a reading of the clock. -/
def Due (c : Coordinator) (id : PairingSessionId) (now : JsDate) : Prop :=
  ∃ x, c.entryOf id = some x ∧ ∃ t ∈ now, x.2.deadlineMs ≤ t

/-! ## Adding objects -/

theorem sessionOf_alloc {e : ℕ} {id : PairingSessionId} (hsession : c.sessionOf e = some id)
    (entry : PairingChannelEntry) :
    ({ c with heap := c.heap.alloc entry } : Coordinator).sessionOf e = some id := by
  obtain ⟨old, hold, hid⟩ := Option.map_eq_some_iff.mp hsession
  exact Option.map_eq_some_iff.mpr ⟨old, Heap.get?_alloc_of_some hold entry, hid⟩

theorem evolves_register (h : Core options c) {session : PairingSession} {proof : String}
    (hknown : Known c proof) (hpending : session.state = .pending)
    (hfree : c.entries.has session.pairingSessionId = false)
    (hroom : c.entries.size < options.maxPendingSessions) :
    Evolves options safe drops c { c with
      heap := c.heap.alloc (Segment.newEntry options session proof)
      entries := c.entries.set session.pairingSessionId c.heap.next } := by
  have hentry : ∀ e entry, (c.heap.alloc (Segment.newEntry options session proof)).get? e =
      some entry → entry = Segment.newEntry options session proof ∧ e = c.heap.next ∨
        c.heap.get? e = some entry := by
    intro e entry hentry
    exact ((Heap.get?_alloc_eq_some _ _).mp hentry).imp_left fun hnew => ⟨hnew.2.symm, hnew.1⟩
  refine
    { core :=
        { mapped := fun id e he => ?_
          pending := fun e entry he => ?_
          digest := fun e entry he => ?_
          attached := fun e entry socket he hsocket => ?_
          delivery := fun e entry d he hd => ?_
          owner := fun d delivery hd => sessionOf_alloc (h.owner d delivery hd) _
          current := fun d delivery hd hne => ?_
          waits := h.waits
          waiter := h.waiter
          bounded := ?_ }
      reset := fun _ hreset e entry he => ?_
      calls := rfl
      sessions := fun e id hsession => sessionOf_alloc hsession _
      deliveries := fun _ delivery hdelivery => ⟨delivery, hdelivery, rfl, rfl⟩
      resolved := fun _ waiter hwaiter hresolved => ⟨waiter, hwaiter, hresolved, rfl⟩
      forgets := fun _ hforget => .inl hforget
      quiet := fun _ heffect _ => heffect
      known := fun p hp => ?_ }
  · have he := (OrderedMap.get?_set c.entries _ id _).symm.trans he
    split_ifs at he with hid
    · obtain rfl := Option.some.inj he
      show ((c.heap.alloc _).get? c.heap.next).map _ = some id
      rw [Heap.get?_alloc, if_pos rfl, hid]
      rfl
    · exact sessionOf_alloc (h.mapped id e he) _
  · rcases hentry e entry he with ⟨rfl, -⟩ | hold
    · exact hpending
    · exact h.pending e entry hold
  · rcases hentry e entry he with ⟨rfl, -⟩ | hold
    · exact .inl rfl
    · exact h.digest e entry hold
  · rcases hentry e entry he with ⟨rfl, -⟩ | hold
    · cases hsocket
    · exact h.attached e entry socket hold hsocket
  · rcases hentry e entry he with ⟨rfl, -⟩ | hold
    · cases hd
    · exact h.delivery e entry d hold hd
  · obtain ⟨entry, hold, hcurrent⟩ := h.current d delivery hd hne
    exact ⟨entry, Heap.get?_alloc_of_some hold _, hcurrent⟩
  · show (c.entries.set _ _).size ≤ _
    rw [OrderedMap.size_set_of_not_has _ _ _ hfree]
    exact hroom
  · rcases hentry e entry he with ⟨rfl, rfl⟩ | hold
    · exact .inr ⟨rfl, rfl⟩
    · refine (hreset e entry hold).imp_left fun hmapped => ?_
      have hne : entry.session.pairingSessionId ≠ session.pairingSessionId := by
        intro hid
        rw [hid, (OrderedMap.has_false_iff _ _).mp hfree] at hmapped
        cases hmapped
      exact (OrderedMap.get?_set_ne _ _ hne).trans hmapped
  · rcases hp with ⟨e, entry, he, hp⟩ | hcall
    · rcases hentry e entry he with ⟨rfl, -⟩ | hold
      · rcases hp with rfl | hnone
        · exact hknown
        · cases hnone
      · exact .inl ⟨e, entry, hold, hp⟩
    · exact .inr hcall

/-- A socket that has presented the proof is attached to the entry of a session. -/
theorem evolves_attach (h : Core options c) {e : ℕ} {entry : PairingChannelEntry}
    (hentry : c.heap.get? e = some entry)
    (hmapped : c.entries.get? entry.session.pairingSessionId = some e) (socket : Socket)
    {proof : String} (hknown : Known c proof)
    (hproof : digestProof proof = digestProof entry.proof) :
    Evolves options safe drops c (c.modifyEntry e fun entry =>
      { entry with socket := some socket, presented := some proof }) := by
  have hsessions := sessionOf_modifyEntry c e
    (f := fun entry => { entry with socket := some socket, presented := some proof }) fun _ => rfl
  have hback : ∀ j entry', (c.modifyEntry e fun entry =>
      { entry with socket := some socket, presented := some proof }).heap.get? j = some entry' →
        ∃ old, c.heap.get? j = some old ∧ entry'.session = old.session ∧
          entry'.proofDigest = old.proofDigest ∧ entry'.proof = old.proof ∧
          entry'.delivery = old.delivery ∧ (j = e ∧ entry'.presented = some proof ∨
            j ≠ e ∧ entry'.presented = old.presented ∧ entry'.socket = old.socket) := by
    intro j entry' hentry'
    obtain ⟨old, hold, heq⟩ := (Heap.get?_modify_eq_some _ _ _).mp hentry'
    refine ⟨old, hold, ?_⟩
    split_ifs at heq with hj
    · subst heq
      exact ⟨rfl, rfl, rfl, rfl, .inl ⟨hj, rfl⟩⟩
    · subst heq
      exact ⟨rfl, rfl, rfl, rfl, .inr ⟨hj, rfl, rfl⟩⟩
  refine
    { core :=
        { mapped := fun id j hj => (hsessions j).trans (h.mapped id j hj)
          pending := fun j entry' hentry' => ?_
          digest := fun j entry' hentry' => ?_
          attached := fun j entry' socket' hentry' hsocket => ?_
          delivery := fun j entry' d hentry' hd => ?_
          owner := fun d delivery hd => (hsessions _).trans (h.owner d delivery hd)
          current := fun d delivery hd hne => ?_
          waits := h.waits
          waiter := h.waiter
          bounded := h.bounded }
      reset := fun _ hreset j entry' hentry' => ?_
      calls := rfl
      sessions := fun j id hsession => (hsessions j).trans hsession
      deliveries := fun _ delivery hdelivery => ⟨delivery, hdelivery, rfl, rfl⟩
      resolved := fun _ waiter hwaiter hresolved => ⟨waiter, hwaiter, hresolved, rfl⟩
      forgets := fun _ hforget => .inl hforget
      quiet := fun _ heffect _ => heffect
      known := fun p hp => ?_ }
  · obtain ⟨old, hold, hsession, -⟩ := hback j entry' hentry'
    rw [hsession]
    exact h.pending j old hold
  · obtain ⟨old, hold, -, hdigest, hsame, -⟩ := hback j entry' hentry'
    rw [hdigest, hsame]
    exact h.digest j old hold
  · obtain ⟨old, hold, -, -, hsame, -, ⟨rfl, hpresented⟩ | ⟨-, hpresented, hsocket'⟩⟩ :=
      hback j entry' hentry'
    · obtain rfl : old = entry := Option.some.inj (hold.symm.trans hentry)
      exact ⟨proof, hpresented, hproof.trans (congrArg digestProof hsame.symm)⟩
    · rw [hpresented, hsame]
      exact h.attached j old socket' hold (hsocket' ▸ hsocket)
  · obtain ⟨old, hold, -, -, -, hdelivery, -⟩ := hback j entry' hentry'
    exact h.delivery j old d hold (hdelivery ▸ hd)
  · obtain ⟨old, hold, hcurrent⟩ := h.current d delivery hd hne
    refine ⟨_, (Heap.get?_modify_eq_some _ _ _).mpr ⟨old, hold, rfl⟩, ?_⟩
    split_ifs <;> exact hcurrent
  · obtain ⟨old, hold, hsession, -, -, hdelivery, ⟨rfl, -⟩ | ⟨-, -, hsocket⟩⟩ :=
      hback j entry' hentry'
    · obtain rfl : old = entry := Option.some.inj (hold.symm.trans hentry)
      rw [hsession]
      exact .inl hmapped
    · rw [hsession, hdelivery, hsocket]
      exact hreset j old hold
  · rcases hp with ⟨j, entry', hentry', hp⟩ | hcall
    · obtain ⟨old, hold, -, -, hsame, -, hpresented⟩ := hback j entry' hentry'
      rw [hsame] at hp
      rcases hp, hpresented with ⟨hp | hp, ⟨-, hnew⟩ | ⟨-, hkept, -⟩⟩
      · exact .inl ⟨j, old, hold, .inl hp⟩
      · exact .inl ⟨j, old, hold, .inl hp⟩
      · obtain rfl : proof = p := Option.some.inj (hnew.symm.trans hp)
        exact hknown
      · exact .inl ⟨j, old, hold, .inr (hkept ▸ hp)⟩
    · exact .inr hcall

/-- The entry of a session gets its delivery. -/
theorem evolves_newDelivery (h : Core options c) {e : ℕ} {entry : PairingChannelEntry}
    (hentry : c.heap.get? e = some entry)
    (hmapped : c.entries.get? entry.session.pairingSessionId = some e)
    (hnone : entry.delivery = none) {completed : CompletedPairingCredential}
    (hsession : completed.session.pairingSessionId = entry.session.pairingSessionId) :
    Evolves options safe drops c (Coordinator.modifyEntry e
      (fun entry => { entry with delivery := some c.deliveries.next })
      { c with deliveries := c.deliveries.alloc (Segment.newDelivery e completed) }) := by
  have hsessions := sessionOf_modifyEntry c e
    (f := fun entry => { entry with delivery := some c.deliveries.next }) fun _ => rfl
  have hback : ∀ j entry', (c.modifyEntry e fun entry =>
      { entry with delivery := some c.deliveries.next }).heap.get? j = some entry' →
        ∃ old, c.heap.get? j = some old ∧ entry'.session = old.session ∧
          entry'.proofDigest = old.proofDigest ∧ entry'.proof = old.proof ∧
          entry'.presented = old.presented ∧ entry'.socket = old.socket ∧
          (j = e ∧ entry'.delivery = some c.deliveries.next ∨
            j ≠ e ∧ entry'.delivery = old.delivery) := by
    intro j entry' hentry'
    obtain ⟨old, hold, heq⟩ := (Heap.get?_modify_eq_some _ _ _).mp hentry'
    refine ⟨old, hold, ?_⟩
    split_ifs at heq with hj
    · subst heq
      exact ⟨rfl, rfl, rfl, rfl, rfl, .inl ⟨hj, rfl⟩⟩
    · subst heq
      exact ⟨rfl, rfl, rfl, rfl, rfl, .inr ⟨hj, rfl⟩⟩
  have hdeliveries : ∀ d delivery,
      (c.deliveries.alloc (Segment.newDelivery e completed)).get? d = some delivery →
        (d = c.deliveries.next ∧ delivery = Segment.newDelivery e completed) ∨
          c.deliveries.get? d = some delivery := by
    intro d delivery hd
    exact ((Heap.get?_alloc_eq_some _ _).mp hd).imp_left fun hnew => ⟨hnew.1, hnew.2.symm⟩
  refine
    { core :=
        { mapped := fun id j hj => (hsessions j).trans (h.mapped id j hj)
          pending := fun j entry' hentry' => ?_
          digest := fun j entry' hentry' => ?_
          attached := fun j entry' socket hentry' hsocket => ?_
          delivery := fun j entry' d hentry' hd => ?_
          owner := fun d delivery hd => (hsessions _).trans ?_
          current := fun d delivery hd hne => ?_
          waits := fun d delivery w hd hw => ?_
          waiter := fun w waiter hwaiter => ?_
          bounded := h.bounded }
      reset := fun _ hreset j entry' hentry' => ?_
      calls := rfl
      sessions := fun j id hid => (hsessions j).trans hid
      deliveries := fun d delivery hd =>
        ⟨delivery, Heap.get?_alloc_of_some hd _, rfl, rfl⟩
      resolved := fun _ waiter hwaiter hresolved => ⟨waiter, hwaiter, hresolved, rfl⟩
      forgets := fun _ hforget => .inl hforget
      quiet := fun _ heffect _ => heffect
      known := fun _ => known_of_heap rfl fun j entry' hentry' => ?_ }
  · obtain ⟨old, hold, hsame, -⟩ := hback j entry' hentry'
    rw [hsame]
    exact h.pending j old hold
  · obtain ⟨old, hold, -, hdigest, hproof, -⟩ := hback j entry' hentry'
    rw [hdigest, hproof]
    exact h.digest j old hold
  · obtain ⟨old, hold, -, -, hproof, hpresented, hsame, -⟩ := hback j entry' hentry'
    rw [hproof, hpresented]
    exact h.attached j old socket hold (hsame ▸ hsocket)
  · obtain ⟨old, hold, -, -, -, -, -, ⟨rfl, hnew⟩ | ⟨-, hsame⟩⟩ := hback j entry' hentry'
    · obtain rfl : c.deliveries.next = d := Option.some.inj (hnew.symm.trans hd)
      refine ⟨Segment.newDelivery j completed, ?_, rfl⟩
      show (c.deliveries.alloc _).get? _ = _
      rw [Heap.get?_alloc, if_pos rfl]
    · obtain ⟨delivery, hdelivery, howner⟩ := h.delivery j old d hold (hsame ▸ hd)
      exact ⟨delivery, Heap.get?_alloc_of_some hdelivery _, howner⟩
  · rcases hdeliveries d delivery hd with ⟨-, rfl⟩ | hold
    · show c.sessionOf e = some completed.session.pairingSessionId
      rw [hsession, Coordinator.sessionOf, hentry]
      rfl
    · exact h.owner d delivery hold
  · rcases hdeliveries d delivery hd with ⟨-, rfl⟩ | hold
    · exact absurd rfl hne
    · obtain ⟨old, hcurrent, hdelivery⟩ := h.current d delivery hold hne
      have hother : delivery.entry ≠ e := by
        intro heq
        rw [heq, hentry] at hcurrent
        rw [← Option.some.inj hcurrent, hnone] at hdelivery
        cases hdelivery
      exact ⟨old, (Heap.get?_modify_ne _ hother _).trans hcurrent, hdelivery⟩
  · rcases hdeliveries d delivery hd with ⟨-, rfl⟩ | hold
    · cases hw
    · exact h.waits d delivery w hold hw
  · obtain ⟨htimer, honce, delivery, hdelivery, hopen⟩ := h.waiter w waiter hwaiter
    exact ⟨htimer, honce, delivery, Heap.get?_alloc_of_some hdelivery _, hopen⟩
  · obtain ⟨old, hold, hsame, -, -, -, hsocket, ⟨rfl, -⟩ | ⟨-, hdelivery⟩⟩ :=
      hback j entry' hentry'
    · obtain rfl : old = entry := Option.some.inj (hold.symm.trans hentry)
      rw [hsame]
      exact .inl hmapped
    · rw [hsame, hsocket, hdelivery]
      exact hreset j old hold
  · obtain ⟨old, hold, -, -, hproof, hpresented, -⟩ := hback j entry' hentry'
    exact ⟨old, hold, hproof, hpresented⟩

/-- The delivery that an entry has gets one more waiter. -/
theorem evolves_newWaiter (h : Core options c) {d : ℕ} {delivery : PendingDelivery}
    (hd : c.deliveries.get? d = some delivery) {entry : PairingChannelEntry}
    (hentry : c.heap.get? delivery.entry = some entry) (hcurrent : entry.delivery = some d) :
    Evolves options safe drops c { c with
      waiters := c.waiters.alloc ⟨d, true, []⟩
      deliveries := c.deliveries.modify d fun delivery =>
        { delivery with waiters := delivery.waiters ++ [c.waiters.next] } } := by
  have hback : ∀ j delivery', (c.deliveries.modify d fun delivery =>
      { delivery with waiters := delivery.waiters ++ [c.waiters.next] }).get? j = some delivery' →
        ∃ old, c.deliveries.get? j = some old ∧ delivery'.entry = old.entry ∧
          delivery'.completed = old.completed ∧ (delivery'.waiters = old.waiters ∨
            j = d ∧ delivery'.waiters = old.waiters ++ [c.waiters.next]) := by
    intro j delivery' hdelivery'
    obtain ⟨old, hold, heq⟩ := (Heap.get?_modify_eq_some _ _ _).mp hdelivery'
    refine ⟨old, hold, ?_⟩
    split_ifs at heq with hj
    · subst heq
      exact ⟨rfl, rfl, .inr ⟨hj, rfl⟩⟩
    · subst heq
      exact ⟨rfl, rfl, .inl rfl⟩
  have hforth : ∀ j old, c.deliveries.get? j = some old → ∃ delivery',
      (c.deliveries.modify d fun delivery =>
        { delivery with waiters := delivery.waiters ++ [c.waiters.next] }).get? j =
          some delivery' ∧ delivery'.entry = old.entry ∧ delivery'.completed = old.completed ∧
        ∀ w ∈ old.waiters, w ∈ delivery'.waiters := by
    intro j old hold
    refine ⟨_, (Heap.get?_modify_eq_some _ _ _).mpr ⟨old, hold, rfl⟩, ?_⟩
    split_ifs
    · exact ⟨rfl, rfl, fun w hw => List.mem_append_left _ hw⟩
    · exact ⟨rfl, rfl, fun w hw => hw⟩
  have hnext : (c.deliveries.modify d fun delivery =>
      { delivery with waiters := delivery.waiters ++ [c.waiters.next] }).get? d =
        some { delivery with waiters := delivery.waiters ++ [c.waiters.next] } := by
    rw [Heap.get?_modify_self, hd]
    rfl
  refine
    { core :=
        { mapped := h.mapped
          pending := h.pending
          digest := h.digest
          attached := h.attached
          delivery := fun e entry j hentry hj => ?_
          owner := fun j delivery' hdelivery' => ?_
          current := fun j delivery' hdelivery' hne => ?_
          waits := fun j delivery' w hdelivery' hw => ?_
          waiter := fun w waiter hwaiter => ?_
          bounded := h.bounded }
      reset := fun _ hreset => hreset
      calls := rfl
      sessions := fun _ _ hsession => hsession
      deliveries := fun j old hold => ?_
      resolved := fun w waiter hwaiter hresolved => ?_
      forgets := fun _ hforget => .inl hforget
      quiet := fun _ heffect _ => heffect
      known := fun _ hknown => hknown }
  · obtain ⟨old, hold, howner⟩ := h.delivery e entry j hentry hj
    obtain ⟨delivery', hdelivery', hsame, -⟩ := hforth j old hold
    exact ⟨delivery', hdelivery', hsame.trans howner⟩
  · obtain ⟨old, hold, hsame, hcompleted, -⟩ := hback j delivery' hdelivery'
    rw [hsame, hcompleted]
    exact h.owner j old hold
  · obtain ⟨old, hold, hsame, -, hwaiters | ⟨rfl, -⟩⟩ := hback j delivery' hdelivery'
    · rw [hsame]
      exact h.current j old hold (hwaiters ▸ hne)
    · obtain rfl : old = delivery := Option.some.inj (hold.symm.trans hd)
      rw [hsame]
      exact ⟨entry, hentry, hcurrent⟩
  · obtain ⟨old, hold, -, -, hwaiters⟩ := hback j delivery' hdelivery'
    have hcase : w ∈ old.waiters ∨ (j = d ∧ w = c.waiters.next) := by
      rcases hwaiters with hsame | ⟨hj, hmore⟩
      · exact .inl (hsame ▸ hw)
      · rw [hmore, List.mem_append, List.mem_singleton] at hw
        exact hw.imp_right fun hw => ⟨hj, hw⟩
    rcases hcase with hold' | ⟨rfl, rfl⟩
    · obtain ⟨waiter, hwaiter, hdelivery, hopen⟩ := h.waits j old w hold hold'
      exact ⟨waiter, Heap.get?_alloc_of_some hwaiter _, hdelivery, hopen⟩
    · refine ⟨⟨j, true, []⟩, ?_, rfl, rfl⟩
      show (c.waiters.alloc _).get? _ = _
      rw [Heap.get?_alloc, if_pos rfl]
  · rcases (Heap.get?_alloc_eq_some _ _).mp hwaiter with ⟨rfl, rfl⟩ | hold
    · exact ⟨by simp, by simp, _, hnext, fun _ =>
        List.mem_append_right _ (List.mem_singleton.mpr rfl)⟩
    · obtain ⟨htimer, honce, old, holdDelivery, hopen⟩ := h.waiter w waiter hold
      obtain ⟨delivery', hdelivery', -, -, hmono⟩ := hforth _ old holdDelivery
      exact ⟨htimer, honce, delivery', hdelivery', fun hnil => hmono w (hopen hnil)⟩
  · obtain ⟨delivery', hdelivery', hsame, hcompleted, -⟩ := hforth j old hold
    exact ⟨delivery', hdelivery', hsame, hcompleted⟩
  · rcases (Heap.get?_alloc_eq_some _ _).mp hwaiter with ⟨rfl, rfl⟩ | hold
    · cases hresolved
    · exact ⟨waiter, hold, hresolved, rfl⟩

end Doctmcp.Channel

import Doctmcp.Routing.ClientRegistry

/-! # One MCP client for a session

A session gets a second `#connect` only when the promise of the first was deleted, and that happens
only when the session has gone: where a `#connect` fails, it closes the transport in the same turn.
So a session has one transport at most, and the calls on it share its client. -/

namespace Doctmcp.Routing.ClientRegistry
open Doctmcp.Lib Doctmcp.Gateway Doctmcp.Bridge
set_option autoImplicit false

def ConnectPhase.Failed (phase : ConnectPhase) : Prop :=
  phase = .closingTransport ∨ phase = .rejected

/-! ## The invariant -/

/-- Every transport was made by one `#connect`. -/
structure Sessions (scenes : ℕ → Scene) (connects : Heap Connect) : Prop where
  inv : ∀ session, (scenes session).Inv
  bindings : ∀ session, (scenes session).Bindings
  shut : ∀ session, (scenes session).Shut
  owned : ∀ session ref, ref < (scenes session).transports.next →
    ∃ k c, connects.get? k = some c ∧ c.session = session ∧ c.transport = ref
  there : ∀ k c, connects.get? k = some c → c.transport < (scenes c.session).transports.next

/-- What `bySession` has to do with the connects. -/
structure Cache (scenes : ℕ → Scene) (connects : Heap Connect) (bySession : ℕ → Option ℕ) :
    Prop where
  unique : ∀ k k' c c', connects.get? k = some c → connects.get? k' = some c' →
    c.session = c'.session → k = k'
  cached : ∀ session k, bySession session = some k →
    ∃ c, connects.get? k = some c ∧ c.session = session ∧ ¬ c.phase.Failed
  /-- The `#connect` of a session that is ready is in the cache. -/
  live : ∀ k c, connects.get? k = some c → (scenes c.session).session.state = .ready →
    bySession c.session = some k
  gone : ∀ k c, connects.get? k = some c → c.phase ≠ .connecting → c.phase ≠ .resolved →
    (scenes c.session).session.Gone

/-- Every entry in the set is that of a `#connect` that resolved, with a transport that is open. -/
def Opened (scenes : ℕ → Scene) (connects : Heap Connect) (entries : List ℕ) : Prop :=
  ∀ k ∈ entries, ∃ c t, connects.get? k = some c ∧ c.phase = .resolved ∧
    (scenes c.session).transports.get? c.transport = some t ∧ t.state ≠ .closed

/-- A call awaits and uses the `#connect` of its session. -/
structure Uses (connects : Heap Connect) (calls : Heap Call) : Prop where
  pending : ∀ i call k, calls.get? i = some call → call.pending = some k →
    ∃ c, connects.get? k = some c ∧ call.session = some c.session
  entry : ∀ i call k, calls.get? i = some call → call.entry = some k →
    ∃ c, connects.get? k = some c ∧ call.session = some c.session ∧ c.phase = .resolved
  resolving : ∀ i call, calls.get? i = some call → call.phase = .resolving →
    call.pending = none ∧ call.entry = none

structure Kept (w : World) : Prop where
  sessions : Sessions w.scenes w.connects
  cache : Cache w.scenes w.connects w.bySession
  opened : Opened w.scenes w.connects w.entries
  uses : Uses w.connects w.calls

theorem kept_initial (state : ℕ → GatewaySessionState) (onmessage onclose : ℕ → Bool) :
    Kept (.initial state onmessage onclose) where
  sessions :=
    { inv := fun session => Scene.inv_initial _
      bindings := fun session => Scene.bindings_initial _ _ _
      shut := fun session => Scene.shut_initial _
      owned := fun session ref h => absurd h (Nat.not_lt_zero ref)
      there := fun k c h => by cases h }
  cache :=
    { unique := fun k k' c c' h => by cases h
      cached := fun session k h => by cases h
      live := fun k c h => by cases h
      gone := fun k c h => by cases h }
  opened := fun k h => by cases h
  uses :=
    { pending := fun i call k h => by cases h
      entry := fun i call k h => by cases h
      resolving := fun i call h => by cases h }

/-! ## Sessions that go on -/

section Sessions
variable {scenes : ℕ → Scene} {connects : Heap Connect}

/-- The session of a `#connect` is past its handshake. -/
theorem Sessions.met (h : Sessions scenes connects) {k : ℕ} {c : Connect}
    (hk : connects.get? k = some c) : (scenes c.session).session.state ≠ .handshaking := by
  obtain ⟨t, ht⟩ := Heap.exists_get?_iff.mpr (h.there k c hk)
  exact (h.shut c.session).met c.transport t ht

theorem Sessions.stage (h : Sessions scenes connects) (session : ℕ) {e : Bridge.Event}
    (he : e ≠ .create) (j : ℕ) :
    (scenes j).session.state.stage ≤
      (Function.update scenes session ((scenes session).step e) j).session.state.stage := by
  by_cases hj : j = session
  · subst hj
    rw [Function.update_self]
    exact ((h.shut j).step (h.inv j) he).2
  · rw [Function.update_of_ne hj]

theorem Sessions.step (h : Sessions scenes connects) (session : ℕ) {e : Bridge.Event}
    (he : e ≠ .create) :
    Sessions (Function.update scenes session ((scenes session).step e)) connects := by
  have hnext : ∀ j, (Function.update scenes session ((scenes session).step e) j).transports.next =
      (scenes j).transports.next := by
    intro j
    by_cases hj : j = session
    · subst hj
      rw [Function.update_self]
      exact Scene.step_next he
    · rw [Function.update_of_ne hj]
  constructor
  · exact (Function.forall_update_iff scenes fun _ => Scene.Inv).mpr
      ⟨(h.inv session).step e, fun j _ => h.inv j⟩
  · exact (Function.forall_update_iff scenes fun _ => Scene.Bindings).mpr
      ⟨(h.bindings session).step e, fun j _ => h.bindings j⟩
  · exact (Function.forall_update_iff scenes fun _ => Scene.Shut).mpr
      ⟨((h.shut session).step (h.inv session) he).1, fun j _ => h.shut j⟩
  · intro j ref href
    rw [hnext] at href
    exact h.owned j ref href
  · intro k c hk
    rw [hnext]
    exact h.there k c hk

/-- A session that goes on is ready afterwards only if it was before. -/
theorem Cache.step {bySession : ℕ → Option ℕ} (h : Cache scenes connects bySession)
    (hsessions : Sessions scenes connects) (session : ℕ) {e : Bridge.Event} (he : e ≠ .create) :
    Cache (Function.update scenes session ((scenes session).step e)) connects bySession where
  unique := h.unique
  cached := h.cached
  live k c hk hready := by
    refine h.live k c hk ?_
    by_contra hnot
    refine SessionObject.Gone.not_ready (Scene.gone_of_stage
      (hsessions.stage session he c.session) ?_) hready
    exact SessionObject.gone_of_not_ready (hsessions.met hk) hnot
  gone k c hk hconnecting hresolved :=
    Scene.gone_of_stage (hsessions.stage session he c.session) (h.gone k c hk hconnecting hresolved)

end Sessions

variable {w : World}

/-- A transport that is closed calls `onclose`, which deletes its entry. -/
theorem Kept.opened_scene (h : Kept w) (session : ℕ) {e : Bridge.Event} (he : e ≠ .create) :
    Opened (w.scene session e).scenes w.connects (w.scene session e).entries := by
  intro k hk
  obtain ⟨hmem, hkept⟩ := List.mem_filter.mp hk
  obtain ⟨c, t, hc, hphase, ht, hopen⟩ := h.opened k hmem
  have hsessions := h.sessions.step session he
  obtain ⟨t', ht'⟩ := Heap.exists_get?_iff.mpr (hsessions.there k c hc)
  refine ⟨c, t', hc, hphase, ht', ?_⟩
  have hbefore : w.closes c = 0 := by
    unfold World.closes World.transport
    rw [ht]
    show t.effects.count .onclose = 0
    rw [(h.sessions.inv c.session).closes ht, if_neg hopen]
  unfold World.hasClosed at hkept
  dsimp only at hkept
  rw [hc] at hkept
  dsimp only at hkept
  rw [hbefore] at hkept
  intro hclosed
  have hafter := (hsessions.inv c.session).closes ht'
  rw [if_pos hclosed] at hafter
  unfold World.closes World.transport at hkept
  dsimp only at hkept
  rw [ht'] at hkept
  simp [hafter] at hkept

theorem Kept.scene (h : Kept w) (session : ℕ) {e : Bridge.Event} (he : e ≠ .create) :
    Kept (w.scene session e) where
  sessions := h.sessions.step session he
  cache := h.cache.step h.sessions session he
  opened := h.opened_scene session he
  uses := h.uses

/-- The transport of a `#connect` is closed. -/
theorem Kept.closeTransport (h : Kept w) (c : Connect) :
    Kept (w.scene c.session (.close c.transport)) :=
  h.scene c.session fun hfalse => by cases hfalse

/-- What `transport.close` does to the session of a `#connect`. -/
theorem Kept.close_gone (h : Kept w) {k : ℕ} {c : Connect} (hk : w.connects.get? k = some c) :
    ((w.scene c.session (.close c.transport)).session c.session).Gone := by
  obtain ⟨t, ht⟩ := Heap.exists_get?_iff.mpr (h.sessions.there k c hk)
  have hgone := (h.sessions.shut c.session).close_gone ht
  unfold World.session World.scene
  dsimp only
  rw [Function.update_self]
  exact hgone

/-! ## Connecting -/

/-- A `#connect` goes on: one that has resolved stays so, and one that has failed is not in the cache
and has a session that has gone. -/
theorem Kept.setConnect (h : Kept w) {k : ℕ} {f : Connect → Connect}
    (hsame : ∀ c, (f c).session = c.session ∧ (f c).transport = c.transport)
    (hresolved : ∀ c, w.connects.get? k = some c → c.phase = .resolved → (f c).phase = .resolved)
    (hfailed : ∀ c, w.connects.get? k = some c → (f c).phase.Failed →
      w.bySession c.session ≠ some k)
    (hgone : ∀ c, w.connects.get? k = some c → (f c).phase ≠ .connecting → (f c).phase ≠ .resolved →
      (w.session c.session).Gone) : Kept (w.setConnect k f) := by
  have hold : ∀ {j c}, (w.connects.modify k f).get? j = some c → ∃ old, w.connects.get? j = some old ∧
      c.session = old.session ∧ c.transport = old.transport := by
    intro j c hj
    obtain ⟨old, hget, hif⟩ := (Heap.get?_modify_eq_some _ _ _).mp hj
    split_ifs at hif
    · rw [← hif]
      exact ⟨old, hget, (hsame old).1, (hsame old).2⟩
    · rw [← hif]
      exact ⟨old, hget, rfl, rfl⟩
  have hnew : ∀ {j old}, w.connects.get? j = some old → ∃ c, (w.connects.modify k f).get? j = some c ∧
      c.session = old.session ∧ c.transport = old.transport ∧
      (c = old ∨ j = k ∧ c = f old) := by
    intro j old hget
    refine ⟨_, (Heap.get?_modify_eq_some _ _ _).mpr ⟨old, hget, rfl⟩, ?_⟩
    split_ifs with hj
    · exact ⟨(hsame old).1, (hsame old).2, .inr ⟨hj, rfl⟩⟩
    · exact ⟨rfl, rfl, .inl rfl⟩
  have hkeeps : ∀ {j old}, w.connects.get? j = some old → old.phase = .resolved →
      ∃ c, (w.connects.modify k f).get? j = some c ∧ c.session = old.session ∧
        c.transport = old.transport ∧ c.phase = .resolved := by
    intro j old hget hphase
    obtain ⟨c, hc, hsession, htransport, hcase⟩ := hnew hget
    refine ⟨c, hc, hsession, htransport, ?_⟩
    rcases hcase with rfl | ⟨rfl, rfl⟩
    · exact hphase
    · exact hresolved old hget hphase
  refine ⟨⟨h.sessions.inv, h.sessions.bindings, h.sessions.shut, ?_, ?_⟩, ⟨?_, ?_, ?_, ?_⟩, ?_,
    ?_, ?_, h.uses.resolving⟩
  · intro session ref href
    obtain ⟨j, old, hget, hsession, htransport⟩ := h.sessions.owned session ref href
    obtain ⟨c, hc, hsession', htransport', -⟩ := hnew hget
    exact ⟨j, c, hc, hsession'.trans hsession, htransport'.trans htransport⟩
  · intro j c hj
    obtain ⟨old, hget, hsession, htransport⟩ := hold hj
    rw [hsession, htransport]
    exact h.sessions.there j old hget
  · intro j j' c c' hj hj' heq
    obtain ⟨old, hget, hsession, -⟩ := hold hj
    obtain ⟨old', hget', hsession', -⟩ := hold hj'
    refine h.cache.unique j j' old old' hget hget' ?_
    rw [← hsession, heq, hsession']
  · intro session j hcached
    obtain ⟨old, hget, hsession, hphase⟩ := h.cache.cached session j hcached
    obtain ⟨c, hc, hsession', -, hcase⟩ := hnew hget
    refine ⟨c, hc, hsession'.trans hsession, ?_⟩
    rcases hcase with rfl | ⟨rfl, rfl⟩
    · exact hphase
    · intro hfail
      refine hfailed old hget hfail ?_
      rw [hsession]
      exact hcached
  · intro j c hj hready
    obtain ⟨old, hget, hsession, -⟩ := hold hj
    rw [hsession] at hready ⊢
    exact h.cache.live j old hget hready
  · intro j c hj hconnecting hresolved'
    obtain ⟨old, hget, hif⟩ := (Heap.get?_modify_eq_some _ _ _).mp hj
    split_ifs at hif with hjk
    · subst hjk
      rw [← hif] at hconnecting hresolved' ⊢
      rw [(hsame old).1]
      exact hgone old hget hconnecting hresolved'
    · rw [← hif] at hconnecting hresolved' ⊢
      exact h.cache.gone j old hget hconnecting hresolved'
  · intro j hmem
    obtain ⟨old, t, hget, hphase, ht, hopen⟩ := h.opened j hmem
    obtain ⟨c, hc, hsession, htransport, hphase'⟩ := hkeeps hget hphase
    refine ⟨c, t, hc, hphase', ?_, hopen⟩
    rw [hsession, htransport]
    exact ht
  · intro i call j hcall hpending
    obtain ⟨old, hget, hsession⟩ := h.uses.pending i call j hcall hpending
    obtain ⟨c, hc, hsession', -, -⟩ := hnew hget
    exact ⟨c, hc, hsession.trans (congrArg some hsession'.symm)⟩
  · intro i call j hcall hentry
    obtain ⟨old, hget, hsession, hphase⟩ := h.uses.entry i call j hcall hentry
    obtain ⟨c, hc, hsession', -, hphase'⟩ := hkeeps hget hphase
    exact ⟨c, hc, hsession.trans (congrArg some hsession'.symm), hphase'⟩

/-- The cache forgets a session that has gone. -/
theorem Kept.forget (h : Kept w) {session : ℕ} (hgone : (w.session session).Gone) :
    Kept (w.forget session) where
  sessions := h.sessions
  cache :=
    { unique := h.cache.unique
      cached := fun j k hcached => by
        unfold World.forget at hcached
        dsimp only at hcached
        by_cases hj : j = session
        · subst hj
          rw [Function.update_self] at hcached
          cases hcached
        · rw [Function.update_of_ne hj] at hcached
          exact h.cache.cached j k hcached
      live := fun k c hk hready => by
        have hother : c.session ≠ session := by
          intro hsame
          rw [← hsame] at hgone
          exact hgone.not_ready hready
        unfold World.forget
        dsimp only
        rw [Function.update_of_ne hother]
        exact h.cache.live k c hk hready
      gone := h.cache.gone }
  opened := h.opened
  uses := h.uses

/-- A `#connect` that fails is forgotten, and its session has gone. -/
theorem Kept.connectFailed (h : Kept w) {k : ℕ} {c : Connect} (hk : w.connects.get? k = some c)
    (hphase : c.phase ≠ .resolved) : Kept (w.connectFailed k c) := by
  obtain ⟨t, ht⟩ := Heap.exists_get?_iff.mpr (h.sessions.there k c hk)
  have hsame : ∀ {w' : World}, w'.connects.get? k = some c → ∀ c', w'.connects.get? k = some c' →
      c' = c := fun hk c' hk' => Option.some.inj (hk'.symm.trans hk)
  unfold World.connectFailed
  dsimp only
  by_cases hclosed : t.state = .closed
  · have hgone : (w.session c.session).Gone :=
      (h.sessions.shut c.session).past c.transport t ht (.inr hclosed)
    rw [if_pos (show ((w.forget c.session).transport c).map (·.state) = some .closed from by
      rw [show (w.forget c.session).transport c = some t from ht, Option.map_some, hclosed])]
    refine (h.forget hgone).setConnect (fun _ => ⟨rfl, rfl⟩) ?_ ?_ ?_
    · intro c' hk' hresolved
      rw [hsame hk c' hk'] at hresolved
      exact absurd hresolved hphase
    · intro c' hk' _
      rw [hsame hk c' hk']
      show Function.update w.bySession c.session none c.session ≠ some k
      rw [Function.update_self]
      exact nofun
    · intro c' hk' _ _
      rw [hsame hk c' hk']
      exact hgone
  · rw [if_neg (show ¬ ((w.forget c.session).transport c).map (·.state) = some .closed from by
      rw [show (w.forget c.session).transport c = some t from ht, Option.map_some]
      exact fun heq => hclosed (Option.some.inj heq))]
    have hgone := h.close_gone hk
    have hforgot : Kept ((w.forget c.session).scene c.session (.close c.transport)) :=
      (h.closeTransport c).forget hgone
    refine hforgot.setConnect (fun _ => ⟨rfl, rfl⟩) ?_ ?_ ?_
    · intro c' hk' hresolved
      rw [hsame hk c' hk'] at hresolved
      exact absurd hresolved hphase
    · intro c' hk' _
      rw [hsame hk c' hk']
      show Function.update w.bySession c.session none c.session ≠ some k
      rw [Function.update_self]
      exact nofun
    · intro c' hk' _ _
      rw [hsame hk c' hk']
      exact hgone

theorem Kept.clientStart (h : Kept w) (k : ℕ) : Kept (w.clientStart k) := by
  unfold World.clientStart
  cases hk : w.connects.get? k with
  | none => exact h
  | some c =>
    dsimp only
    split_ifs with hphase
    · have hscene : Kept (w.scene c.session (.start c.transport)) :=
        h.scene c.session fun hfalse => by cases hfalse
      refine hscene.setConnect (fun _ => ⟨rfl, rfl⟩) (fun _ _ => id) ?_ ?_
      · intro c' hk' hfailed
        obtain rfl := Option.some.inj (hk'.symm.trans hk)
        unfold ConnectPhase.Failed at hfailed
        rw [show ({ c' with started := true } : Connect).phase = .connecting from hphase.1] at hfailed
        rcases hfailed with hfalse | hfalse
        · cases hfalse
        · cases hfalse
      · intro c' hk' hconnecting _
        obtain rfl := Option.some.inj (hk'.symm.trans hk)
        exact absurd hphase.1 hconnecting
    · exact h

theorem Kept.resolve (h : Kept w) (k : ℕ) :
    Kept (w.setConnect k fun c => { c with phase := .resolved }) := by
  refine h.setConnect (fun _ => ⟨rfl, rfl⟩) (fun _ _ _ => rfl) ?_ ?_
  · intro c' _ hfailed
    rcases hfailed with hfalse | hfalse
    · cases hfalse
    · cases hfalse
  · intro c' _ _ hfalse
    exact absurd rfl hfalse

theorem Kept.connectSettled (h : Kept w) (k : ℕ) (resolves : Bool) :
    Kept (w.connectSettled k resolves) := by
  unfold World.connectSettled
  cases hk : w.connects.get? k with
  | none => exact h
  | some c =>
    have hsame : ∀ c', w.connects.get? k = some c' → c' = c :=
      fun c' hk' => Option.some.inj (hk'.symm.trans hk)
    dsimp only
    by_cases hphase : c.phase = .connecting
    · rw [if_neg (not_not.mpr hphase)]
      split_ifs with hrejects hstarted hclosed hmem
      · refine h.connectFailed hk ?_
        rw [hphase]
        exact nofun
      · exact h
      · refine (h.closeTransport c).setConnect (fun _ => ⟨rfl, rfl⟩) ?_ ?_ ?_
        · intro c' hk' hresolved
          rw [hsame c' hk', hphase] at hresolved
          cases hresolved
        · intro c' hk' hfailed
          rcases hfailed with hfalse | hfalse
          · cases hfalse
          · cases hfalse
        · intro c' hk' _ _
          rw [hsame c' hk']
          exact h.close_gone hk
      · exact h.resolve k
      · have hresolved := h.resolve k
        refine ⟨hresolved.sessions, hresolved.cache, ?_, hresolved.uses⟩
        intro j hj
        rcases List.mem_append.mp hj with hold | hnew
        · exact hresolved.opened j hold
        · obtain rfl := List.mem_singleton.mp hnew
          obtain ⟨t, ht⟩ := Heap.exists_get?_iff.mpr (h.sessions.there j c hk)
          refine ⟨{ c with phase := .resolved }, t, ?_, rfl, ht, ?_⟩
          · exact (Heap.get?_modify_eq_some _ _ _).mpr ⟨c, hk, if_pos rfl⟩
          · -- The session is ready, so the transport is not closed.
            intro hpast
            refine hclosed (.inr ?_)
            exact ((h.sessions.shut c.session).past c.transport t ht (.inr hpast)).not_ready
    · rw [if_pos hphase]
      exact h

theorem Kept.clientCloseSettled (h : Kept w) (k : ℕ) : Kept (w.clientCloseSettled k) := by
  unfold World.clientCloseSettled
  cases hk : w.connects.get? k with
  | none => exact h
  | some c =>
    dsimp only
    split_ifs with hphase
    · refine h.connectFailed hk ?_
      rw [hphase]
      exact nofun
    · exact h

theorem Kept.transportCloseSettled (h : Kept w) (k : ℕ) : Kept (w.transportCloseSettled k) := by
  unfold World.transportCloseSettled
  cases hk : w.connects.get? k with
  | none => exact h
  | some c =>
    have hsame : ∀ c', w.connects.get? k = some c' → c' = c :=
      fun c' hk' => Option.some.inj (hk'.symm.trans hk)
    dsimp only
    split_ifs with hphase
    · refine h.setConnect (fun _ => ⟨rfl, rfl⟩) ?_ ?_ ?_
      · intro c' hk' hresolved
        rw [hsame c' hk', hphase] at hresolved
        cases hresolved
      · intro c' hk' _ hcached
        obtain ⟨c'', hk'', -, hfailed⟩ := h.cache.cached c'.session k hcached
        rw [hsame c'' hk''] at hfailed
        exact hfailed (.inl hphase)
      · intro c' hk' _ _
        rw [hsame c' hk']
        refine h.cache.gone k c hk ?_ ?_
        · rw [hphase]
          exact nofun
        · rw [hphase]
          exact nofun
    · exact h

/-- A session that is ready and has no promise in the cache has had no `#connect`. -/
theorem Kept.connect (h : Kept w) {session : ℕ} (hready : (w.session session).state = .ready)
    (hnone : w.bySession session = none) : Kept (w.connect session) := by
  have hfirst : ∀ k c, w.connects.get? k = some c → c.session ≠ session := by
    intro k c hk hsame
    have hlive := h.cache.live k c hk (hsame ▸ hready)
    rw [hsame, hnone] at hlive
    cases hlive
  have hscene : ∀ j, (w.connect session).scenes j =
      if j = session then (w.scenes session).step .create else w.scenes j := by
    intro j
    by_cases hj : j = session
    · subst hj
      rw [if_pos rfl]
      exact Function.update_self _ _ _
    · rw [if_neg hj]
      exact Function.update_of_ne hj _ _
  have hthere : ∀ {j ref t}, (w.scenes j).transports.get? ref = some t →
      ((w.connect session).scenes j).transports.get? ref = some t := by
    intro j ref t ht
    rw [hscene]
    split_ifs with hj
    · rw [hj] at ht
      exact Heap.get?_alloc_of_some ht _
    · exact ht
  have hstate : ∀ j, ((w.connect session).scenes j).session = (w.scenes j).session := by
    intro j
    rw [hscene]
    split_ifs with hj
    · rw [hj]
      rfl
    · rfl
  have hnew : ∀ {k c}, (w.connect session).connects.get? k = some c →
      (k = w.connects.next ∧ c.session = session ∧ c.phase = .connecting ∧
        c.transport = (w.scenes session).transports.next) ∨ w.connects.get? k = some c := by
    intro k c hk
    rcases (Heap.get?_alloc_eq_some _ _).mp hk with ⟨rfl, rfl⟩ | hold
    · exact .inl ⟨rfl, rfl, rfl, rfl⟩
    · exact .inr hold
  have hold : ∀ {k c}, w.connects.get? k = some c → (w.connect session).connects.get? k = some c :=
    fun hk => Heap.get?_alloc_of_some hk _
  have hself : (w.connect session).connects.get? w.connects.next =
      some ⟨session, (w.scenes session).transports.next, false, .connecting⟩ :=
    (Heap.get?_alloc_eq_some _ _).mpr (.inl ⟨rfl, rfl⟩)
  refine ⟨⟨?_, ?_, ?_, ?_, ?_⟩, ⟨?_, ?_, ?_, ?_⟩, ?_,
    ⟨?_, ?_, h.uses.resolving⟩⟩
  · intro j
    rw [hscene]
    split_ifs
    · exact (h.sessions.inv session).step .create
    · exact h.sessions.inv j
  · intro j
    rw [hscene]
    split_ifs
    · exact (h.sessions.bindings session).step .create
    · exact h.sessions.bindings j
  · intro j
    rw [hscene]
    split_ifs
    · refine (h.sessions.shut session).create ?_
      rw [show (w.scenes session).session.state = .ready from hready]
      exact nofun
    · exact h.sessions.shut j
  · intro j ref href
    rw [hscene] at href
    split_ifs at href with hj
    · change ref < ((w.scenes session).transports.alloc _).next at href
      rw [Heap.next_alloc] at href
      rcases Nat.lt_succ_iff_lt_or_eq.mp href with hlt | heq
      · obtain ⟨k, c, hk, hsession, htransport⟩ := h.sessions.owned session ref hlt
        exact ⟨k, c, hold hk, hsession.trans hj.symm, htransport⟩
      · exact ⟨_, _, hself, hj.symm, heq.symm⟩
    · obtain ⟨k, c, hk, hboth⟩ := h.sessions.owned j ref href
      exact ⟨k, c, hold hk, hboth⟩
  · intro k c hk
    rcases hnew hk with ⟨-, hsession, -, htransport⟩ | hk
    · rw [hscene, hsession, if_pos rfl, htransport]
      show _ < ((w.scenes session).transports.alloc _).next
      rw [Heap.next_alloc]
      exact Nat.lt_succ_self _
    · obtain ⟨t, ht⟩ := Heap.exists_get?_iff.mpr (h.sessions.there k c hk)
      exact Heap.exists_get?_iff.mp ⟨t, hthere ht⟩
  · intro k k' c c' hk hk' hsame
    rcases hnew hk with ⟨hkey, hsession, -, -⟩ | hk
    · rcases hnew hk' with ⟨hkey', -, -, -⟩ | hk'
      · exact hkey.trans hkey'.symm
      · exact absurd (hsame.symm.trans hsession) (hfirst k' c' hk')
    · rcases hnew hk' with ⟨-, hsession', -, -⟩ | hk'
      · exact absurd (hsame.trans hsession') (hfirst k c hk)
      · exact h.cache.unique k k' c c' hk hk' hsame
  · intro j k hcached
    change Function.update w.bySession session (some w.connects.next) j = some k at hcached
    by_cases hj : j = session
    · subst hj
      rw [Function.update_self] at hcached
      cases hcached
      refine ⟨_, hself, rfl, ?_⟩
      intro hfailed
      rcases hfailed with hfalse | hfalse
      · cases hfalse
      · cases hfalse
    · rw [Function.update_of_ne hj] at hcached
      obtain ⟨c, hk, hboth⟩ := h.cache.cached j k hcached
      exact ⟨c, hold hk, hboth⟩
  · intro k c hk hready'
    show Function.update w.bySession session (some w.connects.next) c.session = some k
    rcases hnew hk with ⟨rfl, hsession, -, -⟩ | hk
    · rw [hsession, Function.update_self]
    · rw [Function.update_of_ne (hfirst k c hk)]
      rw [hstate] at hready'
      exact h.cache.live k c hk hready'
  · intro k c hk hconnecting hresolved
    rw [hstate]
    rcases hnew hk with ⟨-, -, hphase, -⟩ | hk
    · exact absurd hphase hconnecting
    · exact h.cache.gone k c hk hconnecting hresolved
  · intro k hmem
    obtain ⟨c, t, hk, hphase, ht, hopen⟩ := h.opened k (List.mem_filter.mp hmem).1
    exact ⟨c, t, hold hk, hphase, hthere ht, hopen⟩
  · intro i call k hcall hpending
    obtain ⟨c, hk, hsession⟩ := h.uses.pending i call k hcall hpending
    exact ⟨c, hold hk, hsession⟩
  · intro i call k hcall hentry
    obtain ⟨c, hk, hboth⟩ := h.uses.entry i call k hcall hentry
    exact ⟨c, hold hk, hboth⟩

/-! ## Calls -/

/-- A call goes on: what it awaits and uses belongs to its session. -/
theorem Kept.setCall (h : Kept w) {i : ℕ} {f : Call → Call}
    (hpending : ∀ call k, w.calls.get? i = some call → (f call).pending = some k →
      ∃ c, w.connects.get? k = some c ∧ (f call).session = some c.session)
    (hentry : ∀ call k, w.calls.get? i = some call → (f call).entry = some k →
      ∃ c, w.connects.get? k = some c ∧ (f call).session = some c.session ∧ c.phase = .resolved)
    (hresolving : ∀ call, w.calls.get? i = some call → (f call).phase = .resolving →
      (f call).pending = none ∧ (f call).entry = none) :
    Kept (w.setCall i f) where
  sessions := h.sessions
  cache := h.cache
  opened := h.opened
  uses := by
    constructor
    · intro j call k hcall hawaits
      obtain ⟨old, hget, hif⟩ := (Heap.get?_modify_eq_some _ _ _).mp hcall
      split_ifs at hif with hj
      · subst hj
        rw [← hif] at hawaits ⊢
        exact hpending old k hget hawaits
      · rw [← hif] at hawaits ⊢
        exact h.uses.pending j old k hget hawaits
    · intro j call k hcall huses
      obtain ⟨old, hget, hif⟩ := (Heap.get?_modify_eq_some _ _ _).mp hcall
      split_ifs at hif with hj
      · subst hj
        rw [← hif] at huses ⊢
        exact hentry old k hget huses
      · rw [← hif] at huses ⊢
        exact h.uses.entry j old k hget huses
    · intro j call hcall hphase
      obtain ⟨old, hget, hif⟩ := (Heap.get?_modify_eq_some _ _ _).mp hcall
      split_ifs at hif with hj
      · subst hj
        rw [← hif] at hphase ⊢
        exact hresolving old hget hphase
      · rw [← hif] at hphase ⊢
        exact h.uses.resolving j old hget hphase

/-- A call comes to something. -/
theorem Kept.setPhase (h : Kept w) (i : ℕ) {phase : CallPhase} (hphase : phase ≠ .resolving) :
    Kept (w.setCall i fun call => { call with phase := phase }) :=
  h.setCall (fun call k hcall => h.uses.pending i call k hcall)
    (fun call k hcall => h.uses.entry i call k hcall) fun _ _ hfalse => absurd hfalse hphase

theorem Kept.throws (h : Kept w) (i : ℕ) (error : DeviceRoutingError) : Kept (w.throws i error) :=
  h.setPhase i fun hfalse => by cases hfalse

theorem Kept.call (h : Kept w) (ownerId deviceId : String) (request : Request) :
    Kept (w.call ownerId deviceId request) where
  sessions := h.sessions
  cache := h.cache
  opened := h.opened
  uses := by
    constructor
    · intro i call k hcall hpending
      rcases (Heap.get?_alloc_eq_some _ _).mp hcall with ⟨-, rfl⟩ | hold
      · cases hpending
      · exact h.uses.pending i call k hold hpending
    · intro i call k hcall hentry
      rcases (Heap.get?_alloc_eq_some _ _).mp hcall with ⟨-, rfl⟩ | hold
      · cases hentry
      · exact h.uses.entry i call k hold hentry
    · intro i call hcall hphase
      rcases (Heap.get?_alloc_eq_some _ _).mp hcall with ⟨-, rfl⟩ | hold
      · exact ⟨rfl, rfl⟩
      · exact h.uses.resolving i call hold hphase

/-- A call awaits the promise of its session. -/
theorem Kept.await (h : Kept w) {i session k : ℕ} {c : Connect}
    (hcall : ∀ call, w.calls.get? i = some call → call.session = some session)
    (hk : w.connects.get? k = some c) (hsession : c.session = session) :
    Kept (w.setCall i fun call => { call with pending := some k, phase := .connecting }) := by
  refine h.setCall ?_ (fun call j hget => h.uses.entry i call j hget) ?_
  · intro call j hget hpending
    obtain rfl := Option.some.inj hpending
    refine ⟨c, hk, ?_⟩
    rw [hsession]
    exact hcall call hget
  · intro call _ hfalse
    cases hfalse

theorem Kept.getEntry (h : Kept w) {i session : ℕ}
    (hcall : ∀ call, w.calls.get? i = some call → call.session = some session) :
    Kept (w.getEntry i session) := by
  unfold World.getEntry
  split_ifs with hclosed hready
  · exact h.throws i _
  · exact h.throws i _
  · cases hcached : w.bySession session with
    | some k =>
      obtain ⟨c, hk, hsession, -⟩ := h.cache.cached session k hcached
      exact h.await hcall hk hsession
    | none =>
      have hself : (w.connect session).connects.get? w.connects.next =
          some ⟨session, (w.scenes session).transports.next, false, .connecting⟩ :=
        (Heap.get?_alloc_eq_some _ _).mpr (.inl ⟨rfl, rfl⟩)
      exact (h.connect (not_not.mp hready) hcached).await hcall hself rfl

theorem Kept.routeResolved (h : Kept w) (i : ℕ) (route : Except DeviceRoutingError ℕ) :
    Kept (w.routeResolved i route) := by
  unfold World.routeResolved
  cases hcall : w.calls.get? i with
  | none => exact h
  | some call =>
    have hsame : ∀ call', w.calls.get? i = some call' → call' = call :=
      fun call' hget => Option.some.inj (hget.symm.trans hcall)
    dsimp only
    split_ifs with hphase
    · exact h
    · have hfresh := h.uses.resolving i call hcall (not_not.mp hphase)
      cases route with
      | error error => exact h.throws i error
      | ok session =>
        have hrouted : Kept (w.setCall i fun call => { call with session := some session }) := by
          refine h.setCall ?_ ?_ (fun call' hget _ => by rw [hsame call' hget]; exact hfresh)
          · intro call' k hget hpending
            rw [hsame call' hget] at hpending
            exact absurd (hfresh.1.symm.trans hpending) nofun
          · intro call' k hget hentry
            rw [hsame call' hget] at hentry
            exact absurd (hfresh.2.symm.trans hentry) nofun
        refine hrouted.getEntry ?_
        intro call' hget
        obtain ⟨old, -, hif⟩ := (Heap.get?_modify_eq_some _ _ _).mp hget
        rw [if_pos rfl] at hif
        rw [← hif]

theorem Kept.pendingSettled (h : Kept w) (i : ℕ) : Kept (w.pendingSettled i) := by
  unfold World.pendingSettled
  cases hcall : w.calls.get? i with
  | none => exact h
  | some call =>
    dsimp only
    split
    · next session k _ hsession hpending =>
      obtain ⟨c, hk, hown⟩ := h.uses.pending i call k hcall hpending
      obtain rfl := Option.some.inj (hsession.symm.trans hown)
      rw [hk]
      dsimp only
      split
      · next hphase =>
        refine h.setCall (fun call' j hget => h.uses.pending i call' j hget) ?_ ?_
        · intro call' j hget hentry
          obtain rfl := Option.some.inj hentry
          obtain rfl := Option.some.inj (hget.symm.trans hcall)
          exact ⟨c, hk, hown, hphase⟩
        · intro call' _ hfalse
          cases hfalse
      · next hphase =>
        refine (h.forget (h.cache.gone k c hk ?_ ?_)).throws i _
        · rw [hphase]
          exact nofun
        · rw [hphase]
          exact nofun
      · exact h
    · exact h

theorem Kept.clientSettled (h : Kept w) (i : ℕ) (result : Option String) :
    Kept (w.clientSettled i result) := by
  unfold World.clientSettled
  cases hcall : w.calls.get? i with
  | none => exact h
  | some call =>
    dsimp only
    split
    · cases result with
      | none => exact h.throws i _
      | some result =>
        have hreturned : Kept (w.setCall i fun call => { call with phase := .returned result }) :=
          h.setPhase i fun hfalse => by cases hfalse
        dsimp only
        split
        · exact hreturned
        · exact ⟨hreturned.sessions, hreturned.cache, hreturned.opened, hreturned.uses⟩
    · exact h

/-! ## Closing -/

theorem Kept.clientClose (h : Kept w) (k : ℕ) : Kept (w.clientClose k) := by
  unfold World.clientClose
  cases w.connects.get? k with
  | none => exact h
  | some c => exact h.closeTransport c

theorem Kept.closeAll (h : Kept w) (ks : List ℕ) : Kept (ks.foldl World.clientClose w) := by
  induction ks generalizing w with
  | nil => exact h
  | cons k ks ih => exact ih (h.clientClose k)

theorem Kept.close (h : Kept w) : Kept w.close := by
  unfold World.close
  split_ifs
  · exact h
  · have hmarked : Kept { w with closed := true, closing := true } :=
      ⟨h.sessions, h.cache, h.opened, h.uses⟩
    exact hmarked.closeAll w.entries

theorem Kept.closeSettled (h : Kept w) (result : Except Thrown Unit) :
    Kept (w.closeSettled result) := by
  unfold World.closeSettled
  split_ifs
  · exact h
  · exact ⟨h.sessions, h.cache, fun k hfalse => (by cases hfalse), h.uses⟩

theorem Kept.step (h : Kept w) (e : Event) : Kept (w.step e) := by
  cases e with
  | listTools ownerId deviceId => exact h.call ownerId deviceId .listTools
  | callTool ownerId deviceId name args => exact h.call ownerId deviceId (.callTool name args)
  | routeResolved call route => exact h.routeResolved call route
  | clientStart connect => exact h.clientStart connect
  | connectSettled connect resolves => exact h.connectSettled connect resolves
  | clientCloseSettled connect => exact h.clientCloseSettled connect
  | transportCloseSettled connect => exact h.transportCloseSettled connect
  | pendingSettled call => exact h.pendingSettled call
  | clientSettled call result => exact h.clientSettled call result
  | close => exact h.close
  | closeSettled result => exact h.closeSettled result
  | scene session e =>
    unfold World.step
    dsimp only
    split_ifs with hown
    · exact h
    · refine h.scene session ?_
      rintro rfl
      exact hown rfl

/-! ## After close -/

/-- The `#connect` has resolved with an entry. -/
def World.Succeeded (w : World) (k : ℕ) : Prop :=
  ∃ c, w.connects.get? k = some c ∧ c.phase = .resolved

/-- A closed registry stays closed, and none of its connects resolves any more. -/
structure Late (w w' : World) : Prop where
  closed : w.closed = true → w'.closed = true
  succeeded : w.closed = true → ∀ k, w'.Succeeded k → w.Succeeded k

variable {w' : World}

theorem late_of_same (hclosed : w'.closed = w.closed) (hconnects : w'.connects = w.connects) :
    Late w w' where
  closed h := hclosed.trans h
  succeeded _ k := by
    unfold World.Succeeded
    rw [hconnects]
    exact id

theorem Late.trans {w'' : World} (h : Late w w') (h' : Late w' w'') : Late w w'' where
  closed := h'.closed ∘ h.closed
  succeeded hclosed k := h.succeeded hclosed k ∘ h'.succeeded (h.closed hclosed) k

theorem late_setConnect {k : ℕ} {f : Connect → Connect}
    (hf : ∀ c, (f c).phase = .resolved → c.phase = .resolved) : Late w (w.setConnect k f) where
  closed := id
  succeeded _ j := by
    rintro ⟨c, hj, hphase⟩
    obtain ⟨old, hget, hif⟩ := (Heap.get?_modify_eq_some _ _ _).mp hj
    refine ⟨old, hget, ?_⟩
    split_ifs at hif
    · rw [← hif] at hphase
      exact hf old hphase
    · rw [← hif] at hphase
      exact hphase

theorem late_scene (session : ℕ) (e : Bridge.Event) : Late w (w.scene session e) :=
  late_of_same rfl rfl

theorem late_connectFailed (k : ℕ) (c : Connect) : Late w (w.connectFailed k c) := by
  have hforgot : Late w (w.forget c.session) := late_of_same rfl rfl
  unfold World.connectFailed
  dsimp only
  split_ifs
  · exact hforgot.trans (late_setConnect fun _ hfalse => by cases hfalse)
  · refine (hforgot.trans (late_scene c.session (.close c.transport))).trans ?_
    exact late_setConnect fun _ hfalse => by cases hfalse

theorem late_clientStart (k : ℕ) : Late w (w.clientStart k) := by
  unfold World.clientStart
  cases w.connects.get? k with
  | none => exact late_of_same rfl rfl
  | some c =>
    dsimp only
    split_ifs
    · exact (late_scene c.session (.start c.transport)).trans (late_setConnect fun _ => id)
    · exact late_of_same rfl rfl

/-- A `#connect` that goes on after `close` closes its client. -/
theorem late_connectSettled (k : ℕ) (resolves : Bool) : Late w (w.connectSettled k resolves) := by
  unfold World.connectSettled
  cases w.connects.get? k with
  | none => exact late_of_same rfl rfl
  | some c =>
    dsimp only
    by_cases hphase : c.phase = .connecting
    · rw [if_neg (not_not.mpr hphase)]
      split_ifs with hrejects hstarted hclosed
      · exact late_connectFailed k c
      · exact late_of_same rfl rfl
      · refine (late_scene c.session (.close c.transport)).trans ?_
        exact late_setConnect fun _ hfalse => by cases hfalse
      · exact ⟨fun h => absurd (.inl h) hclosed, fun h => absurd (.inl h) hclosed⟩
      · exact ⟨fun h => absurd (.inl h) hclosed, fun h => absurd (.inl h) hclosed⟩
    · rw [if_pos hphase]
      exact late_of_same rfl rfl

theorem late_clientCloseSettled (k : ℕ) : Late w (w.clientCloseSettled k) := by
  unfold World.clientCloseSettled
  cases w.connects.get? k with
  | none => exact late_of_same rfl rfl
  | some c =>
    dsimp only
    split_ifs
    · exact late_connectFailed k c
    · exact late_of_same rfl rfl

theorem late_transportCloseSettled (k : ℕ) : Late w (w.transportCloseSettled k) := by
  unfold World.transportCloseSettled
  cases w.connects.get? k with
  | none => exact late_of_same rfl rfl
  | some c =>
    dsimp only
    split_ifs
    · exact late_setConnect fun _ hfalse => by cases hfalse
    · exact late_of_same rfl rfl

theorem late_routeResolved (i : ℕ) (route : Except DeviceRoutingError ℕ) :
    Late w (w.routeResolved i route) := by
  unfold World.routeResolved
  cases w.calls.get? i with
  | none => exact late_of_same rfl rfl
  | some call =>
    dsimp only
    split_ifs
    · exact late_of_same rfl rfl
    · cases route with
      | error error => exact late_of_same rfl rfl
      | ok session =>
        dsimp only
        unfold World.getEntry
        split_ifs with hclosed
        · exact late_of_same rfl rfl
        · exact late_of_same rfl rfl
        · exact ⟨fun h => absurd h hclosed, fun h => absurd h hclosed⟩

theorem late_pendingSettled (i : ℕ) : Late w (w.pendingSettled i) := by
  unfold World.pendingSettled
  cases w.calls.get? i with
  | none => exact late_of_same rfl rfl
  | some call =>
    dsimp only
    split
    · next session k _ _ _ =>
      cases w.connects.get? k with
      | none => exact late_of_same rfl rfl
      | some c =>
        dsimp only
        split
        · exact late_of_same rfl rfl
        · exact late_of_same rfl rfl
        · exact late_of_same rfl rfl
    · exact late_of_same rfl rfl

theorem late_clientSettled (i : ℕ) (result : Option String) : Late w (w.clientSettled i result) := by
  unfold World.clientSettled
  cases w.calls.get? i with
  | none => exact late_of_same rfl rfl
  | some call =>
    dsimp only
    split
    · cases result with
      | none => exact late_of_same rfl rfl
      | some result =>
        dsimp only
        split
        · exact late_of_same rfl rfl
        · exact late_of_same rfl rfl
    · exact late_of_same rfl rfl

theorem Late.step (w : World) (e : Event) : Late w (w.step e) := by
  cases e with
  | listTools ownerId deviceId => exact late_of_same rfl rfl
  | callTool ownerId deviceId name args => exact late_of_same rfl rfl
  | routeResolved call route => exact late_routeResolved call route
  | clientStart connect => exact late_clientStart connect
  | connectSettled connect resolves => exact late_connectSettled connect resolves
  | clientCloseSettled connect => exact late_clientCloseSettled connect
  | transportCloseSettled connect => exact late_transportCloseSettled connect
  | pendingSettled call => exact late_pendingSettled call
  | clientSettled call result => exact late_clientSettled call result
  | close =>
    unfold World.step World.close
    dsimp only
    split_ifs with hclosed
    · exact late_of_same rfl rfl
    · exact ⟨fun h => absurd h hclosed, fun h => absurd h hclosed⟩
  | closeSettled result =>
    unfold World.step World.closeSettled
    dsimp only
    split_ifs
    · exact late_of_same rfl rfl
    · exact late_of_same rfl rfl
  | scene session e =>
    unfold World.step
    dsimp only
    split_ifs
    · exact late_of_same rfl rfl
    · exact late_scene session e

theorem late_run (w : World) (es : List Event) : Late w (runFrom World.step w es) := by
  induction es generalizing w with
  | nil => exact late_of_same rfl rfl
  | cons e es ih => exact (Late.step w e).trans (ih _)

/-! ## What the registry keeps -/

/-- The session has a callback of the transport. -/
def BoundTo (session : SessionObject) (ref : ℕ) : Prop :=
  session.onmessage = some (.transport ref) ∨ session.onclose = some (.transport ref)

structure OneClient (w : World) : Prop where
  bound : ∀ session a b, BoundTo (w.session session) a → BoundTo (w.session session) b → a = b
  /-- A session gets one `#connect`, so one client and one transport. -/
  connect : ∀ k k' c c', w.connects.get? k = some c → w.connects.get? k' = some c' →
    c.session = c'.session → k = k'
  client : ∀ i j call call' session k k', w.calls.get? i = some call →
    w.calls.get? j = some call' → call.session = some session → call'.session = some session →
    call.entry = some k → call'.entry = some k' → k = k'
  uncached : ∀ k c, w.connects.get? k = some c → c.phase.Failed → w.bySession c.session = none
  opened : ∀ k ∈ w.entries, ∃ c t, w.connects.get? k = some c ∧ w.transport c = some t ∧
    t.state ≠ .closed

/-- A transport on the session was made by the `#connect` of the session. -/
theorem Kept.bound (h : Kept w) {session ref : ℕ} (hbound : BoundTo (w.session session) ref) :
    ∃ k c, w.connects.get? k = some c ∧ c.session = session ∧ c.transport = ref := by
  refine h.sessions.owned session ref (Heap.exists_get?_iff.mp ?_)
  rcases hbound with honmessage | honclose
  · exact (h.sessions.bindings session).onmessage ref honmessage
  · exact (h.sessions.bindings session).onclose ref honclose

theorem Kept.oneClient (h : Kept w) : OneClient w where
  bound session a b ha hb := by
    obtain ⟨k, c, hk, hsession, ha⟩ := h.bound ha
    obtain ⟨k', c', hk', hsession', hb⟩ := h.bound hb
    obtain rfl := h.cache.unique k k' c c' hk hk' (hsession.trans hsession'.symm)
    obtain rfl := Option.some.inj (hk.symm.trans hk')
    exact ha.symm.trans hb
  connect := h.cache.unique
  client i j call call' session k k' hi hj hcall hcall' hentry hentry' := by
    obtain ⟨c, hk, hsession, -⟩ := h.uses.entry i call k hi hentry
    obtain ⟨c', hk', hsession', -⟩ := h.uses.entry j call' k' hj hentry'
    refine h.cache.unique k k' c c' hk hk' (Option.some.inj ?_)
    rw [← hsession, ← hsession', hcall, hcall']
  uncached k c hk hfailed := by
    cases hcached : w.bySession c.session with
    | none => rfl
    | some k' =>
      obtain ⟨c', hk', hsession, hnot⟩ := h.cache.cached c.session k' hcached
      obtain rfl := h.cache.unique k' k c' c hk' hk hsession
      obtain rfl := Option.some.inj (hk'.symm.trans hk)
      exact absurd hfailed hnot
  opened k hmem := by
    obtain ⟨c, t, hk, -, ht, hopen⟩ := h.opened k hmem
    exact ⟨c, t, hk, ht, hopen⟩

/-- Whatever the calls, the sessions and the clients do, a session has one transport bound to it at
most, the calls on it use one client, a `#connect` that failed is not in the cache, and the entries
in the set are open. What has not resolved when the registry is closed never yields an entry. -/
theorem one_client_per_session (state : ℕ → GatewaySessionState) (onmessage onclose : ℕ → Bool)
    (es fs : List Event) :
    let now := runFrom World.step (.initial state onmessage onclose) es
    let later := runFrom World.step now fs
    OneClient now ∧
    (now.closed = true → ∀ k, ¬ now.Succeeded k → ¬ later.Succeeded k ∧ k ∉ later.entries ∧
      ∀ i call, later.calls.get? i = some call → call.entry ≠ some k) := by
  intro now later
  have hnow : Kept now := runFrom_invariant (fun _ e h => h.step e)
    (kept_initial state onmessage onclose) es
  have hlater : Kept later := runFrom_invariant (fun _ e h => h.step e) hnow fs
  refine ⟨hnow.oneClient, ?_⟩
  intro hclosed k hfailed
  have hnever : ¬ later.Succeeded k := mt ((late_run now fs).succeeded hclosed k) hfailed
  refine ⟨hnever, ?_, ?_⟩
  · intro hmem
    obtain ⟨c, t, hk, hphase, -⟩ := hlater.opened k hmem
    exact hnever ⟨c, hk, hphase⟩
  · intro i call hcall hentry
    obtain ⟨c, hk, -, hphase⟩ := hlater.uses.entry i call k hcall hentry
    exact hnever ⟨c, hk, hphase⟩

/-- A first call leaves its entry in the set, until the session is closed. -/
example :
    let called := runFrom World.step (.initial (fun _ => .ready) (fun _ => false) fun _ => false)
      [.listTools "owner" "device", .routeResolved 0 (.ok 5), .clientStart 0,
        .connectSettled 0 true, .pendingSettled 0]
    called.entries = [0] ∧ (called.step (.scene 5 (.sessionClosed (.closeCode .NORMAL)))).entries = [] := by
  decide

end Doctmcp.Routing.ClientRegistry

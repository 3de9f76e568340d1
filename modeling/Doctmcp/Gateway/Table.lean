import Doctmcp.Gateway.Life

/-! # The table of sessions

What `sessions` holds in any run: sessions of connections that are not finalized, each under its own id.
Where no send of a session fails and every session is bound, it holds all of them, so that no two live
sessions share an id. -/

namespace Doctmcp.Gateway.Connections
open Doctmcp.Lib Doctmcp.Schemas Relation
open Doctmcp.Bridge (CloseReason)
set_option autoImplicit false

/-- The connections, and what of them is in the table. -/
structure World.Tabled (w : World) : Prop where
  owner : ∀ ref c session, w.connections.get? ref = some c → c.session = some session →
    session.connection = ref ∧ c.ws = true
  listed : ∀ ref c, w.connections.get? ref = some c → c.finalized = true → c.listed = true →
    c.session = none
  entry : ∀ id session, w.sessions.get? id = some session → session.id = id ∧
    ∃ c, w.connections.get? session.connection = some c ∧ c.session = some session ∧
      c.finalized = false

/-- Every session of a connection that is not finalized is in the table. -/
def World.Full (w : World) : Prop :=
  ∀ ref c session, w.connections.get? ref = some c → c.session = some session → c.finalized = false →
    w.sessions.get? session.id = some session

section
variable {options : BridgeGatewayOptions} {clean : Prop} {grants : Grants} {w w' : World}

/-- The connections are as they were, up to what the table does not depend on. -/
def SameRecords (w w' : World) : Prop :=
  (∀ ref c, w.connections.get? ref = some c → ∃ c', w'.connections.get? ref = some c' ∧
    c'.session = c.session ∧ c'.finalized = c.finalized) ∧
  ∀ ref c', w'.connections.get? ref = some c' → ∃ c, w.connections.get? ref = some c ∧
    c'.session = c.session ∧ c'.finalized = c.finalized ∧ (c.ws = true → c'.ws = true) ∧
      (c'.listed = true → c.listed = true)

theorem sameRecords_of_eq (h : w'.connections = w.connections) : SameRecords w w' := by
  refine ⟨fun ref c hc => ⟨c, h ▸ hc, rfl, rfl⟩, fun ref c' hc' => ⟨c', h ▸ hc', rfl, rfl, id, id⟩⟩

theorem sameRecords_modify {ref : ℕ} {f : GatewayConnection → GatewayConnection}
    (h : w'.connections = w.connections.modify ref f)
    (hf : ∀ c, w.connections.get? ref = some c → (f c).session = c.session ∧
      (f c).finalized = c.finalized ∧ (c.ws = true → (f c).ws = true) ∧
        ((f c).listed = true → c.listed = true)) : SameRecords w w' := by
  constructor
  · intro ref' c hc
    rw [h, Heap.get?_modify]
    by_cases href : ref' = ref
    · subst href
      exact ⟨f c, by simp [hc], (hf c hc).1, (hf c hc).2.1⟩
    · exact ⟨c, by simp [href, hc], rfl, rfl⟩
  · intro ref' c' hc'
    rw [h] at hc'
    obtain ⟨c, hc, hif⟩ := (Heap.get?_modify_eq_some _ _ _).mp hc'
    refine ⟨c, hc, ?_⟩
    by_cases href : ref' = ref
    · subst href
      rw [if_pos rfl] at hif
      exact hif ▸ hf c hc
    · rw [if_neg href] at hif
      exact hif ▸ ⟨rfl, rfl, id, id⟩

theorem World.Tabled.same (h : w.Tabled) (hsame : SameRecords w w')
    (hsessions : ∀ id session, w'.sessions.get? id = some session → w.sessions.get? id = some session) :
    w'.Tabled where
  owner := by
    intro ref c' session hc' hsession
    obtain ⟨c, hc, heq, -, hws, -⟩ := hsame.2 ref c' hc'
    obtain ⟨href, hopen⟩ := h.owner ref c session hc (heq ▸ hsession)
    exact ⟨href, hws hopen⟩
  listed := by
    intro ref c' hc' hfinalized hlisted
    obtain ⟨c, hc, heq, hfin, -, hlist⟩ := hsame.2 ref c' hc'
    rw [heq]
    exact h.listed ref c hc (hfin ▸ hfinalized) (hlist hlisted)
  entry := by
    intro id session hentry
    obtain ⟨hid, c, hc, hsession, hopen⟩ := h.entry id session (hsessions id session hentry)
    obtain ⟨c', hc', heq, hfin⟩ := hsame.1 _ c hc
    exact ⟨hid, c', hc', heq.trans hsession, hfin.trans hopen⟩

theorem World.Full.same (h : w.Full) (hsame : SameRecords w w')
    (hsessions : ∀ id session, w.sessions.get? id = some session → w'.sessions.get? id = some session) :
    w'.Full := by
  intro ref c' session hc' hsession hopen
  obtain ⟨c, hc, heq, hfin, -⟩ := hsame.2 ref c' hc'
  exact hsessions _ _ (h ref c session hc (heq ▸ hsession) (hfin ▸ hopen))

theorem World.get?_forget (w : World) (gone : Option GatewaySession) (id : String) :
    (w.forget gone).sessions.get? id =
      if gone.map (·.id) = some id then none else w.sessions.get? id := by
  cases gone with
  | none => simp [World.forget]
  | some session =>
    simp only [World.forget, OrderedMap.get?_delete, Option.map_some, Option.some.injEq, eq_comm]

theorem World.Tabled.ends (h : w.Tabled) {ref : ℕ} {c : GatewayConnection}
    {f : GatewayConnection → GatewayConnection} {gone : Option GatewaySession} {reason : CloseReason}
    (hc : w.connections.get? ref = some c) (hf : Ends c (f c))
    (hgone : (gone = c.session ∧ (f c).listed = false) ∨ (gone = none ∧ c.ws = false)) :
    ((w.forget gone).ends ref f c.session reason).Tabled := by
  -- without a socket there is no session
  have hnone : c.ws = false → c.session = none := by
    intro hws
    cases hsession : c.session with
    | none => rfl
    | some session =>
      have hopen := (h.owner ref c session hc hsession).2
      rw [hws] at hopen
      cases hopen
  have hget : ∀ ref' c', ((w.forget gone).ends ref f c.session reason).connections.get? ref' = some c' →
      (ref' = ref ∧ c' = f c) ∨ (ref' ≠ ref ∧ w.connections.get? ref' = some c') := by
    intro ref' c' hc'
    rw [World.connections_ends, World.connections_forget, Heap.get?_modify] at hc'
    by_cases href : ref' = ref
    · subst href
      rw [if_pos rfl, hc] at hc'
      exact .inl ⟨rfl, (Option.some.inj hc').symm⟩
    · rw [if_neg href] at hc'
      exact .inr ⟨href, hc'⟩
  constructor
  · intro ref' c' session hc' hsession
    rcases hget ref' c' hc' with ⟨rfl, rfl⟩ | ⟨-, hold⟩
    · obtain ⟨href, hws⟩ := h.owner ref' c session hc (hf.session ▸ hsession)
      exact ⟨href, hf.ws hws⟩
    · exact h.owner ref' c' session hold hsession
  · intro ref' c' hc' hfinalized hlisted
    rcases hget ref' c' hc' with ⟨rfl, rfl⟩ | ⟨-, hold⟩
    · rcases hgone with ⟨-, hunlisted⟩ | ⟨-, hws⟩
      · rw [hunlisted] at hlisted
        cases hlisted
      · rw [hf.session]
        exact hnone hws
    · exact h.listed ref' c' hold hfinalized hlisted
  · intro id session hentry
    rw [World.sessions_ends, World.get?_forget] at hentry
    split at hentry
    · cases hentry
    case isFalse hkept =>
      obtain ⟨hid, c', hc', hsession, hopen⟩ := h.entry id session hentry
      have href : session.connection ≠ ref := by
        intro href
        rw [href, hc] at hc'
        cases hc'
        rcases hgone with ⟨rfl, -⟩ | ⟨-, hws⟩
        · exact hkept (by rw [hsession, Option.map_some, hid])
        · rw [hnone hws] at hsession
          cases hsession
      refine ⟨hid, c', ?_, hsession, hopen⟩
      rw [World.connections_ends, World.connections_forget, Heap.get?_modify_ne _ href]
      exact hc'

/-- Two sessions in the full table do not share an id. -/
theorem World.Full.eq_of_id (h : w.Full) (hw : w.Tabled) {ref ref' : ℕ} {c c' : GatewayConnection}
    {session session' : GatewaySession} (hc : w.connections.get? ref = some c)
    (hsession : c.session = some session) (hopen : c.finalized = false)
    (hc' : w.connections.get? ref' = some c') (hsession' : c'.session = some session')
    (hopen' : c'.finalized = false) (hid : session.id = session'.id) : ref = ref' := by
  have hentry := h ref c session hc hsession hopen
  have hentry' := h ref' c' session' hc' hsession' hopen'
  rw [hid, hentry'] at hentry
  cases hentry
  rw [← (hw.owner ref c _ hc hsession).1, (hw.owner ref' c' _ hc' hsession').1]

theorem World.Full.ends (h : w.Full) (hw : w.Tabled) {ref : ℕ} {c : GatewayConnection}
    {f : GatewayConnection → GatewayConnection} {gone : Option GatewaySession} {reason : CloseReason}
    (hc : w.connections.get? ref = some c) (hopen : c.finalized = false) (hf : Ends c (f c))
    (hgone : gone = c.session ∨ gone = none) :
    ((w.forget gone).ends ref f c.session reason).Full := by
  intro ref' c' session hc' hsession hopen'
  rw [World.connections_ends, World.connections_forget, Heap.get?_modify] at hc'
  by_cases href : ref' = ref
  · subst href
    rw [if_pos rfl, hc] at hc'
    cases hc'
    rw [hf.finalized] at hopen'
    cases hopen'
  · rw [if_neg href] at hc'
    rw [World.sessions_ends, World.get?_forget, if_neg, h ref' c' session hc' hsession hopen']
    intro hid
    rcases hgone with rfl | rfl
    · obtain ⟨session', hsession', hid'⟩ := Option.map_eq_some_iff.mp hid
      exact href (h.eq_of_id hw hc' hsession hopen' hc hsession' hopen hid'.symm)
    · cases hid

section
variable {c : GatewayConnection} {session : GatewaySession} {guard : Option ℕ} {now : ℤ}

theorem get?_createSession (hc : w.connections.get? session.connection = some c) {ref : ℕ}
    {c' : GatewayConnection}
    (hc' : ((w.createSession options session guard now).emit [.acks session guard]).connections.get? ref =
      some c') :
    (ref = session.connection ∧ c'.session = some session ∧ c'.finalized = c.finalized ∧
        (c.ws = true → c'.ws = true)) ∨
      (ref ≠ session.connection ∧ w.connections.get? ref = some c') := by
  simp only [World.createSession, World.connections_emit, World.connections_modify, Heap.get?_modify] at hc'
  by_cases href : ref = session.connection
  · subst href
    rw [if_pos rfl, hc] at hc'
    cases hc'
    have htouch := World.armReadyIdleTimeout_touch options
      { c with session := some session, timeout := none, state := .ready, lastHeartbeatAtMs := now }
    exact .inl ⟨rfl, htouch.session, htouch.finalized, htouch.ws⟩
  · rw [if_neg href] at hc'
    exact .inr ⟨href, hc'⟩

theorem get?_sessions_createSession (w : World) (id : String) :
    ((w.createSession options session guard now).emit [.acks session guard]).sessions.get? id =
      if id = session.id then some session else w.sessions.get? id := by
  simp only [World.createSession, World.sessions_emit, World.sessions_modify, OrderedMap.get?_set]

theorem World.Tabled.readies (h : w.Tabled) (hc : w.connections.get? session.connection = some c)
    (hopen : c.finalized = false) (hws : c.ws = true) (hnone : c.session = none) :
    ((w.createSession options session guard now).emit [.acks session guard]).Tabled := by
  constructor
  · intro ref c' session' hc' hsession'
    rcases get?_createSession hc hc' with ⟨rfl, hsession, -, hopen'⟩ | ⟨-, hold⟩
    · rw [hsession] at hsession'
      cases hsession'
      exact ⟨rfl, hopen' hws⟩
    · exact h.owner ref c' session' hold hsession'
  · intro ref c' hc' hfinalized hlisted
    rcases get?_createSession hc hc' with ⟨rfl, -, hfin, -⟩ | ⟨-, hold⟩
    · rw [hfin, hopen] at hfinalized
      cases hfinalized
    · exact h.listed ref c' hold hfinalized hlisted
  · intro id session' hentry
    have hget : ∃ c', ((w.createSession options session guard now).emit
        [.acks session guard]).connections.get? session.connection = some c' := by
      simp [World.createSession, hc]
    obtain ⟨c₁, hc₁⟩ := hget
    obtain ⟨hsession₁, hfin₁⟩ : c₁.session = some session ∧ c₁.finalized = c.finalized := by
      rcases get?_createSession hc hc₁ with ⟨-, hsession, hfin, -⟩ | ⟨hne, -⟩
      · exact ⟨hsession, hfin⟩
      · exact absurd rfl hne
    rw [get?_sessions_createSession] at hentry
    split at hentry
    case isTrue hid =>
      cases hentry
      exact ⟨hid.symm, c₁, hc₁, hsession₁, hfin₁.trans hopen⟩
    case isFalse =>
      obtain ⟨hid, c', hc', hsession', hopen'⟩ := h.entry id session' hentry
      have href : session'.connection ≠ session.connection := by
        intro href
        rw [href, hc] at hc'
        cases hc'
        rw [hnone] at hsession'
        cases hsession'
      refine ⟨hid, c', ?_, hsession', hopen'⟩
      simp only [World.createSession, World.connections_emit, World.connections_modify]
      rw [Heap.get?_modify_ne _ href]
      exact hc'

theorem World.Full.readies (h : w.Full) (hc : w.connections.get? session.connection = some c)
    (hfree : w.sessions.has session.id = false) :
    ((w.createSession options session guard now).emit [.acks session guard]).Full := by
  intro ref c' session' hc' hsession' hopen'
  rw [get?_sessions_createSession]
  rcases get?_createSession hc hc' with ⟨rfl, hsession, -, -⟩ | ⟨-, hold⟩
  · rw [hsession] at hsession'
    cases hsession'
    rw [if_pos rfl]
  · have hentry := h ref c' session' hold hsession' hopen'
    rw [if_neg, hentry]
    intro hid
    rw [hid, (OrderedMap.has_false_iff _ _).mp hfree] at hentry
    cases hentry

end

/-- The table of sessions is touched by the end of a connection, the loss of a session and the creation
of one. -/
theorem Move.sameRecords (h : Move options clean grants w w') :
    (SameRecords w w' ∧ w'.sessions = w.sessions) ∨
      (∃ listed, w' = { w with
        connections := w.connections.alloc { GatewayConnection.new with listed := listed } }) ∨
      (∃ ref c f gone reason, w.connections.get? ref = some c ∧ c.finalized = false ∧ Ends c (f c) ∧
        ((gone = c.session ∧ (f c).listed = false) ∨ (gone = none ∧ c.ws = false)) ∧
        w' = (w.forget gone).ends ref f c.session reason) ∨
      (∃ session, (clean → ∃ ref c, w.connections.get? ref = some c ∧ c.session = some session ∧
        c.finalized = true ∧ c.listed = true) ∧ w' = w.forget (some session)) ∨
      ∃ c session guard now, w.connections.get? session.connection = some c ∧ c.finalized = false ∧
        c.state = .handshaking ∧ w.sessions.has session.id = false ∧
        Entitled options w.log session guard ∧
        w' = (w.createSession options session guard now).emit [.acks session guard] := by
  cases h with
  | connects listed => exact .inr (.inl ⟨listed, rfl⟩)
  | touches ref f hf =>
    refine .inl ⟨sameRecords_modify rfl fun c hc => ?_, rfl⟩
    exact ⟨(hf c hc).session, (hf c hc).finalized, (hf c hc).ws, (hf c hc).listed⟩
  | leaves ref c code frames =>
    exact .inl ⟨sameRecords_modify rfl fun c _ => ⟨rfl, rfl, id, id⟩, rfl⟩
  | ends ref c f gone fallback hc hopen hf hgone =>
    exact .inr (.inr (.inl ⟨ref, c, f, gone, _, hc, hopen, hf, hgone, rfl⟩))
  | drops session hclean => exact .inr (.inr (.inr (.inl ⟨session, hclean, rfl⟩)))
  | readies i c session guard now hcall hc hopen hstate hfree hobject hentitled =>
    exact .inr (.inr (.inr (.inr ⟨c, session, guard, now, hc, hopen, hstate, hfree, hentitled, rfl⟩)))
  | releases i call => exact .inl ⟨sameRecords_of_eq (by simp), by simp⟩
  | _ => exact .inl ⟨sameRecords_of_eq rfl, rfl⟩

/-- A connection in its handshake has no session yet. -/
theorem World.Lives.session_none (h : w.Lives) {ref : ℕ} {c : GatewayConnection}
    (hc : w.connections.get? ref = some c) (hopen : c.finalized = false)
    (hstate : c.state = .handshaking) : c.session = none := by
  obtain ⟨phase, hat⟩ := h.phase ref
  rcases hat.open_cases hc hopen with ⟨-, -, hsession, -⟩ | ⟨_, -, hready, -⟩ | ⟨_, _, _, -, hclosing, -⟩
  · exact hsession
  · rw [hstate] at hready
    cases hready
  · rw [hstate] at hclosing
    cases hclosing

theorem Move.tabled (h : Move options clean grants w w') (hjustified : w.Justified options) (hlives : w.Lives)
    (hw : w.Tabled) : w'.Tabled := by
  rcases h.sameRecords with ⟨hsame, hsessions⟩ | ⟨listed, rfl⟩ |
    ⟨ref, c, f, gone, reason, hc, -, hf, hgone, rfl⟩ | ⟨session, -, rfl⟩ |
    ⟨c, session, guard, now, hc, hopen, hstate, -, hentitled, rfl⟩
  · exact hw.same hsame fun id session hentry => hsessions ▸ hentry
  · constructor
    · intro ref c session hc hsession
      rcases (Heap.get?_alloc_eq_some _ _).mp hc with ⟨-, rfl⟩ | hc
      · cases hsession
      · exact hw.owner ref c session hc hsession
    · intro ref c hc hfinalized hlisted
      rcases (Heap.get?_alloc_eq_some _ _).mp hc with ⟨-, rfl⟩ | hc
      · rfl
      · exact hw.listed ref c hc hfinalized hlisted
    · intro id session hentry
      obtain ⟨hid, c, hc, hrest⟩ := hw.entry id session hentry
      exact ⟨hid, c, Heap.get?_alloc_of_some hc _, hrest⟩
  · exact hw.ends hc hf hgone
  · refine hw.same (sameRecords_of_eq rfl) fun id session' hentry => ?_
    rw [World.get?_forget] at hentry
    split at hentry
    · cases hentry
    · exact hentry
  · obtain ⟨hello, hmem⟩ := hentitled.authenticates hjustified
    obtain ⟨c', hc', hws⟩ := hjustified.socket _ _ _ hmem
    rw [hc] at hc'
    cases hc'
    exact hw.readies hc hopen hws (hlives.session_none hc hopen hstate)

theorem Move.full (h : Move options True grants w w') (hw : w.Tabled) (hfull : w.Full) : w'.Full := by
  rcases h.sameRecords with ⟨hsame, hsessions⟩ | ⟨listed, rfl⟩ |
    ⟨ref, c, f, gone, reason, hc, hopen, hf, hgone, rfl⟩ | ⟨session, hclean, rfl⟩ |
    ⟨c, session, guard, now, hc, hopen, hstate, hfree, -, rfl⟩
  · exact hfull.same hsame fun id session hentry => hsessions ▸ hentry
  · intro ref c session hc hsession hopen
    rcases (Heap.get?_alloc_eq_some _ _).mp hc with ⟨-, rfl⟩ | hc
    · cases hsession
    · exact hfull ref c session hc hsession hopen
  · exact hfull.ends hw hc hopen hf (hgone.imp And.left And.left)
  · obtain ⟨ref, c, hc, hsession, hfinalized, hlisted⟩ := hclean trivial
    rw [hw.listed ref c hc hfinalized hlisted] at hsession
    cases hsession
  · exact hfull.readies hc hfree

/-! ## Runs -/

theorem tabled_new : World.new.Tabled where
  owner := by
    intro ref c session hc
    cases hc
  listed := by
    intro ref c hc
    cases hc
  entry := by
    intro id session hentry
    cases hentry

theorem full_new : World.new.Full := by
  intro ref c session hc
  cases hc

/-- What the table rests on. -/
structure World.Sound (options : BridgeGatewayOptions) (w : World) : Prop where
  justified : w.Justified options
  lives : w.Lives
  tabled : w.Tabled

theorem Move.sound (h : Move options clean grants w w') (hw : w.Sound options) : w'.Sound options :=
  ⟨h.justified hw.justified, h.lives hw.justified hw.lives, h.tabled hw.justified hw.lives hw.tabled⟩

theorem sound_new : World.new.Sound options := ⟨justified_new, lives_new, tabled_new⟩

variable (options) in
/-- In every run the table holds sessions of connections that are not finalized, each under its id. -/
theorem table_run (events : List (Event × Readings)) :
    let w := runFrom (World.step options) World.new events
    ∀ id session, w.sessions.get? id = some session → session.id = id ∧
      ∃ c, w.connections.get? session.connection = some c ∧ c.session = some session ∧
        c.finalized = false := by
  intro w
  have hsound : w.Sound options := runFrom_moves (fun _ _ h hw => h.sound hw) sound_new events
  exact hsound.tabled.entry

variable (options) in
/-- In a run in which every send of a session succeeds, every session is acknowledged and bound, and the
gateway is not stopped, the table holds exactly the sessions of the connections that are not finalized, each
under its id, and no two of these share one. -/
theorem table_clean (events : List (Event × Readings))
    (hclean : Along (World.step options) Clean World.new events) :
    let w := runFrom (World.step options) World.new events
    (∀ ref c session, w.connections.get? ref = some c → c.session = some session →
        (w.sessions.get? session.id = some session ↔ c.finalized = false)) ∧
      (∀ id session, w.sessions.get? id = some session → session.id = id ∧
        ∃ c, w.connections.get? session.connection = some c ∧ c.session = some session ∧
          c.finalized = false) ∧
      ∀ ref ref' c c' session session', w.connections.get? ref = some c → c.session = some session →
        c.finalized = false → w.connections.get? ref' = some c' → c'.session = some session' →
        c'.finalized = false → session.id = session'.id → ref = ref' := by
  intro w
  obtain ⟨hsound, hfull⟩ : w.Sound options ∧ w.Full :=
    Along.moves (P := fun w => w.Sound options ∧ w.Full)
      (fun _ _ h hw => ⟨h.sound hw.1, h.full hw.1.tabled hw.2⟩) ⟨sound_new, full_new⟩ hclean
  refine ⟨?_, table_run options events, ?_⟩
  · intro ref c session hc hsession
    constructor
    · intro hentry
      obtain ⟨-, c', hc', -, hopen⟩ := hsound.tabled.entry _ _ hentry
      rw [(hsound.tabled.owner ref c session hc hsession).1, hc] at hc'
      cases hc'
      exact hopen
    · exact hfull ref c session hc hsession
  · intro ref ref' c c' session session' hc hsession hopen hc' hsession' hopen' hid
    exact hfull.eq_of_id hsound.tabled hc hsession hopen hc' hsession' hopen' hid

/-- Two clients without device authentication. -/
theorem table_clean_legacy :
    let options : BridgeGatewayOptions := ⟨⟨0, 0, by decide, by decide, by decide, by decide⟩, 10000, 60000,
      false, false, false, false, true⟩
    let readings : Readings :=
      ⟨0, ⟨"00000000-0000-4000-8000-000000000000", by decide, by decide⟩, .none, true, true, true⟩
    let events : List (Event × Readings) :=
      [.upgrade true, .opened 0, .message 0 (.ok (.hello ⟨"1", "a", none⟩)),
        .resume 0 (.identity (.ok none)), .upgrade true, .opened 1,
        .message 1 (.ok (.hello ⟨"1", "b", none⟩)), .resume 1 (.identity (.ok none))].map (·, readings)
    let w := runFrom (World.step options) World.new events
    ∀ ref c session, w.connections.get? ref = some c → c.session = some session →
      (w.sessions.get? session.id = some session ↔ c.finalized = false) := by
  intro options readings events
  exact (table_clean options events (by decide +kernel)).1

end

end Doctmcp.Gateway.Connections

import Doctmcp.Gateway.Handshakes

/-! # The life of a connection

What the gateway does to one connection is a word that the automaton `Phase.step` reads: a handshake, at
most one session, a time in which it is ready, the way out. The gateway with any number of connections
and calls simulates one such automaton for each connection. -/

namespace Doctmcp.Gateway.Connections
open Doctmcp.Lib Doctmcp.Schemas Relation
open Doctmcp.Bridge (JSONRPCMessage BridgeErrorCode BridgeCloseCode CloseReason)
set_option autoImplicit false

/-! ## The automaton -/

/-- The connection that an effect is about. -/
def Effect.connection : Effect → Option ℕ
  | .enters ref _ => some ref
  | .authenticates ref _ _ => some ref
  | .acquires _ _ => none
  | .validates ref _ _ _ => some ref
  | .releases _ => none
  | .creates session _ => some session.connection
  | .acks session _ => some session.connection
  | .onSession session => some session.connection
  | .onmessage session _ => some session.connection
  | .onclose session _ => some session.connection
  | .onSessionClosed session _ => some session.connection
  | .sends ref _ => some ref
  | .pings ref _ => some ref
  | .closes ref _ => some ref

inductive Phase
  | handshaking
  | created (session : GatewaySession)
  | entered (session : GatewaySession)
  | ready (session : GatewaySession)
  /-- The connection closes; `cut` is the code with which its socket was closed. -/
  | closing (session : Option GatewaySession) (cut : Option BridgeCloseCode)
  | ended (session : Option GatewaySession) (cut : Option BridgeCloseCode)
  | reporting (session : GatewaySession) (reason : CloseReason)
  | reported (session : GatewaySession)
  deriving DecidableEq

/-- What a session is told about its end: the code with which its socket was closed from this side. -/
def Reason (cut : Option BridgeCloseCode) (reason : CloseReason) : Prop :=
  match cut with
  | some code => reason = .closeCode code
  | none => reason = .REMOTE_CLOSE ∨ reason = .closeCode .SERVER_SHUTDOWN

instance (cut : Option BridgeCloseCode) (reason : CloseReason) : Decidable (Reason cut reason) := by
  unfold Reason
  cases cut <;> infer_instance

def Phase.step : Phase → Effect → Option Phase
  | phase, .authenticates _ _ _ => some phase
  | phase, .validates _ _ _ _ => some phase
  | .handshaking, .creates session _ => some (.created session)
  | .created session, .enters _ .ready => some (.entered session)
  | .entered session, .acks session' _ => if session' = session then some (.ready session) else none
  | .ready session, .onSession session' => if session' = session then some (.ready session) else none
  | .ready session, .onmessage session' _ => if session' = session then some (.ready session) else none
  | .ready session, .sends _ _ => some (.ready session)
  | .ready session, .pings _ _ => some (.ready session)
  | .handshaking, .enters _ .closing => some (.closing none none)
  | .ready session, .enters _ .closing => some (.closing (some session) none)
  | .closing session none, .sends _ message =>
    if message.isFarewell then some (.closing session none) else none
  | .closing session none, .closes _ code => some (.closing session (some code))
  | .handshaking, .enters _ .closed => some (.ended none none)
  | .ready session, .enters _ .closed => some (.ended (some session) none)
  | .closing session cut, .enters _ .closed => some (.ended session cut)
  | .ended (some session) cut, .onclose session' reason =>
    if session' = session ∧ Reason cut reason then some (.reporting session reason) else none
  | .reporting session reason, .onSessionClosed session' reason' =>
    if session' = session ∧ reason' = reason then some (.reported session) else none
  | _, _ => none

/-- The part of the log that is about a connection. -/
def World.part (w : World) (ref : ℕ) : List Effect := w.log.filter fun e => e.connection = some ref

/-! ## The simulation -/

/-- The phase that a connection is in, as far as its record shows it. -/
def GatewayConnection.In (c : GatewayConnection) (ref : ℕ) : Phase → Prop
  | .handshaking =>
    c.state = .handshaking ∧ c.session = none ∧ c.finalized = false ∧ c.closeReason = none
  | .created _ => False
  | .entered _ => False
  | .ready session =>
    c.state = .ready ∧ c.session = some session ∧ session.connection = ref ∧ c.finalized = false ∧
      c.closeReason = none ∧ c.ws = true
  | .closing session cut =>
    c.state = .closing ∧ c.session = session ∧ (∀ s, session = some s → s.connection = ref) ∧
      c.finalized = false ∧ ∃ code, c.closeReason = some (.closeCode code) ∧
        (cut = some code ∨ session = none)
  | .ended session _ => c.state = .closed ∧ c.session = none ∧ session = none ∧ c.finalized = true
  | .reporting session _ =>
    c.state = .closed ∧ c.session = some session ∧ session.connection = ref ∧ c.finalized = true
  | .reported session =>
    c.state = .closed ∧ c.session = some session ∧ session.connection = ref ∧ c.finalized = true

/-- The automaton of a connection is in the phase in which the gateway has the connection. -/
structure World.At (w : World) (ref : ℕ) (phase : Phase) : Prop where
  reads : reads Phase.step .handshaking (w.part ref) = some phase
  new : w.connections.get? ref = none → phase = .handshaking
  record : ∀ c, w.connections.get? ref = some c → c.In ref phase
  notifying : ∀ i session reason, w.calls.get? i = some (.notifying session reason) →
    session.connection = ref → phase = .reporting session reason
  reporting : ∀ session reason, phase = .reporting session reason →
    ∃ i, w.calls.get? i = some (.notifying session reason)

/-- Every connection is in a phase, and no two calls report the end of one session. -/
structure World.Lives (w : World) : Prop where
  phase : ∀ ref, ∃ phase, w.At ref phase
  once : ∀ i j session session' reason reason', w.calls.get? i = some (.notifying session reason) →
    w.calls.get? j = some (.notifying session' reason') → session.connection = session'.connection →
      i = j

/-! ### What other connections do -/

theorem Touch.in {c c' : GatewayConnection} (h : Touch c c') {ref : ℕ} {phase : Phase}
    (hin : c.In ref phase) : c'.In ref phase := by
  unfold GatewayConnection.In at hin ⊢
  rw [h.state, h.session, h.finalized, h.closeReason]
  cases phase with
  | ready session =>
    obtain ⟨hstate, hsession, href, hopen, hreason, hws⟩ := hin
    exact ⟨hstate, hsession, href, hopen, hreason, h.ws hws⟩
  | _ => exact hin

theorem Touch.refl (c : GatewayConnection) : Touch c c := ⟨rfl, rfl, rfl, rfl, id, id⟩

/-- What `At` looks at. -/
structure Frame (w w' : World) (ref : ℕ) : Prop where
  part : w'.part ref = w.part ref
  connections : ∀ c', w'.connections.get? ref = some c' →
    ∃ c, w.connections.get? ref = some c ∧ Touch c c'
  none : w'.connections.get? ref = none → w.connections.get? ref = none

theorem World.At.frame {w w' : World} {ref : ℕ} {phase : Phase} (h : w.At ref phase)
    (hframe : Frame w w' ref)
    (hnotifying : ∀ i session reason, session.connection = ref →
      (w'.calls.get? i = some (.notifying session reason) ↔
        w.calls.get? i = some (.notifying session reason))) : w'.At ref phase where
  reads := hframe.part ▸ h.reads
  new := fun hnone => h.new (hframe.none hnone)
  record := by
    intro c' hc'
    obtain ⟨c, hc, htouch⟩ := hframe.connections c' hc'
    exact htouch.in (h.record c hc)
  notifying := fun i session reason hcall href =>
    h.notifying i session reason ((hnotifying i session reason href).mp hcall) href
  reporting := by
    intro session reason hphase
    obtain ⟨i, hi⟩ := h.reporting session reason hphase
    subst hphase
    refine ⟨i, (hnotifying i session reason ?_).mpr hi⟩
    cases hc : w.connections.get? ref with
    | none => cases h.new hc
    | some c => exact (h.record c hc).2.2.1

namespace World
variable {w w' : World} {ref : ℕ} {phase phase' : Phase}

theorem part_append {es : List Effect} (hlog : w'.log = w.log ++ es) (ref : ℕ) :
    w'.part ref = w.part ref ++ es.filter fun e => e.connection = some ref := by
  unfold part
  rw [hlog, List.filter_append]

theorem part_of_forall (es : List Effect) (hlog : w'.log = w.log ++ es)
    (hes : ∀ e ∈ es, e.connection ≠ some ref) : w'.part ref = w.part ref := by
  have hnil : (es.filter fun e => e.connection = some ref) = [] :=
    List.filter_eq_nil_iff.mpr fun e he => by simpa using hes e he
  rw [part_append hlog, hnil, List.append_nil]

theorem part_of_all {es : List Effect} (hlog : w'.log = w.log ++ es)
    (hes : ∀ e ∈ es, e.connection = some ref) : w'.part ref = w.part ref ++ es := by
  have hall : (es.filter fun e => e.connection = some ref) = es :=
    List.filter_eq_self.mpr fun e he => by simpa using hes e he
  rw [part_append hlog, hall]

/-- A call that reports nothing may become any other that reports nothing. -/
theorem notifying_setCall {i : ℕ} {call call' : Call} (hcall : w.calls.get? i = some call)
    (hreports : call.reports = none) (hreports' : call'.reports = none) (j : ℕ)
    (session : GatewaySession) (reason : CloseReason) :
    (w.calls.modify i fun _ => call').get? j = some (.notifying session reason) ↔
      w.calls.get? j = some (.notifying session reason) := by
  rw [Heap.get?_modify]
  by_cases hj : j = i
  · subst hj
    simp only [if_true, hcall, Option.map_some, Option.some.injEq]
    constructor
    · rintro rfl
      cases hreports'
    · rintro rfl
      cases hreports
  · rw [if_neg hj]

theorem notifying_alloc {call : Call} (hreports : call.reports = none) (j : ℕ)
    (session : GatewaySession) (reason : CloseReason) :
    (w.calls.alloc call).get? j = some (.notifying session reason) ↔
      w.calls.get? j = some (.notifying session reason) := by
  rw [Heap.get?_alloc_eq_some]
  constructor
  · rintro (⟨-, rfl⟩ | h)
    · cases hreports
    · exact h
  · exact .inr

/-- Nothing that a connection's life depends on has changed. -/
theorem Lives.frame (h : w.Lives) (hframe : ∀ ref, Frame w w' ref)
    (hcalls : ∀ i session reason, w'.calls.get? i = some (.notifying session reason) ↔
      w.calls.get? i = some (.notifying session reason)) : w'.Lives where
  phase := by
    intro ref
    obtain ⟨phase, hphase⟩ := h.phase ref
    exact ⟨phase, hphase.frame (hframe ref) fun i session reason _ => hcalls i session reason⟩
  once := by
    intro i j session session' reason reason' hi hj
    exact h.once i j session session' reason reason' ((hcalls i session reason).mp hi)
      ((hcalls j session' reason').mp hj)

theorem frame_of_connections (hconnections : w'.connections = w.connections)
    (hpart : w'.part ref = w.part ref) : Frame w w' ref where
  part := hpart
  connections := fun c' hc' => ⟨c', hconnections ▸ hc', .refl c'⟩
  none := fun hnone => hconnections ▸ hnone

variable (ref) in
/-- One connection changes its phase. -/
theorem Lives.update (h : w.Lives) (hat : ∃ phase, w'.At ref phase)
    (hframe : ∀ ref', ref' ≠ ref → Frame w w' ref')
    (hcalls : ∀ i session reason, session.connection ≠ ref →
      (w'.calls.get? i = some (.notifying session reason) ↔
        w.calls.get? i = some (.notifying session reason)))
    (honce : ∀ i j session session' reason reason', session.connection = ref →
      session'.connection = ref → w'.calls.get? i = some (.notifying session reason) →
      w'.calls.get? j = some (.notifying session' reason') → i = j) : w'.Lives where
  phase := by
    intro ref'
    by_cases href : ref' = ref
    · subst href
      exact hat
    · obtain ⟨phase, hphase⟩ := h.phase ref'
      refine ⟨phase, hphase.frame (hframe ref' href) fun i session reason hsession => ?_⟩
      exact hcalls i session reason (hsession ▸ href)
  once := by
    intro i j session session' reason reason' hi hj heq
    by_cases href : session.connection = ref
    · exact honce i j session session' reason reason' href (heq ▸ href) hi hj
    · exact h.once i j session session' reason reason' ((hcalls i session reason href).mp hi)
        ((hcalls j session' reason' (heq ▸ href)).mp hj) heq

/-- What is said about a connection that stays in its phase. -/
theorem Lives.emit (h : w.Lives) (e : Effect)
    (he : ∀ ref phase, e.connection = some ref → w.At ref phase → Phase.step phase e = some phase) :
    (w.emit [e]).Lives where
  phase := by
    intro ref
    obtain ⟨phase, hphase⟩ := h.phase ref
    refine ⟨phase, ?_, hphase.new, hphase.record, hphase.notifying, hphase.reporting⟩
    by_cases href : e.connection = some ref
    · have hpart : (w.emit [e]).part ref = w.part ref ++ [e] := part_of_all rfl (by simpa using href)
      rw [hpart, reads_append_of_eq hphase.reads]
      exact reads_cons_eq_some.mpr ⟨phase, he ref phase href hphase, rfl⟩
    · have hpart : (w.emit [e]).part ref = w.part ref := part_of_forall _ rfl (by simpa using href)
      rw [hpart]
      exact hphase.reads
  once := h.once

/-! ### How a connection moves on -/

theorem frame_modify {f : GatewayConnection → GatewayConnection} {ref' : ℕ} (href : ref' ≠ ref)
    (hconnections : w'.connections = w.connections.modify ref f) (hpart : w'.part ref' = w.part ref') :
    Frame w w' ref' where
  part := hpart
  connections := by
    intro c' hc'
    rw [hconnections, Heap.get?_modify_ne _ href] at hc'
    exact ⟨c', hc', .refl c'⟩
  none := by
    intro hnone
    rwa [hconnections, Heap.get?_modify_ne _ href] at hnone

/-- A connection that is not finalized, as the automaton sees it. -/
theorem At.open_cases (h : w.At ref phase) {c : GatewayConnection}
    (hc : w.connections.get? ref = some c) (hopen : c.finalized = false) :
    (phase = .handshaking ∧ c.state = .handshaking ∧ c.session = none ∧ c.closeReason = none) ∨
      (∃ session, phase = .ready session ∧ c.state = .ready ∧ c.session = some session ∧
        session.connection = ref ∧ c.closeReason = none ∧ c.ws = true) ∨
      ∃ session cut code, phase = .closing session cut ∧ c.state = .closing ∧ c.session = session ∧
        (∀ s, session = some s → s.connection = ref) ∧ c.closeReason = some (.closeCode code) ∧
        (cut = some code ∨ session = none) := by
  have hin := h.record c hc
  cases phase with
  | handshaking => exact .inl ⟨rfl, hin.1, hin.2.1, hin.2.2.2⟩
  | ready session =>
    obtain ⟨hstate, hsession, href, -, hreason, hws⟩ := hin
    exact .inr (.inl ⟨session, rfl, hstate, hsession, href, hreason, hws⟩)
  | closing session cut =>
    obtain ⟨hstate, hsession, href, -, code, hreason, hcut⟩ := hin
    exact .inr (.inr ⟨session, cut, code, rfl, hstate, hsession, href, hreason, hcut⟩)
  | created session => exact hin.elim
  | entered session => exact hin.elim
  | ended session cut =>
    have hfinalized : c.finalized = true := hin.2.2.2
    rw [hopen] at hfinalized
    cases hfinalized
  | reporting session reason =>
    have hfinalized : c.finalized = true := hin.2.2.2
    rw [hopen] at hfinalized
    cases hfinalized
  | reported session =>
    have hfinalized : c.finalized = true := hin.2.2.2
    rw [hopen] at hfinalized
    cases hfinalized

/-- Nobody reports the end of a session whose connection is not finalized. -/
theorem At.not_notifying (h : w.At ref phase) {c : GatewayConnection}
    (hc : w.connections.get? ref = some c) (hopen : c.finalized = false) (i : ℕ)
    (session : GatewaySession) (reason : CloseReason) (href : session.connection = ref) :
    w.calls.get? i ≠ some (.notifying session reason) := by
  intro hcall
  have hphase := h.notifying i session reason hcall href
  subst hphase
  have hfinalized : c.finalized = true := (h.record c hc).2.2.2
  rw [hopen] at hfinalized
  cases hfinalized

theorem reads_frames (session : Option GatewaySession) (frames : List BridgeMessage)
    (hframes : ∀ frame ∈ frames, frame.isFarewell = true) :
    reads Phase.step (.closing session none) (frames.map (Effect.sends ref)) =
      some (.closing session none) := by
  induction frames with
  | nil => rfl
  | cons frame frames ih =>
    rw [List.map_cons]
    refine reads_cons_eq_some.mpr ⟨.closing session none, ?_, ih fun f hf =>
      hframes f (List.mem_cons_of_mem frame hf)⟩
    simp [Phase.step, hframes frame List.mem_cons_self]

theorem Lives.leaves (h : w.Lives) {c : GatewayConnection} {code : BridgeCloseCode}
    {frames : List BridgeMessage} (hframes : ∀ frame ∈ frames, frame.isFarewell = true)
    (hc : w.connections.get? ref = some c) (hopen : c.finalized = false) (hstate : c.state ≠ .closing) :
    ((w.modify ref (·.beginClose code)).emit (.enters ref .closing ::
      if c.ws then frames.map (.sends ref) ++ [.closes ref code] else [])).Lives := by
  have hes : ∀ e ∈ Effect.enters ref .closing ::
      (if c.ws then frames.map (Effect.sends ref) ++ [.closes ref code] else []),
        e.connection = some ref := by
    intro e he
    rcases List.mem_cons.mp he with rfl | he
    · rfl
    · split at he
      · simp only [List.mem_append, List.mem_map, List.mem_singleton] at he
        obtain ⟨frame, -, rfl⟩ | rfl := he <;> rfl
      · cases he
  obtain ⟨phase, hat⟩ := h.phase ref
  have hnot := hat.not_notifying hc hopen
  refine h.update ref ?_ (fun ref' href => frame_modify href rfl (part_of_forall _ rfl
    fun e he => by rw [hes e he]; simpa using Ne.symm href)) (fun _ _ _ _ => Iff.rfl)
    (fun i j session session' reason reason' href _ hi => absurd hi (hnot i session reason href))
  -- the phase after the frames
  have hclosing : ∀ session, c.session = session → (∀ s, session = some s → s.connection = ref) →
      (session = none ∨ c.ws = true) → Phase.step phase (.enters ref .closing) = some (.closing session none) →
      ∃ phase', ((w.modify ref (·.beginClose code)).emit (.enters ref .closing ::
        if c.ws then frames.map (.sends ref) ++ [.closes ref code] else [])).At ref phase' := by
    intro session hsession href hws hstep
    refine ⟨.closing session (if c.ws then some code else none), ?_, ?_, ?_, ?_, ?_⟩
    · rw [part_of_all rfl hes]
      refine reads_append_eq_some.mpr ⟨phase, hat.reads, reads_cons_eq_some.mpr ⟨_, hstep, ?_⟩⟩
      cases hws' : c.ws with
      | true =>
        exact reads_append_eq_some.mpr ⟨_, reads_frames session frames hframes, rfl⟩
      | false => rfl
    · intro hnone
      simp [hc] at hnone
    · intro c' hc'
      simp only [connections_emit, connections_modify, Heap.get?_modify_self, hc, Option.map_some,
        Option.some.injEq] at hc'
      subst hc'
      refine ⟨rfl, hsession, href, hopen, code, rfl, ?_⟩
      rcases hws with hnone | hws
      · exact .inr hnone
      · exact .inl (by rw [hws]; rfl)
    · intro i s reason hcall hs
      exact absurd hcall (hnot i s reason hs)
    · intro s reason hphase
      cases hphase
  rcases hat.open_cases hc hopen with ⟨rfl, -, hsession, -⟩ |
    ⟨session, rfl, -, hsession, href, -, hws⟩ | ⟨_, _, _, -, hstate', -⟩
  · exact hclosing none hsession (by simp) (.inl rfl) rfl
  · refine hclosing (some session) hsession ?_ (.inr hws) rfl
    rintro s ⟨⟩
    exact href
  · exact absurd hstate' hstate

theorem Lives.ends_none (h : w.Lives) (hat : w.At ref phase) {c : GatewayConnection}
    {f : GatewayConnection → GatewayConnection} {gone : Option GatewaySession} {reason : CloseReason}
    {cut : Option BridgeCloseCode} (hc : w.connections.get? ref = some c) (hopen : c.finalized = false)
    (hf : Ends c (f c)) (hsession : c.session = none)
    (hstep : Phase.step phase (.enters ref .closed) = some (.ended none cut)) :
    ((w.forget gone).ends ref f none reason).Lives := by
  have hnot := hat.not_notifying hc hopen
  have hlog : ((w.forget gone).ends ref f none reason).log = w.log ++ [.enters ref .closed] := by
    simp [log_ends]
  have hcalls : ((w.forget gone).ends ref f none reason).calls = w.calls := calls_forget w gone
  refine h.update ref ⟨.ended none cut, ?_, ?_, ?_, ?_, ?_⟩ (fun ref' href => ?_) ?_ ?_
  · rw [part_of_all hlog (by simp [Effect.connection]), reads_append_of_eq hat.reads]
    exact reads_cons_eq_some.mpr ⟨_, hstep, rfl⟩
  · intro hnone
    simp [hc] at hnone
  · intro c' hc'
    simp only [connections_ends, connections_forget, Heap.get?_modify_self, hc, Option.map_some,
      Option.some.injEq] at hc'
    subst hc'
    exact ⟨hf.state, hf.session.trans hsession, rfl, hf.finalized⟩
  · intro i s reason' hcall hs
    rw [hcalls] at hcall
    exact absurd hcall (hnot i s reason' hs)
  · intro s reason' hphase
    cases hphase
  · exact frame_modify (f := f) href (by simp) (part_of_forall _ hlog
      (by simpa [Effect.connection] using Ne.symm href))
  · intro i s reason' _
    rw [hcalls]
  · intro i j s s' reason' reason'' hs _ hi
    rw [hcalls] at hi
    exact absurd hi (hnot i s reason' hs)

theorem Lives.ends_some (h : w.Lives) (hat : w.At ref phase) {c : GatewayConnection}
    {f : GatewayConnection → GatewayConnection} {gone : Option GatewaySession} {reason : CloseReason}
    (cut : Option BridgeCloseCode) {session : GatewaySession} (hc : w.connections.get? ref = some c)
    (hopen : c.finalized = false) (hf : Ends c (f c)) (hsession : c.session = some session)
    (href : session.connection = ref) (hreason : Reason cut reason)
    (hstep : Phase.step phase (.enters ref .closed) = some (.ended (some session) cut)) :
    ((w.forget gone).ends ref f (some session) reason).Lives := by
  have hnot := hat.not_notifying hc hopen
  have hlog : ((w.forget gone).ends ref f (some session) reason).log =
      w.log ++ [.enters ref .closed, .onclose session reason] := by
    simp [log_ends]
  have hcalls : ((w.forget gone).ends ref f (some session) reason).calls =
      w.calls.alloc (.notifying session reason) := by
    rw [calls_ends_some, calls_forget]
  -- the call that reports this end is the new one
  have hnew : ∀ i s reason', s.connection = ref →
      ((w.forget gone).ends ref f (some session) reason).calls.get? i = some (.notifying s reason') →
        i = w.calls.next ∧ s = session ∧ reason' = reason := by
    intro i s reason' hs hcall
    rw [hcalls] at hcall
    rcases (Heap.get?_alloc_eq_some _ _).mp hcall with ⟨rfl, heq⟩ | hcall
    · cases heq
      exact ⟨rfl, rfl, rfl⟩
    · exact absurd hcall (hnot i s reason' hs)
  refine h.update ref ⟨.reporting session reason, ?_, ?_, ?_, ?_, ?_⟩ (fun ref' href' => ?_) ?_ ?_
  · rw [part_of_all hlog (by simp [Effect.connection, href]), reads_append_of_eq hat.reads]
    refine reads_cons_eq_some.mpr ⟨_, hstep, reads_cons_eq_some.mpr ⟨.reporting session reason, ?_, rfl⟩⟩
    simp [Phase.step, hreason]
  · intro hnone
    simp [hc] at hnone
  · intro c' hc'
    simp only [connections_ends, connections_forget, Heap.get?_modify_self, hc, Option.map_some,
      Option.some.injEq] at hc'
    subst hc'
    exact ⟨hf.state, hf.session.trans hsession, href, hf.finalized⟩
  · intro i s reason' hcall hs
    obtain ⟨-, rfl, rfl⟩ := hnew i s reason' hs hcall
    rfl
  · intro s reason' hphase
    cases hphase
    exact ⟨w.calls.next, by rw [hcalls, Heap.get?_alloc, if_pos rfl]⟩
  · exact frame_modify (f := f) href' (by simp) (part_of_forall _ hlog
      (by simpa [Effect.connection, href] using Ne.symm href'))
  · intro i s reason' hs
    rw [hcalls, Heap.get?_alloc_eq_some]
    constructor
    · rintro (⟨-, heq⟩ | hcall)
      · cases heq
        exact absurd href hs
      · exact hcall
    · exact .inr
  · intro i j s s' reason' reason'' hs hs' hi hj
    rw [(hnew i s reason' hs hi).1, (hnew j s' reason'' hs' hj).1]

theorem Lives.ends (h : w.Lives) {c : GatewayConnection} {f : GatewayConnection → GatewayConnection}
    {gone : Option GatewaySession} {fallback : CloseReason} (hc : w.connections.get? ref = some c)
    (hopen : c.finalized = false) (hf : Ends c (f c))
    (hfallback : fallback = .REMOTE_CLOSE ∨ fallback = .closeCode .SERVER_SHUTDOWN) :
    ((w.forget gone).ends ref f c.session (c.closeReason.getD fallback)).Lives := by
  obtain ⟨phase, hat⟩ := h.phase ref
  rcases hat.open_cases hc hopen with ⟨rfl, -, hsession, -⟩ |
    ⟨session, rfl, -, hsession, href, hreason, -⟩ | ⟨session, cut, code, rfl, -, hsession, href, hreason, hcut⟩
  · rw [hsession]
    exact h.ends_none hat hc hopen hf hsession rfl
  · rw [hsession, hreason]
    exact h.ends_some hat none hc hopen hf hsession href hfallback rfl
  · cases session with
    | none =>
      rw [hsession]
      exact h.ends_none hat hc hopen hf hsession rfl
    | some session =>
      have hcut' : cut = some code := hcut.resolve_right (by simp)
      subst hcut'
      rw [hsession, hreason]
      exact h.ends_some hat (some code) hc hopen hf hsession (href session rfl) rfl rfl

theorem Lives.readies {options : BridgeGatewayOptions} (h : w.Lives) {c : GatewayConnection}
    {session : GatewaySession} {guard : Option ℕ} {now : ℤ}
    (hc : w.connections.get? session.connection = some c) (hopen : c.finalized = false)
    (hstate : c.state = .handshaking) (hsocket : w.HasSocket session.connection) :
    ((w.createSession options session guard now).emit [.acks session guard]).Lives := by
  obtain ⟨phase, hat⟩ := h.phase session.connection
  have hnot := hat.not_notifying hc hopen
  have hws : c.ws = true := by
    obtain ⟨c', hc', hws⟩ := hsocket
    rw [hc] at hc'
    cases hc'
    exact hws
  have hlog : ((w.createSession options session guard now).emit [.acks session guard]).log =
      w.log ++ [.creates session guard, .enters session.connection .ready, .acks session guard] := by
    simp [createSession]
  obtain ⟨rfl, hreason⟩ : phase = .handshaking ∧ c.closeReason = none := by
    rcases hat.open_cases hc hopen with ⟨rfl, -, -, hreason⟩ | ⟨_, -, hready, -⟩ | ⟨_, _, _, -, hclosing, -⟩
    · exact ⟨rfl, hreason⟩
    · rw [hstate] at hready
      cases hready
    · rw [hstate] at hclosing
      cases hclosing
  refine h.update session.connection ⟨.ready session, ?_, ?_, ?_, ?_, ?_⟩ (fun ref' href => ?_)
    (fun _ _ _ _ => Iff.rfl)
    (fun i j s s' reason reason' hs _ hi => absurd hi (hnot i s reason hs))
  · rw [part_of_all hlog (by simp [Effect.connection]), reads_append_of_eq hat.reads]
    simp [Doctmcp.Lib.reads, Phase.step]
  · intro hnone
    simp [createSession, hc] at hnone
  · intro c' hc'
    simp only [createSession, connections_emit, connections_modify, Heap.get?_modify_self, hc,
      Option.map_some, Option.some.injEq] at hc'
    subst hc'
    have htouch := armReadyIdleTimeout_touch options
      { c with session := some session, timeout := none, state := .ready, lastHeartbeatAtMs := now }
    exact htouch.in ⟨rfl, rfl, rfl, hopen, hreason, hws⟩
  · intro i s reason hcall hs
    exact absurd hcall (hnot i s reason hs)
  · intro s reason hphase
    cases hphase
  · exact frame_modify href rfl (part_of_forall _ hlog (by simpa [Effect.connection] using Ne.symm href))

/-- A connection that tells something is ready. -/
theorem Lives.tells (h : w.Lives) {c : GatewayConnection} {effect : Effect} {ref' : ℕ}
    (hc : w.connections.get? ref = some c) (hopen : c.finalized = false) (hclosing : c.state ≠ .closing)
    (hhandshaking : c.state ≠ .handshaking) (heffect : Tells ref c effect)
    (href : effect.connection = some ref') (hat : w.At ref' phase) :
    Phase.step phase effect = some phase := by
  obtain ⟨phase₀, hat₀⟩ := h.phase ref
  obtain ⟨session, rfl, hsession, hconnection⟩ : ∃ session, phase₀ = .ready session ∧
      c.session = some session ∧ session.connection = ref := by
    rcases hat₀.open_cases hc hopen with ⟨-, hstate, -⟩ | ⟨session, hphase, -, hsession, hconnection, -⟩ |
      ⟨_, _, _, -, hstate, -⟩
    · exact absurd hstate hhandshaking
    · exact ⟨session, hphase, hsession, hconnection⟩
    · exact absurd hstate hclosing
  have hphase : ref' = ref → phase = .ready session := by
    rintro rfl
    exact Option.some.inj (hat.reads.symm.trans hat₀.reads)
  have hsame : ∀ session', c.session = some session' → session' = session := fun session' h' =>
    Option.some.inj (h'.symm.trans hsession)
  cases effect with
  | sends ref₁ message =>
    rw [hphase ((Option.some.inj href).symm.trans heffect)]
    rfl
  | pings ref₁ nonce =>
    rw [hphase ((Option.some.inj href).symm.trans heffect)]
    rfl
  | onSession session' =>
    have heq := hsame session' heffect
    subst heq
    rw [hphase ((Option.some.inj href).symm.trans hconnection)]
    simp [Phase.step]
  | onmessage session' payload =>
    have heq := hsame session' heffect
    subst heq
    rw [hphase ((Option.some.inj href).symm.trans hconnection)]
    simp [Phase.step]
  | _ => exact heffect.elim

theorem Lives.reports (h : w.Lives) {i : ℕ} {session : GatewaySession} {reason : CloseReason}
    (hcall : w.calls.get? i = some (.notifying session reason)) :
    ((w.setCall i .returned).emit [.onSessionClosed session reason]).Lives := by
  obtain ⟨phase, hat⟩ := h.phase session.connection
  have hphase := hat.notifying i session reason hcall rfl
  subst hphase
  have hlog : ((w.setCall i .returned).emit [.onSessionClosed session reason]).log =
      w.log ++ [.onSessionClosed session reason] := rfl
  -- nobody else reports the end of this session
  have hnone : ∀ (j : ℕ) (s : GatewaySession) (reason' : CloseReason), s.connection = session.connection →
      (w.calls.modify i fun _ => Call.returned).get? j ≠ some (.notifying s reason') := by
    intro j s reason' hs hj
    obtain ⟨old, hold, hif⟩ := (Heap.get?_modify_eq_some _ _ _).mp hj
    by_cases hji : j = i
    · rw [if_pos hji] at hif
      cases hif
    · rw [if_neg hji] at hif
      subst hif
      exact hji (h.once j i s session reason' reason hold hcall hs)
  refine h.update session.connection ⟨.reported session, ?_, ?_, ?_, ?_, ?_⟩
    (fun ref' href => ?_) ?_ (fun j k s s' reason' reason'' hs _ hj => absurd hj (hnone j s reason' hs))
  · rw [part_of_all hlog (by simp [Effect.connection]), reads_append_of_eq hat.reads]
    simp [Doctmcp.Lib.reads, Phase.step]
  · intro hnew
    cases hat.new hnew
  · exact fun c' hc' => hat.record c' hc'
  · exact fun j s reason' hj hs => absurd hj (hnone j s reason' hs)
  · intro s reason' hphase
    cases hphase
  · exact frame_of_connections rfl (part_of_forall _ hlog (by simpa [Effect.connection] using Ne.symm href))
  · intro j s reason' hs
    simp only [calls_emit, calls_setCall, Heap.get?_modify]
    by_cases hji : j = i
    · subst hji
      simp only [if_true, hcall, Option.map_some, Option.some.injEq, reduceCtorEq, false_iff]
      rintro ⟨⟩
      exact hs rfl
    · rw [if_neg hji]

end World

/-! ## Runs -/

section
variable {options : BridgeGatewayOptions} {clean : Prop} {grants : Grants} {w w' : World}

theorem Move.lives (h : Move options clean grants w w') (hjustified : w.Justified options) (hw : w.Lives) :
    w'.Lives := by
  have hsame : ∀ i session reason, w.calls.get? i = some (.notifying session reason) ↔
      w.calls.get? i = some (.notifying session reason) := fun _ _ _ => Iff.rfl
  cases h with
  | connects listed =>
    refine hw.update w.connections.next ?_ (fun ref' href => ⟨rfl, ?_, ?_⟩)
      (fun _ _ _ _ => Iff.rfl) ?_
    · obtain ⟨phase, hat⟩ := hw.phase w.connections.next
      have hphase : phase = .handshaking := hat.new (Heap.get?_next _)
      refine ⟨phase, hat.reads, fun _ => hphase, ?_, hat.notifying, hat.reporting⟩
      intro c hc
      rw [Heap.get?_alloc, if_pos rfl] at hc
      cases hc
      subst hphase
      exact ⟨rfl, rfl, rfl, rfl⟩
    · intro c' hc'
      rw [Heap.get?_alloc, if_neg href] at hc'
      exact ⟨c', hc', .refl c'⟩
    · intro hnone
      rwa [Heap.get?_alloc, if_neg href] at hnone
    · intro i j session session' reason reason' href href' hi hj
      exact hw.once i j session session' reason reason' hi hj (href.trans href'.symm)
  | touches ref f hf =>
    refine hw.frame (fun ref' => ⟨rfl, ?_, ?_⟩) hsame
    · intro c' hc'
      obtain ⟨c, hc, hif⟩ := (Heap.get?_modify_eq_some _ _ _).mp hc'
      refine ⟨c, hc, ?_⟩
      by_cases href : ref' = ref
      · rw [if_pos href] at hif
        exact hif ▸ hf c (href ▸ hc)
      · rw [if_neg href] at hif
        exact hif ▸ .refl c
    · intro hnone
      rw [World.connections_modify, Heap.get?_modify] at hnone
      by_cases href : ref' = ref
      · rw [if_pos href] at hnone
        exact Option.map_eq_none_iff.mp hnone
      · rwa [if_neg href] at hnone
  | stops => exact hw.frame (fun _ => World.frame_of_connections rfl rfl) hsame
  | leaves ref c code frames hframes hc hopen hstate => exact hw.leaves hframes hc hopen hstate
  | ends ref c f gone fallback hc hopen hf hgone hfallback => exact hw.ends hc hopen hf hfallback
  | drops session => exact hw.frame (fun _ => World.frame_of_connections rfl rfl) hsame
  | tells ref c effect hc hopen hclosing hhandshaking heffect =>
    exact hw.emit effect fun ref' phase href hat =>
      hw.tells hc hopen hclosing hhandshaking heffect href hat
  | waits call hwaits hheld hreports =>
    exact hw.frame (fun _ => World.frame_of_connections rfl rfl) fun i session reason =>
      World.notifying_alloc hreports i session reason
  | proceeds i call call' hcall hwaits hheld hreports hreports' =>
    exact hw.frame (fun _ => World.frame_of_connections rfl rfl) fun j session reason =>
      World.notifying_setCall hcall hreports hreports' j session reason
  | authenticates i ref hello result identity =>
    exact hw.emit _ fun ref' phase _ _ => by cases phase <;> rfl
  | acquires i ref hello identity hgrants hcall =>
    exact hw.frame (fun ref' => World.frame_of_connections rfl (World.part_of_forall
      [.acquires identity (some w.guards)] rfl (by simp [Effect.connection])))
      fun j session reason => World.notifying_setCall hcall rfl rfl j session reason
  | declines i ref hello identity hgrants hcall =>
    exact hw.frame (fun ref' => World.frame_of_connections rfl (World.part_of_forall
      [.acquires identity none] rfl (by simp [Effect.connection])))
      fun j session reason => World.notifying_setCall hcall rfl rfl j session reason
  | validates i ref hello identity guard =>
    exact hw.emit _ fun ref' phase _ _ => by cases phase <;> rfl
  | readies i c session guard now hcall hc hopen hstate hfree hobject hentitled =>
    refine hw.readies hc hopen hstate ?_
    obtain ⟨hello, hmem⟩ := hentitled.authenticates hjustified
    exact hjustified.socket _ _ _ hmem
  | releases i call hcall hreports =>
    refine hw.frame (fun ref' => World.frame_of_connections (by simp) (World.part_of_forall _
      (World.log_release _ _) ?_)) fun j session reason => ?_
    · intro e he
      simp only [Option.mem_toList, Option.map_eq_some_iff] at he
      obtain ⟨guard, -, rfl⟩ := he
      simp [Effect.connection]
    · rw [World.calls_release]
      exact World.notifying_setCall hcall hreports rfl j session reason
  | reports i session reason hcall => exact hw.reports hcall

theorem lives_new : World.new.Lives where
  phase := by
    intro ref
    refine ⟨.handshaking, rfl, fun _ => rfl, ?_, ?_, ?_⟩
    · intro c hc
      cases hc
    · intro i session reason hcall
      cases hcall
    · intro session reason hphase
      cases hphase
  once := by
    intro i j session session' reason reason' hi
    cases hi

variable (options) in
theorem lives_run (events : List (Event × Readings)) :
    (runFrom (World.step options) World.new events).Lives := by
  have hboth : (runFrom (World.step options) World.new events).Justified options ∧
      (runFrom (World.step options) World.new events).Lives :=
    runFrom_moves (P := fun w => w.Justified options ∧ w.Lives)
      (fun _ _ h hw => ⟨h.justified hw.1, h.lives hw.1 hw.2⟩) ⟨justified_new, lives_new⟩ events
  exact hboth.2

variable (options) in
/-- For every connection, in any interleaving with the others, the automaton reads what the gateway has
done to it, and is then in the phase that the gateway has the connection in. -/
theorem life_run (events : List (Event × Readings)) (ref : ℕ) :
    let w := runFrom (World.step options) World.new events
    ∃ phase, reads Phase.step .handshaking (w.part ref) = some phase ∧
      ∀ c, w.connections.get? ref = some c → c.In ref phase := by
  intro w
  obtain ⟨phase, hat⟩ := (lives_run options events).phase ref
  exact ⟨phase, hat.reads, hat.record⟩

/-! ## The order of what happens to a connection -/

def Phase.stage : Phase → ℕ
  | .handshaking => 0
  | .created _ => 0
  | .entered _ => 1
  | .ready _ => 1
  | .closing _ _ => 2
  | .ended _ _ => 3
  | .reporting _ _ => 3
  | .reported _ => 3

def Phase.session : Phase → Option GatewaySession
  | .handshaking => none
  | .created session => some session
  | .entered session => some session
  | .ready session => some session
  | .closing session _ => session
  | .ended session _ => session
  | .reporting session _ => some session
  | .reported session => some session

/-- The place of the state that a connection enters. -/
def Effect.entered : Effect → Option ℕ
  | .enters _ state => some state.stage
  | _ => none

def Effect.isCreates : Effect → Bool
  | .creates _ _ => true
  | _ => false

def Effect.isAcks : Effect → Bool
  | .acks _ _ => true
  | _ => false

/-- What a connection does for its session. A farewell is no part of it. -/
def Effect.isTraffic : Effect → Bool
  | .onSession _ => true
  | .onmessage _ _ => true
  | .sends _ message => !message.isFarewell
  | .pings _ _ => true
  | _ => false

/-- What goes out on the socket of a connection. -/
def Effect.isOutgoing : Effect → Bool
  | .acks _ _ => true
  | .sends _ _ => true
  | .pings _ _ => true
  | .closes _ _ => true
  | _ => false

/-- The transitions of the automaton. -/
inductive Phase.Step : Phase → Effect → Phase → Prop
  | authenticates (phase : Phase) (ref : ℕ) (hello : BridgeHello)
    (identity : Option AuthenticatedDeviceIdentity) :
    Step phase (.authenticates ref hello identity) phase
  | validates (phase : Phase) (ref : ℕ) (hello : BridgeHello) (identity : AuthenticatedDeviceIdentity)
    (guard : Option ℕ) : Step phase (.validates ref hello identity guard) phase
  | creates (session : GatewaySession) (guard : Option ℕ) :
    Step .handshaking (.creates session guard) (.created session)
  | enters (session : GatewaySession) (ref : ℕ) :
    Step (.created session) (.enters ref .ready) (.entered session)
  | acks (session : GatewaySession) (guard : Option ℕ) :
    Step (.entered session) (.acks session guard) (.ready session)
  | onSession (session : GatewaySession) : Step (.ready session) (.onSession session) (.ready session)
  | onmessage (session : GatewaySession) (payload : JSONRPCMessage) :
    Step (.ready session) (.onmessage session payload) (.ready session)
  | sends (session : GatewaySession) (ref : ℕ) (message : BridgeMessage) :
    Step (.ready session) (.sends ref message) (.ready session)
  | pings (session : GatewaySession) (ref : ℕ) (nonce : UuidV4) :
    Step (.ready session) (.pings ref nonce) (.ready session)
  | gives_up (ref : ℕ) : Step .handshaking (.enters ref .closing) (.closing none none)
  | leaves (session : GatewaySession) (ref : ℕ) :
    Step (.ready session) (.enters ref .closing) (.closing (some session) none)
  | bids (session : Option GatewaySession) (ref : ℕ) (message : BridgeMessage)
    (h : message.isFarewell = true) :
    Step (.closing session none) (.sends ref message) (.closing session none)
  | closes (session : Option GatewaySession) (ref : ℕ) (code : BridgeCloseCode) :
    Step (.closing session none) (.closes ref code) (.closing session (some code))
  | breaks_off (ref : ℕ) : Step .handshaking (.enters ref .closed) (.ended none none)
  | breaks (session : GatewaySession) (ref : ℕ) :
    Step (.ready session) (.enters ref .closed) (.ended (some session) none)
  | ends (session : Option GatewaySession) (cut : Option BridgeCloseCode) (ref : ℕ) :
    Step (.closing session cut) (.enters ref .closed) (.ended session cut)
  | onclose (session : GatewaySession) (cut : Option BridgeCloseCode) (reason : CloseReason)
    (h : Reason cut reason) :
    Step (.ended (some session) cut) (.onclose session reason) (.reporting session reason)
  | onSessionClosed (session : GatewaySession) (reason : CloseReason) :
    Step (.reporting session reason) (.onSessionClosed session reason) (.reported session)

theorem Phase.step_cases {phase phase' : Phase} {e : Effect} (h : Phase.step phase e = some phase') :
    Phase.Step phase e phase' := by
  unfold Phase.step at h
  split at h
  case h_5 session session' guard =>
    split at h
    case isTrue hsame =>
      cases h
      exact hsame ▸ .acks session' guard
    case isFalse => cases h
  case h_6 session session' =>
    split at h
    case isTrue hsame =>
      cases h
      exact hsame ▸ .onSession session'
    case isFalse => cases h
  case h_7 session session' payload =>
    split at h
    case isTrue hsame =>
      cases h
      exact hsame ▸ .onmessage session' payload
    case isFalse => cases h
  case h_12 session ref message =>
    split at h
    case isTrue hfarewell =>
      cases h
      exact .bids session ref message hfarewell
    case isFalse => cases h
  case h_17 session cut session' reason =>
    split at h
    case isTrue hsame =>
      cases h
      exact hsame.1 ▸ .onclose session' cut reason hsame.2
    case isFalse => cases h
  case h_18 session reason session' reason' =>
    split at h
    case isTrue hsame =>
      cases h
      obtain ⟨rfl, rfl⟩ := hsame
      exact .onSessionClosed session' reason'
    case isFalse => cases h
  all_goals
    cases h
    try constructor

/-- What the automaton says of two entries about a connection. -/
theorem pairwise_part {R : Effect → Effect → Prop} {ref : ℕ} (h : (w.part ref).Pairwise R) :
    w.log.Pairwise fun x y => x.connection = some ref → y.connection = some ref → R x y :=
  (List.pairwise_filter.mp h).imp fun hR hx hy => hR (by simpa using hx) (by simpa using hy)

variable (options) in
/-- A connection moves forward only; it has at most one session, which is acknowledged before anything is
forwarded to it or sent on it but a farewell, and nothing is once the connection has begun to close. -/
theorem order_run (events : List (Event × Readings)) (ref : ℕ) :
    let w := runFrom (World.step options) World.new events
    (w.log.Pairwise fun x y => ∀ state state', x = .enters ref state → y = .enters ref state' →
        state.stage < state'.stage) ∧
      (w.log.countP fun e => e.isCreates ∧ e.connection = some ref) ≤ 1 ∧
      Precedes (fun e => e.isAcks = true ∧ e.connection = some ref)
        (fun e => e.isTraffic = true ∧ e.connection = some ref) w.log ∧
      w.log.Pairwise fun x y => x = .enters ref .closing ∨ x = .enters ref .closed →
        ¬ (y.isTraffic = true ∧ y.connection = some ref) := by
  intro w
  obtain ⟨phase, hreads, -⟩ := life_run options events ref
  refine ⟨?_, ?_, ?_, ?_⟩
  · have hrank : (w.part ref).Pairwise fun x y => ∀ m n, x.entered = some m → y.entered = some n → m < n := by
      refine pairwise_of_rank Phase.stage ?_ ?_ hreads
      · intro q e q' h
        cases Phase.step_cases h <;> simp [Phase.stage]
      · intro q e q' n h hn
        cases Phase.step_cases h <;> cases hn <;> simp [Phase.stage, GatewaySessionState.stage]
    refine (pairwise_part hrank).imp fun h state state' hx hy => ?_
    subst hx hy
    exact h rfl rfl _ _ rfl rfl
  · have hcreates : Marks Phase.step (fun e => e.isCreates = true) (fun q => q.session ≠ none) := by
      constructor
      · intro q e q' h
        cases Phase.step_cases h <;> simp [Effect.isCreates, Phase.session]
      · intro q e q' h
        cases Phase.step_cases h <;> simp [Phase.session]
    have hcount := hcreates.countP_eq hreads (by simp [Phase.session])
    unfold World.part at hcount
    rw [List.countP_filter] at hcount
    simp only [Bool.decide_eq_true, Bool.decide_and] at hcount ⊢
    rw [hcount]
    split <;> omega
  · have hacks : Precedes (fun e : Effect => e.isAcks = true) (fun e => e.isTraffic = true) (w.part ref) := by
      refine precedes_of_reads (S := fun q => q.session ≠ none ∧ ∀ s, q ≠ .created s ∧ q ≠ .entered s)
        ?_ ?_ hreads (by simp [Phase.session])
      · intro q e q' h
        cases Phase.step_cases h <;> simp_all [Effect.isAcks, Phase.session]
      · intro q e q' h
        cases Phase.step_cases h <;> simp_all [Effect.isTraffic, Phase.session]
    exact hacks.of_filter.imp (fun e he => by simpa using he) (fun e he => by simpa using he)
  · have hleft : (w.part ref).Pairwise fun x y => (∃ state, x = .enters ref state ∧ 2 ≤ state.stage) →
        ¬ y.isTraffic = true := by
      refine pairwise_of_reads (S := fun q => 2 ≤ q.stage) ?_ ?_ ?_ hreads
      · intro q e q' h
        cases Phase.step_cases h <;> simp [Phase.stage, GatewaySessionState.stage]
      · intro q e q' h
        cases Phase.step_cases h <;> simp [Phase.stage]
      · intro q e q' h
        cases Phase.step_cases h <;> simp_all [Phase.stage, Effect.isTraffic]
    refine (pairwise_part hleft).imp fun h hx hy => ?_
    rcases hx with rfl | rfl
    · exact h rfl hy.2 ⟨_, rfl, by decide⟩ hy.1
    · exact h rfl hy.2 ⟨_, rfl, by decide⟩ hy.1

variable (options) in
/-- A socket is closed from this side when its connection begins to close, and nothing goes out on it
afterwards; in particular it is closed once. -/
theorem socket_run (events : List (Event × Readings)) (ref : ℕ) :
    let w := runFrom (World.step options) World.new events
    (w.log.Pairwise fun x y => ∀ code, x = .closes ref code →
        ¬ (y.isOutgoing = true ∧ y.connection = some ref)) ∧
      Precedes (· = .enters ref .closing) (fun e => ∃ code, e = .closes ref code) w.log := by
  intro w
  obtain ⟨phase, hreads, -⟩ := life_run options events ref
  constructor
  · have hclosed : (w.part ref).Pairwise fun x y => (∃ ref code, x = .closes ref code) →
        ¬ y.isOutgoing = true := by
      refine pairwise_of_reads (S := fun q => 2 ≤ q.stage ∧ ∀ s, q ≠ .closing s none) ?_ ?_ ?_ hreads
      · intro q e q' h
        cases Phase.step_cases h <;> simp [Phase.stage]
      · intro q e q' h
        cases Phase.step_cases h <;> simp [Phase.stage]
      · intro q e q' h
        cases Phase.step_cases h <;> simp [Phase.stage, Effect.isOutgoing]
    refine (pairwise_part hclosed).imp fun h code hx hy => ?_
    subst hx
    exact h rfl hy.2 ⟨ref, code, rfl⟩ hy.1
  · have hentered : Precedes (fun e : Effect => ∃ ref, e = .enters ref .closing)
        (fun e => ∃ ref code, e = .closes ref code) (w.part ref) := by
      refine precedes_of_reads (S := fun q => q.stage = 2) ?_ ?_ hreads (by simp [Phase.stage])
      · intro q e q' h
        cases Phase.step_cases h <;> simp [Phase.stage]
      · intro q e q' h
        cases Phase.step_cases h <;> simp [Phase.stage]
    refine hentered.of_filter.imp ?_ ?_
    · rintro e ⟨⟨ref', rfl⟩, href⟩
      cases of_decide_eq_true href
      rfl
    · rintro e ⟨code, rfl⟩
      exact ⟨⟨ref, code, rfl⟩, decide_eq_true rfl⟩

/-! ## What a session is told of its end -/

def Effect.isOnclose : Effect → Bool
  | .onclose _ _ => true
  | _ => false

def Effect.isOnSessionClosed : Effect → Bool
  | .onSessionClosed _ _ => true
  | _ => false

def Phase.isTold : Phase → Bool
  | .reporting _ _ => true
  | .reported _ => true
  | _ => false

def Phase.isReported : Phase → Bool
  | .reported _ => true
  | _ => false

/-- How often the entries `p` about a connection are in the log. -/
def World.times (w : World) (p : Effect → Bool) (ref : ℕ) : ℕ :=
  w.log.countP fun e => p e && e.connection = some ref

theorem GatewayConnection.In.isTold_iff {c : GatewayConnection} {ref : ℕ} {phase : Phase}
    (h : c.In ref phase) : phase.isTold = true ↔ c.finalized = true ∧ c.session ≠ none := by
  cases phase with
  | handshaking => simp [Phase.isTold, h.2.1]
  | created session => exact h.elim
  | entered session => exact h.elim
  | ready session => simp [Phase.isTold, h.2.2.2.1]
  | closing session cut => simp [Phase.isTold, h.2.2.2.1]
  | ended session cut => simp [Phase.isTold, h.2.1]
  | reporting session reason => simp [Phase.isTold, h.2.1, h.2.2.2]
  | reported session => simp [Phase.isTold, h.2.1, h.2.2.2]

/-- The end is reported unless a call is still about to do so. -/
theorem World.At.isReported_iff {ref : ℕ} {phase : Phase} (h : w.At ref phase) :
    phase.isReported = phase.isTold ↔
      ∀ i session reason, w.calls.get? i = some (.notifying session reason) →
        session.connection ≠ ref := by
  constructor
  · intro heq i session reason hcall href
    have hphase := h.notifying i session reason hcall href
    subst hphase
    cases heq
  · intro hnone
    cases phase with
    | reporting session reason =>
      obtain ⟨i, hi⟩ := h.reporting session reason rfl
      cases hc : w.connections.get? ref with
      | none => cases h.new hc
      | some c => exact absurd (h.record c hc).2.2.1 (hnone i session reason hi)
    | _ => rfl

theorem times_eq (p : Effect → Bool) (ref : ℕ) :
    w.times p ref = (w.part ref).countP fun e => p e = true := by
  unfold World.times World.part
  rw [List.countP_filter]
  simp

variable (options) in
/-- A session is told of its end exactly once when its connection is finalized, by `onclose` and then,
when that has returned, by `onSessionClosed` with the same reason. The reason is the code with which the
socket was closed from this side, if it was. -/
theorem end_run (events : List (Event × Readings)) (ref : ℕ) :
    let w := runFrom (World.step options) World.new events
    (∀ c, w.connections.get? ref = some c →
        w.times Effect.isOnclose ref = (if c.finalized ∧ c.session ≠ none then 1 else 0) ∧
        w.times Effect.isOnSessionClosed ref ≤ w.times Effect.isOnclose ref ∧
        (w.times Effect.isOnSessionClosed ref = w.times Effect.isOnclose ref ↔
          ∀ i session reason, w.calls.get? i = some (.notifying session reason) →
            session.connection ≠ ref)) ∧
      (∀ session reason, session.connection = ref →
        Precedes (· = .onclose session reason) (· = .onSessionClosed session reason) w.log) ∧
      w.log.Pairwise fun x y => ∀ code session reason, x = .closes ref code →
        y = .onclose session reason → session.connection = ref → reason = .closeCode code := by
  intro w
  obtain ⟨phase, hat⟩ := (lives_run options events).phase ref
  have hreads := hat.reads
  refine ⟨?_, ?_, ?_⟩
  · intro c hc
    have honclose : Marks Phase.step (fun e => e.isOnclose = true) (fun q => q.isTold = true) := by
      constructor
      · intro q e q' h
        cases Phase.step_cases h <;> simp [Effect.isOnclose, Phase.isTold]
      · intro q e q' h
        cases Phase.step_cases h <;> simp [Phase.isTold]
    have honSessionClosed : Marks Phase.step (fun e => e.isOnSessionClosed = true)
        (fun q => q.isReported = true) := by
      constructor
      · intro q e q' h
        cases Phase.step_cases h <;> simp [Effect.isOnSessionClosed, Phase.isReported]
      · intro q e q' h
        cases Phase.step_cases h <;> simp [Phase.isReported]
    have hclose := honclose.countP_eq hreads (by simp [Phase.isTold])
    have hclosed := honSessionClosed.countP_eq hreads (by simp [Phase.isReported])
    rw [← times_eq] at hclose hclosed
    rw [hclose, hclosed]
    have hreported := hat.isReported_iff
    refine ⟨if_congr (hat.record c hc).isTold_iff rfl rfl, ?_, ?_⟩
    · cases phase <;> simp [Phase.isTold, Phase.isReported]
    · rw [← hreported]
      cases phase <;> simp [Phase.isTold, Phase.isReported]
  · intro session reason href
    have htold : Precedes (· = Effect.onclose session reason) (· = .onSessionClosed session reason)
        (w.part ref) := by
      refine precedes_of_reads (S := fun q => q = .reporting session reason) ?_ ?_ hreads (by simp)
      · intro q e q' h
        cases Phase.step_cases h <;> simp_all
      · intro q e q' h
        cases Phase.step_cases h <;> simp_all
    refine htold.of_filter.imp (fun e he => he.1) fun e he => ⟨he, ?_⟩
    subst he
    simpa [Effect.connection] using href
  · have hcut : ∀ code, (w.part ref).Pairwise fun x y => (∃ ref, x = .closes ref code) →
        ¬ ∃ session reason, y = .onclose session reason ∧ reason ≠ .closeCode code := by
      intro code
      refine pairwise_of_reads
        (S := fun q => (∃ s, q = .closing s (some code)) ∨ (∃ s, q = .ended s (some code)) ∨
          (∃ s r, q = .reporting s r) ∨ ∃ s, q = .reported s) ?_ ?_ ?_ hreads
      · intro q e q' h
        cases Phase.step_cases h <;> simp
      · intro q e q' h
        cases Phase.step_cases h <;> simp
      · intro q e q' h
        cases Phase.step_cases h with
        | onclose session cut reason hreason =>
          rintro (⟨s, hs⟩ | ⟨s, hs⟩ | ⟨s, r, hs⟩ | ⟨s, hs⟩)
          · cases hs
          · cases hs
            rintro ⟨s, r, heq, hne⟩
            cases heq
            exact hne hreason
          · cases hs
          · cases hs
        | _ => simp
    refine (pairwise_part (pairwise_forall hcut)).imp fun h code session reason hx hy href => ?_
    subst hx hy
    by_contra hne
    exact h rfl (congrArg some href) code ⟨ref, rfl⟩ ⟨session, reason, rfl, hne⟩

end

end Doctmcp.Gateway.Connections

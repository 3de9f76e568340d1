import Doctmcp.Gateway.HeartbeatSteps

/-! # Every run of a connection

At most one nonce or validation is outstanding, a validation goes back to the pong that carried the
outstanding nonce, and a connection that failed or closed stays so. -/

namespace Doctmcp.Gateway.Heartbeat
open Doctmcp.Lib Doctmcp.Schemas
set_option autoImplicit false

variable {options : GatewayOptions} {w w' : World} {e : Event}

/-! ## The invariant -/

structure Sound (w : World) : Prop where
  tidy : Tidy w.connection
  validating : w.connection.state = .ready →
    (w.connection.heartbeatValidating = true ↔ w.validations ≠ [])
  one : w.validations.length + w.connection.heartbeatNonce.toList.length ≤ 1
  sessions : ∀ v ∈ w.validations, w.connection.session = some v.session
  fresh : w.connection.state = .handshaking → w.validations = []
  issued : (w.accepted ++ w.connection.heartbeatNonce.toList).Sublist w.pinged

theorem sound_new : Sound .new where
  tidy := ⟨by simp [World.new, GatewayConnection.new], fun _ => ⟨rfl, rfl⟩, fun _ => ⟨rfl, rfl⟩,
    nofun⟩
  validating := nofun
  one := Nat.zero_le 1
  sessions v hv := absurd hv List.not_mem_nil
  fresh _ := rfl
  issued := List.nil_sublist _

theorem Sound.idle (h : Sound w) (hready : w.connection.state = .ready)
    (hidle : w.connection.heartbeatValidating = false) : w.validations = [] := by
  by_contra hnone
  exact Bool.false_ne_true (hidle.symm.trans ((h.validating hready).mpr hnone))

/-- The running validation is the only one. -/
theorem Sound.alone (h : Sound w) {validation : Validation} {others : List Validation}
    (hvalidations : w.validations = validation :: others) :
    others = [] ∧ w.connection.heartbeatNonce = none := by
  have hone := h.one
  rw [hvalidations, List.length_cons] at hone
  constructor
  · exact List.length_eq_zero_iff.mp (by omega)
  · cases hnonce : w.connection.heartbeatNonce with
    | none => rfl
    | some nonce =>
      rw [hnonce] at hone
      simp at hone

theorem Sound.moves (h : Sound w) (hmoves : Moves options w e w') : Sound w' := by
  cases hmoves with
  | quiet _ ws timer htimer hws =>
    refine ⟨⟨h.tidy.finalized, h.tidy.idle, fun hfresh => ⟨(h.tidy.fresh hfresh).1, ?_⟩, ?_⟩,
      h.validating, h.one, h.sessions, h.fresh, h.issued⟩
    · cases timer with
      | false => rfl
      | true => exact absurd hfresh (htimer rfl)
    · exact fun hready => ⟨hws (h.tidy.live hready).1, (h.tidy.live hready).2⟩
  | ends _ c' validations drawn hended hvalidations hdrawn =>
    have hnonce := (hended.tidy.idle hended.left.1).1
    have hsub : validations.Sublist w.validations := by
      rcases hvalidations with rfl | rfl
      · exact List.Sublist.refl _
      · exact List.tail_sublist _
    refine ⟨hended.tidy, fun hready => absurd hready hended.left.1, ?_, ?_,
      fun hfresh => absurd hfresh hended.left.2, ?_⟩
    · show validations.length + c'.heartbeatNonce.toList.length ≤ 1
      have hle := hsub.length_le
      have hone := h.one
      rw [hnonce, Option.toList_none, List.length_nil]
      omega
    · exact fun v hv => hended.session.trans (h.sessions v (hsub.subset hv))
    · show (w.accepted ++ c'.heartbeatNonce.toList).Sublist (w.pinged ++ drawn)
      rw [hnonce, Option.toList_none, List.append_nil]
      exact ((List.sublist_append_left _ _).trans h.issued).trans (List.sublist_append_left _ _)
  | readies session now callback c' hstate htidy hready hidle hsession =>
    have hnone := h.fresh hstate
    refine ⟨htidy, fun _ => ?_, ?_, ?_, fun _ => hnone, ?_⟩
    · rw [hidle.2, hnone]
      exact ⟨fun hfalse => absurd hfalse Bool.false_ne_true, fun hne => absurd rfl hne⟩
    · show w.validations.length + c'.heartbeatNonce.toList.length ≤ 1
      rw [hidle.1, hnone]
      exact Nat.zero_le 1
    · intro v hv
      rw [hnone] at hv
      exact absurd hv List.not_mem_nil
    · show (w.accepted ++ c'.heartbeatNonce.toList).Sublist w.pinged
      rw [hidle.1, Option.toList_none, List.append_nil]
      exact (List.sublist_append_left _ _).trans h.issued
  | pings now nonce timer hready hidle hintime =>
    have hnone := h.idle hready hidle.2
    refine ⟨⟨h.tidy.finalized, fun hnot => absurd hready hnot, ?_, h.tidy.live⟩, h.validating, ?_,
      h.sessions, fun _ => hnone, ?_⟩
    · intro hfresh
      rw [hready] at hfresh
      cases hfresh
    · show w.validations.length + 1 ≤ 1
      rw [hnone]
      exact Nat.le_refl 1
    · have hissued := h.issued
      rw [hidle.1, Option.toList_none, List.append_nil] at hissued
      exact hissued.append (List.Sublist.refl _)
  | begins payload validation hready hsession hnonce hidle hpayload =>
    have hnone := h.idle hready hidle
    refine ⟨⟨h.tidy.finalized, fun hnot => absurd hready hnot, h.tidy.fresh, h.tidy.live⟩,
      fun _ => ⟨fun _ => by simp, fun _ => rfl⟩, ?_, ?_, ?_, ?_⟩
    · show (w.validations ++ [validation]).length + 0 ≤ 1
      rw [hnone]
      exact Nat.le_refl 1
    · intro v hv
      rw [hnone, List.nil_append, List.mem_singleton] at hv
      rw [hv]
      exact hsession
    · intro hfresh
      exact absurd (hready.symm.trans hfresh) nofun
    · have hissued := h.issued
      rw [hnonce] at hissued
      show ((w.accepted ++ [validation.nonce]) ++ []).Sublist w.pinged
      rw [List.append_nil]
      exact hissued
  | accepts now validation others hvalidations hready hsession =>
    obtain ⟨rfl, hnonce⟩ := h.alone hvalidations
    refine ⟨⟨h.tidy.finalized, fun hnot => absurd hready hnot, h.tidy.fresh, h.tidy.live⟩,
      fun _ => ⟨nofun, fun hne => absurd rfl hne⟩, ?_, nofun, fun _ => rfl, h.issued⟩
    show 0 + w.connection.heartbeatNonce.toList.length ≤ 1
    rw [hnonce]
    exact Nat.zero_le 1
  | drops now validation others hvalidations hlate =>
    obtain ⟨rfl, hnonce⟩ := h.alone hvalidations
    have hsession := h.sessions validation (by rw [hvalidations]; exact List.mem_cons_self)
    have hgone := hlate.resolve_right (not_not_intro hsession)
    refine ⟨h.tidy, fun hready => absurd hready hgone, ?_, nofun, fun _ => rfl, h.issued⟩
    show 0 + w.connection.heartbeatNonce.toList.length ≤ 1
    rw [hnonce]
    exact Nat.zero_le 1

theorem Sound.step (h : Sound w) (e : Event) : Sound (w.step options e) :=
  h.moves (step_moves options h.tidy e)

/-! ## The life of a connection -/

/-- The connection failed or was closed. -/
def Gone (c : GatewayConnection) : Prop := c.state = .closing ∨ c.state = .closed

theorem Gone.not_ready {c : GatewayConnection} (h : Gone c) :
    c.state ≠ .ready ∧ c.state ≠ .handshaking := by
  rcases h with h | h <;> rw [h] <;> exact ⟨nofun, nofun⟩

theorem ready_of_past {c : GatewayConnection} (hpast : c.state ≠ .handshaking) (h : ¬ Gone c) :
    c.state = .ready := by
  unfold Gone at h
  cases hstate : c.state with
  | handshaking => exact absurd hstate hpast
  | ready => rfl
  | closing => exact absurd (.inl hstate) h
  | closed => exact absurd (.inr hstate) h

/-- A connection that is gone stays so and never pings or accepts again. -/
theorem Gone.moves (h : Gone w.connection) (hmoves : Moves options w e w') :
    Gone w'.connection ∧ w'.pinged = w.pinged ∧ w'.accepted = w.accepted ∧
      w'.connection.lastHeartbeatAtMs = w.connection.lastHeartbeatAtMs := by
  have hnot := h.not_ready
  cases hmoves with
  | quiet _ ws timer htimer hws => exact ⟨h, rfl, rfl, rfl⟩
  | ends _ c' validations drawn hended hvalidations hdrawn =>
    obtain rfl := hdrawn.resolve_right hnot.1
    exact ⟨hended.state, List.append_nil _, rfl, hended.last⟩
  | readies session now callback c' hstate => exact absurd hstate hnot.2
  | pings now nonce timer hready => exact absurd hready hnot.1
  | begins payload validation hready => exact absurd hready hnot.1
  | accepts now validation others hvalidations hready => exact absurd hready hnot.1
  | drops now validation others hvalidations hlate => exact ⟨h, rfl, rfl, rfl⟩

/-- After the handshake the session stays, and the time of the last heartbeat changes with an accepted
validation only. -/
theorem past_moves (hpast : w.connection.state ≠ .handshaking) (hmoves : Moves options w e w') :
    w'.connection.state ≠ .handshaking ∧ w'.connection.session = w.connection.session ∧
      (w'.connection.lastHeartbeatAtMs ≠ w.connection.lastHeartbeatAtMs →
        ∃ now v, e = .settled true now ∧ v ∈ w.validations ∧ w.connection.state = .ready ∧
          w.connection.session = some v.session ∧ w'.connection.lastHeartbeatAtMs = now) := by
  cases hmoves with
  | quiet _ ws timer htimer hws => exact ⟨hpast, rfl, fun hne => absurd rfl hne⟩
  | ends _ c' validations drawn hended hvalidations hdrawn =>
    exact ⟨hended.left.2, hended.session, fun hne => absurd hended.last hne⟩
  | readies session now callback c' hstate => exact absurd hstate hpast
  | pings now nonce timer hready => exact ⟨hpast, rfl, fun hne => absurd rfl hne⟩
  | begins payload validation hready => exact ⟨hpast, rfl, fun hne => absurd rfl hne⟩
  | accepts now validation others hvalidations hready hsession =>
    refine ⟨hpast, rfl, fun _ => ⟨now, validation, rfl, ?_, hready, hsession, rfl⟩⟩
    rw [hvalidations]
    exact List.mem_cons_self
  | drops now validation others hvalidations hlate =>
    exact ⟨hpast, rfl, fun hne => absurd rfl hne⟩

/-- A tick that finds the time of the last heartbeat too long ago fails the connection. -/
theorem tick_expired (h : Tidy w.connection) (htimer : w.connection.heartbeatTimer = true) {now : ℤ}
    (hexpired : options.heartbeatTimeoutMs ≤ (now - w.connection.lastHeartbeatAtMs : ℤ))
    (nonce : UuidV4) (sent : Bool) :
    Gone (w.step options (.tick now nonce sent)).connection ∧
      (w.step options (.tick now nonce sent)).pinged = w.pinged := by
  have hpast : w.connection.state ≠ .handshaking := fun hfresh =>
    Bool.false_ne_true ((h.fresh hfresh).2.symm.trans htimer)
  show Gone (w.onTick options now nonce sent).connection ∧
    (w.onTick options now nonce sent).pinged = w.pinged
  unfold World.onTick
  rw [if_pos htimer, if_neg (fun hpings => hpings.2.1 hexpired)]
  refine ⟨?_, rfl⟩
  show Gone (tick options w.connection now nonce sent)
  unfold tick
  dsimp only
  by_cases hgone : w.connection.finalized ∨ w.connection.state ≠ .ready ∨
      w.connection.ws = false ∨ w.connection.session = none
  · rw [if_pos hgone]
    by_contra hnot
    have hready := ready_of_past hpast hnot
    obtain ⟨hws, hsession⟩ := h.live hready
    rcases hgone with hfinal | hstate | hclosed | hnone
    · exact absurd (hready.symm.trans (h.finalized.mp hfinal)) nofun
    · exact hstate hready
    · exact Bool.false_ne_true (hclosed.symm.trans hws)
    · exact hsession hnone
  · rw [if_neg hgone, if_pos hexpired]
    have hfired : Tidy { w.connection with heartbeatTimer := false } :=
      ⟨h.finalized, h.idle, fun hfresh => absurd hfresh hpast, h.live⟩
    exact (ended_failConnection hfired).state

/-! ## Runs -/

/-- The connection after these events. -/
def after (options : GatewayOptions) (es : List Event) : World :=
  runFrom (World.step options) .new es

theorem sound_run (hw : Sound w) (es : List Event) : Sound (runFrom (World.step options) w es) :=
  runFrom_invariant (P := Sound) (fun _ e h => h.step e) hw es

theorem sound_after (options : GatewayOptions) (es : List Event) : Sound (after options es) := sound_run sound_new es

theorem after_concat (es : List Event) (e : Event) :
    after options (es ++ [e]) = (after options es).step options e := by
  unfold after
  rw [runFrom_append]
  rfl

theorem after_append (es fs : List Event) :
    after options (es ++ fs) = runFrom (World.step options) (after options es) fs :=
  runFrom_append _ es fs

theorem gone_run (options : GatewayOptions) (hw : Sound w) (h : Gone w.connection) (es : List Event) :
    Gone (runFrom (World.step options) w es).connection ∧
      (runFrom (World.step options) w es).pinged = w.pinged ∧
      (runFrom (World.step options) w es).accepted = w.accepted ∧
      (runFrom (World.step options) w es).connection.lastHeartbeatAtMs =
        w.connection.lastHeartbeatAtMs := by
  induction es generalizing w with
  | nil => exact ⟨h, rfl, rfl, rfl⟩
  | cons e es ih =>
    obtain ⟨hgone, hpinged, haccepted, hlast⟩ := h.moves (step_moves options hw.tidy e)
    obtain ⟨hgone', hpinged', haccepted', hlast'⟩ := ih (hw.step e) hgone
    exact ⟨hgone', hpinged'.trans hpinged, haccepted'.trans haccepted, hlast'.trans hlast⟩

theorem past_run (options : GatewayOptions) (hw : Sound w) (h : w.connection.state ≠ .handshaking) (es : List Event) :
    (runFrom (World.step options) w es).connection.state ≠ .handshaking ∧
      (runFrom (World.step options) w es).connection.session = w.connection.session := by
  induction es generalizing w with
  | nil => exact ⟨h, rfl⟩
  | cons e es ih =>
    obtain ⟨hpast, hsession, _⟩ := past_moves h (step_moves options hw.tidy e)
    obtain ⟨hpast', hsession'⟩ := ih (hw.step e) hpast
    exact ⟨hpast', hsession'.trans hsession⟩

/-- The validation began with a pong that carried the outstanding nonce. -/
structure BeganWith (options : GatewayOptions) (v : Validation) (front : List Event)
    (payload : List UInt8) : Prop where
  nonce : (after options front).connection.heartbeatNonce = some v.nonce
  carried : decodeHeartbeatPayload payload = some v.nonce.value
  ready : (after options front).connection.state = .ready
  session : (after options front).connection.session = some v.session

theorem began (es : List Event) : ∀ v ∈ (after options es).validations,
    ∃ front payload back, es = front ++ .pong payload :: back ∧
      BeganWith options v front payload := by
  induction es using List.reverseRecOn with
  | nil => exact fun v hv => absurd hv List.not_mem_nil
  | append_singleton es e ih =>
    intro v hv
    rw [after_concat] at hv
    have hmoves := step_moves options (sound_after options es).tidy e
    have hbefore : v ∈ (after options es).validations → ∃ front payload back,
        es ++ [e] = front ++ .pong payload :: back ∧ BeganWith options v front payload := by
      intro hmem
      obtain ⟨front, payload, back, rfl, hbegan⟩ := ih v hmem
      exact ⟨front, payload, back ++ [e], by simp, hbegan⟩
    generalize (after options es).step options e = w' at hv hmoves
    cases hmoves with
    | quiet _ ws timer htimer hws => exact hbefore hv
    | ends _ c' validations drawn hended hvalidations hdrawn =>
      refine hbefore ?_
      rcases hvalidations with rfl | rfl
      · exact hv
      · exact List.mem_of_mem_tail hv
    | readies session now callback c' hstate => exact hbefore hv
    | pings now nonce timer hready => exact hbefore hv
    | begins payload validation hready hsession hnonce hidle hpayload =>
      rcases List.mem_append.mp hv with hmem | hnew
      · exact hbefore hmem
      · obtain rfl := List.mem_singleton.mp hnew
        exact ⟨es, payload, [], rfl, hnonce, hpayload, hready, hsession⟩
    | accepts now validation others hvalidations hready hsession =>
      refine hbefore ?_
      rw [hvalidations]
      exact List.mem_cons_of_mem _ hv
    | drops now validation others hvalidations hlate =>
      refine hbefore ?_
      rw [hvalidations]
      exact List.mem_cons_of_mem _ hv

/-- Between a ready connection and a later one that is still ready it was ready all along, with the
same session. -/
theorem ready_between {front part rest : List Event}
    (hfirst : (after options front).connection.state = .ready)
    (hlast : (after options (front ++ part ++ rest)).connection.state = .ready) :
    (after options (front ++ part)).connection.state = .ready ∧
      (after options (front ++ part)).connection.session =
        (after options front).connection.session := by
  have hpast := past_run options (sound_after options front)
    (by rw [hfirst]; exact nofun) part
  rw [← after_append] at hpast
  refine ⟨ready_of_past hpast.1 fun hgone => ?_, hpast.2⟩
  have hstays := (gone_run options (sound_after options (front ++ part)) hgone rest).1
  rw [← after_append] at hstays
  exact hstays.not_ready.1 hlast

/-! ## Heartbeats -/

/-- The connection was ready with the session of the validation at the pong that carried its nonce, and
ever since. -/
def StayedReady (options : GatewayOptions) (es : List Event) (v : Validation) : Prop :=
  ∃ front payload back, es = front ++ .pong payload :: back ∧ BeganWith options v front payload ∧
    ∀ part, part <+: back →
      (after options (front ++ .pong payload :: part)).connection.state = .ready ∧
        (after options (front ++ .pong payload :: part)).connection.session = some v.session

/-- What holds of the heartbeat after the events of a run. -/
structure HeartbeatSound (options : GatewayOptions) (es : List Event) : Prop where
  /-- At most one nonce or validation is outstanding. -/
  outstanding : (after options es).validations.length +
    (after options es).connection.heartbeatNonce.toList.length ≤ 1
  /-- Each nonce that was drawn is accepted at most once, so new nonces are accepted once at most. -/
  once : (after options es).accepted.Sublist (after options es).pinged ∧
    ((after options es).pinged.Nodup → (after options es).accepted.Nodup)
  /-- After the handshake the time of the last heartbeat changes only with a validation that succeeded
  and whose connection stayed ready. -/
  advances : ∀ e, (after options es).connection.state ≠ .handshaking →
    (after options (es ++ [e])).connection.lastHeartbeatAtMs ≠
      (after options es).connection.lastHeartbeatAtMs →
    ∃ now v, e = .settled true now ∧ (after options es).validations = [v] ∧
      (after options (es ++ [e])).connection.lastHeartbeatAtMs = now ∧ StayedReady options es v
  /-- A tick after the timeout fails the connection for good. -/
  expires : ∀ now nonce sent fs, (after options es).connection.heartbeatTimer = true →
    options.heartbeatTimeoutMs ≤ (now - (after options es).connection.lastHeartbeatAtMs : ℤ) →
    Gone (after options (es ++ .tick now nonce sent :: fs)).connection ∧
      (after options (es ++ .tick now nonce sent :: fs)).pinged = (after options es).pinged

theorem stayedReady {es : List Event} {v : Validation} (hv : v ∈ (after options es).validations)
    (hready : (after options es).connection.state = .ready) : StayedReady options es v := by
  obtain ⟨front, payload, back, rfl, hbegan⟩ := began es v hv
  refine ⟨front, payload, back, rfl, hbegan, fun part hpart => ?_⟩
  obtain ⟨rest, rfl⟩ := hpart
  have hsplit : front ++ .pong payload :: (part ++ rest) =
      front ++ (.pong payload :: part) ++ rest := by simp
  rw [hsplit] at hready
  obtain ⟨hstate, hsession⟩ := ready_between hbegan.ready hready
  exact ⟨hstate, hsession.trans hbegan.session⟩

theorem heartbeatSound (options : GatewayOptions) (es : List Event) : HeartbeatSound options es where
  outstanding := (sound_after options es).one
  once :=
    have hissued := (List.sublist_append_left _ _).trans (sound_after options es).issued
    ⟨hissued, hissued.nodup⟩
  advances := by
    intro e hpast hlast
    have hsound := sound_after options es
    rw [after_concat] at hlast ⊢
    obtain ⟨_, _, hadvances⟩ := past_moves hpast (step_moves options hsound.tidy e)
    obtain ⟨now, v, rfl, hv, hready, _, hnow⟩ := hadvances hlast
    refine ⟨now, v, rfl, ?_, hnow, stayedReady hv hready⟩
    obtain ⟨first, others, hvalidations⟩ := List.exists_cons_of_ne_nil (List.ne_nil_of_mem hv)
    rw [hvalidations, (hsound.alone hvalidations).1] at hv ⊢
    rw [List.mem_singleton.mp hv]
  expires := by
    intro now nonce sent fs htimer hexpired
    have hsound := sound_after options es
    obtain ⟨hgone, hpinged⟩ := tick_expired hsound.tidy htimer hexpired nonce sent
    obtain ⟨hgone', hpinged', _⟩ :=
      gone_run options (hsound.step (.tick now nonce sent)) hgone fs
    rw [after_append]
    exact ⟨hgone', hpinged'.trans hpinged⟩

end Doctmcp.Gateway.Heartbeat

import Doctmcp.Gateway.Heartbeat

/-! # What a step of a connection does -/

namespace Doctmcp.Gateway.Heartbeat
open Doctmcp.Lib Doctmcp.Schemas
set_option autoImplicit false

variable {options : GatewayOptions} {c : GatewayConnection} {w : World}

/-! ## Ways out of ready -/

/-- Outside of `ready` nothing is outstanding, and before it nothing is scheduled. -/
structure Tidy (c : GatewayConnection) : Prop where
  finalized : c.finalized = true ↔ c.state = .closed
  idle : c.state ≠ .ready → c.heartbeatNonce = none ∧ c.heartbeatValidating = false
  fresh : c.state = .handshaking → c.session = none ∧ c.heartbeatTimer = false
  live : c.state = .ready → c.ws = true ∧ c.session ≠ none

/-- The connection was failed or closed. -/
structure Ended (c c' : GatewayConnection) : Prop where
  state : c'.state = .closing ∨ c'.state = .closed
  tidy : Tidy c'
  session : c'.session = c.session
  last : c'.lastHeartbeatAtMs = c.lastHeartbeatAtMs

theorem ended_cleared (c : GatewayConnection) (h : c.finalized = false) :
    Ended c { clearHeartbeat c with state := .closing } where
  state := .inl rfl
  tidy := ⟨by simp [clearHeartbeat, h], fun _ => ⟨rfl, rfl⟩, nofun, nofun⟩
  session := rfl
  last := rfl

theorem ended_self (h : Tidy c) (hstate : c.state = .closing ∨ c.state = .closed) : Ended c c :=
  ⟨hstate, h, rfl, rfl⟩

theorem ended_failConnection (h : Tidy c) : Ended c (failConnection c) := by
  unfold failConnection
  split
  · next hover => exact ended_self h (hover.symm.imp_right h.finalized.mp)
  · next hopen =>
    rw [not_or, Bool.not_eq_true] at hopen
    exact ended_cleared c hopen.1

theorem ended_finalizeConnection (h : Tidy c) : Ended c (finalizeConnection c) := by
  unfold finalizeConnection
  split
  · next hover => exact ended_self h (.inr (h.finalized.mp hover))
  · exact ⟨.inr rfl, ⟨⟨fun _ => rfl, fun _ => rfl⟩, fun _ => ⟨rfl, rfl⟩, nofun, nofun⟩, rfl, rfl⟩

theorem ended_closeConnection (h : Tidy c) : Ended c (closeConnection c) := by
  unfold closeConnection
  split
  · next hover =>
    refine ended_self h ?_
    rcases hover with hfinal | hclosing | hclosed
    · exact .inr (h.finalized.mp hfinal)
    · exact .inl hclosing
    · exact .inr hclosed
  · next hopen =>
    rw [not_or, Bool.not_eq_true] at hopen
    have hcleared := ended_cleared c hopen.1
    split
    · exact hcleared
    · have hfinal := ended_finalizeConnection hcleared.tidy
      exact ⟨hfinal.state, hfinal.tidy, hfinal.session, hfinal.last⟩

theorem Ended.trans {c' c'' : GatewayConnection} (h : Ended c c') (h' : Ended c' c'') : Ended c c'' :=
  ⟨h'.state, h'.tidy, h'.session.trans h.session, h'.last.trans h.last⟩

theorem Ended.left {c' : GatewayConnection} (h : Ended c c') :
    c'.state ≠ .ready ∧ c'.state ≠ .handshaking := by
  rcases h.state with hstate | hstate <;> rw [hstate] <;> exact ⟨nofun, nofun⟩

theorem Tidy.scheduleHeartbeat (h : Tidy c) (hstate : c.state ≠ .handshaking) :
    Tidy (scheduleHeartbeat options c) :=
  ⟨h.finalized, h.idle, fun hfresh => absurd hfresh hstate, h.live⟩

theorem Ended.scheduleHeartbeat {c' : GatewayConnection} (h : Ended c c') :
    Ended c (scheduleHeartbeat options c') :=
  ⟨h.state, h.tidy.scheduleHeartbeat h.left.2, h.session, h.last⟩

/-! ## One step -/

/-- What a step does. -/
inductive Moves (options : GatewayOptions) (w : World) : Event → World → Prop
  | quiet (e : Event) (ws timer : Bool)
      (htimer : timer = true → w.connection.state ≠ .handshaking)
      (hws : w.connection.ws = true → ws = true) :
      Moves options w e
        { w with connection := { w.connection with ws := ws, heartbeatTimer := timer } }
  /-- The connection fails or closes. A validation that failed goes, and a nonce that could not be sent
  was drawn. -/
  | ends (e : Event) (c' : GatewayConnection) (validations : List Validation) (drawn : List UuidV4)
      (hended : Ended w.connection c')
      (hvalidations : validations = w.validations ∨ validations = w.validations.tail)
      (hdrawn : drawn = [] ∨ w.connection.state = .ready) :
      Moves options w e
        { w with connection := c', validations := validations, pinged := w.pinged ++ drawn }
  | readies (session : BridgeGatewaySession) (now : ℤ) (callback : Callback)
      (c' : GatewayConnection) (hstate : w.connection.state = .handshaking)
      (htidy : Tidy c') (hready : c'.state ≠ .handshaking)
      (hidle : c'.heartbeatNonce = none ∧ c'.heartbeatValidating = false)
      (hsession : c'.session = some session) :
      Moves options w (.ready session now callback) { w with connection := c' }
  | pings (now : ℤ) (nonce : UuidV4) (timer : Bool) (hready : w.connection.state = .ready)
      (hidle : w.connection.heartbeatNonce = none ∧ w.connection.heartbeatValidating = false)
      (hintime : ¬ options.heartbeatTimeoutMs ≤ (now - w.connection.lastHeartbeatAtMs : ℤ)) :
      Moves options w (.tick now nonce true)
        { w with
          connection :=
            { w.connection with heartbeatTimer := timer, heartbeatNonce := some nonce }
          pinged := w.pinged ++ [nonce] }
  | begins (payload : List UInt8) (validation : Validation)
      (hready : w.connection.state = .ready)
      (hsession : w.connection.session = some validation.session)
      (hnonce : w.connection.heartbeatNonce = some validation.nonce)
      (hidle : w.connection.heartbeatValidating = false)
      (hpayload : decodeHeartbeatPayload payload = some validation.nonce.value) :
      Moves options w (.pong payload)
        { w with
          connection := { w.connection with heartbeatNonce := none, heartbeatValidating := true }
          validations := w.validations ++ [validation]
          accepted := w.accepted ++ [validation.nonce] }
  | accepts (now : ℤ) (validation : Validation) (others : List Validation)
      (hvalidations : w.validations = validation :: others)
      (hready : w.connection.state = .ready)
      (hsession : w.connection.session = some validation.session) :
      Moves options w (.settled true now)
        { w with
          connection :=
            { w.connection with lastHeartbeatAtMs := now, heartbeatValidating := false }
          validations := others }
  /-- A validation that succeeded too late. -/
  | drops (now : ℤ) (validation : Validation) (others : List Validation)
      (hvalidations : w.validations = validation :: others)
      (hlate : w.connection.state ≠ .ready ∨ w.connection.session ≠ some validation.session) :
      Moves options w (.settled true now) { w with validations := others }

theorem Moves.same (h : Tidy w.connection) (e : Event) : Moves options w e w :=
  .quiet e w.connection.ws w.connection.heartbeatTimer
    (fun htimer hstate => Bool.false_ne_true ((h.fresh hstate).2.symm.trans htimer)) id

theorem Moves.ended (e : Event) {c' : GatewayConnection} (hended : Ended w.connection c') :
    Moves options w e { w with connection := c' } := by
  have h : Moves options w e
      { w with connection := c', validations := w.validations, pinged := w.pinged ++ [] } :=
    .ends e c' w.validations [] hended (.inl rfl) (.inl rfl)
  rwa [List.append_nil] at h

theorem readies_becomeReady (h : Tidy w.connection) (session : BridgeGatewaySession) (now : ℤ)
    (callback : Callback) : Moves options w (.ready session now callback)
      { w with connection := becomeReady options w.connection session now callback } := by
  unfold becomeReady
  split
  · exact .same h _
  · next hopen =>
    rw [not_or, not_or, Bool.not_eq_true, not_not, Bool.not_eq_false] at hopen
    obtain ⟨hfinal, hstate, hws⟩ := hopen
    have hidle := h.idle (by rw [hstate]; exact nofun)
    obtain ⟨ready, hready⟩ : ∃ ready, ready = { w.connection with
      session := some session, state := .ready, lastHeartbeatAtMs := now } := ⟨_, rfl⟩
    have htidy : Tidy ready := by
      rw [hready]
      exact ⟨by simp [hfinal], fun hnot => absurd rfl hnot, nofun, fun _ => ⟨hws, nofun⟩⟩
    have hquiet : ready.heartbeatNonce = none ∧ ready.heartbeatValidating = false := by
      rw [hready]
      exact hidle
    have hsession : ready.session = some session := by rw [hready]
    have hended : ∀ {c' : GatewayConnection}, Ended ready c' →
        Moves options w (.ready session now callback) { w with connection := c' } :=
      fun {c'} hend => .readies session now callback c' hstate hend.tidy hend.left.2
        (hend.tidy.idle hend.left.1) (hend.session.trans hsession)
    dsimp only
    rw [← hready]
    have hannounced : ∀ {announced : GatewayConnection}, announced = ready ∨ Ended ready announced →
        Moves options w (.ready session now callback) { w with
          connection := if callback.throws then failConnection announced
            else scheduleHeartbeat options announced } := by
      intro announced h
      split
      · rcases h with rfl | hend
        · exact hended (ended_failConnection htidy)
        · exact hended (hend.trans (ended_failConnection hend.tidy))
      · rcases h with rfl | hend
        · have hnot : announced.state ≠ .handshaking := by
            rw [hready]
            exact nofun
          exact .readies session now callback _ hstate (htidy.scheduleHeartbeat hnot) hnot hquiet
            hsession
        · exact hended hend.scheduleHeartbeat
    cases callback.closes with
    | false => exact hannounced (.inl rfl)
    | true => exact hannounced (.inr (ended_closeConnection htidy))

/-- A tick on a connection that timed out ends it; else it pings at most once, and not while
anything is outstanding. -/
theorem moves_onTick (h : Tidy w.connection) (now : ℤ) (nonce : UuidV4) (sent : Bool) :
    Moves options w (.tick now nonce sent) (w.onTick options now nonce sent) := by
  unfold World.onTick
  split
  · next htimer =>
    have hstate : w.connection.state ≠ .handshaking := fun hstate =>
      Bool.false_ne_true ((h.fresh hstate).2.symm.trans htimer)
    have hfired : Tidy { w.connection with heartbeatTimer := false } :=
      ⟨h.finalized, h.idle, fun hfresh => absurd hfresh hstate, h.live⟩
    unfold tick
    dsimp only
    by_cases hgone : w.connection.finalized ∨ w.connection.state ≠ .ready ∨
        w.connection.ws = false ∨ w.connection.session = none
    · rw [if_pos hgone, if_neg (fun hpings => hpings.1 hgone)]
      exact .quiet _ w.connection.ws false nofun id
    · rw [if_neg hgone]
      have hready : w.connection.state = .ready := by
        by_contra hnot
        exact hgone (.inr (.inl hnot))
      by_cases hexpired :
          options.heartbeatTimeoutMs ≤ (now - w.connection.lastHeartbeatAtMs : ℤ)
      · rw [if_pos hexpired, if_neg (fun hpings => hpings.2.1 hexpired)]
        have hend := ended_failConnection hfired
        exact .ended _ ⟨hend.state, hend.tidy, hend.session, hend.last⟩
      · rw [if_neg hexpired]
        by_cases hidle : w.connection.heartbeatNonce = none ∧
            w.connection.heartbeatValidating = false
        · have hpings : Pings options w.connection now := ⟨hgone, hexpired, hidle⟩
          rw [if_pos hidle, if_pos hpings]
          cases sent with
          | true => exact .pings now nonce _ hready hidle hexpired
          | false =>
            have hpinging : Tidy { w.connection with
                heartbeatTimer := false, heartbeatNonce := some nonce } :=
              ⟨h.finalized, fun hnot => absurd hready hnot, fun hfresh => absurd hfresh hstate,
                h.live⟩
            have hend := ended_failConnection hpinging
            exact .ends _ _ _ [nonce] ⟨hend.state, hend.tidy, hend.session, hend.last⟩ (.inl rfl)
              (.inr hready)
        · rw [if_neg hidle, if_neg (fun hpings => hidle hpings.2.2)]
          exact .quiet _ w.connection.ws _ (fun _ => hstate) id
  · exact .same h _

theorem handlePong_cases {payload : List UInt8} {validation : Validation}
    (h : handlePong c payload = some validation) :
    c.state = .ready ∧ c.session = some validation.session ∧
      c.heartbeatNonce = some validation.nonce ∧ c.heartbeatValidating = false ∧
        decodeHeartbeatPayload payload = some validation.nonce.value := by
  unfold handlePong at h
  split at h
  · next session nonce hsession hnonce =>
    split_ifs at h with hgone hpayload
    cases h
    rw [not_or, not_or, not_or, not_not, Bool.not_eq_true] at hgone
    exact ⟨hgone.2.1, hsession, hnonce, by simpa using hgone.2.2.2, hpayload⟩
  · cases h

theorem moves_onPong (h : Tidy w.connection) (payload : List UInt8) :
    Moves options w (.pong payload) (w.onPong payload) := by
  unfold World.onPong
  split
  · exact .same h _
  · next validation hpong =>
    obtain ⟨hready, hsession, hnonce, hidle, hpayload⟩ := handlePong_cases hpong
    exact .begins payload validation hready hsession hnonce hidle hpayload

theorem moves_onSettled (h : Tidy w.connection) (valid : Bool) (now : ℤ) :
    Moves options w (.settled valid now) (w.onSettled valid now) := by
  unfold World.onSettled
  split
  · exact .same h _
  · next validation others hvalidations =>
    unfold settleHeartbeat
    cases valid with
    | true =>
      rw [if_pos rfl]
      split
      · next hgone =>
        refine .drops now validation others hvalidations ?_
        rcases hgone with hfinal | hstate | hsession
        · exact .inl (by rw [h.finalized.mp hfinal]; exact nofun)
        · exact .inl hstate
        · exact .inr hsession
      · next hstays =>
        rw [not_or, not_or, not_not, not_not] at hstays
        exact .accepts now validation others hvalidations hstays.2.1 hstays.2.2
    | false =>
      rw [if_neg Bool.false_ne_true]
      have htidy : Tidy { w.connection with heartbeatValidating := false } :=
        ⟨h.finalized, fun hnot => ⟨(h.idle hnot).1, rfl⟩, h.fresh, h.live⟩
      have hend := ended_failConnection htidy
      obtain ⟨c', hc'⟩ : ∃ c', c' = failConnection
          { w.connection with heartbeatValidating := false } := ⟨_, rfl⟩
      rw [← hc'] at hend ⊢
      have hmoves : Moves options w (.settled false now)
          { w with connection := c', validations := others, pinged := w.pinged ++ [] } :=
        .ends _ c' others [] ⟨hend.state, hend.tidy, hend.session, hend.last⟩
          (.inr (by rw [hvalidations]; rfl)) (.inl rfl)
      rwa [List.append_nil] at hmoves

theorem step_moves (options : GatewayOptions) (h : Tidy w.connection) (e : Event) :
    Moves options w e (w.step options e) := by
  cases e with
  | «open» =>
    exact .quiet _ true w.connection.heartbeatTimer
      (fun htimer hstate => Bool.false_ne_true ((h.fresh hstate).2.symm.trans htimer)) fun _ => rfl
  | ready session now callback => exact readies_becomeReady h session now callback
  | tick now nonce sent => exact moves_onTick h now nonce sent
  | pong payload => exact moves_onPong h payload
  | settled valid now => exact moves_onSettled h valid now
  | fail => exact .ended _ (ended_failConnection h)
  | close => exact .ended _ (ended_closeConnection h)
  | finalize => exact .ended _ (ended_finalizeConnection h)

end Doctmcp.Gateway.Heartbeat

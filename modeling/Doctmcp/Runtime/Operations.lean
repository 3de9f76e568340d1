import Doctmcp.Runtime.Steps

/-! # The operations of the runtime

What the authentications and the operations that replace credentials keep of what holds between the parts
of the runtime, and with that every step of it. -/

namespace Doctmcp.Runtime
open Doctmcp.Lib Doctmcp.Lib.Operation Doctmcp.Schemas Doctmcp.Gateway Doctmcp.Credential Doctmcp.Routing
open Doctmcp.Gateway.Connections (Effect Readings)
open Doctmcp.Routing.DeviceSessionRegistry
set_option autoImplicit false

section
variable {S : Type} {A : Adapter S} {options : RuntimeOptions} {log : List Effect} {w : ServerRuntime S}

/-! ## Authentications -/

theorem authenticationDrained_cases (p : DeviceId → Bool) (op : LifecycleOperation) :
    (∃ succeeds, op.stage = .authenticationDraining succeeds ∧ p op.deviceId = true ∧
        LifecycleOperation.authenticationDrained p op =
          { op with stage := .authenticationDrained succeeds }) ∨
      ((∀ succeeds, op.stage = .authenticationDraining succeeds → p op.deviceId = false) ∧
        LifecycleOperation.authenticationDrained p op = op) := by
  unfold LifecycleOperation.authenticationDrained
  by_cases hp : p op.deviceId = true
  · rw [if_pos hp]
    cases hstage : op.stage with
    | authenticationDraining succeeds => exact .inl ⟨succeeds, rfl, hp, rfl⟩
    | _ => exact .inr ⟨by simp, rfl⟩
  · rw [if_neg hp]
    exact .inr ⟨fun _ _ => Bool.eq_false_of_not_eq_true hp, rfl⟩

theorem same_authenticationDrained {op : LifecycleOperation} (h : op.Proper) {succeeds : Bool}
    (hstage : op.stage = .authenticationDraining succeeds) :
    op.Same { op with stage := .authenticationDrained succeeds } where
  deviceId := rfl
  replaced := rfl
  evicts := by simp [LifecycleOperation.evicts, hstage]
  isActive := by simp [LifecycleOperation.isActive, hstage]
  current := h.current
  done := by
    intro hkind
    have hdone := h.done hkind
    rw [hstage] at hdone
    cases succeeds <;> exact hdone

theorem Sound.sameOperations_authenticationDrained (h : Sound A options log w) (p : DeviceId → Bool) :
    SameOperations w.operations (w.operations.map (LifecycleOperation.authenticationDrained p)) := by
  refine sameOperations_map fun k op hop => ?_
  obtain ⟨succeeds, hstage, -, heq⟩ | ⟨-, heq⟩ := authenticationDrained_cases p op
  · rw [heq]
    exact same_authenticationDrained (h.proper hop) hstage
  · rw [heq]
    exact .refl (h.proper hop)

/-- No authentication of a device is pending that none is counted for. -/
theorem not_pending_of_count {authentications : Heap Authentication} {d : DeviceId}
    (h : (authentications.countP fun auth => auth.deviceId = d && auth.isPending) = 0) {a : ℕ}
    {auth : Authentication} (hauth : authentications.get? a = some auth) (hdevice : auth.deviceId = d) :
    auth.isPending = false := by
  by_contra hpending
  have hpos : 0 < authentications.countP fun auth => auth.deviceId = d && auth.isPending :=
    Heap.countP_pos.mpr ⟨a, auth, hauth, by simp [hdevice, hpending]⟩
  omega

namespace Sound

theorem authenticateDevice (h : Sound A options w.gateway.log w) (i : ℕ) :
    Sound A options (w.authenticateDevice i).gateway.log (w.authenticateDevice i) := by
  unfold ServerRuntime.authenticateDevice
  split
  case h_2 => exact h
  case h_1 ref hello hcall =>
    cases hauth : hello.auth with
    | none => exact h
    | some auth =>
      dsimp only
      split
      · exact h
      · split
        case isTrue hbusy =>
          exact { h with
            counted := fun hs => { h.counted hs with
              authentications := fun d => by
                show w.authenticationCounts.count d = (w.authentications.alloc _).countP _
                rw [(h.counted hs).authentications d, Heap.countP_alloc]
                simp [Authentication.isPending] }
            left := by
              intro k op succeeds hop hstage hs a auth' hauth' hdevice
              obtain ⟨-, rfl⟩ | hold := (Heap.get?_alloc_eq_some _ _).mp hauth'
              · rfl
              · exact h.left k op succeeds hop hstage hs a auth' hold hdevice
            verified := by
              intro a auth' v hauth' hstage hs
              obtain ⟨-, rfl⟩ | hold := (Heap.get?_alloc_eq_some _ _).mp hauth'
              · cases hstage
              · exact h.verified a auth' v hold hstage hs }
        case isFalse hidle =>
          exact { h with
            counted := fun hs => { h.counted hs with
              authentications := (h.counted hs).authentications.increment fun d => by
                rw [Heap.countP_alloc]
                simp [Authentication.isPending] }
            waiting := by
              intro k op hop
              refine ⟨(h.waiting k op hop).1, fun succeeds hstage => ?_⟩
              obtain ⟨hs, hpos⟩ := (h.waiting k op hop).2 succeeds hstage
              refine ⟨hs, ?_⟩
              show 0 < (w.authenticationCounts.increment auth.deviceId).count op.deviceId
              rw [Counters.count_increment]
              exact Nat.lt_of_lt_of_le hpos (Nat.le_add_right _ _)
            left := by
              intro k op succeeds hop hstage hs a auth' hauth' hdevice
              obtain ⟨-, rfl⟩ | hold := (Heap.get?_alloc_eq_some _ _).mp hauth'
              · -- an operation that is about to leave is still counted
                have hactive := h.idle hs (fun hm => hidle (.inr hm)) hop hdevice.symm
                simp [LifecycleOperation.isActive, hstage] at hactive
              · exact h.left k op succeeds hop hstage hs a auth' hold hdevice
            verified := by
              intro a auth' v hauth' hstage hs
              obtain ⟨-, rfl⟩ | hold := (Heap.get?_alloc_eq_some _ _).mp hauth'
              · cases hstage
              · exact h.verified a auth' v hold hstage hs }

theorem onVerified (hA : A.Contract) (h : Sound A options w.gateway.log w) (a : ℕ) :
    Sound A options (w.onVerified A a).gateway.log (w.onVerified A a) := by
  unfold ServerRuntime.onVerified
  split
  case h_2 => exact h
  case h_1 i d credential hget =>
    dsimp only
    obtain ⟨hfinds, -⟩ := verify_finds w.devices (d := d) hA h.valid credential
    generalize exec (verify A w.devices d credential) w.credentials = out at hfinds
    obtain ⟨result, s⟩ := out
    have hsame : s = w.credentials := by
      obtain ⟨e, he⟩ | ⟨v, hv, -⟩ := hfinds
      · cases he
        rfl
      · cases hv
        rfl
    subst hsame
    exact { h with
      counted := fun hs => { h.counted hs with
        authentications := fun d' => by
          show w.authenticationCounts.count d' = (w.authentications.modify a _).countP _
          rw [(h.counted hs).authentications d']
          have hcount := Heap.countP_modify hget (fun auth => { auth with stage := .verified result })
            fun auth => auth.deviceId = d' && auth.isPending
          simp only [Authentication.isPending] at hcount ⊢
          exact (Nat.add_right_cancel hcount).symm }
      left := by
        intro k op succeeds hop hstage hs b auth hb hdevice
        obtain ⟨rfl, rfl⟩ | ⟨-, hold⟩ := Heap.modify_cases hget hb
        · have hpending := h.left k op succeeds hop hstage hs b _ hget hdevice
          cases hpending
        · exact h.left k op succeeds hop hstage hs b auth hold hdevice
      verified := by
        intro b auth v hb hstage hs
        obtain ⟨-, rfl⟩ | ⟨-, hold⟩ := Heap.modify_cases hget hb
        · cases hstage
          obtain ⟨e, he⟩ | ⟨v', hv', hactive⟩ := hfinds
          · cases he
          · cases hv'
            obtain ⟨r, hr, hc⟩ := hactive _ rfl
            exact .inl ⟨r, hr, by rw [hc]⟩
        · exact h.verified b auth v hold hstage hs }

/-- An authentication that was pending settles. -/
theorem settles_with (h : Sound A options log w) {a i : ℕ} {d : DeviceId} {credential : String}
    {result : Except JsError VerifiedDeviceCredential} {settled : Except JsError AuthenticatedDeviceIdentity}
    (hget : w.authentications.get? a = some ⟨i, d, credential, .verified result⟩)
    {operations : Heap LifecycleOperation} (hsame : SameOperations w.operations operations)
    (hexcluded : Excluded w.stopping operations w.leases)
    (hwaiting : Waiting w.stopping w.sessionReadyCounts (w.authenticationCounts.decrement d) operations)
    (hdrained : ∀ k op succeeds, operations.get? k = some op → op.stage = .authenticationDrained succeeds →
      w.operations.get? k = some op ∨
        (op.deviceId = d ∧ (w.authenticationCounts.decrement d).count d = 0)) :
    Sound A options log
      { w with
        authentications := w.authentications.modify a fun auth => { auth with stage := .settled settled }
        authenticationCounts := w.authenticationCounts.decrement d
        operations } := by
  have hcounts : w.stopping = false → Counts (w.authenticationCounts.decrement d) fun d' =>
      (w.authentications.modify a fun auth => { auth with stage := .settled settled }).countP
        fun auth => auth.deviceId = d' && auth.isPending := by
    intro hs
    refine (h.counted hs).authentications.decrement fun d' => ?_
    have hcount := Heap.countP_modify hget (fun auth => { auth with stage := .settled settled })
      fun auth => auth.deviceId = d' && auth.isPending
    simpa [Authentication.isPending] using hcount
  exact { h with
    counted := fun hs => { h.counted hs with
      mutations := fun d' => by
        rw [(h.counted hs).mutations d']
        exact hsame.countP d'
      authentications := hcounts hs }
    excluded := hexcluded
    waiting := hwaiting
    left := by
      intro k op succeeds hop hstage hs b auth hb hdevice
      obtain hold | ⟨hd, hzero⟩ := hdrained k op succeeds hop hstage
      · obtain ⟨-, rfl⟩ | ⟨-, hauth⟩ := Heap.modify_cases hget hb
        · rfl
        · exact h.left k op succeeds hold hstage hs b auth hauth hdevice
      · have hnone := hcounts hs d
        rw [hzero] at hnone
        exact not_pending_of_count hnone.symm hb (hdevice.trans hd)
    entries := h.entries.same hsame
    replacements := h.replacements.same hsame
    verified := by
      intro b auth v hb hstage hs
      obtain ⟨-, rfl⟩ | ⟨-, hauth⟩ := Heap.modify_cases hget hb
      · cases hstage
      · exact h.verified.same hsame b auth v hauth hstage hs }

theorem onAuthenticated (h : Sound A options w.gateway.log w) (a : ℕ) :
    Sound A options (w.onAuthenticated a).gateway.log (w.onAuthenticated a) := by
  unfold ServerRuntime.onAuthenticated
  split
  case h_2 => exact h
  case h_1 i d credential result hget =>
    unfold ServerRuntime.endAuthentication ServerRuntime.setAuthentication
    dsimp only
    have hother : ∀ d', d' ≠ d →
        (w.authenticationCounts.decrement d).count d' = w.authenticationCounts.count d' := by
      intro d' hd
      rw [Counters.count_decrement, if_neg (Ne.symm hd), Nat.sub_zero]
    split
    case isTrue hhas =>
      refine h.settles_with hget h.sameOperations_refl h.excluded ?_ fun k op succeeds hop hstage => .inl hop
      intro k op hop
      refine ⟨(h.waiting k op hop).1, fun succeeds hstage => ?_⟩
      obtain ⟨hs, hpos⟩ := (h.waiting k op hop).2 succeeds hstage
      refine ⟨hs, ?_⟩
      by_cases hd : op.deviceId = d
      · rw [hd]
        exact Counters.count_pos_of_has_decrement hhas
      · rw [hother _ hd]
        exact hpos
    case isFalse hhas =>
      have hzero := Counters.count_of_not_has (Bool.eq_false_of_not_eq_true hhas)
      refine h.settles_with hget (h.sameOperations_authenticationDrained _) ?_ ?_ ?_
      · intro k op' hop' hexcludes n hn
        obtain ⟨op, hop, rfl⟩ := Heap.get?_map_eq_some.mp hop'
        obtain ⟨succeeds, -, -, heq⟩ | ⟨-, heq⟩ :=
          authenticationDrained_cases (fun d' => decide (d' = d)) op
        · rw [heq] at hexcludes
          exact hexcludes
        · rw [heq] at hexcludes hn
          exact h.excluded k op hop hexcludes n hn
      · intro k op' hop'
        obtain ⟨op, hop, rfl⟩ := Heap.get?_map_eq_some.mp hop'
        obtain ⟨succeeds, -, -, heq⟩ | ⟨hnot, heq⟩ :=
          authenticationDrained_cases (fun d' => decide (d' = d)) op
        · rw [heq]
          simp
        · rw [heq]
          refine ⟨(h.waiting k op hop).1, fun succeeds hstage => ?_⟩
          obtain ⟨hs, hpos⟩ := (h.waiting k op hop).2 succeeds hstage
          refine ⟨hs, ?_⟩
          rw [hother _ fun hd => by simpa [hd] using hnot succeeds hstage]
          exact hpos
      · intro k op' succeeds hop' hstage
        obtain ⟨op, hop, rfl⟩ := Heap.get?_map_eq_some.mp hop'
        obtain ⟨succeeds', -, hp, heq⟩ | ⟨-, heq⟩ :=
          authenticationDrained_cases (fun d' => decide (d' = d)) op
        · rw [heq]
          exact .inr ⟨of_decide_eq_true hp, hzero⟩
        · rw [heq]
          exact .inl hop

end Sound

/-! ## What an operation does to the records of the operations -/

variable {credentials credentials' : S} {operations : Heap LifecycleOperation}

/-- An operation that evicts is not the one that moves. -/
theorem get?_modify_of_evicts {k k' : ℕ} {op op' : LifecycleOperation} {g : CredentialGeneration}
    (hop : operations.get? k = some op) (hnone : op.evicts = none) (hop' : operations.get? k' = some op')
    (hevicts : op'.evicts = some g) (f : LifecycleOperation → LifecycleOperation) :
    (operations.modify k f).get? k' = some op' := by
  have hne : k' ≠ k := by
    rintro rfl
    rw [hop] at hop'
    cases hop'
    rw [hnone] at hevicts
    cases hevicts
  rw [Heap.get?_modify_ne _ hne, hop']

theorem Replacements.changes {d : DeviceId} {replaced : Option CredentialGeneration}
    (h : Replacements A credentials operations) (hchanges : Changes A credentials credentials' d replaced) :
    Replacements A credentials' operations :=
  { h with retired := fun k op g hop hg => hchanges.retired (h.retired k op g hop hg) }

theorem Replacements.alloc (h : Replacements A credentials operations) {op : LifecycleOperation}
    (hnone : ∀ g, ¬ op.Replaced g) (hproper : op.Proper) :
    Replacements A credentials (operations.alloc op) where
  retired := by
    intro k op' g hop' hg
    obtain ⟨-, rfl⟩ | hold := (Heap.get?_alloc_eq_some _ _).mp hop'
    · exact absurd hg (hnone g)
    · exact h.retired k op' g hold hg
  once := by
    intro k k' op₁ op₂ g hop₁ hop₂ hdevice hg₁ hg₂
    obtain ⟨-, rfl⟩ | hold₁ := (Heap.get?_alloc_eq_some _ _).mp hop₁
    · exact absurd hg₁ (hnone g)
    · obtain ⟨-, rfl⟩ | hold₂ := (Heap.get?_alloc_eq_some _ _).mp hop₂
      · exact absurd hg₂ (hnone g)
      · exact h.once k k' op₁ op₂ g hold₁ hold₂ hdevice hg₁ hg₂
  evicted := by
    intro k op' g hop' hg
    obtain ⟨-, rfl⟩ | hold := (Heap.get?_alloc_eq_some _ _).mp hop'
    · exact absurd (.inl hg) (hnone g)
    · exact h.evicted k op' g hold hg
  current := by
    intro k op' c hop' hc
    obtain ⟨-, rfl⟩ | hold := (Heap.get?_alloc_eq_some _ _).mp hop'
    · exact hproper.current c hc
    · exact h.current k op' c hold hc
  done := by
    intro k op' hop'
    obtain ⟨-, rfl⟩ | hold := (Heap.get?_alloc_eq_some _ _).mp hop'
    · exact hproper.done
    · exact h.done k op' hold

/-- An operation moves; it may have replaced a generation that no operation had replaced. -/
theorem Replacements.modify (h : Replacements A credentials operations) {k : ℕ} {op : LifecycleOperation}
    (hop : operations.get? k = some op) {f : LifecycleOperation → LifecycleOperation}
    (hdevice : (f op).deviceId = op.deviceId) (hproper : (f op).Proper)
    (hevicted : ∀ g ∈ (f op).replaced, (f op).evicts ≠ some g)
    (hreplaced : ∀ g, (f op).Replaced g → op.Replaced g ∨ (Retired A credentials op.deviceId g ∧
      ∀ k' op', operations.get? k' = some op' → op'.deviceId = op.deviceId → ¬ op'.Replaced g)) :
    Replacements A credentials (operations.modify k f) where
  retired := by
    intro j op' g hop' hg
    obtain ⟨rfl, rfl⟩ | ⟨-, hold⟩ := Heap.modify_cases hop hop'
    · rw [hdevice]
      obtain hbefore | ⟨hretired, -⟩ := hreplaced g hg
      · exact h.retired j op g hop hbefore
      · exact hretired
    · exact h.retired j op' g hold hg
  once := by
    intro j j' op₁ op₂ g hop₁ hop₂ hsame hg₁ hg₂
    obtain ⟨rfl, rfl⟩ | ⟨-, hold₁⟩ := Heap.modify_cases hop hop₁
    · obtain ⟨rfl, -⟩ | ⟨-, hold₂⟩ := Heap.modify_cases hop hop₂
      · rfl
      · rw [hdevice] at hsame
        obtain hbefore | ⟨-, hnew⟩ := hreplaced g hg₁
        · exact h.once j j' op op₂ g hop hold₂ hsame hbefore hg₂
        · exact absurd hg₂ (hnew j' op₂ hold₂ hsame.symm)
    · obtain ⟨rfl, rfl⟩ | ⟨-, hold₂⟩ := Heap.modify_cases hop hop₂
      · rw [hdevice] at hsame
        obtain hbefore | ⟨-, hnew⟩ := hreplaced g hg₂
        · exact h.once j j' op₁ op g hold₁ hop hsame hg₁ hbefore
        · exact absurd hg₁ (hnew j op₁ hold₁ hsame)
      · exact h.once j j' op₁ op₂ g hold₁ hold₂ hsame hg₁ hg₂
  evicted := by
    intro j op' g hop' hg
    obtain ⟨rfl, rfl⟩ | ⟨-, hold⟩ := Heap.modify_cases hop hop'
    · exact hevicted g hg
    · exact h.evicted j op' g hold hg
  current := by
    intro j op' c hop' hc
    obtain ⟨rfl, rfl⟩ | ⟨-, hold⟩ := Heap.modify_cases hop hop'
    · exact hproper.current c hc
    · exact h.current j op' c hold hc
  done := by
    intro j op' hop'
    obtain ⟨rfl, rfl⟩ | ⟨-, hold⟩ := Heap.modify_cases hop hop'
    · exact hproper.done
    · exact h.done j op' hold

theorem LifecycleOperation.Excludes.of_stopping {op : LifecycleOperation} (h : op.Excludes true)
    (stopping : Bool) : op.Excludes stopping := by
  obtain ⟨kind, d, current, stage, replaced⟩ := op
  cases stage with
  | drained => cases h
  | _ => exact h

/-- Nothing is done before the reading. -/
theorem LifecycleOperation.Done.of_unread {op : LifecycleOperation} (h : op.Done)
    (hunread : op.current = none) (result : Except JsError DeviceCredential) :
    ({ op with current := some result } : LifecycleOperation).Done := by
  intro hkind
  have hdone := h hkind
  have hnames : ∀ g, ¬ op.Names g := by
    rintro g ⟨c, hc, -⟩
    rw [hunread] at hc
    cases hc
  have hnone : ¬ ∃ g ∈ op.replaced, op.Names g := fun ⟨g, _, hg⟩ => hnames g hg
  obtain ⟨kind, d, current, stage, replaced⟩ := op
  cases stage with
  | evicting g => exact absurd hdone (hnames g)
  | publishing g => exact absurd hdone.1 (hnames g)
  | authenticationDraining succeeds =>
    cases succeeds with
    | false => trivial
    | true => exact absurd hdone hnone
  | authenticationDrained succeeds =>
    cases succeeds with
    | false => trivial
    | true => exact absurd hdone hnone
  | returned succeeds =>
    cases succeeds with
    | false => trivial
    | true => exact absurd hdone hnone
  | _ => trivial

/-! ## The operations -/

namespace Sound

/-- An operation gets on, without the store. -/
theorem advances (h : Sound A options log w) {k : ℕ} {op : LifecycleOperation}
    (hop : w.operations.get? k = some op) {stage : LifecycleStage} (hsame : op.Same { op with stage })
    (hexcluded : ({ op with stage } : LifecycleOperation).Excludes w.stopping →
      ∀ n, w.leases.get? n ≠ some op.deviceId)
    (hdraining : stage = .draining → w.stopping = false ∧ 0 < w.sessionReadyCounts.count op.deviceId)
    (hauthentication : ∀ succeeds, stage = .authenticationDraining succeeds →
      w.stopping = false ∧ 0 < w.authenticationCounts.count op.deviceId)
    (hleft : ∀ succeeds, stage = .authenticationDrained succeeds → w.stopping = false →
      ∀ a auth, w.authentications.get? a = some auth → auth.deviceId = op.deviceId →
        auth.isPending = false) :
    Sound A options log (w.setStage k stage) := by
  refine h.moves (h.sameOperations_modify fun op' hop' => ?_) ?_ ?_ ?_
  · rw [hop] at hop'
    cases hop'
    exact hsame
  · intro j op' hop' hexcludes n
    obtain ⟨rfl, rfl⟩ | ⟨-, hold⟩ := Heap.modify_cases hop hop'
    · exact hexcluded hexcludes n
    · exact h.excluded j op' hold hexcludes n
  · intro j op' hop'
    obtain ⟨rfl, rfl⟩ | ⟨-, hold⟩ := Heap.modify_cases hop hop'
    · exact ⟨hdraining, hauthentication⟩
    · exact h.waiting j op' hold
  · intro j op' succeeds hop' hstage
    obtain ⟨rfl, rfl⟩ | ⟨-, hold⟩ := Heap.modify_cases hop hop'
    · exact hleft succeeds hstage
    · exact h.left j op' succeeds hold hstage

theorem unwind (h : Sound A options log w) {k : ℕ} {op : LifecycleOperation}
    (hop : w.operations.get? k = some op) (hactive : op.isActive = true) (hevicts : op.evicts = none)
    (succeeds : Bool) (hdone : succeeds = true → op.kind ≠ .completion → ∃ g ∈ op.replaced, op.Names g) :
    Sound A options log (w.unwind k op.deviceId succeeds) := by
  have hproper := h.proper hop
  unfold ServerRuntime.unwind
  split
  case isTrue hidle =>
    refine h.advances hop ⟨rfl, rfl, hevicts.symm, hactive.symm, hproper.current, fun hkind => ?_⟩ False.elim
      (by simp) (by simp) fun succeeds' _ hs a auth hauth hdevice => ?_
    · cases succeeds with
      | false => trivial
      | true => exact hdone rfl hkind
    · have hzero : w.authenticationCounts.count op.deviceId = 0 := by
        obtain hstopping | hzero := hidle
        · rw [hs] at hstopping
          cases hstopping
        · exact hzero
      rw [(h.counted hs).authentications] at hzero
      exact not_pending_of_count hzero hauth hdevice
  case isFalse hbusy =>
    refine h.advances hop ⟨rfl, rfl, hevicts.symm, hactive.symm, hproper.current, fun hkind => ?_⟩ False.elim
      (by simp) (fun _ _ => ⟨by simpa using fun h => hbusy (.inl h),
        Nat.pos_of_ne_zero fun h => hbusy (.inr h)⟩) (by simp)
    cases succeeds with
    | false => trivial
    | true => exact hdone rfl hkind

theorem runCredentialLifecycleOperation (h : Sound A options w.gateway.log w) (kind : LifecycleKind)
    (d : DeviceId) : Sound A options (w.runCredentialLifecycleOperation kind d).gateway.log
      (w.runCredentialLifecycleOperation kind d) := by
  unfold ServerRuntime.runCredentialLifecycleOperation
  split
  · exact h
  · exact { h with
      counted := fun hs => { h.counted hs with
        mutations := (h.counted hs).mutations.increment fun d' => by
          rw [Heap.countP_alloc]
          simp [LifecycleOperation.isActive] }
      excluded := by
        intro k op hop hexcludes n
        obtain ⟨-, rfl⟩ | hold := (Heap.get?_alloc_eq_some _ _).mp hop
        · exact hexcludes.elim
        · exact h.excluded k op hold hexcludes n
      waiting := by
        intro k op hop
        obtain ⟨-, rfl⟩ | hold := (Heap.get?_alloc_eq_some _ _).mp hop
        · simp
        · exact h.waiting k op hold
      left := by
        intro k op succeeds hop hstage
        obtain ⟨-, rfl⟩ | hold := (Heap.get?_alloc_eq_some _ _).mp hop
        · cases hstage
        · exact h.left k op succeeds hold hstage
      entries := by
        intro d' entry hentry
        obtain ⟨g, hg, hactive | ⟨k, op, hop, hop'⟩⟩ := h.entries d' entry hentry
        · exact ⟨g, hg, .inl hactive⟩
        · exact ⟨g, hg, .inr ⟨k, op, Heap.get?_alloc_of_some hop _, hop'⟩⟩
      replacements := h.replacements.alloc (by simp [LifecycleOperation.Replaced, LifecycleOperation.evicts])
        ⟨by simp, fun _ => trivial⟩
      verified := by
        intro a auth v hauth hstage hs
        obtain hactive | ⟨k, op, hop, hop'⟩ := h.verified a auth v hauth hstage hs
        · exact .inl hactive
        · exact .inr ⟨k, op, Heap.get?_alloc_of_some hop _, hop'⟩ }

theorem enter (h : Sound A options w.gateway.log w) (k : ℕ) :
    Sound A options (w.enter k).gateway.log (w.enter k) := by
  unfold ServerRuntime.enter
  split
  case h_2 => exact h
  case h_1 kind d current replaced hop =>
    have hproper := h.proper hop
    split
    case isTrue hidle =>
      refine h.advances hop ⟨rfl, rfl, rfl, rfl, hproper.current, fun _ => trivial⟩ ?_ (by simp) (by simp)
        (by simp)
      intro hs
      have hzero : w.sessionReadyCounts.count d = 0 := by
        obtain hstopping | hzero := hidle
        · rw [show w.stopping = false from hs] at hstopping
          cases hstopping
        · exact hzero
      rw [(h.counted hs).ready] at hzero
      exact no_lease_of_count hzero
    case isFalse hbusy =>
      exact h.advances hop ⟨rfl, rfl, rfl, rfl, hproper.current, fun _ => trivial⟩ False.elim
        (fun _ => ⟨by simpa using fun h => hbusy (.inl h), Nat.pos_of_ne_zero fun h => hbusy (.inr h)⟩)
        (by simp) (by simp)

theorem run (h : Sound A options w.gateway.log w) (k : ℕ) : Sound A options (w.run k).gateway.log (w.run k) := by
  unfold ServerRuntime.run
  split
  case h_2 => exact h
  case h_1 kind d current replaced hop =>
    split
    · exact h.unwind hop rfl rfl false (by simp)
    case isFalse hs =>
      exact h.advances hop ⟨rfl, rfl, rfl, rfl, (h.proper hop).current, fun _ => trivial⟩
        (fun _ => h.excluded k _ hop (Bool.eq_false_of_not_eq_true hs)) (by simp) (by simp) (by simp)

theorem finish (h : Sound A options w.gateway.log w) (k : ℕ) (succeeds : Bool) :
    Sound A options (w.finish k succeeds).gateway.log (w.finish k succeeds) := by
  unfold ServerRuntime.finish
  split
  case h_2 => exact h
  case h_1 d current replaced hop => exact h.unwind hop rfl rfl succeeds fun _ hkind => absurd rfl hkind

theorem published (h : Sound A options w.gateway.log w) (k : ℕ) :
    Sound A options (w.published k).gateway.log (w.published k) := by
  unfold ServerRuntime.published
  split
  case h_3 => exact h
  case h_1 d current generation replaced hop =>
    exact h.advances hop ⟨rfl, rfl, rfl, rfl, (h.proper hop).current, fun hkind => absurd rfl hkind⟩
      (fun _ => h.excluded k _ hop trivial) (by simp) (by simp) (by simp)
  case h_2 kind d current generation replaced hnot hop =>
    refine h.unwind hop rfl rfl true fun _ hkind => ?_
    obtain ⟨hnames, hmem⟩ := (h.proper hop).done hkind
    exact ⟨generation, hmem, hnames⟩

theorem readCurrent (hA : A.Contract) (h : Sound A options w.gateway.log w) (k : ℕ) :
    Sound A options (w.readCurrent A k).gateway.log (w.readCurrent A k) := by
  unfold ServerRuntime.readCurrent
  split
  case h_1 => exact h
  case h_3 => exact h
  case h_2 kind d stage replaced hnot hop =>
    dsimp only
    have hfinds := getActive_finds w.devices (d := d) hA h.valid
    generalize exec (getActive A w.devices d) w.credentials = out at hfinds
    have hsound : ∀ result : Except JsError DeviceCredential, (∀ c, result = .ok c → c.deviceId = d) →
        Sound A options w.gateway.log (w.setOperation k fun op => { op with current := some result }) := by
      intro result hresult
      refine h.moves (h.sameOperations_modify fun op' hop' => ?_) ?_ ?_ ?_
      · rw [hop] at hop'
        cases hop'
        refine ⟨rfl, rfl, rfl, rfl, fun c hc => hresult c (Option.some.inj hc),
          (h.proper hop).done.of_unread rfl _⟩
      · intro j op' hop' hexcludes n
        obtain ⟨rfl, rfl⟩ | ⟨-, hold⟩ := Heap.modify_cases hop hop'
        · exact h.excluded j _ hop hexcludes n
        · exact h.excluded j op' hold hexcludes n
      · intro j op' hop'
        obtain ⟨rfl, rfl⟩ | ⟨-, hold⟩ := Heap.modify_cases hop hop'
        · have hwaiting := h.waiting j _ hop
          exact hwaiting
        · exact h.waiting j op' hold
      · intro j op' succeeds hop' hstage
        obtain ⟨rfl, rfl⟩ | ⟨-, hold⟩ := Heap.modify_cases hop hop'
        · have hleft := h.left j _ succeeds hop
          exact hleft hstage
        · exact h.left j op' succeeds hold hstage
    obtain ⟨e, rfl⟩ | ⟨c, rfl, hactive⟩ := hfinds
    · exact hsound (.error e) (by simp)
    · refine hsound (.ok c) fun c' hc' => ?_
      cases hc'
      obtain ⟨r, hr, rfl⟩ := hactive c rfl
      exact (h.valid d r (Adapter.active_eq_some.mp hr).1).1

/-- The store changes, and no generation is replaced. -/
theorem changes (h : Sound A options log w) {d : DeviceId} {credentials : S} {devices : Devices}
    (hchanges : Changes A w.credentials credentials d none) :
    Sound A options log { w with credentials, devices } := by
  have hactive : ∀ d' g, IsActive A w.credentials d' g → IsActive A credentials d' g := by
    intro d' g hg
    obtain hkept | ⟨-, hnone⟩ := hchanges.isActive hg
    · exact hkept
    · cases hnone
  exact { h with
    valid := hchanges.valid
    recorded := fun n d' hn => ⟨fun g hg => hactive d' g ((h.recorded n d' hn).1 g hg),
      fun v hv hd => hactive d' _ ((h.recorded n d' hn).2 v hv hd)⟩
    entries := by
      intro d' entry hentry
      obtain ⟨g, hg, hold | hevicts⟩ := h.entries d' entry hentry
      · exact ⟨g, hg, .inl (hactive d' g hold)⟩
      · exact ⟨g, hg, .inr hevicts⟩
    replacements := h.replacements.changes hchanges
    verified := by
      intro a auth v hauth hstage hs
      obtain hold | hbusy := h.verified a auth v hauth hstage hs
      · exact .inl (hactive _ _ hold)
      · exact .inr hbusy }

theorem createDevice (hA : A.Contract) (h : Sound A options w.gateway.log w) (device : Schemas.Device) :
    Sound A options (w.createDevice A device).gateway.log (w.createDevice A device) :=
  h.changes (deviceCreated_changes hA h.valid device device.deviceId)

theorem issueCredential (hA : A.Contract) (h : Sound A options w.gateway.log w) (k : ℕ) (draw : Draw)
    (now : JsDate) :
    Sound A options (w.issueCredential A k draw now).gateway.log (w.issueCredential A k draw now) := by
  unfold ServerRuntime.issueCredential
  split
  · exact h.changes (issue_changes hA h.valid draw now)
  · exact h

/-- The store replaces a generation: no guard of the device is held. -/
theorem evicting (h : Sound A options log w) {k : ℕ} {op : LifecycleOperation}
    (hop : w.operations.get? k = some op) (hrunning : op.stage = .running) {g : CredentialGeneration}
    {credentials : S} (hchanges : Changes A w.credentials credentials op.deviceId (some g))
    (hnames : op.kind ≠ .completion → op.Names g) :
    Sound A options log ({ w with credentials }.setStage k (.evicting g)) := by
  have hevicts : op.evicts = none := by simp [LifecycleOperation.evicts, hrunning]
  have hfree := h.excluded k op hop (by simp [LifecycleOperation.Excludes, hrunning])
  have hactive : ∀ d' g', IsActive A w.credentials d' g' → IsActive A credentials d' g' ∨
      (d' = op.deviceId ∧ g' = g) := by
    intro d' g' hg'
    obtain hkept | ⟨rfl, hsome⟩ := hchanges.isActive hg'
    · exact .inl hkept
    · cases hsome
      exact .inr ⟨rfl, (hchanges.replaces g rfl).1.unique hg' |>.symm⟩
  have hself : (w.operations.modify k fun op => { op with stage := .evicting g }).get? k =
      some { op with stage := .evicting g } := by
    rw [Heap.get?_modify_self, hop]
    rfl
  exact { h with
    valid := hchanges.valid
    recorded := by
      intro n d' hn
      have hother : d' ≠ op.deviceId := by
        rintro rfl
        exact hfree n hn
      refine ⟨fun g' hg' => ?_, fun v hv hd => ?_⟩
      · obtain hkept | ⟨hd, -⟩ := hactive d' g' ((h.recorded n d' hn).1 g' hg')
        · exact hkept
        · exact absurd hd hother
      · obtain hkept | ⟨hd', -⟩ := hactive d' _ ((h.recorded n d' hn).2 v hv hd)
        · exact hkept
        · exact absurd hd' hother
    counted := fun hs => { h.counted hs with
      mutations := fun d' => by
        show w.credentialMutationCounts.count d' = (w.operations.modify k _).countP _
        rw [(h.counted hs).mutations d']
        have hcount := Heap.countP_modify hop (fun op => { op with stage := .evicting g })
          fun op => op.deviceId = d' && op.isActive
        simp only [LifecycleOperation.isActive, hrunning] at hcount ⊢
        exact (Nat.add_right_cancel hcount).symm }
    excluded := by
      intro j op' hop' hexcludes n
      obtain ⟨rfl, rfl⟩ | ⟨-, hold⟩ := Heap.modify_cases hop hop'
      · exact hfree n
      · exact h.excluded j op' hold hexcludes n
    waiting := by
      intro j op' hop'
      obtain ⟨rfl, rfl⟩ | ⟨-, hold⟩ := Heap.modify_cases hop hop'
      · simp
      · exact h.waiting j op' hold
    left := by
      intro j op' succeeds hop' hstage
      obtain ⟨rfl, rfl⟩ | ⟨-, hold⟩ := Heap.modify_cases hop hop'
      · cases hstage
      · exact h.left j op' succeeds hold hstage
    entries := by
      intro d' entry hentry
      obtain ⟨g', hg', hold | ⟨k', op', hop', hdevice, hevicts'⟩⟩ := h.entries d' entry hentry
      · obtain hkept | ⟨rfl, rfl⟩ := hactive d' g' hold
        · exact ⟨g', hg', .inl hkept⟩
        · exact ⟨g', hg', .inr ⟨k, _, hself, rfl, rfl⟩⟩
      · exact ⟨g', hg', .inr ⟨k', op', get?_modify_of_evicts hop hevicts hop' hevicts' _, hdevice,
          hevicts'⟩⟩
    replacements := by
      have hretired := (hchanges.replaces g rfl).2
      have hnew : ∀ k' op', w.operations.get? k' = some op' → op'.deviceId = op.deviceId →
          ¬ op'.Replaced g := by
        intro k' op' hop' hdevice hg
        have hgone := h.replacements.retired k' op' g hop' hg
        rw [hdevice] at hgone
        exact hgone.not_active (hchanges.replaces g rfl).1
      refine (h.replacements.changes hchanges).modify hop rfl
        ⟨(h.proper hop).current, fun hkind => hnames hkind⟩ ?_ ?_
      · intro g' hg' heq
        cases heq
        exact hnew k op hop rfl (.inl hg')
      · rintro g' (hg' | heq)
        · exact .inl (.inl hg')
        · cases heq
          exact .inr ⟨hretired, hnew⟩
    verified := by
      intro a auth v hauth hstage hs
      obtain hold | ⟨k', op', hop', hdevice, hbusy⟩ := h.verified a auth v hauth hstage hs
      · obtain hkept | ⟨hd, -⟩ := hactive _ _ hold
        · exact .inl hkept
        · exact .inr ⟨k, _, hself, hd.symm, rfl⟩
      · by_cases hk : k' = k
        · subst hk
          rw [hop] at hop'
          cases hop'
          exact .inr ⟨k', _, hself, hdevice, rfl⟩
        · exact .inr ⟨k', op', by rw [← hop']; exact Heap.get?_modify_ne _ hk _, hdevice, hbusy⟩ }

theorem replace (hA : A.Contract) (h : Sound A options w.gateway.log w) (k : ℕ) (draw : Draw) (now : JsDate) :
    Sound A options (w.replace A k draw now).gateway.log (w.replace A k draw now) := by
  unfold ServerRuntime.replace
  split
  case h_3 => exact h
  case h_1 d current replaced hop =>
    cases current with
    | error e => exact h.unwind hop rfl rfl false (by simp)
    | ok current =>
      have hdevice : current.deviceId = d := (h.proper hop).current current rfl
      have hreplaces := revoke_replaces hA h.valid now current
      rw [hdevice] at hreplaces
      dsimp only
      generalize exec (revoke A now current) w.credentials = out at hreplaces
      obtain ⟨e, rfl⟩ | ⟨c, s', rfl, hchanges⟩ := hreplaces
      · exact h.unwind hop rfl rfl false (by simp)
      · exact h.evicting hop rfl hchanges fun _ => ⟨current, rfl, rfl⟩
  case h_2 d current replaced hop =>
    cases current with
    | error e => exact h.unwind hop rfl rfl false (by simp)
    | ok current =>
      have hdevice : current.deviceId = d := (h.proper hop).current current rfl
      subst hdevice
      have hreplaces := rotate_replaces w.devices (d := current.deviceId) hA h.valid draw.secret now
        (generationFromCredential current) draw.credentialId.value
      dsimp only
      generalize exec (rotateExpectedWithCredentialId A w.devices draw.secret now current.deviceId
        (generationFromCredential current) draw.credentialId.value) w.credentials = out at hreplaces
      obtain ⟨e, rfl⟩ | ⟨c, s', rfl, hchanges⟩ := hreplaces
      · exact h.unwind hop rfl rfl false (by simp)
      · exact h.evicting hop rfl hchanges fun _ => ⟨current, rfl, rfl⟩

theorem recoverCredential (hA : A.Contract) (h : Sound A options w.gateway.log w) (k : ℕ)
    (expected : CredentialGeneration) (credentialId secret : String) (now : JsDate) :
    Sound A options (w.recoverCredential A k expected credentialId secret now).gateway.log
      (w.recoverCredential A k expected credentialId secret now) := by
  unfold ServerRuntime.recoverCredential
  split
  case h_2 => exact h
  case h_1 d current replaced hop =>
    have hreplaces := rotate_replaces w.devices (d := d) hA h.valid secret now expected
      credentialId
    generalize exec (rotateExpectedWithCredentialId A w.devices secret now d expected credentialId)
      w.credentials = out at hreplaces
    obtain ⟨e, rfl⟩ | ⟨c, s', rfl, hchanges⟩ := hreplaces
    · exact h
    · exact h.evicting hop rfl hchanges fun hkind => absurd rfl hkind

theorem evicts (h : Sound A options log w) {k : ℕ} {op : LifecycleOperation}
    (hop : w.operations.get? k = some op) {g : CredentialGeneration} (hstage : op.stage = .evicting g)
    {registry : DeviceSessionRegistry} (hshrinks : Shrinks w.registry registry)
    (hgone : ∀ entry, registry.byDeviceId.get? op.deviceId = some entry → ¬ Has entry g) :
    Sound A options log
      { w with
        registry
        operations := w.operations.modify k fun op =>
          { op with stage := .publishing g, replaced := op.replaced ++ [g] } } := by
  have hevicts : op.evicts = some g := by simp [LifecycleOperation.evicts, hstage]
  have hself : (w.operations.modify k fun op =>
      { op with stage := .publishing g, replaced := op.replaced ++ [g] }).get? k =
        some { op with stage := .publishing g, replaced := op.replaced ++ [g] } := by
    rw [Heap.get?_modify_self, hop]
    rfl
  exact { h with
    consistent := hshrinks.consistent
    counted := fun hs => { h.counted hs with
      mutations := fun d' => by
        show w.credentialMutationCounts.count d' = (w.operations.modify k _).countP _
        rw [(h.counted hs).mutations d']
        have hcount := Heap.countP_modify hop (fun op =>
          { op with stage := .publishing g, replaced := op.replaced ++ [g] })
          fun op => op.deviceId = d' && op.isActive
        simp only [LifecycleOperation.isActive, hstage] at hcount ⊢
        exact (Nat.add_right_cancel hcount).symm }
    excluded := by
      intro j op' hop' hexcludes n
      obtain ⟨rfl, rfl⟩ | ⟨-, hold⟩ := Heap.modify_cases hop hop'
      · exact h.excluded j op hop (by simp [LifecycleOperation.Excludes, hstage]) n
      · exact h.excluded j op' hold hexcludes n
    waiting := by
      intro j op' hop'
      obtain ⟨rfl, rfl⟩ | ⟨-, hold⟩ := Heap.modify_cases hop hop'
      · simp
      · exact h.waiting j op' hold
    left := by
      intro j op' succeeds hop' hstage'
      obtain ⟨rfl, rfl⟩ | ⟨-, hold⟩ := Heap.modify_cases hop hop'
      · cases hstage'
      · exact h.left j op' succeeds hold hstage'
    entries := by
      intro d entry hentry
      obtain ⟨entry', hentry', hsame⟩ := hshrinks.entries d entry hentry
      obtain ⟨g', hg', hactive⟩ := h.entries d entry' hentry'
      have hhas : Has entry g' := by
        unfold Has at hg' ⊢
        rwa [hsame] at hg'
      refine ⟨g', hhas, ?_⟩
      obtain hactive | ⟨k', op', hop', rfl, hevicts'⟩ := hactive
      · exact .inl hactive
      · by_cases hk : k' = k
        · subst hk
          rw [hop] at hop'
          cases hop'
          rw [hevicts] at hevicts'
          cases hevicts'
          exact absurd hhas (hgone entry hentry)
        · refine .inr ⟨k', op', ?_, rfl, hevicts'⟩
          rw [← hop']
          exact Heap.get?_modify_ne _ hk _
    replacements := by
      refine h.replacements.modify hop rfl ⟨(h.proper hop).current, fun hkind => ?_⟩ ?_ ?_
      · have hdone := (h.proper hop).done hkind
        rw [hstage] at hdone
        exact ⟨hdone, by simp⟩
      · simp [LifecycleOperation.evicts]
      · rintro g' (hmem | heq)
        · rcases List.mem_append.mp hmem with hmem | hmem
          · exact .inl (.inl hmem)
          · cases List.mem_singleton.mp hmem
            exact .inl (.inr hevicts)
        · cases heq
    verified := by
      intro a auth v hauth hverified hs
      obtain hactive | ⟨k', op', hop', hdevice, hbusy⟩ := h.verified a auth v hauth hverified hs
      · exact .inl hactive
      · refine .inr ?_
        by_cases hk : k' = k
        · subst hk
          rw [hop] at hop'
          cases hop'
          exact ⟨k', _, hself, hdevice, rfl⟩
        · exact ⟨k', op', by rw [← hop']; exact Heap.get?_modify_ne _ hk _, hdevice, hbusy⟩ }

theorem evict (h : Sound A options w.gateway.log w) (k : ℕ) (r : Readings) :
    Sound A options (w.evict options k r).gateway.log (w.evict options k r) := by
  unfold ServerRuntime.evict
  split
  case h_2 => exact h
  case h_1 kind d current generation replaced hop =>
    unfold ServerRuntime.evictCredentialGeneration
    split
    case h_1 e hclone =>
      -- no entry has a generation that `cloneGeneration` throws at
      refine h.evicts hop rfl (.refl h.consistent) fun entry _ hhas => ?_
      rw [cloneGeneration_of_has hhas] at hclone
      cases hclone
    case h_2 cloned hclone =>
      dsimp only
      have hgone : ∀ entry, (exec (evictGeneration d cloned) w.registry).2.byDeviceId.get? d = some entry →
          ¬ Has entry generation := by
        intro entry hentry hhas
        rw [cloneGeneration_of_has hhas] at hclone
        cases hclone
        exact evictGeneration_gone hentry rfl
      have hevicted := h.evicts hop rfl (shrinks_evictGeneration h.consistent d cloned) hgone
      split
      · exact hevicted
      · exact hevicted.closeSession _ r

theorem leave (h : Sound A options w.gateway.log w) (k : ℕ) :
    Sound A options (w.leave k).gateway.log (w.leave k) := by
  unfold ServerRuntime.leave
  split
  case h_2 => exact h
  case h_1 kind d current succeeds replaced hop =>
    have hmoved : ∀ {k' : ℕ} {op' : LifecycleOperation}, w.operations.get? k' = some op' → k' ≠ k →
        (w.operations.modify k fun op => { op with stage := .returned succeeds }).get? k' = some op' := by
      intro k' op' hop' hk
      rw [Heap.get?_modify_ne _ hk, hop']
    exact { h with
      counted := fun hs => { h.counted hs with
        mutations := (h.counted hs).mutations.decrement fun d' => by
          have hcount := Heap.countP_modify hop (fun op => { op with stage := .returned succeeds })
            fun op => op.deviceId = d' && op.isActive
          show (w.operations.modify k _).countP _ + _ = _
          simpa [LifecycleOperation.isActive] using hcount }
      excluded := by
        intro j op' hop' hexcludes n
        obtain ⟨rfl, rfl⟩ | ⟨-, hold⟩ := Heap.modify_cases hop hop'
        · exact hexcludes.elim
        · exact h.excluded j op' hold hexcludes n
      waiting := by
        intro j op' hop'
        obtain ⟨rfl, rfl⟩ | ⟨-, hold⟩ := Heap.modify_cases hop hop'
        · simp
        · exact h.waiting j op' hold
      left := by
        intro j op' succeeds' hop' hstage
        obtain ⟨rfl, rfl⟩ | ⟨-, hold⟩ := Heap.modify_cases hop hop'
        · cases hstage
        · exact h.left j op' succeeds' hold hstage
      entries := by
        intro d' entry hentry
        obtain ⟨g, hg, hactive | ⟨k', op', hop', hdevice, hevicts⟩⟩ := h.entries d' entry hentry
        · exact ⟨g, hg, .inl hactive⟩
        · exact ⟨g, hg, .inr ⟨k', op', get?_modify_of_evicts hop rfl hop' hevicts _, hdevice, hevicts⟩⟩
      replacements := by
        refine h.replacements.modify hop rfl ⟨(h.proper hop).current, fun hkind => ?_⟩
          (by simp [LifecycleOperation.evicts]) fun g hg => .inl hg
        have hdone := (h.proper hop).done hkind
        cases succeeds <;> exact hdone
      verified := by
        intro a auth v hauth hstage hs
        obtain hactive | ⟨k', op', hop', hdevice, hbusy⟩ := h.verified a auth v hauth hstage hs
        · exact .inl hactive
        · by_cases hk : k' = k
          · -- no authentication is pending that began before the operation
            subst hk
            rw [hop] at hop'
            cases hop'
            have hpending := h.left k' _ succeeds hop rfl hs a auth hauth hdevice.symm
            simp [Authentication.isPending, hstage] at hpending
          · exact .inr ⟨k', op', hmoved hop' hk, hdevice, hbusy⟩ }

/-! ## The end, and every step -/

theorem stop (h : Sound A options w.gateway.log w) : Sound A options w.stop.gateway.log w.stop := by
  unfold ServerRuntime.stop
  split
  · exact h
  · have hsame : SameOperations w.operations
        ((w.operations.map (LifecycleOperation.authenticationDrained fun _ => true)).map
          (LifecycleOperation.drained fun _ => true)) :=
      (h.sameOperations_authenticationDrained _).trans
        (sameOperations_drained (h.sameOperations_authenticationDrained _).proper _)
    have hstages : ∀ k op, ((w.operations.map (LifecycleOperation.authenticationDrained fun _ => true)).map
        (LifecycleOperation.drained fun _ => true)).get? k = some op →
          op.stage ≠ .draining ∧ ∀ succeeds, op.stage ≠ .authenticationDraining succeeds := by
      intro k op hop
      obtain ⟨op', hop', rfl⟩ := Heap.get?_map_eq_some.mp hop
      obtain ⟨op'', -, rfl⟩ := Heap.get?_map_eq_some.mp hop'
      obtain ⟨hdraining, -, heq⟩ | ⟨hnot, heq⟩ := drained_cases (fun _ => true)
        (LifecycleOperation.authenticationDrained (fun _ => true) op'')
      · rw [heq]
        simp
      · rw [heq]
        refine ⟨fun hstage => hnot ⟨hstage, rfl⟩, ?_⟩
        obtain ⟨succeeds, -, -, heq'⟩ | ⟨hnot', heq'⟩ := authenticationDrained_cases (fun _ => true) op''
        · rw [heq']
          simp
        · rw [heq']
          intro succeeds hstage
          cases hnot' succeeds hstage
    exact { h with
      counted := by simp
      excluded := by
        intro k op hop hexcludes n
        obtain ⟨op', hop', rfl⟩ := Heap.get?_map_eq_some.mp hop
        obtain ⟨op'', hop'', rfl⟩ := Heap.get?_map_eq_some.mp hop'
        obtain ⟨-, -, heq⟩ | ⟨-, heq⟩ := drained_cases (fun _ => true)
          (LifecycleOperation.authenticationDrained (fun _ => true) op'')
        · rw [heq] at hexcludes
          cases hexcludes
        · rw [heq] at hexcludes ⊢
          obtain ⟨succeeds, -, -, heq'⟩ | ⟨-, heq'⟩ := authenticationDrained_cases (fun _ => true) op''
          · rw [heq'] at hexcludes
            exact hexcludes.elim
          · rw [heq'] at hexcludes ⊢
            exact h.excluded k op'' hop'' (hexcludes.of_stopping _) n
      waiting := fun k op hop => ⟨fun hstage => absurd hstage (hstages k op hop).1,
        fun succeeds hstage => absurd hstage ((hstages k op hop).2 succeeds)⟩
      left := by simp [Left]
      entries := h.entries.same hsame
      replacements := h.replacements.same hsame
      verified := by simp [Verified] }

theorem clear (h : Sound A options w.gateway.log w) : Sound A options w.clear.gateway.log w.clear := by
  unfold ServerRuntime.clear
  split
  case isFalse => exact h
  case isTrue hstopping =>
    exact { h with
      consistent := consistent_new
      counted := by
        intro hs
        rw [show w.stopping = false from hs] at hstopping
        cases hstopping
      waiting := by
        intro k op hop
        refine ⟨fun hstage => ?_, fun succeeds hstage => ?_⟩
        · rw [((h.waiting k op hop).1 hstage).1] at hstopping
          cases hstopping
        · rw [((h.waiting k op hop).2 succeeds hstage).1] at hstopping
          cases hstopping
      entries := by
        intro d entry hentry
        cases hentry }

/-- Every step keeps what holds between the parts of the runtime. -/
theorem step (hA : A.Contract) (h : Sound A options w.gateway.log w) (event : Event) :
    Sound A options (w.step A options event).gateway.log (w.step A options event) := by
  cases event with
  | gateway event r => exact h.onGateway event r
  | authenticateDevice i => exact h.authenticateDevice i
  | verified a => exact h.onVerified hA a
  | authenticated a => exact h.onAuthenticated a
  | identity a r => exact h.onIdentity a r
  | validation i => exact h.onValidation hA i
  | validated i r => exact h.onValidated i r
  | session i source r => exact h.onSession i source r
  | bound i returns r => exact h.onBound i returns r
  | heartbeat ref => exact h.onHeartbeat ref
  | heartbeatActive ref => exact h.onHeartbeatActive hA ref
  | heartbeatAnswered ref now => exact h.onHeartbeatAnswered ref now
  | heartbeatSettled ref r => exact h.onHeartbeatSettled ref r
  | operation kind d => exact h.runCredentialLifecycleOperation kind d
  | readCurrent k => exact h.readCurrent hA k
  | enter k => exact h.enter k
  | run k => exact h.run k
  | replace k draw now => exact h.replace hA k draw now
  | issueCredential k draw now => exact h.issueCredential hA k draw now
  | recoverCredential k expected credentialId secret now =>
    exact h.recoverCredential hA k expected credentialId secret now
  | finish k succeeds => exact h.finish k succeeds
  | evict k r => exact h.evict k r
  | published k => exact h.published k
  | leave k => exact h.leave k
  | invalidation d generation r => exact h.onInvalidation d generation r
  | createDevice device => exact h.createDevice hA device
  | stop => exact h.stop
  | clear => exact h.clear

end Sound

end
end Doctmcp.Runtime

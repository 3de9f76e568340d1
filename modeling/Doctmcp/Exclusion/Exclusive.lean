import Doctmcp.Exclusion.Chain

/-! # The invariant of the chains

Every run of a coordinator keeps the chain of each key in order (`Woven`) and the tail map in step
with it (`Mapped`): the map has the tail of the last call of a key, as long as that call has not
finished. A call, a job and the end of an operation each keep both. -/

namespace Doctmcp.Exclusion
open Doctmcp.Lib Doctmcp.Lib.Jobs
set_option autoImplicit false

variable {K : Type}

/-! ## The invariant -/

/-- The promises of the calls and the reactions that are on the way. -/
structure Woven (calls : List (Call K)) (jobs : Jobs (Label K) (Reaction K)) : Prop where
  fabric : Fabric calls jobs
  passes : Passes jobs
  made : ∀ (i : ℕ) (c : Call K), calls[i]? = some c →
    jobs.Labelled c.current (.current ⟨i, c.key⟩) ∧ jobs.Labelled c.tail (.tail ⟨i, c.key⟩)
  resolved : ∀ p, jobs.Labelled p .resolved → jobs.Settled p
  released : ∀ (i : ℕ) (c : Call K), calls[i]? = some c →
    (jobs.Settled c.current ↔ c.phase.isFinished)
  links : ∀ (i : ℕ) (c : Call K), calls[i]? = some c →
    jobs.Settled c.tail ∨ 0 < total (isLink i) jobs
  resumes : ∀ i : ℕ,
    total (isResume i) jobs = if calls[i]?.map (·.phase) = some .waiting then 1 else 0

/-- The tail map and the phases of the calls. -/
structure Mapped [DecidableEq K] (tails : OrderedMap K ℕ) (calls : List (Call K)) : Prop where
  empty : ∀ key, tails.get? key = none → ∀ (i : ℕ) (c : Call K), calls[i]? = some c →
    c.key = key → c.phase.isFinished
  last : ∀ key tail, tails.get? key = some tail → ∃ (i : ℕ) (c : Call K), calls[i]? = some c ∧
    c.key = key ∧ c.tail = tail ∧ ¬ c.phase.isFinished ∧
    ∀ (j : ℕ) (d : Call K), calls[j]? = some d → d.key = key → j ≤ i
  started : ∀ (i : ℕ) (c : Call K), calls[i]? = some c → c.phase ≠ .waiting →
    ∀ e, Ticket.before ⟨i, c.key⟩ e → Happened calls e

/-- An operation starts after all earlier ones of its key have ended. -/
theorem Mapped.order [DecidableEq K] {tails : OrderedMap K ℕ} {calls : List (Call K)}
    (h : Mapped tails calls) {i j : ℕ} {c d : Call K} (hc : calls[i]? = some c)
    (hd : calls[j]? = some d) (hkey : c.key = d.key) (hlt : i < j) (hstarted : d.phase ≠ .waiting) :
    c.phase.isFinished := by
  obtain ⟨c', hc', hfinished⟩ := h.started j d hd hstarted (i, c.key) ⟨hlt, hkey⟩
  obtain rfl := Option.some.inj (hc.symm.trans hc')
  exact hfinished rfl

/-- Two operations of a key do not overlap. -/
theorem Mapped.apart [DecidableEq K] {tails : OrderedMap K ℕ} {calls : List (Call K)}
    (h : Mapped tails calls) {i j : ℕ} {c d : Call K} (hc : calls[i]? = some c)
    (hd : calls[j]? = some d) (hkey : c.key = d.key) (hrunning : c.phase = .running)
    (hrunning' : d.phase = .running) : i = j := by
  rcases Nat.lt_trichotomy i j with hlt | heq | hgt
  · have hfinished := h.order hc hd hkey hlt (by rw [hrunning']; nofun)
    rw [hrunning] at hfinished
    exact hfinished.elim
  · exact heq
  · have hfinished := h.order hd hc hkey.symm hgt (by rw [hrunning]; nofun)
    rw [hrunning'] at hfinished
    exact hfinished.elim

theorem woven_initial : Woven ([] : List (Call K)) Jobs.empty where
  fabric := .empty
  passes p t h := by
    obtain ⟨promise, hget, -⟩ := h
    cases hget
  made := nofun
  resolved p h := by
    obtain ⟨promise, hget, -⟩ := h
    cases hget
  released := nofun
  links := nofun
  resumes i := by simp [total, Jobs.empty, Heap.empty]

theorem mapped_initial [DecidableEq K] : Mapped (.empty : OrderedMap K ℕ) ([] : List (Call K)) where
  empty := nofun
  last := nofun
  started := nofun

/-! ## A call -/

theorem settled_lt {jobs : Jobs (Label K) (Reaction K)} {p : ℕ} (h : jobs.Settled p) :
    p < jobs.promises.next := by
  obtain ⟨promise, hget, -⟩ := h
  exact Heap.exists_get?_iff.1 ⟨promise, hget⟩

theorem happened_append {calls : List (Call K)} {i : ℕ} {c d : Call K} (hc : calls[i]? = some c)
    {key : K} (h : c.key = key → c.phase.isFinished) : Happened (calls ++ [d]) (i, key) :=
  (extends_append calls d).happened ⟨c, hc, h⟩

theorem getElem?_concat_eq_some {calls : List (Call K)} {c d : Call K} {i : ℕ}
    (h : (calls ++ [d])[i]? = some c) : calls[i]? = some c ∨ (i = calls.length ∧ c = d) := by
  rcases Nat.lt_trichotomy i calls.length with hlt | rfl | hgt
  · exact .inl (List.getElem?_append_left hlt ▸ h)
  · exact .inr ⟨rfl, Option.some.inj (h.symm.trans List.getElem?_concat_length)⟩
  · have hlong : (calls ++ [d]).length ≤ i := by
      rw [List.length_append, List.length_singleton]
      exact hgt
    rw [List.getElem?_eq_none hlong] at h
    cases h

section Call
variable [DecidableEq K] {coordinator : Coordinator} {w : World K} {key : K}

/-- The promise that a call waits for, among the promises before its own. -/
structure Prior (calls : List (Call K)) (t : Ticket K) (jobs : Jobs (Label K) (Reaction K))
    (out : ℕ × Jobs (Label K) (Reaction K)) : Prop where
  fabric : Fabric calls out.2
  passes : Passes out.2
  ready : Ready calls t out.2 out.1
  grows : Grows jobs out.2
  resolved : ∀ p, out.2.Labelled p .resolved → out.2.Settled p
  total : ∀ w : Reaction K → ℕ, Jobs.total w out.2 = Jobs.total w jobs

theorem previous_prior (hwoven : Woven w.calls w.jobs) (hmapped : Mapped w.tails w.calls)
    (d : Call K) : Prior (w.calls ++ [d]) ⟨w.calls.length, key⟩ w.jobs (w.previous key) := by
  have hfabric := hwoven.fabric.extends (extends_append w.calls d)
  unfold World.previous
  cases htail : w.tails.get? key with
  | none =>
    refine ⟨hfabric.create trivial fun _ _ => False.elim, hwoven.passes.create true nofun, ?_,
      grows_create _ _ _, ?_, fun _ => total_create true⟩
    · refine ⟨.resolved, labelled_create.2 (.inl ⟨rfl, rfl⟩), fun _ => False.elim, ?_⟩
      rintro ⟨i, key'⟩ ⟨hi, rfl⟩
      obtain ⟨c, hc⟩ : ∃ c, w.calls[i]? = some c := ⟨_, List.getElem?_eq_some_iff.2 ⟨hi, rfl⟩⟩
      exact .inr (happened_append hc (hmapped.empty _ htail i c hc))
    · intro p hp
      rcases labelled_create.1 hp with ⟨rfl, -⟩ | hp
      · exact settled_create.2 (.inl ⟨rfl, rfl⟩)
      · exact settled_create.2 (.inr (hwoven.resolved p hp))
  | some tail =>
    obtain ⟨i, c, hc, hkey, htail, -, hlast⟩ := hmapped.last key tail htail
    have hi : i < w.calls.length := (List.getElem?_eq_some_iff.1 hc).1
    refine ⟨hfabric, hwoven.passes, ?_, .refl _, hwoven.resolved, fun _ => rfl⟩
    refine ⟨.tail ⟨i, key⟩, ?_, ?_, ?_⟩
    · rw [← htail, ← hkey]
      exact (hwoven.made i c hc).2
    · rintro e ⟨hle, he⟩
      exact ⟨Nat.lt_of_le_of_lt hle hi, he⟩
    · rintro ⟨j, key'⟩ ⟨hj, rfl⟩
      by_cases hle : j ≤ i
      · exact .inl ⟨hle, rfl⟩
      · -- A call after the last one of the key is one of another key.
        obtain ⟨d', hd'⟩ : ∃ d', w.calls[j]? = some d' :=
          ⟨_, List.getElem?_eq_some_iff.2 ⟨hj, rfl⟩⟩
        exact .inr (happened_append hd' fun hsame => absurd (hlast j d' hd' hsame) hle)

theorem Woven.call (hwoven : Woven w.calls w.jobs) (hmapped : Mapped w.tails w.calls) :
    Woven (w.call coordinator key).calls (w.call coordinator key).jobs := by
  let t : Ticket K := ⟨w.calls.length, key⟩
  -- The promises of the call, in the order in which they are made.
  obtain ⟨previous, jobs₀, hprevious⟩ : ∃ previous jobs₀, w.previous key = (previous, jobs₀) :=
    ⟨_, _, rfl⟩
  let current := jobs₀.promises.next
  let jobs₁ := jobs₀.create (.current t) false
  obtain ⟨caught, jobs₂, hcaught⟩ : ∃ caught jobs₂,
      World.handled coordinator t previous jobs₁ = (caught, jobs₂) := ⟨_, _, rfl⟩
  let tail := jobs₂.promises.next
  let jobs₃ := jobs₂.create (.tail t) false
  let jobs₄ := jobs₃.subscribe caught (.adopt t)
  obtain ⟨awaited, jobs₅, hawaited⟩ : ∃ awaited jobs₅,
      World.handled coordinator t previous jobs₄ = (awaited, jobs₅) := ⟨_, _, rfl⟩
  let d : Call K := ⟨key, current, tail, .waiting⟩
  have hcall : w.call coordinator key =
      { jobs := jobs₅.subscribe awaited (.resume t), tails := w.tails.set key tail,
        calls := w.calls ++ [d] } := by
    simp only [World.call, hprevious]
    simp only [t, jobs₁] at hcaught
    simp only [t, jobs₄, jobs₃] at hawaited
    rw [hcaught]
    simp only [hawaited]
    rfl
  have hd : t.At (w.calls ++ [d]) d := ⟨List.getElem?_concat_length, rfl⟩
  have hprior : Prior (w.calls ++ [d]) t w.jobs (previous, jobs₀) :=
    hprevious ▸ previous_prior hwoven hmapped d
  have hgrows₁ : Grows jobs₀ jobs₁ := grows_create _ _ _
  have hcurrent : jobs₁.Labelled current (.current t) := labelled_create.2 (.inl ⟨rfl, rfl⟩)
  have hfabric₁ : Fabric (w.calls ++ [d]) jobs₁ := hprior.fabric.create ⟨d, hd, rfl⟩ nofun
  have hready₁ := hprior.ready.grows hgrows₁
  have hhandled₂ : Handled (w.calls ++ [d]) t jobs₁ (caught, jobs₂) :=
    hcaught ▸ handled_handled hfabric₁ (hprior.passes.create false (by nofun)) hd hready₁
  have hgrows₃ : Grows jobs₂ jobs₃ := grows_create _ _ _
  have htail : jobs₃.Labelled tail (.tail t) := labelled_create.2 (.inl ⟨rfl, rfl⟩)
  have hfabric₃ : Fabric (w.calls ++ [d]) jobs₃ := hhandled₂.fabric.create ⟨d, hd, rfl⟩ nofun
  obtain ⟨label₃, hlabel₃, htight₃, henough₃⟩ := hhandled₂.ready.grows hgrows₃
  have hbefore : caught < tail := by
    obtain ⟨label, hlabel, -⟩ := hhandled₂.ready
    exact hlabel.lt
  have hfabric₄ : Fabric (w.calls ++ [d]) jobs₄ :=
    hfabric₃.subscribe hlabel₃ ⟨d, hd, hbefore⟩ henough₃ htight₃
  have hgrows₄ : Grows jobs₃ jobs₄ := grows_subscribe hlabel₃ _
  have hpasses₄ : Passes jobs₄ := (hhandled₂.passes.create false (by nofun)).subscribe hlabel₃ _
  have hready₄ := ((hready₁.grows hhandled₂.grows).grows hgrows₃).grows hgrows₄
  have hhandled₅ : Handled (w.calls ++ [d]) t jobs₄ (awaited, jobs₅) :=
    hawaited ▸ handled_handled hfabric₄ hpasses₄ hd hready₄
  obtain ⟨label₅, hlabel₅, htight₅, henough₅⟩ := hhandled₅.ready
  have hgrows₆ : Grows jobs₅ (jobs₅.subscribe awaited (.resume t)) := grows_subscribe hlabel₅ _
  have hgrowsTail : Grows jobs₃ (jobs₅.subscribe awaited (.resume t)) :=
    (hgrows₄.trans hhandled₅.grows).trans hgrows₆
  have hgrowsCurrent : Grows jobs₁ (jobs₅.subscribe awaited (.resume t)) :=
    (hhandled₂.grows.trans hgrows₃).trans hgrowsTail
  have hgrows : Grows w.jobs (jobs₅.subscribe awaited (.resume t)) :=
    (hprior.grows.trans hgrows₁).trans hgrowsCurrent
  -- The call adds one reaction that links its tail and one that resumes it.
  have hlink : 0 < total (isLink t.index) (jobs₅.subscribe awaited (.resume t)) := by
    have hone : total (isLink t.index) jobs₄ = total (isLink t.index) jobs₃ + 1 := by
      rw [total_subscribe hlabel₃]
      simp [isLink]
    have hle := (hhandled₅.grows.trans hgrows₆).total (isLink t.index)
    omega
  have hresume : ∀ i, total (isResume i) (jobs₅.subscribe awaited (.resume t)) =
      total (isResume i) w.jobs + if t.index = i then 1 else 0 := by
    intro i
    rw [total_subscribe hlabel₅, hhandled₅.total _ fun _ => rfl, total_subscribe hlabel₃,
      total_create, hhandled₂.total _ fun _ => rfl, total_create, hprior.total]
    rfl
  rw [hcall]
  dsimp only
  refine ⟨?_, ?_, ?_, ?_, ?_, ?_, ?_⟩
  · exact hhandled₅.fabric.subscribe hlabel₅ ⟨d, hd⟩ henough₅ htight₅
  · exact hhandled₅.passes.subscribe hlabel₅ _
  · intro i c hc
    rcases getElem?_concat_eq_some hc with hc | ⟨rfl, rfl⟩
    · exact (hwoven.made i c hc).imp (hgrows.labels _ _) (hgrows.labels _ _)
    · exact ⟨hgrowsCurrent.labels _ _ hcurrent, hgrowsTail.labels _ _ htail⟩
  · intro p hp
    have hp₃ := labelled_subscribe.1 (hhandled₅.resolved p (labelled_subscribe.1 hp))
    have hp₁ := hhandled₂.resolved p (labelled_create_ne (by nofun) hp₃)
    have hp₀ := labelled_create_ne (by nofun) hp₁
    exact (hgrowsCurrent.settled p _ hp₁).2 ((hgrows₁.settled p _ hp₀).2 (hprior.resolved p hp₀))
  · intro i c hc
    rcases getElem?_concat_eq_some hc with hc | ⟨rfl, rfl⟩
    · exact (hgrows.settled _ _ (hwoven.made i c hc).1).trans (hwoven.released i c hc)
    · rw [hgrowsCurrent.settled _ _ hcurrent, settled_create]
      refine iff_of_false ?_ id
      rintro (⟨-, hfalse⟩ | hsettled)
      · cases hfalse
      · exact absurd (settled_lt hsettled) (Nat.lt_irrefl _)
  · intro i c hc
    rcases getElem?_concat_eq_some hc with hc | ⟨rfl, rfl⟩
    · exact (hwoven.links i c hc).imp (hgrows.settled _ _ (hwoven.made i c hc).2).2
        fun hpos => Nat.lt_of_lt_of_le hpos (hgrows.total _)
    · exact .inr hlink
  · intro i
    rw [hresume, hwoven.resumes]
    rcases Nat.lt_trichotomy i w.calls.length with hlt | rfl | hgt
    · have hne : ¬ t.index = i := fun h => absurd (h ▸ hlt) (Nat.lt_irrefl _)
      rw [if_neg hne, List.getElem?_append_left hlt, Nat.add_zero]
    · rw [List.getElem?_concat_length, List.getElem?_eq_none (Nat.le_refl _), if_pos rfl]
      rfl
    · have hne : ¬ t.index = i := fun h => absurd (h ▸ hgt) (Nat.lt_irrefl _)
      have hlong : (w.calls ++ [d]).length ≤ i := by
        rw [List.length_append, List.length_singleton]
        exact hgt
      have hshort : w.calls.length ≤ i := Nat.le_of_lt hgt
      rw [if_neg hne, List.getElem?_eq_none hlong, List.getElem?_eq_none hshort, Nat.add_zero]

theorem Mapped.call (hmapped : Mapped w.tails w.calls) :
    Mapped (w.call coordinator key).tails (w.call coordinator key).calls := by
  obtain ⟨current, tail, hcalls, htails⟩ := w.call_eq coordinator key
  rw [hcalls, htails]
  refine ⟨?_, ?_, ?_⟩
  · intro key' hnone i c hc hkey
    rw [OrderedMap.get?_set] at hnone
    split at hnone
    · cases hnone
    · next hne =>
      rcases getElem?_concat_eq_some hc with hc | ⟨rfl, rfl⟩
      · exact hmapped.empty key' hnone i c hc hkey
      · exact absurd hkey.symm hne
  · intro key' tail' hsome
    rw [OrderedMap.get?_set] at hsome
    split at hsome
    · next hsame =>
      subst hsame
      refine ⟨w.calls.length, _, List.getElem?_concat_length, rfl, Option.some.inj hsome, id, ?_⟩
      intro j d hd _
      rcases getElem?_concat_eq_some hd with hd | ⟨rfl, -⟩
      · exact Nat.le_of_lt (List.getElem?_eq_some_iff.1 hd).1
      · exact Nat.le_refl _
    · next hne =>
      obtain ⟨i, c, hc, hkey, htail, hpending, hlast⟩ := hmapped.last key' tail' hsome
      have hlt : i < w.calls.length := (List.getElem?_eq_some_iff.1 hc).1
      refine ⟨i, c, List.getElem?_append_left hlt ▸ hc, hkey, htail, hpending, ?_⟩
      intro j d hd hsame
      rcases getElem?_concat_eq_some hd with hd | ⟨rfl, rfl⟩
      · exact hlast j d hd hsame
      · exact absurd hsame.symm hne
  · intro i c hc hstarted e he
    rcases getElem?_concat_eq_some hc with hc | ⟨rfl, rfl⟩
    · exact (extends_append _ _).happened (hmapped.started i c hc hstarted e he)
    · exact absurd rfl hstarted

end Call

/-! ## A job -/

section Job
variable {calls : List (Call K)} {jobs jobs' : Jobs (Label K) (Reaction K)} {r r' : Reaction K}
  {queue : List (Reaction K)}

theorem total_rest_eq (hqueue : jobs.queue = r :: queue) {w : Reaction K → ℕ} (hw : w r = 0) :
    total w jobs.rest = total w jobs := by
  rw [total_rest hqueue, hw, Nat.add_zero]

theorem labelled_rest_fulfil {p q : ℕ} {label : Label K} :
    (jobs.rest.fulfil p).Labelled q label ↔ jobs.Labelled q label := by
  rw [labelled_fulfil]
  exact Iff.rfl

theorem settled_rest_fulfil {p q : ℕ} {label : Label K} (hp : jobs.Labelled p label) :
    (jobs.rest.fulfil p).Settled q ↔ q = p ∨ jobs.Settled q := by
  have hrest : jobs.rest.Labelled p label := hp
  rw [settled_fulfil hrest]
  exact Iff.rfl

/-- A reaction that settles a promise of `catch`, or a tail. -/
theorem Woven.settle (h : Woven calls jobs) (hqueue : jobs.queue = r :: queue) {p : ℕ}
    {label : Label K} (hlabel : jobs.Labelled p label) (hcurrent : ∀ t, label ≠ .current t)
    (hhappened : ∀ e, label.awaits e → Happened calls e)
    (hpass : ∀ q, q ≠ p → isPass q r = 0)
    (hlink : ∀ (i : ℕ) (c : Call K), calls[i]? = some c → c.tail ≠ p → isLink i r = 0)
    (hresume : ∀ i, isResume i r = 0) : Woven calls (jobs.rest.fulfil p) where
  fabric := h.fabric.rest.fulfil hlabel hhappened
  passes q t hq := by
    by_cases hsame : q = p
    · exact .inl ((settled_rest_fulfil hlabel).2 (.inl hsame))
    · rw [total_fulfil, total_rest_eq hqueue (hpass q hsame)]
      exact (h.passes q t (labelled_rest_fulfil.1 hq)).imp_left fun hsettled =>
        (settled_rest_fulfil hlabel).2 (.inr hsettled)
  made i c hc := (h.made i c hc).imp labelled_rest_fulfil.2 labelled_rest_fulfil.2
  resolved q hq :=
    (settled_rest_fulfil hlabel).2 (.inr (h.resolved q (labelled_rest_fulfil.1 hq)))
  released i c hc := by
    have hmade := (h.made i c hc).1
    rw [← h.released i c hc, settled_rest_fulfil hlabel]
    refine or_iff_right ?_
    rintro rfl
    exact hcurrent _ (hlabel.unique hmade)
  links i c hc := by
    by_cases hsame : c.tail = p
    · exact .inl ((settled_rest_fulfil hlabel).2 (.inl hsame))
    · rw [total_fulfil, total_rest_eq hqueue (hlink i c hc hsame)]
      exact (h.links i c hc).imp_left fun hsettled =>
        (settled_rest_fulfil hlabel).2 (.inr hsettled)
  resumes i := by
    rw [total_fulfil, total_rest_eq hqueue (hresume i)]
    exact h.resumes i

variable (r r') in
/-- A reaction that hands its task to another one. -/
theorem Woven.replace (h : Woven calls jobs) (hfabric : Fabric calls jobs')
    (hlabels : ∀ p label, jobs'.Labelled p label ↔ jobs.Labelled p label)
    (hsettled : ∀ p, jobs'.Settled p ↔ jobs.Settled p)
    (htotal : ∀ w : Reaction K → ℕ, w r' = w r → total w jobs' = total w jobs)
    (hpass : ∀ p, isPass p r' = isPass p r) (hlink : ∀ i, isLink i r' = isLink i r)
    (hresume : ∀ i, isResume i r' = isResume i r) : Woven calls jobs' where
  fabric := hfabric
  passes p t hp := by
    rw [hsettled, htotal _ (hpass p)]
    exact h.passes p t ((hlabels _ _).1 hp)
  made i c hc := (h.made i c hc).imp (hlabels _ _).2 (hlabels _ _).2
  resolved p hp := (hsettled p).2 (h.resolved p ((hlabels _ _).1 hp))
  released i c hc := (hsettled _).trans (h.released i c hc)
  links i c hc := by
    rw [hsettled, htotal _ (hlink i)]
    exact h.links i c hc
  resumes i := by
    rw [htotal _ (hresume i)]
    exact h.resumes i

end Job

section SetPhase
variable {w : World K} {i j : ℕ} {phase : Phase}

theorem setPhase_eq_some {c' : Call K} (h : (w.setPhase i phase).calls[j]? = some c') :
    ∃ c, w.calls[j]? = some c ∧ c' = { c with phase := if i = j then phase else c.phase } := by
  have h : (w.calls.modify i fun c => { c with phase := phase })[j]? = some c' := h
  rw [List.getElem?_modify] at h
  obtain ⟨c, hc, rfl⟩ := Option.map_eq_some_iff.1 h
  refine ⟨c, hc, ?_⟩
  by_cases hsame : i = j
  · simp [hsame]
  · simp [hsame]

theorem setPhase_get? {c : Call K} (h : w.calls[j]? = some c) :
    (w.setPhase i phase).calls[j]? =
      some { c with phase := if i = j then phase else c.phase } := by
  show (w.calls.modify i fun c => { c with phase := phase })[j]? = _
  rw [List.getElem?_modify, h]
  by_cases hsame : i = j
  · simp [hsame]
  · simp [hsame]

theorem extends_setPhase
    (h : ∀ c, w.calls[i]? = some c → c.phase.isFinished → phase.isFinished) :
    Extends w.calls (w.setPhase i phase).calls := by
  intro j c hc
  refine ⟨_, setPhase_get? hc, rfl, rfl, rfl, ?_⟩
  dsimp only
  split
  · next hsame =>
    subst hsame
    exact h c hc
  · exact id

end SetPhase

section Microtask
variable {w : World K}

/-- A job that resumes a call finds it waiting. -/
theorem Woven.waiting (hwoven : Woven w.calls w.jobs) {t : Ticket K}
    (hmem : Reaction.resume t ∈ w.jobs.queue) :
    ∃ c, t.At w.calls c ∧ c.phase = .waiting ∧ ∀ e, t.before e → Happened w.calls e := by
  obtain ⟨c, hc⟩ := hwoven.fabric.queued _ hmem
  refine ⟨c, hc, ?_, hwoven.fabric.sound.queued _ hmem⟩
  have hone : 0 < isResume t.index (.resume t) := by
    show 0 < if t.index = t.index then 1 else 0
    rw [if_pos rfl]
    exact Nat.one_pos
  have hpos := total_pos_of_mem hmem hone
  rw [hwoven.resumes, hc.1] at hpos
  by_contra hphase
  have hne : ¬ Option.map (·.phase) (some c) = some Phase.waiting := by simpa using hphase
  rw [if_neg hne] at hpos
  exact absurd hpos (Nat.lt_irrefl 0)

theorem Woven.resume (hwoven : Woven w.calls w.jobs) {t : Ticket K} {queue : List (Reaction K)}
    (hqueue : w.jobs.queue = .resume t :: queue) :
    Woven (w.setPhase t.index .running).calls w.jobs.rest := by
  obtain ⟨c, hc, hwaiting, -⟩ := hwoven.waiting (hqueue ▸ List.mem_cons_self)
  have hpending : ¬ c.phase.isFinished := by
    rw [hwaiting]
    exact id
  have hextends : Extends w.calls (w.setPhase t.index .running).calls := by
    apply extends_setPhase
    intro c' hc' hfinished
    obtain rfl := Option.some.inj (hc.1.symm.trans hc')
    exact absurd hfinished hpending
  refine ⟨hwoven.fabric.rest.extends hextends, ?_, ?_, hwoven.resolved, ?_, ?_, ?_⟩
  · intro p t' hp
    rw [total_rest_eq hqueue rfl]
    exact hwoven.passes p t' hp
  · intro i c' hc'
    obtain ⟨d, hd, rfl⟩ := setPhase_eq_some hc'
    exact hwoven.made i d hd
  · intro i c' hc'
    obtain ⟨d, hd, rfl⟩ := setPhase_eq_some hc'
    refine (hwoven.released i d hd).trans ?_
    dsimp only
    split
    · next hsame =>
      subst hsame
      obtain rfl := Option.some.inj (hc.1.symm.trans hd)
      exact iff_of_false hpending id
    · exact Iff.rfl
  · intro i c' hc'
    obtain ⟨d, hd, rfl⟩ := setPhase_eq_some hc'
    rw [total_rest_eq hqueue rfl]
    exact hwoven.links i d hd
  · intro i
    have htotal := total_rest (w := isResume i) hqueue
    rw [hwoven.resumes] at htotal
    by_cases hsame : t.index = i
    · subst hsame
      have hone : isResume t.index (.resume t) = 1 := if_pos rfl
      rw [hc.1, Option.map_some, if_pos (congrArg some hwaiting), hone] at htotal
      rw [setPhase_get? hc.1, Option.map_some, if_pos rfl, if_neg (by simp)]
      omega
    · have hzero : isResume i (.resume t) = 0 := if_neg hsame
      have hphase : (w.setPhase t.index .running).calls[i]?.map (·.phase) =
          w.calls[i]?.map (·.phase) := by
        show (w.calls.modify t.index fun c => { c with phase := .running })[i]?.map _ = _
        rw [List.getElem?_modify_ne _ _ hsame]
      rw [hphase]
      omega

theorem Woven.microtask (hwoven : Woven w.calls w.jobs) :
    Woven w.microtask.calls w.microtask.jobs := by
  cases hqueue : w.jobs.queue with
  | nil => exact (World.microtask_nil hqueue).symm ▸ hwoven
  | cons r queue =>
    rw [World.microtask_cons hqueue]
    have hmem : r ∈ w.jobs.queue := hqueue ▸ List.mem_cons_self
    have hok := hwoven.fabric.queued r hmem
    have hneeds := hwoven.fabric.sound.queued r hmem
    cases r with
    | pass t p =>
      exact hwoven.settle hqueue hok nofun hneeds (fun q hne => if_neg (Ne.symm hne))
        (fun _ _ _ _ => rfl) fun _ => rfl
    | adopt t =>
      refine hwoven.replace (.adopt t) (.subscribeCurrent t)
        (hwoven.fabric.rest.enqueue hok hneeds) (fun _ _ => Iff.rfl) (fun _ => Iff.rfl) ?_
        (fun _ => rfl) (fun _ => rfl) fun _ => rfl
      intro w' hw'
      rw [total_rest hqueue, ← hw']
      exact total_enqueue
    | subscribeCurrent t =>
      obtain ⟨c, hc⟩ := hok
      have hmade : w.jobs.rest.Labelled c.current (.current t) := by
        have hlabel := (hwoven.made t.index c hc.1).1
        rwa [hc.2] at hlabel
      rw [World.perform_subscribeCurrent (by exact hc.1)]
      have hfabric : Fabric w.calls (w.jobs.rest.subscribe c.current (.settleTail t)) := by
        have hplace : PlaceOk w.calls w.jobs.rest c.current (.settleTail t) := ⟨c, hc, rfl⟩
        apply hwoven.fabric.rest.subscribe hmade hplace
        · rintro e ⟨hle, he⟩
          rcases Nat.lt_or_eq_of_le hle with hlt | heq
          · exact .inr (hneeds e ⟨hlt, he⟩)
          · exact .inl ⟨heq, he⟩
        · rintro e ⟨heq, he⟩
          exact ⟨Nat.le_of_eq heq, he⟩
      refine hwoven.replace (.subscribeCurrent t) (.settleTail t) hfabric
        (fun _ _ => labelled_subscribe) (fun _ => settled_subscribe) ?_
        (fun _ => rfl) (fun _ => rfl) fun _ => rfl
      intro w' hw'
      rw [total_rest hqueue, ← hw']
      exact total_subscribe hmade
    | settleTail t =>
      obtain ⟨c, hc⟩ := hok
      have hmade : w.jobs.Labelled c.tail (.tail t) := by
        have hlabel := (hwoven.made t.index c hc.1).2
        rwa [hc.2] at hlabel
      rw [World.perform_settleTail (by exact hc.1)]
      refine hwoven.settle hqueue hmade nofun hneeds (fun _ _ => rfl) ?_ fun _ => rfl
      intro i c' hc' hne
      refine if_neg ?_
      rintro rfl
      exact hne (congrArg Call.tail (Option.some.inj (hc'.symm.trans hc.1)))
    | resume t => exact hwoven.resume hqueue

/-- A job changes no call, or lets one go on whose turn has come. -/
theorem Woven.microtask_calls (hwoven : Woven w.calls w.jobs) :
    w.microtask.calls = w.calls ∨ ∃ (t : Ticket K) (c : Call K),
      t.At w.calls c ∧ c.phase = .waiting ∧ (∀ e, t.before e → Happened w.calls e) ∧
      w.microtask.calls = (w.setPhase t.index .running).calls := by
  cases hqueue : w.jobs.queue with
  | nil => exact .inl (congrArg World.calls (World.microtask_nil hqueue))
  | cons r queue =>
    have hmem : r ∈ w.jobs.queue := hqueue ▸ List.mem_cons_self
    have hok := hwoven.fabric.queued r hmem
    rw [World.microtask_cons hqueue]
    cases r with
    | pass => exact .inl rfl
    | adopt => exact .inl rfl
    | subscribeCurrent t =>
      obtain ⟨c, hc⟩ := hok
      rw [World.perform_subscribeCurrent (by exact hc.1)]
      exact .inl rfl
    | settleTail t =>
      obtain ⟨c, hc⟩ := hok
      rw [World.perform_settleTail (by exact hc.1)]
      exact .inl rfl
    | resume t =>
      obtain ⟨c, hc, hwaiting, hneeds⟩ := hwoven.waiting hmem
      exact .inr ⟨t, c, hc, hwaiting, hneeds, rfl⟩

theorem Mapped.microtask [DecidableEq K] (hwoven : Woven w.calls w.jobs)
    (hmapped : Mapped w.tails w.calls) : Mapped w.microtask.tails w.microtask.calls := by
  rw [w.microtask_tails]
  rcases hwoven.microtask_calls with hcalls | ⟨t, c, hc, hwaiting, hneeds, hcalls⟩
  · rw [hcalls]
    exact hmapped
  · rw [hcalls]
    have hpending : ∀ d, w.calls[t.index]? = some d → ¬ d.phase.isFinished := by
      intro d hd
      obtain rfl := Option.some.inj (hc.1.symm.trans hd)
      rw [hwaiting]
      exact id
    have hextends : Extends w.calls (w.setPhase t.index .running).calls :=
      extends_setPhase fun d hd hfinished => absurd hfinished (hpending d hd)
    refine ⟨?_, ?_, ?_⟩
    · intro key hnone i c' hc' hkey
      obtain ⟨d, hd, rfl⟩ := setPhase_eq_some hc'
      have hfinished := hmapped.empty key hnone i d hd hkey
      have hne : ¬ t.index = i := by
        rintro rfl
        exact hpending d hd hfinished
      dsimp only
      rw [if_neg hne]
      exact hfinished
    · intro key tail hsome
      obtain ⟨i, d, hd, hkey, htail, hunfinished, hlast⟩ := hmapped.last key tail hsome
      refine ⟨i, _, setPhase_get? hd, hkey, htail, ?_, ?_⟩
      · dsimp only
        split
        · exact id
        · exact hunfinished
      · intro j d' hd' hsame
        obtain ⟨d₀, hd₀, rfl⟩ := setPhase_eq_some hd'
        exact hlast j d₀ hd₀ hsame
    · intro i c' hc' hstarted e he
      obtain ⟨d, hd, rfl⟩ := setPhase_eq_some hc'
      apply hextends.happened
      by_cases hsame : t.index = i
      · subst hsame
        obtain rfl := Option.some.inj (hc.1.symm.trans hd)
        exact hneeds e ⟨he.1, he.2.trans hc.2⟩
      · dsimp only at hstarted
        rw [if_neg hsame] at hstarted
        exact hmapped.started i d hd hstarted e he

end Microtask

/-! ## The end of an operation -/

section Finish
variable {w : World K} {i : ℕ} (returned : Bool)

theorem Woven.finish (hwoven : Woven w.calls w.jobs) {c : Call K} (hc : w.calls[i]? = some c)
    (hrunning : c.phase = .running) :
    Woven (w.setPhase i (.finished returned)).calls (w.jobs.fulfil c.current) := by
  have hextends : Extends w.calls (w.setPhase i (.finished returned)).calls :=
    extends_setPhase fun _ _ _ => trivial
  have hlabel := (hwoven.made i c hc).1
  refine ⟨?_, ?_, ?_, ?_, ?_, ?_, ?_⟩
  · apply (hwoven.fabric.extends hextends).fulfil hlabel
    rintro ⟨j, key⟩ ⟨hj, -⟩
    obtain rfl : j = i := hj
    refine ⟨_, setPhase_get? hc, fun _ => ?_⟩
    dsimp only
    rw [if_pos rfl]
    trivial
  · intro p t hp
    rw [total_fulfil]
    exact (hwoven.passes p t (labelled_fulfil.1 hp)).imp_left fun hsettled =>
      (settled_fulfil hlabel).2 (.inr hsettled)
  · intro j c' hc'
    obtain ⟨d, hd, rfl⟩ := setPhase_eq_some hc'
    exact (hwoven.made j d hd).imp labelled_fulfil.2 labelled_fulfil.2
  · intro p hp
    exact (settled_fulfil hlabel).2 (.inr (hwoven.resolved p (labelled_fulfil.1 hp)))
  · intro j c' hc'
    obtain ⟨d, hd, rfl⟩ := setPhase_eq_some hc'
    rw [settled_fulfil hlabel]
    by_cases hsame : i = j
    · subst hsame
      obtain rfl := Option.some.inj (hc.symm.trans hd)
      refine iff_of_true (.inl rfl) ?_
      dsimp only
      rw [if_pos rfl]
      trivial
    · dsimp only
      rw [if_neg hsame, ← hwoven.released j d hd]
      refine or_iff_right fun hcurrent => ?_
      have hunique := hlabel.unique (hcurrent ▸ (hwoven.made j d hd).1)
      simp only [Label.current.injEq, Ticket.mk.injEq] at hunique
      exact hsame hunique.1
  · intro j c' hc'
    obtain ⟨d, hd, rfl⟩ := setPhase_eq_some hc'
    rw [total_fulfil]
    exact (hwoven.links j d hd).imp_left fun hsettled => (settled_fulfil hlabel).2 (.inr hsettled)
  · intro j
    rw [total_fulfil, hwoven.resumes]
    by_cases hsame : i = j
    · subst hsame
      rw [hc, setPhase_get? hc, Option.map_some, Option.map_some, if_pos rfl, hrunning,
        if_neg (by simp), if_neg (by simp)]
    · have hphase : (w.setPhase i (.finished returned)).calls[j]?.map (·.phase) =
          w.calls[j]?.map (·.phase) := by
        show (w.calls.modify i fun c => { c with phase := .finished returned })[j]?.map _ = _
        rw [List.getElem?_modify_ne _ _ hsame]
      rw [hphase]

variable [DecidableEq K]

theorem finish_running {c : Call K} (hc : w.calls[i]? = some c) (hrunning : c.phase = .running) :
    w.finish i returned =
      { jobs := w.jobs.fulfil c.current
        tails := if w.tails.get? c.key = some c.tail then w.tails.delete c.key else w.tails
        calls := (w.setPhase i (.finished returned)).calls } := by
  rw [World.finish, hc]
  exact if_pos hrunning

theorem finish_other (h : ∀ c, w.calls[i]? = some c → c.phase ≠ .running) :
    w.finish i returned = w := by
  rw [World.finish]
  cases hc : w.calls[i]? with
  | none => rfl
  | some c => exact if_neg (h c hc)

theorem Mapped.finish (hwoven : Woven w.calls w.jobs) (hmapped : Mapped w.tails w.calls)
    {c : Call K} (hc : w.calls[i]? = some c) (hrunning : c.phase = .running) :
    Mapped (if w.tails.get? c.key = some c.tail then w.tails.delete c.key else w.tails)
      (w.setPhase i (.finished returned)).calls := by
  have hextends : Extends w.calls (w.setPhase i (.finished returned)).calls :=
    extends_setPhase fun _ _ _ => trivial
  have hpending : ¬ c.phase.isFinished := by
    rw [hrunning]
    exact id
  refine ⟨?_, ?_, ?_⟩
  · intro key hnone j c' hc' hkey
    obtain ⟨d, hd, rfl⟩ := setPhase_eq_some hc'
    dsimp only
    by_cases hsame : i = j
    · rw [if_pos hsame]
      trivial
    · rw [if_neg hsame]
      -- The entry was there and is deleted, or it was not there.
      by_cases hentry : w.tails.get? key = none
      · exact hmapped.empty key hentry j d hd hkey
      · by_cases hdeleted : w.tails.get? c.key = some c.tail
        · rw [if_pos hdeleted, OrderedMap.get?_delete] at hnone
          have hcase : c.key = key := by
            by_contra hne
            exact hentry (by rwa [if_neg (Ne.symm hne)] at hnone)
          obtain ⟨k, b, hb, -, htail, -, hlast⟩ := hmapped.last c.key c.tail hdeleted
          have hunique := (hwoven.made k b hb).2.unique (htail ▸ (hwoven.made i c hc).2)
          simp only [Label.tail.injEq, Ticket.mk.injEq] at hunique
          obtain rfl := hunique.1
          have hle := hlast j d hd (hkey.trans hcase.symm)
          have hbefore : Ticket.before ⟨k, c.key⟩ (j, d.key) :=
            ⟨Nat.lt_of_le_of_ne hle (Ne.symm hsame), hkey.trans hcase.symm⟩
          obtain ⟨d', hd', hfinished⟩ :=
            hmapped.started k c hc (by rw [hrunning]; nofun) _ hbefore
          obtain rfl := Option.some.inj (hd.symm.trans hd')
          exact hfinished rfl
        · rw [if_neg hdeleted] at hnone
          exact absurd hnone hentry
  · intro key tail hsome
    have hkept : w.tails.get? key = some tail ∧ (key = c.key → tail ≠ c.tail) := by
      by_cases hdeleted : w.tails.get? c.key = some c.tail
      · rw [if_pos hdeleted, OrderedMap.get?_delete] at hsome
        by_cases hsame : key = c.key
        · rw [if_pos hsame] at hsome
          cases hsome
        · rw [if_neg hsame] at hsome
          exact ⟨hsome, fun h => absurd h hsame⟩
      · rw [if_neg hdeleted] at hsome
        refine ⟨hsome, ?_⟩
        rintro rfl rfl
        exact hdeleted hsome
    obtain ⟨j, d, hd, hkey, htail, hunfinished, hlast⟩ := hmapped.last key tail hkept.1
    have hne : ¬ i = j := by
      rintro rfl
      obtain rfl := Option.some.inj (hc.symm.trans hd)
      exact hkept.2 hkey.symm htail.symm
    refine ⟨j, _, setPhase_get? hd, hkey, htail, ?_, ?_⟩
    · dsimp only
      rw [if_neg hne]
      exact hunfinished
    · intro k d' hd' hsame
      obtain ⟨d₀, hd₀, rfl⟩ := setPhase_eq_some hd'
      exact hlast k d₀ hd₀ hsame
  · intro j c' hc' hstarted e he
    obtain ⟨d, hd, rfl⟩ := setPhase_eq_some hc'
    apply hextends.happened
    apply hmapped.started j d hd ?_ e he
    by_cases hsame : i = j
    · subst hsame
      obtain rfl := Option.some.inj (hc.symm.trans hd)
      rw [hrunning]
      nofun
    · dsimp only at hstarted
      rwa [if_neg hsame] at hstarted

end Finish

end Doctmcp.Exclusion

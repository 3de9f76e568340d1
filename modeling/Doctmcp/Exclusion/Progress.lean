import Doctmcp.Exclusion.Exclusive

/-! # Turns

The calls of a key run one at a time and in the order in which they came. Jobs only settle promises
later than those that they wait for, so once the queue is empty a promise that is pending waits for
an operation, and the first call of every key that has not finished runs. -/

namespace Doctmcp.Exclusion
open Doctmcp.Lib Doctmcp.Lib.Jobs
set_option autoImplicit false

variable {K : Type}

/-! ## An empty queue -/

section Idle
variable {calls : List (Call K)} {jobs : Jobs (Label K) (Reaction K)}

/-- A reaction that is on the way waits for a promise that is pending. -/
theorem exists_registered (hqueue : jobs.queue = []) {w : Reaction K → ℕ}
    (h : 0 < total w jobs) : ∃ p r, 0 < w r ∧ jobs.Registered p r := by
  obtain ⟨r, hw, hmem | ⟨p, hr⟩⟩ := exists_of_total h
  · rw [hqueue] at hmem
    cases hmem
  · exact ⟨p, r, hw, hr⟩

theorem Woven.current_pending (h : Woven calls jobs) {p : ℕ} {t : Ticket K}
    (hlabel : jobs.Labelled p (.current t)) (hpending : ¬ jobs.Settled p) :
    ¬ Happened calls (t.index, t.key) := by
  obtain ⟨c, hc, rfl⟩ := h.fabric.labels p _ hlabel
  rw [h.released t.index c hc.1] at hpending
  rintro ⟨c', hc', hfinished⟩
  obtain rfl := Option.some.inj (hc.1.symm.trans hc')
  exact hpending (hfinished hc.2)

/-- A promise that is pending waits for an operation. -/
theorem Woven.pending (h : Woven calls jobs) (hqueue : jobs.queue = []) (p : ℕ) :
    ∀ label, jobs.Labelled p label → ¬ jobs.Settled p →
      ∃ e, label.awaits e ∧ ¬ Happened calls e := by
  induction p using Nat.strongRecOn with
  | ind p ih =>
    -- What a reaction needs that waits for an earlier promise.
    have hneeds : ∀ q r, q < p → jobs.Registered q r → ∃ e, r.needs e ∧ ¬ Happened calls e := by
      intro q r hlt hr
      obtain ⟨promise, hget, -⟩ := id hr
      have hlabel : jobs.Labelled q promise.label := ⟨promise, hget, rfl⟩
      obtain ⟨e, he, hnot⟩ := ih q hlt promise.label hlabel hr.not_settled
      exact ⟨e, h.fabric.sound.tight q promise.label r hlabel hr e he, hnot⟩
    intro label hlabel hpending
    cases label with
    | resolved => exact absurd (h.resolved p hlabel) hpending
    | current t => exact ⟨(t.index, t.key), ⟨rfl, rfl⟩, h.current_pending hlabel hpending⟩
    | caught t =>
      obtain ⟨q, r, hw, hr⟩ :=
        exists_registered hqueue ((h.passes p t hlabel).resolve_left hpending)
      obtain ⟨t', rfl⟩ := isPass_pos hw
      obtain ⟨hcaught, hlt⟩ := h.fabric.placed q _ hr
      obtain rfl : t' = t := Label.caught.inj (hcaught.unique hlabel)
      exact hneeds q _ hlt hr
    | tail t =>
      obtain ⟨c, hc, rfl⟩ := h.fabric.labels p _ hlabel
      obtain ⟨q, r, hw, hr⟩ :=
        exists_registered hqueue ((h.links t.index c hc.1).resolve_left hpending)
      have hplace := h.fabric.placed q r hr
      obtain ⟨t', hindex, rfl | rfl | rfl⟩ := isLink_pos hw
      · obtain ⟨c', hc', hlt⟩ := hplace
        obtain rfl := Option.some.inj ((hindex ▸ hc.1).symm.trans hc'.1)
        obtain ⟨e, he, hnot⟩ := hneeds q _ hlt hr
        exact ⟨e, ⟨Nat.le_of_lt (hindex ▸ he.1), he.2.trans (hc'.2.symm.trans hc.2)⟩, hnot⟩
      · exact hplace.elim
      · obtain ⟨c', hc', rfl⟩ := hplace
        obtain rfl := Option.some.inj ((hindex ▸ hc.1).symm.trans hc'.1)
        have hnot := h.current_pending (h.made t'.index c hc'.1).1 hr.not_settled
        dsimp only at hnot
        rw [hindex, hc.2] at hnot
        exact ⟨(t.index, t.key), ⟨Nat.le_refl _, rfl⟩, hnot⟩

/-- Once the queue is empty a call waits for an earlier one of its key. -/
theorem Woven.waits (h : Woven calls jobs) (hqueue : jobs.queue = []) {i : ℕ} {c : Call K}
    (hc : calls[i]? = some c) (hwaiting : c.phase = .waiting) :
    ∃ (j : ℕ) (d : Call K), j < i ∧ calls[j]? = some d ∧ d.key = c.key ∧ ¬ d.phase.isFinished := by
  have hresume := h.resumes i
  rw [hc, Option.map_some, hwaiting, if_pos rfl] at hresume
  obtain ⟨q, r, hw, hr⟩ := exists_registered hqueue (hresume ▸ Nat.one_pos)
  obtain ⟨t, rfl, rfl⟩ := isResume_pos hw
  obtain ⟨c', hc'⟩ := h.fabric.placed q _ hr
  obtain rfl := Option.some.inj (hc.symm.trans hc'.1)
  obtain ⟨promise, hget, -⟩ := id hr
  have hlabel : jobs.Labelled q promise.label := ⟨promise, hget, rfl⟩
  obtain ⟨e, he, hnot⟩ := h.pending hqueue q promise.label hlabel hr.not_settled
  obtain ⟨hlt, hkey⟩ := h.fabric.sound.tight q promise.label _ hlabel hr e he
  have hshort := Nat.lt_trans hlt (List.getElem?_eq_some_iff.1 hc).1
  refine ⟨e.1, _, hlt, List.getElem?_eq_getElem hshort, ?_⟩
  by_contra hother
  refine hnot ⟨_, List.getElem?_eq_getElem hshort, fun hsame => ?_⟩
  by_contra hunfinished
  exact hother ⟨hsame.trans (hkey.trans hc'.2.symm), hunfinished⟩

end Idle

/-! ## The queue runs empty -/

section Drain
variable {w : World K}

/-- The jobs that a reaction still leads to, with itself. -/
def rank : Reaction K → ℕ
  | .pass _ _ => 1
  | .adopt _ => 3
  | .subscribeCurrent _ => 2
  | .settleTail _ => 1
  | .resume _ => 1

theorem Woven.rank_microtask (hwoven : Woven w.calls w.jobs) {r : Reaction K}
    {queue : List (Reaction K)} (hqueue : w.jobs.queue = r :: queue) :
    total rank w.microtask.jobs < total rank w.jobs := by
  have hok := hwoven.fabric.queued r (hqueue ▸ List.mem_cons_self)
  have hrest := total_rest (w := rank) hqueue
  rw [World.microtask_cons hqueue]
  cases r with
  | pass t p =>
    have htotal : total rank (w.jobs.rest.fulfil p) = total rank w.jobs.rest := total_fulfil
    simp only [World.perform, rank] at hrest ⊢
    omega
  | adopt t =>
    have htotal : total rank (w.jobs.rest.enqueue (.subscribeCurrent t)) =
        total rank w.jobs.rest + 2 := total_enqueue
    simp only [World.perform, rank] at hrest ⊢
    omega
  | subscribeCurrent t =>
    obtain ⟨c, hc⟩ := hok
    have hmade : w.jobs.rest.Labelled c.current (.current ⟨t.index, c.key⟩) :=
      (hwoven.made t.index c hc.1).1
    have htotal : total rank (w.jobs.rest.subscribe c.current (.settleTail t)) =
        total rank w.jobs.rest + 1 := total_subscribe hmade
    rw [World.perform_subscribeCurrent (by exact hc.1)]
    simp only [rank] at hrest
    dsimp only
    omega
  | settleTail t =>
    obtain ⟨c, hc⟩ := hok
    have htotal : total rank (w.jobs.rest.fulfil c.tail) = total rank w.jobs.rest := total_fulfil
    rw [World.perform_settleTail (by exact hc.1)]
    simp only [rank] at hrest
    dsimp only
    omega
  | resume t =>
    simp only [World.perform, World.setPhase, rank] at hrest ⊢
    omega

end Drain

/-! ## Runs -/

section Runs
variable [DecidableEq K] {coordinator : Coordinator} {w : World K}

variable (coordinator) in
theorem woven_mapped_step (h : Woven w.calls w.jobs ∧ Mapped w.tails w.calls)
    (event : World.Event K) :
    Woven (w.step coordinator event).calls (w.step coordinator event).jobs ∧
      Mapped (w.step coordinator event).tails (w.step coordinator event).calls := by
  obtain ⟨hwoven, hmapped⟩ := h
  cases event with
  | call key => exact ⟨hwoven.call hmapped, hmapped.call⟩
  | microtask => exact ⟨hwoven.microtask, hmapped.microtask hwoven⟩
  | finish i returned =>
    by_cases hrunning : ∃ c, w.calls[i]? = some c ∧ c.phase = .running
    · obtain ⟨c, hc, hphase⟩ := hrunning
      show Woven (w.finish i returned).calls (w.finish i returned).jobs ∧
        Mapped (w.finish i returned).tails (w.finish i returned).calls
      rw [finish_running returned hc hphase]
      exact ⟨hwoven.finish returned hc hphase, hmapped.finish returned hwoven hc hphase⟩
    · show Woven (w.finish i returned).calls (w.finish i returned).jobs ∧
        Mapped (w.finish i returned).tails (w.finish i returned).calls
      rw [finish_other returned fun c hc hphase => hrunning ⟨c, hc, hphase⟩]
      exact ⟨hwoven, hmapped⟩

variable (coordinator) in
theorem woven_mapped_run (events : List (World.Event K)) :
    let w := runFrom (World.step coordinator) World.initial events
    Woven w.calls w.jobs ∧ Mapped w.tails w.calls :=
  runFrom_invariant (P := fun w : World K => Woven w.calls w.jobs ∧ Mapped w.tails w.calls)
    (fun _ event h => woven_mapped_step coordinator h event) ⟨woven_initial, mapped_initial⟩ events

variable (coordinator) in
/-- Finitely many jobs empty the queue. -/
theorem exists_idle (h : Woven w.calls w.jobs ∧ Mapped w.tails w.calls) :
    ∃ n, (runFrom (World.step coordinator) w (List.replicate n .microtask)).jobs.queue = [] := by
  obtain ⟨n, hn⟩ : ∃ n, total rank w.jobs = n := ⟨_, rfl⟩
  induction n using Nat.strongRecOn generalizing w with
  | ind n ih =>
    cases hqueue : w.jobs.queue with
    | nil => exact ⟨0, hqueue⟩
    | cons r queue =>
      obtain ⟨m, hm⟩ := ih _ (hn ▸ h.1.rank_microtask hqueue)
        (woven_mapped_step coordinator h .microtask) rfl
      exact ⟨m + 1, hm⟩

/-- What an event makes of the phase of call `i`. -/
def Turn (event : World.Event K) (i : ℕ) : Phase → Phase → Prop
  | .waiting, phase => phase = .waiting ∨ (event = .microtask ∧ phase = .running)
  | .running, phase =>
    (phase = .running ∧ ∀ returned, event ≠ .finish i returned) ∨
      ∃ returned, event = .finish i returned ∧ phase = .finished returned
  | .finished returned, phase => phase = .finished returned

theorem turn_step (hwoven : Woven w.calls w.jobs) (event : World.Event K) {i : ℕ} {c : Call K}
    (hc : w.calls[i]? = some c) : ∃ c' : Call K, (w.step coordinator event).calls[i]? = some c' ∧
      c'.key = c.key ∧ Turn event i c.phase c'.phase := by
  have hsame : (∀ returned, event ≠ .finish i returned) → Turn event i c.phase c.phase := by
    intro hother
    cases hphase : c.phase with
    | waiting => exact .inl rfl
    | running => exact .inl ⟨rfl, hother⟩
    | finished => rfl
  cases event with
  | call key =>
    obtain ⟨current, tail, hcalls, -⟩ := w.call_eq coordinator key
    refine ⟨c, ?_, rfl, hsame nofun⟩
    show (w.call coordinator key).calls[i]? = some c
    rw [hcalls, List.getElem?_append_left (List.getElem?_eq_some_iff.1 hc).1]
    exact hc
  | microtask =>
    show ∃ c' : Call K, w.microtask.calls[i]? = some c' ∧ _
    rcases hwoven.microtask_calls with hcalls | ⟨t, d, hd, hwaiting, -, hcalls⟩
    · rw [hcalls]
      exact ⟨c, hc, rfl, hsame nofun⟩
    · rw [hcalls]
      refine ⟨_, setPhase_get? hc, rfl, ?_⟩
      dsimp only
      split
      · next hindex =>
        subst hindex
        obtain rfl := Option.some.inj (hc.symm.trans hd.1)
        rw [hwaiting]
        exact .inr ⟨rfl, rfl⟩
      · exact hsame nofun
  | finish j returned =>
    show ∃ c' : Call K, (w.finish j returned).calls[i]? = some c' ∧ _
    by_cases hrunning : ∃ d, w.calls[j]? = some d ∧ d.phase = .running
    · obtain ⟨d, hd, hphase⟩ := hrunning
      rw [finish_running returned hd hphase]
      refine ⟨_, setPhase_get? hc, rfl, ?_⟩
      dsimp only
      split
      · next hindex =>
        subst hindex
        obtain rfl := Option.some.inj (hc.symm.trans hd)
        rw [hphase]
        exact .inr ⟨returned, rfl, rfl⟩
      · next hindex =>
        apply hsame
        rintro returned' hevent
        cases hevent
        exact hindex rfl
    · rw [finish_other returned fun d hd hphase => hrunning ⟨d, hd, hphase⟩]
      refine ⟨c, hc, rfl, ?_⟩
      cases hphase : c.phase with
      | waiting => exact .inl rfl
      | running =>
        refine .inl ⟨rfl, ?_⟩
        rintro returned' hevent
        cases hevent
        exact hrunning ⟨c, hc, hphase⟩
      | finished => rfl

/-- Mutual exclusion for each key. -/
structure Exclusive (coordinator : Coordinator) (w : World K) : Prop where
  /-- Two operations of a key do not overlap. -/
  apart : ∀ (i j : ℕ) (c d : Call K), w.calls[i]? = some c → w.calls[j]? = some d →
    c.key = d.key → c.phase = .running → d.phase = .running → i = j
  /-- An operation starts after all earlier ones of its key have ended. -/
  order : ∀ (i j : ℕ) (c d : Call K), w.calls[i]? = some c → w.calls[j]? = some d →
    c.key = d.key → i < j → d.phase ≠ .waiting → c.phase.isFinished
  /-- An operation starts once, and ends by itself. -/
  turn : ∀ (event : World.Event K) (i : ℕ) (c : Call K), w.calls[i]? = some c →
    ∃ c' : Call K, (w.step coordinator event).calls[i]? = some c' ∧ c'.key = c.key ∧
      Turn event i c.phase c'.phase
  /-- The map has an entry exactly while a call of the key has not finished. -/
  entry : ∀ key, (w.tails.get? key).isSome = true ↔
    ∃ (i : ℕ) (c : Call K), w.calls[i]? = some c ∧ c.key = key ∧ ¬ c.phase.isFinished
  /-- Finitely many jobs, without the end of any operation, start every call whose turn it is. -/
  starts : ∃ n, let w' := runFrom (World.step coordinator) w (List.replicate n .microtask)
    w'.jobs.queue = [] ∧ ∀ (i : ℕ) (c : Call K), w'.calls[i]? = some c →
      (∀ (j : ℕ) (d : Call K), j < i → w'.calls[j]? = some d → d.key = c.key →
        d.phase.isFinished) → c.phase ≠ .waiting

/-- Every run of either coordinator, with operations that return, throw or suspend. -/
theorem runExclusive_exclusive (coordinator : Coordinator) (events : List (World.Event K)) :
    Exclusive coordinator (runFrom (World.step coordinator) World.initial events) := by
  have h := woven_mapped_run coordinator events
  generalize runFrom (World.step coordinator) World.initial events = w at h
  refine ⟨fun _ _ _ _ => h.2.apart, fun _ _ _ _ => h.2.order,
    fun event i c hc => turn_step h.1 event hc, ?_, ?_⟩
  · intro key
    constructor
    · intro hsome
      obtain ⟨tail, htail⟩ := Option.isSome_iff_exists.1 hsome
      obtain ⟨i, c, hc, hkey, -, hunfinished, -⟩ := h.2.last key tail htail
      exact ⟨i, c, hc, hkey, hunfinished⟩
    · rintro ⟨i, c, hc, hkey, hunfinished⟩
      rw [← Option.ne_none_iff_isSome]
      exact fun hnone => hunfinished (h.2.empty key hnone i c hc hkey)
  · obtain ⟨n, hn⟩ := exists_idle coordinator h
    refine ⟨n, hn, ?_⟩
    intro i c hc hfirst hwaiting
    have h' := runFrom_invariant
      (P := fun w : World K => Woven w.calls w.jobs ∧ Mapped w.tails w.calls)
      (fun _ event h => woven_mapped_step coordinator h event) h (List.replicate n .microtask)
    obtain ⟨j, d, hlt, hd, hkey, hunfinished⟩ := h'.1.waits hn hc hwaiting
    exact hunfinished (hfirst j d hlt hd hkey)

end Runs

end Doctmcp.Exclusion

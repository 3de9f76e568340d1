import Doctmcp.Exclusion.Coordinator

/-! # The chain of promises of a key

Which promise may hold which reaction (`Fabric.placed`), and what a fulfilled promise says: the tail of
a call is fulfilled once the calls of its key up to it have finished, and a call goes on once those
before it have. -/

namespace Doctmcp.Exclusion
open Doctmcp.Lib Doctmcp.Lib.Jobs
set_option autoImplicit false

variable {K : Type}

/-! ## What is awaited -/

/-- The event that call `e.1`, if its key is `e.2`, has finished. -/
def Happened (calls : List (Call K)) (e : ℕ × K) : Prop :=
  ∃ c, calls[e.1]? = some c ∧ (c.key = e.2 → c.phase.isFinished)

/-- The calls of the key before the ticket. -/
def Ticket.before (t : Ticket K) (e : ℕ × K) : Prop := e.1 < t.index ∧ e.2 = t.key

def Label.awaits : Label K → ℕ × K → Prop
  | .resolved, _ => False
  | .current t, e => e.1 = t.index ∧ e.2 = t.key
  | .tail t, e => e.1 ≤ t.index ∧ e.2 = t.key
  | .caught t, e => t.before e

def Reaction.needs : Reaction K → ℕ × K → Prop
  | .pass t _, e => t.before e
  | .adopt t, e => t.before e
  | .subscribeCurrent t, e => t.before e
  | .settleTail t, e => e.1 ≤ t.index ∧ e.2 = t.key
  | .resume t, e => t.before e

/-! ## What is where -/

/-- The call of a ticket. -/
def Ticket.At (t : Ticket K) (calls : List (Call K)) (c : Call K) : Prop :=
  calls[t.index]? = some c ∧ c.key = t.key

def LabelOk (calls : List (Call K)) (p : ℕ) : Label K → Prop
  | .resolved => True
  | .current t => ∃ c, t.At calls c ∧ c.current = p
  | .tail t => ∃ c, t.At calls c ∧ c.tail = p
  | .caught t => ∃ c, t.At calls c

/-- A reaction that waits for promise `p` settles a later one, or resumes a call. -/
def PlaceOk (calls : List (Call K)) (jobs : Jobs (Label K) (Reaction K)) (p : ℕ) :
    Reaction K → Prop
  | .pass t caught => jobs.Labelled caught (.caught t) ∧ p < caught
  | .adopt t => ∃ c, t.At calls c ∧ p < c.tail
  | .subscribeCurrent _ => False
  | .settleTail t => ∃ c, t.At calls c ∧ p = c.current
  | .resume t => ∃ c, t.At calls c

def QueueOk (calls : List (Call K)) (jobs : Jobs (Label K) (Reaction K)) : Reaction K → Prop
  | .pass t caught => jobs.Labelled caught (.caught t)
  | .adopt t => ∃ c, t.At calls c
  | .subscribeCurrent t => ∃ c, t.At calls c
  | .settleTail t => ∃ c, t.At calls c
  | .resume t => ∃ c, t.At calls c

theorem PlaceOk.queueOk {calls : List (Call K)} {jobs : Jobs (Label K) (Reaction K)} {p : ℕ}
    {r : Reaction K} (h : PlaceOk calls jobs p r) : QueueOk calls jobs r := by
  cases r with
  | pass => exact h.1
  | adopt =>
    obtain ⟨c, hc, -⟩ := h
    exact ⟨c, hc⟩
  | subscribeCurrent => exact h.elim
  | settleTail =>
    obtain ⟨c, hc, -⟩ := h
    exact ⟨c, hc⟩
  | resume => exact h

section Labels
variable {calls : List (Call K)} {jobs jobs' : Jobs (Label K) (Reaction K)}

theorem PlaceOk.labelled {p : ℕ} {r : Reaction K} (h : PlaceOk calls jobs p r)
    (hlabels : ∀ q label, jobs.Labelled q label → jobs'.Labelled q label) :
    PlaceOk calls jobs' p r := by
  cases r with
  | pass => exact ⟨hlabels _ _ h.1, h.2⟩
  | adopt => exact h
  | subscribeCurrent => exact h
  | settleTail => exact h
  | resume => exact h

theorem QueueOk.labelled {r : Reaction K} (h : QueueOk calls jobs r)
    (hlabels : ∀ q label, jobs.Labelled q label → jobs'.Labelled q label) :
    QueueOk calls jobs' r := by
  cases r with
  | pass => exact hlabels _ _ h
  | adopt => exact h
  | subscribeCurrent => exact h
  | settleTail => exact h
  | resume => exact h

end Labels

/-- The promises and reactions belong to calls, and what they await and need is in order. -/
structure Fabric (calls : List (Call K)) (jobs : Jobs (Label K) (Reaction K)) : Prop where
  labels : ∀ p label, jobs.Labelled p label → LabelOk calls p label
  placed : ∀ p r, jobs.Registered p r → PlaceOk calls jobs p r
  queued : ∀ r ∈ jobs.queue, QueueOk calls jobs r
  sound : Sound Label.awaits Reaction.needs (Happened calls) jobs

/-- Calls are added, and those that are there keep their key and their promises and stay finished. -/
def Extends (calls calls' : List (Call K)) : Prop :=
  ∀ (i : ℕ) (c : Call K), calls[i]? = some c → ∃ c' : Call K, calls'[i]? = some c' ∧ c'.key = c.key ∧
    c'.current = c.current ∧ c'.tail = c.tail ∧ (c.phase.isFinished → c'.phase.isFinished)

theorem Extends.at {calls calls' : List (Call K)} (h : Extends calls calls') {t : Ticket K}
    {c : Call K} (hc : t.At calls c) :
    ∃ c', t.At calls' c' ∧ c'.current = c.current ∧ c'.tail = c.tail := by
  obtain ⟨c', hc', hkey, hcurrent, htail, -⟩ := h t.index c hc.1
  exact ⟨c', ⟨hc', hkey.trans hc.2⟩, hcurrent, htail⟩

theorem Extends.happened {calls calls' : List (Call K)} (h : Extends calls calls') {e : ℕ × K}
    (he : Happened calls e) : Happened calls' e := by
  obtain ⟨c, hc, hfinished⟩ := he
  obtain ⟨c', hc', hkey, -, -, hkept⟩ := h e.1 c hc
  exact ⟨c', hc', fun hsame => hkept (hfinished (hkey ▸ hsame))⟩

theorem extends_append (calls : List (Call K)) (c : Call K) : Extends calls (calls ++ [c]) := by
  intro i c' hc'
  have hlt : i < calls.length := (List.getElem?_eq_some_iff.1 hc').1
  refine ⟨c', ?_, rfl, rfl, rfl, id⟩
  rw [List.getElem?_append_left hlt]
  exact hc'

section Fabric
variable {calls calls' : List (Call K)} {jobs : Jobs (Label K) (Reaction K)}

theorem Fabric.empty : Fabric ([] : List (Call K)) Jobs.empty where
  labels p label h := by
    obtain ⟨promise, hget, -⟩ := h
    cases hget
  placed p r h := by
    obtain ⟨promise, hget, -⟩ := h
    cases hget
  queued := nofun
  sound := .empty

theorem Fabric.extends (h : Fabric calls jobs) (hcalls : Extends calls calls') :
    Fabric calls' jobs where
  labels p label hlabel := by
    have hok := h.labels p label hlabel
    cases label with
    | resolved => trivial
    | current t =>
      obtain ⟨c, hc, rfl⟩ := hok
      obtain ⟨c', hc', hcurrent, -⟩ := hcalls.at hc
      exact ⟨c', hc', hcurrent⟩
    | tail t =>
      obtain ⟨c, hc, rfl⟩ := hok
      obtain ⟨c', hc', -, htail⟩ := hcalls.at hc
      exact ⟨c', hc', htail⟩
    | caught t =>
      obtain ⟨c, hc⟩ := hok
      obtain ⟨c', hc', -⟩ := hcalls.at hc
      exact ⟨c', hc'⟩
  placed p r hr := by
    have hok := h.placed p r hr
    cases r with
    | pass => exact hok
    | adopt t =>
      obtain ⟨c, hc, hp⟩ := hok
      obtain ⟨c', hc', -, htail⟩ := hcalls.at hc
      exact ⟨c', hc', htail ▸ hp⟩
    | subscribeCurrent => exact hok
    | settleTail t =>
      obtain ⟨c, hc, hp⟩ := hok
      obtain ⟨c', hc', hcurrent, -⟩ := hcalls.at hc
      exact ⟨c', hc', hp.trans hcurrent.symm⟩
    | resume t =>
      obtain ⟨c, hc⟩ := hok
      obtain ⟨c', hc', -⟩ := hcalls.at hc
      exact ⟨c', hc'⟩
  queued r hr := by
    have hok := h.queued r hr
    have hat : ∀ t : Ticket K, (∃ c, t.At calls c) → ∃ c, t.At calls' c := by
      rintro t ⟨c, hc⟩
      obtain ⟨c', hc', -⟩ := hcalls.at hc
      exact ⟨c', hc'⟩
    cases r with
    | pass => exact hok
    | adopt t => exact hat t hok
    | subscribeCurrent t => exact hat t hok
    | settleTail t => exact hat t hok
    | resume t => exact hat t hok
  sound := h.sound.mono fun _ => hcalls.happened

theorem Fabric.create (h : Fabric calls jobs) {label : Label K} {b : Bool}
    (hlabel : LabelOk calls jobs.promises.next label)
    (hb : b = true → ∀ e, label.awaits e → Happened calls e) :
    Fabric calls (jobs.create label b) where
  labels p label' hlabel' := by
    rcases labelled_create.1 hlabel' with ⟨rfl, rfl⟩ | hlabel'
    · exact hlabel
    · exact h.labels p label' hlabel'
  placed p r hr :=
    (h.placed p r (registered_create.1 hr)).labelled fun _ _ => labelled_create.2 ∘ .inr
  queued r hr := (h.queued r hr).labelled fun _ _ => labelled_create.2 ∘ .inr
  sound := h.sound.create hb

theorem Fabric.subscribe (h : Fabric calls jobs) {p : ℕ} {label : Label K} {r : Reaction K}
    (hlabel : jobs.Labelled p label) (hplace : PlaceOk calls jobs p r)
    (henough : ∀ e, r.needs e → label.awaits e ∨ Happened calls e)
    (htight : ∀ e, label.awaits e → r.needs e) : Fabric calls (jobs.subscribe p r) where
  labels q label' hlabel' := h.labels q label' (labelled_subscribe.1 hlabel')
  placed q r' hr' := by
    refine PlaceOk.labelled ?_ fun _ _ => labelled_subscribe.2
    rcases registered_subscribe hr' with hr' | ⟨rfl, rfl⟩
    · exact h.placed q r' hr'
    · exact hplace
  queued r' hr' := by
    refine QueueOk.labelled ?_ fun _ _ => labelled_subscribe.2
    rcases mem_queue_subscribe hr' with hr' | ⟨rfl, -⟩
    · exact h.queued r' hr'
    · exact hplace.queueOk
  sound := h.sound.subscribe hlabel henough htight

theorem Fabric.fulfil (h : Fabric calls jobs) {p : ℕ} {label : Label K}
    (hlabel : jobs.Labelled p label) (hhappened : ∀ e, label.awaits e → Happened calls e) :
    Fabric calls (jobs.fulfil p) where
  labels q label' hlabel' := h.labels q label' (labelled_fulfil.1 hlabel')
  placed q r hr :=
    (h.placed q r (registered_fulfil hr).1).labelled fun _ _ => labelled_fulfil.2
  queued r hr := by
    refine QueueOk.labelled ?_ fun _ _ => labelled_fulfil.2
    rcases mem_queue_fulfil hr with hr | hr
    · exact h.queued r hr
    · exact (h.placed p r hr).queueOk
  sound := h.sound.fulfil hlabel hhappened

theorem Fabric.enqueue (h : Fabric calls jobs) {r : Reaction K} (hok : QueueOk calls jobs r)
    (hneeds : ∀ e, r.needs e → Happened calls e) : Fabric calls (jobs.enqueue r) where
  labels := h.labels
  placed := h.placed
  queued r' hr' := by
    rcases List.mem_append.1 hr' with hr' | hr'
    · exact h.queued r' hr'
    · rw [List.mem_singleton.1 hr']
      exact hok
  sound := h.sound.enqueue hneeds

theorem Fabric.rest (h : Fabric calls jobs) : Fabric calls jobs.rest where
  labels := h.labels
  placed := h.placed
  queued r hr := h.queued r (List.mem_of_mem_tail hr)
  sound := h.sound.rest

end Fabric

/-! ## What a call adds -/

/-- Promises and reactions are added, and the promises that are there stay as they are. -/
structure Grows (jobs jobs' : Jobs (Label K) (Reaction K)) : Prop where
  labels : ∀ p label, jobs.Labelled p label → jobs'.Labelled p label
  settled : ∀ p label, jobs.Labelled p label → (jobs'.Settled p ↔ jobs.Settled p)
  total : ∀ w, total w jobs ≤ total w jobs'

theorem Grows.refl (jobs : Jobs (Label K) (Reaction K)) : Grows jobs jobs :=
  ⟨fun _ _ => id, fun _ _ _ => Iff.rfl, fun _ => Nat.le_refl _⟩

theorem Grows.trans {jobs jobs' jobs'' : Jobs (Label K) (Reaction K)} (h : Grows jobs jobs')
    (h' : Grows jobs' jobs'') : Grows jobs jobs'' where
  labels p label hlabel := h'.labels p label (h.labels p label hlabel)
  settled p label hlabel :=
    (h'.settled p label (h.labels p label hlabel)).trans (h.settled p label hlabel)
  total w := Nat.le_trans (h.total w) (h'.total w)

section Grows
variable {calls : List (Call K)} {jobs jobs' : Jobs (Label K) (Reaction K)}

theorem grows_create (jobs : Jobs (Label K) (Reaction K)) (label : Label K) (b : Bool) :
    Grows jobs (jobs.create label b) where
  labels _ _ := labelled_create.2 ∘ .inr
  settled p label' hlabel := by
    constructor
    · intro hsettled
      rcases settled_create.1 hsettled with ⟨rfl, -⟩ | hsettled
      · exact absurd hlabel.lt (Nat.lt_irrefl _)
      · exact hsettled
    · exact settled_create.2 ∘ .inr
  total _ := Nat.le_of_eq (total_create b).symm

theorem grows_subscribe {p : ℕ} {label : Label K} (hp : jobs.Labelled p label) (r : Reaction K) :
    Grows jobs (jobs.subscribe p r) where
  labels _ _ := labelled_subscribe.2
  settled _ _ _ := settled_subscribe
  total w := by
    rw [total_subscribe hp]
    exact Nat.le_add_right _ _

/-- The promise awaits the calls before the ticket, as far as they have not finished. -/
def Ready (calls : List (Call K)) (t : Ticket K) (jobs : Jobs (Label K) (Reaction K)) (p : ℕ) :
    Prop :=
  ∃ label, jobs.Labelled p label ∧ (∀ e, label.awaits e → t.before e) ∧
    ∀ e, t.before e → label.awaits e ∨ Happened calls e

theorem Ready.grows {t : Ticket K} {p : ℕ} (h : Ready calls t jobs p) (hgrows : Grows jobs jobs') :
    Ready calls t jobs' p := by
  obtain ⟨label, hlabel, hrest⟩ := h
  exact ⟨label, hgrows.labels p label hlabel, hrest⟩

def isPass (p : ℕ) : Reaction K → ℕ
  | .pass _ caught => if caught = p then 1 else 0
  | _ => 0

def isLink (i : ℕ) : Reaction K → ℕ
  | .adopt t => if t.index = i then 1 else 0
  | .subscribeCurrent t => if t.index = i then 1 else 0
  | .settleTail t => if t.index = i then 1 else 0
  | _ => 0

def isResume (i : ℕ) : Reaction K → ℕ
  | .resume t => if t.index = i then 1 else 0
  | _ => 0

theorem isPass_pos {p : ℕ} {r : Reaction K} (h : 0 < isPass p r) : ∃ t, r = .pass t p := by
  cases r with
  | pass t q =>
    have h : 0 < if q = p then 1 else 0 := h
    split at h
    · next hsame => exact ⟨t, hsame ▸ rfl⟩
    · exact absurd h (Nat.lt_irrefl 0)
  | _ => exact absurd h (Nat.lt_irrefl 0)

theorem isLink_pos {i : ℕ} {r : Reaction K} (h : 0 < isLink i r) :
    ∃ t : Ticket K, t.index = i ∧ (r = .adopt t ∨ r = .subscribeCurrent t ∨ r = .settleTail t) := by
  have hindex : ∀ t : Ticket K, 0 < (if t.index = i then 1 else 0) → t.index = i := by
    intro t ht
    split at ht
    · next hsame => exact hsame
    · exact absurd ht (Nat.lt_irrefl 0)
  cases r with
  | adopt t => exact ⟨t, hindex t h, .inl rfl⟩
  | subscribeCurrent t => exact ⟨t, hindex t h, .inr (.inl rfl)⟩
  | settleTail t => exact ⟨t, hindex t h, .inr (.inr rfl)⟩
  | _ => exact absurd h (Nat.lt_irrefl 0)

theorem isResume_pos {i : ℕ} {r : Reaction K} (h : 0 < isResume i r) :
    ∃ t : Ticket K, t.index = i ∧ r = .resume t := by
  cases r with
  | resume t =>
    have h : 0 < if t.index = i then 1 else 0 := h
    split at h
    · next hsame => exact ⟨t, hsame, rfl⟩
    · exact absurd h (Nat.lt_irrefl 0)
  | _ => exact absurd h (Nat.lt_irrefl 0)

/-- A promise of `catch` is fulfilled, or its reaction is on the way. -/
def Passes (jobs : Jobs (Label K) (Reaction K)) : Prop :=
  ∀ p t, jobs.Labelled p (.caught t) → jobs.Settled p ∨ 0 < total (isPass p) jobs

theorem Passes.create (h : Passes jobs) {label : Label K} (b : Bool)
    (hlabel : ∀ t, label ≠ .caught t) : Passes (jobs.create label b) := by
  intro p t hp
  have hgrows := grows_create jobs label b
  rcases labelled_create.1 hp with ⟨-, hsame⟩ | hp
  · exact absurd hsame (hlabel t)
  · exact (h p t hp).imp (hgrows.settled p _ hp).2 fun hpos =>
      Nat.lt_of_lt_of_le hpos (hgrows.total _)

theorem Passes.subscribe (h : Passes jobs) {p : ℕ} {label : Label K} (hp : jobs.Labelled p label)
    (r : Reaction K) : Passes (jobs.subscribe p r) := by
  intro q t hq
  have hgrows := grows_subscribe hp r
  have hq := labelled_subscribe.1 hq
  exact (h q t hq).imp (hgrows.settled q _ hq).2 fun hpos =>
      Nat.lt_of_lt_of_le hpos (hgrows.total _)

variable {coordinator : Coordinator} {t : Ticket K} {previous : ℕ}

/-- What `handled` leaves: a promise for the reactions of the call. -/
structure Handled (calls : List (Call K)) (t : Ticket K) (jobs : Jobs (Label K) (Reaction K))
    (out : ℕ × Jobs (Label K) (Reaction K)) : Prop where
  fabric : Fabric calls out.2
  passes : Passes out.2
  ready : Ready calls t out.2 out.1
  grows : Grows jobs out.2
  total : ∀ w : Reaction K → ℕ, (∀ p, w (.pass t p) = 0) → Jobs.total w out.2 = Jobs.total w jobs
  resolved : ∀ p, out.2.Labelled p .resolved → jobs.Labelled p .resolved

theorem labelled_create_ne {p : ℕ} {label label' : Label K} {b : Bool} (hne : label ≠ label')
    (h : (jobs.create label b).Labelled p label') : jobs.Labelled p label' :=
  (labelled_create.1 h).resolve_left fun hsame => hne hsame.2

theorem handled_handled (h : Fabric calls jobs) (hpasses : Passes jobs) {c : Call K}
    (hc : t.At calls c) (hready : Ready calls t jobs previous) :
    Handled calls t jobs (World.handled coordinator t previous jobs) := by
  cases coordinator with
  | InMemoryDeviceCredentialLifecycleCoordinator =>
    exact ⟨h, hpasses, hready, .refl jobs, fun _ _ => rfl, fun _ => id⟩
  | OwnerPairingGate =>
    obtain ⟨label, hlabel, htight, henough⟩ := hready
    have hgrows := grows_create jobs (.caught t) false
    have hlabel' := hgrows.labels previous label hlabel
    have hcaught : (jobs.create (.caught t) false).Labelled jobs.promises.next (.caught t) :=
      labelled_create.2 (.inl ⟨rfl, rfl⟩)
    have hcreated : Fabric calls (jobs.create (.caught t) false) :=
      h.create ⟨c, hc⟩ nofun
    refine ⟨?_, ?_, ?_, ?_, ?_, ?_⟩
    · exact hcreated.subscribe hlabel' ⟨hcaught, hlabel.lt⟩ henough htight
    · intro p t' hp
      have hsubscribe := grows_subscribe hlabel' (.pass t jobs.promises.next)
      rcases labelled_create.1 (labelled_subscribe.1 hp) with ⟨rfl, -⟩ | hp
      · right
        have htotal := total_subscribe (w := isPass jobs.promises.next)
          (r := .pass t jobs.promises.next) hlabel'
        have hone : isPass jobs.promises.next (.pass t jobs.promises.next) = 1 := if_pos rfl
        rw [hone] at htotal
        exact htotal ▸ Nat.succ_pos _
      · exact (hpasses p t' hp).imp ((hgrows.trans hsubscribe).settled p _ hp).2
          fun hpos => Nat.lt_of_lt_of_le hpos ((hgrows.trans hsubscribe).total _)
    · exact ⟨.caught t, labelled_subscribe.2 hcaught, fun _ => id, fun _ => .inl⟩
    · exact hgrows.trans (grows_subscribe hlabel' _)
    · intro w hw
      show Jobs.total w ((jobs.create (.caught t) false).subscribe previous _) = _
      rw [total_subscribe hlabel', total_create, hw]
      rfl
    · intro p hp
      have hcreate : (jobs.create (.caught t) false).Labelled p .resolved :=
        labelled_subscribe.1 hp
      exact labelled_create_ne (by nofun) hcreate

end Grows

end Doctmcp.Exclusion

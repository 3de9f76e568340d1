import Doctmcp.Lib.OrderedMap
import Doctmcp.Lib.Promises
import Doctmcp.Lib.Runs

/-! # The coordinators of exclusive operations

`InMemoryDeviceCredentialLifecycleCoordinator.runExclusive` of `device-credential-lifecycle.ts` and
`OwnerPairingGate.run` of `public-mcp-endpoint.ts` chain the calls of a key by promises: each call
leaves in `#tails` a promise that is fulfilled after the call before it and its own release. The
second handles a rejection of the previous promise, which adds a promise in between. The steps are
those of the job queue, one reaction at a time; an operation suspends for as long as it likes. -/

namespace Doctmcp.Exclusion
open Doctmcp.Lib
set_option autoImplicit false

inductive Coordinator
  | InMemoryDeviceCredentialLifecycleCoordinator
  | OwnerPairingGate
  deriving DecidableEq

/-- A call and the key that its function holds. -/
structure Ticket (K : Type) where
  index : ℕ
  key : K
  deriving DecidableEq

/-- What a promise was made for. -/
inductive Label (K : Type)
  /-- `Promise.resolve()`. -/
  | resolved
  | current (t : Ticket K)
  | tail (t : Ticket K)
  /-- `previous.catch(() => undefined)`. -/
  | caught (t : Ticket K)

inductive Reaction (K : Type)
  /-- A fulfilment goes through `catch` to the promise that it returned. -/
  | pass (t : Ticket K) (caught : ℕ)
  /-- `() => current`, the reaction of `then`. -/
  | adopt (t : Ticket K)
  /-- The tail was resolved with the promise `current`: the job that subscribes to it. -/
  | subscribeCurrent (t : Ticket K)
  /-- `current` is fulfilled and so is the tail. -/
  | settleTail (t : Ticket K)
  /-- The function goes on after `await previous`. -/
  | resume (t : Ticket K)

inductive Phase
  | waiting
  | running
  /-- The operation has returned (`true`) or thrown. -/
  | finished (returned : Bool)
  deriving DecidableEq

def Phase.isFinished : Phase → Prop
  | .finished _ => True
  | _ => False

instance (phase : Phase) : Decidable phase.isFinished :=
  match phase with
  | .waiting => .isFalse id
  | .running => .isFalse id
  | .finished _ => .isTrue trivial

structure Call (K : Type) where
  key : K
  current : ℕ
  tail : ℕ
  phase : Phase

structure World (K : Type) where
  jobs : Jobs (Label K) (Reaction K)
  tails : OrderedMap K ℕ
  calls : List (Call K)

namespace World
variable {K : Type}

def initial : World K := ⟨.empty, .empty, []⟩

/-- `previous.catch(() => undefined)` of the gate, `previous` itself of the other. -/
def handled (coordinator : Coordinator) (t : Ticket K) (previous : ℕ)
    (jobs : Jobs (Label K) (Reaction K)) : ℕ × Jobs (Label K) (Reaction K) :=
  match coordinator with
  | .InMemoryDeviceCredentialLifecycleCoordinator => (previous, jobs)
  | .OwnerPairingGate =>
    (jobs.promises.next,
      (jobs.create (.caught t) false).subscribe previous (.pass t jobs.promises.next))

section Steps
variable [DecidableEq K]

/-- `this.#tails.get(key) ?? Promise.resolve()`. -/
def previous (w : World K) (key : K) : ℕ × Jobs (Label K) (Reaction K) :=
  match w.tails.get? key with
  | some tail => (tail, w.jobs)
  | none => (w.jobs.promises.next, w.jobs.create .resolved true)

/-- A call up to its first `await`. -/
def call (coordinator : Coordinator) (w : World K) (key : K) : World K :=
  let t : Ticket K := ⟨w.calls.length, key⟩
  let (previous, jobs) := w.previous key
  let current := jobs.promises.next
  let jobs := jobs.create (.current t) false
  let (caught, jobs) := handled coordinator t previous jobs
  let tail := jobs.promises.next
  let jobs := (jobs.create (.tail t) false).subscribe caught (.adopt t)
  let (awaited, jobs) := handled coordinator t previous jobs
  { jobs := jobs.subscribe awaited (.resume t)
    tails := w.tails.set key tail
    calls := w.calls ++ [⟨key, current, tail, .waiting⟩] }

def setPhase (w : World K) (i : ℕ) (phase : Phase) : World K :=
  { w with calls := w.calls.modify i fun c => { c with phase := phase } }

def perform (w : World K) : Reaction K → World K
  | .pass _ caught => { w with jobs := w.jobs.fulfil caught }
  | .adopt t => { w with jobs := w.jobs.enqueue (.subscribeCurrent t) }
  | .subscribeCurrent t =>
    match w.calls[t.index]? with
    | none => w
    | some c => { w with jobs := w.jobs.subscribe c.current (.settleTail t) }
  | .settleTail t =>
    match w.calls[t.index]? with
    | none => w
    | some c => { w with jobs := w.jobs.fulfil c.tail }
  | .resume t => w.setPhase t.index .running

/-- The next job of the queue. -/
def microtask (w : World K) : World K :=
  match w.jobs.queue with
  | [] => w
  | r :: _ => perform { w with jobs := w.jobs.rest } r

/-- The `finally` block, once the operation of a call has returned or thrown. -/
def finish (w : World K) (i : ℕ) (returned : Bool) : World K :=
  match w.calls[i]? with
  | none => w
  | some c =>
    if c.phase = .running then
      { jobs := w.jobs.fulfil c.current
        tails := if w.tails.get? c.key = some c.tail then w.tails.delete c.key else w.tails
        calls := (w.setPhase i (.finished returned)).calls }
    else w

inductive Event (K : Type)
  | call (key : K)
  | microtask
  | finish (i : ℕ) (returned : Bool)

def step (coordinator : Coordinator) (w : World K) : Event K → World K
  | .call key => w.call coordinator key
  | .microtask => w.microtask
  | .finish i returned => w.finish i returned

/-- A call is appended and leaves its tail in the map. -/
theorem call_eq (coordinator : Coordinator) (w : World K) (key : K) : ∃ current tail,
    (w.call coordinator key).calls = w.calls ++ [⟨key, current, tail, .waiting⟩] ∧
    (w.call coordinator key).tails = w.tails.set key tail := ⟨_, _, rfl, rfl⟩

end Steps

theorem microtask_nil {w : World K} (h : w.jobs.queue = []) : w.microtask = w := by
  rw [microtask, h]

theorem microtask_cons {w : World K} {r : Reaction K} {queue : List (Reaction K)}
    (h : w.jobs.queue = r :: queue) : w.microtask = perform { w with jobs := w.jobs.rest } r := by
  rw [microtask, h]

theorem perform_subscribeCurrent {w : World K} {t : Ticket K} {c : Call K}
    (h : w.calls[t.index]? = some c) : w.perform (.subscribeCurrent t) =
      { w with jobs := w.jobs.subscribe c.current (.settleTail t) } := by
  rw [perform, h]

theorem perform_settleTail {w : World K} {t : Ticket K} {c : Call K}
    (h : w.calls[t.index]? = some c) :
    w.perform (.settleTail t) = { w with jobs := w.jobs.fulfil c.tail } := by
  rw [perform, h]

theorem perform_tails (w : World K) (r : Reaction K) : (w.perform r).tails = w.tails := by
  cases r with
  | pass => rfl
  | adopt => rfl
  | subscribeCurrent => rw [perform]; split <;> rfl
  | settleTail => rw [perform]; split <;> rfl
  | resume => rfl

theorem microtask_tails (w : World K) : w.microtask.tails = w.tails := by
  cases hqueue : w.jobs.queue with
  | nil => rw [microtask_nil hqueue]
  | cons r queue => rw [microtask_cons hqueue, perform_tails]

end World

end Doctmcp.Exclusion

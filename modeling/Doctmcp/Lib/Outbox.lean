import Mathlib.Algebra.Order.Ring.Int
import Mathlib.Algebra.Order.BigOperators.Group.List

/-! # Queues of accepted messages

A sender accepts messages, hands them over one at a time from the front of a queue, and settles a
promise for each. The message in flight stays at the front of the queue until the outcome is known,
unless the queue is emptied before that. `Valid` says that the messages are handed over in the order
in which they were accepted and at most once, that the byte count is exact, and that a promise is
open only while its message is queued. -/

namespace Doctmcp.Lib
set_option autoImplicit false

/-- An accepted message; the id is its number in the order of acceptance. -/
structure QueuedMessage (M : Type) where
  id : ℕ
  message : M
  bytes : ℕ

/-- The queue of a sender, with what it has done so far: the ids handed over, newest first, and how
the promises were settled. -/
structure Outbox (M R : Type) where
  accepted : ℕ
  queue : List (QueuedMessage M)
  queuedBytes : ℤ
  handed : List ℕ
  settled : List (ℕ × R)

namespace Outbox
variable {M R : Type}

def empty : Outbox M R := ⟨0, [], 0, [], []⟩

/-- Settling a promise again does nothing. -/
def settle (o : Outbox M R) (id : ℕ) (result : R) : Outbox M R :=
  if id ∈ o.settled.map Prod.fst then o else { o with settled := (id, result) :: o.settled }

def push (o : Outbox M R) (message : M) (bytes : ℕ) : Outbox M R :=
  { o with
    accepted := o.accepted + 1
    queue := o.queue ++ [⟨o.accepted, message, bytes⟩]
    queuedBytes := o.queuedBytes + bytes }

def hand (o : Outbox M R) (item : QueuedMessage M) : Outbox M R :=
  { o with handed := item.id :: o.handed }

/-- `if (queue[0] === item) { queue.shift(); queuedBytes -= item.bytes; }` -/
def shiftIf (o : Outbox M R) (item : QueuedMessage M) : Outbox M R :=
  if o.queue.head?.map (·.id) = some item.id then
    { o with queue := o.queue.tail, queuedBytes := o.queuedBytes - item.bytes }
  else o

/-- The outcome of the message in flight. -/
def land (o : Outbox M R) (item : QueuedMessage M) (result : R) : Outbox M R :=
  (o.shiftIf item).settle item.id result

/-- `queue.splice(0)`, and the promises of all of it settled. -/
def rejectAll (o : Outbox M R) (result : R) : Outbox M R :=
  o.queue.foldl (fun o item => o.settle item.id result) { o with queue := [], queuedBytes := 0 }

/-- The queue is within its bounds. -/
structure Within (maxMessages maxBytes : ℕ) (o : Outbox M R) : Prop where
  messages : o.queue.length ≤ maxMessages
  bytes : o.queuedBytes ≤ maxBytes

/-- The queue and its history, while the message `flying` has been handed over and its outcome is
not known. -/
structure Valid (o : Outbox M R) (flying : Option (QueuedMessage M)) : Prop where
  bytes : o.queuedBytes = ((o.queue.map (·.bytes)).sum : ℕ)
  increasing : (o.queue.map (·.id)).Pairwise (· < ·)
  numbered : ∀ item ∈ o.queue, item.id < o.accepted
  /-- Every promise that is open is that of a queued message. -/
  covered : ∀ id < o.accepted, id ∈ o.settled.map Prod.fst ∨ id ∈ o.queue.map (·.id)
  settled_once : (o.settled.map Prod.fst).Nodup
  /-- In the order of acceptance, and each at most once. -/
  in_order : o.handed.Pairwise (· > ·)
  handed_numbered : ∀ id ∈ o.handed, id < o.accepted
  /-- What is queued was not handed over yet, but for the message in flight. -/
  ahead : ∀ item ∈ o.queue, ∀ id ∈ o.handed, id < item.id ∨ flying = some item
  flying_handed : ∀ item, flying = some item → item.id ∈ o.handed

theorem valid_empty : (empty : Outbox M R).Valid none where
  bytes := rfl
  increasing := List.Pairwise.nil
  numbered _ h := by cases h
  covered _ h := absurd h (Nat.not_lt_zero _)
  settled_once := List.nodup_nil
  in_order := List.Pairwise.nil
  handed_numbered _ h := by cases h
  ahead _ h := by cases h
  flying_handed _ h := by cases h

theorem within_empty (maxMessages maxBytes : ℕ) :
    (empty : Outbox M R).Within maxMessages maxBytes :=
  ⟨Nat.zero_le _, Int.natCast_nonneg _⟩

variable {o : Outbox M R} {flying : Option (QueuedMessage M)} {maxMessages maxBytes : ℕ}

/-! ## Settling -/

@[simp] theorem settle_queue (id : ℕ) (result : R) : (o.settle id result).queue = o.queue := by
  unfold settle
  split_ifs <;> rfl

@[simp] theorem settle_accepted (id : ℕ) (result : R) :
    (o.settle id result).accepted = o.accepted := by
  unfold settle
  split_ifs <;> rfl

@[simp] theorem settle_queuedBytes (id : ℕ) (result : R) :
    (o.settle id result).queuedBytes = o.queuedBytes := by
  unfold settle
  split_ifs <;> rfl

@[simp] theorem settle_handed (id : ℕ) (result : R) : (o.settle id result).handed = o.handed := by
  unfold settle
  split_ifs <;> rfl

theorem mem_settled_settle (id j : ℕ) (result : R) :
    j ∈ (o.settle id result).settled.map Prod.fst ↔ j = id ∨ j ∈ o.settled.map Prod.fst := by
  unfold settle
  split_ifs with h
  · constructor
    · exact .inr
    · rintro (rfl | hj)
      · exact h
      · exact hj
  · rw [List.map_cons, List.mem_cons]

theorem settle_nodup (h : (o.settled.map Prod.fst).Nodup) (id : ℕ) (result : R) :
    ((o.settle id result).settled.map Prod.fst).Nodup := by
  unfold settle
  split_ifs with hid
  · exact h
  · exact List.nodup_cons.mpr ⟨hid, h⟩

theorem Valid.settle (h : o.Valid flying) (id : ℕ) (result : R) :
    (o.settle id result).Valid flying where
  bytes := by rw [settle_queuedBytes, settle_queue, h.bytes]
  increasing := by rw [settle_queue]; exact h.increasing
  numbered := by rw [settle_queue, settle_accepted]; exact h.numbered
  covered j hj := by
    rw [settle_accepted] at hj
    rw [mem_settled_settle, settle_queue]
    exact (h.covered j hj).imp_left .inr
  settled_once := settle_nodup h.settled_once id result
  in_order := by rw [settle_handed]; exact h.in_order
  handed_numbered := by rw [settle_handed, settle_accepted]; exact h.handed_numbered
  ahead := by rw [settle_queue, settle_handed]; exact h.ahead
  flying_handed := by rw [settle_handed]; exact h.flying_handed

/-! ## Accepting and handing over -/

theorem Valid.push (h : o.Valid flying) (message : M) (bytes : ℕ) :
    (o.push message bytes).Valid flying where
  bytes := by
    show o.queuedBytes + bytes = _
    rw [h.bytes]
    simp [Outbox.push]
  increasing := by
    show ((o.queue ++ [_]).map _).Pairwise _
    rw [List.map_append, List.pairwise_append]
    refine ⟨h.increasing, List.pairwise_singleton _ _, ?_⟩
    intro id hid last hlast
    obtain ⟨item, hitem, rfl⟩ := List.mem_map.mp hid
    obtain rfl := List.mem_singleton.mp hlast
    exact h.numbered item hitem
  numbered := by
    intro item hitem
    rcases List.mem_append.mp hitem with hold | hnew
    · exact Nat.lt_succ_of_lt (h.numbered item hold)
    · rw [List.mem_singleton.mp hnew]
      exact Nat.lt_succ_self _
  covered id hid := by
    show _ ∨ id ∈ (o.queue ++ [_]).map _
    rw [List.map_append, List.mem_append]
    rcases Nat.lt_succ_iff_lt_or_eq.mp hid with hold | rfl
    · exact (h.covered id hold).imp_right .inl
    · exact .inr (.inr List.mem_cons_self)
  settled_once := h.settled_once
  in_order := h.in_order
  handed_numbered id hid := Nat.lt_succ_of_lt (h.handed_numbered id hid)
  ahead item hitem id hid := by
    rcases List.mem_append.mp hitem with hold | hnew
    · exact h.ahead item hold id hid
    · rw [List.mem_singleton.mp hnew]
      exact .inl (h.handed_numbered id hid)
  flying_handed := h.flying_handed

/-- Only what fits is accepted. -/
theorem Within.push (h : o.queue.length < maxMessages) {bytes : ℕ}
    (hbytes : o.queuedBytes + bytes ≤ maxBytes) (message : M) :
    (o.push message bytes).Within maxMessages maxBytes := by
  refine ⟨?_, hbytes⟩
  show (o.queue ++ [_]).length ≤ maxMessages
  rw [List.length_append, List.length_singleton]
  omega

/-- The front of the queue is handed over when nothing is in flight. -/
theorem Valid.hand (h : o.Valid none) {item : QueuedMessage M} (hhead : o.queue.head? = some item) :
    (o.hand item).Valid (some item) where
  bytes := h.bytes
  increasing := h.increasing
  numbered := h.numbered
  covered := h.covered
  settled_once := h.settled_once
  in_order := by
    refine List.pairwise_cons.mpr ⟨?_, h.in_order⟩
    intro id hid
    rcases h.ahead item (List.mem_of_head? hhead) id hid with hlt | hnone
    · exact hlt
    · cases hnone
  handed_numbered id hid := by
    rcases List.mem_cons.mp hid with rfl | hold
    · exact h.numbered item (List.mem_of_head? hhead)
    · exact h.handed_numbered id hold
  ahead other hother id hid := by
    rcases List.mem_cons.mp hid with rfl | hold
    · obtain ⟨rest, hqueue⟩ := List.head?_eq_some_iff.mp hhead
      have hincreasing := h.increasing
      change other ∈ o.queue at hother
      rw [hqueue] at hother hincreasing
      rcases List.mem_cons.mp hother with rfl | hrest
      · exact .inr rfl
      · exact .inl ((List.pairwise_cons.mp hincreasing).1 _ (List.mem_map_of_mem hrest))
    · rcases h.ahead other hother id hold with hlt | hnone
      · exact .inl hlt
      · cases hnone
  flying_handed other hother := by
    rw [← Option.some.inj hother]
    exact List.mem_cons_self

/-! ## Outcomes -/

/-- The message in flight is at the front or not queued at all. -/
theorem Valid.flying_head {item head : QueuedMessage M} {rest : List (QueuedMessage M)}
    (h : o.Valid (some item)) (hqueue : o.queue = head :: rest) :
    head = item ∨ ∀ other ∈ o.queue, item.id < other.id := by
  have hhead : head ∈ o.queue := by rw [hqueue]; exact List.mem_cons_self
  rcases h.ahead head hhead item.id (h.flying_handed item rfl) with hlt | hsame
  · refine .inr ?_
    intro other hother
    have hincreasing := h.increasing
    rw [hqueue] at hother hincreasing
    rcases List.mem_cons.mp hother with rfl | hrest
    · exact hlt
    · exact hlt.trans ((List.pairwise_cons.mp hincreasing).1 _ (List.mem_map_of_mem hrest))
  · exact .inl (Option.some.inj hsame).symm

theorem Valid.land {item : QueuedMessage M} (h : o.Valid (some item)) (result : R) :
    (o.land item result).Valid none := by
  unfold Outbox.land Outbox.shiftIf
  cases hqueue : o.queue with
  | nil =>
    rw [if_neg (by simp)]
    refine { h.settle item.id result with ahead := ?_, flying_handed := ?_ }
    · rw [settle_queue, hqueue]
      intro other hother
      cases hother
    · intro other hother
      cases hother
  | cons head rest =>
    rcases h.flying_head hqueue with rfl | hahead
    · rw [if_pos (show (head :: rest).head?.map (·.id) = some head.id from rfl)]
      have hincreasing := h.increasing
      rw [hqueue, List.map_cons, List.pairwise_cons] at hincreasing
      have hrest : ∀ other ∈ rest, other ∈ o.queue := by
        rw [hqueue]
        exact fun other hother => List.mem_cons_of_mem _ hother
      refine ⟨?_, ?_, ?_, ?_, ?_, ?_, ?_, ?_, ?_⟩
      · rw [settle_queuedBytes, settle_queue]
        show o.queuedBytes - head.bytes = _
        rw [h.bytes, hqueue]
        simp
      · rw [settle_queue]
        exact hincreasing.2
      · rw [settle_queue, settle_accepted]
        exact fun other hother => h.numbered other (hrest other hother)
      · intro id hid
        rw [settle_accepted] at hid
        rw [mem_settled_settle, settle_queue]
        rcases h.covered id hid with hsettled | hqueued
        · exact .inl (.inr hsettled)
        · rw [hqueue, List.map_cons, List.mem_cons] at hqueued
          exact hqueued.imp_left .inl
      · refine settle_nodup ?_ _ _
        exact h.settled_once
      · rw [settle_handed]
        exact h.in_order
      · rw [settle_handed, settle_accepted]
        exact h.handed_numbered
      · rw [settle_queue, settle_handed]
        intro other hother id hid
        refine .inl ((h.ahead other (hrest other hother) id hid).resolve_right ?_)
        intro hsame
        have hlt := hincreasing.1 other.id (List.mem_map_of_mem hother)
        rw [Option.some.inj hsame] at hlt
        exact absurd hlt (Nat.lt_irrefl _)
      · intro other hother
        cases hother
    · have hne : ¬ (head :: rest).head?.map (·.id) = some item.id := by
        intro hsame
        have hlt := hahead head (by rw [hqueue]; exact List.mem_cons_self)
        rw [List.head?_cons, Option.map_some, Option.some.injEq] at hsame
        omega
      rw [if_neg hne]
      refine { h.settle item.id result with ahead := ?_, flying_handed := ?_ }
      · rw [settle_queue, settle_handed]
        intro other hother id hid
        refine .inl ((h.ahead other hother id hid).resolve_right ?_)
        intro hsame
        have hlt := hahead other hother
        rw [Option.some.inj hsame] at hlt
        exact absurd hlt (Nat.lt_irrefl _)
      · intro other hother
        cases hother

theorem shiftIf_queue_sublist (item : QueuedMessage M) :
    List.Sublist (o.shiftIf item).queue o.queue := by
  unfold shiftIf
  split_ifs
  · exact List.tail_sublist _
  · exact List.Sublist.refl _

theorem land_queue_sublist (item : QueuedMessage M) (result : R) :
    List.Sublist (o.land item result).queue o.queue := by
  rw [land, settle_queue]
  exact shiftIf_queue_sublist item

theorem Within.land {item : QueuedMessage M} (h : o.Within maxMessages maxBytes) (result : R) :
    (o.land item result).Within maxMessages maxBytes := by
  refine ⟨(land_queue_sublist item result).length_le.trans h.messages, ?_⟩
  rw [Outbox.land, settle_queuedBytes]
  unfold shiftIf
  split_ifs
  · exact (Int.sub_le_self _ (Int.natCast_nonneg _)).trans h.bytes
  · exact h.bytes

theorem land_hand_queue {item : QueuedMessage M} {rest : List (QueuedMessage M)}
    (hqueue : o.queue = item :: rest) (result : R) :
    ((o.hand item).land item result).queue = rest := by
  have hhanded : (o.hand item).queue = item :: rest := hqueue
  rw [land, settle_queue]
  unfold shiftIf
  rw [if_pos (by rw [hhanded]; rfl)]
  show (o.hand item).queue.tail = rest
  rw [hhanded]
  rfl

/-! ## Emptying the queue -/

theorem foldl_settle (items : List (QueuedMessage M)) (result : R)
    (h : (o.settled.map Prod.fst).Nodup) :
    let o' := items.foldl (fun o item => o.settle item.id result) o
    o'.queue = o.queue ∧ o'.queuedBytes = o.queuedBytes ∧ o'.accepted = o.accepted ∧
      o'.handed = o.handed ∧ (o'.settled.map Prod.fst).Nodup ∧
      ∀ id, id ∈ o'.settled.map Prod.fst ↔
        id ∈ o.settled.map Prod.fst ∨ id ∈ items.map (·.id) := by
  induction items generalizing o with
  | nil => exact ⟨rfl, rfl, rfl, rfl, h, fun id => by simp⟩
  | cons item items ih =>
    obtain ⟨hqueue, hbytes, haccepted, hhanded, hnodup, hsettled⟩ :=
      ih (settle_nodup h item.id result)
    refine ⟨hqueue.trans (settle_queue _ _), hbytes.trans (settle_queuedBytes _ _),
      haccepted.trans (settle_accepted _ _), hhanded.trans (settle_handed _ _), hnodup, ?_⟩
    intro id
    rw [List.foldl_cons, hsettled, mem_settled_settle, List.map_cons, List.mem_cons]
    tauto

theorem Valid.rejectAll_queue (h : o.Valid flying) (result : R) :
    (o.rejectAll result).queue = [] :=
  (foldl_settle (o := { o with queue := [], queuedBytes := 0 }) o.queue result h.settled_once).1

theorem Valid.rejectAll (h : o.Valid flying) (result : R) :
    (o.rejectAll result).Valid flying := by
  obtain ⟨hqueue, hbytes, haccepted, hhanded, hnodup, hsettled⟩ :=
    foldl_settle (o := { o with queue := [], queuedBytes := 0 }) o.queue result h.settled_once
  change (o.rejectAll result).queue = [] at hqueue
  change (o.rejectAll result).queuedBytes = 0 at hbytes
  change (o.rejectAll result).accepted = o.accepted at haccepted
  change (o.rejectAll result).handed = o.handed at hhanded
  refine ⟨?_, ?_, ?_, ?_, hnodup, ?_, ?_, ?_, ?_⟩
  · rw [hbytes, hqueue]
    rfl
  · rw [hqueue]
    exact List.Pairwise.nil
  · rw [hqueue]
    intro item hitem
    cases hitem
  · rw [haccepted]
    intro id hid
    exact .inl ((hsettled id).mpr (h.covered id hid))
  · rw [hhanded]
    exact h.in_order
  · rw [hhanded, haccepted]
    exact h.handed_numbered
  · rw [hqueue]
    intro item hitem
    cases hitem
  · rw [hhanded]
    exact h.flying_handed

theorem Valid.rejectAll_within (h : o.Valid flying) (result : R) :
    (o.rejectAll result).Within maxMessages maxBytes := by
  have hbytes := (h.rejectAll result).bytes
  rw [h.rejectAll_queue] at hbytes
  refine ⟨?_, ?_⟩
  · rw [h.rejectAll_queue]
    exact Nat.zero_le _
  · rw [hbytes]
    exact Int.natCast_nonneg _

/-- Where nothing is queued, the message in flight can be forgotten. -/
theorem Valid.forget (h : o.Valid flying) (hqueue : o.queue = []) : o.Valid none where
  bytes := h.bytes
  increasing := h.increasing
  numbered := h.numbered
  covered := h.covered
  settled_once := h.settled_once
  in_order := h.in_order
  handed_numbered := h.handed_numbered
  ahead item hitem := by
    rw [hqueue] at hitem
    cases hitem
  flying_handed _ h := by cases h

/-- Where nothing is queued, every promise is settled. -/
theorem Valid.all_settled (h : o.Valid flying) (hqueue : o.queue = []) {id : ℕ}
    (hid : id < o.accepted) : id ∈ o.settled.map Prod.fst := by
  rcases h.covered id hid with hsettled | hqueued
  · exact hsettled
  · rw [hqueue] at hqueued
    cases hqueued

end Outbox
end Doctmcp.Lib

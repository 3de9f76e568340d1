import Doctmcp.Agent.PairingSteps

/-! # Waiting for the credential

A client that waits has something that can still happen to it. The last socket that was made is the
one that counts: it is attached, or its deferred is pending and its listeners can settle it, or its
deferred is rejected and the loop that made it has not given up (`Current`). This fails only where
`#reconnect` calls a constructor that throws. -/

namespace Doctmcp.Agent.PairingClient
open Doctmcp.Lib Doctmcp.Schemas
set_option autoImplicit false

/-- The three listeners are installed that a socket keeps after it is attached. -/
def PairingSocket.Listening (socket : PairingSocket) : Prop :=
  socket.listeners.message = true ∧ socket.listeners.error = true ∧ socket.listeners.close = true

instance (socket : PairingSocket) : Decidable socket.Listening :=
  inferInstanceAs (Decidable (_ ∧ _))

namespace LocalPairingClient

/-! ## Frames -/

section Frames
variable (c : LocalPairingClient) (s : ℕ)

@[simp] theorem dropSocket_closed : (c.dropSocket s).closed = c.closed := by
  unfold dropSocket
  split <;> rfl

@[simp] theorem dropSocket_completed : (c.dropSocket s).completed = c.completed := by
  unfold dropSocket
  split <;> rfl

@[simp] theorem dropSocket_attached : (c.dropSocket s).attached = c.attached := by
  unfold dropSocket
  split <;> rfl

@[simp] theorem dropSocket_sockets : (c.dropSocket s).sockets = c.sockets := by
  unfold dropSocket
  split <;> rfl

@[simp] theorem dropSocket_loops : (c.dropSocket s).loops = c.loops := by
  unfold dropSocket
  split <;> rfl

@[simp] theorem dropSocket_reconnectPromise :
    (c.dropSocket s).reconnectPromise = c.reconnectPromise := by
  unfold dropSocket
  split <;> rfl

@[simp] theorem dropSocket_remover :
    (c.dropSocket s).removeSocketListeners = c.removeSocketListeners := by
  unfold dropSocket
  split <;> rfl

@[simp] theorem dropAttachWaiter_sockets : (c.dropAttachWaiter s).sockets = c.sockets := by
  unfold dropAttachWaiter
  split <;> rfl

@[simp] theorem dropAttachWaiter_loops : (c.dropAttachWaiter s).loops = c.loops := by
  unfold dropAttachWaiter
  split <;> rfl

@[simp] theorem callRemover_closed : c.callRemover.closed = c.closed := by
  unfold callRemover
  cases c.removeSocketListeners <;> rfl

@[simp] theorem callRemover_completed : c.callRemover.completed = c.completed := by
  unfold callRemover
  cases c.removeSocketListeners <;> rfl

@[simp] theorem callRemover_reconnectPromise :
    c.callRemover.reconnectPromise = c.reconnectPromise := by
  unfold callRemover
  cases c.removeSocketListeners <;> rfl

end Frames

/-! ## The invariant -/

/-- The client is neither closed nor completed, and its promise has not settled. -/
def Waits (c : LocalPairingClient) : Prop :=
  c.closed = false ∧ c.completed = false ∧ c.credential = none

/-- What is the case with the last socket. -/
inductive Current (c : LocalPairingClient) (last : ℕ) (socket : PairingSocket) : Prop
  | attached (hattached : socket.attached = some (.ok ())) (hsocket : c.socket = some last)
      (hlistening : socket.Listening) (h : c.attached = true)
  | pending (hattached : socket.attached = none) (hsocket : c.socket = some last)
      (hlistening : socket.Listening)
      (h : last = 0 ∨ ∃ i loop, c.loops.get? i = some loop ∧ loop.phase = .attaching last)
  | rejected (error : LocalPairingClientErrorCode) (hattached : socket.attached = some (.error error))
      (h : last = 0 ∨ ∃ i loop, c.loops.get? i = some loop ∧
        (loop.phase = .attaching last ∨ loop.phase = .delaying))

/-- What a socket that `#reconnect` makes relies on. -/
structure Grounded (c : LocalPairingClient) : Prop where
  waiter : c.credentialWaiter = true
  session : c.sessionId ≠ none
  proof : c.proof ≠ ""
  url : c.socketUrl ≠ none
  some_socket : 0 < c.sockets.next
  owner : ∀ s socket, c.sockets.get? s = some socket → (socket.owner.isStart = true ↔ s = 0)
  starting : c.starting = .attaching 0 ∨ ∃ result, c.starting = .finished result

/-- The socket that `#start` made has no listener for its end. -/
def Released (c : LocalPairingClient) : Prop :=
  ∀ socket, c.sockets.get? 0 = some socket →
    socket.listeners.error = false ∧ socket.listeners.close = false

/-- What holds while the client waits, from its first socket on. -/
structure Tracking (c : LocalPairingClient) : Prop where
  grounded : c.Grounded
  /-- Before the first reconnect the socket of `#start` can be released. -/
  first : c.sockets.next = 1 → c.loops = .empty ∧ c.reconnectPromise = none ∧
    ∃ remover, c.removeSocketListeners = some remover ∧ remover.socket = 0
  later : 1 < c.sockets.next → c.Released
  current : ∃ last socket, c.sockets.next = last + 1 ∧ c.sockets.get? last = some socket ∧
    c.Current last socket

section Tracking
variable {c c' : LocalPairingClient} {s i : ℕ}

/-! ### Changes that do not matter -/

/-- The state differs in nothing that `Grounded` speaks of, and has no new listeners. -/
structure Alike (c c' : LocalPairingClient) : Prop where
  waiter : c'.credentialWaiter = c.credentialWaiter
  session : c'.sessionId = c.sessionId
  proof : c'.proof = c.proof
  url : c'.socketUrl = c.socketUrl
  starting : c'.starting = c.starting
  next : c'.sockets.next = c.sockets.next
  sockets : ∀ s socket', c'.sockets.get? s = some socket' →
    ∃ socket, c.sockets.get? s = some socket ∧ socket'.owner = socket.owner ∧
      (socket'.listeners.error = true → socket.listeners.error = true) ∧
      (socket'.listeners.close = true → socket.listeners.close = true)

theorem Alike.trans {c'' : LocalPairingClient} (h : Alike c c') (h' : Alike c' c'') :
    Alike c c'' where
  waiter := h'.waiter.trans h.waiter
  session := h'.session.trans h.session
  proof := h'.proof.trans h.proof
  url := h'.url.trans h.url
  starting := h'.starting.trans h.starting
  next := h'.next.trans h.next
  sockets s socket'' hsocket'' := by
    obtain ⟨socket', hsocket', howner', herror', hclose'⟩ := h'.sockets s socket'' hsocket''
    obtain ⟨socket, hsocket, howner, herror, hclose⟩ := h.sockets s socket' hsocket'
    exact ⟨socket, hsocket, howner'.trans howner, herror ∘ herror', hclose ∘ hclose'⟩

/-- The sockets are the same. -/
theorem alike_of_eq (hwaiter : c'.credentialWaiter = c.credentialWaiter)
    (hsession : c'.sessionId = c.sessionId) (hproof : c'.proof = c.proof)
    (hurl : c'.socketUrl = c.socketUrl) (hstarting : c'.starting = c.starting)
    (hsockets : c'.sockets = c.sockets) : Alike c c' :=
  ⟨hwaiter, hsession, hproof, hurl, hstarting, hsockets ▸ rfl,
    fun _ socket h => ⟨socket, hsockets ▸ h, rfl, id, id⟩⟩

/-- One socket is changed, and no listener is installed. -/
theorem alike_modify {f : PairingSocket → PairingSocket}
    (hwaiter : c'.credentialWaiter = c.credentialWaiter) (hsession : c'.sessionId = c.sessionId)
    (hproof : c'.proof = c.proof) (hurl : c'.socketUrl = c.socketUrl)
    (hstarting : c'.starting = c.starting) (hsockets : c'.sockets = c.sockets.modify s f)
    (hf : ∀ socket, (f socket).owner = socket.owner ∧
      ((f socket).listeners.error = true → socket.listeners.error = true) ∧
      ((f socket).listeners.close = true → socket.listeners.close = true)) : Alike c c' where
  waiter := hwaiter
  session := hsession
  proof := hproof
  url := hurl
  starting := hstarting
  next := hsockets ▸ Heap.next_modifyAll _ _ _
  sockets j socket' hsocket' := by
    rw [hsockets] at hsocket'
    obtain ⟨socket, hsocket, rfl⟩ := (Heap.get?_modify_eq_some _ _ _).mp hsocket'
    refine ⟨socket, hsocket, ?_⟩
    split
    · exact hf socket
    · exact ⟨rfl, id, id⟩

theorem alike_settleAttached (c : LocalPairingClient) (s : ℕ)
    (result : Except LocalPairingClientErrorCode Unit) : Alike c (c.settleAttached s result) :=
  alike_modify rfl rfl rfl rfl rfl rfl fun _ => ⟨rfl, id, id⟩

theorem alike_setAttached (c : LocalPairingClient) (attached : Bool) :
    Alike c (c.setAttached attached) := alike_of_eq rfl rfl rfl rfl rfl rfl

theorem alike_emit (c : LocalPairingClient) (effect : Effect) : Alike c (c.emit effect) :=
  alike_of_eq rfl rfl rfl rfl rfl rfl

theorem alike_cleanup (c : LocalPairingClient) (s : ℕ) : Alike c (c.cleanup s) :=
  alike_modify rfl rfl rfl rfl rfl rfl fun _ => ⟨rfl, (by nofun), (by nofun)⟩

theorem alike_removeOpen (c : LocalPairingClient) (s : ℕ) : Alike c (c.removeOpen s) :=
  alike_modify rfl rfl rfl rfl rfl rfl fun _ => ⟨rfl, id, id⟩

theorem alike_dropSocket (c : LocalPairingClient) (s : ℕ) : Alike c (c.dropSocket s) := by
  unfold dropSocket
  split <;> exact alike_of_eq rfl rfl rfl rfl rfl rfl

theorem alike_dropAttachWaiter (c : LocalPairingClient) (s : ℕ) :
    Alike c (c.dropAttachWaiter s) := by
  unfold dropAttachWaiter
  split <;> exact alike_of_eq rfl rfl rfl rfl rfl rfl

theorem alike_callRemover (c : LocalPairingClient) : Alike c c.callRemover := by
  unfold callRemover
  cases c.removeSocketListeners with
  | none => exact alike_of_eq rfl rfl rfl rfl rfl rfl
  | some remover =>
    exact alike_modify rfl rfl rfl rfl rfl rfl fun _ => ⟨rfl, (by nofun), (by nofun)⟩

theorem Grounded.alike (h : c.Grounded) (halike : Alike c c') : c'.Grounded where
  waiter := halike.waiter ▸ h.waiter
  session := halike.session ▸ h.session
  proof := halike.proof ▸ h.proof
  url := halike.url ▸ h.url
  some_socket := halike.next ▸ h.some_socket
  owner s socket' hsocket' := by
    obtain ⟨socket, hsocket, hsame, -⟩ := halike.sockets s socket' hsocket'
    rw [hsame]
    exact h.owner s socket hsocket
  starting := halike.starting ▸ h.starting

theorem Released.alike (h : c.Released) (halike : Alike c c') : c'.Released := by
  intro socket' hsocket'
  obtain ⟨socket, hsocket, -, herror, hclose⟩ := halike.sockets 0 socket' hsocket'
  obtain ⟨herror', hclose'⟩ := h socket hsocket
  constructor
  · rw [← Bool.not_eq_true] at herror' ⊢
    exact herror' ∘ herror
  · rw [← Bool.not_eq_true] at hclose' ⊢
    exact hclose' ∘ hclose

theorem Current.of_eq {last : ℕ} {socket : PairingSocket} (h : c.Current last socket)
    (hsocket : c'.socket = c.socket) (hattached : c'.attached = c.attached)
    (hloops : c'.loops = c.loops) : c'.Current last socket := by
  cases h with
  | attached hresult hlast hlistening h =>
    exact .attached hresult (hsocket ▸ hlast) hlistening (hattached ▸ h)
  | pending hresult hlast hlistening h =>
    exact .pending hresult (hsocket ▸ hlast) hlistening (hloops ▸ h)
  | rejected error hresult h => exact .rejected error hresult (hloops ▸ h)

theorem Tracking.alike (h : c.Tracking) (halike : Alike c c')
    (hfirst : c.sockets.next = 1 → c'.loops = .empty ∧ c'.reconnectPromise = none ∧
      ∃ remover, c'.removeSocketListeners = some remover ∧ remover.socket = 0)
    (hcurrent : ∀ last socket, c.sockets.get? last = some socket → c.Current last socket →
      ∃ socket', c'.sockets.get? last = some socket' ∧ c'.Current last socket') :
    c'.Tracking where
  grounded := h.grounded.alike halike
  first hnext := hfirst (halike.next ▸ hnext)
  later hnext := (h.later (halike.next ▸ hnext)).alike halike
  current := by
    obtain ⟨last, socket, hnext, hsocket, hlast⟩ := h.current
    obtain ⟨socket', hsocket', hlast'⟩ := hcurrent last socket hsocket hlast
    exact ⟨last, socket', halike.next ▸ hnext, hsocket', hlast'⟩

/-- A socket that `#reconnect` made is not the first one. -/
theorem Tracking.released (h : c.Tracking) {socket : PairingSocket}
    (hs : c.sockets.get? s = some socket) (howner : socket.owner = .reconnect) : c.Released := by
  apply h.later
  have hlt : s < c.sockets.next := Heap.exists_get?_iff.mp ⟨socket, hs⟩
  have hne : s ≠ 0 := by
    intro hzero
    have hstart := (h.grounded.owner s socket hs).mpr hzero
    rw [howner] at hstart
    cases hstart
  omega

theorem Tracking.of_eq (h : c.Tracking) (halike : Alike c c') (hsockets : c'.sockets = c.sockets)
    (hloops : c'.loops = c.loops) (hpromise : c'.reconnectPromise = c.reconnectPromise)
    (hremover : c'.removeSocketListeners = c.removeSocketListeners)
    (hsocket : c'.socket = c.socket) (hattached : c'.attached = c.attached) : c'.Tracking := by
  refine h.alike halike ?_ ?_
  · intro hnext
    rw [hloops, hpromise, hremover]
    exact h.first hnext
  · intro last socket hlast hcurrent
    exact ⟨socket, hsockets ▸ hlast, hcurrent.of_eq hsocket hattached hloops⟩

theorem Tracking.emit (h : c.Tracking) (effect : Effect) : (c.emit effect).Tracking :=
  h.of_eq (alike_emit c effect) rfl rfl rfl rfl rfl rfl

theorem Tracking.dropAttachWaiter (h : c.Tracking) (s : ℕ) : (c.dropAttachWaiter s).Tracking := by
  have halike := alike_dropAttachWaiter c s
  unfold LocalPairingClient.dropAttachWaiter at halike ⊢
  split
  · exact h.of_eq (alike_of_eq rfl rfl rfl rfl rfl rfl) rfl rfl rfl rfl rfl rfl
  · exact h

/-! ### The deferreds -/

theorem get?_settleAttached {result : Except LocalPairingClientErrorCode Unit} {last : ℕ}
    {socket : PairingSocket} (h : c.sockets.get? last = some socket) :
    (c.settleAttached s result).sockets.get? last =
      some (if last = s then { socket with attached := socket.attached <|> some result }
        else socket) :=
  (Heap.get?_modify_eq_some _ _ _).mpr ⟨socket, h, rfl⟩

theorem Tracking.rejectAttached (h : c.Tracking) (s : ℕ) (code : LocalPairingClientErrorCode) :
    (c.rejectAttached s code).Tracking := by
  refine h.alike (alike_settleAttached c s _) h.first ?_
  intro last socket hlast hcurrent
  refine ⟨_, get?_settleAttached hlast, ?_⟩
  split
  · cases hcurrent with
    | attached hattached hsocket hlistening h =>
      exact .attached (by rw [hattached]; rfl) hsocket hlistening h
    | pending hattached hsocket hlistening h =>
      refine .rejected code (by rw [hattached]; rfl) (h.imp_right ?_)
      rintro ⟨i, loop, hloop, hphase⟩
      exact ⟨i, loop, hloop, .inl hphase⟩
    | rejected error hattached h => exact .rejected error (by rw [hattached]; rfl) h
  · exact hcurrent.of_eq rfl rfl rfl

/-- `pairing.attached` arrives on any socket. -/
theorem Tracking.attach (h : c.Tracking) (s : ℕ) :
    ((c.setAttached true).settleAttached s (.ok ())).Tracking := by
  refine h.alike ((alike_setAttached c true).trans (alike_settleAttached _ s _)) h.first ?_
  intro last socket hlast hcurrent
  refine ⟨_, get?_settleAttached (c := c.setAttached true) hlast, ?_⟩
  cases hcurrent with
  | attached hattached hsocket hlistening h =>
    split
    · exact .attached (by rw [hattached]; rfl) hsocket hlistening rfl
    · exact .attached hattached hsocket hlistening rfl
  | pending hattached hsocket hlistening h =>
    split
    · exact .attached (by rw [hattached]; rfl) hsocket hlistening rfl
    · exact .pending hattached hsocket hlistening h
  | rejected error hattached h =>
    split
    · exact .rejected error (by rw [hattached]; rfl) h
    · exact .rejected error hattached h

theorem Tracking.removeOpen (h : c.Tracking) (s : ℕ) : (c.removeOpen s).Tracking := by
  refine h.alike (alike_removeOpen c s) h.first ?_
  intro last socket hlast hcurrent
  refine ⟨_, (Heap.get?_modify_eq_some _ _ _).mpr ⟨socket, hlast, rfl⟩, ?_⟩
  split
  · cases hcurrent with
    | attached hattached hsocket hlistening h => exact .attached hattached hsocket hlistening h
    | pending hattached hsocket hlistening h => exact .pending hattached hsocket hlistening h
    | rejected error hattached h => exact .rejected error hattached h
  · exact hcurrent.of_eq rfl rfl rfl

theorem dropSocket_eq (c : LocalPairingClient) (s : ℕ) : ∃ socket,
    c.dropSocket s = { c with socket } ∧ ∀ last, last ≠ s → c.socket = some last →
      socket = some last := by
  unfold dropSocket
  split
  · next hsame =>
    refine ⟨none, rfl, ?_⟩
    intro last hne hlast
    exact absurd (Option.some.inj (hlast.symm.trans hsame)) hne
  · exact ⟨c.socket, rfl, fun _ _ h => h⟩

/-- A socket closes that is not attached. -/
theorem Tracking.rejectDropped (h : c.Tracking) (hdetached : c.attached = false) (s : ℕ)
    (code : LocalPairingClientErrorCode) :
    ((c.dropSocket s).rejectAttached s code).Tracking := by
  have halike := alike_dropSocket c s
  obtain ⟨current, heq, hkept⟩ := dropSocket_eq c s
  rw [heq] at halike ⊢
  refine h.alike (halike.trans (alike_settleAttached _ s _)) h.first ?_
  intro last socket hlast hcurrent
  refine ⟨_, get?_settleAttached (c := { c with socket := current }) hlast, ?_⟩
  cases hcurrent with
  | attached _ _ _ hattached =>
    rw [hdetached] at hattached
    cases hattached
  | pending hattached hsocket hlistening h =>
    split
    · refine .rejected code (by rw [hattached]; rfl) (h.imp_right ?_)
      rintro ⟨i, loop, hloop, hphase⟩
      exact ⟨i, loop, hloop, .inl hphase⟩
    · next hne => exact .pending hattached (hkept last hne hsocket) hlistening h
  | rejected error hattached h =>
    split
    · exact .rejected error (by rw [hattached]; rfl) h
    · exact .rejected error hattached h

/-- The loop gives up a socket whose deferred is rejected. -/
theorem Tracking.cleanupDropped (h : c.Tracking) {rejected : PairingSocket}
    {error : LocalPairingClientErrorCode} (hs : c.sockets.get? s = some rejected)
    (herror : rejected.attached = some (.error error)) :
    ((c.cleanup s).dropSocket s).Tracking := by
  have halike := alike_dropSocket (c.cleanup s) s
  obtain ⟨current, heq, hkept⟩ := dropSocket_eq (c.cleanup s) s
  rw [heq] at halike ⊢
  refine h.alike ((alike_cleanup c s).trans halike) h.first ?_
  intro last socket hlast hcurrent
  refine ⟨_, (Heap.get?_modify_eq_some _ _ _).mpr ⟨socket, hlast, rfl⟩, ?_⟩
  by_cases hsame : last = s
  · subst hsame
    obtain rfl := Option.some.inj (hs.symm.trans hlast)
    rw [if_pos rfl]
    cases hcurrent with
    | attached hattached =>
      rw [herror] at hattached
      cases hattached
    | pending hattached =>
      rw [herror] at hattached
      cases hattached
    | rejected error hattached h => exact .rejected error hattached h
  · rw [if_neg hsame]
    cases hcurrent with
    | attached hattached hsocket hlistening h =>
      exact .attached hattached (hkept last hsame hsocket) hlistening h
    | pending hattached hsocket hlistening h =>
      exact .pending hattached (hkept last hsame hsocket) hlistening h
    | rejected error hattached h => exact .rejected error hattached h

/-! ### The loops -/

theorem Tracking.next_ne_one (h : c.Tracking) {loop : ReconnectLoop}
    (hloop : c.loops.get? i = some loop) : c.sockets.next ≠ 1 := by
  intro hnext
  rw [(h.first hnext).1] at hloop
  cases hloop

theorem Tracking.setReconnectPromise (h : c.Tracking) (hnext : c.sockets.next ≠ 1)
    (promise : Option ℕ) : (c.setReconnectPromise promise).Tracking := by
  refine h.alike (alike_of_eq rfl rfl rfl rfl rfl rfl) (fun hone => absurd hone hnext) ?_
  intro last socket hlast hcurrent
  exact ⟨socket, hlast, hcurrent.of_eq rfl rfl rfl⟩

theorem Tracking.setRemover (h : c.Tracking) (hs : c.sockets.next = 1 → s = 0) :
    (c.setRemover ⟨s, false⟩).Tracking := by
  refine h.alike (alike_of_eq rfl rfl rfl rfl rfl rfl) ?_ ?_
  · intro hnext
    exact ⟨(h.first hnext).1, (h.first hnext).2.1, _, rfl, hs hnext⟩
  · intro last socket hlast hcurrent
    exact ⟨socket, hlast, hcurrent.of_eq rfl rfl rfl⟩

/-- A loop moves on that does not keep the last socket. -/
theorem Tracking.setLoop (h : c.Tracking) {loop loop' : ReconnectLoop}
    (hloop : c.loops.get? i = some loop)
    (hfree : ∀ last socket, c.sockets.get? last = some socket →
      (loop.phase ≠ .attaching last ∧ loop.phase ≠ .delaying) ∨
      socket.attached = some (.ok ()) ∨
      loop'.phase = .delaying ∧ ∃ error, socket.attached = some (.error error)) :
    (c.setLoop i loop').Tracking := by
  refine h.alike (alike_of_eq rfl rfl rfl rfl rfl rfl)
    (fun hone => absurd hone (h.next_ne_one hloop)) ?_
  intro last socket hlast hcurrent
  refine ⟨socket, hlast, ?_⟩
  have hother : ∀ j other, j ≠ i → c.loops.get? j = some other →
      (c.setLoop i loop').loops.get? j = some other := fun j other hne hother =>
    (Heap.get?_modify_ne _ hne _).trans hother
  cases hcurrent with
  | attached hattached hsocket hlistening h => exact .attached hattached hsocket hlistening h
  | pending hattached hsocket hlistening h =>
    refine .pending hattached hsocket hlistening (h.imp_right ?_)
    rintro ⟨j, other, hj, hphase⟩
    refine ⟨j, other, hother j other ?_ hj, hphase⟩
    rintro rfl
    obtain rfl := Option.some.inj (hloop.symm.trans hj)
    rcases hfree last socket hlast with hfree | hfree | ⟨-, _, hfree⟩
    · exact hfree.1 hphase
    · rw [hattached] at hfree
      cases hfree
    · rw [hattached] at hfree
      cases hfree
  | rejected error hattached h =>
    rcases hfree last socket hlast with hfree | hfree | ⟨hdelaying, -⟩
    · refine .rejected error hattached (h.imp_right ?_)
      rintro ⟨j, other, hj, hphase⟩
      refine ⟨j, other, hother j other ?_ hj, hphase⟩
      rintro rfl
      obtain rfl := Option.some.inj (hloop.symm.trans hj)
      exact hphase.elim hfree.1 hfree.2
    · rw [hattached] at hfree
      cases hfree
    · refine .rejected error hattached (.inr ⟨i, loop', ?_, .inr hdelaying⟩)
      show (c.loops.modify i fun _ => loop').get? i = some loop'
      rw [Heap.get?_modify_self, hloop]
      rfl

/-! ### Making a socket -/

theorem tracking_openSocket (h : c.Grounded) (hreleased : c.Released) {loop : ReconnectLoop}
    (hloop : c.loops.get? i = some loop) (attempt : ℕ) (code : LocalPairingClientErrorCode) :
    (c.openSocket i attempt code true).Tracking ∧
      (c.openSocket i attempt code true).sockets.next ≠ 1 := by
  have hsome := h.some_socket
  unfold openSocket
  split
  · next hnone => exact absurd hnone h.url
  · next url _ =>
    rw [if_pos rfl]
    have hnext : (((c.newSocket url .reconnect).setAttached false).setLoop i
        ⟨attempt, code, .attaching c.sockets.next⟩).sockets.next = c.sockets.next + 1 :=
      Heap.next_alloc _ _
    refine ⟨⟨⟨h.waiter, h.session, h.proof, h.url, ?_, ?_, h.starting⟩, ?_, ?_, ?_⟩, ?_⟩
    · omega
    · intro s socket hsocket
      rcases (Heap.get?_alloc_eq_some _ _).mp hsocket with ⟨rfl, rfl⟩ | hsocket
      · simp [Owner.isStart]
        omega
      · exact h.owner s socket hsocket
    · omega
    · intro _ socket hsocket
      rcases (Heap.get?_alloc_eq_some _ _).mp hsocket with ⟨hzero, -⟩ | hsocket
      · exact absurd hzero (Nat.ne_of_lt hsome)
      · exact hreleased socket hsocket
    · refine ⟨c.sockets.next, ⟨.reconnect, .all, none⟩, hnext,
        (Heap.get?_alloc_eq_some _ _).mpr (.inl ⟨rfl, rfl⟩), ?_⟩
      refine .pending rfl rfl ⟨rfl, rfl, rfl⟩ (.inr ⟨i, ⟨attempt, code, .attaching c.sockets.next⟩, ?_, rfl⟩)
      show (c.loops.modify i fun _ => ⟨attempt, code, .attaching c.sockets.next⟩).get? i = some _
      rw [Heap.get?_modify_self, hloop]
      rfl
    · omega

theorem tracking_reconnect (h : c.Grounded) (hreleased : c.Released)
    (hpromise : c.reconnectPromise = none) (hclosed : c.closed = false)
    (hcompleted : c.completed = false) : (c.reconnect true).Tracking := by
  unfold reconnect
  rw [if_neg (by simp [hpromise, hclosed, hcompleted, h.session, h.proof, h.url])]
  dsimp only
  unfold nextAttempt
  rw [if_pos (by decide), if_neg (by simp [hclosed, hcompleted]), if_neg (Nat.lt_irrefl 0)]
  have halike : Alike c { c with loops := c.loops.alloc ⟨0, .PAIRING_UNAVAILABLE, .returned⟩ } :=
    alike_of_eq rfl rfl rfl rfl rfl rfl
  have hopened := tracking_openSocket (h.alike halike) (hreleased.alike halike)
    ((Heap.get?_alloc_eq_some _ _).mpr (.inl ⟨rfl, rfl⟩)) 0 .PAIRING_UNAVAILABLE
  exact hopened.1.setReconnectPromise hopened.2 _

/-- The client turns from one socket to a new one. -/
theorem tracking_retry (h : c.Grounded) (hreleased : c.Released) (hclosed : c.closed = false)
    (hcompleted : c.completed = false) (s : ℕ) :
    (((((c.setAttached false).cleanup s).dropSocket s).setReconnectPromise none).reconnect
      true).Tracking := by
  have hcleaned := (alike_setAttached c false).trans (alike_cleanup _ s)
  have hdropped := hcleaned.trans (alike_dropSocket _ s)
  have halike : Alike c ((((c.setAttached false).cleanup s).dropSocket s).setReconnectPromise none) :=
    hdropped.trans (alike_of_eq rfl rfl rfl rfl rfl rfl)
  refine tracking_reconnect (h.alike halike) (hreleased.alike halike) rfl ?_ ?_
  · exact (dropSocket_closed _ s).trans hclosed
  · exact (dropSocket_completed _ s).trans hcompleted

theorem released_callRemover {remover : Remover} (h : c.removeSocketListeners = some remover)
    (hsocket : remover.socket = 0) : c.callRemover.Released := by
  unfold callRemover
  rw [h]
  intro socket' hsocket'
  obtain ⟨socket, -, rfl⟩ := (Heap.get?_modify_eq_some _ _ _).mp hsocket'
  rw [if_pos hsocket.symm]
  exact ⟨rfl, rfl⟩

/-! ### One step -/

/-- No constructor that the step calls for `#reconnect` throws. -/
def Event.constructs : Event → Bool
  | .opened _ _ constructs | .errored _ constructs | .closed _ constructs
  | .delayed _ constructs => constructs
  | _ => true

theorem not_waits_of_settled (h : c.credential ≠ none) : ¬ c.Waits := fun hwaits => h hwaits.2.2

theorem not_waits_of_closed (h : c.closed = true) : ¬ c.Waits := by
  intro hwaits
  rw [hwaits.1] at h
  cases h

theorem Tracking.messageFailed (h : c.Tracking) {code : LocalPairingClientErrorCode}
    (hnext : (c.messageFailed s code).Waits) : (c.messageFailed s code).Tracking :=
  absurd hnext (not_waits_of_settled (messageFailed_settles s code h.grounded.waiter))

theorem Tracking.retryOrReject (h : c.Tracking) (hwaits : c.Waits) {socket : PairingSocket}
    (hs : c.sockets.get? s = some socket) (howner : socket.owner = .reconnect)
    (code : LocalPairingClientErrorCode) : (c.retryOrReject s code true).Tracking := by
  unfold LocalPairingClient.retryOrReject
  split
  · exact tracking_retry h.grounded (h.released hs howner) hwaits.1 hwaits.2.1 s
  · exact h.rejectAttached s code

theorem Tracking.handleMessage (h : c.Tracking) {data : Option PairingChannelMessage}
    (hnext : (c.handleMessage s data).Waits) : (c.handleMessage s data).Tracking := by
  unfold LocalPairingClient.handleMessage at hnext ⊢
  split at hnext
  · exact h.messageFailed hnext
  · split at hnext
    · next hother =>
      rw [if_pos hother]
      exact h.messageFailed hnext
    · next hsame =>
      rw [if_neg hsame]
      exact h.attach s
  · exact h.messageFailed hnext
  · split at hnext
    · next hother =>
      rw [if_pos hother]
      exact h.messageFailed hnext
    · next hnormal =>
      rw [if_neg hnormal]
      exact h
  · split at hnext
    · next hother =>
      rw [if_pos hother]
      exact h.messageFailed hnext
    · next hfresh =>
      rw [if_neg hfresh]
      exact h.of_eq (alike_of_eq rfl rfl rfl rfl rfl rfl) rfl rfl rfl rfl rfl rfl
  · exact h.messageFailed hnext

theorem Tracking.stored (h : c.Tracking) {k : ℕ} {stores : Bool} {readyState : ℕ} {sends : Bool}
    (hnext : (c.stored k stores readyState sends).Waits) :
    (c.stored k stores readyState sends).Tracking := by
  unfold LocalPairingClient.stored at hnext ⊢
  split at hnext
  · exact h
  · next s message _ =>
    have herased : Tracking { c with replacements := c.replacements.eraseIdx k } :=
      h.of_eq (alike_of_eq rfl rfl rfl rfl rfl rfl) rfl rfl rfl rfl rfl rfl
    generalize { c with replacements := c.replacements.eraseIdx k } = c₁ at herased hnext ⊢
    dsimp only at hnext ⊢
    split at hnext
    · next hstores =>
      rw [if_pos hstores]
      unfold storageSucceeded at hnext ⊢
      split at hnext
      · next hclosed =>
        rw [if_pos hclosed]
        exact herased.messageFailed hnext
      · next hopen =>
        rw [if_neg hopen]
        split at hnext
        · next hstale =>
          rw [if_pos hstale]
          exact herased
        · next hcurrent =>
          rw [if_neg hcurrent]
          split at hnext
          · rw [Waits, completed_complete] at hnext
            cases hnext.2.1
          · next hthrows =>
            rw [if_neg hthrows]
            exact herased.messageFailed hnext
    · next hfails =>
      rw [if_neg hfails]
      unfold storageFailed at hnext ⊢
      split at hnext
      · next hsent =>
        rw [if_pos hsent]
        exact (herased.emit _).messageFailed hnext
      · next hsilent =>
        rw [if_neg hsilent]
        exact herased.messageFailed hnext

theorem not_waits_startFailed (c : LocalPairingClient) (s : ℕ)
    (code : LocalPairingClientErrorCode) : ¬ (c.startFailed s code).Waits :=
  not_waits_of_closed (closed_close (c.dropAttachWaiter s))

theorem Tracking.startResumed (h : c.Tracking) {onPairingCode : Except LocalPairingClientErrorCode Unit}
    (hnext : (c.startResumed onPairingCode).Waits) : (c.startResumed onPairingCode).Tracking := by
  unfold LocalPairingClient.startResumed at hnext ⊢
  split at hnext
  · next s hstarting =>
    split at hnext
    · next response listeners hs =>
      have hzero : s = 0 := (h.grounded.owner s _ hs).mp rfl
      have hremoved := (h.dropAttachWaiter s).removeOpen s
      have hshown := (hremoved.setRemover fun _ => hzero).emit
        (.pairingCode response.pairingCode response.expiresAt)
      dsimp only at hnext ⊢
      split at hnext
      · refine ⟨⟨hshown.grounded.waiter, hshown.grounded.session, hshown.grounded.proof,
          hshown.grounded.url, hshown.grounded.some_socket, hshown.grounded.owner, .inr ⟨_, rfl⟩⟩,
          hshown.first, hshown.later, ?_⟩
        obtain ⟨last, socket, hlast, hget, hcurrent⟩ := hshown.current
        exact ⟨last, socket, hlast, hget, hcurrent.of_eq rfl rfl rfl⟩
      · exact absurd hnext (not_waits_startFailed _ s _)
    · exact absurd hnext (not_waits_startFailed _ s _)
    · exact h
  · exact h

theorem Tracking.onOpen (h : c.Tracking) (hwaits : c.Waits) (s : ℕ) (sends : Bool) :
    (c.onOpen s sends true).Tracking := by
  unfold LocalPairingClient.onOpen
  split
  · next owner _ _ _ _ hs =>
    split
    · split
      · exact h.emit _
      · exact h.rejectAttached s _
    · split
      · exact h.emit _
      · exact h.retryOrReject hwaits hs rfl _
  · exact h

/-- The socket of `#start` is attached and ends. -/
theorem Tracking.only (h : c.Tracking) {socket : PairingSocket} (hs : c.sockets.get? s = some socket)
    (howner : socket.owner.isStart = true)
    (hlistens : socket.listeners.error = true ∨ socket.listeners.close = true) :
    c.reconnectPromise = none ∧
      ∃ remover, c.removeSocketListeners = some remover ∧ remover.socket = 0 := by
  obtain rfl : s = 0 := (h.grounded.owner s socket hs).mp howner
  refine (h.first ?_).2
  by_contra hmany
  have hsome := h.grounded.some_socket
  obtain ⟨herror, hclose⟩ := h.later (by omega) socket hs
  rw [herror, hclose] at hlistens
  simp at hlistens

theorem Tracking.onError (h : c.Tracking) (hwaits : c.Waits)
    (hnext : (c.onError s true).Waits) : (c.onError s true).Tracking := by
  unfold LocalPairingClient.onError at hnext ⊢
  split at hnext
  · next hs =>
    split at hnext
    · next hattached =>
      rw [if_pos hattached]
      obtain ⟨hpromise, remover, hremover, hzero⟩ := h.only hs rfl (.inl rfl)
      have hremoved := (alike_setAttached c false).trans (alike_callRemover _)
      have hreleased : (c.setAttached false).callRemover.Released :=
        released_callRemover hremover hzero
      have hsent := (alike_dropSocket (c.setAttached false).callRemover s).trans
        (alike_emit _ (.closed s 1011))
      refine tracking_reconnect (h.grounded.alike (hremoved.trans hsent)) (hreleased.alike hsent)
        ?_ ?_ ?_
      · show (dropSocket _ s).reconnectPromise = none
        rw [dropSocket_reconnectPromise, callRemover_reconnectPromise]
        exact hpromise
      · show (dropSocket _ s).closed = false
        rw [dropSocket_closed, callRemover_closed]
        exact hwaits.1
      · show (dropSocket _ s).completed = false
        rw [dropSocket_completed, callRemover_completed]
        exact hwaits.2.1
    · rw [if_neg (by rw [hwaits.2.1]; exact Bool.false_ne_true)] at hnext
      exact absurd hnext (not_waits_of_settled (rejectCredential_settles _ h.grounded.waiter))
  · next hs => exact h.retryOrReject hwaits hs rfl _
  · exact h

theorem Tracking.onClose (h : c.Tracking) (hwaits : c.Waits)
    (hnext : (c.onClose s true).Waits) : (c.onClose s true).Tracking := by
  have hdropped := alike_dropSocket c s
  unfold LocalPairingClient.onClose at hnext ⊢
  split at hnext
  · next hs =>
    split at hnext
    · next hattached =>
      rw [if_pos hattached]
      obtain ⟨hpromise, remover, hremover, hzero⟩ := h.only hs rfl (.inr rfl)
      have hdetached := hdropped.trans (alike_setAttached _ false)
      have hremoved := hdetached.trans (alike_callRemover _)
      have hremover' : ((c.dropSocket s).setAttached false).removeSocketListeners = some remover :=
        (dropSocket_remover c s).trans hremover
      refine tracking_reconnect (h.grounded.alike hremoved) (released_callRemover hremover' hzero)
        ?_ ?_ ?_
      · rw [callRemover_reconnectPromise]
        exact (dropSocket_reconnectPromise c s).trans hpromise
      · rw [callRemover_closed]
        exact (dropSocket_closed c s).trans hwaits.1
      · rw [callRemover_completed]
        exact (dropSocket_completed c s).trans hwaits.2.1
    · rw [if_neg (by rw [hwaits.2.1]; exact Bool.false_ne_true)] at hnext
      have hwaiter := (h.grounded.alike hdropped).waiter
      exact absurd hnext (not_waits_of_settled (rejectCredential_settles _ hwaiter))
  · next hs =>
    have hreleased := h.released hs rfl
    unfold LocalPairingClient.retryOrReject
    split
    · exact tracking_retry (h.grounded.alike hdropped) (hreleased.alike hdropped)
        ((dropSocket_closed c s).trans hwaits.1) ((dropSocket_completed c s).trans hwaits.2.1) s
    · next hdetached =>
      have hfalse : c.attached = false := by simpa [hwaits.1, hwaits.2.1] using hdetached
      exact h.rejectDropped hfalse s _
  · exact h

theorem Tracking.delayed (h : c.Tracking) (hwaits : c.Waits) (i : ℕ) :
    (c.delayed i true).Tracking := by
  unfold LocalPairingClient.delayed
  split
  · next attempt lastError hloop =>
    rw [if_neg (by simp [hwaits.1, hwaits.2.1, h.grounded.session, h.grounded.proof, h.grounded.url])]
    have hmany := h.next_ne_one hloop
    have hsome := h.grounded.some_socket
    exact (tracking_openSocket h.grounded (h.later (by omega)) hloop attempt lastError).1
  · exact h

theorem Tracking.loopResumed (h : c.Tracking) (hwaits : c.Waits) (i : ℕ)
    (hnext : (c.loopResumed i).Waits) : (c.loopResumed i).Tracking := by
  unfold LocalPairingClient.loopResumed at hnext ⊢
  split at hnext
  · next attempt lastError s hloop =>
    have hmany := h.next_ne_one hloop
    have hphase : ∀ last, last ≠ s → LoopPhase.attaching s ≠ .attaching last ∧
        LoopPhase.attaching s ≠ .delaying := by
      intro last hne
      exact ⟨fun hsame => hne (LoopPhase.attaching.inj hsame).symm, nofun⟩
    split at hnext
    · exact h
    · next hresolved =>
      obtain ⟨socket, hs, hattached⟩ := Option.bind_eq_some_iff.mp hresolved
      have hremoved := ((h.dropAttachWaiter s).removeOpen s).setRemover (s := s) fun hone => by
        have hsame : ((c.dropAttachWaiter s).removeOpen s).sockets.next = c.sockets.next :=
          (Heap.next_modifyAll _ _ _).trans (congrArg Heap.next (dropAttachWaiter_sockets c s))
        exact absurd (hsame.symm.trans hone) hmany
      refine hremoved.setLoop ((congrArg (fun loops => loops.get? i)
        (dropAttachWaiter_loops c s)).trans hloop) ?_
      intro last socket' hlast
      by_cases hsame : last = s
      · subst hsame
        obtain ⟨socket₀, hs₀, rfl⟩ := (Heap.get?_modify_eq_some _ _ _).mp hlast
        rw [dropAttachWaiter_sockets] at hs₀
        obtain rfl := Option.some.inj (hs.symm.trans hs₀)
        rw [if_pos rfl]
        exact .inr (.inl hattached)
      · exact .inl (hphase last hsame)
    · next error hrejected =>
      obtain ⟨socket, hs, hattached⟩ := Option.bind_eq_some_iff.mp hrejected
      have hcleaned := h.cleanupDropped hs hattached
      unfold nextAttempt at hnext ⊢
      have hpending : ¬ (((c.cleanup s).dropSocket s).closed = true ∨
          ((c.cleanup s).dropSocket s).completed = true) := by
        rw [dropSocket_closed, dropSocket_completed]
        show ¬ (c.closed = true ∨ c.completed = true)
        simp [hwaits.1, hwaits.2.1]
      rw [if_neg hpending, if_neg hpending] at hnext ⊢
      split at hnext
      · next hlt =>
        rw [if_pos hlt, if_pos (Nat.succ_pos attempt)]
        have hkept : ((c.cleanup s).dropSocket s).loops.get? i =
            some ⟨attempt, lastError, .attaching s⟩ := by
          rw [dropSocket_loops]
          exact hloop
        refine hcleaned.setLoop hkept ?_
        intro last socket' hlast
        rw [dropSocket_sockets] at hlast
        obtain ⟨socket₀, hs₀, rfl⟩ := (Heap.get?_modify_eq_some _ _ _).mp hlast
        by_cases hsame : last = s
        · subst hsame
          obtain rfl := Option.some.inj (hs.symm.trans hs₀)
          rw [if_pos rfl]
          exact .inr (.inr ⟨rfl, error, hattached⟩)
        · exact .inl (hphase last hsame)
      · exact absurd hnext (not_waits_of_settled
          (rejectCredential_settles error hcleaned.grounded.waiter))
  · exact h

theorem Tracking.loopFinished (h : c.Tracking) (i : ℕ) : (c.loopFinished i).Tracking := by
  unfold LocalPairingClient.loopFinished
  split
  · next attempt lastError hloop =>
    refine (h.setReconnectPromise (h.next_ne_one hloop) none).setLoop hloop ?_
    exact fun _ _ _ => .inl ⟨nofun, nofun⟩
  · exact h

theorem Tracking.step {options : LocalPairingClientOptions} {e : Event} (h : c.Tracking)
    (hwaits : c.Waits) (hconstructs : e.constructs = true) (hnext : (c.step options e).Waits) :
    (c.step options e).Tracking := by
  have hstarting : ∀ phase, phase.isEarly = true → c.starting ≠ phase := by
    rintro phase hearly rfl
    rcases h.grounded.starting with hphase | ⟨result, hphase⟩ <;> rw [hphase] at hearly <;>
      cases hearly
  cases e with
  | start randomBytes =>
    show (c.start options randomBytes).Tracking
    unfold LocalPairingClient.start
    rw [if_pos (hstarting .idle rfl)]
    exact h
  | fetched ok =>
    show (c.fetched ok).Tracking
    unfold LocalPairingClient.fetched
    rw [if_pos (hstarting .fetching rfl)]
    exact h
  | started response constructs =>
    show (c.started options response constructs).Tracking
    unfold LocalPairingClient.started
    rw [if_pos (hstarting .reading rfl)]
    exact h
  | startResumed onPairingCode => exact h.startResumed hnext
  | opened s sends constructs =>
    obtain rfl : constructs = true := hconstructs
    exact h.onOpen hwaits s sends
  | message s data =>
    show (c.onMessage s data).Tracking
    have hnext : (c.onMessage s data).Waits := hnext
    unfold LocalPairingClient.onMessage at hnext ⊢
    split at hnext
    · exact h.handleMessage hnext
    · exact h
  | errored s constructs =>
    obtain rfl : constructs = true := hconstructs
    exact h.onError hwaits hnext
  | closed s constructs =>
    obtain rfl : constructs = true := hconstructs
    exact h.onClose hwaits hnext
  | stored k stores readyState sends => exact h.stored hnext
  | delayed i constructs =>
    obtain rfl : constructs = true := hconstructs
    exact h.delayed hwaits i
  | loopResumed i => exact h.loopResumed hwaits i hnext
  | loopFinished i => exact h.loopFinished i
  | close => exact absurd hnext (not_waits_of_closed (closed_close c))

end Tracking

/-! ## Before the first socket -/

/-- `#start` has made no socket. -/
structure Before (options : LocalPairingClientOptions) (c : LocalPairingClient) : Prop where
  waiter : c.credentialWaiter = true
  completed : c.completed = false
  sockets : c.sockets = .empty
  loops : c.loops = .empty
  promise : c.reconnectPromise = none
  replacements : c.replacements = []
  socket : c.socket = none
  attachWaiter : c.attachWaiter = none
  remover : c.removeSocketListeners = none
  starting : ∀ s, c.starting ≠ .attaching s
  request : c.starting = .fetching ∨ c.starting = .reading → c.closed = false →
    c.proof ≠ "" ∧ options.socketUrl ≠ none

theorem before_new (options : LocalPairingClientOptions) : Before options new where
  waiter := rfl
  completed := rfl
  sockets := rfl
  loops := rfl
  promise := rfl
  replacements := rfl
  socket := rfl
  attachWaiter := rfl
  remover := rfl
  starting := nofun
  request h := by rcases h with h | h <;> cases h

/-- What holds of every state that is reached without a constructor that throws. -/
def Kept (options : LocalPairingClientOptions) (c : LocalPairingClient) : Prop :=
  Before options c ∨ (c.starting.isEarly = false ∧ (c.Waits → c.Tracking))

section Before
variable {options : LocalPairingClientOptions} {c c' : LocalPairingClient}

theorem Before.setStarting (h : Before options c) (phase : StartPhase)
    (hphase : ∀ s, phase ≠ .attaching s)
    (hrequest : phase = .fetching ∨ phase = .reading → c.closed = false →
      c.proof ≠ "" ∧ options.socketUrl ≠ none) : Before options (c.setStarting phase) :=
  { h with starting := hphase, request := hrequest }

theorem Before.startRejected (h : Before options c) (code : LocalPairingClientErrorCode) :
    Before options (c.startRejected code) := by
  refine h.setStarting _ nofun ?_
  rintro (hphase | hphase) <;> cases hphase

/-- The proof of 32 bytes is not empty. -/
theorem proof_ne_empty {bytes : List UInt8} (h : bytes.length = 32) :
    String.ofList (Base64.base64Url (bytes.map UInt8.toNat)) ≠ "" := by
  intro hempty
  have hbytes : ∀ b ∈ bytes.map UInt8.toNat, b < 256 := by
    intro b hb
    obtain ⟨byte, -, rfl⟩ := List.mem_map.mp hb
    exact byte.toNat_lt
  have hnil : Base64.base64Url (bytes.map UInt8.toNat) = [] := by
    simpa using congrArg String.toList hempty
  rw [Base64.base64Url_eq hbytes, List.map_eq_nil_iff] at hnil
  have hlength := congrArg List.length hnil
  rw [Base64.length_sextets, List.length_map, h] at hlength
  cases hlength

theorem Before.start (h : Before options c) (randomBytes : Option (List UInt8)) :
    Before options (c.start options randomBytes) := by
  unfold LocalPairingClient.start
  split
  · exact h
  · split
    · exact h.startRejected _
    · split
      · exact h.startRejected _
      · next hurl =>
        split
        · exact h.startRejected _
        · next bytes =>
          split
          · exact h.startRejected _
          · next hlength =>
            rw [not_not] at hlength
            exact { h with
              starting := nofun
              request := fun _ _ => ⟨proof_ne_empty hlength, hurl⟩ }

theorem Before.fetched (h : Before options c) (ok : Option Bool) :
    Before options (c.fetched ok) := by
  unfold LocalPairingClient.fetched
  split
  · exact h
  · next hfetching =>
    rw [not_not] at hfetching
    split
    · exact h.startRejected _
    · split
      · refine h.setStarting .reading nofun ?_
        exact fun _ hclosed => h.request (.inl hfetching) hclosed
      · exact h.startRejected _

theorem Before.started (h : Before options c) (response : Option PairingStartResponse)
    (constructs : Bool) : Kept options (c.started options response constructs) := by
  unfold LocalPairingClient.started
  split
  · exact .inl h
  · next hreading =>
    rw [not_not] at hreading
    split
    · exact .inl (h.startRejected _)
    · next response =>
      split
      · exact .inl (h.startRejected _)
      · next hopen =>
        obtain ⟨hproof, hurl⟩ := h.request (.inr hreading) ((Bool.not_eq_true _).mp hopen)
        have hnext : c.sockets.next = 0 := congrArg Heap.next h.sockets
        dsimp only
        split
        · refine .inr ⟨rfl, fun _ => ⟨⟨h.waiter, nofun, hproof, hurl, ?_, ?_, ?_⟩, ?_, ?_, ?_⟩⟩
          · show 0 < (c.sockets.alloc _).next
            rw [Heap.next_alloc]
            omega
          · intro s socket hsocket
            rcases (Heap.get?_alloc_eq_some _ _).mp hsocket with ⟨rfl, rfl⟩ | hsocket
            · exact ⟨fun _ => hnext, fun _ => rfl⟩
            · rw [h.sockets] at hsocket
              cases hsocket
          · exact .inl (congrArg StartPhase.attaching hnext)
          · exact fun _ => ⟨h.loops, h.promise, _, rfl, hnext⟩
          · intro hmany
            have hone : (c.sockets.alloc ⟨.start response, .all, none⟩).next = 1 := by
              rw [Heap.next_alloc, hnext]
            exact absurd hmany (Nat.not_lt.mpr (Nat.le_of_eq hone))
          · refine ⟨0, ⟨.start response, .all, none⟩, ?_, ?_, ?_⟩
            · exact (Heap.next_alloc _ _).trans (congrArg (· + 1) hnext)
            · exact (Heap.get?_alloc_eq_some _ _).mpr (.inl ⟨hnext.symm, rfl⟩)
            · exact .pending rfl (congrArg some hnext) ⟨rfl, rfl, rfl⟩ (.inl rfl)
        · refine .inl { h with starting := nofun, request := ?_ }
          rintro (hphase | hphase) <;> cases hphase

theorem Before.close (h : Before options c) : Before options c.close := by
  unfold LocalPairingClient.close
  split
  · exact h
  · next hopen =>
    have hclosed : ∀ c' : LocalPairingClient, c'.closed = true →
        c'.starting = .fetching ∨ c'.starting = .reading → c'.closed = false →
        c'.proof ≠ "" ∧ options.socketUrl ≠ none := by
      intro c' hc' _ hopen'
      rw [hc'] at hopen'
      cases hopen'
    simp only [rejectAttachWaiter, forgetChannel, callRemover, closeSocket, forgetSocket,
      rejectCredential, h.attachWaiter, h.remover, h.socket, h.completed, h.waiter, if_true]
    rw [if_neg Bool.false_ne_true]
    exact ⟨rfl, rfl, h.sockets, h.loops, h.promise, h.replacements, rfl, rfl, rfl,
      h.starting, hclosed _ rfl⟩

/-- Nothing else can happen before the first socket. -/
theorem Before.step (h : Before options c) (e : Event) : Kept options (c.step options e) := by
  have hsockets : ∀ s, c.sockets.get? s = none := fun s => by rw [h.sockets]; rfl
  have hloops : ∀ i, c.loops.get? i = none := fun i => by rw [h.loops]; rfl
  cases e with
  | start randomBytes => exact .inl (h.start randomBytes)
  | fetched ok => exact .inl (h.fetched ok)
  | started response constructs => exact h.started response constructs
  | startResumed onPairingCode =>
    show Kept options (c.startResumed onPairingCode)
    unfold LocalPairingClient.startResumed
    split
    · next s hs => exact absurd hs (h.starting s)
    · exact .inl h
  | opened s sends constructs =>
    show Kept options (c.onOpen s sends constructs)
    rw [LocalPairingClient.onOpen, hsockets]
    exact .inl h
  | message s data =>
    show Kept options (c.onMessage s data)
    rw [LocalPairingClient.onMessage, hsockets]
    exact .inl h
  | errored s constructs =>
    show Kept options (c.onError s constructs)
    rw [LocalPairingClient.onError, hsockets]
    exact .inl h
  | closed s constructs =>
    show Kept options (c.onClose s constructs)
    rw [LocalPairingClient.onClose, hsockets]
    exact .inl h
  | stored k stores readyState sends =>
    show Kept options (c.stored k stores readyState sends)
    rw [LocalPairingClient.stored, h.replacements]
    exact .inl h
  | delayed i constructs =>
    show Kept options (c.delayed i constructs)
    rw [LocalPairingClient.delayed, hloops]
    exact .inl h
  | loopResumed i =>
    show Kept options (c.loopResumed i)
    rw [LocalPairingClient.loopResumed, hloops]
    exact .inl h
  | loopFinished i =>
    show Kept options (c.loopFinished i)
    rw [LocalPairingClient.loopFinished, hloops]
    exact .inl h
  | close => exact .inl h.close

/-! ## Every run -/

/-- What holds of every reachable state. -/
def Begun (options : LocalPairingClientOptions) (c : LocalPairingClient) : Prop :=
  Before options c ∨ c.starting.isEarly = false

/-- Where `#start` reads the response, nothing has completed. -/
theorem reading_of_begun (h : Begun options c) :
    c.starting = .reading → c.completed = false := by
  intro hreading
  rcases h with h | hbegun
  · exact h.completed
  · rw [hreading] at hbegun
    cases hbegun

theorem Begun.step (h : Begun options c) (e : Event) : Begun options (c.step options e) := by
  have hfollows := follows_step options c (reading_of_begun h) e
  rcases h with hbefore | hbegun
  · exact (hbefore.step e).imp_right And.left
  · exact .inr (hfollows.begun hbegun)

theorem follows_run (h : Begun options c) (events : List Event) :
    Follows c (runFrom (step options) c events) := by
  induction events generalizing c with
  | nil => exact .refl c
  | cons e events ih =>
    exact (follows_step options c (reading_of_begun h) e).trans (ih (h.step e))

/-- No constructor throws in the step, unless the promise has settled before. -/
def Constructs (c : LocalPairingClient) (e : Event) : Prop :=
  e.constructs = true ∨ c.credential ≠ none

theorem Kept.step (h : Kept options c) {e : Event} (hconstructs : c.Constructs e) :
    Kept options (c.step options e) := by
  have hfollows := follows_step options c (reading_of_begun (h.imp_right And.left)) e
  rcases h with hbefore | ⟨hbegun, htracking⟩
  · exact hbefore.step e
  · refine .inr ⟨hfollows.begun hbegun, ?_⟩
    intro hnext
    have hwaits : c.Waits := by
      refine ⟨?_, ?_, ?_⟩
      · rw [← Bool.not_eq_true]
        exact fun hclosed => not_waits_of_closed (hfollows.closed hclosed) hnext
      · rw [← Bool.not_eq_true]
        intro hcompleted
        have hnot := hnext.2.1
        rw [hfollows.completed hcompleted] at hnot
        cases hnot
      · by_contra hsettled
        obtain ⟨result, hresult⟩ := Option.ne_none_iff_exists'.mp hsettled
        have hnone := hnext.2.2
        rw [hfollows.settled result hresult] at hnone
        cases hnone
    exact (htracking hwaits).step hwaits (hconstructs.resolve_right fun h => h hwaits.2.2) hnext

end Before

/-! ## What a quiet client waits for -/

/-- The loop goes on by itself, or when something happens to its socket. -/
def MayGoOn (c : LocalPairingClient) (loop : ReconnectLoop) : Prop :=
  match loop.phase with
  | .delaying | .returned => True
  | .finished => False
  | .attaching s => ∃ socket, c.sockets.get? s = some socket ∧
      (socket.attached ≠ none ∨ socket.Listening)

/-- No asynchronous step of the client is pending. -/
structure Quiet (c : LocalPairingClient) : Prop where
  starting : c.starting = .idle ∨ ∃ result, c.starting = .finished result
  loops : ∀ i loop, c.loops.get? i = some loop → ¬ c.MayGoOn loop
  replacements : c.replacements = []

/-- The socket that `#start` made has been attached. -/
def FirstAttached (c : LocalPairingClient) : Prop :=
  ∃ s socket, c.sockets.get? s = some socket ∧ socket.owner.isStart = true ∧
    socket.attached = some (.ok ())

/-- The current socket is attached, as the client has it, and has its listeners. -/
def HoldsSocket (c : LocalPairingClient) : Prop :=
  ∃ s socket, c.socket = some s ∧ c.sockets.get? s = some socket ∧
    socket.attached = some (.ok ()) ∧ socket.Listening ∧ c.attached = true

/-- What the command line relies on when nothing is pending. -/
def NeverHangs (c : LocalPairingClient) : Prop :=
  c.Quiet → c.FirstAttached → c.closed = false → c.completed = false →
    c.credential ≠ none ∨ c.HoldsSocket

theorem Tracking.neverHangs {c : LocalPairingClient} (h : c.Waits → c.Tracking) :
    c.NeverHangs := by
  intro hquiet hfirst hclosed hcompleted
  by_cases hsettled : c.credential = none
  · right
    have htracking := h ⟨hclosed, hcompleted, hsettled⟩
    obtain ⟨last, socket, -, hlast, hcurrent⟩ := htracking.current
    obtain ⟨s, firstSocket, hs, howner, hattached⟩ := hfirst
    obtain rfl : s = 0 := (htracking.grounded.owner s firstSocket hs).mp howner
    -- The last socket is not the first one, unless it has been attached.
    have hlater : ∀ {P : Prop}, socket.attached ≠ some (.ok ()) → last = 0 ∨ P → P := by
      rintro P hne (rfl | hP)
      · obtain rfl := Option.some.inj (hs.symm.trans hlast)
        exact absurd hattached hne
      · exact hP
    cases hcurrent with
    | attached hattached hsocket hlistening h =>
      exact ⟨last, socket, hsocket, hlast, hattached, hlistening, h⟩
    | pending hpending _ hlistening h =>
      obtain ⟨i, loop, hloop, hphase⟩ := hlater (by rw [hpending]; nofun) h
      refine absurd ?_ (hquiet.loops i loop hloop)
      rw [MayGoOn, hphase]
      exact ⟨socket, hlast, .inr hlistening⟩
    | rejected error hrejected h =>
      obtain ⟨i, loop, hloop, hphase⟩ := hlater (by rw [hrejected]; nofun) h
      refine absurd ?_ (hquiet.loops i loop hloop)
      rw [MayGoOn]
      rcases hphase with hphase | hphase
      · rw [hphase]
        exact ⟨socket, hlast, .inl (by rw [hrejected]; nofun)⟩
      · rw [hphase]
        trivial
  · exact .inl hsettled

/-- The client never hangs unless `#reconnect` calls a constructor that throws. In every run its
promise settles at most once, and no socket is made after completion or closing. -/
theorem pairingClient_neverHangs (options : LocalPairingClientOptions) (events : List Event) :
    (Along (step options) Constructs new events →
        (runFrom (step options) new events).NeverHangs) ∧
      ∀ earlier later, events = earlier ++ later →
        (∀ result, (runFrom (step options) new earlier).credential = some result →
          (runFrom (step options) new events).credential = some result) ∧
        ((runFrom (step options) new earlier).closed = true ∨
            (runFrom (step options) new earlier).completed = true →
          (runFrom (step options) new events).sockets.next =
            (runFrom (step options) new earlier).sockets.next) := by
  constructor
  · intro hconstructs
    have hkept : Kept options (runFrom (step options) new events) :=
      Along.invariant (fun _ _ h hstep => h.step hstep) (.inl (before_new options)) hconstructs
    rcases hkept with hbefore | ⟨-, htracking⟩
    · intro _ hfirst
      obtain ⟨s, socket, hs, -⟩ := hfirst
      rw [hbefore.sockets] at hs
      cases hs
    · exact Tracking.neverHangs htracking
  · rintro earlier later rfl
    have hbegun : Begun options (runFrom (step options) new earlier) := runFrom_invariant
      (fun _ e h => h.step e) (.inl (before_new options)) earlier
    have hfollows := follows_run hbegun later
    rw [← runFrom_append] at hfollows
    exact ⟨hfollows.settled, hfollows.sockets⟩

/-! ## A constructor that throws -/

namespace Hanging

def sessionId : PairingSessionId := ⟨"5e551000-0000-4000-8000-000000000021", by decide, by decide⟩

def options : LocalPairingClientOptions := ⟨some "wss://api.example.test/pairing"⟩

/-- The first socket is attached and closes, and the constructor of the next one throws. -/
def events : List Event :=
  [.start (some (List.replicate 32 0)), .fetched (some true),
    .started (some ⟨sessionId, "ABCD-EFGH-JKLM", 0⟩) true, .opened 0 true true,
    .message 0 (some (.attached sessionId "2026-09-18T12:05:00.000Z")), .startResumed (.ok ()),
    .closed 0 false, .loopFinished 0]

end Hanging

/-- Nothing is pending then, and the promise will not settle. -/
theorem pairingClient_hangs :
    ¬ (runFrom (step Hanging.options) new Hanging.events).NeverHangs := by
  intro hnever
  have hloops : ∀ i loop, (runFrom (step Hanging.options) new Hanging.events).loops.get? i =
      some loop → loop.phase = .finished := by
    intro i loop hloop
    have hcells : ∀ loop ∈ (runFrom (step Hanging.options) new Hanging.events).loops.cells,
        loop.phase = .finished := by decide
    exact hcells loop (List.mem_of_getElem? hloop)
  have hquiet : (runFrom (step Hanging.options) new Hanging.events).Quiet := by
    refine ⟨.inr ⟨.ok (), by decide⟩, fun i loop hloop => ?_, rfl⟩
    rw [MayGoOn, hloops i loop hloop]
    exact id
  have hfirst : (runFrom (step Hanging.options) new Hanging.events).FirstAttached :=
    ⟨0, ⟨.start ⟨Hanging.sessionId, "ABCD-EFGH-JKLM", 0⟩, .none, some (.ok ())⟩,
      by decide, rfl, rfl⟩
  rcases hnever hquiet hfirst (by decide) (by decide) with hsettled | ⟨s, -, hsocket, -⟩
  · exact hsettled rfl
  · have hnone : (runFrom (step Hanging.options) new Hanging.events).socket = none := by decide
    rw [hnone] at hsocket
    cases hsocket

end LocalPairingClient
end Doctmcp.Agent.PairingClient

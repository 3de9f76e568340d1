import Doctmcp.Agent.PairingClient

/-! # Steps of the pairing client

What every step keeps: what has settled, completed or closed stays so, and a client that has completed
or closed makes no socket. -/

namespace Doctmcp.Agent.PairingClient
open Doctmcp.Lib
set_option autoImplicit false

/-- `#start` has not tried to make its socket. -/
def StartPhase.isEarly : StartPhase → Bool
  | .idle | .fetching | .reading => true
  | .attaching _ | .finished _ => false

namespace LocalPairingClient

/-- What settled, completed or closed stays so, and then no socket is made. -/
structure Follows (c c' : LocalPairingClient) : Prop where
  begun : c.starting.isEarly = false → c'.starting.isEarly = false
  closed : c.closed = true → c'.closed = true
  completed : c.completed = true → c'.completed = true
  settled : ∀ result, c.credential = some result → c'.credential = some result
  sockets : c.closed = true ∨ c.completed = true → c'.sockets.next = c.sockets.next

section Follows
variable {c c' c'' : LocalPairingClient}

theorem Follows.refl (c : LocalPairingClient) : Follows c c :=
  ⟨id, id, id, fun _ h => h, fun _ => rfl⟩

theorem Follows.trans (h : Follows c c') (h' : Follows c' c'') : Follows c c'' where
  begun hbegun := h'.begun (h.begun hbegun)
  closed hclosed := h'.closed (h.closed hclosed)
  completed hcompleted := h'.completed (h.completed hcompleted)
  settled result hresult := h'.settled result (h.settled result hresult)
  sockets hpast := (h'.sockets (hpast.imp h.closed h.completed)).trans (h.sockets hpast)

variable (c) (s i attempt : ℕ) (code : LocalPairingClientErrorCode) (constructs : Bool)

/-- A change of the fields that no promise of this section is about. -/
theorem follows_of_eq (hstarting : c'.starting = c.starting) (hclosed : c'.closed = c.closed)
    (hcompleted : c'.completed = c.completed) (hcredential : c'.credential = c.credential)
    (hsockets : c'.sockets.next = c.sockets.next) : Follows c c' where
  begun h := hstarting ▸ h
  closed h := hclosed.trans h
  completed h := hcompleted.trans h
  settled _ h := hcredential.trans h
  sockets _ := hsockets

theorem follows_of_early (hearly : c.starting.isEarly = true) (hclosed : c'.closed = c.closed)
    (hcompleted : c'.completed = c.completed) (hcredential : c'.credential = c.credential)
    (hsockets : c'.sockets.next = c.sockets.next) : Follows c c' where
  begun h := by rw [hearly] at h; cases h
  closed h := hclosed.trans h
  completed h := hcompleted.trans h
  settled _ h := hcredential.trans h
  sockets _ := hsockets

theorem follows_settleAttached (result : Except LocalPairingClientErrorCode Unit) :
    Follows c (c.settleAttached s result) :=
  follows_of_eq c rfl rfl rfl rfl (Heap.next_modifyAll _ _ _)

theorem follows_cleanup : Follows c (c.cleanup s) :=
  follows_of_eq c rfl rfl rfl rfl (Heap.next_modifyAll _ _ _)

theorem follows_removeOpen : Follows c (c.removeOpen s) :=
  follows_of_eq c rfl rfl rfl rfl (Heap.next_modifyAll _ _ _)

theorem follows_setLoop (loop : ReconnectLoop) : Follows c (c.setLoop i loop) :=
  follows_of_eq c rfl rfl rfl rfl rfl

theorem follows_emit (effect : Effect) : Follows c (c.emit effect) :=
  follows_of_eq c rfl rfl rfl rfl rfl

theorem follows_setAttached (attached : Bool) : Follows c (c.setAttached attached) :=
  follows_of_eq c rfl rfl rfl rfl rfl

theorem follows_setReconnectPromise (promise : Option ℕ) :
    Follows c (c.setReconnectPromise promise) := follows_of_eq c rfl rfl rfl rfl rfl

theorem follows_setRemover (remover : Remover) : Follows c (c.setRemover remover) :=
  follows_of_eq c rfl rfl rfl rfl rfl

theorem follows_startRejected : Follows c (c.startRejected code) :=
  ⟨fun _ => rfl, id, id, fun _ h => h, fun _ => rfl⟩

theorem follows_forgetChannel : Follows c c.forgetChannel := follows_of_eq c rfl rfl rfl rfl rfl

theorem follows_forgetSocket : Follows c c.forgetSocket := follows_of_eq c rfl rfl rfl rfl rfl

theorem follows_callRemover : Follows c c.callRemover := by
  unfold callRemover
  cases c.removeSocketListeners with
  | none => exact .refl c
  | some remover => exact follows_of_eq c rfl rfl rfl rfl (Heap.next_modifyAll _ _ _)

theorem follows_dropSocket : Follows c (c.dropSocket s) := by
  unfold dropSocket
  split
  · exact follows_of_eq c rfl rfl rfl rfl rfl
  · exact .refl c

theorem follows_dropAttachWaiter : Follows c (c.dropAttachWaiter s) := by
  unfold dropAttachWaiter
  split
  · exact follows_of_eq c rfl rfl rfl rfl rfl
  · exact .refl c

theorem follows_closeSocket (n : ℕ) : Follows c (c.closeSocket n) := by
  unfold closeSocket
  cases c.socket with
  | none => exact .refl c
  | some s => exact follows_emit c _

theorem follows_rejectCredential : Follows c (c.rejectCredential code) := by
  unfold rejectCredential
  split
  · refine ⟨id, id, id, fun result h => ?_, fun _ => rfl⟩
    show (c.credential <|> some (.error code)) = some result
    rw [h]
    rfl
  · exact .refl c

theorem follows_resolveCredential (credential : LocalDeviceCredential) :
    Follows c (c.resolveCredential credential) := by
  unfold resolveCredential
  split
  · refine ⟨id, id, id, fun result h => ?_, fun _ => rfl⟩
    show (c.credential <|> some (.ok credential)) = some result
    rw [h]
    rfl
  · exact .refl c

theorem follows_rejectAttachWaiter : Follows c (c.rejectAttachWaiter code) := by
  unfold rejectAttachWaiter
  cases c.attachWaiter with
  | none => exact .refl c
  | some s => exact follows_settleAttached c s _

theorem follows_closing : Follows { c with closed := true } c.close := by
  unfold close
  split
  · next hclosed => exact follows_of_eq _ rfl hclosed rfl rfl rfl
  · have hwaiter := follows_rejectAttachWaiter { c with closed := true } .PAIRING_CLOSED
    have hforgot := hwaiter.trans (follows_forgetChannel _)
    have hremoved := hforgot.trans (follows_callRemover _)
    have hsent := hremoved.trans (follows_closeSocket _ 1000)
    have hdone := hsent.trans (follows_forgetSocket _)
    dsimp only
    split
    · exact hdone
    · exact hdone.trans (follows_rejectCredential _ _)

theorem follows_close : Follows c c.close := by
  have hclosed : Follows c { c with closed := true } :=
    ⟨id, fun _ => rfl, id, fun _ h => h, fun _ => rfl⟩
  exact hclosed.trans (follows_closing c)

theorem closed_close : c.close.closed = true := (follows_closing c).closed rfl

variable {c} in
theorem rejectCredential_settles (h : c.credentialWaiter = true) :
    (c.rejectCredential code).credential ≠ none := by
  unfold rejectCredential
  rw [if_pos h]
  show (c.credential <|> some (.error code)) ≠ none
  cases c.credential <;> exact nofun

variable {c} in
theorem messageFailed_settles (h : c.credentialWaiter = true) :
    (c.messageFailed s code).credential ≠ none := by
  have hwaiter : ((c.rejectAttached s code).dropAttachWaiter s).credentialWaiter = true := by
    unfold dropAttachWaiter
    split <;> exact h
  have hsettled := rejectCredential_settles code hwaiter
  obtain ⟨result, hresult⟩ := Option.ne_none_iff_exists'.mp hsettled
  have hkept := ((follows_callRemover _).trans (follows_closeSocket _ 1008)).settled result hresult
  exact Option.ne_none_iff_exists'.mpr ⟨result, hkept⟩

theorem follows_messageFailed : Follows c (c.messageFailed s code) :=
  ((((follows_settleAttached c s _).trans (follows_dropAttachWaiter _ s)).trans
    (follows_rejectCredential _ code)).trans (follows_callRemover _)).trans
    (follows_closeSocket _ 1008)

theorem follows_handleMessage (data : Option PairingChannelMessage) :
    Follows c (c.handleMessage s data) := by
  unfold handleMessage
  split
  · exact follows_messageFailed c s _
  · split
    · exact follows_messageFailed c s _
    · exact (follows_setAttached c true).trans (follows_settleAttached _ s _)
  · exact follows_messageFailed c s _
  · split
    · exact follows_messageFailed c s _
    · exact .refl c
  · split
    · exact follows_messageFailed c s _
    · exact follows_of_eq c rfl rfl rfl rfl rfl
  · exact follows_messageFailed c s _

theorem follows_complete (credential : LocalDeviceCredential) :
    Follows c (c.complete credential) := by
  refine Follows.trans ?_ ((follows_callRemover _).trans (follows_resolveCredential _ credential))
  exact ⟨id, id, fun _ => rfl, fun _ h => h, fun _ => rfl⟩

theorem completed_complete (credential : LocalDeviceCredential) :
    (c.complete credential).completed = true :=
  ((follows_callRemover _).trans (follows_resolveCredential _ credential)).completed rfl

theorem follows_stored (k : ℕ) (stores : Bool) (readyState : ℕ) (sends : Bool) :
    Follows c (c.stored k stores readyState sends) := by
  unfold stored
  split
  · exact .refl c
  · next s message _ =>
    have herased : Follows c { c with replacements := c.replacements.eraseIdx k } :=
      follows_of_eq c rfl rfl rfl rfl rfl
    refine herased.trans ?_
    generalize { c with replacements := c.replacements.eraseIdx k } = c₁
    dsimp only
    split
    · unfold storageSucceeded
      split
      · exact follows_messageFailed c₁ s _
      · split
        · exact .refl c₁
        · split
          · exact (follows_emit c₁ _).trans (follows_complete _ _)
          · exact follows_messageFailed c₁ s _
    · unfold storageFailed
      split
      · exact (follows_emit c₁ _).trans (follows_messageFailed _ s _)
      · exact follows_messageFailed c₁ s _

/-! ### Making sockets -/

/-- A client that is neither closed nor completed may make a socket. -/
theorem follows_of_pending (hclosed : c.closed = false) (hcompleted : c.completed = false)
    (hbegun : c.starting.isEarly = false → c'.starting.isEarly = false)
    (hcredential : c'.credential = c.credential) : Follows c c' where
  begun := hbegun
  closed h := by rw [hclosed] at h; cases h
  completed h := by rw [hcompleted] at h; cases h
  settled _ h := hcredential.trans h
  sockets h := by rw [hclosed, hcompleted] at h; simp at h

variable {c}

theorem follows_openSocket (hclosed : c.closed = false) (hcompleted : c.completed = false) :
    Follows c (c.openSocket i attempt code constructs) := by
  unfold openSocket
  split
  · exact follows_setLoop c i _
  · split
    · exact follows_of_pending c hclosed hcompleted id rfl
    · exact follows_setLoop c i _

variable (c)

theorem follows_nextAttempt : Follows c (c.nextAttempt i attempt code constructs) := by
  unfold nextAttempt
  split
  · split
    · exact follows_setLoop c i _
    · next hpending =>
      rw [not_or, Bool.not_eq_true, Bool.not_eq_true] at hpending
      split
      · exact follows_setLoop c i _
      · exact follows_openSocket i attempt code constructs hpending.1 hpending.2
  · split
    · exact follows_setLoop c i _
    · exact (follows_rejectCredential c code).trans (follows_setLoop _ i _)

theorem follows_reconnect : Follows c (c.reconnect constructs) := by
  unfold reconnect
  split
  · exact .refl c
  · refine Follows.trans ?_ ((follows_nextAttempt _ _ _ _ _).trans
      (follows_setReconnectPromise _ _))
    exact follows_of_eq c rfl rfl rfl rfl rfl

theorem follows_retryOrReject : Follows c (c.retryOrReject s code constructs) := by
  unfold retryOrReject
  split
  · have hcleaned := (follows_setAttached c false).trans (follows_cleanup _ s)
    have hdropped := hcleaned.trans (follows_dropSocket _ s)
    have hpromise := hdropped.trans (follows_setReconnectPromise _ none)
    exact hpromise.trans (follows_reconnect _ constructs)
  · exact follows_settleAttached c s _

theorem follows_startFailed : Follows c (c.startFailed s code) :=
  ((follows_dropAttachWaiter c s).trans (follows_close _)).trans (follows_startRejected _ _)

end Follows

section Step
variable (options : LocalPairingClientOptions) (c : LocalPairingClient) (s i : ℕ)

theorem follows_started (h : c.starting = .reading → c.completed = false)
    (response : Option PairingStartResponse) (constructs : Bool) :
    Follows c (c.started options response constructs) := by
  unfold started
  split
  · exact .refl c
  · next hreading =>
    rw [not_not] at hreading
    split
    · exact follows_startRejected c _
    · split
      · exact follows_startRejected c _
      · next hclosed =>
        rw [Bool.not_eq_true] at hclosed
        dsimp only
        split
        · exact follows_of_pending c hclosed (h hreading) (fun _ => rfl) rfl
        · exact ⟨fun _ => rfl, id, id, fun _ h => h, fun _ => rfl⟩

theorem follows_startResumed (onPairingCode : Except LocalPairingClientErrorCode Unit) :
    Follows c (c.startResumed onPairingCode) := by
  unfold startResumed
  split
  · next s _ =>
    split
    · next response _ _ =>
      have hremoved := (follows_dropAttachWaiter c s).trans (follows_removeOpen _ s)
      have hremover := hremoved.trans (follows_setRemover _ ⟨s, false⟩)
      have hshown := hremover.trans
        (follows_emit _ (.pairingCode response.pairingCode response.expiresAt))
      dsimp only
      split
      · exact hshown.trans ⟨fun _ => rfl, id, id, fun _ h => h, fun _ => rfl⟩
      · exact hshown.trans (follows_startFailed _ s _)
    · exact follows_startFailed c s _
    · exact .refl c
  · exact .refl c

theorem follows_onOpen (sends constructs : Bool) : Follows c (c.onOpen s sends constructs) := by
  unfold onOpen
  split
  · split
    · split
      · exact follows_emit c _
      · exact follows_settleAttached c s _
    · split
      · exact follows_emit c _
      · exact follows_retryOrReject c s _ _
  · exact .refl c

theorem follows_onError (constructs : Bool) : Follows c (c.onError s constructs) := by
  unfold onError
  split
  · split
    · have hremoved := (follows_setAttached c false).trans (follows_callRemover _)
      have hdropped := hremoved.trans (follows_dropSocket _ s)
      exact (hdropped.trans (follows_emit _ _)).trans (follows_reconnect _ _)
    · split
      · exact follows_settleAttached c s _
      · exact (follows_settleAttached c s _).trans (follows_rejectCredential _ _)
  · exact follows_retryOrReject c s _ _
  · exact .refl c

theorem follows_onClose (constructs : Bool) : Follows c (c.onClose s constructs) := by
  have hdropped := follows_dropSocket c s
  unfold onClose
  split
  · split
    · have hremoved := (hdropped.trans (follows_setAttached _ false)).trans (follows_callRemover _)
      exact hremoved.trans (follows_reconnect _ _)
    · split
      · exact hdropped
      · exact (hdropped.trans (follows_settleAttached _ s _)).trans (follows_rejectCredential _ _)
  · exact hdropped.trans (follows_retryOrReject _ s _ _)
  · exact .refl c

theorem follows_delayed (constructs : Bool) : Follows c (c.delayed i constructs) := by
  unfold delayed
  split
  · split
    · exact follows_setLoop c i _
    · next hpending =>
      simp only [not_or, Bool.not_eq_true] at hpending
      exact follows_openSocket i _ _ _ hpending.1 hpending.2.1
  · exact .refl c

theorem follows_loopResumed : Follows c (c.loopResumed i) := by
  unfold loopResumed
  split
  · next attempt lastError s _ =>
    split
    · exact .refl c
    · have hremoved := (follows_dropAttachWaiter c s).trans (follows_removeOpen _ s)
      exact (hremoved.trans (follows_setRemover _ _)).trans (follows_setLoop _ i _)
    · exact ((follows_cleanup c s).trans (follows_dropSocket _ s)).trans
        (follows_nextAttempt _ i _ _ _)
  · exact .refl c

theorem follows_loopFinished : Follows c (c.loopFinished i) := by
  unfold loopFinished
  split
  · exact (follows_setReconnectPromise c none).trans (follows_setLoop _ i _)
  · exact .refl c

theorem follows_step (h : c.starting = .reading → c.completed = false) (e : Event) :
    Follows c (c.step options e) := by
  cases e with
  | start randomBytes =>
    show Follows c (c.start options randomBytes)
    unfold start
    split
    · exact .refl c
    · next hidle =>
      rw [not_not] at hidle
      repeat' split
      all_goals exact follows_of_early c (hidle ▸ rfl) rfl rfl rfl rfl
  | fetched ok =>
    show Follows c (c.fetched ok)
    unfold fetched
    split
    · exact .refl c
    · next hfetching =>
      rw [not_not] at hfetching
      repeat' split
      all_goals exact follows_of_early c (hfetching ▸ rfl) rfl rfl rfl rfl
  | started response constructs => exact follows_started options c h response constructs
  | startResumed onPairingCode => exact follows_startResumed c onPairingCode
  | opened s sends constructs => exact follows_onOpen c s sends constructs
  | message s data =>
    show Follows c (c.onMessage s data)
    unfold onMessage
    split
    · exact follows_handleMessage c s data
    · exact .refl c
  | errored s constructs => exact follows_onError c s constructs
  | closed s constructs => exact follows_onClose c s constructs
  | stored k stores readyState sends => exact follows_stored c k stores readyState sends
  | delayed i constructs => exact follows_delayed c i constructs
  | loopResumed i => exact follows_loopResumed c i
  | loopFinished i => exact follows_loopFinished c i
  | close => exact follows_close c

end Step

end LocalPairingClient
end Doctmcp.Agent.PairingClient

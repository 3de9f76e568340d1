import Doctmcp.Lib.History
import Doctmcp.Tools.ShellExec

/-! # Termination of the process tree

A reason to terminate that is raised before the close event has the tree terminated exactly when
the direct child still runs: `requestTermination` returns early once the child has an exit code or
a signal, also while a descendant holds its streams open. The close handler awaits the termination;
the error handler rejects the call at once, also while the termination is under way. -/

namespace Doctmcp.Tools.ShellExec
open Doctmcp.Lib
set_option autoImplicit false

/-! ## The statement -/

def Effect.reason? : Effect → Option TerminationReason
  | .requestTermination reason => some reason
  | _ => none

/-- The reasons raised, the oldest first. -/
def reasons (history : List Effect) : List TerminationReason := history.filterMap Effect.reason?

def reasonsBeforeClose (history : List Effect) : List TerminationReason :=
  reasons (upTo (· = .closed) history)

/-- The promise of the call is settled, with a result or with an error. -/
def Effect.IsDelivered : Effect → Prop
  | .resolved _ | .rejected _ => True
  | _ => False

/-- With a reason before the close event the tree is terminated once, and the call delivers what it
delivers after the termination has completed. -/
def TerminatesTree (history : List Effect) : Prop :=
  reasonsBeforeClose history ≠ [] →
    history.count .terminateProcessTree = 1 ∧
      Precedes (· = .terminated) Effect.IsDelivered history

/-- The reason for which the handler of an event calls `requestTermination`. -/
def raises (x : Execution) (s : State) : Event → Option TerminationReason
  | .stdout chunk | .stderr chunk =>
    let remaining : ℤ := x.maxOutputBytes - s.capturedBytes
    if s.truncated = false ∧ (remaining ≤ 0 ∨ chunk.toBuffer.length > remaining) then some .output
    else none
  | .timeout => if s.timeout then some .timeout else none
  | .abort => if s.abortListener then some .cancelled else none
  | _ => none

/-- The error with which the handler of an event rejects the call. -/
def rejection (s : State) : Event → Option ToolDomainError
  | .error code => if s.settled then none else some (processStartError code)
  | _ => none

/-- The first reason comes after the close event, or while the direct child runs and the call is not
over; and an error that ends the call finds no termination under way. -/
structure InTime (x : Execution) (s : State) (turn : Turn) : Prop where
  reason : raises x s turn.event ≠ none → s.closed = false → s.terminationReason = none →
    s.Running ∧ s.settled = false
  error : rejection s turn.event ≠ none →
    s.terminationPromise = none ∨ s.terminationPromise = some .settled

/-! ## What a turn does -/

/-- An effect that is no reason, no request, no close and delivers nothing. -/
def Effect.Quiet : Effect → Prop
  | .kill _ | .killGroup _ _ | .taskkill _ | .terminated => True
  | _ => False

/-- The result that the call delivers in a state. -/
def Reports (s : State) (result : ProcessResult) : Prop :=
  result.stdout = Utf8.lossy s.stdoutChunks.flatten ∧
    result.stderr = Utf8.lossy s.stderrChunks.flatten ∧
    result.truncated = s.truncated ∧ result.terminationReason = s.terminationReason

/-- What a turn does to the fields that the termination depends on. -/
inductive Change (raised : Option TerminationReason) (rejected : Option ToolDomainError)
    (s s' : State) : Prop
  | quiet (effects : List Effect) (hraised : raised = none)
      (heffects : ∀ effect ∈ effects, effect.Quiet)
      (hhistory : s'.history = s.history ++ effects) (hclosed : s'.closed = s.closed)
      (hreason : s'.terminationReason = s.terminationReason) (hclosing : s'.closing = s.closing)
      (hrunning : s'.Running → s.Running) (hover : s'.settled = s.settled)
      (hpromise : effects = [] ∧ s'.terminationPromise = s.terminationPromise ∨
        s.terminationPromise ≠ none ∧ s'.terminationPromise = some .settled ∧
          .terminated ∈ effects)
  | recorded (reason : TerminationReason) (hraised : raised = some reason)
      (hearly : s.closed = true ∨ ¬ s.Running ∨ s.terminationPromise ≠ none)
      (hhistory : s'.history = s.history ++ [.requestTermination reason])
      (hclosed : s'.closed = s.closed)
      (hreason : s'.terminationReason = s.terminationReason.or (some reason))
      (hclosing : s'.closing = s.closing) (hrunning : s'.Running → s.Running)
      (hover : s'.settled = s.settled)
      (hpromise : s'.terminationPromise = s.terminationPromise)
  | terminates (reason : TerminationReason) (effects : List Effect) (hraised : raised = some reason)
      (hopen : s.closed = false) (hruns : s.Running) (hnone : s.terminationPromise = none)
      (heffects : ∀ effect ∈ effects, effect.Quiet)
      (hhistory : s'.history =
        s.history ++ [.requestTermination reason, .terminateProcessTree] ++ effects)
      (hclosed : s'.closed = s.closed)
      (hreason : s'.terminationReason = s.terminationReason.or (some reason))
      (hclosing : s'.closing = s.closing) (hover : s'.settled = s.settled)
      (hpromise : s'.terminationPromise ≠ none)
      (hsettled : s'.terminationPromise = some .settled ↔ .terminated ∈ effects)
  | closes (hraised : raised = none) (hopen : s.closed = false) (hclosed : s'.closed = true)
      (results : List Effect) (hhistory : s'.history = s.history ++ [.closed] ++ results)
      (hresults : results = [] ∧ s'.settled = s.settled ∨
        s.terminationPromise = none ∧ s'.settled = true ∧
          ∃ result, results = [.resolved result] ∧ Reports s result)
      (hreason : s'.terminationReason = s.terminationReason)
      (hrunning : s'.Running → s.Running)
      (hpromise : s'.terminationPromise = s.terminationPromise)
  | resumes (hraised : raised = none) (hawaits : s.closing ≠ none) (hclosed : s'.closed = s.closed)
      (results : List Effect) (hhistory : s'.history = s.history ++ results)
      (hresults : results = [] ∧ s'.settled = s.settled ∨
        s'.settled = true ∧ ∃ result, results = [.resolved result] ∧ Reports s result)
      (hreason : s'.terminationReason = s.terminationReason)
      (hclosing : s'.closing = none) (hrunning : s'.Running → s.Running)
      (hsettled : s.terminationPromise = some .settled)
      (hpromise : s'.terminationPromise = s.terminationPromise)
  | rejects (error : ToolDomainError) (hraised : raised = none) (hrejected : rejected = some error)
      (hhistory : s'.history = s.history ++ [.rejected error]) (hclosed : s'.closed = s.closed)
      (hreason : s'.terminationReason = s.terminationReason) (hclosing : s'.closing = s.closing)
      (hrunning : s'.Running → s.Running) (hover : s'.settled = true)
      (hpromise : s'.terminationPromise = s.terminationPromise)

section Turns
variable {x : Execution} {s : State} {rejected : Option ToolDomainError}

theorem Change.refl (s : State) : Change none rejected s s :=
  .quiet [] rfl (by simp) (by simp) rfl rfl rfl id rfl (.inl ⟨rfl, rfl⟩)

theorem quiet_signal (pid : Option ℕ) (signal : Signals) (groupThrows : Bool) :
    ∀ effect ∈ signalPosixProcessGroup pid signal groupThrows, effect.Quiet := by
  intro effect heffect
  unfold signalPosixProcessGroup at heffect
  split at heffect
  · rw [List.mem_singleton.mp heffect]
    trivial
  · split at heffect
    · rw [List.mem_singleton.mp heffect]
      trivial
    · rw [List.mem_singleton.mp heffect]
      trivial

theorem quiet_finish (fallback : Bool) (s : State) :
    ∀ effect ∈ (if fallback ∧ s.Running then [.kill .SIGKILL] else []) ++ [Effect.terminated],
      effect.Quiet := by
  intro effect heffect
  rcases List.mem_append.mp heffect with hkill | hlast
  · split at hkill
    · rw [List.mem_singleton.mp hkill]
      trivial
    · cases hkill
  · rw [List.mem_singleton.mp hlast]
    trivial

theorem finish_change (fallback : Bool) (h : s.terminationPromise ≠ none) :
    Change none rejected s (finish fallback s) :=
  .quiet _ rfl (quiet_finish fallback s) rfl rfl rfl rfl id rfl (.inr ⟨h, rfl, by simp⟩)

theorem terminated_not_mem_signal (pid : Option ℕ) (signal : Signals) (groupThrows : Bool) :
    .terminated ∉ signalPosixProcessGroup pid signal groupThrows := by
  unfold signalPosixProcessGroup
  split
  · simp
  · split <;> simp

/-- The tree termination begins with one request, and has settled exactly where it says so. -/
theorem terminateProcessTree_spec (x : Execution) (answers : Answers) (s : State) :
    ∃ effects, (∀ effect ∈ effects, effect.Quiet) ∧
      (terminateProcessTree x answers s).history =
        s.history ++ [.terminateProcessTree] ++ effects ∧
      (terminateProcessTree x answers s).terminationPromise ≠ none ∧
      ((terminateProcessTree x answers s).terminationPromise = some .settled ↔
        .terminated ∈ effects) ∧
      (terminateProcessTree x answers s).closed = s.closed ∧
      (terminateProcessTree x answers s).terminationReason = s.terminationReason ∧
      (terminateProcessTree x answers s).closing = s.closing ∧
      (terminateProcessTree x answers s).settled = s.settled := by
  unfold terminateProcessTree
  cases x.platform with
  | posix =>
    refine ⟨_, quiet_signal x.pid .SIGTERM answers.groupThrows, rfl, ?_, ⟨?_, ?_⟩, rfl, rfl, rfl,
      rfl⟩
    · intro hfalse
      cases hfalse
    · intro hfalse
      cases hfalse
    · intro hmem
      exact absurd hmem (terminated_not_mem_signal _ _ _)
  | win32 =>
    unfold terminateWindowsProcessTree
    cases x.pid.filter (· ≠ 0) with
    | none =>
      refine ⟨[.kill .SIGKILL, .terminated], by simp [Effect.Quiet], by simp [State.emit], ?_,
        by simp, rfl, rfl, rfl, rfl⟩
      intro hfalse
      cases hfalse
    | some pid =>
      cases hspawn : answers.spawnThrows with
      | true =>
        refine ⟨_, quiet_finish true (s.emit [.terminateProcessTree]), rfl, ?_, ?_, rfl, rfl, rfl,
          rfl⟩
        · intro hfalse
          cases hfalse
        · exact ⟨fun _ => by simp, fun _ => rfl⟩
      | false =>
        refine ⟨[.taskkill pid], by simp [Effect.Quiet], by simp [State.emit], ?_, ⟨?_, ?_⟩, rfl, rfl,
          rfl, rfl⟩
        · intro hfalse
          cases hfalse
        · intro hfalse
          cases hfalse
        · intro hmem
          simp at hmem

/-- The handlers change some fields of their own before they call `requestTermination`. -/
theorem requestTermination_change (answers : Answers) (reason : TerminationReason) {s₀ : State}
    (hhistory : s.history = s₀.history) (hclosed : s.closed = s₀.closed)
    (hreason : s.terminationReason = s₀.terminationReason) (hclosing : s.closing = s₀.closing)
    (hexit : s.exitCode = s₀.exitCode) (hsignal : s.signalCode = s₀.signalCode)
    (hover : s.settled = s₀.settled)
    (hpromise : s.terminationPromise = s₀.terminationPromise) :
    Change (some reason) rejected s₀ (requestTermination x answers reason s) := by
  have hrunning : s.Running ↔ s₀.Running := by
    unfold State.Running
    rw [hexit, hsignal]
  unfold requestTermination
  dsimp only
  by_cases hearly : s.closed = true ∨ ¬ s.Running ∨ s.terminationPromise ≠ none
  · rw [if_pos hearly]
    refine .recorded reason rfl ?_ ?_ hclosed ?_ hclosing hrunning.mp hover hpromise
    · rwa [hclosed, hrunning, hpromise] at hearly
    · rw [← hhistory]
      rfl
    · rw [← hreason]
  · rw [if_neg hearly]
    push Not at hearly
    obtain ⟨hopen, hruns, hnone⟩ := hearly
    obtain ⟨effects, hquiet, htree, hstarted, hsettled, htclosed, htreason, htclosing, htover⟩ :=
      terminateProcessTree_spec x answers
        { s.emit [.requestTermination reason] with
          terminationReason := s.terminationReason.or (some reason) }
    refine .terminates reason effects rfl ?_ (hrunning.mp hruns) (hpromise ▸ hnone) hquiet ?_
      (htclosed.trans hclosed) ?_ (htclosing.trans hclosing) (htover.trans hover) hstarted hsettled
    · rw [← hclosed]
      simpa using hopen
    · rw [htree, ← hhistory]
      simp [State.emit]
    · rw [htreason, ← hreason]

theorem appendOutput_change (answers : Answers) (chunk : Chunk) (target : Stream) :
    Change (raises x s (.stdout chunk)) rejected s (appendOutput x answers chunk target s) := by
  unfold appendOutput raises
  dsimp only
  cases htruncated : s.truncated with
  | true =>
    rw [if_pos rfl, if_neg (by simp)]
    exact Change.refl s
  | false =>
    rw [if_neg Bool.false_ne_true]
    by_cases hspent : (x.maxOutputBytes : ℤ) - s.capturedBytes ≤ 0
    · rw [if_pos hspent, if_pos ⟨rfl, .inl hspent⟩]
      exact requestTermination_change answers .output rfl rfl rfl rfl rfl rfl rfl rfl
    · rw [if_neg hspent]
      by_cases hover : (chunk.toBuffer.length : ℤ) > x.maxOutputBytes - s.capturedBytes
      · rw [if_pos hover, if_pos ⟨rfl, .inr hover⟩]
        cases target with
        | stdout => exact requestTermination_change answers .output rfl rfl rfl rfl rfl rfl rfl rfl
        | stderr => exact requestTermination_change answers .output rfl rfl rfl rfl rfl rfl rfl rfl
      · have hfits : ¬ (false = false ∧ ((x.maxOutputBytes : ℤ) - s.capturedBytes ≤ 0 ∨
            (chunk.toBuffer.length : ℤ) > x.maxOutputBytes - s.capturedBytes)) := by
          rintro ⟨_, hspent' | hover'⟩
          · exact hspent hspent'
          · exact hover hover'
        rw [if_neg hover, if_neg hfits]
        cases target with
        | stdout =>
          exact .quiet [] rfl (by simp) (by simp [State.push]) rfl rfl rfl id rfl (.inl ⟨rfl, rfl⟩)
        | stderr =>
          exact .quiet [] rfl (by simp) (by simp [State.push]) rfl rfl rfl id rfl (.inl ⟨rfl, rfl⟩)

theorem close_change (x : Execution) (answers : Answers) (exitCode : Option ℤ) (signal : Option String)
    (now : ℤ) : Change none rejected s (step x s ⟨.close exitCode signal now, answers⟩) := by
  unfold step
  dsimp only
  cases hclosed : s.closed with
  | true =>
    rw [if_pos rfl]
    exact Change.refl s
  | false =>
    rw [if_neg (by simp)]
    cases hpromise : s.terminationPromise with
    | some termination =>
      dsimp only
      exact .closes rfl hclosed rfl [] (by simp [State.emit]) (.inl ⟨rfl, rfl⟩) rfl id rfl
    | none =>
      dsimp only
      unfold deliver
      cases hsettled : s.settled with
      | true =>
        rw [if_pos (by simp [State.emit, hsettled])]
        exact .closes rfl hclosed rfl [] (by simp [State.emit]) (.inl ⟨rfl, rfl⟩) rfl id rfl
      | false =>
        rw [if_neg (by simp [State.emit, hsettled])]
        exact .closes rfl hclosed rfl [.resolved _] rfl
          (.inr ⟨hpromise, rfl, _, rfl, rfl, rfl, rfl, rfl⟩) rfl id rfl

theorem resume_change (x : Execution) (answers : Answers) (now : ℤ) :
    Change none rejected s (step x s ⟨.resume now, answers⟩) := by
  unfold step
  dsimp only
  split
  · next exitCode signal hclosing hpromise =>
    have hawaits : s.closing ≠ none := by
      rw [hclosing]
      intro hfalse
      cases hfalse
    unfold deliver
    cases hsettled : s.settled with
    | true =>
      exact .resumes rfl hawaits rfl [] (by simp) (.inl ⟨rfl, hsettled.symm⟩) rfl rfl id hpromise rfl
    | false =>
      exact .resumes rfl hawaits rfl [.resolved _] rfl (.inr ⟨rfl, _, rfl, rfl, rfl, rfl, rfl⟩) rfl
        rfl id hpromise rfl
  · exact Change.refl s

theorem graceElapsed_change (x : Execution) (answers : Answers) :
    Change none rejected s (step x s ⟨.graceElapsed, answers⟩) := by
  unfold step
  dsimp only
  split
  · next killGraceMs hpromise =>
    refine .quiet (signalPosixProcessGroup x.pid .SIGKILL answers.groupThrows ++ [.terminated])
      rfl ?_ rfl rfl rfl rfl id rfl (.inr ⟨?_, rfl, by simp⟩)
    · intro effect heffect
      rcases List.mem_append.mp heffect with hkill | hlast
      · exact quiet_signal _ _ _ effect hkill
      · rw [List.mem_singleton.mp hlast]
        trivial
    · rw [hpromise]
      intro hfalse
      cases hfalse
  · exact Change.refl s

/-- Every turn is of one of the kinds. -/
theorem step_change (x : Execution) (s : State) (turn : Turn) :
    Change (raises x s turn.event) (rejection s turn.event) s (step x s turn) := by
  obtain ⟨event, answers⟩ := turn
  cases event with
  | stdout chunk => exact appendOutput_change answers chunk .stdout
  | stderr chunk => exact appendOutput_change answers chunk .stderr
  | exit exitCode signal =>
    unfold step
    dsimp only
    by_cases hruns : s.Running
    · rw [if_pos hruns]
      cases signal with
      | some signal =>
        exact .quiet [] rfl (by simp) (by simp) rfl rfl rfl (fun _ => hruns) rfl (.inl ⟨rfl, rfl⟩)
      | none =>
        exact .quiet [] rfl (by simp) (by simp) rfl rfl rfl (fun _ => hruns) rfl (.inl ⟨rfl, rfl⟩)
    · rw [if_neg hruns]
      exact Change.refl s
  | close exitCode signal now => exact close_change x answers exitCode signal now
  | resume now => exact resume_change x answers now
  | timeout =>
    unfold step raises
    dsimp only
    cases htimeout : s.timeout with
    | true => exact requestTermination_change answers .timeout rfl rfl rfl rfl rfl rfl rfl rfl
    | false => exact Change.refl s
  | abort =>
    unfold step raises
    dsimp only
    cases habort : s.abortListener with
    | true => exact requestTermination_change answers .cancelled rfl rfl rfl rfl rfl rfl rfl rfl
    | false => exact Change.refl s
  | error code =>
    unfold step rejection
    dsimp only
    cases hsettled : s.settled with
    | true => exact Change.refl s
    | false => exact .rejects (processStartError code) rfl rfl rfl rfl rfl rfl id rfl rfl
  | graceElapsed => exact graceElapsed_change x answers
  | killerError =>
    unfold step
    dsimp only
    split
    · next hpromise => exact finish_change true (by simp [hpromise])
    · exact Change.refl s
  | killerClose code =>
    unfold step
    dsimp only
    split
    · next hpromise => exact finish_change (code ≠ some 0) (by simp [hpromise])
    · exact Change.refl s

end Turns

/-! ## Runs -/

theorem not_closed_of_quiet {effects : List Effect} (h : ∀ effect ∈ effects, effect.Quiet) :
    .closed ∉ effects := fun hmem => h _ hmem

theorem reasons_of_quiet {effects : List Effect} (h : ∀ effect ∈ effects, effect.Quiet) :
    reasons effects = [] := by
  unfold reasons
  rw [List.filterMap_eq_nil_iff]
  intro effect heffect
  have hquiet := h effect heffect
  cases effect with
  | requestTermination reason => cases hquiet
  | terminateProcessTree | kill _ | killGroup _ _ | taskkill _ | terminated | closed | resolved _
  | rejected _ => rfl

theorem count_of_quiet {effects : List Effect} (h : ∀ effect ∈ effects, effect.Quiet) :
    effects.count .terminateProcessTree = 0 := by
  rw [List.count_eq_zero]
  intro hmem
  exact h _ hmem

theorem not_delivered_of_quiet {effects : List Effect} (h : ∀ effect ∈ effects, effect.Quiet) :
    ∀ effect ∈ effects, ¬ effect.IsDelivered := by
  intro effect hmem hdelivered
  have hquiet := h effect hmem
  cases effect with
  | resolved _ | rejected _ => cases hquiet
  | requestTermination _ | terminateProcessTree | kill _ | killGroup _ _ | taskkill _ | terminated
  | closed => cases hdelivered

theorem reasons_append (l m : List Effect) : reasons (l ++ m) = reasons l ++ reasons m :=
  List.filterMap_append

theorem reasonsBeforeClose_of_mem {l : List Effect} (h : .closed ∈ l) (m : List Effect) :
    reasonsBeforeClose (l ++ m) = reasonsBeforeClose l := by
  unfold reasonsBeforeClose
  rw [upTo_append_of_mem (q := (· = Effect.closed)) ⟨_, h, rfl⟩]

theorem reasonsBeforeClose_of_not_mem {l : List Effect} (h : .closed ∉ l) (m : List Effect) :
    reasonsBeforeClose (l ++ m) = reasons l ++ reasonsBeforeClose m := by
  have hopen : ∀ x ∈ l, ¬ x = Effect.closed := fun x hx heq => h (heq ▸ hx)
  unfold reasonsBeforeClose
  rw [upTo_append_of_forall hopen, reasons_append]

theorem reasonsBeforeClose_eq {l : List Effect} (h : .closed ∉ l) :
    reasonsBeforeClose l = reasons l :=
  calc reasonsBeforeClose l
      _ = reasonsBeforeClose (l ++ []) := by rw [List.append_nil]
      _ = reasons l ++ reasonsBeforeClose [] := reasonsBeforeClose_of_not_mem h []
      _ = reasons l := List.append_nil _

theorem raised_append {l m : List Effect} (h : reasonsBeforeClose l ≠ []) :
    reasonsBeforeClose (l ++ m) ≠ [] := by
  by_cases hmem : .closed ∈ l
  · rwa [reasonsBeforeClose_of_mem hmem]
  · rw [reasonsBeforeClose_of_not_mem hmem, ← reasonsBeforeClose_eq hmem]
    simp [h]

/-- A reason that is raised before the close event is one. -/
theorem raised_request {l m : List Effect} (hopen : .closed ∉ l) (reason : TerminationReason) :
    reasonsBeforeClose (l ++ .requestTermination reason :: m) ≠ [] := by
  rw [reasonsBeforeClose_of_not_mem hopen]
  simp [reasonsBeforeClose, upTo, reasons, Effect.reason?]

/-- Effects without a reason raise none, before the close event or after it. -/
theorem reasonsBeforeClose_append {l m : List Effect} (h : reasonsBeforeClose m = []) :
    reasonsBeforeClose (l ++ m) = reasonsBeforeClose l := by
  by_cases hmem : .closed ∈ l
  · exact reasonsBeforeClose_of_mem hmem m
  · rw [reasonsBeforeClose_of_not_mem hmem, h, List.append_nil, reasonsBeforeClose_eq hmem]

theorem reasonsBeforeClose_of_quiet {effects : List Effect}
    (h : ∀ effect ∈ effects, effect.Quiet) : reasonsBeforeClose effects = [] := by
  rw [reasonsBeforeClose_eq (not_closed_of_quiet h), reasons_of_quiet h]

/-- What holds after every run. -/
structure Ledger (s : State) : Prop where
  closed : s.closed = true ↔ .closed ∈ s.history
  closing : s.closing ≠ none → s.closed = true
  reason : s.terminationReason = (reasons s.history).head?
  requested : s.history.count .terminateProcessTree =
    if s.terminationPromise = none then 0 else 1
  cause : s.terminationPromise ≠ none → reasonsBeforeClose s.history ≠ []
  settled : s.terminationPromise = some .settled ↔ .terminated ∈ s.history
  delivered : s.settled = true ↔ ∃ effect ∈ s.history, effect.IsDelivered

theorem ledger_started : Ledger started where
  closed := by simp [started]
  closing h := absurd rfl h
  reason := rfl
  requested := rfl
  cause h := absurd rfl h
  settled := by simp [started]
  delivered := by simp [started]

section Change
variable {s s' : State} {raised : Option TerminationReason} {rejected : Option ToolDomainError}

theorem Change.extends (h : Change raised rejected s s') : ∃ effects, s'.history = s.history ++ effects := by
  cases h with
  | quiet _ _ _ hhistory | recorded _ _ _ hhistory | resumes _ _ _ _ hhistory
  | rejects _ _ _ hhistory =>
    exact ⟨_, hhistory⟩
  | terminates _ _ _ _ _ _ _ hhistory | closes _ _ _ _ hhistory =>
    rw [List.append_assoc] at hhistory
    exact ⟨_, hhistory⟩

theorem Ledger.not_mem (h : Ledger s) (hopen : s.closed = false) : .closed ∉ s.history := by
  intro hmem
  rw [h.closed.mpr hmem] at hopen
  cases hopen

theorem Ledger.not_delivered (h : Ledger s) (hover : s.settled = false) :
    ∀ effect ∈ s.history, ¬ effect.IsDelivered := by
  intro effect hmem hdelivered
  rw [h.delivered.mpr ⟨effect, hmem, hdelivered⟩] at hover
  cases hover

theorem Ledger.first (h : Ledger s) (hopen : s.closed = false) :
    s.terminationReason = none ↔ reasonsBeforeClose s.history = [] := by
  rw [h.reason, reasonsBeforeClose_eq (h.not_mem hopen), List.head?_eq_none_iff]

/-- A turn that appends effects and keeps the fields in step with them. -/
theorem Ledger.append (h : Ledger s) {effects : List Effect}
    (hhistory : s'.history = s.history ++ effects)
    (hclosed : s'.closed = true ↔ s.closed = true ∨ .closed ∈ effects)
    (hclosing : s'.closing ≠ none → s'.closed = true)
    (hreason : s'.terminationReason = s.terminationReason.or (reasons effects).head?)
    (hrequested : (if s'.terminationPromise = none then 0 else 1) =
      (if s.terminationPromise = none then 0 else 1) + effects.count .terminateProcessTree)
    (hcause : s'.terminationPromise ≠ none →
      s.terminationPromise ≠ none ∨ reasonsBeforeClose s'.history ≠ [])
    (hsettled : s'.terminationPromise = some .settled ↔
      s.terminationPromise = some .settled ∨ .terminated ∈ effects)
    (hdelivered : s'.settled = true ↔
      s.settled = true ∨ ∃ effect ∈ effects, effect.IsDelivered) : Ledger s' where
  closed := by rw [hclosed, h.closed, hhistory, List.mem_append]
  closing := hclosing
  reason := by rw [hreason, h.reason, hhistory, reasons_append, List.head?_append]
  requested := by rw [hhistory, List.count_append, h.requested, hrequested]
  cause hsome := by
    rcases hcause hsome with hbefore | hraised
    · rw [hhistory]
      exact raised_append (h.cause hbefore)
    · exact hraised
  settled := by rw [hsettled, h.settled, hhistory, List.mem_append]
  delivered := by simp only [hdelivered, h.delivered, hhistory, List.mem_append, or_and_right, exists_or]

/-- The termination stays as it is. -/
theorem Ledger.frame (h : Ledger s) {effects : List Effect}
    (hhistory : s'.history = s.history ++ effects)
    (hclosed : s'.closed = true ↔ s.closed = true ∨ .closed ∈ effects)
    (hclosing : s'.closing ≠ none → s'.closed = true)
    (hreason : s'.terminationReason = s.terminationReason.or (reasons effects).head?)
    (hpromise : s'.terminationPromise = s.terminationPromise)
    (hidle : ∀ effect ∈ effects, effect ≠ .terminateProcessTree ∧ effect ≠ .terminated)
    (hdelivered : s'.settled = true ↔
      s.settled = true ∨ ∃ effect ∈ effects, effect.IsDelivered) : Ledger s' := by
  have hrequest : .terminateProcessTree ∉ effects := fun hmem => (hidle _ hmem).1 rfl
  have hterminated : .terminated ∉ effects := fun hmem => (hidle _ hmem).2 rfl
  refine h.append hhistory hclosed hclosing hreason ?_ (fun hsome => .inl (hpromise ▸ hsome)) ?_
    hdelivered
  · rw [hpromise, List.count_eq_zero.mpr hrequest, Nat.add_zero]
  · rw [hpromise, or_iff_left hterminated]

theorem Ledger.quiet (h : Ledger s) {effects : List Effect}
    (heffects : ∀ effect ∈ effects, effect.Quiet) (hhistory : s'.history = s.history ++ effects)
    (hclosed : s'.closed = s.closed) (hreason : s'.terminationReason = s.terminationReason)
    (hclosing : s'.closing = s.closing) (hover : s'.settled = s.settled)
    (hpromise : effects = [] ∧ s'.terminationPromise = s.terminationPromise ∨
      s.terminationPromise ≠ none ∧ s'.terminationPromise = some .settled ∧
        .terminated ∈ effects) : Ledger s' := by
  refine h.append hhistory ?_ ?_ ?_ ?_ ?_ ?_ ?_
  · rw [hclosed, or_iff_left (not_closed_of_quiet heffects)]
  · rw [hclosing, hclosed]
    exact h.closing
  · rw [hreason, reasons_of_quiet heffects, List.head?_nil, Option.or_none]
  · rw [count_of_quiet heffects, Nat.add_zero]
    rcases hpromise with ⟨_, hsame⟩ | ⟨hsome, hsettled, _⟩
    · rw [hsame]
    · rw [if_neg hsome, hsettled, if_neg (by simp)]
  · intro hsome'
    rcases hpromise with ⟨_, hsame⟩ | ⟨hsome, _⟩
    · exact .inl (hsame ▸ hsome')
    · exact .inl hsome
  · rcases hpromise with ⟨rfl, hsame⟩ | ⟨_, hsettled, hmem⟩
    · rw [hsame, or_iff_left List.not_mem_nil]
    · exact iff_of_true hsettled (.inr hmem)
  · rw [hover, or_iff_left]
    rintro ⟨effect, hmem, hdelivered⟩
    exact not_delivered_of_quiet heffects effect hmem hdelivered

theorem Ledger.terminates (h : Ledger s) {reason : TerminationReason} {effects : List Effect}
    (hopen : s.closed = false) (hnone : s.terminationPromise = none)
    (heffects : ∀ effect ∈ effects, effect.Quiet)
    (hhistory : s'.history = s.history ++ .requestTermination reason :: .terminateProcessTree :: effects)
    (hclosed : s'.closed = s.closed)
    (hreason : s'.terminationReason = s.terminationReason.or (some reason))
    (hclosing : s'.closing = s.closing) (hover : s'.settled = s.settled)
    (hpromise : s'.terminationPromise ≠ none)
    (hsettled : s'.terminationPromise = some .settled ↔ .terminated ∈ effects) : Ledger s' := by
  refine h.append hhistory ?_ ?_ hreason ?_ (fun _ => .inr ?_) ?_ ?_
  · rw [hclosed, or_iff_left]
    simpa using not_closed_of_quiet heffects
  · rw [hclosing, hclosed]
    exact h.closing
  · rw [if_pos hnone, if_neg hpromise]
    simp [count_of_quiet heffects]
  · rw [hhistory]
    exact raised_request (h.not_mem hopen) reason
  · rw [hsettled, hnone]
    simp
  · rw [hover, or_iff_left]
    simpa [Effect.IsDelivered] using not_delivered_of_quiet heffects

/-- With the results of a turn that delivers one at most. -/
theorem Ledger.resolves (h : Ledger s) {fore results : List Effect}
    (hhistory : s'.history = s.history ++ (fore ++ results))
    (hfore : ∀ effect ∈ fore, effect = .closed)
    (hresults : results = [] ∧ s'.settled = s.settled ∨
      s'.settled = true ∧ ∃ result, results = [.resolved result])
    (hclosed : s'.closed = true ↔ s.closed = true ∨ .closed ∈ fore)
    (hclosing : s'.closing ≠ none → s'.closed = true)
    (hreason : s'.terminationReason = s.terminationReason)
    (hpromise : s'.terminationPromise = s.terminationPromise) : Ledger s' := by
  have hreasons : reasons fore = [] :=
    List.filterMap_eq_nil_iff.mpr fun effect hmem => by rw [hfore effect hmem]; rfl
  have hundelivered : ¬ ∃ effect ∈ fore, effect.IsDelivered := by
    rintro ⟨effect, hmem, hdelivered⟩
    rw [hfore effect hmem] at hdelivered
    exact hdelivered
  rcases hresults with ⟨rfl, hover⟩ | ⟨hover, result, rfl⟩
  · rw [List.append_nil] at hhistory
    refine h.frame hhistory hclosed hclosing ?_ hpromise ?_ ?_
    · rw [hreason, hreasons, List.head?_nil, Option.or_none]
    · exact fun effect hmem => by simp [hfore effect hmem]
    · rw [hover, or_iff_left hundelivered]
  · refine h.frame hhistory ?_ hclosing ?_ hpromise ?_ ?_
    · simpa using hclosed
    · rw [hreason, reasons_append, hreasons]
      exact (Option.or_none).symm
    · intro effect hmem
      rcases List.mem_append.mp hmem with hold | hlast
      · simp [hfore effect hold]
      · simp [List.mem_singleton.mp hlast]
    · exact iff_of_true hover (.inr ⟨.resolved result, by simp, trivial⟩)

theorem Ledger.change (h : Ledger s) (hchange : Change raised rejected s s') : Ledger s' := by
  cases hchange with
  | quiet effects _ heffects hhistory hclosed hreason hclosing _ hover hpromise =>
    exact h.quiet heffects hhistory hclosed hreason hclosing hover hpromise
  | recorded reason _ _ hhistory hclosed hreason hclosing _ hover hpromise =>
    refine h.frame hhistory (by simp [hclosed]) ?_ hreason hpromise (by simp) ?_
    · rw [hclosing, hclosed]
      exact h.closing
    · simp [hover, Effect.IsDelivered]
  | terminates reason effects _ hopen _ hnone heffects hhistory hclosed hreason hclosing hover
      hpromise hsettled =>
    rw [List.append_assoc] at hhistory
    exact h.terminates hopen hnone heffects hhistory hclosed hreason hclosing hover hpromise hsettled
  | closes _ _ hclosed results hhistory hresults hreason _ hpromise =>
    rw [List.append_assoc] at hhistory
    refine h.resolves hhistory (by simp) (hresults.imp_right ?_) (by simp [hclosed])
      (fun _ => hclosed) hreason hpromise
    rintro ⟨_, hover, result, hone, _⟩
    exact ⟨hover, result, hone⟩
  | resumes _ _ hclosed results hhistory hresults hreason hclosing _ _ hpromise =>
    refine h.resolves ((List.nil_append results).symm ▸ hhistory) (by simp) (hresults.imp_right ?_)
      (by simp [hclosed]) (fun hsome => absurd hclosing hsome) hreason hpromise
    rintro ⟨hover, result, hone, _⟩
    exact ⟨hover, result, hone⟩
  | rejects error _ _ hhistory hclosed hreason hclosing _ hover hpromise =>
    refine h.frame hhistory (by simp [hclosed]) ?_ ?_ hpromise (by simp) ?_
    · rw [hclosing, hclosed]
      exact h.closing
    · rw [hreason]
      exact (Option.or_none).symm
    · simp [hover, Effect.IsDelivered]

/-- A reason before the close event has had the tree terminated. -/
def Timely (s : State) : Prop :=
  reasonsBeforeClose s.history ≠ [] →
    s.terminationPromise ≠ none ∧ Precedes (· = .terminated) Effect.IsDelivered s.history

theorem Timely.change (h : Timely s) (hledger : Ledger s) (hchange : Change raised rejected s s')
    (hreason : raised ≠ none → s.closed = false → s.terminationReason = none →
      s.Running ∧ s.settled = false)
    (herror : rejected ≠ none →
      s.terminationPromise = none ∨ s.terminationPromise = some .settled) :
    Timely s' := by
  intro hraised
  cases hchange with
  | quiet effects _ heffects hhistory _ _ _ _ _ hpromise =>
    rw [hhistory, reasonsBeforeClose_append (reasonsBeforeClose_of_quiet heffects)] at hraised
    obtain ⟨hsome, hprecedes⟩ := h hraised
    refine ⟨?_, hhistory ▸ hprecedes.append (not_delivered_of_quiet heffects)⟩
    rcases hpromise with ⟨_, hsame⟩ | ⟨_, hsettled, _⟩
    · rwa [hsame]
    · rw [hsettled]
      intro hfalse
      cases hfalse
  | recorded reason hreasons hearly hhistory hclosed _ _ _ _ hpromise =>
    have hbefore : reasonsBeforeClose s.history ≠ [] := by
      cases hopen : s.closed with
      | true => rwa [hhistory, reasonsBeforeClose_of_mem (hledger.closed.mp hopen)] at hraised
      | false =>
        -- A first reason finds the child running, so only an earlier termination makes it return.
        by_contra hnil
        have hfirst := (hledger.first hopen).mpr hnil
        have hruns := (hreason (by simp [hreasons]) hopen hfirst).1
        rcases hearly with hshut | hgone | hsome
        · rw [hopen] at hshut
          cases hshut
        · exact hgone hruns
        · exact hledger.cause hsome hnil
    obtain ⟨hsome, hprecedes⟩ := h hbefore
    rw [hpromise, hhistory]
    exact ⟨hsome, hprecedes.append (by simp [Effect.IsDelivered])⟩
  | terminates reason effects hreasons hopen _ hnone heffects hhistory _ _ _ _ hpromise _ =>
    have hfirst : s.terminationReason = none := by
      rw [hledger.first hopen]
      by_contra hbefore
      exact (h hbefore).1 hnone
    have hover := (hreason (by simp [hreasons]) hopen hfirst).2
    refine ⟨hpromise, precedes_of_forall ?_⟩
    intro effect hmem
    rw [hhistory, List.append_assoc] at hmem
    rcases List.mem_append.mp hmem with hold | hnew
    · exact hledger.not_delivered hover effect hold
    · rcases List.mem_append.mp hnew with htwo | hquiet
      · rcases List.mem_pair.mp htwo with rfl | rfl
        · exact id
        · exact id
      · exact not_delivered_of_quiet heffects effect hquiet
  | closes _ hopen _ results hhistory hresults _ _ hpromise =>
    rw [hhistory, List.append_assoc, reasonsBeforeClose_append (by simp [reasonsBeforeClose, upTo,
      reasons])] at hraised
    obtain ⟨hsome, hprecedes⟩ := h hraised
    rw [hpromise]
    rcases hresults with ⟨rfl, _⟩ | ⟨hnone, _⟩
    · refine ⟨hsome, hhistory ▸ ?_⟩
      rw [List.append_nil]
      exact hprecedes.append (by simp [Effect.IsDelivered])
    · exact absurd hnone hsome
  | resumes _ hawaits _ results hhistory hresults _ _ _ hsettled hpromise =>
    rw [hhistory, reasonsBeforeClose_of_mem (hledger.closed.mp (hledger.closing hawaits))] at hraised
    obtain ⟨hsome, hprecedes⟩ := h hraised
    rw [hpromise, hhistory]
    refine ⟨hsome, ?_⟩
    rcases hresults with ⟨rfl, _⟩ | ⟨_, result, rfl, _⟩
    · rwa [List.append_nil]
    · exact hprecedes.concat fun _ => ⟨_, hledger.settled.mp hsettled, rfl⟩
  | rejects error _ hrejected hhistory _ _ _ _ _ hpromise =>
    rw [hhistory, reasonsBeforeClose_append (by simp [reasonsBeforeClose, upTo, reasons,
      Effect.reason?])] at hraised
    obtain ⟨hsome, hprecedes⟩ := h hraised
    rw [hpromise, hhistory]
    refine ⟨hsome, hprecedes.concat fun _ => ⟨_, hledger.settled.mp ?_, rfl⟩⟩
    exact (herror (by simp [hrejected])).resolve_left hsome

/-- The child is gone and a reason before the close event has been passed over. -/
structure Missed (s : State) : Prop where
  gone : ¬ s.Running
  promise : s.terminationPromise = none
  raised : reasonsBeforeClose s.history ≠ []

theorem Missed.change (h : Missed s) (hchange : Change raised rejected s s') : Missed s' := by
  obtain ⟨effects, hextends⟩ := hchange.extends
  have hraised : reasonsBeforeClose s'.history ≠ [] := by
    rw [hextends]
    exact raised_append h.raised
  cases hchange with
  | quiet _ _ _ _ _ _ _ hrunning _ hpromise =>
    refine ⟨fun hruns => h.gone (hrunning hruns), ?_, hraised⟩
    rcases hpromise with ⟨_, hsame⟩ | ⟨hsome, _⟩
    · exact hsame.trans h.promise
    · exact absurd h.promise hsome
  | recorded _ _ _ _ _ _ _ hrunning _ hpromise | closes _ _ _ _ _ _ _ hrunning hpromise
  | rejects _ _ _ _ _ _ _ hrunning _ hpromise =>
    exact ⟨fun hruns => h.gone (hrunning hruns), hpromise.trans h.promise, hraised⟩
  | terminates _ _ _ _ hruns => exact absurd hruns h.gone
  | resumes _ _ _ _ _ _ _ _ _ hsettled =>
    rw [h.promise] at hsettled
    cases hsettled

/-- A first reason is on record after its turn. -/
theorem Ledger.raises (h : Ledger s) (hchange : Change raised rejected s s') (hraised : raised ≠ none)
    (hopen : s.closed = false) : reasonsBeforeClose s'.history ≠ [] := by
  cases hchange with
  | quiet _ hnone | closes hnone | resumes hnone | rejects _ hnone => exact absurd hnone hraised
  | recorded reason _ _ hhistory =>
    rw [hhistory]
    exact raised_request (h.not_mem hopen) reason
  | terminates reason _ _ _ _ _ _ hhistory =>
    rw [hhistory, List.append_assoc]
    exact raised_request (h.not_mem hopen) reason

/-- The first reason after the exit of the child is passed over. -/
theorem Ledger.missed (h : Ledger s) (hchange : Change raised rejected s s') (hraised : raised ≠ none)
    (hopen : s.closed = false) (hfirst : s.terminationReason = none) (hgone : ¬ s.Running) :
    Missed s' := by
  have hnone : s.terminationPromise = none := by
    by_contra hsome
    exact h.cause hsome ((h.first hopen).mp hfirst)
  have hrecord := h.raises hchange hraised hopen
  cases hchange with
  | quiet _ hraised' | closes hraised' | resumes hraised' | rejects _ hraised' =>
    exact absurd hraised' hraised
  | recorded _ _ _ _ _ _ _ hrunning _ hpromise =>
    exact ⟨fun hruns => hgone (hrunning hruns), hpromise.trans hnone, hrecord⟩
  | terminates _ _ _ _ hruns => exact absurd hruns hgone

/-- The call is over before the termination for a reason before the close event has completed. -/
structure Premature (s : State) : Prop where
  raised : reasonsBeforeClose s.history ≠ []
  delivered : ¬ Precedes (· = .terminated) Effect.IsDelivered s.history

theorem Premature.change (h : Premature s) (hchange : Change raised rejected s s') :
    Premature s' := by
  obtain ⟨effects, hextends⟩ := hchange.extends
  constructor
  · rw [hextends]
    exact raised_append h.raised
  · rw [hextends]
    exact fun hprecedes => h.delivered hprecedes.of_append

/-- The first reason comes when the call is over. -/
theorem Ledger.premature_of_reason (h : Ledger s) (hchange : Change raised rejected s s')
    (hraised : raised ≠ none) (hopen : s.closed = false) (hfirst : s.terminationReason = none)
    (hover : s.settled = true) : Premature s' := by
  refine ⟨h.raises hchange hraised hopen, ?_⟩
  obtain ⟨effects, hextends⟩ := hchange.extends
  rw [hextends]
  intro hprecedes
  refine not_precedes (h.delivered.mp hover) ?_ hprecedes.of_append
  rintro effect hmem rfl
  refine h.cause ?_ ((h.first hopen).mp hfirst)
  rw [h.settled.mpr hmem]
  exact Option.some_ne_none _

/-- An error ends the call while the termination is under way. -/
theorem Ledger.premature_of_error (h : Ledger s) {error : ToolDomainError}
    (hhistory : s'.history = s.history ++ [.rejected error]) (hsome : s.terminationPromise ≠ none)
    (hunsettled : s.terminationPromise ≠ some .settled) : Premature s' := by
  constructor
  · rw [hhistory]
    exact raised_append (h.cause hsome)
  · rw [hhistory]
    refine not_precedes ⟨.rejected error, by simp, trivial⟩ ?_
    rintro effect hmem rfl
    exact hunsettled (h.settled.mpr (by simpa using hmem))

end Change

/-- The error handler rejects an open call at once. -/
theorem step_rejection {x : Execution} {s : State} {turn : Turn} {error : ToolDomainError}
    (h : rejection s turn.event = some error) :
    (step x s turn).history = s.history ++ [.rejected error] := by
  obtain ⟨event, answers⟩ := turn
  cases event with
  | error code =>
    unfold rejection at h
    dsimp only at h
    unfold step
    dsimp only
    cases hover : s.settled with
    | true =>
      rw [hover] at h
      cases h
    | false =>
      rw [hover] at h
      cases h
      rfl
  | stdout _ | stderr _ | exit _ _ | close _ _ _ | resume _ | timeout | abort | graceElapsed
  | killerError | killerClose _ => cases h

theorem ledger_run (x : Execution) (turns : List Turn) : Ledger (run x turns) :=
  runFrom_invariant (fun s turn h => h.change (step_change x s turn)) ledger_started turns

theorem timely_run {x : Execution} {turns : List Turn}
    (h : Along (step x) (InTime x) started turns) :
    Ledger (run x turns) ∧ Timely (run x turns) := by
  refine Along.invariant (P := fun s => Ledger s ∧ Timely s) ?_
    ⟨ledger_started, fun hfalse => absurd rfl hfalse⟩ h
  rintro s turn ⟨hledger, htimely⟩ hintime
  exact ⟨hledger.change (step_change x s turn),
    htimely.change hledger (step_change x s turn) hintime.reason hintime.error⟩

/-- A turn that is not in time leaves the tree alone, or ends the call too early, for good. -/
theorem missed_or_premature {x : Execution} {s : State} {turn : Turn} (h : Ledger s)
    (hturn : ¬ InTime x s turn) : Missed (step x s turn) ∨ Premature (step x s turn) := by
  have hchange := step_change x s turn
  by_cases hreason : raises x s turn.event ≠ none → s.closed = false → s.terminationReason = none →
      s.Running ∧ s.settled = false
  · have herror : ¬ (rejection s turn.event ≠ none →
        s.terminationPromise = none ∨ s.terminationPromise = some .settled) :=
      fun herror => hturn ⟨hreason, herror⟩
    push Not at herror
    obtain ⟨hrejected, hsome, hunsettled⟩ := herror
    obtain ⟨error, herror⟩ := Option.ne_none_iff_exists'.mp hrejected
    exact .inr (h.premature_of_error (step_rejection herror) hsome hunsettled)
  · push Not at hreason
    obtain ⟨hraised, hopen, hfirst, hlate⟩ := hreason
    by_cases hruns : s.Running
    · have hover : s.settled = true := by simpa using hlate hruns
      exact .inr (h.premature_of_reason hchange hraised hopen hfirst hover)
    · exact .inl (h.missed hchange hraised hopen hfirst hruns)

/-- A call with a reason before the close event has its tree terminated, once and before it delivers
anything, exactly when the first such reason finds the direct child running and the call not over,
and no error ends the call while the termination is under way. -/
theorem terminatesTree_iff_inTime (x : Execution) (turns : List Turn) :
    TerminatesTree (run x turns).history ↔ Along (step x) (InTime x) started turns := by
  constructor
  · intro hterminates
    by_contra hlate
    obtain ⟨before, turn, after, rfl, hturn⟩ := exists_of_not_along hlate
    have hsplit : run x (before ++ turn :: after) =
        runFrom (step x) (step x (run x before) turn) after := by
      unfold run
      rw [runFrom_append, runFrom_cons]
    -- What goes wrong in the turn is not put right by a later one.
    rcases missed_or_premature (ledger_run x before) hturn with hmissed | hpremature
    · have hend : Missed (run x (before ++ turn :: after)) := by
        rw [hsplit]
        exact runFrom_invariant (fun s turn h => h.change (step_change x s turn)) hmissed after
      have hcount := (hterminates hend.raised).1
      rw [(ledger_run x _).requested, if_pos hend.promise] at hcount
      cases hcount
    · have hend : Premature (run x (before ++ turn :: after)) := by
        rw [hsplit]
        exact runFrom_invariant (fun s turn h => h.change (step_change x s turn)) hpremature after
      exact hend.delivered (hterminates hend.raised).2
  · intro h hraised
    obtain ⟨hledger, htimely⟩ := timely_run h
    obtain ⟨hsome, hprecedes⟩ := htimely hraised
    refine ⟨?_, hprecedes⟩
    rw [hledger.requested, if_neg hsome]

def background : Execution where
  platform := .posix
  maxOutputBytes := 1048576
  killGraceMs := 250
  pid := some 7
  startedAt := 0

/-- The direct child has exited, a descendant holds its streams, and the timer fires. -/
def orphaned : List Turn := [{ event := .exit 0 none }, { event := .timeout }]

/-- The call is aborted, and the child, which may not be killed, reports it. -/
def refused : List Turn := [{ event := .abort, answers := { groupThrows := true } },
  { event := .error .EPERM }]

theorem terminatesTree_fails :
    ¬ TerminatesTree (run background orphaned).history ∧
      ¬ TerminatesTree (run background refused).history := by
  constructor
  · intro h
    exact absurd (h (by decide)).1 (by decide)
  · intro h
    have herror : Effect.rejected (processStartError .EPERM) ∈ (run background refused).history := by
      decide
    refine not_precedes ⟨_, herror, trivial⟩ ?_ (h (by decide)).2
    rintro effect hmem rfl
    exact absurd hmem (by decide)

end Doctmcp.Tools.ShellExec

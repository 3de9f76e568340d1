import Mathlib.Data.List.Induction
import Doctmcp.Tools.Termination

/-! # Bounded capture of the output

Both streams draw on one budget of `maxOutputBytes`. While it lasts everything emitted is captured;
the chunk that exceeds it is cut, and what comes later is dropped. -/

namespace Doctmcp.Tools.ShellExec
open Doctmcp.Lib
set_option autoImplicit false

/-! ## The statement -/

/-- What a turn brings on a stream. -/
def Turn.bytes (target : Stream) (turn : Turn) : List UInt8 :=
  match target, turn.event with
  | .stdout, .stdout chunk => chunk.toBuffer
  | .stderr, .stderr chunk => chunk.toBuffer
  | _, _ => []

/-- The bytes emitted on a stream. -/
def emitted (target : Stream) (turns : List Turn) : List UInt8 := turns.flatMap (Turn.bytes target)

def State.captured (s : State) (target : Stream) : List UInt8 := (s.chunks target).flatten

/-- A chunk that a turn brings is not empty. -/
def Turn.Nonempty (turn : Turn) : Prop :=
  ∀ chunk, turn.event = .stdout chunk ∨ turn.event = .stderr chunk → chunk.toBuffer ≠ []

/-- The reasons for which the turns call `requestTermination`, the oldest first. -/
def raised (x : Execution) : State → List Turn → List TerminationReason
  | _, [] => []
  | s, turn :: turns => (raises x s turn.event).toList ++ raised x (step x s turn) turns

/-! ## What the output depends on -/

/-- Nothing is captured or dropped. -/
structure SameOutput (s s' : State) : Prop where
  stdout : s'.stdoutChunks = s.stdoutChunks
  stderr : s'.stderrChunks = s.stderrChunks
  bytes : s'.capturedBytes = s.capturedBytes
  truncated : s'.truncated = s.truncated

section Output
variable {x : Execution} {s s' : State}

theorem SameOutput.refl (s : State) : SameOutput s s := ⟨rfl, rfl, rfl, rfl⟩

theorem SameOutput.captured (h : SameOutput s s') (target : Stream) :
    s'.captured target = s.captured target := by
  unfold State.captured
  cases target with
  | stdout => exact congrArg _ h.stdout
  | stderr => exact congrArg _ h.stderr

theorem terminateProcessTree_output (x : Execution) (answers : Answers) (s : State) :
    SameOutput s (terminateProcessTree x answers s) := by
  unfold terminateProcessTree terminateWindowsProcessTree
  cases x.platform with
  | posix => exact ⟨rfl, rfl, rfl, rfl⟩
  | win32 =>
    cases x.pid.filter (· ≠ 0) with
    | none => exact ⟨rfl, rfl, rfl, rfl⟩
    | some pid =>
      cases hspawn : answers.spawnThrows with
      | true => exact ⟨rfl, rfl, rfl, rfl⟩
      | false => exact ⟨rfl, rfl, rfl, rfl⟩

theorem requestTermination_output (x : Execution) (answers : Answers) (reason : TerminationReason)
    (s : State) : SameOutput s (requestTermination x answers reason s) := by
  unfold requestTermination
  dsimp only
  split
  · exact ⟨rfl, rfl, rfl, rfl⟩
  · have htree := terminateProcessTree_output x answers
      { s.emit [.requestTermination reason] with
        terminationReason := s.terminationReason.or (some reason) }
    exact ⟨htree.stdout, htree.stderr, htree.bytes, htree.truncated⟩

theorem deliver_output (x : Execution) (exitCode : Option ℤ) (signal : Option String) (now : ℤ)
    (s : State) : SameOutput s (deliver x exitCode signal now s) := by
  unfold deliver
  split
  · exact SameOutput.refl s
  · exact ⟨rfl, rfl, rfl, rfl⟩

/-- Only a chunk changes the output. -/
theorem step_output (turn : Turn)
    (h : ∀ chunk, turn.event ≠ .stdout chunk ∧ turn.event ≠ .stderr chunk) :
    SameOutput s (step x s turn) := by
  obtain ⟨event, answers⟩ := turn
  unfold step
  cases event with
  | stdout chunk => exact absurd rfl (h chunk).1
  | stderr chunk => exact absurd rfl (h chunk).2
  | exit exitCode signal =>
    dsimp only
    split
    · cases signal with
      | some signal => exact ⟨rfl, rfl, rfl, rfl⟩
      | none => exact ⟨rfl, rfl, rfl, rfl⟩
    · exact SameOutput.refl s
  | close exitCode signal now =>
    dsimp only
    split
    · exact SameOutput.refl s
    · split
      · have hdeliver := deliver_output x exitCode signal now
          { s.emit [.closed] with closed := true }
        exact ⟨hdeliver.stdout, hdeliver.stderr, hdeliver.bytes, hdeliver.truncated⟩
      · exact ⟨rfl, rfl, rfl, rfl⟩
  | resume now =>
    dsimp only
    split
    · next exitCode signal _ _ =>
      have hdeliver := deliver_output x exitCode signal now { s with closing := none }
      exact ⟨hdeliver.stdout, hdeliver.stderr, hdeliver.bytes, hdeliver.truncated⟩
    · exact SameOutput.refl s
  | timeout =>
    dsimp only
    split
    · have hrequest := requestTermination_output x answers .timeout { s with timeout := false }
      exact ⟨hrequest.stdout, hrequest.stderr, hrequest.bytes, hrequest.truncated⟩
    · exact SameOutput.refl s
  | abort =>
    dsimp only
    split
    · have hrequest :=
        requestTermination_output x answers .cancelled { s with abortListener := false }
      exact ⟨hrequest.stdout, hrequest.stderr, hrequest.bytes, hrequest.truncated⟩
    · exact SameOutput.refl s
  | error code =>
    dsimp only
    split
    · exact SameOutput.refl s
    · exact ⟨rfl, rfl, rfl, rfl⟩
  | graceElapsed =>
    dsimp only
    split
    · exact ⟨rfl, rfl, rfl, rfl⟩
    · exact SameOutput.refl s
  | killerError =>
    dsimp only
    split
    · exact ⟨rfl, rfl, rfl, rfl⟩
    · exact SameOutput.refl s
  | killerClose code =>
    dsimp only
    split
    · exact ⟨rfl, rfl, rfl, rfl⟩
    · exact SameOutput.refl s

@[simp] theorem push_captured_self (buffer : List UInt8) (target : Stream) :
    (s.push buffer target).captured target = s.captured target ++ buffer := by
  cases target <;> simp [State.captured, State.push, State.chunks]

theorem push_captured_ne (buffer : List UInt8) {target other : Stream} (h : other ≠ target) :
    (s.push buffer target).captured other = s.captured other := by
  cases target <;> cases other <;> first | rfl | exact absurd rfl h

@[simp] theorem push_capturedBytes (buffer : List UInt8) (target : Stream) :
    (s.push buffer target).capturedBytes = s.capturedBytes + buffer.length := by
  cases target <;> rfl

@[simp] theorem push_truncated (buffer : List UInt8) (target : Stream) :
    (s.push buffer target).truncated = s.truncated := by
  cases target <;> rfl

end Output

/-! ## The budget -/

/-- What was captured of the bytes `e` emitted so far. -/
structure Captures (x : Execution) (e : Stream → List UInt8) (s : State) : Prop where
  bytes : s.capturedBytes = (s.captured .stdout).length + (s.captured .stderr).length
  limit : s.capturedBytes ≤ x.maxOutputBytes
  whole : s.truncated = false → ∀ target, s.captured target = e target
  part : ∀ target, s.captured target <+: e target
  exceeded : s.truncated = true → x.maxOutputBytes < (e .stdout).length + (e .stderr).length

section Budget
variable {x : Execution} {s s' : State} {e e' : Stream → List UInt8}

theorem captures_started (x : Execution) : Captures x (fun _ => []) started where
  bytes := rfl
  limit := Nat.zero_le _
  whole _ target := by cases target <;> rfl
  part target := by cases target <;> exact List.nil_prefix
  exceeded h := by cases h

theorem Captures.output (h : Captures x e s) (hoff : SameOutput s s') : Captures x e s' where
  bytes := by
    rw [hoff.bytes, hoff.captured, hoff.captured]
    exact h.bytes
  limit := by
    rw [hoff.bytes]
    exact h.limit
  whole htruncated target := by
    rw [hoff.captured]
    exact h.whole (hoff.truncated ▸ htruncated) target
  part target := by
    rw [hoff.captured]
    exact h.part target
  exceeded htruncated := h.exceeded (hoff.truncated ▸ htruncated)

/-- The bytes that a chunk on `target` adds. -/
def Extends (target : Stream) (buffer : List UInt8) (e e' : Stream → List UInt8) : Prop :=
  e' target = e target ++ buffer ∧ ∀ other, other ≠ target → e' other = e other

theorem Extends.length {target : Stream} {buffer : List UInt8} (h : Extends target buffer e e') :
    (e' .stdout).length + (e' .stderr).length =
      (e .stdout).length + (e .stderr).length + buffer.length := by
  obtain ⟨hself, hother⟩ := h
  cases target with
  | stdout =>
    rw [hself, hother .stderr (by decide), List.length_append]
    omega
  | stderr =>
    rw [hself, hother .stdout (by decide), List.length_append]
    omega

theorem Extends.part {target : Stream} {buffer : List UInt8} (h : Extends target buffer e e')
    (other : Stream) : e other <+: e' other := by
  by_cases hsame : other = target
  · rw [hsame, h.1]
    exact List.prefix_append _ _
  · rw [h.2 other hsame]

theorem push_length (buffer : List UInt8) (target : Stream) :
    ((s.push buffer target).captured .stdout).length +
        ((s.push buffer target).captured .stderr).length =
      (s.captured .stdout).length + (s.captured .stderr).length + buffer.length :=
  @Extends.length s.captured _ target buffer
    ⟨push_captured_self buffer target, fun _ hother => push_captured_ne buffer hother⟩

theorem push_part {target : Stream} {buffer : List UInt8} (hextends : Extends target buffer e e')
    (hwhole : ∀ target, s.captured target = e target) {front : List UInt8}
    (hfront : front <+: buffer) (other : Stream) :
    (s.push front target).captured other <+: e' other := by
  by_cases hsame : other = target
  · rw [hsame, push_captured_self, hwhole, hextends.1]
    exact (List.prefix_append_right_inj _).mpr hfront
  · rw [push_captured_ne _ hsame, hwhole, hextends.2 other hsame]

theorem Captures.append (h : Captures x e s) (answers : Answers) {chunk : Chunk} {target : Stream}
    (hchunk : chunk.toBuffer ≠ []) (hextends : Extends target chunk.toBuffer e e') :
    Captures x e' (appendOutput x answers chunk target s) := by
  have hlength := hextends.length
  have hpositive := List.length_pos_of_ne_nil hchunk
  have hbytes := h.bytes
  have hlimit := h.limit
  unfold appendOutput
  dsimp only
  cases htruncated : s.truncated with
  | true =>
    rw [if_pos rfl]
    refine ⟨hbytes, hlimit, ?_, fun other => (h.part other).trans (hextends.part other), ?_⟩
    · intro hfalse
      rw [htruncated] at hfalse
      cases hfalse
    · intro _
      have hover := h.exceeded htruncated
      omega
  | false =>
    rw [if_neg Bool.false_ne_true]
    have hwhole := h.whole htruncated
    rw [hwhole, hwhole] at hbytes
    by_cases hspent : (x.maxOutputBytes : ℤ) - s.capturedBytes ≤ 0
    · rw [if_pos hspent]
      have hcaptures : Captures x e' { s with truncated := true } := by
        refine ⟨h.bytes, hlimit, ?_, fun other => (h.part other).trans (hextends.part other), ?_⟩
        · intro hfalse
          cases hfalse
        · intro _
          omega
      exact hcaptures.output (requestTermination_output x answers .output _)
    · rw [if_neg hspent]
      by_cases hover : (chunk.toBuffer.length : ℤ) > x.maxOutputBytes - s.capturedBytes
      · rw [if_pos hover]
        have hcut : (chunk.toBuffer.take
            ((x.maxOutputBytes : ℤ) - s.capturedBytes).toNat).length =
              x.maxOutputBytes - s.capturedBytes := by
          rw [List.length_take]
          omega
        have hpush := push_length (s := s)
          (chunk.toBuffer.take ((x.maxOutputBytes : ℤ) - s.capturedBytes).toNat) target
        rw [hwhole, hwhole, hcut] at hpush
        have hcaptures : Captures x e'
            { s.push (chunk.toBuffer.take ((x.maxOutputBytes : ℤ) - s.capturedBytes).toNat) target
              with truncated := true } := by
          refine ⟨?_, ?_, ?_, push_part hextends hwhole (List.take_prefix _ _), ?_⟩
          · show (s.push _ target).capturedBytes = ((s.push _ target).captured .stdout).length +
              ((s.push _ target).captured .stderr).length
            rw [hpush, push_capturedBytes, hcut]
            omega
          · show (s.push _ target).capturedBytes ≤ x.maxOutputBytes
            rw [push_capturedBytes, hcut]
            omega
          · intro hfalse
            cases hfalse
          · intro _
            omega
        exact hcaptures.output (requestTermination_output x answers .output _)
      · rw [if_neg hover]
        have hpush := push_length (s := s) chunk.toBuffer target
        rw [hwhole, hwhole] at hpush
        refine ⟨?_, ?_, ?_, push_part hextends hwhole (List.prefix_refl _), ?_⟩
        · rw [hpush, push_capturedBytes]
          omega
        · rw [push_capturedBytes]
          omega
        · intro _ other
          by_cases hsame : other = target
          · rw [hsame, push_captured_self, hwhole, hextends.1]
          · rw [push_captured_ne _ hsame, hwhole, hextends.2 other hsame]
        · intro hfalse
          rw [push_truncated, htruncated] at hfalse
          cases hfalse

/-- A turn without a chunk. -/
theorem Captures.silent (h : Captures x e s) (turn : Turn)
    (hsilent : ∀ chunk, turn.event ≠ .stdout chunk ∧ turn.event ≠ .stderr chunk) :
    Captures x (fun target => e target ++ turn.bytes target) (step x s turn) := by
  have hbytes : ∀ target, turn.bytes target = [] := by
    intro target
    unfold Turn.bytes
    split
    · next chunk hevent => exact absurd hevent (hsilent chunk).1
    · next chunk hevent => exact absurd hevent (hsilent chunk).2
    · rfl
  simp only [hbytes, List.append_nil]
  exact h.output (step_output turn hsilent)

theorem emitted_concat (target : Stream) (turns : List Turn) (turn : Turn) :
    emitted target (turns ++ [turn]) = emitted target turns ++ turn.bytes target := by
  simp [emitted]

theorem captures_run (x : Execution) (turns : List Turn) (h : ∀ turn ∈ turns, turn.Nonempty) :
    Captures x (fun target => emitted target turns) (run x turns) := by
  induction turns using List.reverseRecOn with
  | nil => exact captures_started x
  | append_singleton turns turn ih =>
    have hturns := ih fun other hother => h other (List.mem_append_left _ hother)
    have hturn := h turn (List.mem_append_right _ List.mem_cons_self)
    have hstep : run x (turns ++ [turn]) = step x (run x turns) turn := by
      simp [run, runFrom_append]
    rw [hstep]
    simp only [emitted_concat]
    obtain ⟨event, answers⟩ := turn
    cases event with
    | stdout chunk =>
      refine hturns.append answers (hturn chunk (.inl rfl)) ⟨rfl, ?_⟩
      intro other hother
      cases other with
      | stdout => exact absurd rfl hother
      | stderr => exact List.append_nil _
    | stderr chunk =>
      refine hturns.append answers (hturn chunk (.inr rfl)) ⟨rfl, ?_⟩
      intro other hother
      cases other with
      | stdout => exact List.append_nil _
      | stderr => exact absurd rfl hother
    | exit _ _ | close _ _ _ | resume _ | timeout | abort | error _ | graceElapsed | killerError
    | killerClose _ =>
      refine hturns.silent _ fun chunk => ⟨?_, ?_⟩
      · intro hfalse
        cases hfalse
      · intro hfalse
        cases hfalse

/-- Once output has been dropped, all of it is. -/
theorem step_output_of_truncated (h : s.truncated = true) (turn : Turn) :
    SameOutput s (step x s turn) := by
  obtain ⟨event, answers⟩ := turn
  cases event with
  | stdout chunk =>
    unfold step appendOutput
    dsimp only
    rw [if_pos h]
    exact SameOutput.refl s
  | stderr chunk =>
    unfold step appendOutput
    dsimp only
    rw [if_pos h]
    exact SameOutput.refl s
  | exit _ _ | close _ _ _ | resume _ | timeout | abort | error _ | graceElapsed | killerError
  | killerClose _ =>
    refine step_output _ fun chunk => ⟨?_, ?_⟩
    · intro hfalse
      cases hfalse
    · intro hfalse
      cases hfalse

theorem run_output_of_truncated (h : s.truncated = true) (turns : List Turn) :
    SameOutput s (runFrom (step x) s turns) := by
  refine runFrom_invariant (P := SameOutput s) ?_ (SameOutput.refl s) turns
  intro s' turn hsame
  have hturn := step_output_of_truncated (x := x) (hsame.truncated.trans h) turn
  exact ⟨hturn.stdout.trans hsame.stdout, hturn.stderr.trans hsame.stderr,
    hturn.bytes.trans hsame.bytes, hturn.truncated.trans hsame.truncated⟩

end Budget

/-! ## Reasons and results -/

section Reports
variable {x : Execution} {s s' : State} {reason : Option TerminationReason}
  {rejected : Option ToolDomainError}

theorem reasons_change (h : Change reason rejected s s') :
    reasons s'.history = reasons s.history ++ reason.toList := by
  cases h with
  | quiet effects hraised heffects hhistory =>
    rw [hhistory, reasons_append, reasons_of_quiet heffects, hraised]
    rfl
  | recorded reason hraised _ hhistory =>
    rw [hhistory, reasons_append, hraised]
    rfl
  | terminates reason effects hraised _ _ _ heffects hhistory =>
    rw [hhistory, reasons_append, reasons_append, reasons_of_quiet heffects, List.append_nil,
      hraised]
    rfl
  | closes hraised _ _ results hhistory hresults =>
    rw [hhistory, reasons_append, reasons_append, hraised]
    rcases hresults with ⟨rfl, _⟩ | ⟨_, _, result, rfl, _⟩
    · simp [reasons, Effect.reason?]
    · simp [reasons, Effect.reason?]
  | resumes hraised _ _ results hhistory hresults =>
    rw [hhistory, reasons_append, hraised]
    rcases hresults with ⟨rfl, _⟩ | ⟨_, result, rfl, _⟩
    · rfl
    · rfl
  | rejects error hraised _ hhistory =>
    rw [hhistory, reasons_append, hraised]
    rfl

/-- The history records every reason when it is raised. -/
theorem reasons_runFrom (s : State) (turns : List Turn) :
    reasons (runFrom (step x) s turns).history = reasons s.history ++ raised x s turns := by
  induction turns generalizing s with
  | nil => simp [raised]
  | cons turn turns ih =>
    rw [runFrom_cons, ih, reasons_change (step_change x s turn), raised, List.append_assoc]

theorem terminationReason_run (x : Execution) (turns : List Turn) :
    (run x turns).terminationReason = (raised x started turns).head? := by
  have hreasons := reasons_runFrom (x := x) started turns
  have hstart : reasons started.history = [] := rfl
  rw [hstart, List.nil_append] at hreasons
  rw [← hreasons]
  exact (ledger_run x turns).reason

theorem reports_of_change (h : Change reason rejected s s')
    {effects : List Effect} (hhistory : s'.history = s.history ++ effects) {result : ProcessResult}
    (hresult : .resolved result ∈ effects) : Reports s result := by
  cases h with
  | quiet others _ hothers hhistory' =>
    rw [hhistory'] at hhistory
    rw [← List.append_cancel_left hhistory] at hresult
    exact absurd trivial (not_delivered_of_quiet hothers _ hresult)
  | recorded reason _ _ hhistory' =>
    rw [hhistory'] at hhistory
    rw [← List.append_cancel_left hhistory] at hresult
    simp at hresult
  | terminates reason others _ _ _ _ hothers hhistory' =>
    rw [hhistory', List.append_assoc] at hhistory
    rw [← List.append_cancel_left hhistory] at hresult
    rcases List.mem_append.mp hresult with hfirst | hquiet
    · simp at hfirst
    · exact absurd trivial (not_delivered_of_quiet hothers _ hquiet)
  | closes _ _ _ results hhistory' hresults =>
    rw [hhistory', List.append_assoc] at hhistory
    rw [← List.append_cancel_left hhistory] at hresult
    rcases hresults with ⟨rfl, _⟩ | ⟨_, _, other, rfl, hreports⟩
    · simp at hresult
    · have hsame : result = other := by simpa using hresult
      rwa [hsame]
  | resumes _ _ _ results hhistory' hresults =>
    rw [hhistory'] at hhistory
    rw [← List.append_cancel_left hhistory] at hresult
    rcases hresults with ⟨rfl, _⟩ | ⟨_, other, rfl, hreports⟩
    · cases hresult
    · have hsame : result = other := by simpa using hresult
      rwa [hsame]
  | rejects error _ _ hhistory' =>
    rw [hhistory'] at hhistory
    rw [← List.append_cancel_left hhistory] at hresult
    simp at hresult

end Reports

/-- After every run with non-empty chunks: both streams are captured from their beginning and
within the budget; nothing has been dropped exactly when all was captured, that is when all fits;
after the first loss nothing is captured; a result delivered by the next turn has what was captured
and the first reason. -/
theorem capture_bounded (x : Execution) (turns : List Turn)
    (hchunks : ∀ turn ∈ turns, turn.Nonempty) :
    (∀ target, (run x turns).captured target <+: emitted target turns) ∧
    ((run x turns).captured .stdout).length + ((run x turns).captured .stderr).length ≤
      x.maxOutputBytes ∧
    ((run x turns).truncated = false ↔
      ∀ target, (run x turns).captured target = emitted target turns) ∧
    ((run x turns).truncated = false ↔
      (emitted .stdout turns).length + (emitted .stderr turns).length ≤ x.maxOutputBytes) ∧
    ((run x turns).truncated = true → ∀ more target,
      (run x (turns ++ more)).captured target = (run x turns).captured target) ∧
    (run x turns).terminationReason = (raised x started turns).head? ∧
    ∀ turn effects result,
      (step x (run x turns) turn).history = (run x turns).history ++ effects →
      .resolved result ∈ effects →
        result.stdout = Utf8.lossy ((run x turns).captured .stdout) ∧
        result.stderr = Utf8.lossy ((run x turns).captured .stderr) ∧
        result.truncated = (run x turns).truncated ∧
        result.terminationReason = (raised x started turns).head? := by
  have h := captures_run x turns hchunks
  have hbytes := h.bytes
  have hlimit := h.limit
  refine ⟨h.part, by omega, ⟨h.whole, ?_⟩, ⟨?_, ?_⟩, ?_, terminationReason_run x turns, ?_⟩
  · intro hall
    rw [Bool.eq_false_iff]
    intro htruncated
    have hover := h.exceeded htruncated
    rw [hall, hall] at hbytes
    omega
  · intro hwhole
    rw [← h.whole hwhole .stdout, ← h.whole hwhole .stderr]
    omega
  · intro hfits
    rw [Bool.eq_false_iff]
    intro htruncated
    have hover := h.exceeded htruncated
    omega
  · intro htruncated more target
    unfold run
    rw [runFrom_append]
    exact (run_output_of_truncated htruncated more).captured target
  · intro turn effects result hhistory hresult
    obtain ⟨hstdout, hstderr, htruncated, hreason⟩ :=
      reports_of_change (step_change x (run x turns) turn) hhistory hresult
    exact ⟨hstdout, hstderr, htruncated, hreason.trans (terminationReason_run x turns)⟩

/-- Two chunks that fit. -/
def greeting : List Turn := [{ event := .stdout (.buffer [111]) }, { event := .stderr (.buffer [33]) }]

theorem capture_bounded_greeting : (run background greeting).truncated = false :=
  ((capture_bounded background greeting
    (by simp [greeting, Turn.Nonempty, Chunk.toBuffer])).2.2.2.1).mpr (by decide)

end Doctmcp.Tools.ShellExec

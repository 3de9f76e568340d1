import Mathlib.Data.Int.Notation
import Doctmcp.Lib.Utf8
import Doctmcp.Lib.Runs
import Doctmcp.Tools.Errors

/-! # Running a process

`runProcess` of `apps/agent/src/shell-exec.ts`. Once the child is spawned, its streams, its exit, the
timer, the abort signal and the helpers of the tree termination call back in any order. The
history lists what the function did and what it was told, oldest first. -/

namespace Doctmcp.Tools.ShellExec
open Doctmcp.Lib
set_option autoImplicit false

inductive TerminationReason
  | timeout
  | output
  | cancelled
  deriving DecidableEq, Repr

structure ProcessResult where
  exitCode : Option ℤ
  signal : Option String
  stdout : String
  stderr : String
  durationMs : ℕ
  truncated : Bool
  terminationReason : Option TerminationReason
  deriving DecidableEq, Repr

inductive Signals
  | SIGTERM
  | SIGKILL
  deriving DecidableEq, Repr

inductive Platform
  | win32
  | posix
  deriving DecidableEq, Repr

/-- The `code` of a Node.js system error. -/
inductive ErrnoCode
  | ENOENT
  | EACCES
  | EPERM
  | other
  deriving DecidableEq, Repr

/-- What a call of `runProcess` is given and what `spawn` returned. -/
structure Execution where
  platform : Platform
  maxOutputBytes : ℕ
  killGraceMs : ℕ
  /-- Undefined where the process did not start. -/
  pid : Option ℕ
  startedAt : ℤ

inductive Effect
  | requestTermination (reason : TerminationReason)
  | terminateProcessTree
  /-- `child.kill(signal)`. -/
  | kill (signal : Signals)
  /-- `process.kill(-pid, signal)`. -/
  | killGroup (pid : ℕ) (signal : Signals)
  | taskkill (pid : ℕ)
  /-- `terminationPromise` is settled. -/
  | terminated
  | closed
  | resolved (result : ProcessResult)
  | rejected (error : ToolDomainError)
  deriving DecidableEq, Repr

/-- Where `terminationPromise` stands. -/
inductive Termination
  | grace (killGraceMs : ℕ)
  | killer
  | settled
  deriving DecidableEq, Repr

/-- The local variables of the call and the fields of the child that it reads. -/
structure State where
  stdoutChunks : List (List UInt8)
  stderrChunks : List (List UInt8)
  capturedBytes : ℕ
  truncated : Bool
  terminationReason : Option TerminationReason
  terminationPromise : Option Termination
  settled : Bool
  closed : Bool
  /-- What the close handler was given, while it awaits `terminationPromise`. -/
  closing : Option (Option ℤ × Option String)
  exitCode : Option ℤ
  signalCode : Option String
  timeout : Bool
  abortListener : Bool
  history : List Effect
  deriving DecidableEq, Repr

/-- After `spawn` has returned and every handler is set. -/
def started : State where
  stdoutChunks := []
  stderrChunks := []
  capturedBytes := 0
  truncated := false
  terminationReason := none
  terminationPromise := none
  settled := false
  closed := false
  closing := none
  exitCode := none
  signalCode := none
  timeout := true
  abortListener := true
  history := []

def State.emit (effects : List Effect) (s : State) : State :=
  { s with history := s.history ++ effects }

/-- Neither `exitCode` nor `signalCode` is set: the direct child runs. -/
def State.Running (s : State) : Prop := s.exitCode = none ∧ s.signalCode = none

instance (s : State) : Decidable s.Running := inferInstanceAs (Decidable (_ ∧ _))

/-! ## Termination of the process tree -/

/-- `groupThrows`: what `process.kill` does. -/
def signalPosixProcessGroup (pid : Option ℕ) (signal : Signals) (groupThrows : Bool) :
    List Effect :=
  match pid.filter (· ≠ 0) with
  | none => [.kill signal]
  | some pid => if groupThrows then [.kill signal] else [.killGroup pid signal]

/-- What the operating system answers to the calls of one turn. -/
structure Answers where
  groupThrows : Bool := false
  spawnThrows : Bool := false

def terminatePosixProcessTree (x : Execution) (answers : Answers) (s : State) : State :=
  { s.emit (signalPosixProcessGroup x.pid .SIGTERM answers.groupThrows) with
    terminationPromise := some (.grace x.killGraceMs) }

/-- The callback of the grace timer. -/
def graceElapsed (x : Execution) (answers : Answers) (s : State) : State :=
  { s.emit (signalPosixProcessGroup x.pid .SIGKILL answers.groupThrows ++ [.terminated]) with
    terminationPromise := some .settled }

/-- `finish` of `terminateWindowsProcessTree`. -/
def finish (fallback : Bool) (s : State) : State :=
  { s.emit ((if fallback ∧ s.Running then [.kill .SIGKILL] else []) ++ [.terminated]) with
    terminationPromise := some .settled }

def terminateWindowsProcessTree (x : Execution) (answers : Answers) (s : State) : State :=
  match x.pid.filter (· ≠ 0) with
  | none =>
    { s.emit [.kill .SIGKILL, .terminated] with terminationPromise := some .settled }
  | some pid =>
    if answers.spawnThrows then finish true s
    else { s.emit [.taskkill pid] with terminationPromise := some .killer }

def terminateProcessTree (x : Execution) (answers : Answers) (s : State) : State :=
  match x.platform with
  | .win32 => terminateWindowsProcessTree x answers (s.emit [.terminateProcessTree])
  | .posix => terminatePosixProcessTree x answers (s.emit [.terminateProcessTree])

def requestTermination (x : Execution) (answers : Answers) (reason : TerminationReason)
    (s : State) : State :=
  let requested : State :=
    { s.emit [.requestTermination reason] with
      terminationReason := s.terminationReason.or (some reason) }
  if s.closed = true ∨ ¬ s.Running ∨ s.terminationPromise ≠ none then requested
  else terminateProcessTree x answers requested

/-! ## Output -/

inductive Chunk
  | buffer (bytes : List UInt8)
  /-- Anything else, as `String(chunk)`. -/
  | text (value : String)
  deriving DecidableEq, Repr

def Chunk.toBuffer : Chunk → List UInt8
  | .buffer bytes => bytes
  | .text value => Utf8.encode value

inductive Stream
  | stdout
  | stderr
  deriving DecidableEq, Repr

def State.chunks (s : State) : Stream → List (List UInt8)
  | .stdout => s.stdoutChunks
  | .stderr => s.stderrChunks

/-- `target.push(buffer)` and the count of its bytes. -/
def State.push (buffer : List UInt8) (s : State) : Stream → State
  | .stdout =>
    { s with
      stdoutChunks := s.stdoutChunks ++ [buffer]
      capturedBytes := s.capturedBytes + buffer.length }
  | .stderr =>
    { s with
      stderrChunks := s.stderrChunks ++ [buffer]
      capturedBytes := s.capturedBytes + buffer.length }

def appendOutput (x : Execution) (answers : Answers) (chunk : Chunk) (target : Stream)
    (s : State) : State :=
  if s.truncated then s
  else
    let buffer := chunk.toBuffer
    let remaining : ℤ := x.maxOutputBytes - s.capturedBytes
    if remaining ≤ 0 then requestTermination x answers .output { s with truncated := true }
    else if buffer.length > remaining then
      requestTermination x answers .output
        { s.push (buffer.take remaining.toNat) target with truncated := true }
    else s.push buffer target

/-! ## Events -/

def processStartError : ErrnoCode → ToolDomainError
  | .ENOENT => { code := .PROCESS_FAILED, message := "Command was not found" }
  | .EACCES | .EPERM =>
    { code := .PERMISSION_DENIED, message := "Command cannot be executed by the local runtime" }
  | .other => { code := .PROCESS_FAILED, message := "Process could not be started" }

def cleanup (s : State) : State := { s with timeout := false, abortListener := false }

/-- What the promise of the call is resolved with. -/
def State.result (x : Execution) (exitCode : Option ℤ) (signal : Option String) (now : ℤ)
    (s : State) : ProcessResult where
  exitCode := exitCode
  signal := signal
  stdout := Utf8.lossy s.stdoutChunks.flatten
  stderr := Utf8.lossy s.stderrChunks.flatten
  durationMs := (now - x.startedAt).toNat
  truncated := s.truncated
  terminationReason := s.terminationReason

/-- The close handler after its `await`. -/
def deliver (x : Execution) (exitCode : Option ℤ) (signal : Option String) (now : ℤ)
    (s : State) : State :=
  if s.settled then s
  else cleanup { s.emit [.resolved (s.result x exitCode signal now)] with settled := true }

inductive Event
  | stdout (chunk : Chunk)
  | stderr (chunk : Chunk)
  /-- The direct child is gone; its streams may be open. -/
  | exit (exitCode : ℤ) (signal : Option String)
  | close (exitCode : Option ℤ) (signal : Option String) (now : ℤ)
  /-- The close handler goes on after `terminationPromise`. -/
  | resume (now : ℤ)
  | timeout
  | abort
  | error (code : ErrnoCode)
  | graceElapsed
  | killerError
  | killerClose (code : Option ℤ)
  deriving DecidableEq, Repr

structure Turn where
  event : Event
  answers : Answers := {}

def step (x : Execution) (s : State) (turn : Turn) : State :=
  match turn.event with
  | .stdout chunk => appendOutput x turn.answers chunk .stdout s
  | .stderr chunk => appendOutput x turn.answers chunk .stderr s
  | .exit exitCode signal =>
    if s.Running then
      match signal with
      | some signal => { s with signalCode := some signal }
      | none => { s with exitCode := some exitCode }
    else s
  | .close exitCode signal now =>
    if s.closed then s
    else
      let closed : State := { s.emit [.closed] with closed := true }
      match s.terminationPromise with
      | none => deliver x exitCode signal now closed
      | some _ => { closed with closing := some (exitCode, signal) }
  | .resume now =>
    match s.closing, s.terminationPromise with
    | some (exitCode, signal), some .settled =>
      deliver x exitCode signal now { s with closing := none }
    | _, _ => s
  | .timeout =>
    if s.timeout then requestTermination x turn.answers .timeout { s with timeout := false }
    else s
  | .abort =>
    if s.abortListener then
      requestTermination x turn.answers .cancelled { s with abortListener := false }
    else s
  | .error code =>
    if s.settled then s
    else cleanup { s.emit [.rejected (processStartError code)] with settled := true }
  | .graceElapsed =>
    match s.terminationPromise with
    | some (.grace _) => ShellExec.graceElapsed x turn.answers s
    | _ => s
  | .killerError => if s.terminationPromise = some .killer then finish true s else s
  | .killerClose code =>
    if s.terminationPromise = some .killer then finish (code ≠ some 0) s else s

/-- What happens to the call before the child runs: `spawn` throws or returns. -/
def start (aborted : Bool) (spawned : Except ErrnoCode Unit) : Except ToolDomainError State :=
  if aborted then
    .error { code := .PROCESS_FAILED, message := "Process execution was cancelled" }
  else
    match spawned with
    | .error code => .error (processStartError code)
    | .ok () => .ok started

/-- The state after the turns `turns` of a call whose child has been spawned. -/
def run (x : Execution) (turns : List Turn) : State := runFrom (step x) started turns

end Doctmcp.Tools.ShellExec

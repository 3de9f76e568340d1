import Mathlib.Data.Nat.Bitwise
import Doctmcp.Lib.FileChange
import Doctmcp.Lib.Utf16
import Doctmcp.Tools.Workspace

/-! # The tool `filesystem.write`

The actions of `apps/agent/src/filesystem-write.ts`. A call gets the tree and leaves the tree; every
operation may also fail for a reason outside the tree. The part of a call before its first change is
a function of its own. -/

namespace Doctmcp.Tools.FilesystemWrite
open Doctmcp.Lib Doctmcp.Lib.PosixPath
set_option autoImplicit false

def DEFAULT_MAX_WRITE_BYTES : ℕ := 1048576

/-- The operations that may fail although the tree allows them. -/
inductive Call
  | readFile (path : Path)
  | writeFile (path : Path)
  | chmod (path : Path)
  | rename (oldPath newPath : Path)
  | mkdir (path : Path)

/-- What a call finds outside itself and the tree. -/
structure WriteHost where
  maxWriteBytes : ℕ
  /-- What `randomUUID` returns. -/
  uuid : { text : String // '/' ∉ text.toList }
  /-- The permission bits of a new file. -/
  createMode : ℕ
  fails : Call → Option SystemError
  /-- The writing of a new file stops after so many bytes. -/
  interrupted : Path → Option (ℕ × SystemError)
  aborted : Bool

/-- What an operation returns, and the tree that it leaves. -/
abbrev Outcome (Error Result : Type) := Except Error Result × FileSystem

def internalError : ToolDomainError := { code := .INTERNAL_ERROR, message := "Internal error" }

/-- `displayPath`. -/
def displayPath (workspaceRoot path : Path) : String :=
  let text := (relative workspaceRoot path).toList.map fun c => if c = '\\' then '/' else c
  if text = [] then "." else String.ofList text

/-- `domainError` of a system error. -/
def domainError (error : SystemError) (fallback : String) : ToolDomainError :=
  match error with
  | .EEXIST => { code := .ALREADY_EXISTS, message := fallback }
  | .ENOENT => { code := .PATH_NOT_FOUND, message := fallback }
  | .ENOTDIR => { code := .INVALID_INPUT, message := fallback }
  | .EXDEV => { code := .INVALID_INPUT, message := "Move across filesystems is not supported" }
  | _ => { code := .INTERNAL_ERROR, message := fallback }

/-- `stats.mode & 0o7777`. -/
def permissionBits (mode : ℕ) : ℕ := mode &&& 0o7777

/-! ## Text -/

/-- `content.indexOf(needle, position)`. -/
def indexOf (content needle : Utf16.Text) (position : ℕ) : Option ℕ :=
  (List.range' position (content.length + 1 - position)).find? fun i => needle <+: content.drop i

/-- The loop of `countOccurrences`, for at most so many rounds. -/
def countLoop (content needle : Utf16.Text) : ℕ → Option ℕ → ℕ → ℕ
  | _, none, count => count
  | 0, some _, count => count
  | rounds + 1, some index, count =>
    countLoop content needle rounds (indexOf content needle (index + needle.length)) (count + 1)

/-- `countOccurrences`. A text has no more occurrences than letters. -/
def countOccurrences (content needle : Utf16.Text) : ℕ :=
  countLoop content needle content.length (indexOf content needle 0) 0

/-- `content.split(oldText).join(newText)`. -/
def replaceOccurrences (content oldText newText : Utf16.Text) : Utf16.Text :=
  newText.intercalate (split oldText content)

/-- `readFile(path, "utf8")` of these bytes. -/
def readText (content : List UInt8) : Utf16.Text := Utf16.encode (Utf8.lossy content).toList

/-! ## Files -/

/-- An operation that changes the tree, if it does not fail. -/
def WriteHost.attempt (host : WriteHost) (call : Call)
    (change : FileSystem → Except SystemError FileSystem) (fs : FileSystem) :
    Outcome SystemError Unit :=
  match host.fails call with
  | some error => (.error error, fs)
  | none =>
    match change fs with
    | .error error => (.error error, fs)
    | .ok fs => (.ok (), fs)

/-- `writeFile(path, content, { flag: "wx" })`. -/
def WriteHost.writeFile (host : WriteHost) (path : Path) (content : List UInt8) (fs : FileSystem) :
    Outcome SystemError Unit :=
  match host.interrupted path with
  | none => host.attempt (.writeFile path) (fun fs => fs.create path content host.createMode) fs
  | some (bytes, error) =>
    match host.attempt (.writeFile path)
      (fun fs => fs.create path (content.take bytes) host.createMode) fs with
    | (.ok (), fs) => (.error error, fs)
    | failed => failed

/-- Why `mkdir(path, { recursive: true })` stops at a link that does not resolve, with these names to
go: below a dangling link the promise of Node's `fs/promises` is rejected with `ENOTDIR`. -/
def brokenLinkError (fs : FileSystem) (path names : Path) : SystemError :=
  match fs.realpathError path with
  | .ENOENT => if names = [] then .ENOENT else .ENOTDIR
  | error => error

/-- `mkdir(path, { recursive: true })`, from the directory that has been reached on. -/
def WriteHost.makeDirectories (host : WriteHost) : Path → Path → FileSystem → Outcome SystemError Unit
  | _, [], fs => (.ok (), fs)
  | reached, name :: names, fs =>
    let path := reached ++ [name]
    match fs.realpath path with
    | some real =>
      if fs.entry real = some .directory then host.makeDirectories path names fs
      else (.error (if names = [] then .EEXIST else .ENOTDIR), fs)
    | none =>
      if (fs.lstat path).isSome then (.error (brokenLinkError fs path names), fs)
      else
        match host.attempt (.mkdir path) (fun fs => fs.mkdir path) fs with
        | (.ok (), fs) => host.makeDirectories path names fs
        | failed => failed

theorem isName_temporary {text : String} (h : '/' ∉ text.toList) (uuid : String)
    (huuid : '/' ∉ uuid.toList) : IsName (text ++ ".doctmcp-" ++ uuid ++ ".tmp") := by
  have hlist : (text ++ ".doctmcp-" ++ uuid ++ ".tmp").toList =
      text.toList ++ ".doctmcp-".toList ++ uuid.toList ++ ".tmp".toList := by
    simp only [String.toList_append]
  have hlong : 3 ≤ (text ++ ".doctmcp-" ++ uuid ++ ".tmp").toList.length := by
    rw [hlist]
    simp only [List.length_append]
    have : ".tmp".toList.length = 4 := rfl
    omega
  refine ⟨?_, ?_, ?_, ?_⟩
  · intro hsame
    rw [hsame] at hlong
    exact absurd hlong (by decide)
  · intro hsame
    rw [hsame] at hlong
    exact absurd hlong (by decide)
  · intro hsame
    rw [hsame] at hlong
    exact absurd hlong (by decide)
  · rw [hlist]
    simp only [List.mem_append, not_or]
    exact ⟨⟨⟨h, by decide⟩, huuid⟩, by decide⟩

/-- The name of the temporary file for an entry. -/
def temporaryName (host : WriteHost) (name : Name) : Name :=
  ⟨name.val ++ ".doctmcp-" ++ host.uuid.val ++ ".tmp",
    isName_temporary name.property.2.2.2 host.uuid.val host.uuid.property⟩

def temporaryPath (host : WriteHost) (path : Path) : Path :=
  match path.getLast? with
  | some name => path.dropLast ++ [temporaryName host name]
  | none => [⟨"" ++ ".doctmcp-" ++ host.uuid.val ++ ".tmp",
      isName_temporary (by decide) host.uuid.val host.uuid.property⟩]

/-- `rm(path, { force: true }).catch(() => undefined)`, which removes what may be removed. -/
def removeTemporary (path : Path) (fs : FileSystem) : FileSystem :=
  match fs.unlink path with
  | .ok fs => fs
  | .error _ => fs

/-- `if (mode !== undefined) await chmod(path, mode)`. -/
def WriteHost.permit (host : WriteHost) (path : Path) (mode : Option ℕ) (fs : FileSystem) :
    Outcome SystemError Unit :=
  match mode with
  | none => (.ok (), fs)
  | some mode => host.attempt (.chmod path) (fun fs => fs.chmod path mode) fs

/-- The body of `atomicReplace`, without its `finally`. -/
def replaceBody (host : WriteHost) (path : Path) (content : List UInt8) (mode : Option ℕ)
    (fs : FileSystem) : Outcome SystemError Unit :=
  match host.writeFile (temporaryPath host path) content fs with
  | (.error error, fs) => (.error error, fs)
  | (.ok (), fs) =>
    match host.permit (temporaryPath host path) mode fs with
    | (.error error, fs) => (.error error, fs)
    | (.ok (), fs) =>
      host.attempt (.rename (temporaryPath host path) path)
        (fun fs => fs.rename (temporaryPath host path) path) fs

def atomicReplace (host : WriteHost) (path : Path) (content : List UInt8) (mode : Option ℕ)
    (fs : FileSystem) : Outcome SystemError Unit :=
  let result := replaceBody host path content mode fs
  (result.1, removeTemporary (temporaryPath host path) result.2)

def writeNewFile (host : WriteHost) (path : Path) (content : List UInt8) (overwrite : Bool)
    (existingMode : Option ℕ) (fs : FileSystem) : Outcome SystemError Unit :=
  if overwrite then atomicReplace host path content existingMode fs
  else host.writeFile path content fs

/-- `ensureRegularFile`. -/
def ensureRegularFile (fs : FileSystem) (path : Path) : Except ToolDomainError ℕ :=
  match fs.lstat path with
  | none => .error (domainError (fs.lstatError path) "Path does not exist")
  | some (.file _ mode) => .ok (permissionBits mode)
  | some _ => .error { code := .INVALID_INPUT, message := "Path must be a regular file" }

/-- `ensureRegularFileOrDirectory`. -/
def ensureRegularFileOrDirectory (fs : FileSystem) (path : Path) : Except ToolDomainError Unit :=
  match fs.lstat path with
  | none => .error (domainError (fs.lstatError path) "Source does not exist")
  | some entry =>
    if entry.isFile || entry.isDirectory then .ok ()
    else .error { code := .INVALID_INPUT, message := "Source must be a file or directory" }

/-! ## The actions -/

structure WriteInput where
  workspace : String
  path : String
  content : Utf16.Text
  overwrite : Option Bool
  createParents : Option Bool

structure PatchInput where
  workspace : String
  path : String
  oldText : { text : Utf16.Text // text ≠ [] }
  newText : Utf16.Text
  expectedOccurrences : Option { n : ℕ // 1 ≤ n ∧ n ≤ 1000 }

structure MkdirInput where
  workspace : String
  path : String
  recursive : Option Bool

structure MoveInput where
  workspace : String
  fromPath : String
  toPath : String
  overwrite : Option Bool

inductive FilesystemWriteInput
  | write (input : WriteInput)
  | patch (input : PatchInput)
  | mkdir (input : MkdirInput)
  | move (input : MoveInput)

inductive Action
  | write
  | patch
  | mkdir
  | move
  deriving DecidableEq

structure FilesystemWriteOutput where
  action : Action
  path : Option String := none
  fromPath : Option String := none
  toPath : Option String := none
  bytes : Option ℕ := none
  created : Option Bool := none
  overwritten : Option Bool := none
  occurrences : Option ℕ := none

/-- `Buffer.byteLength(text, "utf8")`. -/
def byteLength (text : Utf16.Text) : ℕ := (Utf16.utf8Bytes text).length

/-- `readFile(path)`. -/
def WriteHost.readFile (host : WriteHost) (fs : FileSystem) (path : Path) :
    Except SystemError (List UInt8) :=
  match host.fails (.readFile path) with
  | some error => .error error
  | none =>
    match fs.stat path with
    | none => .error (fs.realpathError path)
    | some (.file content _) => .ok content
    | some .directory => .error .EISDIR
    | some _ => .error .other

section Actions
variable (host : WriteHost) (registry : WorkspaceRegistry)

/-- `write` up to its first change: the destination and its mode. -/
def inspectWrite (input : WriteInput) (fs : FileSystem) :
    Except ToolDomainError (ResolvedWorkspacePath × Option ℕ) := do
  if host.maxWriteBytes < byteLength input.content then
    .error
      { code := .OUTPUT_LIMIT_EXCEEDED, message := "Write content exceeds the configured limit" }
  else
    let resolved ← resolvePath fs registry input.workspace input.path (some .write)
    if resolved.pathExists = true ∧ input.overwrite ≠ some true then
      .error { code := .ALREADY_EXISTS, message := "Destination already exists" }
    else if resolved.pathExists then
      match fs.lstat resolved.operationPath with
      | none =>
        .error (domainError (fs.lstatError resolved.operationPath) "Unable to inspect destination")
      | some (.file _ mode) => .ok (resolved, some (permissionBits mode))
      | some _ => .error { code := .INVALID_INPUT, message := "Path must be a regular file" }
    else .ok (resolved, none)

/-- The parents of the destination, if the call is to create them. -/
def createParents (input : WriteInput) (path : Path) (fs : FileSystem) : Outcome SystemError Unit :=
  if input.createParents = some true then host.makeDirectories [] path.dropLast fs else (.ok (), fs)

def write (input : WriteInput) (fs : FileSystem) :
    Outcome ToolDomainError FilesystemWriteOutput :=
  match inspectWrite host registry input fs with
  | .error error => (.error error, fs)
  | .ok (resolved, existingMode) =>
    match createParents host input resolved.operationPath fs with
    | (.error _, fs) => (.error internalError, fs)
    | (.ok (), fs) =>
      match writeNewFile host resolved.operationPath (Utf16.utf8Bytes input.content)
        (input.overwrite = some true) existingMode fs with
      | (.error error, fs) => (.error (domainError error "Unable to write file"), fs)
      | (.ok (), fs) =>
        (.ok
          { action := .write
            path := displayPath resolved.workspace.root resolved.operationPath
            bytes := byteLength input.content
            created := !resolved.pathExists
            overwritten := resolved.pathExists }, fs)

/-- The number of occurrences that `patch` expects. -/
def PatchInput.expected (input : PatchInput) : ℕ := (input.expectedOccurrences.map Subtype.val).getD 1

/-- What `patch` has before its first change. -/
structure Patch where
  resolved : ResolvedWorkspacePath
  existingMode : ℕ
  patched : Utf16.Text
  occurrences : ℕ

/-- `patch` up to its first change. -/
def inspectPatch (input : PatchInput) (fs : FileSystem) : Except ToolDomainError Patch := do
  let resolved ← resolvePath fs registry input.workspace input.path (some .write)
  let existingMode ← ensureRegularFile fs resolved.operationPath
  match host.readFile fs resolved.operationPath with
  | .error error => .error (domainError error "Unable to read file for patch")
  | .ok bytes =>
    let content := readText bytes
    let occurrences := countOccurrences content input.oldText.val
    if occurrences ≠ input.expected then
      .error
        { code := .INVALID_INPUT, message := "Patch occurrence count does not match"
          details := [("occurrences", occurrences), ("expectedOccurrences", input.expected)] }
    else
      let patched := replaceOccurrences content input.oldText.val input.newText
      if host.maxWriteBytes < byteLength patched then
        .error
          { code := .OUTPUT_LIMIT_EXCEEDED
            message := "Patched content exceeds the configured limit" }
      else .ok ⟨resolved, existingMode, patched, occurrences⟩

def patch (input : PatchInput) (fs : FileSystem) :
    Outcome ToolDomainError FilesystemWriteOutput :=
  match inspectPatch host registry input fs with
  | .error error => (.error error, fs)
  | .ok inspected =>
    match atomicReplace host inspected.resolved.operationPath (Utf16.utf8Bytes inspected.patched)
      (some inspected.existingMode) fs with
    | (.error error, fs) => (.error (domainError error "Unable to apply patch"), fs)
    | (.ok (), fs) =>
      (.ok
        { action := .patch
          path := displayPath inspected.resolved.workspace.root inspected.resolved.operationPath
          bytes := byteLength inspected.patched
          occurrences := inspected.occurrences }, fs)

/-- `mkdir` up to its first change: the destination, if it is not there yet. -/
def inspectMkdir (input : MkdirInput) (fs : FileSystem) :
    Except ToolDomainError ResolvedWorkspacePath := do
  let resolved ← resolvePath fs registry input.workspace input.path (some .write)
  if resolved.pathExists then
    match fs.lstat resolved.operationPath with
    | none =>
      .error (domainError (fs.lstatError resolved.operationPath) "Unable to inspect directory")
    | some entry =>
      if entry.isDirectory then .ok resolved
      else
        .error
          { code := .ALREADY_EXISTS
            message := "Destination already exists and is not a directory" }
  else .ok resolved

def mkdir (input : MkdirInput) (fs : FileSystem) :
    Outcome ToolDomainError FilesystemWriteOutput :=
  match inspectMkdir registry input fs with
  | .error error => (.error error, fs)
  | .ok resolved =>
    let path := displayPath resolved.workspace.root resolved.operationPath
    if resolved.pathExists then (.ok { action := .mkdir, path := path, created := false }, fs)
    else
      let made : Outcome SystemError Unit :=
        if input.recursive = some true then host.makeDirectories [] resolved.operationPath fs
        else
          host.attempt (.mkdir resolved.operationPath) (fun fs => fs.mkdir resolved.operationPath) fs
      match made with
      | (.error error, fs) => (.error (domainError error "Unable to create directory"), fs)
      | (.ok (), fs) => (.ok { action := .mkdir, path := path, created := true }, fs)

/-- `move` up to its change: the source and the destination. -/
def inspectMove (input : MoveInput) (fs : FileSystem) :
    Except ToolDomainError (ResolvedWorkspacePath × ResolvedWorkspacePath) := do
  let source ← resolvePath fs registry input.workspace input.fromPath (some .write)
  ensureRegularFileOrDirectory fs source.operationPath
  let destination ← resolvePath fs registry input.workspace input.toPath (some .write)
  if destination.pathExists = true ∧ input.overwrite ≠ some true then
    .error { code := .ALREADY_EXISTS, message := "Destination already exists" }
  else .ok (source, destination)

def move (input : MoveInput) (fs : FileSystem) : Outcome ToolDomainError FilesystemWriteOutput :=
  match inspectMove registry input fs with
  | .error error => (.error error, fs)
  | .ok (source, destination) =>
    match host.attempt (.rename source.operationPath destination.operationPath)
      (fun fs => fs.rename source.operationPath destination.operationPath) fs with
    | (.error error, fs) => (.error (domainError error "Unable to move path"), fs)
    | (.ok (), fs) =>
      (.ok
        { action := .move
          fromPath := displayPath source.workspace.root source.operationPath
          toPath := displayPath destination.workspace.root destination.operationPath
          overwritten := destination.pathExists }, fs)

/-- `handler`. -/
def handler (input : FilesystemWriteInput) (fs : FileSystem) :
    Outcome ToolDomainError FilesystemWriteOutput :=
  if host.aborted then
    (.error { code := .TIMEOUT, message := "Filesystem write was cancelled" }, fs)
  else
    match input with
    | .write input => write host registry input fs
    | .patch input => patch host registry input fs
    | .mkdir input => mkdir host registry input fs
    | .move input => move host registry input fs

end Actions

end Doctmcp.Tools.FilesystemWrite

import Mathlib.Data.List.Sort
import Doctmcp.Lib.Utf8
import Doctmcp.Lib.Utf16
import Doctmcp.Tools.Workspace

/-! # The tool `filesystem.read`

The actions `read`, `list` and `search` of `apps/agent/src/filesystem-read.ts` on a tree that nothing
changes during a call. A loop over a queue takes the number of rounds it may run. -/

namespace Doctmcp.Tools.FilesystemRead
open Doctmcp.Lib Doctmcp.Lib.PosixPath
set_option autoImplicit false

def MAX_READ_LIMIT : ℕ := 1048576
def DEFAULT_READ_LIMIT : ℕ := 65536
def MAX_SEARCH_FILES : ℕ := 1000
def MAX_SEARCH_FILE_SIZE : ℕ := 2 * 1024 * 1024
def MAX_SEARCH_TOTAL_BYTES : ℕ := 20 * 1024 * 1024
def MAX_SEARCH_LINE_PREVIEW : ℕ := 200

/-- Where a call looks at the abort signal: before a directory, an entry of it or a file. -/
inductive Check
  | directory (operationPath : Path)
  | entry (operationPath : Path)
  | file (operationPath : Path)

/-- What a call finds outside itself. -/
structure Host where
  fs : FileSystem
  /-- The file or directory at this real path may be opened. -/
  readable : Path → Bool
  /-- `a.localeCompare(b) <= 0`. -/
  localeLE : Name → Name → Bool
  /-- How many of the requested bytes one read call delivers: file, offset, length. -/
  delivered : Path → ℕ → ℕ → ℕ
  aborted : Check → Bool

/-- A number that the input schema has checked. -/
abbrev Between (min max : ℕ) := { n : ℕ // min ≤ n ∧ n ≤ max }

def internalError : ToolDomainError := { code := .INTERNAL_ERROR, message := "Internal error" }

/-! ## Bytes -/

def isDenied (workspace : WorkspaceMetadata) (targetPath : Path) : Bool :=
  workspace.deny.any fun denyPath => isPathInside (join workspace.root denyPath) targetPath

def isBinaryBuffer (buffer : List UInt8) : Bool := (buffer.take 8192).any (· = 0)

/-- The loop of `trimIncompleteUtf8Sequence` over the last bytes, the last one first. -/
def trimLoop (len : ℕ) : ℕ → List UInt8 → ℕ
  | _, [] => len
  | i, byte :: bytes =>
    if 4 < i then len
    else if byte.toNat < 0x80 then len
    else if 0xC0 ≤ byte.toNat then
      let expectedLength :=
        if byte.toNat < 0xE0 then 2 else if byte.toNat < 0xF0 then 3
        else if byte.toNat < 0xF8 then 4 else 1
      if i < expectedLength then len - i else len
    else trimLoop len (i + 1) bytes

def trimIncompleteUtf8Sequence (buffer : List UInt8) : ℕ :=
  trimLoop buffer.length 1 buffer.reverse

/-- `new TextDecoder("utf-8", { fatal: true }).decode(buffer)`: a leading byte order mark is
dropped. -/
def textDecode (buffer : List UInt8) : Option String :=
  (Utf8.fatal buffer).map fun text =>
    match text.toList with
    | c :: rest => if c.toNat = 0xFEFF then String.ofList rest else text
    | [] => text

/-- `Buffer.alloc(length)` after one `handle.read(buffer, 0, length, offset)`. -/
def Host.fill (host : Host) (file : Path) (content : List UInt8) (offset length : ℕ) :
    List UInt8 :=
  let wanted := (content.drop offset).take length
  let got := wanted.take (host.delivered file offset length)
  got ++ List.replicate (length - got.length) 0

/-- `open(path, "r")` and what the handle reads from, by its real path. -/
def Host.openFile (host : Host) (path : Path) : Option (Path × List UInt8) :=
  (host.fs.realpath path).bind fun real =>
    match host.fs.entry real with
    | some (.file content _) => if host.readable real then some (real, content) else none
    | _ => none

/-! ## read -/

structure ReadResult where
  path : String
  content : String
  size : ℕ
  offset : ℕ
  limit : ℕ
  bytesRead : ℕ
  nextOffset : ℕ
  truncated : Bool

/-- The action on a file that has been found, from `const totalSize` on. -/
def readFile (host : Host) (path : String) (operationPath : Path) (totalSize : ℕ)
    (inputOffset : Option ℕ) (inputLimit : Option (Between 1 MAX_READ_LIMIT)) :
    Except ToolDomainError ReadResult := do
  let offset := inputOffset.getD 0
  let limit := (inputLimit.map Subtype.val).getD DEFAULT_READ_LIMIT
  let readLength := min limit (totalSize - offset)
  let rawBuffer ←
    if 0 < readLength then
      match host.openFile operationPath with
      | some (real, content) => .ok (host.fill real content offset readLength)
      | none => .error internalError
    else .ok []
  if isBinaryBuffer rawBuffer then
    .error { code := .INVALID_INPUT, message := "Cannot read binary file as text" }
  else
    let validLength :=
      if offset + readLength < totalSize then trimIncompleteUtf8Sequence rawBuffer else readLength
    if 0 < readLength ∧ validLength = 0 then
      .error
        { code := .INVALID_INPUT
          message :=
            "Read limit is too small to decode a complete UTF-8 character at current offset" }
    else
      match textDecode (rawBuffer.take validLength) with
      | none =>
        .error
          { code := .INVALID_INPUT
            message := "Cannot read binary file as text: invalid UTF-8 encoding" }
      | some content =>
        .ok
          { path := path, content := content, size := totalSize, offset := offset, limit := limit
            bytesRead := validLength, nextOffset := offset + validLength
            truncated := offset + validLength < totalSize }

def read (host : Host) (registry : WorkspaceRegistry) (workspaceId path : String)
    (offset : Option ℕ) (limit : Option (Between 1 MAX_READ_LIMIT)) :
    Except ToolDomainError ReadResult := do
  let resolved ← resolvePath host.fs registry workspaceId path (some .read)
  if !resolved.pathExists then
    .error { code := .PATH_NOT_FOUND, message := s!"File '{path}' does not exist" }
  else
    match host.fs.stat resolved.operationPath with
    | none => .error internalError
    | some .directory =>
      .error { code := .INVALID_INPUT, message := s!"Target '{path}' is a directory, not a file" }
    | some (.file content _) =>
      readFile host path resolved.operationPath content.length offset limit
    | some _ =>
      .error { code := .INVALID_INPUT, message := s!"Target '{path}' is not a regular file" }

/-! ## Directories -/

/-- `readdir(path, { withFileTypes: true })`, sorted by the names. -/
def Host.sortedDirents (host : Host) (path : Path) : Option (List (Name × Entry)) :=
  (host.fs.realpath path).bind fun directory =>
    if host.fs.entry directory = some .directory ∧ host.readable directory = true then
      some ((host.fs.dirents directory).insertionSort fun a b => host.localeLE a.1 b.1)
    else none

structure QueueItem where
  operationPath : Path
  canonicalPath : Path
  currentDepth : ℕ
  deriving DecidableEq

/-- Where `realpath` leads from a link, if the workspace may show it. -/
def linkAllowed (workspace : WorkspaceMetadata) (target : Path) : Bool :=
  isPathInside workspace.root target && !isDenied workspace target

/-! ## list -/

inductive EntryType
  | file
  | directory
  | symlink
  | other
  deriving DecidableEq

structure ListEntry where
  name : Name
  path : String
  type : EntryType
  size : Option ℕ
  deriving DecidableEq

structure ListRequest where
  workspace : WorkspaceMetadata
  limit : ℕ
  maxDepth : ℕ
  isRecursive : Bool

structure ListState where
  queue : List QueueItem
  entries : List ListEntry
  truncated : Bool

def listAborted : ToolDomainError :=
  { code := .TIMEOUT, message := "List operation was cancelled or timed out" }

/-- The type and size of an entry, unless it is a link that may not be shown. -/
def listedType (host : Host) (workspace : WorkspaceMetadata) (fullEntryPath : Path) :
    Entry → Option (EntryType × Option ℕ)
  | .symlink _ =>
    match host.fs.realpath fullEntryPath with
    | some target => if linkAllowed workspace target then some (.symlink, none) else none
    | none => some (.symlink, none)
  | .directory => some (.directory, none)
  | .file _ _ =>
    some (.file, match host.fs.lstat fullEntryPath with
      | some (.file content _) => some content.length
      | _ => none)
  | .other => some (.other, none)

/-- The loop over the entries of one directory. -/
def listEntries (host : Host) (r : ListRequest) (current : QueueItem) :
    List (Name × Entry) → ListState → Except ToolDomainError ListState
  | [], s => .ok s
  | (name, entry) :: rest, s =>
    let fullEntryPath := current.operationPath ++ [name]
    let canonicalEntryPath := current.canonicalPath ++ [name]
    if host.aborted (.entry fullEntryPath) then .error listAborted
    else if isDenied r.workspace fullEntryPath || isDenied r.workspace canonicalEntryPath then
      listEntries host r current rest s
    else
      match listedType host r.workspace fullEntryPath entry with
      | none => listEntries host r current rest s
      | some (type, size) =>
        let queued :=
          if type = .directory ∧ r.isRecursive = true ∧ current.currentDepth + 1 < r.maxDepth then
            [⟨fullEntryPath, canonicalEntryPath, current.currentDepth + 1⟩]
          else []
        let s : ListState :=
          { s with
            queue := s.queue ++ queued
            entries := s.entries ++
              [⟨name, relative r.workspace.root fullEntryPath, type, size⟩] }
        if r.limit ≤ s.entries.length then .ok { s with truncated := true }
        else listEntries host r current rest s

/-- The loop over the queue; `none` when the rounds are used up. -/
def listLoop (host : Host) (r : ListRequest) :
    ℕ → ListState → Option (Except ToolDomainError ListState)
  | 0, _ => none
  | rounds + 1, s =>
    match s.queue with
    | [] => some (.ok s)
    | current :: queue =>
      if s.truncated then some (.ok s)
      else if host.aborted (.directory current.operationPath) then some (.error listAborted)
      else
        match host.sortedDirents current.operationPath with
        | none => listLoop host r rounds { s with queue }
        | some dirents =>
          match listEntries host r current dirents { s with queue } with
          | .error error => some (.error error)
          | .ok s => listLoop host r rounds s

structure ListResult where
  path : String
  entries : List ListEntry
  truncated : Bool

/-- `input.path || "."`. -/
def relativeTarget (path : Option String) : String :=
  match path with
  | some path => if path = "" then "." else path
  | none => "."

/-- The action up to its loop: the request and the first item of the queue. -/
def listStart (host : Host) (registry : WorkspaceRegistry) (workspaceId : String)
    (path : Option String) (recursive : Option Bool) (limit : Option (Between 1 1000))
    (maxDepth : Option (Between 1 10)) : Except ToolDomainError (ListRequest × QueueItem) := do
  let target := relativeTarget path
  let resolved ← resolvePath host.fs registry workspaceId target (some .read)
  if !resolved.pathExists then
    .error { code := .PATH_NOT_FOUND, message := s!"Directory '{target}' does not exist" }
  else
    match host.fs.stat resolved.operationPath with
    | none => .error internalError
    | some .directory =>
      .ok
        (⟨resolved.workspace, (limit.map Subtype.val).getD 200,
          (maxDepth.map Subtype.val).getD 5, recursive.getD false⟩,
        ⟨resolved.operationPath, resolved.canonicalPath, 0⟩)
    | some _ =>
      .error { code := .INVALID_INPUT, message := s!"Target '{target}' is a file, not a directory" }

def list (host : Host) (rounds : ℕ) (registry : WorkspaceRegistry) (workspaceId : String)
    (path : Option String) (recursive : Option Bool) (limit : Option (Between 1 1000))
    (maxDepth : Option (Between 1 10)) : Option (Except ToolDomainError ListResult) :=
  match listStart host registry workspaceId path recursive limit maxDepth with
  | .error error => some (.error error)
  | .ok (r, start) =>
    (listLoop host r rounds ⟨[start], [], false⟩).map fun result =>
      result.map fun s => ⟨relativeTarget path, s.entries, s.truncated⟩

/-! ## search -/

structure Match where
  path : String
  lineNumber : ℕ
  line : Utf16.Text
  deriving DecidableEq

structure SearchRequest where
  workspace : WorkspaceMetadata
  query : Utf16.Text
  maxResults : ℕ

structure SearchState where
  queue : List QueueItem
  found : List Match
  truncated : Bool
  totalBytesScanned : ℕ
  filesScanned : ℕ
  /-- The files that have been opened, the oldest first. -/
  opened : List Path

/-- A call that throws, with the files that it had opened. -/
structure SearchFailure where
  error : ToolDomainError
  opened : List Path

def SearchState.aborted (s : SearchState) : SearchFailure where
  error := { code := .TIMEOUT, message := "Search operation was cancelled or timed out" }
  opened := s.opened

/-- `text.split(/\r?\n/)`. -/
def splitLines : List Char → List (List Char)
  | [] => [[]]
  | c :: chars =>
    if c = '\n' then [] :: splitLines chars
    else
      match splitLines chars, chars with
      | _ :: lines, '\n' :: _ => if c = '\r' then [] :: lines else [c] :: lines
      | line :: lines, _ => (c :: line) :: lines
      | [], _ => [[c]]

/-- The loop over the lines of a file, from the line of index `i` on; `true` to stop. -/
def searchLines (r : SearchRequest) (relPath : String) :
    ℕ → List (List Char) → SearchState → SearchState × Bool
  | _, [], s => (s, false)
  | i, line :: lines, s =>
    let units := Utf16.encode line
    if Utf16.includes units r.query then
      let s : SearchState :=
        { s with found := s.found ++ [⟨relPath, i + 1, units.take MAX_SEARCH_LINE_PREVIEW⟩] }
      if r.maxResults ≤ s.found.length then ({ s with truncated := true }, true)
      else searchLines r relPath (i + 1) lines s
    else searchLines r relPath (i + 1) lines s

/-- `searchFile` from the call of `open` on. -/
def searchContent (host : Host) (r : SearchRequest) (filePath : Path) (relPath : String)
    (size : ℕ) (s : SearchState) : SearchState × Bool :=
  match host.openFile filePath with
  | none => (s, false)
  | some (real, content) =>
    let s : SearchState := { s with opened := s.opened ++ [filePath] }
    let fileBuffer := host.fill real content 0 size
    if isBinaryBuffer fileBuffer then (s, false)
    else
      match textDecode fileBuffer with
      | none => (s, false)
      | some textContent => searchLines r relPath 0 (splitLines textContent.toList) s

def searchFile (host : Host) (r : SearchRequest) (filePath : Path) (s : SearchState) :
    Except SearchFailure (SearchState × Bool) :=
  if host.aborted (.file filePath) then .error s.aborted
  else if MAX_SEARCH_FILES ≤ s.filesScanned then .ok ({ s with truncated := true }, true)
  else
    let s : SearchState := { s with filesScanned := s.filesScanned + 1 }
    match host.fs.stat filePath with
    | some (.file content _) =>
      let size := content.length
      if MAX_SEARCH_FILE_SIZE < size then .ok (s, false)
      else if MAX_SEARCH_TOTAL_BYTES < s.totalBytesScanned + size then
        .ok ({ s with truncated := true }, true)
      else
        .ok (searchContent host r filePath (relative r.workspace.root filePath) size
          { s with totalBytesScanned := s.totalBytesScanned + size })
    | _ => .ok (s, false)

/-- What `searchFile` leaves for a link; its `catch` also takes the error of the abort check. -/
def searchLink (host : Host) (r : SearchRequest) (fullEntryPath : Path) (s : SearchState) :
    SearchState × Bool :=
  match host.fs.realpath fullEntryPath with
  | none => (s, false)
  | some target =>
    if linkAllowed r.workspace target then
      match host.fs.stat fullEntryPath with
      | some (.file _ _) =>
        match searchFile host r fullEntryPath s with
        | .ok result => result
        | .error _ => (s, false)
      | _ => (s, false)
    else (s, false)

/-- The loop over the entries of one directory. -/
def searchEntries (host : Host) (r : SearchRequest) (current : QueueItem) :
    List (Name × Entry) → SearchState → Except SearchFailure SearchState
  | [], s => .ok s
  | (name, entry) :: rest, s =>
    let fullEntryPath := current.operationPath ++ [name]
    let canonicalEntryPath := current.canonicalPath ++ [name]
    if host.aborted (.entry fullEntryPath) then .error s.aborted
    else if isDenied r.workspace fullEntryPath || isDenied r.workspace canonicalEntryPath then
      searchEntries host r current rest s
    else
      match entry with
      | .symlink _ =>
        match searchLink host r fullEntryPath s with
        | (s, true) => .ok s
        | (s, false) => searchEntries host r current rest s
      | .directory =>
        searchEntries host r current rest
          { s with
            queue := s.queue ++ [⟨fullEntryPath, canonicalEntryPath, current.currentDepth + 1⟩] }
      | .file _ _ =>
        match searchFile host r fullEntryPath s with
        | .error error => .error error
        | .ok (s, true) => .ok s
        | .ok (s, false) => searchEntries host r current rest s
      | .other => searchEntries host r current rest s

/-- The loop over the queue; `none` when the rounds are used up. -/
def searchLoop (host : Host) (r : SearchRequest) :
    ℕ → SearchState → Option (Except SearchFailure SearchState)
  | 0, _ => none
  | rounds + 1, s =>
    match s.queue with
    | [] => some (.ok s)
    | current :: queue =>
      if s.truncated then some (.ok s)
      else if host.aborted (.directory current.operationPath) then some (.error s.aborted)
      else
        match host.sortedDirents current.operationPath with
        | none => searchLoop host r rounds { s with queue }
        | some dirents =>
          match searchEntries host r current dirents { s with queue } with
          | .error error => some (.error error)
          | .ok s => searchLoop host r rounds s

structure SearchResult where
  query : Utf16.Text
  found : List Match
  truncated : Bool
  totalBytesScanned : ℕ
  filesScanned : ℕ
  opened : List Path

def SearchState.result (r : SearchRequest) (s : SearchState) : SearchResult :=
  ⟨r.query, s.found, s.truncated, s.totalBytesScanned, s.filesScanned, s.opened⟩

/-- The action up to its traversal: the request, what the target is, and the first item. -/
def searchStart (host : Host) (registry : WorkspaceRegistry) (workspaceId : String)
    (path : Option String) (query : Utf16.Text) (maxResults : Option (Between 1 200)) :
    Except ToolDomainError (SearchRequest × Entry × QueueItem) := do
  let target := relativeTarget path
  let resolved ← resolvePath host.fs registry workspaceId target (some .read)
  if !resolved.pathExists then
    .error { code := .PATH_NOT_FOUND, message := s!"Path '{target}' does not exist" }
  else
    match host.fs.stat resolved.operationPath with
    | none =>
      .error { code := .PATH_NOT_FOUND, message := s!"Symlink target not found for '{target}'" }
    | some entry =>
      .ok
        (⟨resolved.workspace, query, (maxResults.map Subtype.val).getD 50⟩, entry,
        ⟨resolved.operationPath, resolved.canonicalPath, 0⟩)

def search (host : Host) (rounds : ℕ) (registry : WorkspaceRegistry) (workspaceId : String)
    (path : Option String) (query : Utf16.Text) (maxResults : Option (Between 1 200)) :
    Option (Except SearchFailure SearchResult) :=
  match searchStart host registry workspaceId path query maxResults with
  | .error error => some (.error ⟨error, []⟩)
  | .ok (r, entry, start) =>
    match entry with
    | .file _ _ =>
      some ((searchFile host r start.operationPath ⟨[], [], false, 0, 0, []⟩).map fun result =>
        result.1.result r)
    | .directory =>
      (searchLoop host r rounds ⟨[start], [], false, 0, 0, []⟩).map fun result =>
        result.map fun s => s.result r
    | _ => some (.ok (SearchState.result r ⟨[], [], false, 0, 0, []⟩))

end Doctmcp.Tools.FilesystemRead

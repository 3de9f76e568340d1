import Doctmcp.Lib.FileSystem
import Doctmcp.Tools.Errors

/-! # Workspaces

`WorkspaceRegistry` and `WorkspacePathResolver` of `apps/agent/src/workspace.ts` on a POSIX file system
that nothing changes during a call. -/

namespace Doctmcp.Tools
open Doctmcp.Lib Doctmcp.Lib.PosixPath
set_option autoImplicit false

inductive WorkspaceCapability
  | read
  | write
  | delete
  | execute
  deriving DecidableEq

def WorkspaceCapability.name : WorkspaceCapability → String
  | .read => "read"
  | .write => "write"
  | .delete => "delete"
  | .execute => "execute"

/-- The capabilities that a configuration sets to `true`. -/
structure WorkspaceCapabilities where
  read : Bool := false
  write : Bool := false
  delete : Bool := false
  execute : Bool := false

def WorkspaceCapabilities.get (capabilities : WorkspaceCapabilities) : WorkspaceCapability → Bool
  | .read => capabilities.read
  | .write => capabilities.write
  | .delete => capabilities.delete
  | .execute => capabilities.execute

structure WorkspaceConfig where
  id : String
  name : String
  root : String
  capabilities : WorkspaceCapabilities
  deny : List String := []

structure WorkspaceMetadata where
  id : String
  name : String
  root : Path
  capabilities : WorkspaceCapabilities
  deny : List String

def invalidConfig (message : String) : ToolDomainError := { code := .INVALID_INPUT, message }

/-- With the tests of the relative path that the source makes. -/
def isPathInside (root target : Path) : Bool :=
  let child := relative root target
  child = "" ||
    (child ≠ ".." && !(['.', '.', '/'].isPrefixOf child.toList) && !isAbsolute child)

def rejectUnsafeRelativePath (path : String) : Except ToolDomainError Unit :=
  if path = "" ∨ isAbsolute path = true ∨ win32IsAbsolute path = true then
    .error
      { code := .PATH_OUTSIDE_WORKSPACE, message := "Path must be a non-empty relative path" }
  else
    let segments := (path.toList.map fun c => if c = '\\' then '/' else c).splitOn '/'
    if ['.', '.'] ∈ segments then
      .error { code := .PATH_OUTSIDE_WORKSPACE, message := "Path traversal is not allowed" }
    else .ok ()

def canonicalizeRoot (fs : FileSystem) (cwd : Path) (root : String) :
    Except ToolDomainError Path :=
  match fs.realpath (resolve cwd root) with
  | some path => .ok path
  | none => .error { code := .PATH_NOT_FOUND, message := "Workspace root does not exist" }

structure CanonicalTarget where
  canonicalPath : Path
  pathExists : Bool
  deriving DecidableEq

/-- The text of a path, with the slash that it may end in. -/
def renderSlash (path : Path) (slash : Bool) : String :=
  if slash = true ∧ path ≠ [] then render path ++ "/" else render path

/-- The loop of `canonicalizeTarget`. The candidate is given from its last name upwards. -/
def climb (fs : FileSystem) (root : Path) :
    List Name → Bool → List String → Except ToolDomainError CanonicalTarget
  | upward, slash, missing =>
    match fs.realpath upward.reverse slash with
    | some existing => .ok ⟨missing.reverse.foldl join existing, false⟩
    | none =>
      match upward with
      | [] =>
        .error { code := .PATH_OUTSIDE_WORKSPACE, message := "Path cannot be resolved safely" }
      | name :: above =>
        let parent := above.reverse
        if isPathInside root parent then
          climb fs root above false
            (missing ++ [JsString.slice (JsString.length (render parent) + 1)
              (renderSlash (name :: above).reverse slash)])
        else
          .error { code := .PATH_OUTSIDE_WORKSPACE, message := "Path cannot be resolved safely" }

def canonicalizeTarget (fs : FileSystem) (root operationPath : Path) (slash : Bool := false) :
    Except ToolDomainError CanonicalTarget :=
  match fs.realpath operationPath slash with
  | some canonicalPath => .ok ⟨canonicalPath, true⟩
  | none => climb fs root operationPath.reverse slash []

/-! ## The registry -/

/-- The text ends in a slash, which `join` keeps. -/
def endsInSlash (path : String) : Bool := path.toList.getLast? = some '/'

/-- One entry of `config.deny`. -/
def canonicalizeDeny (fs : FileSystem) (root : Path) (denyPath : String) :
    Except ToolDomainError String := do
  rejectUnsafeRelativePath denyPath
  let canonicalDeny ← canonicalizeTarget fs root (join root denyPath) (endsInSlash denyPath)
  if isPathInside root canonicalDeny.canonicalPath then
    .ok (relative root canonicalDeny.canonicalPath)
  else
    .error { code := .PATH_OUTSIDE_WORKSPACE, message := "Deny path is outside workspace" }

/-- One round of the loop over the configurations. -/
def createWorkspace (fs : FileSystem) (cwd : Path) (workspaces : List WorkspaceMetadata)
    (config : WorkspaceConfig) : Except ToolDomainError (List WorkspaceMetadata) := do
  if config.id = "" ∨ config.id ∈ workspaces.map WorkspaceMetadata.id ∨ config.name = "" then
    .error (invalidConfig "Workspace id and name must be unique and non-empty")
  else
    let root ← canonicalizeRoot fs cwd config.root
    let deny ← config.deny.mapM (canonicalizeDeny fs root)
    .ok (workspaces ++ [⟨config.id, config.name, root, config.capabilities, deny⟩])

/-- Some root is inside another one, of those that stand before or after it. -/
def overlaps : List WorkspaceMetadata → Bool
  | [] => false
  | workspace :: others =>
    others.any (fun other =>
      isPathInside workspace.root other.root || isPathInside other.root workspace.root) ||
    overlaps others

structure WorkspaceRegistry where
  workspaces : List WorkspaceMetadata

namespace WorkspaceRegistry

def create (fs : FileSystem) (cwd : Path) (configs : List WorkspaceConfig) :
    Except ToolDomainError WorkspaceRegistry := do
  let workspaces ← configs.foldlM (createWorkspace fs cwd) []
  if overlaps workspaces then .error (invalidConfig "Workspace roots must not overlap")
  else .ok ⟨workspaces⟩

def get (registry : WorkspaceRegistry) (id : String) : Option WorkspaceMetadata :=
  registry.workspaces.find? fun workspace => workspace.id = id

end WorkspaceRegistry

/-! ## The resolver -/

structure ResolvedWorkspacePath where
  workspace : WorkspaceMetadata
  operationPath : Path
  canonicalPath : Path
  pathExists : Bool

/-- A deny subtree of the workspace that the request touches. -/
def denies (workspace : WorkspaceMetadata) (capability : Option WorkspaceCapability)
    (operationPath canonicalPath : Path) : Bool :=
  workspace.deny.any fun denyPath =>
    isPathInside (join workspace.root denyPath) operationPath ||
    isPathInside (join workspace.root denyPath) canonicalPath ||
    (capability = some .delete && isPathInside operationPath (join workspace.root denyPath)) ||
    (capability = some .delete && isPathInside canonicalPath (join workspace.root denyPath))

/-- The last entry is a link, and the request deletes it. -/
def finalEntryIsSymlink (fs : FileSystem) (capability : Option WorkspaceCapability)
    (operationPath : Path) : Bool :=
  capability = some .delete && ((fs.lstat operationPath).map Entry.isSymbolicLink).getD false

/-- The directory that the last entry really is in lies inside the root. -/
def parentInsideWorkspace (fs : FileSystem) (root operationPath : Path) : Bool :=
  match fs.realpath operationPath.dropLast with
  | some parent => isPathInside root parent
  | none => false

/-- `WorkspacePathResolver.resolve`. -/
def resolvePath (fs : FileSystem) (registry : WorkspaceRegistry) (workspaceId path : String)
    (capability : Option WorkspaceCapability) : Except ToolDomainError ResolvedWorkspacePath :=
  match registry.get workspaceId with
  | none =>
    .error
      { code := .WORKSPACE_NOT_FOUND, message := s!"Workspace '{workspaceId}' does not exist" }
  | some workspace => do
    rejectUnsafeRelativePath path
    let operationPath := join workspace.root path
    let isSymlink := finalEntryIsSymlink fs capability operationPath
    let target ← canonicalizeTarget fs workspace.root operationPath
    let targetExists := target.pathExists || isSymlink
    let canonicalInsideWorkspace := isPathInside workspace.root target.canonicalPath
    let mayUnlinkOutsideSymlink : Bool :=
      capability = some .delete && isSymlink &&
        (isSymlink && parentInsideWorkspace fs workspace.root operationPath)
    if !canonicalInsideWorkspace && !mayUnlinkOutsideSymlink then
      .error { code := .PATH_OUTSIDE_WORKSPACE, message := "Path resolves outside workspace" }
    else if capability = some .delete ∧ operationPath = workspace.root then
      .error { code := .PERMISSION_DENIED, message := "Workspace root cannot be deleted" }
    else if denies workspace capability operationPath target.canonicalPath then
      .error { code := .PERMISSION_DENIED, message := "Path is denied by workspace policy" }
    else
      match capability with
      | none => .ok ⟨workspace, operationPath, target.canonicalPath, targetExists⟩
      | some capability =>
        if workspace.capabilities.get capability then
          .ok ⟨workspace, operationPath, target.canonicalPath, targetExists⟩
        else
          .error
            { code := .PERMISSION_DENIED
              message := s!"Capability '{capability.name}' is not enabled" }

end Doctmcp.Tools

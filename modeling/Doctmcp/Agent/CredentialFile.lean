import Doctmcp.Lib.Binary64
import Doctmcp.Lib.Json
import Doctmcp.Lib.OrderedMap
import Doctmcp.Lib.PosixPath
import Doctmcp.Lib.Runs
import Doctmcp.Agent.DeviceCredentialProvider
import Doctmcp.Agent.Reconnect

/-! # The file of the credential

`FileDeviceCredentialProvider` of `device-credential-provider.ts`. `replace` waits for one file
operation after the other; each settles as an event of its own, done or not. A crash ends the process
at any of them: an operation that was not synced leaves any content, and a rename takes effect or
does not. -/

namespace Doctmcp.Agent.CredentialFile
open Doctmcp.Lib Doctmcp.Schemas PosixPath
open Reconnect (LocalDeviceCredentialProviderErrorCode)
set_option autoImplicit false

/-! ## The record -/

/-- A record as its caller gives it. -/
structure CredentialRecord where
  deviceId : String
  credential : String

/-- `localDeviceCredentialSchema`; the device id is canonicalised. -/
def localDeviceCredentialSchema (record : CredentialRecord) : Option LocalDeviceCredential :=
  match deviceIdSchema record.deviceId with
  | none => none
  | some deviceId =>
    if h : deviceCredentialSecretSchema record.credential = true then
      some ⟨deviceId, record.credential, h⟩
    else none

def parseCredentialRecord (record : CredentialRecord) :
    Except LocalDeviceCredentialProviderErrorCode LocalDeviceCredential :=
  match localDeviceCredentialSchema record with
  | none => .error .INVALID_CREDENTIAL_RECORD
  | some parsed => .ok parsed

/-- A string value. A surrogate without its pair is in no text that the schemas accept. -/
def stringOf : Option Json.Value → Option String
  | some (.string text) => ((Utf16.decode text).mapM id).map String.ofList
  | _ => none

/-- `z.literal(1)`. -/
def isVersion : Option Json.Value → Bool
  | some (.number value) => Binary64.rounded value = 1
  | _ => false

/-- `persistedCredentialSchema`: an object with these keys and no other. -/
def persistedCredentialSchema : Json.Value → Option LocalDeviceCredential
  | .object members =>
    let keys := [Json.units "deviceId", Json.units "credential", Json.units "version"]
    if members.all (fun member => member.1 ∈ keys) &&
        isVersion (Json.get? members (Json.units "version")) then
      match stringOf (Json.get? members (Json.units "deviceId")),
          stringOf (Json.get? members (Json.units "credential")) with
      | some deviceId, some credential => localDeviceCredentialSchema ⟨deviceId, credential⟩
      | _, _ => none
    else none
  | _ => none

/-- The members of `{ version: 1, deviceId, credential }` with the texts of their values. -/
def persistedMembers (parsed : LocalDeviceCredential) : List (Utf16.Text × Utf16.Text) :=
  [(Json.units "version", Json.units "1"),
    (Json.units "deviceId", Json.quote (Json.units parsed.deviceId.value)),
    (Json.units "credential", Json.quote (Json.units parsed.credential.val))]

/-- `JSON.stringify({ version: 1, deviceId, credential })`, written as UTF-8. -/
def stringify (parsed : LocalDeviceCredential) : List UInt8 :=
  Utf16.utf8Bytes (Json.stringifyObject (persistedMembers parsed))

/-! ## Loading -/

/-- Why `readFile` fails. -/
inductive ReadFailure
  | ENOENT
  | other

/-- `load`, given what `readFile` gives. -/
def load (read : Except ReadFailure (List UInt8)) :
    Except LocalDeviceCredentialProviderErrorCode (Option LocalDeviceCredential) :=
  match read with
  | .error .ENOENT => .ok none
  | .error .other => .error .CREDENTIAL_STORAGE_FAILED
  | .ok bytes =>
    match Json.parse (Utf16.encode (Utf8.lossy bytes).toList) with
    | none => .error .CREDENTIAL_STORAGE_INVALID
    | some value =>
      match persistedCredentialSchema value with
      | none => .error .CREDENTIAL_STORAGE_INVALID
      | some parsed => .ok (some parsed)

/-! ## Replacing -/

abbrev Files := OrderedMap Path (List UInt8)

def readFile (files : Files) (path : Path) : Except ReadFailure (List UInt8) :=
  match files.get? path with
  | none => .error .ENOENT
  | some bytes => .ok bytes

/-- The file operation that `replace` waits for. `close` knows whether what came before it in the
`try` failed. -/
inductive Operation
  | mkdir
  | openExclusive
  | writeFile
  | sync
  | close (failed : Bool)
  | rename
  | rm
  deriving DecidableEq

/-- A call of `replace` after its record was parsed. -/
structure Replacing where
  parsed : LocalDeviceCredential
  temporaryPath : Path
  waits : Operation

/-- How a call of `replace` settled, and, where it cleaned up, whether the removal succeeded. -/
structure Outcome where
  result : Except LocalDeviceCredentialProviderErrorCode Unit
  removed : Option Bool

/-- The files and the running call. `committed` is the credential of the last rename that took
effect; nothing reads it. -/
structure World where
  files : Files
  running : Option Replacing
  outcomes : List Outcome
  committed : Option LocalDeviceCredential

def World.start (files : Files) : World := ⟨files, none, [], none⟩

inductive Event
  | replace (record : CredentialRecord) (uuid : UuidV4)
  /-- The operation that is waited for settles. A write that fails leaves the first `written`
  bytes. -/
  | settled (done : Bool) (written : ℕ)
  /-- The process ends. A temporary file that was not synced is `left`; a rename took effect or did
  not. -/
  | crash (left : Option (List UInt8)) (renamed : Bool)

/-- `path` of the provider, cut at its last name. -/
structure FileDeviceCredentialProvider where
  directory : Path
  base : Name

namespace FileDeviceCredentialProvider
variable (p : FileDeviceCredentialProvider)

def path : Path := p.directory ++ [p.base]

def temporaryPath (uuid : UuidV4) : Path :=
  join p.directory ("." ++ p.base.val ++ "." ++ uuid.value ++ ".tmp")

/-- The call goes on to wait for another operation. -/
def await (w : World) (call : Replacing) (next : Operation) : World :=
  { w with running := some { call with waits := next } }

def settle (w : World) (outcome : Outcome) : World :=
  { w with running := none, outcomes := w.outcomes ++ [outcome] }

/-- `replace` up to its first operation. -/
def replace (w : World) (record : CredentialRecord) (uuid : UuidV4) : World :=
  match parseCredentialRecord record with
  | .error code => settle w ⟨.error code, none⟩
  | .ok parsed => { w with running := some ⟨parsed, p.temporaryPath uuid, .mkdir⟩ }

/-- The rename takes effect. -/
def move (w : World) (call : Replacing) (content : List UInt8) : World :=
  { w with
    files := (w.files.delete call.temporaryPath).set p.path content
    committed := some call.parsed }

/-- `replace` from the operation it waited for to the next. -/
def proceed (w : World) (call : Replacing) (done : Bool) (written : ℕ) : World :=
  match call.waits with
  | .mkdir => await w call (if done then .openExclusive else .rm)
  | .openExclusive =>
    -- The flag `wx` refuses a file that exists.
    if done && !w.files.has call.temporaryPath then
      await { w with files := w.files.set call.temporaryPath [] } call .writeFile
    else await w call .rm
  | .writeFile =>
    let content := stringify call.parsed
    if done then await { w with files := w.files.set call.temporaryPath content } call .sync
    else
      await { w with files := w.files.set call.temporaryPath (content.take written) } call
        (.close true)
  | .sync => await w call (.close !done)
  | .close failed => await w call (if done && !failed then .rename else .rm)
  | .rename =>
    match w.files.get? call.temporaryPath with
    | none => await w call .rm
    | some content =>
      if done then settle (p.move w call content) ⟨.ok (), none⟩ else await w call .rm
  | .rm =>
    let files := if done then w.files.delete call.temporaryPath else w.files
    settle { w with files := files } ⟨.error .CREDENTIAL_STORAGE_FAILED, some done⟩

/-- A temporary file that was not synced has any content, or is gone. -/
def leave (w : World) (call : Replacing) (left : Option (List UInt8)) : World :=
  match left with
  | none => { w with files := w.files.delete call.temporaryPath }
  | some bytes => { w with files := w.files.set call.temporaryPath bytes }

/-- What a crash leaves of the running call. -/
def abandon (w : World) (call : Replacing) (left : Option (List UInt8)) (renamed : Bool) : World :=
  match call.waits with
  | .mkdir => w
  | .rename =>
    match w.files.get? call.temporaryPath with
    | none => w
    | some content => if renamed then p.move w call content else w
  | .openExclusive | .writeFile | .sync | .close _ | .rm => leave w call left

def step (w : World) : Event → World
  | .replace record uuid =>
    match w.running with
    | none => p.replace w record uuid
    | some _ => w
  | .settled done written =>
    match w.running with
    | none => w
    | some call => p.proceed w call done written
  | .crash left renamed =>
    match w.running with
    | none => w
    | some call => { p.abandon w call left renamed with running := none }

/-- What a call of `load` gives. -/
def loaded (w : World) :
    Except LocalDeviceCredentialProviderErrorCode (Option LocalDeviceCredential) :=
  load (readFile w.files p.path)

end FileDeviceCredentialProvider
end Doctmcp.Agent.CredentialFile

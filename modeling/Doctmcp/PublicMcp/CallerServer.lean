import Doctmcp.Lib.OrderedMap
import Doctmcp.Lib.Utf16
import Doctmcp.Routing.Service

/-! # The tools of a caller

`buildCallerServer` of `public-mcp-endpoint.ts` registers the owner's own tools and, for every
device, the tools of its catalog under the prefix of the device. A server refuses a name that it
has, and the build stops there. The JSON schemas, their converted form and the annotations belong
to the MCP library; `fromJSONSchema` is its conversion, `none` where it throws. -/

namespace Doctmcp.PublicMcp
open Doctmcp.Lib Doctmcp.Lib.Utf16 Doctmcp.Routing Doctmcp.Schemas
set_option autoImplicit false

def maxDevicesPerOwner : ℕ := 100
def maxToolsPerRequest : ℕ := 1000

/-- A text of the source. -/
def literal (text : String) : Text := encode text.toList

def tooManyDevices : DeviceRoutingError :=
  ⟨.ROUTING_UNAVAILABLE, "Số lượng thiết bị vượt giới hạn cho phép."⟩

def tooManyTools : DeviceRoutingError :=
  ⟨.ROUTING_UNAVAILABLE, "Số lượng MCP tool vượt giới hạn cho phép."⟩

/-! ## The tool `devices_list` -/

structure SafeDevice where
  deviceId : DeviceId
  deviceName : String
  metadata : DeviceMetadata
  status : DeviceStatus
  connectedAt : Option ℤ
  lastSeenAt : Option ℤ

def safeDevice (device : RoutedDeviceSnapshot) : SafeDevice where
  deviceId := device.deviceId
  deviceName := device.deviceName
  metadata := device.metadata
  status := device.status
  connectedAt := device.connectedAt
  lastSeenAt := device.lastSeenAt

/-- What the handler of `devices_list` answers: the devices, or the code of an error result.
`listed` is what `deviceRouter.listDevices` comes to. -/
def listDevicesResult (listed : Except DeviceRoutingError (List RoutedDeviceSnapshot)) :
    Except DeviceRoutingErrorCode (List SafeDevice) :=
  match listed with
  | .error error => .error error.code
  | .ok devices =>
    if maxDevicesPerOwner < devices.length then .error tooManyDevices.code
    else .ok (devices.map safeDevice)

/-! ## Catalogs -/

section Server
variable {J S A : Type}

variable (J A) in
/-- A tool that a device announces. -/
structure Tool where
  name : Text
  title : Option Text
  description : Option Text
  inputSchema : J
  outputSchema : Option J
  annotations : Option A

variable (J A) in
structure ListToolsResult where
  tools : List (Tool J A)

variable (J A) in
structure CachedCatalog where
  ownerId : String
  result : ListToolsResult J A

/-- `RoutedDeviceMcpClientRegistry.getCachedTools` on `#toolCatalogByDevice`. -/
def getCachedTools (toolCatalogByDevice : OrderedMap String (CachedCatalog J A))
    (ownerId deviceId : String) : Option (ListToolsResult J A) :=
  match toolCatalogByDevice.get? deviceId with
  | none => none
  | some cached => if cached.ownerId ≠ ownerId then none else some cached.result

variable (J A) in
/-- What the registry holds when the turn of a device comes, and what `listTools` then comes to. -/
structure Discovery where
  toolCatalogByDevice : OrderedMap String (CachedCatalog J A)
  listTools : Except DeviceRoutingError (ListToolsResult J A)

/-- `discovered`: the answer of a device that is online, or its previous catalog. -/
def discovered (ownerId : String) (device : RoutedDeviceSnapshot) (discovery : Discovery J A) :
    Option (ListToolsResult J A) :=
  let cached := getCachedTools discovery.toolCatalogByDevice ownerId device.deviceId.value
  if device.status = .online then
    match discovery.listTools with
    | .ok result => some result
    | .error _ => cached
  else cached

/-! ## Registration -/

/-- What a public tool does when it is called. -/
inductive Callback
  | devicesList
  | devicesPair
  | callTool (ownerId : String) (deviceId : DeviceId) (name : Text)
  deriving DecidableEq

variable (S A) in
structure RegisteredTool where
  title : Text
  description : Text
  inputSchema : Option S
  outputSchema : Option S
  annotations : Option A
  callback : Callback

variable (S A) in
/-- The tools of an `McpServer` by name. -/
abbrev McpServer := OrderedMap Text (RegisteredTool S A)

inductive BuildError
  | routing (error : DeviceRoutingError)
  | schema
  | alreadyRegistered (name : Text)
  deriving DecidableEq

/-- `McpServer.registerTool`. -/
def registerTool (server : McpServer S A) (name : Text) (tool : RegisteredTool S A) :
    Except BuildError (McpServer S A) :=
  if server.has name = true then .error (.alreadyRegistered name) else .ok (server.set name tool)

/-- `deviceId.replaceAll("-", "").toLowerCase()` between the marks of a device's prefix. -/
def toolPrefix (deviceId : String) : Text :=
  literal ("d_" ++ JsString.toLowerCase (String.ofList (deviceId.toList.filter (· ≠ '-'))) ++ "__")

def publicName (deviceId : DeviceId) (name : Text) : Text := toolPrefix deviceId.value ++ name

def convert (fromJSONSchema : J → Option S) (schema : J) : Except BuildError S :=
  match fromJSONSchema schema with
  | some converted => .ok converted
  | none => .error .schema

/-- The tool that is registered for a tool of a device. -/
def publicTool (fromJSONSchema : J → Option S) (ownerId : String) (device : RoutedDeviceSnapshot)
    (tool : Tool J A) : Except BuildError (RegisteredTool S A) := do
  let inputSchema ← convert fromJSONSchema tool.inputSchema
  let outputSchema ← match tool.outputSchema with
    | some schema => (convert fromJSONSchema schema).map some
    | none => pure none
  return {
    title := literal device.deviceName ++ literal ": " ++
      (match tool.title with
        | some title => if title = [] then tool.name else title
        | none => tool.name)
    description := literal "Thiết bị: " ++ literal device.deviceName ++ literal " (" ++
      literal device.deviceId.value ++ literal ").\n\n" ++ tool.description.getD tool.name
    inputSchema := some inputSchema
    outputSchema := outputSchema
    annotations := tool.annotations
    callback := .callTool ownerId device.deviceId tool.name }

variable (fromJSONSchema : J → Option S) (ownerId : String)

/-- `for (const tool of discovered.tools)`. -/
def registerTools (device : RoutedDeviceSnapshot) :
    List (Tool J A) → ℕ × McpServer S A → Except BuildError (ℕ × McpServer S A)
  | [], progress => .ok progress
  | tool :: tools, (totalTools, server) => do
    if maxToolsPerRequest < totalTools + 1 then throw (.routing tooManyTools)
    let registered ← publicTool fromJSONSchema ownerId device tool
    let server ← registerTool server (publicName device.deviceId tool.name) registered
    registerTools device tools (totalTools + 1, server)

/-- `for (const device of devices)`. -/
def registerDevices (discovery : RoutedDeviceSnapshot → Discovery J A) :
    List RoutedDeviceSnapshot → ℕ × McpServer S A → Except BuildError (ℕ × McpServer S A)
  | [], progress => .ok progress
  | device :: devices, progress =>
    match discovered ownerId device (discovery device) with
    | none => registerDevices discovery devices progress
    | some result => do
      let progress ← registerTools fromJSONSchema ownerId device result.tools progress
      registerDevices discovery devices progress

def devicesList : RegisteredTool S A where
  title := literal "List connected devices"
  description := literal ("Liệt kê các thiết bị thuộc tài khoản này và trạng thái " ++
    "online/offline hiện tại.")
  inputSchema := none
  outputSchema := none
  annotations := none
  callback := .devicesList

def devicesPair (inputSchema : S) : RegisteredTool S A where
  title := literal "Pair a local device"
  description := literal ("Ghép một thiết bị local với tài khoản hiện tại. Hãy hỏi người dùng " ++
    "pairing code đang hiển thị trên CLI và tên thiết bị muốn đăng ký. Không tự suy đoán code, " ++
    "không đọc code từ filesystem, và không tự gọi lại sau khi gặp lỗi.")
  inputSchema := some inputSchema
  outputSchema := none
  annotations := none
  callback := .devicesPair

/-- The server with the owner's own tools; `pairing` is the converted schema of `devices_pair` where
a completion service and a coordinator are configured. -/
def ownServer (pairing : Option S) : Except BuildError (ℕ × McpServer S A) := do
  let server ← registerTool .empty (literal "devices_list") devicesList
  match pairing with
  | none => return (1, server)
  | some inputSchema =>
    let server ← registerTool server (literal "devices_pair") (devicesPair inputSchema)
    return (2, server)

/-- `listed` is what `deviceRouter.listDevices` comes to. -/
def buildCallerServer (pairing : Option S)
    (listed : Except DeviceRoutingError (List RoutedDeviceSnapshot))
    (discovery : RoutedDeviceSnapshot → Discovery J A) : Except BuildError (McpServer S A) := do
  let (totalTools, server) ← ownServer pairing
  let devices ← listed.mapError BuildError.routing
  if maxDevicesPerOwner < devices.length then throw (.routing tooManyDevices)
  let (_, server) ← registerDevices fromJSONSchema ownerId discovery devices (totalTools, server)
  return server

end Server

end Doctmcp.PublicMcp

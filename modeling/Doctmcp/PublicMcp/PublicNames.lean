import Doctmcp.PublicMcp.CallerServer

/-! # The name space of a caller

A public name is the prefix of a device, of one length for all devices, and the name of a tool: it
determines both. So the build of a caller's server fails over a name exactly when one catalog
announces a name twice, and otherwise every tool is there and calls its own device. -/

namespace Doctmcp.PublicMcp
open Doctmcp.Lib Doctmcp.Lib.Utf16 Doctmcp.Routing Doctmcp.Schemas
set_option autoImplicit false

/-! ## Names -/

theorem length_encode {cs : List Char} (h : ∀ c ∈ cs, c.toNat < 0x10000) :
    (encode cs).length = cs.length := by
  induction cs with
  | nil => rfl
  | cons c cs ih =>
    have hcons : encode (c :: cs) = unitsOf c ++ encode cs := List.flatMap_cons
    have hunit : unitsOf c = [UInt16.ofNat c.toNat] := if_pos (h c List.mem_cons_self)
    rw [hcons, hunit, List.length_append, ih fun d hd => h d (List.mem_cons_of_mem c hd)]
    simp only [List.length_cons, List.length_nil]
    omega

theorem encode_injective {cs ds : List Char} (h : encode cs = encode ds) : cs = ds := by
  have hdecode := congrArg decode h
  rw [decode_encode, decode_encode] at hdecode
  exact List.map_injective_iff.2 (fun _ _ heq => Option.some.inj heq) hdecode

/-- The dashes of a text stand where its pattern has them. -/
theorem filter_fits {ps : List (Char → Bool)}
    (hps : ∀ p ∈ ps, (∀ c, p c = true → c = '-') ∨ ∀ c, p c = true → c ≠ '-') {a b : List Char}
    (ha : JsString.fits ps a = true) (hb : JsString.fits ps b = true) :
    (a.filter (· ≠ '-')).length = (b.filter (· ≠ '-')).length ∧
      (a.filter (· ≠ '-') = b.filter (· ≠ '-') → a = b) := by
  induction ps generalizing a b with
  | nil =>
    cases a with
    | nil => cases b with
      | nil => exact ⟨rfl, fun _ => rfl⟩
      | cons => cases hb
    | cons => cases ha
  | cons p ps ih =>
    cases a with
    | nil => cases ha
    | cons c a => cases b with
      | nil => cases hb
      | cons d b =>
        rw [JsString.fits, Bool.and_eq_true] at ha hb
        obtain ⟨hlength, hsame⟩ := ih (fun q hq => hps q (List.mem_cons_of_mem p hq)) ha.2 hb.2
        rcases hps p List.mem_cons_self with hdash | hother
        · obtain rfl := hdash c ha.1
          obtain rfl := hdash d hb.1
          exact ⟨by simpa using hlength, fun h => congrArg _ (hsame (by simpa using h))⟩
        · have hc := hother c ha.1
          have hd := hother d hb.1
          rw [List.filter_cons_of_pos (by simpa using hc), List.filter_cons_of_pos (by simpa using hd)]
          refine ⟨by simpa using hlength, fun h => ?_⟩
          obtain ⟨rfl, htail⟩ := List.cons.inj h
          rw [hsame htail]

theorem uuidV4Pattern_dashes : ∀ p ∈ uuidV4Pattern,
    (∀ c, p c = true → c = '-') ∨ ∀ c, p c = true → c ≠ '-' := by
  intro p hp
  have hhex : ∀ c, isHexDigit c = true → c ≠ '-' := by
    rintro c hc rfl
    cases hc
  have hvariant : ∀ c, isVariantDigit c = true → c ≠ '-' := by
    rintro c hc rfl
    cases hc
  have hfour : ∀ c : Char, (c == '4') = true → c ≠ '-' := by
    rintro c hc rfl
    cases hc
  simp only [uuidV4Pattern, List.mem_append, List.mem_replicate, List.mem_cons,
    List.not_mem_nil, or_false] at hp
  rcases hp with (((((((⟨-, rfl⟩ | rfl) | ⟨-, rfl⟩) | rfl | rfl) | ⟨-, rfl⟩) | rfl | rfl) |
    ⟨-, rfl⟩) | rfl) | ⟨-, rfl⟩
  all_goals first
    | exact .inr hhex
    | exact .inr hvariant
    | exact .inr hfour
    | exact .inl fun c hc => beq_iff_eq.1 hc

/-- The digits of a device id. -/
def digits (deviceId : DeviceId) : List Char := deviceId.value.toList.filter (· ≠ '-')

theorem toolPrefix_eq (deviceId : DeviceId) :
    toolPrefix deviceId.value = encode ("d_".toList ++ digits deviceId ++ "__".toList) := by
  have hcanonical : deviceId.value.toList.map Char.toLower = deviceId.value.toList := by
    have h := congrArg String.toList deviceId.canonical
    rwa [JsString.toLowerCase, String.toList_ofList] at h
  have hlower : ∀ c ∈ deviceId.value.toList, c.toLower = c :=
    List.map_inj_left.1 (hcanonical.trans (List.map_id _).symm)
  have hdigits : JsString.toLowerCase (String.ofList (digits deviceId)) =
      String.ofList (digits deviceId) := by
    rw [JsString.toLowerCase, String.toList_ofList]
    congr 1
    exact (List.map_congr_left fun c hc => hlower c (List.mem_of_mem_filter hc)).trans
      (List.map_id _)
  unfold digits at hdigits ⊢
  rw [toolPrefix, hdigits, literal]
  simp only [String.toList_append, String.toList_ofList]

theorem digits_small (deviceId : DeviceId) : ∀ c ∈ digits deviceId, c.toNat < 0x10000 := by
  intro c hc
  obtain ⟨p, hp, hpc⟩ := JsString.fits_mem deviceId.wellFormed c (List.mem_of_mem_filter hc)
  rcases uuidV4Pattern_char hp hpc with hhex | rfl
  · exact (isHexDigit_lt hhex).trans (by decide)
  · decide

theorem length_toolPrefix (deviceId : DeviceId) :
    (toolPrefix deviceId.value).length = (digits deviceId).length + 4 := by
  rw [toolPrefix_eq, length_encode]
  · simp only [List.length_append]
    have hopen : "d_".toList.length = 2 := rfl
    have hclose : "__".toList.length = 2 := rfl
    omega
  · have hopen : ∀ c ∈ "d_".toList, c.toNat < 0x10000 :=
      List.forall_iff_forall_mem.mp (by decide)
    have hclose : ∀ c ∈ "__".toList, c.toNat < 0x10000 :=
      List.forall_iff_forall_mem.mp (by decide)
    intro c hc
    rcases List.mem_append.1 hc with hc | hc
    · rcases List.mem_append.1 hc with hc | hc
      · exact hopen c hc
      · exact digits_small deviceId c hc
    · exact hclose c hc

theorem publicName_injective {deviceId deviceId' : DeviceId} {name name' : Text}
    (h : publicName deviceId name = publicName deviceId' name') :
    deviceId = deviceId' ∧ name = name' := by
  obtain ⟨hlength, hsame⟩ :=
    filter_fits uuidV4Pattern_dashes deviceId.wellFormed deviceId'.wellFormed
  have hlength' : (toolPrefix deviceId.value).length = (toolPrefix deviceId'.value).length := by
    rw [length_toolPrefix, length_toolPrefix]
    exact congrArg (· + 4) hlength
  obtain ⟨hfore, hname⟩ := List.append_inj h hlength'
  rw [toolPrefix_eq, toolPrefix_eq] at hfore
  have hdigits := List.append_cancel_left (List.append_cancel_right (encode_injective hfore))
  exact ⟨UuidV4.ext (String.toList_injective (hsame hdigits)), hname⟩

/-- A public name goes on with an underscore where the owner's own names have an `e`. -/
theorem publicName_second (deviceId : DeviceId) (name : Text) :
    (publicName deviceId name)[1]? = some 0x5F := by
  rw [publicName, toolPrefix_eq]
  rfl

theorem publicName_ne (deviceId : DeviceId) (name : Text) :
    publicName deviceId name ≠ literal "devices_list" ∧
      publicName deviceId name ≠ literal "devices_pair" := by
  constructor
  · intro h
    have hsecond := publicName_second deviceId name
    rw [h] at hsecond
    revert hsecond
    decide
  · intro h
    have hsecond := publicName_second deviceId name
    rw [h] at hsecond
    revert hsecond
    decide

/-! ## One loop over all tools -/

section Build
variable {J S A : Type} (fromJSONSchema : J → Option S) (ownerId : String)

/-- The tools of a device's catalog, each with its device. -/
def announced (discovery : RoutedDeviceSnapshot → Discovery J A) (device : RoutedDeviceSnapshot) :
    List (RoutedDeviceSnapshot × Tool J A) :=
  match discovered ownerId device (discovery device) with
  | none => []
  | some result => result.tools.map fun tool => (device, tool)

def nameOf (announcement : RoutedDeviceSnapshot × Tool J A) : Text :=
  publicName announcement.1.deviceId announcement.2.name

/-- The body of the loop. -/
def registerOne (announcement : RoutedDeviceSnapshot × Tool J A) (progress : ℕ × McpServer S A) :
    Except BuildError (ℕ × McpServer S A) :=
  if maxToolsPerRequest < progress.1 + 1 then .error (.routing tooManyTools)
  else
    (publicTool fromJSONSchema ownerId announcement.1 announcement.2).bind fun registered =>
      (registerTool progress.2 (nameOf announcement) registered).bind fun server =>
        .ok (progress.1 + 1, server)

/-- The loop over the tools of several devices. -/
def registerAll :
    List (RoutedDeviceSnapshot × Tool J A) → ℕ × McpServer S A → Except BuildError (ℕ × McpServer S A)
  | [], progress => .ok progress
  | announcement :: rest, progress =>
    (registerOne fromJSONSchema ownerId announcement progress).bind (registerAll rest)

theorem registerTools_eq (device : RoutedDeviceSnapshot) (tools : List (Tool J A))
    (progress : ℕ × McpServer S A) :
    registerTools fromJSONSchema ownerId device tools progress =
      registerAll fromJSONSchema ownerId (tools.map fun tool => (device, tool)) progress := by
  induction tools generalizing progress with
  | nil => rfl
  | cons tool tools ih =>
    obtain ⟨totalTools, server⟩ := progress
    rw [registerTools, List.map_cons, registerAll, registerOne]
    by_cases htotal : maxToolsPerRequest < totalTools + 1
    · rw [if_pos htotal, if_pos htotal]
      rfl
    · rw [if_neg htotal, if_neg htotal]
      cases hpublic : publicTool fromJSONSchema ownerId device tool with
      | error => rfl
      | ok registered =>
        cases hserver : registerTool server (publicName device.deviceId tool.name) registered with
        | error error => simp [nameOf, hserver, bind, Except.bind]
        | ok server => simp [nameOf, hserver, bind, Except.bind, ih]

theorem registerAll_append (front back : List (RoutedDeviceSnapshot × Tool J A))
    (progress : ℕ × McpServer S A) :
    registerAll fromJSONSchema ownerId (front ++ back) progress =
      (registerAll fromJSONSchema ownerId front progress).bind
        (registerAll fromJSONSchema ownerId back) := by
  induction front generalizing progress with
  | nil => rfl
  | cons announcement front ih =>
    rw [List.cons_append, registerAll, registerAll]
    cases registerOne fromJSONSchema ownerId announcement progress with
    | error => rfl
    | ok progress => exact ih progress

theorem registerDevices_eq (discovery : RoutedDeviceSnapshot → Discovery J A)
    (devices : List RoutedDeviceSnapshot) (progress : ℕ × McpServer S A) :
    registerDevices fromJSONSchema ownerId discovery devices progress =
      registerAll fromJSONSchema ownerId (devices.flatMap (announced ownerId discovery))
        progress := by
  induction devices generalizing progress with
  | nil => rfl
  | cons device devices ih =>
    rw [registerDevices, List.flatMap_cons, registerAll_append, announced]
    cases discovered ownerId device (discovery device) with
    | none => exact ih progress
    | some result =>
      dsimp only
      rw [registerTools_eq]
      cases registerAll fromJSONSchema ownerId (result.tools.map fun tool => (device, tool))
        progress with
      | error => rfl
      | ok progress => exact ih progress

/-! ## When the loop succeeds -/

/-- The conversion takes the schemas of the tool. -/
def Convertible (tool : Tool J A) : Prop :=
  (fromJSONSchema tool.inputSchema).isSome = true ∧
    ∀ schema, tool.outputSchema = some schema → (fromJSONSchema schema).isSome = true

theorem convert_ok_iff (schema : J) :
    (∃ converted, convert fromJSONSchema schema = .ok converted) ↔
      (fromJSONSchema schema).isSome = true := by
  unfold convert
  cases fromJSONSchema schema <;> simp

theorem publicTool_ok_iff (device : RoutedDeviceSnapshot) (tool : Tool J A) :
    (∃ registered, publicTool fromJSONSchema ownerId device tool = .ok registered) ↔
      Convertible fromJSONSchema tool := by
  rw [Convertible, ← convert_ok_iff]
  unfold publicTool
  cases convert fromJSONSchema tool.inputSchema with
  | error => simp [bind, Except.bind]
  | ok inputSchema =>
    cases houtput : tool.outputSchema with
    | none => simp [bind, Except.bind, pure, Except.pure]
    | some schema =>
      have hschema := convert_ok_iff fromJSONSchema schema
      cases hconvert : convert fromJSONSchema schema with
      | error error =>
        rw [hconvert] at hschema
        simp [bind, Except.bind, Except.map, hconvert] at hschema ⊢
        exact hschema
      | ok outputSchema =>
        rw [hconvert] at hschema
        simp [bind, Except.bind, pure, Except.pure, Except.map, hconvert] at hschema ⊢
        exact hschema

theorem publicTool_callback {device : RoutedDeviceSnapshot} {tool : Tool J A}
    {registered : RegisteredTool S A}
    (h : publicTool fromJSONSchema ownerId device tool = .ok registered) :
    registered.callback = .callTool ownerId device.deviceId tool.name := by
  unfold publicTool at h
  simp only [bind, Except.bind] at h
  split at h
  · cases h
  · split at h
    · split at h
      · cases h
      · cases h
        rfl
    · cases h
      rfl

theorem registerOne_ok_iff {announcement : RoutedDeviceSnapshot × Tool J A}
    {progress progress' : ℕ × McpServer S A} (htotal : progress.1 + 1 ≤ maxToolsPerRequest) :
    registerOne fromJSONSchema ownerId announcement progress = .ok progress' ↔
      ∃ registered,
        publicTool fromJSONSchema ownerId announcement.1 announcement.2 = .ok registered ∧
        progress.2.has (nameOf announcement) = false ∧
        progress' = (progress.1 + 1, progress.2.set (nameOf announcement) registered) := by
  rw [registerOne, if_neg (not_lt.2 htotal)]
  cases publicTool fromJSONSchema ownerId announcement.1 announcement.2 with
  | error => simp [Except.bind]
  | ok registered =>
    cases hhas : progress.2.has (nameOf announcement) with
    | true => simp [Except.bind, registerTool, hhas]
    | false => simp [Except.bind, registerTool, hhas, eq_comm]

/-- What a loop that succeeds has met and what it leaves. -/
structure Registered (announcements : List (RoutedDeviceSnapshot × Tool J A))
    (before after : McpServer S A) : Prop where
  convertible : ∀ a ∈ announcements, Convertible fromJSONSchema a.2
  distinct : (announcements.map nameOf).Nodup
  fresh : ∀ a ∈ announcements, before.has (nameOf a) = false
  kept : ∀ name, name ∉ announcements.map nameOf → after.get? name = before.get? name
  present : ∀ a ∈ announcements, ∃ registered,
    publicTool fromJSONSchema ownerId a.1 a.2 = .ok registered ∧
      after.get? (nameOf a) = some registered

theorem registerAll_registered {announcements : List (RoutedDeviceSnapshot × Tool J A)}
    {progress progress' : ℕ × McpServer S A}
    (htotal : progress.1 + announcements.length ≤ maxToolsPerRequest)
    (h : registerAll fromJSONSchema ownerId announcements progress = .ok progress') :
    Registered fromJSONSchema ownerId announcements progress.2 progress'.2 := by
  induction announcements generalizing progress with
  | nil =>
    obtain rfl := Except.ok.inj h
    exact ⟨by simp, by simp, by simp, fun _ _ => rfl, by simp⟩
  | cons a rest ih =>
    rw [List.length_cons] at htotal
    rw [registerAll] at h
    cases hone : registerOne fromJSONSchema ownerId a progress with
    | error =>
      rw [hone] at h
      cases h
    | ok next =>
      rw [hone] at h
      obtain ⟨registered, hpublic, hfresh, rfl⟩ :=
        (registerOne_ok_iff fromJSONSchema ownerId (by omega)).1 hone
      have hrest := ih (by simp only; omega) h
      have hnew : nameOf a ∉ rest.map nameOf := by
        intro hmem
        obtain ⟨b, hb, hname⟩ := List.mem_map.1 hmem
        have hhas := hrest.fresh b hb
        rw [hname] at hhas
        simp [OrderedMap.has] at hhas
      refine ⟨?_, ?_, ?_, ?_, ?_⟩
      · intro b hb
        rcases List.mem_cons.1 hb with rfl | hb
        · exact (publicTool_ok_iff fromJSONSchema ownerId _ _).1 ⟨registered, hpublic⟩
        · exact hrest.convertible b hb
      · exact List.nodup_cons.2 ⟨hnew, hrest.distinct⟩
      · intro b hb
        rcases List.mem_cons.1 hb with rfl | hb
        · exact hfresh
        · have hne : nameOf b ≠ nameOf a := fun heq => hnew (heq ▸ List.mem_map_of_mem hb)
          have hhas := hrest.fresh b hb
          rwa [OrderedMap.has, OrderedMap.get?_set_ne _ _ hne] at hhas
      · intro name hname
        rw [List.map_cons, List.mem_cons, not_or] at hname
        rw [hrest.kept name hname.2, OrderedMap.get?_set_ne _ _ hname.1]
      · intro b hb
        rcases List.mem_cons.1 hb with rfl | hb
        · exact ⟨registered, hpublic, by rw [hrest.kept _ hnew, OrderedMap.get?_set_self]⟩
        · exact hrest.present b hb

theorem registerAll_ok {announcements : List (RoutedDeviceSnapshot × Tool J A)}
    {progress : ℕ × McpServer S A}
    (htotal : progress.1 + announcements.length ≤ maxToolsPerRequest)
    (hconvertible : ∀ a ∈ announcements, Convertible fromJSONSchema a.2)
    (hdistinct : (announcements.map nameOf).Nodup)
    (hfresh : ∀ a ∈ announcements, progress.2.has (nameOf a) = false) :
    ∃ progress', registerAll fromJSONSchema ownerId announcements progress = .ok progress' := by
  induction announcements generalizing progress with
  | nil => exact ⟨progress, rfl⟩
  | cons a rest ih =>
    rw [List.length_cons] at htotal
    rw [List.map_cons, List.nodup_cons] at hdistinct
    obtain ⟨registered, hpublic⟩ := (publicTool_ok_iff fromJSONSchema ownerId a.1 a.2).2
      (hconvertible a List.mem_cons_self)
    have hone := (registerOne_ok_iff fromJSONSchema ownerId (by omega)).2
      ⟨registered, hpublic, hfresh a List.mem_cons_self, rfl⟩
    rw [registerAll, hone]
    apply ih
    · simp only
      omega
    · exact fun b hb => hconvertible b (List.mem_cons_of_mem a hb)
    · exact hdistinct.2
    · intro b hb
      have hne : nameOf b ≠ nameOf a := fun heq => hdistinct.1 (heq ▸ List.mem_map_of_mem hb)
      rw [OrderedMap.has, OrderedMap.get?_set_ne _ _ hne]
      exact hfresh b (List.mem_cons_of_mem a hb)

/-! ## The caller's server -/

/-- The own tools of a caller. -/
def ownTools (pairing : Option S) : ℕ := if pairing.isSome = true then 2 else 1

theorem ownServer_ok (pairing : Option S) :
    ∃ server : McpServer S A, ownServer pairing = .ok (ownTools pairing, server) ∧
      ∀ name, server.get? name =
        if name = literal "devices_pair" then pairing.map devicesPair
        else if name = literal "devices_list" then some devicesList else none := by
  have hlist : registerTool (.empty : McpServer S A) (literal "devices_list") devicesList =
      .ok (OrderedMap.empty.set (literal "devices_list") devicesList) := rfl
  have hne : literal "devices_pair" ≠ literal "devices_list" := by decide
  cases pairing with
  | none =>
    refine ⟨_, by rw [ownServer, hlist]; rfl, fun name => ?_⟩
    rw [OrderedMap.get?_set, OrderedMap.get?_empty]
    by_cases hpair : name = literal "devices_pair"
    · rw [if_pos hpair, hpair, if_neg hne]
      rfl
    · rw [if_neg hpair]
  | some inputSchema =>
    have hfresh : ((OrderedMap.empty : McpServer S A).set (literal "devices_list")
        devicesList).has (literal "devices_pair") = false := by
      rw [OrderedMap.has, OrderedMap.get?_set_ne _ _ hne]
      rfl
    have hpair : registerTool ((OrderedMap.empty : McpServer S A).set (literal "devices_list")
        devicesList) (literal "devices_pair") (devicesPair inputSchema) =
          .ok ((OrderedMap.empty.set (literal "devices_list") devicesList).set
            (literal "devices_pair") (devicesPair inputSchema)) := by
      rw [registerTool, if_neg (by rw [hfresh]; exact Bool.false_ne_true)]
    refine ⟨_, by rw [ownServer, hlist]; simp only [bind, Except.bind]; rw [hpair]; rfl,
      fun name => ?_⟩
    rw [OrderedMap.get?_set, OrderedMap.get?_set, OrderedMap.get?_empty]
    rfl

/-- All tools of all devices. -/
def announcements (discovery : RoutedDeviceSnapshot → Discovery J A)
    (devices : List RoutedDeviceSnapshot) : List (RoutedDeviceSnapshot × Tool J A) :=
  devices.flatMap (announced ownerId discovery)

theorem mem_announcements {discovery : RoutedDeviceSnapshot → Discovery J A}
    {devices : List RoutedDeviceSnapshot} {device : RoutedDeviceSnapshot} {tool : Tool J A} :
    (device, tool) ∈ announcements ownerId discovery devices ↔
      device ∈ devices ∧ ∃ result,
        discovered ownerId device (discovery device) = some result ∧ tool ∈ result.tools := by
  rw [announcements, List.mem_flatMap]
  constructor
  · rintro ⟨device', hdevice, hmem⟩
    unfold announced at hmem
    cases hresult : discovered ownerId device' (discovery device') with
    | none =>
      rw [hresult] at hmem
      cases hmem
    | some result =>
      rw [hresult] at hmem
      obtain ⟨tool', htool, heq⟩ := List.mem_map.1 hmem
      obtain ⟨rfl, rfl⟩ := Prod.mk.inj heq
      exact ⟨hdevice, result, hresult, htool⟩
  · rintro ⟨hdevice, result, hresult, htool⟩
    refine ⟨device, hdevice, ?_⟩
    rw [announced, hresult]
    exact List.mem_map_of_mem htool

/-- The owner's own tools, every tool of every device, and nothing else. -/
structure Complete (pairing : Option S) (discovery : RoutedDeviceSnapshot → Discovery J A)
    (devices : List RoutedDeviceSnapshot) (server : McpServer S A) : Prop where
  list : ∃ registered, server.get? (literal "devices_list") = some registered ∧
    registered.callback = .devicesList
  pair : pairing.isSome = true → ∃ registered,
    server.get? (literal "devices_pair") = some registered ∧ registered.callback = .devicesPair
  tools : ∀ device ∈ devices, ∀ result,
    discovered ownerId device (discovery device) = some result → ∀ tool ∈ result.tools,
      ∃ registered, server.get? (publicName device.deviceId tool.name) = some registered ∧
        registered.callback = .callTool ownerId device.deviceId tool.name
  only : ∀ name registered, server.get? name = some registered →
    name = literal "devices_list" ∨ (name = literal "devices_pair" ∧ pairing.isSome = true) ∨
      ∃ device ∈ devices, ∃ result, discovered ownerId device (discovery device) = some result ∧
        ∃ tool ∈ result.tools, name = publicName device.deviceId tool.name

/-- No catalog in use announces a name twice, and its schemas are converted. -/
def WellBehaved (discovery : RoutedDeviceSnapshot → Discovery J A)
    (devices : List RoutedDeviceSnapshot) : Prop :=
  ∀ device ∈ devices, ∀ result, discovered ownerId device (discovery device) = some result →
    (result.tools.map (·.name)).Nodup ∧ ∀ tool ∈ result.tools, Convertible fromJSONSchema tool

/-- Names clash within one catalog only. -/
theorem nodup_names {discovery : RoutedDeviceSnapshot → Discovery J A}
    {devices : List RoutedDeviceSnapshot} (hids : (devices.map (·.deviceId)).Nodup) :
    ((announcements ownerId discovery devices).map nameOf).Nodup ↔
      ∀ device ∈ devices, ∀ result,
        discovered ownerId device (discovery device) = some result →
          (result.tools.map (·.name)).Nodup := by
  have hone : ∀ device, ((announced ownerId discovery device).map nameOf).Nodup ↔
      ∀ result, discovered ownerId device (discovery device) = some result →
        (result.tools.map (·.name)).Nodup := by
    intro device
    unfold announced
    cases discovered ownerId device (discovery device) with
    | none => simp
    | some result =>
      have hnames : (result.tools.map fun tool => (device, tool)).map nameOf =
          (result.tools.map (·.name)).map (publicName device.deviceId) := by
        rw [List.map_map, List.map_map]
        rfl
      have hinjective : Function.Injective (publicName device.deviceId) :=
        fun _ _ h => (publicName_injective h).2
      simp only [hnames, Option.some.injEq, forall_eq']
      exact List.nodup_map_iff hinjective
  have hapart : devices.Pairwise fun device other =>
      List.Disjoint ((announced ownerId discovery device).map nameOf)
        ((announced ownerId discovery other).map nameOf) := by
    refine (List.pairwise_map.1 hids).imp fun {device other} hne name hname hother => hne ?_
    have hdevice : ∀ device : RoutedDeviceSnapshot,
        name ∈ (announced ownerId discovery device).map nameOf →
          ∃ tool, name = publicName device.deviceId tool := by
      intro device hname
      obtain ⟨⟨first, tool⟩, hmem, rfl⟩ := List.mem_map.1 hname
      have hmem : (first, tool) ∈ announcements ownerId discovery [device] := by
        simpa [announcements] using hmem
      obtain ⟨hfirst, -⟩ := (mem_announcements ownerId).1 hmem
      rw [List.mem_singleton] at hfirst
      exact ⟨tool.name, by rw [nameOf, hfirst]⟩
    obtain ⟨tool, htool⟩ := hdevice device hname
    obtain ⟨tool', htool'⟩ := hdevice other hother
    exact (publicName_injective (htool.symm.trans htool')).1
  rw [announcements, List.map_flatMap, List.nodup_flatMap]
  constructor
  · intro h device hdevice
    exact (hone device).1 (h.1 device hdevice)
  · intro h
    exact ⟨fun device hdevice => (hone device).2 (h device hdevice), hapart⟩

section Caller
variable {pairing : Option S} {devices : List RoutedDeviceSnapshot}
  {discovery : RoutedDeviceSnapshot → Discovery J A}

/-- The build is the loop over all tools, from the owner's own. -/
theorem buildCallerServer_eq (hdevices : devices.length ≤ maxDevicesPerOwner)
    {server : McpServer S A} (hserver : ownServer pairing = .ok (ownTools pairing, server)) :
    buildCallerServer fromJSONSchema ownerId pairing (.ok devices) discovery =
      (registerAll fromJSONSchema ownerId (announcements ownerId discovery devices)
        (ownTools pairing, server)).map Prod.snd := by
  rw [buildCallerServer, hserver]
  simp only [bind, Except.bind, Except.mapError, if_neg (not_lt.2 hdevices), registerDevices_eq]
  rw [announcements]
  cases registerAll fromJSONSchema ownerId (devices.flatMap (announced ownerId discovery))
    (ownTools pairing, server) with
  | error => rfl
  | ok => rfl

theorem nameOf_fresh {server : McpServer S A}
    (hlookup : ∀ name, server.get? name =
      if name = literal "devices_pair" then pairing.map devicesPair
      else if name = literal "devices_list" then some devicesList else none)
    (a : RoutedDeviceSnapshot × Tool J A) : server.has (nameOf a) = false := by
  obtain ⟨hlist, hpair⟩ := publicName_ne a.1.deviceId a.2.name
  rw [OrderedMap.has_false_iff, hlookup, nameOf, if_neg hpair, if_neg hlist]

/-- A build that succeeds is complete. -/
theorem complete_of_registered {before after : McpServer S A}
    (hlookup : ∀ name, before.get? name =
      if name = literal "devices_pair" then pairing.map devicesPair
      else if name = literal "devices_list" then some devicesList else none)
    (h : Registered fromJSONSchema ownerId (announcements ownerId discovery devices) before after) :
    Complete ownerId pairing discovery devices after := by
  have hown : ∀ name, (∀ deviceId tool, publicName deviceId tool ≠ name) →
      after.get? name = before.get? name := by
    intro name hne
    apply h.kept
    rintro hmem
    obtain ⟨a, -, ha⟩ := List.mem_map.1 hmem
    exact hne a.1.deviceId a.2.name ha
  refine ⟨?_, ?_, ?_, ?_⟩
  · refine ⟨devicesList, ?_, rfl⟩
    rw [hown _ fun deviceId tool => (publicName_ne deviceId tool).1, hlookup,
      if_neg (by decide), if_pos rfl]
  · intro hpairing
    obtain ⟨inputSchema, rfl⟩ := Option.isSome_iff_exists.1 hpairing
    refine ⟨devicesPair inputSchema, ?_, rfl⟩
    rw [hown _ fun deviceId tool => (publicName_ne deviceId tool).2, hlookup, if_pos rfl,
      Option.map_some]
  · intro device hdevice result hresult tool htool
    obtain ⟨registered, hpublic, hregistered⟩ := h.present (device, tool)
      ((mem_announcements ownerId).2 ⟨hdevice, result, hresult, htool⟩)
    exact ⟨registered, hregistered, publicTool_callback fromJSONSchema ownerId hpublic⟩
  · intro name registered hname
    by_cases hmem : name ∈ (announcements ownerId discovery devices).map nameOf
    · obtain ⟨⟨device, tool⟩, hannounced, rfl⟩ := List.mem_map.1 hmem
      obtain ⟨hdevice, result, hresult, htool⟩ := (mem_announcements ownerId).1 hannounced
      exact .inr (.inr ⟨device, hdevice, result, hresult, tool, htool, rfl⟩)
    · rw [h.kept name hmem, hlookup] at hname
      by_cases hpair : name = literal "devices_pair"
      · rw [if_pos hpair] at hname
        refine .inr (.inl ⟨hpair, ?_⟩)
        cases hpairing : pairing with
        | none =>
          rw [hpairing] at hname
          cases hname
        | some => rfl
      · rw [if_neg hpair] at hname
        by_cases hlist : name = literal "devices_list"
        · exact .inl hlist
        · rw [if_neg hlist] at hname
          cases hname

/-- With catalogs that are well behaved the build succeeds. -/
theorem buildCallerServer_ok (hdevices : devices.length ≤ maxDevicesPerOwner)
    (hids : (devices.map (·.deviceId)).Nodup)
    (htotal : ownTools pairing + (announcements ownerId discovery devices).length ≤
      maxToolsPerRequest)
    (h : WellBehaved fromJSONSchema ownerId discovery devices) : ∃ server : McpServer S A,
      buildCallerServer fromJSONSchema ownerId pairing (.ok devices) discovery = .ok server ∧
        Complete ownerId pairing discovery devices server := by
  obtain ⟨server, hserver, hlookup⟩ := ownServer_ok (A := A) pairing
  rw [buildCallerServer_eq fromJSONSchema ownerId hdevices hserver]
  have hconvertible : ∀ a ∈ announcements ownerId discovery devices,
      Convertible fromJSONSchema a.2 := by
    rintro ⟨device, tool⟩ ha
    obtain ⟨hdevice, result, hresult, htool⟩ := (mem_announcements ownerId).1 ha
    exact (h device hdevice result hresult).2 tool htool
  have hdistinct := (nodup_names ownerId hids).2 fun device hdevice result hresult =>
    (h device hdevice result hresult).1
  obtain ⟨progress, hall⟩ : ∃ progress, registerAll fromJSONSchema ownerId
      (announcements ownerId discovery devices) (ownTools pairing, server) = .ok progress :=
    registerAll_ok fromJSONSchema ownerId htotal hconvertible hdistinct
      fun a _ => nameOf_fresh hlookup a
  have hregistered := registerAll_registered fromJSONSchema ownerId htotal hall
  refine ⟨progress.2, ?_, complete_of_registered fromJSONSchema ownerId hlookup hregistered⟩
  rw [hall]
  rfl

end Caller

/-- The server of a caller is built, with every tool of every device, exactly when no catalog in
use announces a name twice and the schemas are converted. Whatever the catalogs, a public name
determines its device and its tool and is none of the owner's own. -/
theorem buildCallerServer_iff (pairing : Option S) (devices : List RoutedDeviceSnapshot)
    (discovery : RoutedDeviceSnapshot → Discovery J A)
    (hdevices : devices.length ≤ maxDevicesPerOwner) (hids : (devices.map (·.deviceId)).Nodup)
    (htotal : ownTools pairing + (announcements ownerId discovery devices).length ≤
      maxToolsPerRequest) :
    ((∃ server : McpServer S A,
        buildCallerServer fromJSONSchema ownerId pairing (.ok devices) discovery = .ok server ∧
          Complete ownerId pairing discovery devices server) ↔
      WellBehaved fromJSONSchema ownerId discovery devices) ∧
    (∀ deviceId deviceId' name name', publicName deviceId name = publicName deviceId' name' →
      deviceId = deviceId' ∧ name = name') ∧
    ∀ deviceId name, publicName deviceId name ≠ literal "devices_list" ∧
      publicName deviceId name ≠ literal "devices_pair" := by
  refine ⟨?_, fun _ _ _ _ h => publicName_injective h, publicName_ne⟩
  constructor
  · rintro ⟨built, hbuilt, -⟩
    obtain ⟨server, hserver, -⟩ := ownServer_ok (A := A) pairing
    rw [buildCallerServer_eq fromJSONSchema ownerId hdevices hserver] at hbuilt
    cases hall : registerAll fromJSONSchema ownerId (announcements ownerId discovery devices)
      (ownTools pairing, server) with
    | error =>
      rw [hall] at hbuilt
      cases hbuilt
    | ok progress =>
      have h := registerAll_registered fromJSONSchema ownerId htotal hall
      intro device hdevice result hresult
      refine ⟨(nodup_names ownerId hids).1 h.distinct device hdevice result hresult, ?_⟩
      intro tool htool
      exact h.convertible (device, tool)
        ((mem_announcements ownerId).2 ⟨hdevice, result, hresult, htool⟩)
  · exact fun h => buildCallerServer_ok fromJSONSchema ownerId hdevices hids htotal h

end Build

/-! ## A catalog that announces a tool twice -/

def exampleDevice (deviceId : DeviceId) (status : DeviceStatus) : RoutedDeviceSnapshot where
  deviceId := deviceId
  deviceName := "Laptop"
  metadata := ⟨"linux", none, none⟩
  createdAt := 0
  updatedAt := 0
  status := status
  connectedAt := none
  lastSeenAt := none

def firstId : DeviceId := ⟨"00000000-0000-4000-8000-000000000001", by decide, by decide⟩
def secondId : DeviceId := ⟨"00000000-0000-4000-8000-000000000002", by decide, by decide⟩

def exampleTool (name : String) : Tool Unit Unit := ⟨literal name, none, none, (), none, none⟩

/-- An online device that answers with tools of these names. -/
def answers (names : List String) : Discovery Unit Unit where
  toolCatalogByDevice := .empty
  listTools := .ok ⟨names.map exampleTool⟩

theorem buildCallerServer_two_devices :
    ∃ server : McpServer Unit Unit,
      buildCallerServer some "owner" (some ())
        (.ok [exampleDevice firstId .online, exampleDevice secondId .online])
        (fun _ => answers ["read", "write"]) = .ok server ∧
      Complete "owner" (some ()) (fun _ => answers ["read", "write"])
        [exampleDevice firstId .online, exampleDevice secondId .online] server := by
  have hiff := buildCallerServer_iff (S := Unit) some "owner" (some ())
    [exampleDevice firstId .online, exampleDevice secondId .online]
    (fun _ => answers ["read", "write"]) (by decide) (by decide) (by decide)
  apply hiff.1.2
  intro device hdevice result hresult
  have hanswer : result = ⟨["read", "write"].map exampleTool⟩ := by
    have honline : device.status = .online := by
      rcases List.mem_cons.1 hdevice with rfl | hdevice
      · rfl
      · rw [List.mem_singleton.1 hdevice]
        rfl
    rw [discovered, if_pos honline] at hresult
    exact (Option.some.inj hresult).symm
  rw [hanswer]
  refine ⟨by decide, fun tool _ => ⟨rfl, fun _ _ => rfl⟩⟩

/-- One device that announces a tool twice leaves its owner without a server. -/
theorem buildCallerServer_duplicate :
    ¬ ∀ (ownerId : String) (pairing : Option Unit) (devices : List RoutedDeviceSnapshot)
      (discovery : RoutedDeviceSnapshot → Discovery Unit Unit),
      devices.length ≤ maxDevicesPerOwner → (devices.map (·.deviceId)).Nodup →
      ownTools pairing + (announcements ownerId discovery devices).length ≤ maxToolsPerRequest →
      ∃ server : McpServer Unit Unit,
        buildCallerServer some ownerId pairing (.ok devices) discovery = .ok server ∧
          Complete ownerId pairing discovery devices server := by
  intro h
  obtain ⟨server, hserver, -⟩ := h "owner" none [exampleDevice firstId .online]
    (fun _ => answers ["read", "read"]) (by decide) (by decide) (by decide)
  have herror : (buildCallerServer (S := Unit) some "owner" none
      (.ok [exampleDevice firstId .online]) fun _ => answers ["read", "read"]).isOk = false := by
    decide +kernel
  rw [hserver] at herror
  cases herror

end Doctmcp.PublicMcp

import UsbManager.Lib.Engine
import UsbManager.DeviceJson
import UsbManager.Napi

/-!
# Devices as JavaScript objects

The JavaScript module gives a device out as an object with objects for its
configurations, their interfaces and their endpoints, and reads such objects where they
are passed to its functions.  A device is read of an object that describes it
(`DeviceObj`) and of no other value (`reads_device`).  What is read of an object the
module has made is the device, but for what is not read and the maximum power, which the
getter has doubled (`reads_ctoJsUsbDevice`).
-/

namespace UsbManager.Js

/-- A text up to its first null character, as `c_str` is read. -/
def cString (text : String) : String := String.ofList (text.toList.takeWhile (· ≠ '\x00'))

/-! ## `napi_util.cpp` -/

namespace NapiUtil

def MAX_STR_LENGTH : Int := 1024

def setValueUtf8String (fieldStr str : String) : String × JsValue :=
  (fieldStr, .string (cString str))

def setValueInt32 (fieldStr : String) (intValue : Int32) : String × JsValue :=
  (fieldStr, .number intValue.toInt)

def setValueUint32 (fieldStr : String) (uintValue : UInt32) : String × JsValue :=
  (fieldStr, .number uintValue.toNat)

def setValueBool (fieldStr : String) (boolValue : Bool) : String × JsValue :=
  (fieldStr, .boolean boolValue)

section

variable (engine : Engine)

/-- The text of a string; the buffer stays empty where the value is none. -/
def utf8 (bufLen : Nat) : JsValue → String
  | .string value => cString (engine.text bufLen value)
  | _ => ""

def jsValueToString (value : JsValue) (bufLen : Int) (target : String) : String :=
  if bufLen ≤ 0 ∨ bufLen > MAX_STR_LENGTH then target else utf8 engine bufLen.toNat value

def jsObjectToString (object : JsValue) (fieldStr : String) (bufLen : Int) (fieldRef : String) :
    Native String :=
  if bufLen ≤ 0 then pure fieldRef
  else do
    match ← Native.named engine object fieldStr with
    | none => pure fieldRef
    | some field =>
      if field.type = .string then pure (utf8 engine bufLen.toNat field)
      else do
        Native.raise
        pure fieldRef

/-- `JsObjectToInt` and `JsObjectToUint`, which read with `read`. -/
def jsObjectToNumber {α : Type} (read : JsValue → Option α) (object : JsValue) (fieldStr : String)
    (fieldRef : α) : Native α := do
  match ← Native.named engine object fieldStr with
  | none => pure fieldRef
  | some field =>
    if field.type = .number then pure ((read field).getD fieldRef)
    else do
      Native.raise
      pure fieldRef

def jsObjectToInt : JsValue → String → Int32 → Native Int32 :=
  jsObjectToNumber engine JsValue.int32

def jsObjectToUint : JsValue → String → UInt32 → Native UInt32 :=
  jsObjectToNumber engine JsValue.uint32

/-- `JsObjectGetProperty` leaves the variable unset where there is no such property. -/
def jsObjectGetProperty : JsValue → String → Native (Option JsValue) := Native.named engine

end

end NapiUtil

/-! ## Making objects -/

namespace UsbInfo

open UsbManager.Js.NapiUtil

def ctoJsUsbEndpoint (usbEndpoint : USBEndpoint) : JsValue :=
  .object [
    setValueUint32 "address" usbEndpoint.address,
    setValueUint32 "attributes" usbEndpoint.attributes,
    setValueInt32 "interval" usbEndpoint.interval,
    setValueInt32 "maxPacketSize" usbEndpoint.maxPacketSize,
    setValueUint32 "direction" usbEndpoint.getDirection,
    setValueUint32 "number" usbEndpoint.getEndpointNumber,
    setValueUint32 "type" usbEndpoint.getType,
    setValueInt32 "interfaceId" usbEndpoint.interfaceId.toInt8.toInt32]

/-- The function returns without the endpoints if one of them is not there. -/
def ctoJsUsbInterface (usbInterface : UsbInterface) : JsValue :=
  let arr := (List.range usbInterface.getEndpointCount.toNatClampNeg).mapM fun i =>
    usbInterface.endpoints[i]?.map ctoJsUsbEndpoint
  .object ([
    setValueInt32 "id" usbInterface.id,
    setValueInt32 "protocol" usbInterface.protocol,
    setValueInt32 "clazz" usbInterface.klass,
    setValueInt32 "subclass" usbInterface.subClass,
    setValueInt32 "alternateSetting" usbInterface.alternateSetting,
    setValueUtf8String "name" usbInterface.name] ++
    match arr with
    | none => []
    | some arr => [("endpoints", .array arr)])

def ctoJsUsbConfig (usbConfig : USBConfig) : JsValue :=
  let arr := (List.range usbConfig.getInterfaceCount.toNat).map fun i =>
    ctoJsUsbInterface (usbConfig.interfaces[i]?.getD {})
  .object [
    setValueInt32 "id" usbConfig.id,
    setValueUint32 "attributes" usbConfig.attributes,
    setValueBool "isRemoteWakeup" usbConfig.isRemoteWakeup,
    setValueBool "isSelfPowered" usbConfig.isSelfPowered,
    setValueInt32 "maxPower" usbConfig.getMaxPower,
    setValueUtf8String "name" usbConfig.name,
    ("interfaces", .array arr)]

def ctoJsUsbDevice (usbDevice : UsbDevice) : JsValue :=
  let arr := (List.range usbDevice.getConfigCount.toNatClampNeg).map fun i =>
    ctoJsUsbConfig (usbDevice.configs[i]?.getD {})
  .object [
    setValueUtf8String "name" usbDevice.name,
    setValueUtf8String "serial" usbDevice.serial,
    setValueUtf8String "manufacturerName" usbDevice.manufacturerName,
    setValueUtf8String "productName" usbDevice.productName,
    setValueUtf8String "version" usbDevice.version,
    setValueInt32 "vendorId" usbDevice.vendorId,
    setValueInt32 "productId" usbDevice.productId,
    setValueInt32 "clazz" usbDevice.klass,
    setValueInt32 "subclass" usbDevice.subClass,
    setValueInt32 "protocol" usbDevice.protocol,
    setValueInt32 "devAddress" (int32OfByte usbDevice.devAddr),
    setValueInt32 "busNum" (int32OfByte usbDevice.busNum),
    ("configs", .array arr)]

def createUsbDevicePipe (pipe : USBDevicePipe) : JsValue :=
  .object [
    setValueInt32 "busNum" (int32OfByte pipe.busNum),
    setValueInt32 "devAddress" (int32OfByte pipe.devAddr)]

/-! ## Reading objects -/

def DEFAULT_DESCRIPTION_SIZE : Int := 32

section

variable (engine : Engine)

/-- The type of the object has been tested. -/
def parseUsbDevicePipe (obj : JsValue) : Native USBDevicePipe := do
  let busNum ← jsObjectToInt engine obj "busNum" 0
  let devAddr ← jsObjectToInt engine obj "devAddress" 0
  pure { busNum := byteOfInt32 busNum, devAddr := byteOfInt32 devAddr }

/-- The constructor takes all four numbers as `uint32_t`. -/
def parseEndpointObj (endpointObj : JsValue) : Native USBEndpoint := do
  let address ← jsObjectToInt engine endpointObj "address" 0
  let attributes ← jsObjectToInt engine endpointObj "attributes" 0
  let interval ← jsObjectToInt engine endpointObj "interval" 0
  let maxPacketSize ← jsObjectToInt engine endpointObj "maxPacketSize" 0
  let interfaceId ← jsObjectToInt engine endpointObj "interfaceId" 0
  pure {
    address := address.toUInt32
    attributes := attributes.toUInt32
    interval := interval.toUInt32.toInt32
    maxPacketSize := maxPacketSize.toUInt32.toInt32
    interfaceId := byteOfInt32 interfaceId }

/-- The loops of `ParseEndpointsObjs` and `ParseInterfacesObjs`, which stop where an
element cannot be read. -/
def parseElements {α : Type} (parse : JsValue → Native α) :
    List JsValue → Native (Option (List α))
  | [] => pure (some [])
  | obj :: objs => do
    match ← Native.element engine obj with
    | none => pure none
    | some obj =>
      let first ← parse obj
      let rest ← parseElements parse objs
      pure (rest.map (first :: ·))

/-- `ParseEndpointsObjs` and `ParseInterfacesObjs`; nothing where the result is `false`. -/
def parseObjs {α : Type} (parse : JsValue → Native α) (name : String) (obj : JsValue) :
    Native (Option (List α)) := do
  match ← jsObjectGetProperty engine obj name with
  | none => pure none
  | some objs =>
    match objs.elements with
    | none => pure none
    | some objs => parseElements engine parse objs

def parseEndpointsObjs : JsValue → Native (Option (List USBEndpoint)) :=
  parseObjs engine (parseEndpointObj engine) "endpoints"

/-- The interface stays as it is where its endpoints cannot be read.  The constructor
does not use the name. -/
def parseInterfaceObj (interfaceObj : JsValue) (interface : UsbInterface) :
    Native UsbInterface := do
  let id ← jsObjectToInt engine interfaceObj "id" 0
  let protocol ← jsObjectToInt engine interfaceObj "protocol" 0
  let clzz ← jsObjectToInt engine interfaceObj "clazz" 0
  let subClass ← jsObjectToInt engine interfaceObj "subclass" 0
  let alternateSetting ← jsObjectToInt engine interfaceObj "alternateSetting" 0
  let _ ← jsObjectToString engine interfaceObj "name" DEFAULT_DESCRIPTION_SIZE ""
  match ← parseEndpointsObjs engine interfaceObj with
  | none => do
    Native.raise
    pure interface
  | some eps => pure { id, protocol, klass := clzz, subClass, alternateSetting, endpoints := eps }

def parseInterfacesObjs : JsValue → Native (Option (List UsbInterface)) :=
  parseObjs engine (fun interfaceObj => parseInterfaceObj engine interfaceObj {}) "interfaces"

/-- The configuration stays as it is where its interfaces cannot be read. -/
def parseConfigObj (configObj : JsValue) (config : USBConfig) : Native USBConfig := do
  let id ← jsObjectToInt engine configObj "id" 0
  let attributes ← jsObjectToInt engine configObj "attributes" 0
  let maxPower ← jsObjectToInt engine configObj "maxPower" 0
  let name ← jsObjectToString engine configObj "name" DEFAULT_DESCRIPTION_SIZE ""
  match ← parseInterfacesObjs engine configObj with
  | none => do
    Native.raise
    pure config
  | some interfaces =>
    pure {
      id := id.toUInt32.toInt32
      attributes := attributes.toUInt32
      name
      maxPower := maxPower.toUInt32.toInt32
      interfaces }

/-- Neither the property nor an element is tested before it is used. -/
def parseConfigsObjs (deviceObj : JsValue) : Native (List USBConfig) := do
  let configsObj ← Native.use (← jsObjectGetProperty engine deviceObj "configs")
  if configsObj.type ≠ .object then do
    Native.raise
    pure []
  else
    (configsObj.elements.getD []).mapM fun configObj => do
      let configObj ← Native.use (← Native.element engine configObj)
      parseConfigObj engine configObj {}

def parseDeviceObj (deviceObj : JsValue) : Native UsbDevice := do
  let name ← jsObjectToString engine deviceObj "name" DEFAULT_DESCRIPTION_SIZE ""
  let manufacturerName ←
    jsObjectToString engine deviceObj "manufacturerName" DEFAULT_DESCRIPTION_SIZE ""
  let productName ← jsObjectToString engine deviceObj "productName" DEFAULT_DESCRIPTION_SIZE ""
  let version ← jsObjectToString engine deviceObj "version" DEFAULT_DESCRIPTION_SIZE ""
  let devAddr ← jsObjectToInt engine deviceObj "devAddress" 0
  let busNum ← jsObjectToInt engine deviceObj "busNum" 0
  let vendorId ← jsObjectToInt engine deviceObj "vendorId" 0
  let productId ← jsObjectToInt engine deviceObj "productId" 0
  let clazz ← jsObjectToInt engine deviceObj "clazz" 0
  let subclass ← jsObjectToInt engine deviceObj "subclass" 0
  let protocol ← jsObjectToInt engine deviceObj "protocol" 0
  let configs ← parseConfigsObjs engine deviceObj
  pure {
    name, manufacturerName, productName, version
    devAddr := byteOfInt32 devAddr
    busNum := byteOfInt32 busNum
    vendorId, productId
    klass := clazz
    subClass := subclass
    protocol, configs }

end

/-! ## What is read back -/

section

variable (engine : Engine)

/-- A text after it was given out and read. -/
def readText (text : String) : String :=
  cString (engine.text DEFAULT_DESCRIPTION_SIZE.toNat (cString text))

/-- Neither the name nor the index of it is read. -/
def readInterface (interface : UsbInterface) : UsbInterface :=
  { interface with
    name := ""
    endpoints := interface.endpoints.take interface.getEndpointCount.toNatClampNeg
    iInterface := UINT8_MAX }

/-- The maximum power that is given out is twice the one that is kept. -/
def readConfig (config : USBConfig) : USBConfig :=
  { config with
    interfaces := (config.interfaces.take config.getInterfaceCount.toNat).map readInterface
    maxPower := config.getMaxPower
    name := readText engine config.name
    iConfiguration := UINT8_MAX }

/-- Of the members of the descriptor only the numbers of the device and its class are read. -/
def readDevice (dev : UsbDevice) : UsbDevice where
  name := readText engine dev.name
  manufacturerName := readText engine dev.manufacturerName
  productName := readText engine dev.productName
  version := readText engine dev.version
  devAddr := dev.devAddr
  busNum := dev.busNum
  vendorId := dev.vendorId
  productId := dev.productId
  klass := dev.klass
  subClass := dev.subClass
  protocol := dev.protocol
  configs := (dev.configs.take dev.getConfigCount.toNatClampNeg).map (readConfig engine)

end

/-! ## Objects that describe a device -/

/-- A property that is missing or a number with these low 32 bits. -/
def IntProperty (object : JsValue) (fieldStr : String) (value : Int32) : Prop :=
  match object.property fieldStr with
  | none => value = 0
  | some field => field.int32 = some value

/-- A property that is missing or a string, as much of it as is read. -/
def TextProperty (engine : Engine) (object : JsValue) (fieldStr value : String) : Prop :=
  match object.property fieldStr with
  | none => value = ""
  | some (.string text) => value = cString (engine.text DEFAULT_DESCRIPTION_SIZE.toNat text)
  | some _ => False

/-- A property that is an array, whose elements describe the list. -/
def ArrayProperty {α : Type} (describes : JsValue → α → Prop) (object : JsValue)
    (fieldStr : String) (list : List α) : Prop :=
  ∃ objs, object.property fieldStr = some (.array objs) ∧ List.Forall₂ describes objs list

structure EndpointObj (object : JsValue) (endpoint : USBEndpoint) : Prop where
  address : IntProperty object "address" endpoint.address.toInt32
  attributes : IntProperty object "attributes" endpoint.attributes.toInt32
  interval : IntProperty object "interval" endpoint.interval
  maxPacketSize : IntProperty object "maxPacketSize" endpoint.maxPacketSize
  interfaceId : ∃ value, IntProperty object "interfaceId" value ∧
    endpoint.interfaceId = byteOfInt32 value

section

variable (engine : Engine)

/-- The name has to be a string, but is not used. -/
structure InterfaceObj (object : JsValue) (interface : UsbInterface) : Prop where
  id : IntProperty object "id" interface.id
  protocol : IntProperty object "protocol" interface.protocol
  clazz : IntProperty object "clazz" interface.klass
  subclass : IntProperty object "subclass" interface.subClass
  alternateSetting : IntProperty object "alternateSetting" interface.alternateSetting
  name : ∃ text, TextProperty engine object "name" text
  endpoints : ArrayProperty EndpointObj object "endpoints" interface.endpoints
  unread : interface.name = "" ∧ interface.iInterface = UINT8_MAX

structure ConfigObj (object : JsValue) (config : USBConfig) : Prop where
  id : IntProperty object "id" config.id
  attributes : IntProperty object "attributes" config.attributes.toInt32
  maxPower : IntProperty object "maxPower" config.maxPower
  name : TextProperty engine object "name" config.name
  interfaces : ArrayProperty (InterfaceObj engine) object "interfaces" config.interfaces
  unread : config.iConfiguration = UINT8_MAX

/-- An object in the place of the array of the configurations has none. -/
structure DeviceObj (object : JsValue) (dev : UsbDevice) : Prop where
  name : TextProperty engine object "name" dev.name
  manufacturerName : TextProperty engine object "manufacturerName" dev.manufacturerName
  productName : TextProperty engine object "productName" dev.productName
  version : TextProperty engine object "version" dev.version
  devAddress : ∃ value, IntProperty object "devAddress" value ∧ dev.devAddr = byteOfInt32 value
  busNum : ∃ value, IntProperty object "busNum" value ∧ dev.busNum = byteOfInt32 value
  vendorId : IntProperty object "vendorId" dev.vendorId
  productId : IntProperty object "productId" dev.productId
  clazz : IntProperty object "clazz" dev.klass
  subclass : IntProperty object "subclass" dev.subClass
  protocol : IntProperty object "protocol" dev.protocol
  configs : ∃ value, object.property "configs" = some value ∧ value.type = .object ∧
    List.Forall₂ (ConfigObj engine) (value.elements.getD []) dev.configs
  unread : dev.serial = "" ∧ dev.descConfigCount = UINT8_MAX ∧ dev.bMaxPacketSize0 = UINT8_MAX ∧
    dev.bcdUSB = UINT16_MAX ∧ dev.bcdDevice = UINT16_MAX ∧ dev.iManufacturer = UINT8_MAX ∧
    dev.iProduct = UINT8_MAX ∧ dev.iSerialNumber = UINT8_MAX

end

section

variable {engine : Engine} {object : JsValue} {fieldStr : String}

/-! ### What is read of an object -/

/-- Numbers are the values that `napi_get_value_int32` reads. -/
theorem type_eq_number {field : JsValue} {value : Int32} (read : field.int32 = some value) :
    field.type = .number := by
  cases field with
  | number n => rfl
  | _ => cases read

@[simp] theorem reads_int {value : Int32} :
    (jsObjectToInt engine object fieldStr 0).Reads value ↔ IntProperty object fieldStr value := by
  unfold jsObjectToInt jsObjectToNumber IntProperty
  rw [Native.reads_bind]
  simp only [Native.reads_named, exists_eq_left']
  cases object.property fieldStr with
  | none => exact Native.reads_pure.trans eq_comm
  | some field =>
    dsimp only
    by_cases number : field.type = .number
    · rw [if_pos number, Native.reads_pure]
      cases field with
      | number n => simp [JsValue.int32]
      | _ => cases number
    · rw [if_neg number]
      exact iff_of_false Native.not_reads_raise fun read => number (type_eq_number read)

@[simp] theorem reads_string {value : String} :
    (jsObjectToString engine object fieldStr DEFAULT_DESCRIPTION_SIZE "").Reads value ↔
      TextProperty engine object fieldStr value := by
  unfold jsObjectToString TextProperty
  rw [if_neg (by decide), Native.reads_bind]
  simp only [Native.reads_named, exists_eq_left']
  cases object.property fieldStr with
  | none => exact Native.reads_pure.trans eq_comm
  | some field =>
    dsimp only
    by_cases string : field.type = .string
    · rw [if_pos string, Native.reads_pure]
      cases field with
      | string text => exact eq_comm
      | _ => cases string
    · rw [if_neg string]
      cases field with
      | string text => exact absurd rfl string
      | _ => exact iff_of_false Native.not_reads_raise id

/-! ### Arrays -/

section

variable {α : Type} {parse : JsValue → Native α}

theorem reads_elements {objs : List JsValue} {result : Option (List α)} :
    (parseElements engine parse objs).Reads result ↔
      ∃ list, List.Forall₂ (fun obj a => (parse obj).Reads a) objs list ∧
        result = some list := by
  induction objs generalizing result with
  | nil =>
    unfold parseElements
    rw [Native.reads_pure]
    constructor
    · rintro rfl
      exact ⟨[], .nil, rfl⟩
    · rintro ⟨_, ⟨⟩, rfl⟩
      rfl
  | cons obj objs ih =>
    unfold parseElements
    simp only [Native.reads_bind, Native.reads_element, exists_eq_left', Native.reads_pure, ih]
    constructor
    · rintro ⟨a, first, _, ⟨list, rest, rfl⟩, rfl⟩
      exact ⟨a :: list, .cons first rest, rfl⟩
    · rintro ⟨_, _ | ⟨first, rest⟩, rfl⟩
      exact ⟨_, first, _, ⟨_, rest, rfl⟩, rfl⟩

/-- A list is read of an array that describes it, and of nothing else. -/
theorem reads_objs {describes : JsValue → α → Prop} {list : List α}
    (each : ∀ obj a, (parse obj).Reads a ↔ describes obj a) :
    (parseObjs engine parse fieldStr object).Reads (some list) ↔
      ArrayProperty describes object fieldStr list := by
  have same : (fun obj a => (parse obj).Reads a) = describes := by
    funext obj a
    exact propext (each obj a)
  unfold parseObjs ArrayProperty
  rw [Native.reads_bind]
  simp only [jsObjectGetProperty, Native.reads_named, exists_eq_left']
  cases object.property fieldStr with
  | none => simp
  | some field =>
    cases field with
    | array objs => simp [JsValue.elements, reads_elements, same]
    | _ => simp [JsValue.elements]

end

/-! ### The four levels -/

theorem reads_endpoint {endpoint : USBEndpoint} :
    (parseEndpointObj engine object).Reads endpoint ↔ EndpointObj object endpoint := by
  unfold parseEndpointObj
  simp only [Native.reads_bind, reads_int, Native.reads_pure]
  constructor
  · rintro ⟨address, hasAddress, attributes, hasAttributes, interval, hasInterval, maxPacketSize,
      hasMaxPacketSize, interfaceId, hasInterfaceId, rfl⟩
    exact ⟨by simpa using hasAddress, by simpa using hasAttributes, by simpa using hasInterval,
      by simpa using hasMaxPacketSize, interfaceId, hasInterfaceId, rfl⟩
  · intro obj
    obtain ⟨interfaceId, hasInterfaceId, same⟩ := obj.interfaceId
    exact ⟨_, obj.address, _, obj.attributes, _, obj.interval, _, obj.maxPacketSize, _,
      hasInterfaceId, by simp [← same]⟩

theorem reads_interface {interface unread : UsbInterface} :
    (parseInterfaceObj engine object unread).Reads interface ↔
      InterfaceObj engine object interface := by
  have endpoints (list : List USBEndpoint) := @reads_objs engine object "endpoints" _
    (parseEndpointObj engine) EndpointObj list fun obj a => reads_endpoint
  unfold parseInterfaceObj
  simp only [Native.reads_bind, reads_int, reads_string]
  constructor
  · rintro ⟨id, hasId, protocol, hasProtocol, clzz, hasClzz, subClass, hasSubClass,
      alternateSetting, hasAlternateSetting, text, hasText, _ | eps, read, rest⟩
    · exact absurd rest Native.not_reads_raise
    · obtain rfl := Native.reads_pure.mp rest
      exact ⟨hasId, hasProtocol, hasClzz, hasSubClass, hasAlternateSetting, ⟨text, hasText⟩,
        (endpoints eps).mp read, rfl, rfl⟩
  · intro obj
    obtain ⟨text, hasText⟩ := obj.name
    refine ⟨_, obj.id, _, obj.protocol, _, obj.clazz, _, obj.subclass, _, obj.alternateSetting, _,
      hasText, some interface.endpoints, (endpoints _).mpr obj.endpoints, ?_⟩
    refine Native.reads_pure.mpr ?_
    obtain ⟨name, index⟩ := obj.unread
    cases interface
    cases name
    cases index
    rfl

theorem reads_config {config unread : USBConfig} :
    (parseConfigObj engine object unread).Reads config ↔ ConfigObj engine object config := by
  have interfaces (list : List UsbInterface) := @reads_objs engine object "interfaces" _
    (fun obj => parseInterfaceObj engine obj {}) (InterfaceObj engine) list
    fun obj a => reads_interface
  unfold parseConfigObj
  simp only [Native.reads_bind, reads_int, reads_string]
  constructor
  · rintro ⟨id, hasId, attributes, hasAttributes, maxPower, hasMaxPower, name, hasName,
      _ | list, read, rest⟩
    · exact absurd rest Native.not_reads_raise
    · obtain rfl := Native.reads_pure.mp rest
      exact ⟨by simpa using hasId, by simpa using hasAttributes, by simpa using hasMaxPower,
        hasName, (interfaces list).mp read, rfl⟩
  · intro obj
    refine ⟨_, obj.id, _, obj.attributes, _, obj.maxPower, _, obj.name, some config.interfaces,
      (interfaces _).mpr obj.interfaces, ?_⟩
    exact Native.reads_pure.mpr (by simp [← obj.unread])

/-- The configurations of an object: it has to have the property. -/
theorem reads_configs {configs : List USBConfig} :
    (parseConfigsObjs engine object).Reads configs ↔
      ∃ value, object.property "configs" = some value ∧ value.type = .object ∧
        List.Forall₂ (ConfigObj engine) (value.elements.getD []) configs := by
  have each (obj : JsValue) (config : USBConfig) :
      (do
        let configObj ← Native.use (← Native.element engine obj)
        parseConfigObj engine configObj {}).Reads config ↔ ConfigObj engine obj config := by
    simp only [Native.reads_bind, Native.reads_element, Native.reads_use, exists_eq_left',
      Option.some.injEq, reads_config]
  unfold parseConfigsObjs
  simp only [jsObjectGetProperty, Native.reads_bind, Native.reads_named, Native.reads_use,
    exists_eq_left']
  refine exists_congr fun value => and_congr_right fun _ => ?_
  by_cases object : value.type = .object
  · rw [if_neg (not_not_intro object), Native.reads_mapM]
    simp only [each]
    exact ⟨fun list => ⟨object, list⟩, And.right⟩
  · rw [if_pos object]
    exact iff_of_false Native.not_reads_raise fun read => object read.1

theorem deviceObj_of_reads {dev : UsbDevice} (read : (parseDeviceObj engine object).Reads dev) :
    DeviceObj engine object dev := by
  unfold parseDeviceObj at read
  simp only [Native.reads_bind, reads_int, reads_string, reads_configs] at read
  obtain ⟨name, hasName, manufacturerName, hasManufacturerName, productName, hasProductName,
    version, hasVersion, devAddr, hasDevAddr, busNum, hasBusNum, vendorId, hasVendorId,
    productId, hasProductId, clazz, hasClazz, subclass, hasSubclass, protocol, hasProtocol,
    configs, hasConfigs, rest⟩ := read
  obtain rfl := Native.reads_pure.mp rest
  exact ⟨hasName, hasManufacturerName, hasProductName, hasVersion, ⟨devAddr, hasDevAddr, rfl⟩,
    ⟨busNum, hasBusNum, rfl⟩, hasVendorId, hasProductId, hasClazz, hasSubclass, hasProtocol,
    hasConfigs, rfl, rfl, rfl, rfl, rfl, rfl, rfl, rfl⟩

theorem DeviceObj.reads {dev : UsbDevice} (obj : DeviceObj engine object dev) :
    (parseDeviceObj engine object).Reads dev := by
  obtain ⟨devAddr, hasDevAddr, sameAddr⟩ := obj.devAddress
  obtain ⟨busNum, hasBusNum, sameBus⟩ := obj.busNum
  unfold parseDeviceObj
  simp only [Native.reads_bind, reads_int, reads_string, reads_configs]
  refine ⟨_, obj.name, _, obj.manufacturerName, _, obj.productName, _, obj.version, _,
    hasDevAddr, _, hasBusNum, _, obj.vendorId, _, obj.productId, _, obj.clazz, _, obj.subclass,
    _, obj.protocol, _, obj.configs, ?_⟩
  refine Native.reads_pure.mpr ?_
  obtain ⟨serial, descConfigCount, size, usb, device, manufacturer, product, number⟩ := obj.unread
  cases dev
  cases serial
  cases descConfigCount
  cases size
  cases usb
  cases device
  cases manufacturer
  cases product
  cases number
  cases sameAddr
  cases sameBus
  rfl

/-- A device is read of an object that describes it, and of no other value. -/
theorem reads_device (engine : Engine) (object : JsValue) (dev : UsbDevice) :
    (parseDeviceObj engine object).Reads dev ↔ DeviceObj engine object dev :=
  ⟨deviceObj_of_reads, DeviceObj.reads⟩

/-! ### The objects that the module makes -/

/-- A property that was set from an `int32_t`. -/
theorem intProperty_int32 {value : Int32}
    (there : object.property fieldStr = some (setValueInt32 fieldStr value).2) :
    IntProperty object fieldStr value := by
  unfold IntProperty
  rw [there]
  exact congrArg some (Int32.ofInt_toInt value)

/-- A property that was set from a `uint32_t`. -/
theorem intProperty_uint32 {value : UInt32}
    (there : object.property fieldStr = some (setValueUint32 fieldStr value).2) :
    IntProperty object fieldStr value.toInt32 := by
  unfold IntProperty
  rw [there]
  refine congrArg some (Int32.toBitVec.inj ?_)
  simp

/-- A property that was set from a text. -/
theorem textProperty_utf8 {text : String}
    (there : object.property fieldStr = some (setValueUtf8String fieldStr text).2) :
    TextProperty engine object fieldStr (readText engine text) := by
  unfold TextProperty
  rw [there]
  rfl

/-- An array of what is made of a list describes what is read of it. -/
theorem arrayProperty_map {α : Type} {describes : JsValue → α → Prop} {write : α → JsValue}
    {kept : α → α} (each : ∀ a, describes (write a) (kept a)) {list : List α}
    (there : object.property fieldStr = some (.array (list.map write))) :
    ArrayProperty describes object fieldStr (list.map kept) :=
  ⟨_, there, List.forall₂_map_left_iff.mpr (List.forall₂_map_right_iff.mpr
    (List.forall₂_same.mpr fun a _ => each a))⟩

/-- A list that is made of the elements at the first places of another. -/
theorem map_range_getD {α β : Type} (f : α → β) (default : α) (list : List α) {n : Nat}
    (le : n ≤ list.length) :
    (List.range n).map (fun i => f (list[i]?.getD default)) = (list.take n).map f := by
  apply List.ext_getElem
  · simp [Nat.min_eq_left le]
  · intro i short _
    have inside : i < list.length := by
      rw [List.length_map, List.length_range] at short
      omega
    simp [inside]

theorem mapM_range_getElem? {α β : Type} (f : α → β) (default : α) (list : List α) {n : Nat}
    (le : n ≤ list.length) :
    (List.range n).mapM (fun i => list[i]?.map f) = some ((list.take n).map f) := by
  rw [← map_range_getD f default list le]
  refine Table.mapM_eq_map fun i there => ?_
  have inside : i < list.length := by
    have short := List.mem_range.mp there
    omega
  simp [inside]

/-- A count that wraps is no more than the length. -/
theorem toNatClampNeg_ofNat_le (n : Nat) : (Int32.ofNat n).toNatClampNeg ≤ n := by
  have size : (Int32.size : Int) = 4294967296 := rfl
  have nonneg : 0 ≤ (n : Int) := Int.natCast_nonneg n
  rw [← Int32.toNat_toInt, ← Int32.ofInt_eq_ofNat, Int32.toInt_ofInt, Int.toNat_le, Int.bmod_def,
    size]
  split <;> omega

/-- The id is given out as a signed byte. -/
theorem byteOfInt32_toInt8 (b : UInt8) : byteOfInt32 b.toInt8.toInt32 = b := by
  unfold byteOfInt32
  apply UInt8.toBitVec_inj.mp
  simp only [UInt32.toBitVec_toUInt8, Int32.toBitVec_toUInt32, Int8.toBitVec_toInt32,
    UInt8.toBitVec_toInt8]
  ext i inside
  simp [inside, BitVec.getLsbD_signExtend]
  omega

theorem byteOfInt32_int32OfByte (b : UInt8) : byteOfInt32 (int32OfByte b) = b := by
  simp [byteOfInt32, int32OfByte]

theorem endpointObj_ctoJs (endpoint : USBEndpoint) :
    EndpointObj (ctoJsUsbEndpoint endpoint) endpoint where
  address := intProperty_uint32 rfl
  attributes := intProperty_uint32 rfl
  interval := intProperty_int32 rfl
  maxPacketSize := intProperty_int32 rfl
  interfaceId := ⟨_, intProperty_int32 rfl, (byteOfInt32_toInt8 _).symm⟩

theorem interfaceObj_ctoJs (interface : UsbInterface) :
    InterfaceObj engine (ctoJsUsbInterface interface) (readInterface interface) where
  id := intProperty_int32 rfl
  protocol := intProperty_int32 rfl
  clazz := intProperty_int32 rfl
  subclass := intProperty_int32 rfl
  alternateSetting := intProperty_int32 rfl
  name := ⟨readText engine interface.name, textProperty_utf8 rfl⟩
  endpoints := by
    have few : interface.getEndpointCount.toNatClampNeg ≤ interface.endpoints.length :=
      toNatClampNeg_ofNat_le _
    have there : (ctoJsUsbInterface interface).property "endpoints" =
        some (.array ((interface.endpoints.take interface.getEndpointCount.toNatClampNeg).map
          ctoJsUsbEndpoint)) := by
      unfold ctoJsUsbInterface
      rw [mapM_range_getElem? ctoJsUsbEndpoint {} interface.endpoints few]
      rfl
    have each (endpoint : USBEndpoint) : EndpointObj (ctoJsUsbEndpoint endpoint) (id endpoint) :=
      endpointObj_ctoJs endpoint
    have listed := arrayProperty_map each there
    rwa [List.map_id] at listed
  unread := ⟨rfl, rfl⟩

theorem configObj_ctoJs (config : USBConfig) :
    ConfigObj engine (ctoJsUsbConfig config) (readConfig engine config) where
  id := intProperty_int32 rfl
  attributes := intProperty_uint32 rfl
  maxPower := intProperty_int32 rfl
  name := textProperty_utf8 rfl
  interfaces := by
    have few : config.getInterfaceCount.toNat ≤ config.interfaces.length := Nat.mod_le _ _
    refine arrayProperty_map interfaceObj_ctoJs ?_
    unfold ctoJsUsbConfig
    rw [map_range_getD ctoJsUsbInterface {} config.interfaces few]
    rfl
  unread := rfl

theorem deviceObj_ctoJs (engine : Engine) (dev : UsbDevice) :
    DeviceObj engine (ctoJsUsbDevice dev) (readDevice engine dev) where
  name := textProperty_utf8 rfl
  manufacturerName := textProperty_utf8 rfl
  productName := textProperty_utf8 rfl
  version := textProperty_utf8 rfl
  devAddress := ⟨_, intProperty_int32 rfl, (byteOfInt32_int32OfByte _).symm⟩
  busNum := ⟨_, intProperty_int32 rfl, (byteOfInt32_int32OfByte _).symm⟩
  vendorId := intProperty_int32 rfl
  productId := intProperty_int32 rfl
  clazz := intProperty_int32 rfl
  subclass := intProperty_int32 rfl
  protocol := intProperty_int32 rfl
  configs := by
    have few : dev.getConfigCount.toNatClampNeg ≤ dev.configs.length := toNatClampNeg_ofNat_le _
    have there : (ctoJsUsbDevice dev).property "configs" =
        some (.array ((dev.configs.take dev.getConfigCount.toNatClampNeg).map
          ctoJsUsbConfig)) := by
      unfold ctoJsUsbDevice
      rw [map_range_getD ctoJsUsbConfig {} dev.configs few]
      rfl
    have each (config : USBConfig) :
        ConfigObj engine (ctoJsUsbConfig config) (readConfig engine config) :=
      configObj_ctoJs config
    obtain ⟨objs, there, listed⟩ := arrayProperty_map each there
    exact ⟨_, there, rfl, listed⟩
  unread := ⟨rfl, rfl, rfl, rfl, rfl, rfl, rfl, rfl⟩

/-- What is read of the object that the module makes of a device, on every engine:
nothing is thrown, and everything that is used was set. -/
theorem reads_ctoJsUsbDevice (engine : Engine) (dev : UsbDevice) :
    (parseDeviceObj engine (ctoJsUsbDevice dev)).Reads (readDevice engine dev) :=
  (deviceObj_ctoJs engine dev).reads

/-- The object of a pipe leads to the same device. -/
theorem reads_createUsbDevicePipe (engine : Engine) (pipe : USBDevicePipe) :
    (parseUsbDevicePipe engine (createUsbDevicePipe pipe)).Reads pipe := by
  unfold parseUsbDevicePipe
  simp only [Native.reads_bind, reads_int, Native.reads_pure]
  exact ⟨_, intProperty_int32 rfl, _, intProperty_int32 rfl, by
    simp only [byteOfInt32_int32OfByte]⟩

end

end UsbInfo

end UsbManager.Js

import UsbManager.Client
import UsbManager.Lib.Json

/-!
# The device tree as JSON

The event of a device carries the device as JSON.  Each class writes itself with
`ToJson` and has a constructor that reads itself back.  Members that are not
written get their initial values: `UsbDevice.shown` is what is read back of a
device.
-/

namespace UsbManager

/-! ## Writing -/

def USB_ENDPOINT_NUMBER_MASK : UInt32 := 0x0F

def USB_ENDPOINT_XFERTYPE_MASK : UInt32 := 0x03

def USB_CFG_REMOTE_WAKEUP : UInt32 := 0x20

def USB_CFG_SELF_POWERED : UInt32 := 0x80

def USBEndpoint.getEndpointNumber (endpoint : USBEndpoint) : UInt32 :=
  endpoint.address &&& USB_ENDPOINT_NUMBER_MASK

def USBEndpoint.getType (endpoint : USBEndpoint) : UInt32 :=
  endpoint.attributes &&& USB_ENDPOINT_XFERTYPE_MASK

def USBConfig.isRemoteWakeup (config : USBConfig) : Bool :=
  config.attributes &&& USB_CFG_REMOTE_WAKEUP ≠ 0

def USBConfig.isSelfPowered (config : USBConfig) : Bool :=
  config.attributes &&& USB_CFG_SELF_POWERED ≠ 0

/-- `ToJson`; a `uint8_t` is promoted to a signed integer. -/
def USBEndpoint.toJson (endpoint : USBEndpoint) : Json :=
  .object [
    ("address", .uint endpoint.address),
    ("attributes", .uint endpoint.attributes),
    ("interval", .int endpoint.interval),
    ("maxPacketSize", .int endpoint.maxPacketSize),
    ("direction", .uint endpoint.getDirection),
    ("number", .uint endpoint.getEndpointNumber),
    ("type", .uint endpoint.getType),
    ("interfaceId", .int (int32OfByte endpoint.interfaceId))]

/-- `ToJson` -/
def UsbInterface.toJson (interface : UsbInterface) : Json :=
  .object [
    ("id", .int interface.id),
    ("protocol", .int interface.protocol),
    ("clazz", .int interface.klass),
    ("subClass", .int interface.subClass),
    ("alternateSetting", .int interface.alternateSetting),
    ("name", .string interface.name),
    ("endpoints", .ofList (interface.endpoints.map USBEndpoint.toJson))]

/-- `ToJson` -/
def USBConfig.toJson (config : USBConfig) : Json :=
  .object [
    ("id", .int config.id),
    ("attributes", .uint config.attributes),
    ("maxPower", .int config.maxPower),
    ("name", .string config.name),
    ("isRemoteWakeup", .bool config.isRemoteWakeup),
    ("isSelfPowered", .bool config.isSelfPowered),
    ("interfaces", .ofList (config.interfaces.map UsbInterface.toJson))]

/-- `ToJson` -/
def UsbDevice.toJson (dev : UsbDevice) : Json :=
  .object [
    ("busNum", .int (int32OfByte dev.busNum)),
    ("devAddress", .int (int32OfByte dev.devAddr)),
    ("serial", .string dev.serial),
    ("name", .string dev.name),
    ("manufacturerName", .string dev.manufacturerName),
    ("productName", .string dev.productName),
    ("version", .string dev.version),
    ("vendorId", .int dev.vendorId),
    ("productId", .int dev.productId),
    ("clazz", .int dev.klass),
    ("subClass", .int dev.subClass),
    ("protocol", .int dev.protocol),
    ("configs", .ofList (dev.configs.map USBConfig.toJson))]

/-! ## Reading -/

/-- `USBEndpoint(const Json::Value &)` -/
def USBEndpoint.ofJson (endpoint : Json) : Option USBEndpoint := do
  let address ← (← endpoint.member "address").asUInt
  let attributes ← (← endpoint.member "attributes").asUInt
  let interval ← (← endpoint.member "interval").asInt
  let maxPacketSize ← (← endpoint.member "maxPacketSize").asInt
  let interfaceId ← (← endpoint.member "interfaceId").asUInt
  pure { address, attributes, interval, maxPacketSize, interfaceId := interfaceId.toUInt8 }

/-- `UsbInterface(const Json::Value &)` -/
def UsbInterface.ofJson (interface : Json) : Option UsbInterface := do
  let id ← (← interface.member "id").asInt
  let protocol ← (← interface.member "protocol").asInt
  let klass ← (← interface.member "clazz").asInt
  let subClass ← (← interface.member "subClass").asInt
  let alternateSetting ← (← interface.member "alternateSetting").asInt
  let name ← (← interface.member "name").asString
  let endpoints ← (← interface.member "endpoints").readList USBEndpoint.ofJson
  pure { id, protocol, klass, subClass, alternateSetting, name, endpoints }

/-- `USBConfig(const Json::Value &)` -/
def USBConfig.ofJson (config : Json) : Option USBConfig := do
  let id ← (← config.member "id").asInt
  let attributes ← (← config.member "attributes").asUInt
  let maxPower ← (← config.member "maxPower").asInt
  let name ← (← config.member "name").asString
  let interfaces ← (← config.member "interfaces").readList UsbInterface.ofJson
  pure { id, attributes, maxPower, name, interfaces }

/-- `UsbDevice(const Json::Value &)` -/
def UsbDevice.ofJson (device : Json) : Option UsbDevice := do
  let busNum ← (← device.member "busNum").asUInt
  let devAddr ← (← device.member "devAddress").asUInt
  let serial ← (← device.member "serial").asString
  let name ← (← device.member "name").asString
  let manufacturerName ← (← device.member "manufacturerName").asString
  let productName ← (← device.member "productName").asString
  let version ← (← device.member "version").asString
  let vendorId ← (← device.member "vendorId").asInt
  let productId ← (← device.member "productId").asInt
  let klass ← (← device.member "clazz").asInt
  let subClass ← (← device.member "subClass").asInt
  let protocol ← (← device.member "protocol").asInt
  let configs ← (← device.member "configs").readList USBConfig.ofJson
  pure { busNum := busNum.toUInt8, devAddr := devAddr.toUInt8, serial, name, manufacturerName,
         productName, version, vendorId, productId, klass, subClass, protocol, configs }

/-! ## What is read back -/

/-- The interface without the member that is not written. -/
def UsbInterface.shown (interface : UsbInterface) : UsbInterface :=
  { interface with iInterface := UINT8_MAX }

/-- The configuration without the members that are not written. -/
def USBConfig.shown (config : USBConfig) : USBConfig :=
  { config with
    iConfiguration := UINT8_MAX, interfaces := config.interfaces.map UsbInterface.shown }

/-- The device without the members that are not written. -/
def UsbDevice.shown (dev : UsbDevice) : UsbDevice :=
  { dev with
    descConfigCount := UINT8_MAX
    bMaxPacketSize0 := UINT8_MAX
    bcdUSB := UINT16_MAX
    bcdDevice := UINT16_MAX
    iManufacturer := UINT8_MAX
    iProduct := UINT8_MAX
    iSerialNumber := UINT8_MAX
    configs := dev.configs.map USBConfig.shown }

/-- A byte that was written as a signed integer is read as an unsigned one. -/
@[simp] theorem asUInt_byte (b : UInt8) : (Json.int (int32OfByte b)).asUInt = some b.toUInt32 := by
  have unsigned : 0 ≤ (int32OfByte b).toInt := by
    rw [toInt_int32OfByte]
    omega
  exact if_pos unsigned

theorem USBEndpoint.ofJson_toJson (endpoint : USBEndpoint) :
    ofJson endpoint.toJson = some endpoint := by
  simp [ofJson, toJson, List.lookup]

theorem UsbInterface.ofJson_toJson (interface : UsbInterface) :
    ofJson interface.toJson = some interface.shown := by
  have endpoints := @Json.readList_ofList _ USBEndpoint.toJson USBEndpoint.ofJson
    (fun endpoint => endpoint) USBEndpoint.ofJson_toJson interface.endpoints
  simp [ofJson, toJson, shown, List.lookup, endpoints]

theorem USBConfig.ofJson_toJson (config : USBConfig) :
    ofJson config.toJson = some config.shown := by
  have interfaces := Json.readList_ofList UsbInterface.ofJson_toJson config.interfaces
  simp [ofJson, toJson, shown, List.lookup, interfaces]

theorem UsbDevice.ofJson_toJson (dev : UsbDevice) : ofJson dev.toJson = some dev.shown := by
  have configs := Json.readList_ofList USBConfig.ofJson_toJson dev.configs
  simp [ofJson, toJson, shown, List.lookup, configs]

/-! ## What is written again -/

/-- A list is written as its elements are. -/
theorem ofList_map_shown {α : Type} {write : α → Json} {shown : α → α}
    (same : ∀ a, write (shown a) = write a) (list : List α) :
    Json.ofList ((list.map shown).map write) = .ofList (list.map write) := by
  rw [List.map_map]
  exact congrArg Json.ofList (List.map_congr_left fun a _ => same a)

theorem UsbInterface.toJson_shown (interface : UsbInterface) :
    interface.shown.toJson = interface.toJson := rfl

theorem USBConfig.toJson_shown (config : USBConfig) : config.shown.toJson = config.toJson := by
  have interfaces := ofList_map_shown UsbInterface.toJson_shown config.interfaces
  unfold toJson shown
  rw [interfaces]
  rfl

theorem UsbDevice.toJson_shown (dev : UsbDevice) : dev.shown.toJson = dev.toJson := by
  have configs := ofList_map_shown USBConfig.toJson_shown dev.configs
  unfold toJson shown
  rw [configs]

/-- What a device has written is read back as the device without the members that are not
written, and that writes the same again. -/
theorem UsbDevice.json_roundTrips (dev : UsbDevice) :
    ∃ rebuilt, ofJson dev.toJson = some rebuilt ∧ rebuilt = dev.shown ∧
      rebuilt.toJson = dev.toJson :=
  ⟨dev.shown, ofJson_toJson dev, rfl, toJson_shown dev⟩

end UsbManager

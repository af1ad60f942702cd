import Mathlib.Algebra.Ring.Nat
import UsbManager.DeviceParcel

/-!
# Reading back a device list

What `SetDeviceListMessageParcel` writes, `GetDeviceListMessageParcel` reads
back exactly, as long as every list is short enough for the 32-bit count it is
written with (`roundTrips`).  Each level of the two has its `...Data`, the
units it writes, and a lemma for either side.
-/

namespace UsbManager

open UsbServerStub UsbServerProxy
open ParcelAction (TypedValue unitsOf)

@[simp] theorem byteOfInt32_int32OfByte (b : UInt8) : byteOfInt32 (int32OfByte b) = b := by
  rw [← UInt8.toNat_inj]
  have small := b.toNat_lt
  simp [byteOfInt32, int32OfByte]

/-- A signed and an unsigned 32-bit value are written alike. -/
def SameWidth {β : Type} (units : (t : ParcelType) → t.Value → List β) : Prop :=
  ∀ v : Int32, units .int32 v = units .uint32 v.toUInt32

/-- Each endpoint carries the id of its interface. -/
def UsbDevice.Consistent (dev : UsbDevice) : Prop :=
  ∀ config ∈ dev.configs, ∀ interface ∈ config.interfaces, ∀ ep ∈ interface.endpoints,
    int32OfByte ep.interfaceId = interface.id

/-- The interfaces of a configuration and their endpoints can be counted. -/
def USBConfig.Countable (config : USBConfig) : Prop :=
  config.interfaces.length < 2 ^ 31 ∧
    ∀ interface ∈ config.interfaces, interface.endpoints.length < 2 ^ 31

/-- The configurations of a device can be counted. -/
def UsbDevice.Countable (dev : UsbDevice) : Prop :=
  dev.configs.length < 2 ^ 32 ∧ ∀ config ∈ dev.configs, config.Countable

/-- The configuration as it is transmitted: its getter has doubled the maximum power. -/
def USBConfig.transmitted (config : USBConfig) : USBConfig :=
  { config with maxPower := config.getMaxPower }

/-- The device as it is transmitted: its descriptor's count of configurations
is not. -/
def UsbDevice.transmitted (dev : UsbDevice) : UsbDevice :=
  { dev with
    descConfigCount := UINT8_MAX
    configs := dev.configs.map USBConfig.transmitted }

/-- A device as it is read: the count of its descriptor is not transmitted, and
each endpoint has the id of its interface as a byte. -/
def UsbDevice.Received (dev : UsbDevice) : Prop :=
  dev.descConfigCount = UINT8_MAX ∧
    ∀ config ∈ dev.configs, ∀ interface ∈ config.interfaces, ∀ ep ∈ interface.endpoints,
      ep.interfaceId = byteOfInt32 interface.id

theorem UsbDevice.Consistent.received {dev : UsbDevice} (consistent : dev.Consistent) :
    dev.transmitted.Received := by
  refine ⟨rfl, fun config there interface inConfig ep inInterface => ?_⟩
  obtain ⟨original, inDevice, rfl⟩ := List.mem_map.mp there
  rw [← consistent original inDevice interface inConfig ep inInterface,
    byteOfInt32_int32OfByte]

theorem UsbDevice.Countable.transmitted {dev : UsbDevice} (countable : dev.Countable) :
    dev.transmitted.Countable := by
  refine ⟨?_, fun config there => ?_⟩
  · change (dev.configs.map USBConfig.transmitted).length < 2 ^ 32
    rw [List.length_map]
    exact countable.1
  · obtain ⟨original, inDevice, rfl⟩ := List.mem_map.mp there
    exact countable.2 original inDevice

/-- The interface id the reader gives its endpoints is the one they have. -/
theorem restored_interfaceId {interface : UsbInterface}
    (received : ∀ ep ∈ interface.endpoints, ep.interfaceId = byteOfInt32 interface.id) :
    (interface.endpoints.map fun ep => { ep with interfaceId := UINT8_MAX }).map
        (fun ep => { ep with interfaceId := byteOfInt32 interface.id }) = interface.endpoints := by
  rw [List.map_map]
  refine (List.map_congr_left fun ep there => ?_).trans (List.map_id _)
  simp [← received ep there]

section

variable {β : Type} (data : MessageParcel β) (units : (t : ParcelType) → t.Value → List β)

/-! ## What is written -/

def endpointData (ep : USBEndpoint) : List β :=
  units .uint32 ep.address ++ (units .uint32 ep.attributes ++ (units .int32 ep.interval ++
    units .int32 ep.maxPacketSize))

def interfaceData (interface : UsbInterface) : List β :=
  units .int32 interface.id ++ (units .int32 interface.klass ++ (units .int32 interface.subClass ++
    (units .int32 interface.alternateSetting ++ (units .int32 interface.protocol ++
      (units .uint8 interface.iInterface ++ (units .string interface.name ++
        (units .int32 interface.getEndpointCount ++
          interface.endpoints.flatMap (endpointData units))))))))

def configData (config : USBConfig) : List β :=
  units .int32 config.id ++ (units .uint32 config.attributes ++ (units .int32 config.getMaxPower ++
    (units .uint8 config.iConfiguration ++ (units .string config.name ++
      (units .uint32 config.getInterfaceCount ++
        config.interfaces.flatMap (interfaceData units))))))

def deviceData (dev : UsbDevice) : List β :=
  units .int32 (int32OfByte dev.busNum) ++ (units .int32 (int32OfByte dev.devAddr) ++
    (units .int32 dev.vendorId ++ (units .int32 dev.productId ++ (units .int32 dev.klass ++
      (units .int32 dev.subClass ++ (units .int32 dev.protocol ++
        (units .uint8 dev.iManufacturer ++ (units .uint8 dev.iProduct ++
          (units .uint8 dev.iSerialNumber ++ (units .uint8 dev.bMaxPacketSize0 ++
            (units .uint16 dev.bcdUSB ++ (units .uint16 dev.bcdDevice ++ (units .string dev.name ++
              (units .string dev.manufacturerName ++ (units .string dev.productName ++
                (units .string dev.version ++ (units .string dev.serial ++
                  (units .int32 dev.getConfigCount ++
                    dev.configs.flatMap (configData units)))))))))))))))))))

variable {data units} (faithful : data.Faithful units)

include faithful

theorem appends_endpoints (eps : List USBEndpoint) :
    (setDeviceEndpointsMessageParcel data eps).Appends (eps.flatMap (endpointData units)) () := by
  refine .forEach fun ep _ => ?_
  iterate 3 refine .bind (.put faithful _ _) ?_
  exact .put faithful _ _

theorem appends_interfaces (interfaces : List UsbInterface) :
    (setDeviceInterfacesMessageParcel data interfaces).Appends
      (interfaces.flatMap (interfaceData units)) () := by
  refine .forEach fun interface _ => ?_
  iterate 8 refine .bind (.put faithful _ _) ?_
  exact appends_endpoints faithful _

theorem appends_configs (configs : List USBConfig) :
    (setDeviceConfigsMessageParcel data configs).Appends
      (configs.flatMap (configData units)) () := by
  refine .forEach fun config _ => ?_
  iterate 6 refine .bind (.put faithful _ _) ?_
  exact appends_interfaces faithful _

theorem appends_device (dev : UsbDevice) :
    (setDeviceMessageParcel data dev).Appends (deviceData units dev) () := by
  unfold setDeviceMessageParcel deviceData
  iterate 19 refine .bind (.put faithful _ _) ?_
  exact appends_configs faithful _

theorem appends_deviceList (deviceList : List UsbDevice) :
    (setDeviceListMessageParcel data deviceList).Appends
      (units .int32 (Int32.ofNat deviceList.length) ++
        (deviceList.take (Int32.ofNat deviceList.length).toInt.toNat).flatMap (deviceData units))
      () :=
  .bind (.put faithful _ _) (.forEach fun dev _ => appends_device faithful dev)

/-- A list that can be counted is written whole. -/
theorem appends_deviceList_of_few {deviceList : List UsbDevice}
    (few : deviceList.length < 2 ^ 31) :
    (setDeviceListMessageParcel data deviceList).Appends
      (units .int32 (Int32.ofNat deviceList.length) ++ deviceList.flatMap (deviceData units))
      () := by
  have appends := appends_deviceList faithful deviceList
  rwa [Int32.toInt_ofNat_of_lt few, Int.toNat_natCast, List.take_length] at appends

/-- Where the count is not positive nothing more is read. -/
theorem consumes_noDevices (junk : Uninitialised) {count : Int32} (none : count.toInt.toNat = 0)
    (before : List UsbDevice) :
    (getDeviceListMessageParcel data junk).Consumes before (units .int32 count ++ []) ()
      before := by
  refine .bind (.take faithful _ _ _) ?_
  rw [none]
  exact .pure before ()

end

/-! ## What is read -/

/-- The values a list of devices is read from, level by level. -/
def endpointValues (ep : USBEndpoint) : List (TypedValue ParcelType.Value) :=
  [⟨.uint32, ep.address⟩, ⟨.uint32, ep.attributes⟩, ⟨.int32, ep.interval⟩,
    ⟨.int32, ep.maxPacketSize⟩]

def interfaceValues (interface : UsbInterface) : List (TypedValue ParcelType.Value) :=
  [⟨.int32, interface.id⟩, ⟨.int32, interface.klass⟩, ⟨.int32, interface.subClass⟩,
    ⟨.int32, interface.alternateSetting⟩, ⟨.int32, interface.protocol⟩,
    ⟨.uint8, interface.iInterface⟩, ⟨.string, interface.name⟩,
    ⟨.int32, Int32.ofNat interface.endpoints.length⟩] ++
    interface.endpoints.flatMap endpointValues

def configValues (config : USBConfig) : List (TypedValue ParcelType.Value) :=
  [⟨.int32, config.id⟩, ⟨.uint32, config.attributes⟩, ⟨.int32, config.maxPower⟩,
    ⟨.uint8, config.iConfiguration⟩, ⟨.string, config.name⟩,
    ⟨.int32, Int32.ofNat config.interfaces.length⟩] ++
    config.interfaces.flatMap interfaceValues

def deviceValues (dev : UsbDevice) : List (TypedValue ParcelType.Value) :=
  [⟨.int32, int32OfByte dev.busNum⟩, ⟨.int32, int32OfByte dev.devAddr⟩,
    ⟨.int32, dev.vendorId⟩, ⟨.int32, dev.productId⟩, ⟨.int32, dev.klass⟩,
    ⟨.int32, dev.subClass⟩, ⟨.int32, dev.protocol⟩, ⟨.uint8, dev.iManufacturer⟩,
    ⟨.uint8, dev.iProduct⟩, ⟨.uint8, dev.iSerialNumber⟩, ⟨.uint8, dev.bMaxPacketSize0⟩,
    ⟨.uint16, dev.bcdUSB⟩, ⟨.uint16, dev.bcdDevice⟩, ⟨.string, dev.name⟩,
    ⟨.string, dev.manufacturerName⟩, ⟨.string, dev.productName⟩, ⟨.string, dev.version⟩,
    ⟨.string, dev.serial⟩, ⟨.uint32, UInt32.ofNat dev.configs.length⟩] ++
    dev.configs.flatMap configValues

def deviceListValues (deviceList : List UsbDevice) : List (TypedValue ParcelType.Value) :=
  ⟨.int32, Int32.ofNat deviceList.length⟩ :: deviceList.flatMap deviceValues

section

variable {β : Type} (data : MessageParcel β)

theorem takes_endpoints {eps : List USBEndpoint} (few : eps.length < 2 ^ 31) :
    (getDeviceEndpointsMessageParcel data).Takes data []
      (⟨.int32, Int32.ofNat eps.length⟩ :: eps.flatMap endpointValues) ()
      (eps.map fun ep => { ep with interfaceId := UINT8_MAX }) := by
  refine .take_bind ?_
  rw [Int32.toInt_ofNat_of_lt few, Int.toNat_natCast]
  refine .times (fun ep _ done => ?_) []
  iterate 4 refine .take_bind ?_
  exact .update _ _

theorem takes_interfaces (junk : Uninitialised) {config : USBConfig}
    (countable : config.Countable)
    (received : ∀ interface ∈ config.interfaces, ∀ ep ∈ interface.endpoints,
      ep.interfaceId = byteOfInt32 interface.id) :
    (getDeviceInterfacesMessageParcel data junk).Takes data []
      (⟨.int32, Int32.ofNat config.interfaces.length⟩ ::
        config.interfaces.flatMap interfaceValues) () config.interfaces := by
  refine .takeUnchecked_bind ?_
  rw [Int32.toInt_ofNat_of_lt countable.1, Int.toNat_natCast]
  refine .collect (fun interface there done => ?_) []
  iterate 7 refine .take_bind ?_
  refine .bind_nil ((takes_endpoints data (countable.2 interface there)).checked done) ?_
  rw [restored_interfaceId (received interface there)]
  exact .update _ _

theorem takes_configs (junk : Uninitialised) {dev : UsbDevice} (countable : dev.Countable)
    (received : dev.Received) :
    (getDeviceConfigsMessageParcel data junk).Takes data []
      (⟨.uint32, UInt32.ofNat dev.configs.length⟩ :: dev.configs.flatMap configValues) ()
      dev.configs := by
  refine .takeUnchecked_bind ?_
  rw [UInt32.toNat_ofNat_of_lt' countable.1]
  refine .collect (fun config there done => ?_) []
  iterate 5 refine .take_bind ?_
  have interfaces := takes_interfaces data junk (countable.2 config there) (received.2 config there)
  exact .bind_nil (interfaces.checked done) (.update _ _)

theorem takes_device (junk : Uninitialised) {dev : UsbDevice} (countable : dev.Countable)
    (received : dev.Received) :
    (getDeviceMessageParcel data junk).Takes data {} (deviceValues dev) () dev := by
  suffices read : (getDeviceMessageParcel data junk).Takes data {} (deviceValues dev) ()
      { dev with descConfigCount := UINT8_MAX } by
    have whole : { dev with descConfigCount := UINT8_MAX } = dev := by
      rw [← received.1]
    rwa [whole] at read
  unfold getDeviceMessageParcel deviceValues
  -- The out-parameter is evaluated after each setter, or its term would double each time.
  iterate 18
    refine .take_bind (.update_bind ?_)
    dsimp only
  rw [byteOfInt32_int32OfByte, byteOfInt32_int32OfByte]
  exact .bind_nil ((takes_configs data junk countable received).nested _) (.update _ _)

theorem takes_deviceList (junk : Uninitialised) {deviceList : List UsbDevice}
    (few : deviceList.length < 2 ^ 31) (countable : ∀ dev ∈ deviceList, dev.Countable)
    (received : ∀ dev ∈ deviceList, dev.Received) (before : List UsbDevice) :
    (getDeviceListMessageParcel data junk).Takes data before (deviceListValues deviceList) ()
      (before ++ deviceList) := by
  refine .take_bind ?_
  rw [Int32.toInt_ofNat_of_lt few, Int.toNat_natCast]
  refine .collect (fun dev there done => ?_) before
  have device := takes_device data junk (countable dev there) (received dev there)
  exact .bind_nil (device.nested done) (.update _ _)

end

/-! ## What is written is what is read -/

section

variable {β : Type} {units : (t : ParcelType) → t.Value → List β}

theorem unitsOf_endpoints (eps : List USBEndpoint) :
    unitsOf units (eps.flatMap endpointValues) = eps.flatMap (endpointData units) := by
  rw [ParcelAction.unitsOf_flatMap]
  refine congrArg eps.flatMap (funext fun ep => ?_)
  simp [endpointValues, endpointData]

theorem unitsOf_interfaces (interfaces : List UsbInterface) :
    unitsOf units (interfaces.flatMap interfaceValues) =
      interfaces.flatMap (interfaceData units) := by
  rw [ParcelAction.unitsOf_flatMap]
  refine congrArg interfaces.flatMap (funext fun interface => ?_)
  simp [interfaceValues, interfaceData, unitsOf_endpoints, UsbInterface.getEndpointCount]

theorem unitsOf_configs (sameWidth : SameWidth units) (configs : List USBConfig) :
    unitsOf units ((configs.map USBConfig.transmitted).flatMap configValues) =
      configs.flatMap (configData units) := by
  rw [ParcelAction.unitsOf_flatMap, List.flatMap_map]
  refine congrArg configs.flatMap (funext fun config => ?_)
  have count : units .int32 (Int32.ofNat config.interfaces.length) =
      units .uint32 config.getInterfaceCount := sameWidth _
  simp [configValues, configData, unitsOf_interfaces, USBConfig.transmitted, count]

/-- What is written for a device list is what it is read from, as transmitted. -/
theorem unitsOf_deviceList (sameWidth : SameWidth units) (deviceList : List UsbDevice) :
    unitsOf units (deviceListValues (deviceList.map UsbDevice.transmitted)) =
      units .int32 (Int32.ofNat deviceList.length) ++ deviceList.flatMap (deviceData units) := by
  unfold deviceListValues
  rw [ParcelAction.unitsOf_cons, ParcelAction.unitsOf_flatMap, List.flatMap_map,
    List.length_map]
  refine congrArg (units .int32 _ ++ deviceList.flatMap ·) (funext fun dev => ?_)
  have count : units .int32 dev.getConfigCount =
      units .uint32 (UInt32.ofNat dev.configs.length) := sameWidth _
  have configs := unitsOf_configs sameWidth dev.configs
  simp [deviceValues, deviceData, UsbDevice.transmitted, configs, count]

theorem consumes_deviceList {data : MessageParcel β} (faithful : data.Faithful units)
    (sameWidth : SameWidth units) (junk : Uninitialised) {deviceList : List UsbDevice}
    (few : deviceList.length < 2 ^ 31) (countable : ∀ dev ∈ deviceList, dev.Countable)
    (consistent : ∀ dev ∈ deviceList, dev.Consistent) (before : List UsbDevice) :
    (getDeviceListMessageParcel data junk).Consumes before
      (units .int32 (Int32.ofNat deviceList.length) ++ deviceList.flatMap (deviceData units)) ()
      (before ++ deviceList.map UsbDevice.transmitted) := by
  have takes := @takes_deviceList β data junk (deviceList.map UsbDevice.transmitted)
    (by rwa [List.length_map])
    (List.forall_mem_map.mpr fun dev there => (countable dev there).transmitted)
    (List.forall_mem_map.mpr fun dev there => (consistent dev there).received) before
  rw [← unitsOf_deviceList sameWidth]
  exact takes.consumes faithful

end

/-! ## The round trip -/

/-- Reading what was written for a list appends that list, as transmitted, to
the one there was, and leaves what follows in the parcel. -/
def RoundTrips {β : Type} (data : MessageParcel β) (junk : Uninitialised)
    (deviceList : List UsbDevice) : Prop :=
  ∃ written, (setDeviceListMessageParcel data deviceList).Appends written () ∧
    ∀ before, (getDeviceListMessageParcel data junk).Consumes before written ()
      (before ++ deviceList.map UsbDevice.transmitted)

/-- A device list makes the round trip when each of its lists has a length that
fits the signed or unsigned count it is read back with. -/
theorem roundTrips {β : Type} (data : MessageParcel β)
    (units : (t : ParcelType) → t.Value → List β) (faithful : data.Faithful units)
    (sameWidth : SameWidth units) (junk : Uninitialised) (deviceList : List UsbDevice)
    (few : deviceList.length < 2 ^ 31) (countable : ∀ dev ∈ deviceList, dev.Countable)
    (consistent : ∀ dev ∈ deviceList, dev.Consistent) : RoundTrips data junk deviceList := by
  have appends := appends_deviceList_of_few faithful few
  have consumes := consumes_deviceList faithful sameWidth junk few countable consistent
  exact ⟨_, appends, consumes⟩

/-! ### A parcel of typed slots -/

inductive Slot where
  | w32 (v : UInt32)
  | w8 (v : UInt8)
  | w16 (v : UInt16)
  | str (v : String)
  | flag (v : Bool)
  | token (v : String)
  | bytes (v : List UInt8)
  | object (v : Nat)
  | memory (v : Nat)
  deriving DecidableEq, Repr

def slots : (t : ParcelType) → t.Value → List Slot
  | .int32, v => [.w32 v.toUInt32]
  | .uint32, v => [.w32 v]
  | .uint8, v => [.w8 v]
  | .uint16, v => [.w16 v]
  | .string, v => [.str v]
  | .bool, v => [.flag v]
  | .interfaceToken, v => [.token v]
  | .buffer _, v => [.bytes v.val]
  | .remoteObject, v => [.object v]
  | .ashmem, v => [.memory v]

/-- A read of another type than what is there fails and takes nothing. -/
def slotParcel : MessageParcel Slot where
  write t v contents := (true, contents ++ slots t v)
  read
    | .int32, .w32 v :: rest => (some v.toInt32, rest)
    | .uint32, .w32 v :: rest => (some v, rest)
    | .uint8, .w8 v :: rest => (some v, rest)
    | .uint16, .w16 v :: rest => (some v, rest)
    | .string, .str v :: rest => (some v, rest)
    | .bool, .flag v :: rest => (some v, rest)
    | .interfaceToken, .token v :: rest => (some v, rest)
    | .buffer length, .bytes v :: rest =>
      if fits : v.length = length.toNat then (some ⟨v, fits⟩, rest) else (none, .bytes v :: rest)
    | .remoteObject, .object v :: rest => (some v, rest)
    | .ashmem, .memory v :: rest => (some v, rest)
    | _, contents => (none, contents)

theorem faithful_slotParcel : slotParcel.Faithful slots where
  write _ _ _ := rfl
  read t v rest := by
    cases t with
    | buffer length => simp [slotParcel, slots, v.property]
    | _ => rfl

theorem sameWidth_slots : SameWidth slots := fun _ => rfl

/-- A device with one endpoint. -/
def smallDevice : UsbDevice where
  name := "1-2"
  busNum := 1
  devAddr := 2
  configs :=
    [{ id := 1, maxPower := 50, interfaces := [{ id := 3, endpoints := [{ interfaceId := 3 }] }] }]

theorem roundTrips_smallDevice : RoundTrips slotParcel ⟨7, 7⟩ [smallDevice] :=
  roundTrips slotParcel slots faithful_slotParcel sameWidth_slots ⟨7, 7⟩ [smallDevice]
    (by decide)
    (by simp [smallDevice, UsbDevice.Countable, USBConfig.Countable])
    (by simp [smallDevice, UsbDevice.Consistent, int32OfByte])

/-- Devices whose count is written as no positive number are lost. -/
theorem not_roundTrips_of_count (junk : Uninitialised) {deviceList : List UsbDevice}
    (none : (Int32.ofNat deviceList.length).toInt.toNat = 0) (some : deviceList.length ≠ 0) :
    ¬ RoundTrips slotParcel junk deviceList := by
  intro h
  obtain ⟨written, appends, consumes⟩ := h
  have only := appends_deviceList faithful_slotParcel deviceList
  rw [none, List.take_zero, List.flatMap_nil] at only
  obtain rfl := appends.unique only ()
  have nothing := consumes_noDevices faithful_slotParcel junk none []
  have lengths := congrArg List.length ((consumes []).unique nothing)
  rw [List.nil_append, List.length_map] at lengths
  exact some lengths

theorem consistent_replicate (n : Nat) :
    ∀ dev ∈ List.replicate n ({} : UsbDevice), dev.Consistent := by
  intro dev there
  rw [List.eq_of_mem_replicate there]
  exact nofun

/-- The count of 2 ^ 31 devices is written as a negative number. -/
theorem not_roundTrips_manyDevices :
    (∀ dev ∈ List.replicate (2 ^ 31) ({} : UsbDevice), dev.Consistent) ∧
      ¬ RoundTrips slotParcel ⟨7, 7⟩ (List.replicate (2 ^ 31) {}) := by
  refine ⟨consistent_replicate (2 ^ 31), not_roundTrips_of_count ⟨7, 7⟩ ?_ ?_⟩
  · rw [List.length_replicate]
    decide
  · rw [List.length_replicate]
    decide

end UsbManager

import UsbManager.Lib.Parcel
import UsbManager.Device

/-!
# The device list in a parcel

`UsbServerStub` writes a device list to a `MessageParcel`, `UsbServerProxy`
reads it back.  Both go through devices, configurations, interfaces and
endpoints with a function for each level.  The parcel itself is outside the
repository: it is a parameter, of which the results assume what `Faithful` and
`SameWidth` say.

A function that returns `UEC_OK` is an action that returns `()`, any other code
is its error.  An out-argument (`devInfo`, `configs`, ...) is the out-parameter
of the action.
-/

namespace UsbManager

/-- The types of the values `MessageParcel` is asked to write and read. -/
inductive ParcelType where
  | int32
  | uint32
  | uint8
  | uint16
  | string
  | bool
  | interfaceToken
  | buffer (length : UInt32)
  | remoteObject
  | ashmem
  deriving DecidableEq, Repr

/-- A buffer is written and read with its length given.  A remote object or a
shared memory object is a handle. -/
abbrev ParcelType.Value : ParcelType → Type
  | int32 => Int32
  | uint32 => UInt32
  | uint8 => UInt8
  | uint16 => UInt16
  | string => String
  | bool => Bool
  | interfaceToken => String
  | buffer length => { bytes : List UInt8 // bytes.length = length.toNat }
  | remoteObject => Nat
  | ashmem => Nat

abbrev MessageParcel (β : Type) := Parcel ParcelType.Value β

/-- `uint8_t` from an `int32_t`. -/
def byteOfInt32 (tmp : Int32) : UInt8 := tmp.toUInt32.toUInt8

/-! ## `usb_srv_stub.cpp` -/

namespace UsbServerStub

section

variable {β : Type} (data : MessageParcel β)

/-- `WRITE_PARCEL_WITH_RET` with `UEC_SERVICE_WRITE_PARCEL_ERROR` -/
def writeParcelWithRet (t : ParcelType) (value : t.Value) : ParcelAction β Unit Uec Unit :=
  ParcelAction.put data .UEC_SERVICE_WRITE_PARCEL_ERROR t value

/-- `SetDeviceEndpointsMessageParcel` -/
def setDeviceEndpointsMessageParcel (eps : List USBEndpoint) : ParcelAction β Unit Uec Unit :=
  ParcelAction.forEach (fun ep => do
    writeParcelWithRet data .uint32 ep.address
    writeParcelWithRet data .uint32 ep.attributes
    writeParcelWithRet data .int32 ep.interval
    writeParcelWithRet data .int32 ep.maxPacketSize) eps

/-- `SetDeviceInterfacesMessageParcel` -/
def setDeviceInterfacesMessageParcel (interfaces : List UsbInterface) :
    ParcelAction β Unit Uec Unit :=
  ParcelAction.forEach (fun interface => do
    writeParcelWithRet data .int32 interface.id
    writeParcelWithRet data .int32 interface.klass
    writeParcelWithRet data .int32 interface.subClass
    writeParcelWithRet data .int32 interface.alternateSetting
    writeParcelWithRet data .int32 interface.protocol
    writeParcelWithRet data .uint8 interface.iInterface
    writeParcelWithRet data .string interface.name
    writeParcelWithRet data .int32 interface.getEndpointCount
    setDeviceEndpointsMessageParcel data interface.endpoints) interfaces

/-- `SetDeviceConfigsMessageParcel` -/
def setDeviceConfigsMessageParcel (configs : List USBConfig) : ParcelAction β Unit Uec Unit :=
  ParcelAction.forEach (fun config => do
    writeParcelWithRet data .int32 config.id
    writeParcelWithRet data .uint32 config.attributes
    writeParcelWithRet data .int32 config.getMaxPower
    writeParcelWithRet data .uint8 config.iConfiguration
    writeParcelWithRet data .string config.name
    writeParcelWithRet data .uint32 config.getInterfaceCount
    setDeviceInterfacesMessageParcel data config.interfaces) configs

/-- `SetDeviceMessageParcel` -/
def setDeviceMessageParcel (devInfo : UsbDevice) : ParcelAction β Unit Uec Unit := do
  writeParcelWithRet data .int32 (int32OfByte devInfo.busNum)
  writeParcelWithRet data .int32 (int32OfByte devInfo.devAddr)
  writeParcelWithRet data .int32 devInfo.vendorId
  writeParcelWithRet data .int32 devInfo.productId
  writeParcelWithRet data .int32 devInfo.klass
  writeParcelWithRet data .int32 devInfo.subClass
  writeParcelWithRet data .int32 devInfo.protocol
  writeParcelWithRet data .uint8 devInfo.iManufacturer
  writeParcelWithRet data .uint8 devInfo.iProduct
  writeParcelWithRet data .uint8 devInfo.iSerialNumber
  writeParcelWithRet data .uint8 devInfo.bMaxPacketSize0
  writeParcelWithRet data .uint16 devInfo.bcdUSB
  writeParcelWithRet data .uint16 devInfo.bcdDevice
  writeParcelWithRet data .string devInfo.name
  writeParcelWithRet data .string devInfo.manufacturerName
  writeParcelWithRet data .string devInfo.productName
  writeParcelWithRet data .string devInfo.version
  writeParcelWithRet data .string devInfo.serial
  writeParcelWithRet data .int32 devInfo.getConfigCount
  setDeviceConfigsMessageParcel data devInfo.configs

/-- `SetDeviceListMessageParcel`: its loop runs to an `int32_t` count. -/
def setDeviceListMessageParcel (deviceList : List UsbDevice) : ParcelAction β Unit Uec Unit := do
  let deviceCount := Int32.ofNat deviceList.length
  writeParcelWithRet data .int32 deviceCount
  ParcelAction.forEach (setDeviceMessageParcel data) (deviceList.take deviceCount.toInt.toNat)

end

end UsbServerStub

/-! ## `usb_srv_proxy.cpp` -/

namespace UsbServerProxy

/-- What the counts that are read without a check hold before: both variables
have no initialiser. -/
structure Uninitialised where
  configCount : UInt32
  interfaceCount : Int32

section

variable {β : Type} (data : MessageParcel β) (junk : Uninitialised)

/-- `READ_PARCEL_WITH_RET` with `UEC_SERVICE_READ_PARCEL_ERROR` -/
def readParcelWithRet {δ : Type} (t : ParcelType) : ParcelAction β δ Uec t.Value :=
  ParcelAction.take data .UEC_SERVICE_READ_PARCEL_ERROR t

/-- `GetDeviceEndpointsMessageParcel` -/
def getDeviceEndpointsMessageParcel : ParcelAction β (List USBEndpoint) Uec Unit := do
  let epCount ← readParcelWithRet data .int32
  ParcelAction.times (do
    let address ← readParcelWithRet data .uint32
    let attributes ← readParcelWithRet data .uint32
    let interval ← readParcelWithRet data .int32
    let maxPacketSize ← readParcelWithRet data .int32
    let ep := { address := address, attributes := attributes, interval := interval,
                maxPacketSize := maxPacketSize }
    ParcelAction.update fun eps => eps ++ [ep])
    epCount.toInt.toNat

/-- `GetDeviceInterfacesMessageParcel` -/
def getDeviceInterfacesMessageParcel : ParcelAction β (List UsbInterface) Uec Unit := do
  let interfaceCount ← ParcelAction.takeUnchecked data .int32 junk.interfaceCount
  ParcelAction.times (do
    let id ← readParcelWithRet data .int32
    let klass ← readParcelWithRet data .int32
    let subClass ← readParcelWithRet data .int32
    let alternateSetting ← readParcelWithRet data .int32
    let protocol ← readParcelWithRet data .int32
    let iInterface ← readParcelWithRet data .uint8
    let name ← readParcelWithRet data .string
    let eps ← ParcelAction.checked [] (getDeviceEndpointsMessageParcel data)
    let eps := eps.map fun ep => { ep with interfaceId := byteOfInt32 id }
    let interface := { id := id, klass := klass, subClass := subClass,
                       alternateSetting := alternateSetting, protocol := protocol,
                       iInterface := iInterface, name := name, endpoints := eps }
    ParcelAction.update fun interfaces => interfaces ++ [interface])
    interfaceCount.toInt.toNat

/-- `GetDeviceConfigsMessageParcel` -/
def getDeviceConfigsMessageParcel : ParcelAction β (List USBConfig) Uec Unit := do
  let configCount ← ParcelAction.takeUnchecked data .uint32 junk.configCount
  ParcelAction.times (do
    let id ← readParcelWithRet data .int32
    let attributes ← readParcelWithRet data .uint32
    let maxPower ← readParcelWithRet data .int32
    let iConfiguration ← readParcelWithRet data .uint8
    let name ← readParcelWithRet data .string
    let interfaces ← ParcelAction.checked [] (getDeviceInterfacesMessageParcel data junk)
    let config := { id := id, attributes := attributes, maxPower := maxPower,
                    iConfiguration := iConfiguration, name := name, interfaces := interfaces }
    ParcelAction.update fun configs => configs ++ [config])
    configCount.toNat

/-- `GetDeviceMessageParcel`: the result of the configurations is ignored. -/
def getDeviceMessageParcel : ParcelAction β UsbDevice Uec Unit := do
  let tmp ← readParcelWithRet data .int32
  ParcelAction.update fun devInfo => { devInfo with busNum := byteOfInt32 tmp }
  let tmp ← readParcelWithRet data .int32
  ParcelAction.update fun devInfo => { devInfo with devAddr := byteOfInt32 tmp }
  let tmp ← readParcelWithRet data .int32
  ParcelAction.update fun devInfo => { devInfo with vendorId := tmp }
  let tmp ← readParcelWithRet data .int32
  ParcelAction.update fun devInfo => { devInfo with productId := tmp }
  let tmp ← readParcelWithRet data .int32
  ParcelAction.update fun devInfo => { devInfo with klass := tmp }
  let tmp ← readParcelWithRet data .int32
  ParcelAction.update fun devInfo => { devInfo with subClass := tmp }
  let tmp ← readParcelWithRet data .int32
  ParcelAction.update fun devInfo => { devInfo with protocol := tmp }
  let tui8 ← readParcelWithRet data .uint8
  ParcelAction.update fun devInfo => { devInfo with iManufacturer := tui8 }
  let tui8 ← readParcelWithRet data .uint8
  ParcelAction.update fun devInfo => { devInfo with iProduct := tui8 }
  let tui8 ← readParcelWithRet data .uint8
  ParcelAction.update fun devInfo => { devInfo with iSerialNumber := tui8 }
  let tui8 ← readParcelWithRet data .uint8
  ParcelAction.update fun devInfo => { devInfo with bMaxPacketSize0 := tui8 }
  let tui16 ← readParcelWithRet data .uint16
  ParcelAction.update fun devInfo => { devInfo with bcdUSB := tui16 }
  let tui16 ← readParcelWithRet data .uint16
  ParcelAction.update fun devInfo => { devInfo with bcdDevice := tui16 }
  let tstr ← readParcelWithRet data .string
  ParcelAction.update fun devInfo => { devInfo with name := tstr }
  let tstr ← readParcelWithRet data .string
  ParcelAction.update fun devInfo => { devInfo with manufacturerName := tstr }
  let tstr ← readParcelWithRet data .string
  ParcelAction.update fun devInfo => { devInfo with productName := tstr }
  let tstr ← readParcelWithRet data .string
  ParcelAction.update fun devInfo => { devInfo with version := tstr }
  let tstr ← readParcelWithRet data .string
  ParcelAction.update fun devInfo => { devInfo with serial := tstr }
  let result ← ParcelAction.nested [] (getDeviceConfigsMessageParcel data junk)
  ParcelAction.update fun devInfo => { devInfo with configs := result.2 }

/-- `GetDeviceListMessageParcel`: the result of each device is ignored. -/
def getDeviceListMessageParcel : ParcelAction β (List UsbDevice) Uec Unit := do
  let count ← readParcelWithRet data .int32
  ParcelAction.times (do
    let result ← ParcelAction.nested {} (getDeviceMessageParcel data junk)
    ParcelAction.update fun deviceList => deviceList ++ [result.2])
    count.toInt.toNat

end

end UsbServerProxy

end UsbManager

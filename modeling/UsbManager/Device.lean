import Mathlib.Logic.Relation

/-!
# The device tree

`USBEndpoint`, `UsbInterface`, `USBConfig` and `UsbDevice` carry the members of
the classes of the same names, with the initial values the headers give them
(`INVALID_USB_INT_VALUE`, `INT32_MAX`, `UINT8_MAX`, `UINT16_MAX`).  A setter of
the source is a record update here.  `Uec` collects the result codes of the
external `usb_errors.h` and `errors.h` that are compared or returned; `Uec.other` is any
further code an external component answers with.
-/

namespace UsbManager

/-- Result codes.  `UEC_OK` is the only success. -/
inductive Uec where
  | UEC_OK
  | UEC_SERVICE_INVALID_VALUE
  | UEC_SERVICE_INNER_ERR
  | UEC_SERVICE_PERMISSION_DENIED
  | UEC_SERVICE_READ_PARCEL_ERROR
  | UEC_SERVICE_WRITE_PARCEL_ERROR
  | UEC_INTERFACE_NO_INIT
  | UEC_INTERFACE_INVALID_VALUE
  | UEC_INTERFACE_READ_PARCEL_ERROR
  | UEC_INTERFACE_WRITE_PARCEL_ERROR
  | UEC_INTERFACE_GET_SYSTEM_ABILITY_MANAGER_FAILED
  | UEC_INTERFACE_GET_USB_SERVICE_FAILED
  | ERR_INVALID_VALUE
  | ERR_ENOUGH_DATA
  | other (code : Int32)
  deriving DecidableEq, Repr

/-! ## Integer conversions -/

/-- `int32_t` from a `uint8_t`. -/
def int32OfByte (b : UInt8) : Int32 := b.toUInt32.toInt32

/-- `int32_t` from a `uint16_t`. -/
def int32OfWord (w : UInt16) : Int32 := w.toUInt32.toInt32

def INVALID_USB_INT_VALUE : Int32 := -1

def INT32_MAX : Int32 := 2147483647

def UINT8_MAX : UInt8 := 255

def UINT16_MAX : UInt16 := 65535

/-! ## The four classes -/

structure USBEndpoint where
  address : UInt32 := 0
  attributes : UInt32 := 0
  interval : Int32 := INVALID_USB_INT_VALUE
  maxPacketSize : Int32 := INVALID_USB_INT_VALUE
  interfaceId : UInt8 := UINT8_MAX
  deriving DecidableEq, Repr

structure UsbInterface where
  id : Int32 := INT32_MAX
  protocol : Int32 := INT32_MAX
  klass : Int32 := INT32_MAX
  subClass : Int32 := INT32_MAX
  alternateSetting : Int32 := INT32_MAX
  name : String := ""
  endpoints : List USBEndpoint := []
  iInterface : UInt8 := UINT8_MAX
  deriving DecidableEq, Repr

structure USBConfig where
  id : Int32 := INVALID_USB_INT_VALUE
  attributes : UInt32 := 0
  interfaces : List UsbInterface := []
  maxPower : Int32 := INVALID_USB_INT_VALUE
  name : String := ""
  iConfiguration : UInt8 := UINT8_MAX
  deriving DecidableEq, Repr

/-- `devAddr_`, `busNum_` and the five ids have no initialiser in the source:
both places that build an empty device overwrite them before use. -/
structure UsbDevice where
  name : String := ""
  manufacturerName : String := ""
  productName : String := ""
  version : String := ""
  serial : String := ""
  devAddr : UInt8 := 0
  busNum : UInt8 := 0
  descConfigCount : UInt8 := UINT8_MAX
  bMaxPacketSize0 : UInt8 := UINT8_MAX
  bcdUSB : UInt16 := UINT16_MAX
  bcdDevice : UInt16 := UINT16_MAX
  iManufacturer : UInt8 := UINT8_MAX
  iProduct : UInt8 := UINT8_MAX
  iSerialNumber : UInt8 := UINT8_MAX
  vendorId : Int32 := 0
  productId : Int32 := 0
  klass : Int32 := 0
  subClass : Int32 := 0
  protocol : Int32 := 0
  configs : List USBConfig := []
  deriving DecidableEq, Repr

/-! ## Getters that compute -/

/-- `int32_t` result of a `size_t`. -/
def UsbInterface.getEndpointCount (interface : UsbInterface) : Int32 :=
  Int32.ofNat interface.endpoints.length

/-- The source declares this getter `bool`, so every non-zero count reads as 1. -/
def UsbDevice.getDescConfigCount (dev : UsbDevice) : Bool := dev.descConfigCount != 0

/-- The raw value is in units of 2 mA. -/
def USBConfig.getMaxPower (config : USBConfig) : Int32 := config.maxPower * 2

def UsbDevice.getConfigCount (dev : UsbDevice) : Int32 := Int32.ofNat dev.configs.length

def USBConfig.getInterfaceCount (config : USBConfig) : UInt32 :=
  UInt32.ofNat config.interfaces.length

/-- An endpoint list that fits in a descriptor's count byte is counted exactly. -/
theorem UsbInterface.getEndpointCount_pos {interface : UsbInterface}
    (fits : interface.endpoints.length < 256) :
    0 < interface.getEndpointCount ↔ interface.endpoints ≠ [] := by
  have value : interface.getEndpointCount.toInt = interface.endpoints.length := by
    rw [getEndpointCount, Int32.toInt_ofNat_of_lt (by omega)]
  rw [Int32.lt_iff_toInt_lt, value, ← List.length_pos_iff]
  simp

@[simp] theorem UsbDevice.getDescConfigCount_eq_true {dev : UsbDevice} :
    dev.getDescConfigCount = true ↔ dev.descConfigCount ≠ 0 := by
  simp [getDescConfigCount]

theorem toInt_int32OfByte (b : UInt8) : (int32OfByte b).toInt = b.toNat := by
  have small := b.toNat_lt
  have unsigned : (int32OfByte b).toBitVec.toNat = b.toNat := by simp [int32OfByte]
  rw [Int32.toInt, BitVec.toInt_eq_toNat_of_lt (by omega), unsigned]

theorem toInt_int32OfWord (word : UInt16) : (int32OfWord word).toInt = word.toNat := by
  have small := word.toNat_lt
  have unsigned : (int32OfWord word).toBitVec.toNat = word.toNat := by simp [int32OfWord]
  rw [Int32.toInt, BitVec.toInt_eq_toNat_of_lt (by omega), unsigned]

/-- A byte read as `int32_t` is never the invalid marker. -/
theorem int32OfByte_ne_invalid (b : UInt8) : int32OfByte b ≠ INVALID_USB_INT_VALUE := by
  intro same
  have value := congrArg (fun i : Int32 => i.toUInt32.toNat) same
  have small := b.toNat_lt
  have bound : ((int32OfByte b).toUInt32).toNat = b.toNat := by
    simp [int32OfByte]
  simp only [bound] at value
  have marker : (INVALID_USB_INT_VALUE.toUInt32).toNat = 4294967295 := by decide
  omega

end UsbManager

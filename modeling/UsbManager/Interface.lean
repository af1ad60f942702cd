import UsbManager.DeviceParcel
import UsbManager.Sessions

/-!
# `iusb_srv.h`

The interface `UsbService` offers to other processes.  `SrvCall` is a call of one
of its methods with the input arguments, `SrvReply` what the call returns and
what the output arguments hold then; both are shared by the stub, which makes
such calls of the service, and the proxy, which is asked to carry them out.
-/

namespace UsbManager

structure UsbPortStatus where
  currentMode : Int32
  currentPowerRole : Int32
  currentDataRole : Int32
  deriving DecidableEq, Repr

structure UsbPort where
  id : Int32
  supportedModes : Int32
  usbPortStatus : UsbPortStatus
  deriving DecidableEq, Repr

/-- The methods of `IUsbSrv`. -/
inductive SrvCall where
  | hasRight (deviceName : String)
  | requestRight (deviceName : String)
  | removeRight (deviceName : String)
  | getDevices
  | getCurrentFunctions
  | setCurrentFunctions (funcs : Int32)
  | usbFunctionsFromString (funcs : String)
  | usbFunctionsToString (funcs : Int32)
  | getPorts
  | getSupportedModes (portId : Int32)
  | setPortRole (portId powerRole dataRole : Int32)
  | onDevice (request : DeviceRequest)
  deriving DecidableEq, Repr

/-- A method that returns a result code returns `ret`, `HasRight` returns `flag`,
`UsbFunctionsFromString` returns `value` and `UsbFunctionsToString` returns
`text`.  The rest are output arguments: `value` is the one of
`GetCurrentFunctions`, `GetSupportedModes` and `GetFileDescriptor`. -/
structure SrvReply where
  ret : Uec := .UEC_OK
  flag : Bool := false
  value : Int32 := 0
  text : String := ""
  configIndex : UInt8 := 0
  clientData : List UInt8 := []
  bufferData : List UInt8 := []
  ports : List UsbPort := []
  deviceList : List UsbDevice := []
  deriving DecidableEq, Repr

/-- An implementation of the interface, with state of type `σ`. -/
abbrev IUsbSrv (σ : Type) := SrvCall → σ → SrvReply × σ

namespace IUsbSrv

/-- `DECLARE_INTERFACE_DESCRIPTOR` -/
def descriptor : String := "ohos.usb.IUsbSrv"

/-- The enumerators of `IUsbSrv`, in their order. -/
inductive Fun where
  | USB_FUN_HAS_RIGHT
  | USB_FUN_REQUEST_RIGHT
  | USB_FUN_REMOVE_RIGHT
  | USB_FUN_OPEN_DEVICE
  | USB_FUN_GET_DEVICE
  | USB_FUN_GET_DEVICES
  | USB_FUN_GET_CURRENT_FUNCTIONS
  | USB_FUN_SET_CURRENT_FUNCTIONS
  | USB_FUN_USB_FUNCTIONS_FROM_STRING
  | USB_FUN_USB_FUNCTIONS_TO_STRING
  | USB_FUN_CLAIM_INTERFACE
  | USB_FUN_RELEASE_INTERFACE
  | USB_FUN_BULK_TRANSFER_READ
  | USB_FUN_BULK_TRANSFER_WRITE
  | USB_FUN_CONTROL_TRANSFER
  | USB_FUN_SET_ACTIVE_CONFIG
  | USB_FUN_GET_ACTIVE_CONFIG
  | USB_FUN_SET_INTERFACE
  | USB_FUN_GET_PORTS
  | USB_FUN_GET_SUPPORTED_MODES
  | USB_FUN_SET_PORT_ROLE
  | USB_FUN_REQUEST_QUEUE
  | USB_FUN_REQUEST_WAIT
  | USB_FUN_REQUEST_CANCEL
  | USB_FUN_GET_DESCRIPTOR
  | USB_FUN_GET_FILEDESCRIPTOR
  | USB_FUN_CLOSE_DEVICE
  | USB_FUN_BULK_AYSNC_READ
  | USB_FUN_BULK_AYSNC_WRITE
  | USB_FUN_BULK_AYSNC_CANCEL
  | USB_FUN_REG_BULK_CALLBACK
  | USB_FUN_UNREG_BULK_CALLBACK
  deriving DecidableEq, Repr

namespace Fun

def all : List Fun :=
  [USB_FUN_HAS_RIGHT, USB_FUN_REQUEST_RIGHT, USB_FUN_REMOVE_RIGHT, USB_FUN_OPEN_DEVICE,
    USB_FUN_GET_DEVICE, USB_FUN_GET_DEVICES, USB_FUN_GET_CURRENT_FUNCTIONS,
    USB_FUN_SET_CURRENT_FUNCTIONS, USB_FUN_USB_FUNCTIONS_FROM_STRING,
    USB_FUN_USB_FUNCTIONS_TO_STRING, USB_FUN_CLAIM_INTERFACE, USB_FUN_RELEASE_INTERFACE,
    USB_FUN_BULK_TRANSFER_READ, USB_FUN_BULK_TRANSFER_WRITE, USB_FUN_CONTROL_TRANSFER,
    USB_FUN_SET_ACTIVE_CONFIG, USB_FUN_GET_ACTIVE_CONFIG, USB_FUN_SET_INTERFACE,
    USB_FUN_GET_PORTS, USB_FUN_GET_SUPPORTED_MODES, USB_FUN_SET_PORT_ROLE,
    USB_FUN_REQUEST_QUEUE, USB_FUN_REQUEST_WAIT, USB_FUN_REQUEST_CANCEL,
    USB_FUN_GET_DESCRIPTOR, USB_FUN_GET_FILEDESCRIPTOR, USB_FUN_CLOSE_DEVICE,
    USB_FUN_BULK_AYSNC_READ, USB_FUN_BULK_AYSNC_WRITE, USB_FUN_BULK_AYSNC_CANCEL,
    USB_FUN_REG_BULK_CALLBACK, USB_FUN_UNREG_BULK_CALLBACK]

/-- The number of an enumerator. -/
def code (f : Fun) : UInt32 := UInt32.ofNat (all.idxOf f)

/-- The enumerator of a number. -/
def ofCode (code : UInt32) : Option Fun := all[code.toNat]?

@[simp] theorem ofCode_code (f : Fun) : ofCode f.code = some f := by
  cases f <;> rfl

end Fun

end IUsbSrv

/-! ## Result codes and buffers -/

def USB_ENDPOINT_DIR_MASK : UInt32 := 0x80

def USB_ENDPOINT_DIR_OUT : UInt32 := 0

/-- Both sides decide from the request type whether a control transfer sends its
buffer to the device. -/
def isWrite (requestType : Int32) : Bool :=
  requestType.toUInt32 &&& USB_ENDPOINT_DIR_MASK == USB_ENDPOINT_DIR_OUT

/-- The result code of a function that returns `UEC_OK` or an error. -/
def retOf : Except Uec Unit → Uec
  | .ok () => .UEC_OK
  | .error ret => ret

/-- The 32-bit length a buffer is sent with. -/
def bufferLength (bufferData : List UInt8) : UInt32 := UInt32.ofNat bufferData.length

/-- As much of a buffer as its 32-bit length says. -/
def sentBuffer (bufferData : List UInt8) : (ParcelType.buffer (bufferLength bufferData)).Value :=
  ⟨bufferData.take (bufferLength bufferData).toNat,
    List.length_take_of_le (Nat.mod_le _ _)⟩

section

variable {β δ : Type}

/-- The two functions `SetBufferMessage`: `write` is the write of a value. -/
def setBufferMessage (write : (t : ParcelType) → t.Value → ParcelAction β δ Uec Unit)
    (bufferData : List UInt8) : ParcelAction β δ Uec Unit := do
  write .uint32 (bufferLength bufferData)
  if bufferLength bufferData > 0 then write _ (sentBuffer bufferData)
  else pure ()

/-- The two functions `GetBufferMessage`. -/
def getBufferMessage (data : MessageParcel β) : ParcelAction β (List UInt8) Uec Unit := do
  ParcelAction.update fun _ => []
  let dataSize ← ParcelAction.take data .UEC_SERVICE_READ_PARCEL_ERROR .uint32
  if dataSize = 0 then pure ()
  else
    let tdata ← ParcelAction.take data .UEC_SERVICE_READ_PARCEL_ERROR (.buffer dataSize)
    ParcelAction.update fun _ => tdata.val

end

end UsbManager

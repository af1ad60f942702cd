import UsbManager.Client

/-!
# `usb_info.cpp`

The functions of the JavaScript module that name a device.  A device and a pipe are
objects, of which the numbers are read one by one; an interface, a configuration and
an endpoint are what was parsed.
-/

namespace UsbManager

/-- The properties of an object that are numbers, as `napi_get_value_int32` reads them. -/
structure JsObject where
  numbers : List (String × Int32)
  deriving DecidableEq, Repr

/-- Without such a number the variable keeps its value. -/
def NapiUtil.jsObjectToInt (object : JsObject) (fieldStr : String) (fieldRef : Int32) : Int32 :=
  (object.numbers.lookup fieldStr).getD fieldRef

namespace UsbInfo

open NapiUtil

/-- `ParseUsbDevicePipe` -/
def parseUsbDevicePipe (obj : JsObject) : USBDevicePipe :=
  let busNum := jsObjectToInt obj "busNum" 0
  let devAddr := jsObjectToInt obj "devAddress" 0
  { busNum := byteOfInt32 busNum, devAddr := byteOfInt32 devAddr }

/-- `ParseDeviceObj`, without the texts and the configurations.  The constructor takes
the address and the number of the bus as bytes. -/
def parseDeviceObj (deviceObj : JsObject) : UsbDevice where
  devAddr := byteOfInt32 (jsObjectToInt deviceObj "devAddress" 0)
  busNum := byteOfInt32 (jsObjectToInt deviceObj "busNum" 0)
  vendorId := jsObjectToInt deviceObj "vendorId" 0
  productId := jsObjectToInt deviceObj "productId" 0
  klass := jsObjectToInt deviceObj "clazz" 0
  subClass := jsObjectToInt deviceObj "subclass" 0
  protocol := jsObjectToInt deviceObj "protocol" 0

/-- The functions of the module that take a device or a pipe. -/
inductive JsCall where
  | connectDevice (deviceObj : JsObject)
  | claimInterface (pipeObj : JsObject) (interface : UsbInterface) (isForce : Bool)
  | releaseInterface (pipeObj : JsObject) (interface : UsbInterface)
  | bulkTransfer (pipeObj : JsObject) (ep : USBEndpoint) (bufferData : List UInt8)
      (timeOut : Int32)
  | controlTransfer (pipeObj : JsObject) (tctrl : UsbCtrlTransfer) (bufferData : List UInt8)
  | setInterface (pipeObj : JsObject) (interface : UsbInterface)
  | setConfiguration (pipeObj : JsObject) (config : USBConfig)
  | getRawDescriptor (pipeObj : JsObject)
  | getFileDescriptor (pipeObj : JsObject)
  | closePipe (pipeObj : JsObject)
  deriving DecidableEq, Repr

namespace JsCall

/-- The object that names the device. -/
def object : JsCall → JsObject
  | connectDevice deviceObj => deviceObj
  | claimInterface pipeObj _ _ => pipeObj
  | releaseInterface pipeObj _ => pipeObj
  | bulkTransfer pipeObj _ _ _ => pipeObj
  | controlTransfer pipeObj _ _ => pipeObj
  | setInterface pipeObj _ => pipeObj
  | setConfiguration pipeObj _ => pipeObj
  | getRawDescriptor pipeObj => pipeObj
  | getFileDescriptor pipeObj => pipeObj
  | closePipe pipeObj => pipeObj

/-- The call of the client that a function makes. -/
def call : JsCall → ClientCall
  | connectDevice deviceObj => .openDevice (parseDeviceObj deviceObj)
  | claimInterface pipeObj interface isForce =>
    .claimInterface (parseUsbDevicePipe pipeObj) interface isForce
  | releaseInterface pipeObj interface => .releaseInterface (parseUsbDevicePipe pipeObj) interface
  | bulkTransfer pipeObj ep bufferData timeOut =>
    .bulkTransfer (parseUsbDevicePipe pipeObj) ep bufferData timeOut
  | controlTransfer pipeObj tctrl bufferData =>
    .controlTransfer (parseUsbDevicePipe pipeObj) tctrl bufferData
  | setInterface pipeObj interface => .setInterface (parseUsbDevicePipe pipeObj) interface
  | setConfiguration pipeObj config => .setConfiguration (parseUsbDevicePipe pipeObj) config
  | getRawDescriptor pipeObj => .getRawDescriptors (parseUsbDevicePipe pipeObj)
  | getFileDescriptor pipeObj => .getFileDescriptor (parseUsbDevicePipe pipeObj)
  | closePipe pipeObj => .close (parseUsbDevicePipe pipeObj)

end JsCall

end UsbInfo

end UsbManager

import Mathlib
import UsbManager.Device

/-!
# What the service talks to, and what it keeps

`UsbdClient` is outside the repository.  It is the parameter `Usbd`: an answer
for every call, which may depend on all the calls made before.  `World` is the
state of the service: the calls it made, the device store and the events of
`UsbHostManager`, and the rights of `UsbRightManager`.
-/

namespace UsbManager

@[ext]
structure UsbDev where
  busNum : UInt8
  devAddr : UInt8
  deriving DecidableEq, Repr

structure UsbPipe where
  interfaceId : UInt8
  endpointId : UInt8
  deriving DecidableEq, Repr

@[ext]
structure UsbCtrlTransfer where
  requestType : Int32
  requestCmd : Int32
  value : Int32
  index : Int32
  timeout : Int32
  deriving DecidableEq, Repr

/-- The calls of `UsbdClient` that name a device.  A callback or a shared
memory object is a handle; a callback may be null. -/
inductive UsbdCall where
  | OpenDevice (dev : UsbDev)
  | CloseDevice (dev : UsbDev)
  | GetRawDescriptor (dev : UsbDev)
  | GetStringDescriptor (dev : UsbDev) (idx : UInt8)
  | GetFileDescriptor (dev : UsbDev)
  | SetConfig (dev : UsbDev) (configIndex : UInt8)
  | GetConfig (dev : UsbDev)
  | ClaimInterface (dev : UsbDev) (interface force : UInt8)
  | ReleaseInterface (dev : UsbDev) (interface : UInt8)
  | SetInterface (dev : UsbDev) (interfaceid altIndex : UInt8)
  | BulkTransferRead (dev : UsbDev) (pipe : UsbPipe) (timeOut : Int32)
  | BulkTransferWrite (dev : UsbDev) (pipe : UsbPipe) (timeOut : Int32) (data : List UInt8)
  | ControlTransfer (dev : UsbDev) (ctrl : UsbCtrlTransfer) (data : List UInt8)
  | RequestQueue (dev : UsbDev) (pipe : UsbPipe) (clientData bufferData : List UInt8)
  | RequestWait (dev : UsbDev) (timeOut : Int32)
  | RequestCancel (dev : UsbDev) (pipe : UsbPipe)
  | RegBulkCallback (dev : UsbDev) (pipe : UsbPipe) (cb : Option Nat)
  | UnRegBulkCallback (dev : UsbDev) (pipe : UsbPipe)
  | BulkRead (dev : UsbDev) (pipe : UsbPipe) (ashmem : Nat)
  | BulkWrite (dev : UsbDev) (pipe : UsbPipe) (ashmem : Nat)
  | BulkCancel (dev : UsbDev) (pipe : UsbPipe)
  deriving DecidableEq, Repr

/-- The device a call names. -/
def UsbdCall.dev : UsbdCall → UsbDev
  | OpenDevice dev => dev
  | CloseDevice dev => dev
  | GetRawDescriptor dev => dev
  | GetStringDescriptor dev _ => dev
  | GetFileDescriptor dev => dev
  | SetConfig dev _ => dev
  | GetConfig dev => dev
  | ClaimInterface dev _ _ => dev
  | ReleaseInterface dev _ => dev
  | SetInterface dev _ _ => dev
  | BulkTransferRead dev _ _ => dev
  | BulkTransferWrite dev _ _ _ => dev
  | ControlTransfer dev _ _ => dev
  | RequestQueue dev _ _ _ => dev
  | RequestWait dev _ => dev
  | RequestCancel dev _ => dev
  | RegBulkCallback dev _ _ => dev
  | UnRegBulkCallback dev _ => dev
  | BulkRead dev _ _ => dev
  | BulkWrite dev _ _ => dev
  | BulkCancel dev _ => dev

/-- The result code of a call and what it leaves in its output arguments. -/
structure Reply where
  ret : Uec
  bufferData : List UInt8 := []
  clientData : List UInt8 := []
  value : Int32 := 0
  deriving DecidableEq, Repr

structure Usbd where
  answer : List UsbdCall → UsbdCall → Reply

/-- `COMMON_EVENT_USB_DEVICE_ATTACHED` and `..._DETACHED` -/
inductive CommonEvent where
  | attached (dev : UsbDevice)
  | detached (dev : UsbDevice)
  deriving DecidableEq, Repr

/-- `UsbHostManager`: `devices_`, and what was published. -/
structure HostManager where
  devices : Std.TreeMap String UsbDevice := {}
  events : List CommonEvent := []

/-- `UsbRightManager`; a negative `dialogId_` means that no dialog is open. -/
structure RightManager where
  rightMap : Std.TreeMap String (List String) := {}
  dialogId : Int32 := -1

structure World where
  calls : List UsbdCall := []
  hostManager : HostManager := {}
  rightManager : RightManager := {}

/-- Ask usbd. -/
def World.call (usbd : Usbd) (call : UsbdCall) (w : World) : Reply × World :=
  (usbd.answer w.calls call, { w with calls := w.calls ++ [call] })

/-- `std::to_string(busNum) + "-" + std::to_string(devAddr)` -/
def deviceName (busNum devAddr : UInt8) : String :=
  toString busNum.toNat ++ "-" ++ toString devAddr.toNat

section

variable (usbd : Usbd) (call : UsbdCall) (w : World)

@[simp] theorem World.call_calls : (w.call usbd call).2.calls = w.calls ++ [call] := rfl

@[simp] theorem World.call_hostManager :
    (w.call usbd call).2.hostManager = w.hostManager := rfl

@[simp] theorem World.call_rightManager :
    (w.call usbd call).2.rightManager = w.rightManager := rfl

end

end UsbManager

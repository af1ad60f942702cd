import UsbManager.DescriptorParser
import UsbManager.Managers

/-!
# `usb_service.cpp`

The methods of `UsbService` that touch a device, the device store or the
rights.  Each takes the state of the service and returns it as it was left.
`caller` is what `GetBundleName` answers for the calling process.

Not modelled: running out of memory in `new`, and the null checks of the four
managers, which the constructor of `UsbService` creates.
-/

namespace UsbManager

namespace UsbService

variable (usbd : Usbd)

def CURSOR_INIT : UInt32 := 18

def DESCRIPTOR_TYPE_STRING : UInt8 := 3

def DESCRIPTOR_VALUE_START_OFFSET : UInt32 := 2

/-! ## Rights -/

/-- `HasRight` -/
def hasRight (caller : Option String) (deviceName : String) (w : World) : Bool :=
  match caller with
  | none => false
  | some bundleName => w.rightManager.hasRight deviceName bundleName

/-- `RequestRight` up to the dialog. -/
def requestRight (caller : Option String) (deviceName : String) (dialogId : Int32) (w : World) :
    Option Uec × World :=
  match caller with
  | none => (some .UEC_SERVICE_INNER_ERR, w)
  | some bundleName =>
    let (ret, rightManager) := w.rightManager.requestRight deviceName bundleName dialogId
    (ret, { w with rightManager })

/-- `RequestRight` from the callback of the dialog on. -/
def requestRightAnswered (bundleName deviceName event : String) (w : World) : Uec × World :=
  let (ret, rightManager) := w.rightManager.requestRightAnswered deviceName bundleName event
  (ret, { w with rightManager })

/-- `RemoveRight` -/
def removeRight (deviceName : String) (w : World) : Uec × World :=
  let (removed, rightManager) := w.rightManager.removeDeviceRight deviceName
  if removed then (.UEC_OK, { w with rightManager })
  else (.UEC_SERVICE_INNER_ERR, { w with rightManager })

theorem removeRight_rightManager (name : String) (w : World) :
    (removeRight name w).2.rightManager = (w.rightManager.removeDeviceRight name).2 := by
  unfold removeRight
  dsimp only
  split <;> rfl

theorem removeRight_hostManager (name : String) (w : World) :
    (removeRight name w).2.hostManager = w.hostManager := by
  unfold removeRight
  dsimp only
  split <;> rfl

/-! ## Requests on a device -/

/-- `OpenDevice` -/
def openDevice (caller : Option String) (busNum devAddr : UInt8) (w : World) : Reply × World :=
  if ¬ hasRight caller (deviceName busNum devAddr) w then
    ({ ret := .UEC_SERVICE_PERMISSION_DENIED }, w)
  else w.call usbd (.OpenDevice ⟨busNum, devAddr⟩)

def claimInterface (busNum devAddr interface force : UInt8) (w : World) : Reply × World :=
  w.call usbd (.ClaimInterface ⟨busNum, devAddr⟩ interface force)

def releaseInterface (busNum devAddr interface : UInt8) (w : World) : Reply × World :=
  w.call usbd (.ReleaseInterface ⟨busNum, devAddr⟩ interface)

def bulkTransferRead (devInfo : UsbDev) (pipe : UsbPipe) (timeOut : Int32) (w : World) :
    Reply × World :=
  w.call usbd (.BulkTransferRead devInfo pipe timeOut)

def bulkTransferWrite (dev : UsbDev) (pipe : UsbPipe) (bufferData : List UInt8) (timeOut : Int32)
    (w : World) : Reply × World :=
  w.call usbd (.BulkTransferWrite dev pipe timeOut bufferData)

def controlTransfer (dev : UsbDev) (ctrl : UsbCtrlTransfer) (bufferData : List UInt8) (w : World) :
    Reply × World :=
  w.call usbd (.ControlTransfer dev ctrl bufferData)

def setActiveConfig (busNum devAddr configIndex : UInt8) (w : World) : Reply × World :=
  w.call usbd (.SetConfig ⟨busNum, devAddr⟩ configIndex)

def getActiveConfig (busNum devAddr : UInt8) (w : World) : Reply × World :=
  w.call usbd (.GetConfig ⟨busNum, devAddr⟩)

def setInterface (busNum devAddr interfaceid altIndex : UInt8) (w : World) : Reply × World :=
  w.call usbd (.SetInterface ⟨busNum, devAddr⟩ interfaceid altIndex)

def getRawDescriptor (busNum devAddr : UInt8) (w : World) : Reply × World :=
  w.call usbd (.GetRawDescriptor ⟨busNum, devAddr⟩)

def getFileDescriptor (busNum devAddr : UInt8) (w : World) : Reply × World :=
  w.call usbd (.GetFileDescriptor ⟨busNum, devAddr⟩)

def requestQueue (dev : UsbDev) (pipe : UsbPipe) (clientData bufferData : List UInt8) (w : World) :
    Reply × World :=
  w.call usbd (.RequestQueue dev pipe clientData bufferData)

def requestWait (dev : UsbDev) (timeOut : Int32) (w : World) : Reply × World :=
  w.call usbd (.RequestWait dev timeOut)

def requestCancel (busNum devAddr interfaceId endpointId : UInt8) (w : World) : Reply × World :=
  w.call usbd (.RequestCancel ⟨busNum, devAddr⟩ ⟨interfaceId, endpointId⟩)

def close (busNum devAddr : UInt8) (w : World) : Reply × World :=
  w.call usbd (.CloseDevice ⟨busNum, devAddr⟩)

def regBulkCallback (devInfo : UsbDev) (pipe : UsbPipe) (cb : Option Nat) (w : World) :
    Reply × World :=
  w.call usbd (.RegBulkCallback devInfo pipe cb)

def unRegBulkCallback (devInfo : UsbDev) (pipe : UsbPipe) (w : World) : Reply × World :=
  w.call usbd (.UnRegBulkCallback devInfo pipe)

def bulkRead (devInfo : UsbDev) (pipe : UsbPipe) (ashmem : Option Nat) (w : World) :
    Reply × World :=
  match ashmem with
  | none => ({ ret := .UEC_SERVICE_INVALID_VALUE }, w)
  | some ashmem => w.call usbd (.BulkRead devInfo pipe ashmem)

def bulkWrite (devInfo : UsbDev) (pipe : UsbPipe) (ashmem : Option Nat) (w : World) :
    Reply × World :=
  match ashmem with
  | none => ({ ret := .UEC_SERVICE_INVALID_VALUE }, w)
  | some ashmem => w.call usbd (.BulkWrite devInfo pipe ashmem)

def bulkCancel (devInfo : UsbDev) (pipe : UsbPipe) (w : World) : Reply × World :=
  w.call usbd (.BulkCancel devInfo pipe)

/-! ## Strings of a device -/

/-- The string the source makes of a string descriptor: it copies each byte to
a 16-bit unit, reads the units as 4-byte characters and cuts each of these to
its low byte, so that every second byte of the descriptor is left. -/
def stringOfDescriptor (strV : List UInt8) (length : UInt32) : String :=
  let count := (length - DESCRIPTOR_VALUE_START_OFFSET).toNat / 2
  String.ofList ((List.range count).map fun j =>
    Char.ofNat (strV.getD (2 * j + DESCRIPTOR_VALUE_START_OFFSET.toNat) 0).toNat)

/-- `GetDevStringValFromIdx` -/
def getDevStringValFromIdx (busNum devAddr idx : UInt8) (w : World) : String × World :=
  if idx = 0 then (" ", w)
  else
    let (reply, w) := w.call usbd (.GetStringDescriptor ⟨busNum, devAddr⟩ idx)
    if reply.ret ≠ .UEC_OK then (" ", w)
    else
      let strV := reply.bufferData
      let length := UInt32.ofNat strV.length
      if length < DESCRIPTOR_VALUE_START_OFFSET ∨ strV.getD 1 0 ≠ DESCRIPTOR_TYPE_STRING then
        (" ", w)
      else (stringOfDescriptor strV length, w)

/-- `BcdToString` -/
def bcdToString (bcd : List UInt8) : String :=
  bcd.foldl (fun tstr (b : UInt8) =>
    tstr ++ toString ((b &&& 0xF0) >>> 4).toNat ++ toString (b &&& 0x0F).toNat) ""

/-- The loop of `FillDevStrings` over the interfaces of a configuration. -/
def fillInterfaceNames (busNum devAddr : UInt8) :
    List UsbInterface → World → List UsbInterface × World
  | [], w => ([], w)
  | itIF :: interfaces, w =>
    let (name, w) := getDevStringValFromIdx usbd busNum devAddr itIF.iInterface w
    let (interfaces, w) := fillInterfaceNames busNum devAddr interfaces w
    ({ itIF with name } :: interfaces, w)

/-- The loop of `FillDevStrings` over the configurations. -/
def fillConfigNames (busNum devAddr : UInt8) : List USBConfig → World → List USBConfig × World
  | [], w => ([], w)
  | it :: configs, w =>
    let (name, w) := getDevStringValFromIdx usbd busNum devAddr it.iConfiguration w
    let (interfaces, w) := fillInterfaceNames usbd busNum devAddr it.interfaces w
    let (configs, w) := fillConfigNames busNum devAddr configs w
    ({ it with name, interfaces } :: configs, w)

/-- `FillDevStrings` -/
def fillDevStrings (dev : UsbDevice) (w : World) : (Uec × UsbDevice) × World :=
  let bcdData := [(dev.bcdDevice &&& 0xff).toUInt8, ((dev.bcdDevice >>> 8) &&& 0xff).toUInt8]
  let (manufacturerName, w) :=
    getDevStringValFromIdx usbd dev.busNum dev.devAddr dev.iManufacturer w
  let (productName, w) := getDevStringValFromIdx usbd dev.busNum dev.devAddr dev.iProduct w
  let (serial, w) := getDevStringValFromIdx usbd dev.busNum dev.devAddr dev.iSerialNumber w
  let (configs, w) := fillConfigNames usbd dev.busNum dev.devAddr dev.configs w
  ((.UEC_OK, { dev with
    version := bcdToString bcdData
    manufacturerName, productName, serial, configs }), w)

/-! ## Descriptors of a device -/

/-- `descriptor.data()` -/
def data (descriptor : List UInt8) : Option Ptr :=
  match descriptor with
  | [] => none
  | _ => some (Ptr.ofList descriptor)

/-- `GetDeviceInfoDescriptor`: the result code, and the buffer and the device as
they were left. -/
def getDeviceInfoDescriptor (uDev : UsbDev) (dev : UsbDevice) (w : World) :
    Prog Fault ((Uec × List UInt8 × UsbDevice) × World) :=
  let (reply, w) := w.call usbd (.GetRawDescriptor uDev)
  let descriptor := reply.bufferData
  if reply.ret ≠ .UEC_OK then
    let (_, w) := w.call usbd (.CloseDevice uDev)
    pure ((reply.ret, descriptor, dev), w)
  else
    let length := UInt32.ofNat descriptor.length
    if (data descriptor).isNone ∨ length = 0 then
      pure ((.UEC_SERVICE_INVALID_VALUE, descriptor, dev), w)
    else do
      let dev := { dev with
        busNum := uDev.busNum
        devAddr := uDev.devAddr
        name := deviceName uDev.busNum uDev.devAddr }
      let (ret, dev) ← UsbDescriptorParser.parseDeviceDescriptor (data descriptor) length dev
      if ret ≠ .UEC_OK then
        let (_, w) := w.call usbd (.CloseDevice uDev)
        pure ((ret, descriptor, dev), w)
      else pure ((ret, descriptor, dev), w)

/-- The variables of the configuration loop. -/
structure ConfigLoop where
  i : UInt8
  cursor : UInt32
  configs : List USBConfig
  deriving DecidableEq, Repr

/-- One pass of the configuration loop of `GetConfigDescriptor`.  The loop is
left by the `return` of a failed parse, or by its `break` or its condition. -/
def configPass (trap : Bool) (buffer : Ptr) (length : UInt32) (dev : UsbDevice) (st : ConfigLoop) :
    Prog Fault (Pass ConfigLoop (Except Uec ConfigLoop)) :=
  if st.i.toNat < dev.getDescConfigCount.toNat then
    if length ≤ st.cursor then pure (.done (.ok st))
    else do
      let rest ← UsbDescriptorParser.sub trap length st.cursor
      let (ret, configCursor, config) ← UsbDescriptorParser.parseConfigDescriptor trap
        (some (buffer.add st.cursor.toNat)) rest 0 {}
      if ret ≠ .UEC_OK then pure (.done (.error ret))
      else
        pure (.next {
          i := st.i + 1
          cursor := st.cursor + configCursor
          configs := st.configs ++ [config] })
  else pure (.done (.ok st))

/-- `GetConfigDescriptor` -/
def getConfigDescriptor (trap : Bool) (dev : UsbDevice) (descriptor : List UInt8) (w : World) :
    Prog Fault ((Uec × UsbDevice) × World) := do
  let buffer := Ptr.ofList descriptor
  let length := UInt32.ofNat descriptor.length
  match ← Prog.loop (configPass trap buffer length dev)
      { i := 0, cursor := CURSOR_INIT, configs := [] } with
  | .error ret => pure ((ret, dev), w)
  | .ok st => pure (fillDevStrings usbd { dev with configs := st.configs } w)

/-- `GetDeviceInfo`.  The result of `GetDeviceInfoDescriptor` is overwritten. -/
def getDeviceInfo (busNum devAddr : UInt8) (dev : UsbDevice) (w : World) :
    Prog Fault ((Uec × UsbDevice) × World) :=
  let uDev : UsbDev := ⟨busNum, devAddr⟩
  let (reply, w) := w.call usbd (.OpenDevice uDev)
  if reply.ret ≠ .UEC_OK then pure ((reply.ret, dev), w)
  else do
    let ((_, descriptor, dev), w) ← getDeviceInfoDescriptor usbd uDev dev w
    let ((ret, dev), w) ← getConfigDescriptor usbd false dev descriptor w
    if ret ≠ .UEC_OK then pure ((ret, dev), w)
    else
      let (_, w) := w.call usbd (.CloseDevice uDev)
      pure ((.UEC_OK, dev), w)

/-! ## Attaching and detaching -/

/-- The device `AddDevice` starts from: every byte of it is set to zero. -/
def zeroDevice : UsbDevice where
  descConfigCount := 0
  bMaxPacketSize0 := 0
  bcdUSB := 0
  bcdDevice := 0
  iManufacturer := 0
  iProduct := 0
  iSerialNumber := 0

/-- `AddDevice` -/
def addDevice (busNum devAddr : UInt8) (w : World) : Prog Fault (Bool × World) := do
  let ((ret, devInfo), w) ← getDeviceInfo usbd busNum devAddr zeroDevice w
  if ret ≠ .UEC_OK then pure (false, w)
  else
    let (_, hostManager) := w.hostManager.addDevice devInfo
    pure (true, { w with hostManager })

/-- `DelDevice` -/
def delDevice (busNum devAddr : UInt8) (w : World) : Bool × World :=
  let (_, w) := close usbd busNum devAddr w
  let (ret, hostManager) := w.hostManager.delDevice busNum devAddr
  (ret, { w with hostManager })

end UsbService

end UsbManager

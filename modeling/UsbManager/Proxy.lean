import UsbManager.Interface

/-!
# `usb_srv_proxy.cpp`

`UsbServerProxy` carries a call out in another process: it writes a request, has
it answered by `SendRequest` and reads the reply.  A method is an `Exchange`,
which says what is particular to it.  A result code other than `UEC_OK` is an
error, an output argument is in the out-parameter of the reading action.

What happens on the other side is the parameter `Remote`.
-/

namespace UsbManager

/-- What `SendRequest` answers to a request code and a request parcel, and the
reply parcel. -/
abbrev Remote (β σ : Type) := UInt32 → List β → σ → (Uec × List β) × σ

/-- The parts of a method of the proxy: the results where there is no remote
object, where the interface token cannot be written and where `SendRequest`
fails, the request code, the writes after the token and the reads. -/
structure Exchange (β ε δ α : Type) where
  noRemote : ε
  noToken : ε
  code : IUsbSrv.Fun
  request : ParcelAction β (List Bool) ε Unit := pure ()
  failed : Uec → ε
  reply : ParcelAction β δ ε α

namespace Exchange

variable {β ε δ α σ : Type} (data : MessageParcel β) (x : Exchange β ε δ α)

/-- The parcel, unless a write has stopped the method. -/
def written : Except ε Unit × List Bool × List β → Except ε (List β)
  | (.ok _, _, message) => .ok message
  | (.error e, _, _) => .error e

/-- The request parcel, where the writes have these outcomes. -/
def message (outcomes : List Bool) : Except ε (List β) :=
  let write : ParcelAction β (List Bool) ε Unit := do
    ParcelAction.attempt data x.noToken .interfaceToken IUsbSrv.descriptor
    x.request
  written (write outcomes [])

/-- Carry the method out: its result, the output arguments and the other side. -/
def run (remote : Option (Remote β σ)) (outcomes : List Bool) (out : δ) (s : σ) :
    (Except ε α × δ) × σ :=
  match remote with
  | none => ((.error x.noRemote, out), s)
  | some sendRequest =>
    match x.message data outcomes with
    | .error e => ((.error e, out), s)
    | .ok message =>
      let ((ret, reply), s) := sendRequest x.code.code message s
      if ret ≠ .UEC_OK then ((.error (x.failed ret), out), s)
      else
        let (result, out, _) := x.reply out reply
        ((result, out), s)

end Exchange

namespace UsbServerProxy

section

variable {β : Type} (data : MessageParcel β)

/-- `WRITE_PARCEL_WITH_RET` with `UEC_SERVICE_WRITE_PARCEL_ERROR` -/
def writeParcelWithRet (t : ParcelType) (value : t.Value) :
    ParcelAction β (List Bool) Uec Unit :=
  ParcelAction.attempt data .UEC_SERVICE_WRITE_PARCEL_ERROR t value

/-- The same for a pointer to an object: a null pointer cannot be written. -/
def writeObjectWithRet (t : ParcelType) : Option t.Value → ParcelAction β (List Bool) Uec Unit
  | none => ParcelAction.fail .UEC_SERVICE_WRITE_PARCEL_ERROR
  | some object => writeParcelWithRet data t object

/-- `SetDeviceMessage` -/
def setDeviceMessage (busNum devAddr : UInt8) : ParcelAction β (List Bool) Uec Unit := do
  writeParcelWithRet data .uint8 busNum
  writeParcelWithRet data .uint8 devAddr

/-! ## Rights and devices -/

def openDevice (busNum devAddr : UInt8) : Exchange β Uec Unit Unit where
  noRemote := .UEC_SERVICE_INNER_ERR
  noToken := .UEC_INTERFACE_WRITE_PARCEL_ERROR
  code := .USB_FUN_OPEN_DEVICE
  request := setDeviceMessage data busNum devAddr
  failed := id
  reply := pure ()

def hasRight (deviceName : String) : Exchange β Bool Unit Bool where
  noRemote := false
  noToken := false
  code := .USB_FUN_HAS_RIGHT
  request := ParcelAction.attempt data false .string deviceName
  failed _ := false
  reply := ParcelAction.take data false .bool

def requestRight (deviceName : String) : Exchange β Uec Unit Unit where
  noRemote := .UEC_INTERFACE_INVALID_VALUE
  noToken := .UEC_INTERFACE_WRITE_PARCEL_ERROR
  code := .USB_FUN_REQUEST_RIGHT
  request := ParcelAction.attempt data .UEC_INTERFACE_WRITE_PARCEL_ERROR .string deviceName
  failed := id
  reply := pure ()

def removeRight (deviceName : String) : Exchange β Uec Unit Unit where
  noRemote := .UEC_INTERFACE_INVALID_VALUE
  noToken := .UEC_INTERFACE_WRITE_PARCEL_ERROR
  code := .USB_FUN_REMOVE_RIGHT
  request := ParcelAction.attempt data .UEC_INTERFACE_WRITE_PARCEL_ERROR .string deviceName
  failed := id
  reply := pure ()

def getDevices (junk : Uninitialised) : Exchange β Uec (List UsbDevice) Unit where
  noRemote := .ERR_INVALID_VALUE
  noToken := .ERR_INVALID_VALUE
  code := .USB_FUN_GET_DEVICES
  failed := id
  reply := getDeviceListMessageParcel data junk

/-! ## Functions and ports -/

def getCurrentFunctions : Exchange β Uec Int32 Unit where
  noRemote := .UEC_INTERFACE_INVALID_VALUE
  noToken := .UEC_INTERFACE_WRITE_PARCEL_ERROR
  code := .USB_FUN_GET_CURRENT_FUNCTIONS
  failed := id
  reply := do
    let funcs ← ParcelAction.take data .UEC_INTERFACE_READ_PARCEL_ERROR .int32
    ParcelAction.update fun _ => funcs

def setCurrentFunctions (funcs : Int32) : Exchange β Uec Unit Unit where
  noRemote := .UEC_INTERFACE_INVALID_VALUE
  noToken := .UEC_INTERFACE_WRITE_PARCEL_ERROR
  code := .USB_FUN_SET_CURRENT_FUNCTIONS
  request := ParcelAction.attempt data .UEC_INTERFACE_WRITE_PARCEL_ERROR .int32 funcs
  failed := id
  reply := pure ()

/-- A result code of this method stands where a set of functions is expected. -/
def usbFunctionsFromString (funcs : String) : Exchange β Uec Unit Int32 where
  noRemote := .UEC_INTERFACE_INVALID_VALUE
  noToken := .UEC_INTERFACE_WRITE_PARCEL_ERROR
  code := .USB_FUN_USB_FUNCTIONS_FROM_STRING
  request := ParcelAction.attempt data .UEC_INTERFACE_WRITE_PARCEL_ERROR .string funcs
  failed _ := .UEC_INTERFACE_INVALID_VALUE
  reply := ParcelAction.takeUnchecked data .int32 INVALID_USB_INT_VALUE

def INVALID_STRING_VALUE : String := ""

def usbFunctionsToString (funcs : Int32) : Exchange β String Unit String where
  noRemote := INVALID_STRING_VALUE
  noToken := INVALID_STRING_VALUE
  code := .USB_FUN_USB_FUNCTIONS_TO_STRING
  request := ParcelAction.attempt data INVALID_STRING_VALUE .int32 funcs
  failed _ := INVALID_STRING_VALUE
  reply := ParcelAction.take data INVALID_STRING_VALUE .string

/-- `ParseUsbPort`: `ReadInt32()` is 0 where it fails. -/
def parseUsbPort : ParcelAction β (List UsbPort) Uec Unit := do
  let id ← ParcelAction.take data .UEC_INTERFACE_READ_PARCEL_ERROR .int32
  let supportedModes ← ParcelAction.takeUnchecked data .int32 0
  let currentMode ← ParcelAction.takeUnchecked data .int32 0
  let currentPowerRole ← ParcelAction.takeUnchecked data .int32 0
  let currentDataRole ← ParcelAction.takeUnchecked data .int32 0
  let usbPortStatus := { currentMode := currentMode, currentPowerRole := currentPowerRole,
                         currentDataRole := currentDataRole }
  let port := { id := id, supportedModes := supportedModes, usbPortStatus := usbPortStatus }
  ParcelAction.update fun ports => ports ++ [port]

def getPorts : Exchange β Uec (List UsbPort) Unit where
  noRemote := .UEC_INTERFACE_INVALID_VALUE
  noToken := .UEC_INTERFACE_WRITE_PARCEL_ERROR
  code := .USB_FUN_GET_PORTS
  failed := id
  reply := do
    let size ← ParcelAction.take data .UEC_INTERFACE_READ_PARCEL_ERROR .int32
    ParcelAction.times (parseUsbPort data) size.toInt.toNat

def getSupportedModes (portId : Int32) : Exchange β Uec Int32 Unit where
  noRemote := .UEC_INTERFACE_INVALID_VALUE
  noToken := .UEC_INTERFACE_WRITE_PARCEL_ERROR
  code := .USB_FUN_GET_SUPPORTED_MODES
  request := ParcelAction.attempt data .UEC_INTERFACE_WRITE_PARCEL_ERROR .int32 portId
  failed := id
  reply := do
    let supportedModes ← ParcelAction.take data .UEC_INTERFACE_READ_PARCEL_ERROR .int32
    ParcelAction.update fun _ => supportedModes

def setPortRole (portId powerRole dataRole : Int32) : Exchange β Uec Unit Unit where
  noRemote := .UEC_INTERFACE_INVALID_VALUE
  noToken := .UEC_INTERFACE_WRITE_PARCEL_ERROR
  code := .USB_FUN_SET_PORT_ROLE
  request := do
    ParcelAction.attempt data .UEC_INTERFACE_WRITE_PARCEL_ERROR .int32 portId
    ParcelAction.attempt data .UEC_INTERFACE_WRITE_PARCEL_ERROR .int32 powerRole
    ParcelAction.attempt data .UEC_INTERFACE_WRITE_PARCEL_ERROR .int32 dataRole
  failed := id
  reply := pure ()

/-! ## Transfers -/

/-- What the methods of this section have in common.  The result of
`SetDeviceMessage` is ignored. -/
def onDevice {δ : Type} (busNum devAddr : UInt8) (code : IUsbSrv.Fun)
    (request : ParcelAction β (List Bool) Uec Unit) (reply : ParcelAction β δ Uec Unit) :
    Exchange β Uec δ Unit where
  noRemote := .UEC_SERVICE_INNER_ERR
  noToken := .ERR_ENOUGH_DATA
  code := code
  request := do
    ParcelAction.ignore (setDeviceMessage data busNum devAddr)
    request
  failed := id
  reply := reply

def claimInterface (busNum devAddr interface force : UInt8) : Exchange β Uec Unit Unit :=
  onDevice data busNum devAddr .USB_FUN_CLAIM_INTERFACE
    (do
      writeParcelWithRet data .uint8 interface
      writeParcelWithRet data .uint8 force)
    (pure ())

def releaseInterface (busNum devAddr interface : UInt8) : Exchange β Uec Unit Unit :=
  onDevice data busNum devAddr .USB_FUN_RELEASE_INTERFACE
    (writeParcelWithRet data .uint8 interface) (pure ())

def bulkTransferRead (dev : UsbDev) (pipe : UsbPipe) (timeOut : Int32) :
    Exchange β Uec (List UInt8) Unit :=
  onDevice data dev.busNum dev.devAddr .USB_FUN_BULK_TRANSFER_READ
    (do
      writeParcelWithRet data .uint8 pipe.interfaceId
      writeParcelWithRet data .uint8 pipe.endpointId
      writeParcelWithRet data .int32 timeOut)
    (getBufferMessage data)

def bulkTransferWrite (dev : UsbDev) (pipe : UsbPipe) (bufferData : List UInt8)
    (timeOut : Int32) : Exchange β Uec Unit Unit :=
  onDevice data dev.busNum dev.devAddr .USB_FUN_BULK_TRANSFER_WRITE
    (do
      writeParcelWithRet data .uint8 pipe.interfaceId
      writeParcelWithRet data .uint8 pipe.endpointId
      writeParcelWithRet data .int32 timeOut
      setBufferMessage (writeParcelWithRet data) bufferData)
    (pure ())

def controlTransfer (dev : UsbDev) (ctrl : UsbCtrlTransfer) (bufferData : List UInt8) :
    Exchange β Uec (List UInt8) Unit :=
  { onDevice data dev.busNum dev.devAddr .USB_FUN_CONTROL_TRANSFER
      (do
        writeParcelWithRet data .int32 ctrl.requestType
        writeParcelWithRet data .int32 ctrl.requestCmd
        writeParcelWithRet data .int32 ctrl.value
        writeParcelWithRet data .int32 ctrl.index
        writeParcelWithRet data .int32 ctrl.timeout
        setBufferMessage (writeParcelWithRet data) bufferData)
      (if ¬ isWrite ctrl.requestType then getBufferMessage data else pure ()) with
    noToken := .UEC_SERVICE_INNER_ERR }

def setActiveConfig (busNum devAddr configIndex : UInt8) : Exchange β Uec Unit Unit :=
  onDevice data busNum devAddr .USB_FUN_SET_ACTIVE_CONFIG
    (writeParcelWithRet data .uint8 configIndex) (pure ())

def getActiveConfig (busNum devAddr : UInt8) : Exchange β Uec UInt8 Unit :=
  onDevice data busNum devAddr .USB_FUN_GET_ACTIVE_CONFIG (pure ())
    (do
      let configIndex ← ParcelAction.take data .UEC_SERVICE_WRITE_PARCEL_ERROR .uint8
      ParcelAction.update fun _ => configIndex)

def setInterface (busNum devAddr interfaceid altIndex : UInt8) : Exchange β Uec Unit Unit :=
  onDevice data busNum devAddr .USB_FUN_SET_INTERFACE
    (do
      writeParcelWithRet data .uint8 interfaceid
      writeParcelWithRet data .uint8 altIndex)
    (pure ())

def getRawDescriptor (busNum devAddr : UInt8) : Exchange β Uec (List UInt8) Unit :=
  onDevice data busNum devAddr .USB_FUN_GET_DESCRIPTOR (pure ()) (getBufferMessage data)

def getFileDescriptor (busNum devAddr : UInt8) : Exchange β Uec Int32 Unit :=
  onDevice data busNum devAddr .USB_FUN_GET_FILEDESCRIPTOR (pure ())
    (do
      let fd ← ParcelAction.take data .UEC_INTERFACE_READ_PARCEL_ERROR .int32
      ParcelAction.update fun _ => fd)

/-! ## Requests -/

def requestQueue (dev : UsbDev) (pipe : UsbPipe) (clientData bufferData : List UInt8) :
    Exchange β Uec Unit Unit :=
  onDevice data dev.busNum dev.devAddr .USB_FUN_REQUEST_QUEUE
    (do
      writeParcelWithRet data .uint8 pipe.interfaceId
      writeParcelWithRet data .uint8 pipe.endpointId
      ParcelAction.withError .ERR_INVALID_VALUE
        (setBufferMessage (writeParcelWithRet data) clientData)
      ParcelAction.withError .ERR_INVALID_VALUE
        (setBufferMessage (writeParcelWithRet data) bufferData))
    (pure ())

/-- The output arguments are `clientData` and `bufferData`. -/
def requestWait (dev : UsbDev) (timeOut : Int32) :
    Exchange β Uec (List UInt8 × List UInt8) Unit :=
  onDevice data dev.busNum dev.devAddr .USB_FUN_REQUEST_WAIT
    (writeParcelWithRet data .int32 timeOut)
    (do
      ParcelAction.within Prod.fst (fun clientData out => (clientData, out.2))
        (getBufferMessage data)
      ParcelAction.within Prod.snd (fun bufferData out => (out.1, bufferData))
        (getBufferMessage data))

def requestCancel (busNum devAddr interfaceid endpointId : UInt8) : Exchange β Uec Unit Unit :=
  onDevice data busNum devAddr .USB_FUN_REQUEST_CANCEL
    (do
      writeParcelWithRet data .uint8 interfaceid
      writeParcelWithRet data .uint8 endpointId)
    (pure ())

def close (busNum devAddr : UInt8) : Exchange β Uec Unit Unit :=
  onDevice data busNum devAddr .USB_FUN_CLOSE_DEVICE (pure ()) (pure ())

/-! ## Asynchronous transfers -/

/-- The writes of the five methods of this section. -/
def writePipe (pipe : UsbPipe) : ParcelAction β (List Bool) Uec Unit := do
  writeParcelWithRet data .uint8 pipe.interfaceId
  writeParcelWithRet data .uint8 pipe.endpointId

def regBulkCallback (dev : UsbDev) (pipe : UsbPipe) (cb : Option Nat) :
    Exchange β Uec Unit Unit :=
  onDevice data dev.busNum dev.devAddr .USB_FUN_REG_BULK_CALLBACK
    (do
      writePipe data pipe
      writeObjectWithRet data .remoteObject cb)
    (pure ())

def unRegBulkCallback (dev : UsbDev) (pipe : UsbPipe) : Exchange β Uec Unit Unit :=
  onDevice data dev.busNum dev.devAddr .USB_FUN_UNREG_BULK_CALLBACK (writePipe data pipe) (pure ())

def bulkRead (dev : UsbDev) (pipe : UsbPipe) (ashmem : Option Nat) : Exchange β Uec Unit Unit :=
  onDevice data dev.busNum dev.devAddr .USB_FUN_BULK_AYSNC_READ
    (do
      writePipe data pipe
      writeObjectWithRet data .ashmem ashmem)
    (pure ())

def bulkWrite (dev : UsbDev) (pipe : UsbPipe) (ashmem : Option Nat) : Exchange β Uec Unit Unit :=
  onDevice data dev.busNum dev.devAddr .USB_FUN_BULK_AYSNC_WRITE
    (do
      writePipe data pipe
      writeObjectWithRet data .ashmem ashmem)
    (pure ())

def bulkCancel (dev : UsbDev) (pipe : UsbPipe) : Exchange β Uec Unit Unit :=
  onDevice data dev.busNum dev.devAddr .USB_FUN_BULK_AYSNC_CANCEL (writePipe data pipe) (pure ())

end

/-! ## The proxy as an implementation of the interface -/

section

variable {β σ : Type} (data : MessageParcel β) (junk : Uninitialised)
  (remote : Option (Remote β σ)) (outcomes : List Bool)

/-- Carry out a method that returns a result code; its output arguments are a
part of the caller's variables. -/
def returnRet {δ : Type} (x : Exchange β Uec δ Unit) (get : SrvReply → δ)
    (set : δ → SrvReply → SrvReply) (vars : SrvReply) (s : σ) : SrvReply × σ :=
  let ((result, out), s) := x.run data remote outcomes (get vars) s
  ({ set out vars with ret := retOf result }, s)

/-- Carry out a method without output arguments. -/
def returnOnly (x : Exchange β Uec Unit Unit) : SrvReply → σ → SrvReply × σ :=
  returnRet data remote outcomes x (fun _ => ()) (fun _ vars => vars)

/-- The output argument `bufferData`. -/
def setBuffer (bufferData : List UInt8) (vars : SrvReply) : SrvReply := { vars with bufferData }

/-- The output argument of type `int32_t`. -/
def setValue (value : Int32) (vars : SrvReply) : SrvReply := { vars with value }

/-- The methods with a device.  `vars` are the variables the caller passes for
the output arguments. -/
def performOnDevice : DeviceRequest → SrvReply → σ → SrvReply × σ
  | .openDevice busNum devAddr => returnOnly data remote outcomes (openDevice data busNum devAddr)
  | .claimInterface busNum devAddr interface force =>
    returnOnly data remote outcomes (claimInterface data busNum devAddr interface force)
  | .releaseInterface busNum devAddr interface =>
    returnOnly data remote outcomes (releaseInterface data busNum devAddr interface)
  | .bulkTransferRead dev pipe timeOut =>
    returnRet data remote outcomes (bulkTransferRead data dev pipe timeOut) SrvReply.bufferData
      setBuffer
  | .bulkTransferWrite dev pipe bufferData timeOut =>
    returnOnly data remote outcomes (bulkTransferWrite data dev pipe bufferData timeOut)
  | .controlTransfer dev ctrl bufferData =>
    returnRet data remote outcomes (controlTransfer data dev ctrl bufferData)
      (fun _ => bufferData) setBuffer
  | .setActiveConfig busNum devAddr configIndex =>
    returnOnly data remote outcomes (setActiveConfig data busNum devAddr configIndex)
  | .getActiveConfig busNum devAddr =>
    returnRet data remote outcomes (getActiveConfig data busNum devAddr) SrvReply.configIndex
      (fun configIndex vars => { vars with configIndex })
  | .setInterface busNum devAddr interfaceid altIndex =>
    returnOnly data remote outcomes (setInterface data busNum devAddr interfaceid altIndex)
  | .getRawDescriptor busNum devAddr =>
    returnRet data remote outcomes (getRawDescriptor data busNum devAddr) SrvReply.bufferData
      setBuffer
  | .getFileDescriptor busNum devAddr =>
    returnRet data remote outcomes (getFileDescriptor data busNum devAddr) SrvReply.value setValue
  | .requestQueue dev pipe clientData bufferData =>
    returnOnly data remote outcomes (requestQueue data dev pipe clientData bufferData)
  | .requestWait dev timeOut =>
    returnRet data remote outcomes (requestWait data dev timeOut)
      (fun vars => (vars.clientData, vars.bufferData))
      (fun out vars => { vars with clientData := out.1, bufferData := out.2 })
  | .requestCancel busNum devAddr interfaceid endpointId =>
    returnOnly data remote outcomes (requestCancel data busNum devAddr interfaceid endpointId)
  | .close busNum devAddr => returnOnly data remote outcomes (close data busNum devAddr)
  | .regBulkCallback dev pipe cb =>
    returnOnly data remote outcomes (regBulkCallback data dev pipe cb)
  | .unRegBulkCallback dev pipe => returnOnly data remote outcomes (unRegBulkCallback data dev pipe)
  | .bulkRead dev pipe ashmem => returnOnly data remote outcomes (bulkRead data dev pipe ashmem)
  | .bulkWrite dev pipe ashmem => returnOnly data remote outcomes (bulkWrite data dev pipe ashmem)
  | .bulkCancel dev pipe => returnOnly data remote outcomes (bulkCancel data dev pipe)

/-- The value that is returned, from an error or not. -/
def valueOf {α : Type} : Except α α → α
  | .ok a => a
  | .error a => a

/-- All methods.  An error of `UsbFunctionsFromString` is left in `ret`. -/
def perform : SrvCall → SrvReply → σ → SrvReply × σ
  | .hasRight deviceName, vars, s =>
    let ((result, _), s) := (hasRight data deviceName).run data remote outcomes () s
    ({ vars with flag := valueOf result }, s)
  | .requestRight deviceName, vars, s =>
    returnOnly data remote outcomes (requestRight data deviceName) vars s
  | .removeRight deviceName, vars, s =>
    returnOnly data remote outcomes (removeRight data deviceName) vars s
  | .getDevices, vars, s =>
    returnRet data remote outcomes (getDevices data junk) SrvReply.deviceList
      (fun deviceList vars => { vars with deviceList }) vars s
  | .getCurrentFunctions, vars, s =>
    returnRet data remote outcomes (getCurrentFunctions data) SrvReply.value setValue vars s
  | .setCurrentFunctions funcs, vars, s =>
    returnOnly data remote outcomes (setCurrentFunctions data funcs) vars s
  | .usbFunctionsFromString funcs, vars, s =>
    let ((result, _), s) := (usbFunctionsFromString data funcs).run data remote outcomes () s
    match result with
    | .ok value => ({ vars with ret := .UEC_OK, value }, s)
    | .error ret => ({ vars with ret }, s)
  | .usbFunctionsToString funcs, vars, s =>
    let ((result, _), s) := (usbFunctionsToString data funcs).run data remote outcomes () s
    ({ vars with text := valueOf result }, s)
  | .getPorts, vars, s =>
    returnRet data remote outcomes (getPorts data) SrvReply.ports
      (fun ports vars => { vars with ports }) vars s
  | .getSupportedModes portId, vars, s =>
    returnRet data remote outcomes (getSupportedModes data portId) SrvReply.value setValue vars s
  | .setPortRole portId powerRole dataRole, vars, s =>
    returnOnly data remote outcomes (setPortRole data portId powerRole dataRole) vars s
  | .onDevice request, vars, s => performOnDevice data remote outcomes request vars s

end

end UsbServerProxy

end UsbManager

import UsbManager.Proxy

/-!
# `usb_srv_stub.cpp`

`UsbServerStub` answers requests: it reads the arguments of a method from the
request parcel, invokes the method of the service and writes its outcome to the
reply parcel.  A handler `Do...` is an action on the request parcel.  Its
out-parameter `Serving` has the other things it works on: the reply parcel, the
state of the service and the calls of it that were made.

`IPCObjectStub::OnRemoteRequest`, which is outside the repository, is the
parameter `base`; it answers what no handler does and knows no service.
-/

namespace UsbManager

/-- What a handler works on besides the request parcel. -/
structure Serving (β σ : Type) where
  state : σ
  calls : List SrvCall := []
  reply : List β := []
  deriving Repr

/-- `IPCObjectStub::OnRemoteRequest`: from the code, the request and the reply, the
result code and the reply. -/
abbrev IPCObjectStub (β : Type) := UInt32 → List β → List β → Uec × List β

namespace UsbServerStub

section

variable {β σ : Type} (data : MessageParcel β) (service : IUsbSrv σ) (base : IPCObjectStub β)

/-- A handler; its steps have results of type `α`. -/
abbrev Handler (β σ α : Type) := ParcelAction β (Serving β σ) Uec α

/-- Call a method of the service. -/
def invoke (call : SrvCall) : Handler β σ SrvReply :=
  fun out data =>
    let (reply, state) := service call out.state
    (.ok reply, { out with state, calls := out.calls ++ [call] }, data)

/-- Stop with any result code but `UEC_OK`. -/
def returnUnlessOk (ret : Uec) : Handler β σ Unit :=
  if ret ≠ .UEC_OK then ParcelAction.fail ret else pure ()

/-- Write to the reply parcel. -/
def onReply (act : ParcelAction β Unit Uec Unit) : Handler β σ Unit :=
  fun out data =>
    match act () out.reply with
    | (result, _, reply) => (result, { out with reply }, data)

/-- `SetBufferMessage` -/
def setBufferMessage (bufferData : List UInt8) : ParcelAction β Unit Uec Unit :=
  UsbManager.setBufferMessage (writeParcelWithRet data) bufferData

/-- `READ_PARCEL_WITH_RET` with `UEC_SERVICE_READ_PARCEL_ERROR` -/
def readParcelWithRet (t : ParcelType) : Handler β σ t.Value :=
  ParcelAction.take data .UEC_SERVICE_READ_PARCEL_ERROR t

/-- `READ_PARCEL_WITH_RET` with `UEC_SERVICE_WRITE_PARCEL_ERROR`, which many
handlers return where a read fails. -/
def readParcelWithWriteRet (t : ParcelType) : Handler β σ t.Value :=
  ParcelAction.take data .UEC_SERVICE_WRITE_PARCEL_ERROR t

/-- `GetBufferMessage` into a buffer of its own. -/
def readBuffer : Handler β σ (List UInt8) :=
  ParcelAction.checked [] (getBufferMessage data)

/-! ## Functions, rights and ports -/

def doGetCurrentFunctions : Handler β σ Unit := do
  let reply ← invoke service .getCurrentFunctions
  returnUnlessOk reply.ret
  onReply (writeParcelWithRet data .int32 reply.value)

def doSetCurrentFunctions : Handler β σ Unit := do
  let funcs ← readParcelWithRet data .int32
  let reply ← invoke service (.setCurrentFunctions funcs)
  returnUnlessOk reply.ret

def doUsbFunctionsFromString : Handler β σ Unit := do
  let funcs ← readParcelWithRet data .string
  let reply ← invoke service (.usbFunctionsFromString funcs)
  onReply (writeParcelWithRet data .int32 reply.value)

def doUsbFunctionsToString : Handler β σ Unit := do
  let funcs ← readParcelWithRet data .int32
  let reply ← invoke service (.usbFunctionsToString funcs)
  onReply (writeParcelWithRet data .string reply.text)

def doOpenDevice : Handler β σ Unit := do
  let busNum ← readParcelWithRet data .uint8
  let devAddr ← readParcelWithRet data .uint8
  let reply ← invoke service (.onDevice (.openDevice busNum devAddr))
  returnUnlessOk reply.ret

def doHasRight : Handler β σ Unit := do
  let deviceName ← readParcelWithRet data .string
  let reply ← invoke service (.hasRight deviceName)
  onReply (writeParcelWithRet data .bool reply.flag)

def doRequestRight : Handler β σ Unit := do
  let deviceName ← readParcelWithRet data .string
  let reply ← invoke service (.requestRight deviceName)
  returnUnlessOk reply.ret

def doRemoveRight : Handler β σ Unit := do
  let deviceName ← readParcelWithRet data .string
  let reply ← invoke service (.removeRight deviceName)
  returnUnlessOk reply.ret

def writeUsbPort (port : UsbPort) : ParcelAction β Unit Uec Unit := do
  writeParcelWithRet data .int32 port.id
  writeParcelWithRet data .int32 port.supportedModes
  writeParcelWithRet data .int32 port.usbPortStatus.currentMode
  writeParcelWithRet data .int32 port.usbPortStatus.currentPowerRole
  writeParcelWithRet data .int32 port.usbPortStatus.currentDataRole

/-- The `uint32_t` size is written as an `int32_t`. -/
def doGetPorts : Handler β σ Unit := do
  let reply ← invoke service .getPorts
  returnUnlessOk reply.ret
  let size := UInt32.ofNat reply.ports.length
  onReply (writeParcelWithRet data .int32 size.toInt32)
  onReply (ParcelAction.forEach (writeUsbPort data) (reply.ports.take size.toNat))

def doGetSupportedModes : Handler β σ Unit := do
  let portId ← readParcelWithRet data .int32
  let reply ← invoke service (.getSupportedModes portId)
  returnUnlessOk reply.ret
  onReply (writeParcelWithRet data .int32 reply.value)

def doSetPortRole : Handler β σ Unit := do
  let portId ← readParcelWithRet data .int32
  let powerRole ← readParcelWithRet data .int32
  let dataRole ← readParcelWithRet data .int32
  let reply ← invoke service (.setPortRole portId powerRole dataRole)
  returnUnlessOk reply.ret

/-! ## Transfers -/

def doClaimInterface : Handler β σ Unit := do
  let busNum ← readParcelWithRet data .uint8
  let devAddr ← readParcelWithRet data .uint8
  let interface ← readParcelWithRet data .uint8
  let force ← readParcelWithRet data .uint8
  let reply ← invoke service (.onDevice (.claimInterface busNum devAddr interface force))
  returnUnlessOk reply.ret

def doReleaseInterface : Handler β σ Unit := do
  let busNum ← readParcelWithRet data .uint8
  let devAddr ← readParcelWithRet data .uint8
  let interface ← readParcelWithRet data .uint8
  let reply ← invoke service (.onDevice (.releaseInterface busNum devAddr interface))
  returnUnlessOk reply.ret

def doBulkTransferRead : Handler β σ Unit := do
  let busNum ← readParcelWithWriteRet data .uint8
  let devAddr ← readParcelWithWriteRet data .uint8
  let interface ← readParcelWithWriteRet data .uint8
  let endpoint ← readParcelWithWriteRet data .uint8
  let timeOut ← readParcelWithWriteRet data .int32
  let reply ← invoke service
    (.onDevice (.bulkTransferRead ⟨busNum, devAddr⟩ ⟨interface, endpoint⟩ timeOut))
  returnUnlessOk reply.ret
  onReply (setBufferMessage data reply.bufferData)

def doBulkTransferWrite : Handler β σ Unit := do
  let busNum ← readParcelWithWriteRet data .uint8
  let devAddr ← readParcelWithWriteRet data .uint8
  let interface ← readParcelWithWriteRet data .uint8
  let endpoint ← readParcelWithWriteRet data .uint8
  let timeOut ← readParcelWithWriteRet data .int32
  let bufferData ← readBuffer data
  let reply ← invoke service
    (.onDevice (.bulkTransferWrite ⟨busNum, devAddr⟩ ⟨interface, endpoint⟩ bufferData timeOut))
  returnUnlessOk reply.ret

/-- A failure to write the buffer to the reply is ignored. -/
def doControlTransfer : Handler β σ Unit := do
  let busNum ← readParcelWithWriteRet data .uint8
  let devAddr ← readParcelWithWriteRet data .uint8
  let requestType ← readParcelWithWriteRet data .int32
  let request ← readParcelWithWriteRet data .int32
  let value ← readParcelWithWriteRet data .int32
  let index ← readParcelWithWriteRet data .int32
  let timeOut ← readParcelWithWriteRet data .int32
  let bufferData ← readBuffer data
  let bWrite := isWrite requestType
  let reply ← invoke service
    (.onDevice (.controlTransfer ⟨busNum, devAddr⟩ ⟨requestType, request, value, index, timeOut⟩
      bufferData))
  returnUnlessOk reply.ret
  if ¬ bWrite then ParcelAction.ignore (onReply (setBufferMessage data reply.bufferData))
  else pure ()

def doSetActiveConfig : Handler β σ Unit := do
  let busNum ← readParcelWithWriteRet data .uint8
  let devAddr ← readParcelWithWriteRet data .uint8
  let config ← readParcelWithWriteRet data .uint8
  let reply ← invoke service (.onDevice (.setActiveConfig busNum devAddr config))
  returnUnlessOk reply.ret

/-- No request code leads to this handler. -/
def doGetActiveConfig : Handler β σ Unit := do
  let busNum ← readParcelWithWriteRet data .uint8
  let devAddr ← readParcelWithWriteRet data .uint8
  let reply ← invoke service (.onDevice (.getActiveConfig busNum devAddr))
  returnUnlessOk reply.ret
  onReply (writeParcelWithRet data .uint8 reply.configIndex)

def doSetInterface : Handler β σ Unit := do
  let busNum ← readParcelWithWriteRet data .uint8
  let devAddr ← readParcelWithWriteRet data .uint8
  let interfaceId ← readParcelWithWriteRet data .uint8
  let altIndex ← readParcelWithWriteRet data .uint8
  let reply ← invoke service (.onDevice (.setInterface busNum devAddr interfaceId altIndex))
  returnUnlessOk reply.ret

def doGetRawDescriptor : Handler β σ Unit := do
  let busNum ← readParcelWithWriteRet data .uint8
  let devAddr ← readParcelWithWriteRet data .uint8
  let reply ← invoke service (.onDevice (.getRawDescriptor busNum devAddr))
  returnUnlessOk reply.ret
  onReply (setBufferMessage data reply.bufferData)

def doGetFileDescriptor : Handler β σ Unit := do
  let busNum ← readParcelWithWriteRet data .uint8
  let devAddr ← readParcelWithWriteRet data .uint8
  let reply ← invoke service (.onDevice (.getFileDescriptor busNum devAddr))
  returnUnlessOk reply.ret
  onReply (writeParcelWithRet data .int32 reply.value)

/-! ## Requests -/

def doRequestQueue : Handler β σ Unit := do
  let busNum ← readParcelWithWriteRet data .uint8
  let devAddr ← readParcelWithWriteRet data .uint8
  let ifId ← readParcelWithWriteRet data .uint8
  let endpoint ← readParcelWithWriteRet data .uint8
  let clientData ← readBuffer data
  let bufferData ← readBuffer data
  let reply ← invoke service
    (.onDevice (.requestQueue ⟨busNum, devAddr⟩ ⟨ifId, endpoint⟩ clientData bufferData))
  returnUnlessOk reply.ret

def doRequestWait : Handler β σ Unit := do
  let busNum ← readParcelWithWriteRet data .uint8
  let devAddr ← readParcelWithWriteRet data .uint8
  let timeOut ← readParcelWithWriteRet data .int32
  let reply ← invoke service (.onDevice (.requestWait ⟨busNum, devAddr⟩ timeOut))
  returnUnlessOk reply.ret
  onReply (setBufferMessage data reply.clientData)
  onReply (setBufferMessage data reply.bufferData)

def doRequestCancel : Handler β σ Unit := do
  let busNum ← readParcelWithWriteRet data .uint8
  let devAddr ← readParcelWithWriteRet data .uint8
  let interfaceId ← readParcelWithWriteRet data .uint8
  let endpointId ← readParcelWithWriteRet data .uint8
  let reply ← invoke service (.onDevice (.requestCancel busNum devAddr interfaceId endpointId))
  returnUnlessOk reply.ret

def doClose : Handler β σ Unit := do
  let busNum ← readParcelWithWriteRet data .uint8
  let devAddr ← readParcelWithWriteRet data .uint8
  let reply ← invoke service (.onDevice (.close busNum devAddr))
  returnUnlessOk reply.ret

def doGetDevices : Handler β σ Unit := do
  let reply ← invoke service .getDevices
  returnUnlessOk reply.ret
  onReply (setDeviceListMessageParcel data reply.deviceList)

/-! ## Asynchronous transfers -/

/-- A missing callback object is passed on as a null pointer. -/
def doRegBulkCallback : Handler β σ Unit := do
  let busNum ← readParcelWithWriteRet data .uint8
  let devAddr ← readParcelWithWriteRet data .uint8
  let interface ← readParcelWithWriteRet data .uint8
  let endpoint ← readParcelWithWriteRet data .uint8
  let cb ← ParcelAction.takeOption data .remoteObject
  let reply ← invoke service
    (.onDevice (.regBulkCallback ⟨busNum, devAddr⟩ ⟨interface, endpoint⟩ cb))
  returnUnlessOk reply.ret

def doUnRegBulkCallback : Handler β σ Unit := do
  let busNum ← readParcelWithWriteRet data .uint8
  let devAddr ← readParcelWithWriteRet data .uint8
  let interface ← readParcelWithWriteRet data .uint8
  let endpoint ← readParcelWithWriteRet data .uint8
  let reply ← invoke service
    (.onDevice (.unRegBulkCallback ⟨busNum, devAddr⟩ ⟨interface, endpoint⟩))
  returnUnlessOk reply.ret

def doBulkRead : Handler β σ Unit := do
  let busNum ← readParcelWithWriteRet data .uint8
  let devAddr ← readParcelWithWriteRet data .uint8
  let interface ← readParcelWithWriteRet data .uint8
  let endpoint ← readParcelWithWriteRet data .uint8
  let ashmem ← ParcelAction.takeOption data .ashmem
  let reply ← invoke service
    (.onDevice (.bulkRead ⟨busNum, devAddr⟩ ⟨interface, endpoint⟩ ashmem))
  returnUnlessOk reply.ret

def doBulkWrite : Handler β σ Unit := do
  let busNum ← readParcelWithWriteRet data .uint8
  let devAddr ← readParcelWithWriteRet data .uint8
  let interface ← readParcelWithWriteRet data .uint8
  let endpoint ← readParcelWithWriteRet data .uint8
  let ashmem ← ParcelAction.takeOption data .ashmem
  let reply ← invoke service
    (.onDevice (.bulkWrite ⟨busNum, devAddr⟩ ⟨interface, endpoint⟩ ashmem))
  returnUnlessOk reply.ret

def doBulkCancel : Handler β σ Unit := do
  let busNum ← readParcelWithWriteRet data .uint8
  let devAddr ← readParcelWithWriteRet data .uint8
  let interface ← readParcelWithWriteRet data .uint8
  let endpoint ← readParcelWithWriteRet data .uint8
  let reply ← invoke service
    (.onDevice (.bulkCancel ⟨busNum, devAddr⟩ ⟨interface, endpoint⟩))
  returnUnlessOk reply.ret

/-! ## Dispatch -/

/-- `StubDevice` -/
def stubDevice : IUsbSrv.Fun → Option (Handler β σ Unit)
  | .USB_FUN_OPEN_DEVICE => some (doOpenDevice data service)
  | .USB_FUN_HAS_RIGHT => some (doHasRight data service)
  | .USB_FUN_REQUEST_RIGHT => some (doRequestRight data service)
  | .USB_FUN_REMOVE_RIGHT => some (doRemoveRight data service)
  | .USB_FUN_GET_PORTS => some (doGetPorts data service)
  | .USB_FUN_GET_SUPPORTED_MODES => some (doGetSupportedModes data service)
  | .USB_FUN_SET_PORT_ROLE => some (doSetPortRole data service)
  | .USB_FUN_CLAIM_INTERFACE => some (doClaimInterface data service)
  | .USB_FUN_RELEASE_INTERFACE => some (doReleaseInterface data service)
  | .USB_FUN_BULK_TRANSFER_READ => some (doBulkTransferRead data service)
  | .USB_FUN_BULK_TRANSFER_WRITE => some (doBulkTransferWrite data service)
  | .USB_FUN_CONTROL_TRANSFER => some (doControlTransfer data service)
  | .USB_FUN_REG_BULK_CALLBACK => some (doRegBulkCallback data service)
  | .USB_FUN_UNREG_BULK_CALLBACK => some (doUnRegBulkCallback data service)
  | .USB_FUN_GET_FILEDESCRIPTOR => some (doGetFileDescriptor data service)
  | _ => none

/-- `StubHost` -/
def stubHost : IUsbSrv.Fun → Option (Handler β σ Unit)
  | .USB_FUN_GET_DEVICES => some (doGetDevices data service)
  | .USB_FUN_GET_CURRENT_FUNCTIONS => some (doGetCurrentFunctions data service)
  | .USB_FUN_SET_CURRENT_FUNCTIONS => some (doSetCurrentFunctions data service)
  | .USB_FUN_USB_FUNCTIONS_FROM_STRING => some (doUsbFunctionsFromString data service)
  | .USB_FUN_USB_FUNCTIONS_TO_STRING => some (doUsbFunctionsToString data service)
  | .USB_FUN_CLOSE_DEVICE => some (doClose data service)
  | .USB_FUN_REQUEST_QUEUE => some (doRequestQueue data service)
  | .USB_FUN_REQUEST_WAIT => some (doRequestWait data service)
  | .USB_FUN_SET_INTERFACE => some (doSetInterface data service)
  | .USB_FUN_SET_ACTIVE_CONFIG => some (doSetActiveConfig data service)
  | .USB_FUN_REQUEST_CANCEL => some (doRequestCancel data service)
  | .USB_FUN_BULK_AYSNC_READ => some (doBulkRead data service)
  | .USB_FUN_BULK_AYSNC_WRITE => some (doBulkWrite data service)
  | .USB_FUN_BULK_AYSNC_CANCEL => some (doBulkCancel data service)
  | .USB_FUN_GET_DESCRIPTOR => some (doGetRawDescriptor data service)
  | _ => none

/-- The base class answers. -/
def onBase (code : UInt32) : Handler β σ Unit := fun out data =>
  match base code data out.reply with
  | (.UEC_OK, reply) => (.ok (), { out with reply }, data)
  | (ret, reply) => (.error ret, { out with reply }, data)

/-- The handler of a request code. -/
def handler (code : UInt32) : Handler β σ Unit :=
  match IUsbSrv.Fun.ofCode code with
  | none => onBase base code
  | some f =>
    match stubHost data service f with
    | some host => host
    | none =>
      match stubDevice data service f with
      | some device => device
      | none => onBase base code

/-- `OnRemoteRequest`: `ReadInterfaceToken` is the empty string where it fails. -/
def onRemoteRequest (code : UInt32) : Handler β σ Unit := do
  let remoteDescriptor ← ParcelAction.takeUnchecked data .interfaceToken ""
  if IUsbSrv.descriptor ≠ remoteDescriptor then ParcelAction.fail .UEC_SERVICE_INNER_ERR
  else handler data service base code

end

end UsbServerStub

/-! ## The other side of a proxy -/

/-- The process of the service: the state of the service, the requests that
arrived and the calls they led to. -/
structure Far (β σ : Type) where
  state : σ
  requests : List (UInt32 × List β) := []
  calls : List SrvCall := []
  deriving Repr

/-- The result code, the reply parcel and the process after a handler has run. -/
def Far.after {β σ : Type} (far : Far β σ) (request : UInt32 × List β) :
    Except Uec Unit × Serving β σ × List β → (Uec × List β) × Far β σ
  | (result, out, _) => ((retOf result, out.reply),
    { state := out.state, requests := far.requests ++ [request], calls := out.calls })

/-- `SendRequest` returns the result code of the stub. -/
def UsbServerStub.sendRequest {β σ : Type} (data : MessageParcel β) (service : IUsbSrv σ)
    (base : IPCObjectStub β) : Remote β (Far β σ) := fun code message far =>
  far.after (code, message)
    (onRemoteRequest data service base code { state := far.state, calls := far.calls } message)

end UsbManager

import UsbManager.JsObjects
import UsbManager.Messages

/-!
# The functions of the JavaScript module

What each function asks of the client, with any values it is called with.  A function
tests the types of some of its arguments and gives up with an exception where one is
wrong.  Called with the objects that the module has given out it asks the service for
what the client would be asked with the devices, interfaces and endpoints themselves
(`asks_given`).
-/

namespace UsbManager.Js

/-- The functions that `UsbInit` declares, but for the one that returns the version. -/
inductive JsFunction where
  | getDevices
  | connectDevice
  | hasRight
  | requestRight
  | usbFunctionsFromString
  | usbFunctionsToString
  | setCurrentFunctions
  | getCurrentFunctions
  | getPorts
  | getSupportedModes
  | setPortRoles
  | claimInterface
  | releaseInterface
  | bulkTransfer
  | controlTransfer
  | setInterface
  | setConfiguration
  | getRawDescriptor
  | getFileDescriptor
  | closePipe
  deriving DecidableEq, Repr

namespace UsbInfo

open UsbManager.Js.NapiUtil

def STR_DEFAULT_SIZE : Int := 256

/-- `NAPI_ASSERT`: nothing is asked where it fails. -/
def napiAssert {α : Type} (assertion : Prop) [Decidable assertion] (rest : Native (Option α)) :
    Native (Option α) :=
  if assertion then rest
  else do
    Native.raise
    pure none

/-- An argument; one that is not given is undefined. -/
def argv (args : List JsValue) (index : Nat) : JsValue := args[index]?.getD .undefined

/-- The functions without arguments. -/
def withoutArguments (call : ClientCall) (args : List JsValue) : Native (Option ClientCall) :=
  napiAssert (args.length = 0) (pure (some call))

/-- The functions of a text. -/
def withText (engine : Engine) (call : String → ClientCall) (args : List JsValue) :
    Native (Option ClientCall) :=
  napiAssert (1 ≤ args.length) <|
  napiAssert ((argv args 0).type = .string) <|
  pure (some (call (jsValueToString engine (argv args 0) STR_DEFAULT_SIZE "")))

/-- The functions of a number. -/
def withNumber (call : Int32 → ClientCall) (args : List JsValue) : Native (Option ClientCall) :=
  napiAssert (1 ≤ args.length) <|
  napiAssert ((argv args 0).type = .number) <|
  pure (some (call ((argv args 0).int32.getD 0)))

def coreGetDevices : List JsValue → Native (Option ClientCall) := withoutArguments .getDevices

def coreGetCurrentFunctions : List JsValue → Native (Option ClientCall) :=
  withoutArguments .getCurrentFunctions

def coreGetPorts : List JsValue → Native (Option ClientCall) := withoutArguments .getPorts

def coreUsbFunctionsToString : List JsValue → Native (Option ClientCall) :=
  withNumber .usbFunctionsToString

def coreSetCurrentFunctions : List JsValue → Native (Option ClientCall) :=
  withNumber .setCurrentFunctions

def portGetSupportedModes : List JsValue → Native (Option ClientCall) :=
  withNumber .getSupportedModes

/-- The number of arguments is tested for the first only. -/
def portSetPortRole (args : List JsValue) : Native (Option ClientCall) :=
  napiAssert (1 ≤ args.length) <|
  napiAssert ((argv args 0).type = .number) <|
  napiAssert ((argv args 1).type = .number) <|
  napiAssert ((argv args 2).type = .number) <|
  pure (some (.setPortRole ((argv args 0).int32.getD 0) ((argv args 1).int32.getD 0)
    ((argv args 2).int32.getD 0)))

section

variable (engine : Engine)

def coreHasRight : List JsValue → Native (Option ClientCall) := withText engine .hasRight

def coreRequestRight : List JsValue → Native (Option ClientCall) := withText engine .requestRight

def coreUsbFunctionsFromString : List JsValue → Native (Option ClientCall) :=
  withText engine .usbFunctionsFromString

def coreConnectDevice (args : List JsValue) : Native (Option ClientCall) :=
  napiAssert (1 ≤ args.length) <|
  napiAssert ((argv args 0).type = .object) do
    let dev ← parseDeviceObj engine (argv args 0)
    pure (some (.openDevice dev))

/-- The functions of a pipe, with so many arguments. -/
def withPipe {α : Type} (count : Nat) (args : List JsValue)
    (rest : USBDevicePipe → Native (Option α)) : Native (Option α) :=
  napiAssert (count ≤ args.length) <|
  napiAssert ((argv args 0).type = .object) do
    let pipe ← parseUsbDevicePipe engine (argv args 0)
    rest pipe

def pipeClaimInterface (args : List JsValue) : Native (Option ClientCall) :=
  withPipe engine 2 args fun pipe =>
  napiAssert ((argv args 1).type = .object) do
    let interface ← parseInterfaceObj engine (argv args 1) {}
    if 3 ≤ args.length then
      match argv args 2 with
      | .boolean isForce => pure (some (.claimInterface pipe interface isForce))
      | _ => do
        Native.raise
        pure none
    else pure (some (.claimInterface pipe interface false))

/-- The type of the interface is not tested. -/
def pipeReleaseInterface (args : List JsValue) : Native (Option ClientCall) :=
  withPipe engine 2 args fun pipe => do
    let interface ← parseInterfaceObj engine (argv args 1) {}
    pure (some (.releaseInterface pipe interface))

def pipeSetInterface (args : List JsValue) : Native (Option ClientCall) :=
  withPipe engine 2 args fun pipe =>
  napiAssert ((argv args 1).type = .object) do
    let interface ← parseInterfaceObj engine (argv args 1) {}
    pure (some (.setInterface pipe interface))

def pipeSetConfiguration (args : List JsValue) : Native (Option ClientCall) :=
  withPipe engine 2 args fun pipe =>
  napiAssert ((argv args 1).type = .object) do
    let config ← parseConfigObj engine (argv args 1) {}
    pure (some (.setConfiguration pipe config))

def pipeGetRawDescriptors (args : List JsValue) : Native (Option ClientCall) :=
  withPipe engine 1 args fun pipe => pure (some (.getRawDescriptors pipe))

def pipeGetFileDescriptor (args : List JsValue) : Native (Option ClientCall) :=
  withPipe engine 1 args fun pipe => pure (some (.getFileDescriptor pipe))

def pipeClose (args : List JsValue) : Native (Option ClientCall) :=
  withPipe engine 1 args fun pipe => pure (some (.close pipe))

end

/-! ## Transfers -/

/-- The longest memory that `memcpy_s` copies to. -/
def SECUREC_MEM_MAX_LEN : Nat := 0x7fffffff

/-- `memcpy_s` copies nothing to a destination without a size. -/
def memcpyAllowed (destMax count : Nat) : Bool :=
  0 < destMax && destMax ≤ SECUREC_MEM_MAX_LEN && count ≤ destMax

/-- `JsUint8ArrayParse`: the elements of a typed array that is no `Uint8Array` are taken
for bytes, but the result is `false` then. -/
def jsUint8ArrayParse : JsValue → Bool × List UInt8
  | .typedArray value =>
    (value.uint8 && 0 < value.length, value.bytes.take value.length)
  | _ => (false, [])

structure PipeControlParam where
  request : Int32
  target : Int32
  reqType : UInt32
  value : Int32
  index : Int32
  data : List UInt8

/-- What a transfer works on: a copy of the data that is sent, the array itself where data
is received.  The length is a `uint32_t`. -/
structure USBBulkTransferAsyncContext where
  pipe : USBDevicePipe
  endpoint : USBEndpoint
  buffer : List UInt8
  bufferLength : UInt32
  timeOut : Int32

structure USBControlTransferAsyncContext where
  pipe : USBDevicePipe
  request : Int32
  target : Int32
  reqType : UInt32
  value : Int32
  index : Int32
  buffer : List UInt8
  bufferLength : UInt32
  timeOut : Int32

/-- The vector that is made of the buffer. -/
def vector (buffer : List UInt8) (bufferLength : UInt32) : List UInt8 :=
  buffer.take bufferLength.toNat

/-- What a transfer does with its buffer does not depend on which of the two it is: the
direction, the call of the client with a vector, the buffer and its length. -/
structure Transfer where
  direction : UInt32
  pipe : USBDevicePipe
  call : List UInt8 → ClientCall
  buffer : List UInt8
  bufferLength : UInt32

def USBBulkTransferAsyncContext.transfer (context : USBBulkTransferAsyncContext) : Transfer where
  direction := context.endpoint.getDirection
  pipe := context.pipe
  call bufferData := .bulkTransfer context.pipe context.endpoint bufferData context.timeOut
  buffer := context.buffer
  bufferLength := context.bufferLength

def USBControlTransferAsyncContext.tctrl (context : USBControlTransferAsyncContext) :
    UsbCtrlTransfer where
  requestType := context.reqType.toInt32
  requestCmd := context.request
  value := context.value
  index := context.index
  timeout := context.timeOut

def USBControlTransferAsyncContext.transfer (context : USBControlTransferAsyncContext) :
    Transfer where
  direction := context.reqType &&& USB_ENDPOINT_DIR_MASK
  pipe := context.pipe
  call bufferData := .controlTransfer context.pipe context.tctrl bufferData
  buffer := context.buffer
  bufferLength := context.bufferLength

/-- The call with what the buffer holds now. -/
def Transfer.asks (transfer : Transfer) : ClientCall :=
  transfer.call (vector transfer.buffer transfer.bufferLength)

section

variable (engine : Engine)

/-- The data has to be there, of whatever type. -/
def parsePipeControlParam (jsObj : JsValue) : Native PipeControlParam := do
  let request ← jsObjectToInt engine jsObj "request" 0
  let target ← jsObjectToInt engine jsObj "target" 0
  let reqType ← jsObjectToUint engine jsObj "reqType" 0
  let value ← jsObjectToInt engine jsObj "value" 0
  let index ← jsObjectToInt engine jsObj "index" 0
  let dataValue ← Native.use (← jsObjectGetProperty engine jsObj "data")
  pure { request, target, reqType, value, index, data := (jsUint8ArrayParse dataValue).2 }

def getBulkTransferParams (args : List JsValue) : Native (Option USBBulkTransferAsyncContext) :=
  withPipe engine 3 args fun pipe =>
  napiAssert ((argv args 1).type = .object) do
    let endpoint ← parseEndpointObj engine (argv args 1)
    let timeOut := if 3 < args.length then (argv args 3).int32.getD 0 else 0
    let (hasBuffer, buffer) := jsUint8ArrayParse (argv args 2)
    let bufferLength := UInt32.ofNat buffer.length
    if !hasBuffer then pure none
    else if endpoint.getDirection = USB_ENDPOINT_DIR_OUT ∧
        !memcpyAllowed buffer.length buffer.length then pure none
    else pure (some { pipe, endpoint, buffer, bufferLength, timeOut })

def pipeBulkTransfer (args : List JsValue) : Native (Option ClientCall) := do
  let context ← getBulkTransferParams engine args
  pure (context.map fun context => context.transfer.asks)

/-- `GetControlTransferParam` and what `PipeControlTransfer` makes of it.  The types of the
arguments but the first are not tested. -/
def getControlTransferParam (args : List JsValue) :
    Native (Option USBControlTransferAsyncContext) :=
  withPipe engine 2 args fun pipe => do
    let { request, target, reqType, value, index, data } ←
      parsePipeControlParam engine (argv args 1)
    let timeOut := if 3 ≤ args.length then (argv args 2).int32.getD 0 else 0
    let bufferLength := UInt32.ofNat data.length
    if reqType &&& USB_ENDPOINT_DIR_MASK = USB_ENDPOINT_DIR_OUT ∧
        !memcpyAllowed data.length data.length then pure none
    else pure (some {
      pipe, request, target, reqType, value, index
      buffer := data
      bufferLength, timeOut })

def pipeControlTransfer (args : List JsValue) : Native (Option ClientCall) := do
  let context ← getControlTransferParam engine args
  pure (context.map fun context => context.transfer.asks)

end

/-! ## All functions -/

/-- What a function asks of the client. -/
def asks (engine : Engine) : JsFunction → List JsValue → Native (Option ClientCall)
  | .getDevices => coreGetDevices
  | .connectDevice => coreConnectDevice engine
  | .hasRight => coreHasRight engine
  | .requestRight => coreRequestRight engine
  | .usbFunctionsFromString => coreUsbFunctionsFromString engine
  | .usbFunctionsToString => coreUsbFunctionsToString
  | .setCurrentFunctions => coreSetCurrentFunctions
  | .getCurrentFunctions => coreGetCurrentFunctions
  | .getPorts => coreGetPorts
  | .getSupportedModes => portGetSupportedModes
  | .setPortRoles => portSetPortRole
  | .claimInterface => pipeClaimInterface engine
  | .releaseInterface => pipeReleaseInterface engine
  | .bulkTransfer => pipeBulkTransfer engine
  | .controlTransfer => pipeControlTransfer engine
  | .setInterface => pipeSetInterface engine
  | .setConfiguration => pipeSetConfiguration engine
  | .getRawDescriptor => pipeGetRawDescriptors engine
  | .getFileDescriptor => pipeGetFileDescriptor engine
  | .closePipe => pipeClose engine

/-! ## Calls with what the module has given out -/

def uint8Array (bytes : List UInt8) : JsValue :=
  .typedArray ⟨true, bytes.length, bytes, Nat.le_refl _, fun _ => rfl⟩

/-- The parameters of a control transfer as the module is given them. -/
def controlParams (ctrl : UsbCtrlTransfer) (bufferData : List UInt8) : JsValue :=
  .object [
    setValueInt32 "request" ctrl.requestCmd,
    setValueUint32 "reqType" ctrl.requestType.toUInt32,
    setValueInt32 "value" ctrl.value,
    setValueInt32 "index" ctrl.index,
    ("data", uint8Array bufferData)]

/-- The function and the arguments of a call of the client.  Devices, interfaces,
configurations, endpoints and pipes are passed as the module makes them. -/
def given : ClientCall → Option (JsFunction × List JsValue)
  | .openDevice device => some (.connectDevice, [ctoJsUsbDevice device])
  | .hasRight deviceName => some (.hasRight, [.string deviceName])
  | .requestRight deviceName => some (.requestRight, [.string deviceName])
  | .getDevices => some (.getDevices, [])
  | .getCurrentFunctions => some (.getCurrentFunctions, [])
  | .setCurrentFunctions funcs => some (.setCurrentFunctions, [.number funcs.toInt])
  | .usbFunctionsFromString funcs => some (.usbFunctionsFromString, [.string funcs])
  | .usbFunctionsToString funcs => some (.usbFunctionsToString, [.number funcs.toInt])
  | .getPorts => some (.getPorts, [])
  | .getSupportedModes portId => some (.getSupportedModes, [.number portId.toInt])
  | .setPortRole portId powerRole dataRole =>
    some (.setPortRoles, [.number portId.toInt, .number powerRole.toInt, .number dataRole.toInt])
  | .claimInterface pipe interface force =>
    some (.claimInterface,
      [createUsbDevicePipe pipe, ctoJsUsbInterface interface, .boolean force])
  | .releaseInterface pipe interface =>
    some (.releaseInterface, [createUsbDevicePipe pipe, ctoJsUsbInterface interface])
  | .bulkTransfer pipe endpoint bufferData timeOut =>
    some (.bulkTransfer, [createUsbDevicePipe pipe, ctoJsUsbEndpoint endpoint,
      uint8Array bufferData, .number timeOut.toInt])
  | .controlTransfer pipe ctrl bufferData =>
    some (.controlTransfer, [createUsbDevicePipe pipe, controlParams ctrl bufferData,
      .number ctrl.timeout.toInt])
  | .setConfiguration pipe config =>
    some (.setConfiguration, [createUsbDevicePipe pipe, ctoJsUsbConfig config])
  | .setInterface pipe interface =>
    some (.setInterface, [createUsbDevicePipe pipe, ctoJsUsbInterface interface])
  | .getRawDescriptors pipe => some (.getRawDescriptor, [createUsbDevicePipe pipe])
  | .getFileDescriptor pipe => some (.getFileDescriptor, [createUsbDevicePipe pipe])
  | .close pipe => some (.closePipe, [createUsbDevicePipe pipe])
  | _ => none

/-- Texts that fit the buffer they are read into, and data that is copied. -/
def Passable : ClientCall → Prop
  | .hasRight text | .requestRight text | .usbFunctionsFromString text =>
    text.utf8ByteSize ≤ STR_DEFAULT_SIZE.toNat ∧ '\x00' ∉ text.toList
  | .bulkTransfer _ endpoint bufferData _ =>
    bufferData ≠ [] ∧ FitsLength bufferData ∧
      (endpoint.getDirection = USB_ENDPOINT_DIR_OUT → bufferData.length ≤ SECUREC_MEM_MAX_LEN)
  | .controlTransfer _ ctrl bufferData =>
    FitsLength bufferData ∧ (isWrite ctrl.requestType = true →
      bufferData ≠ [] ∧ bufferData.length ≤ SECUREC_MEM_MAX_LEN)
  | _ => True

section

variable (engine : Engine)

/-- The call with the objects that are read. -/
def readCall : ClientCall → ClientCall
  | .openDevice device => .openDevice (readDevice engine device)
  | .claimInterface pipe interface force => .claimInterface pipe (readInterface interface) force
  | .releaseInterface pipe interface => .releaseInterface pipe (readInterface interface)
  | .setConfiguration pipe config => .setConfiguration pipe (readConfig engine config)
  | .setInterface pipe interface => .setInterface pipe (readInterface interface)
  | call => call

/-- What is read decides the same request. -/
theorem request_readCall (call : ClientCall) :
    (readCall engine call).method.request = call.method.request := by
  cases call <;> rfl

end

section

variable {engine : Engine}

theorem reads_napiAssert {α : Type} {assertion : Prop} [Decidable assertion]
    {rest : Native (Option α)} {a : Option α} (holds : assertion) :
    (napiAssert assertion rest).Reads a ↔ rest.Reads a := by
  unfold napiAssert
  rw [if_pos holds]

theorem reads_withPipe {α : Type} {count : Nat} {pipe : USBDevicePipe} {more : List JsValue}
    {rest : USBDevicePipe → Native (Option α)} {result : Option α}
    (enough : count ≤ more.length + 1) (asks : (rest pipe).Reads result) :
    (withPipe engine count (createUsbDevicePipe pipe :: more) rest).Reads result := by
  unfold withPipe
  refine (reads_napiAssert enough).mpr ((reads_napiAssert rfl).mpr ?_)
  exact Native.reads_bind.mpr ⟨pipe, reads_createUsbDevicePipe engine pipe, asks⟩

/-- A text without a null character is read whole. -/
theorem cString_eq {text : String} (whole : '\x00' ∉ text.toList) : cString text = text := by
  have taken : text.toList.takeWhile (· ≠ '\x00') = text.toList :=
    List.takeWhile_eq_self_iff.mpr fun c there => decide_eq_true fun same => whole (same ▸ there)
  unfold cString
  rw [taken, String.ofList_toList]

theorem reads_withText {text : String} {call : String → ClientCall}
    (fits : text.utf8ByteSize ≤ STR_DEFAULT_SIZE.toNat) (whole : '\x00' ∉ text.toList) :
    (withText engine call [.string text]).Reads (some (call text)) := by
  have read : jsValueToString engine (.string text) STR_DEFAULT_SIZE "" = text := by
    unfold jsValueToString
    rw [if_neg (by decide)]
    change cString (engine.text _ text) = text
    rw [engine.text_of_fits fits, cString_eq whole]
  unfold withText
  refine (reads_napiAssert (Nat.le_refl 1)).mpr ((reads_napiAssert rfl).mpr ?_)
  exact Native.reads_pure.mpr (congrArg (fun text => some (call text)) read)

theorem reads_withoutArguments {call : ClientCall} :
    (withoutArguments call []).Reads (some call) := by
  unfold withoutArguments
  exact (reads_napiAssert rfl).mpr (Native.reads_pure.mpr rfl)

theorem reads_withNumber {value : Int32} {call : Int32 → ClientCall} :
    (withNumber call [.number value.toInt]).Reads (some (call value)) := by
  unfold withNumber
  refine (reads_napiAssert (Nat.le_refl 1)).mpr ((reads_napiAssert rfl).mpr ?_)
  exact Native.reads_pure.mpr
    (congrArg (fun value => some (call value)) (Int32.ofInt_toInt value))

/-! ### Arguments that the module reads as they are -/

theorem jsUint8ArrayParse_uint8Array (bytes : List UInt8) :
    jsUint8ArrayParse (uint8Array bytes) = (decide (0 < bytes.length), bytes) := by
  unfold jsUint8ArrayParse uint8Array
  simp

theorem memcpyAllowed_length {bytes : List UInt8} (some : bytes ≠ [])
    (few : bytes.length ≤ SECUREC_MEM_MAX_LEN) : memcpyAllowed bytes.length bytes.length = true := by
  have length : 0 < bytes.length := List.length_pos_iff.mpr some
  simp [memcpyAllowed, length, few]

/-- A buffer whose length fits is transmitted whole. -/
theorem vector_eq {bytes : List UInt8} (fits : FitsLength bytes) :
    vector bytes (UInt32.ofNat bytes.length) = bytes := by
  unfold vector
  rw [UInt32.toNat_ofNat_of_lt' fits, List.take_length]

theorem reads_interfaceOf {rest : UsbInterface → Native (Option ClientCall)}
    {interface : UsbInterface} {result : Option ClientCall}
    (asks : (rest (readInterface interface)).Reads result) :
    (do
      let interface ← parseInterfaceObj engine (ctoJsUsbInterface interface) {}
      rest interface).Reads result :=
  Native.reads_bind.mpr ⟨_, reads_interface.mpr (interfaceObj_ctoJs interface), asks⟩

theorem reads_uint {object : JsValue} {fieldStr : String} {value : UInt32}
    (there : object.property fieldStr = some (setValueUint32 fieldStr value).2) :
    (jsObjectToUint engine object fieldStr 0).Reads value := by
  have same : (Int32.ofInt value.toNat).toUInt32 = value := by
    apply UInt32.toBitVec_inj.mp
    simp
  unfold jsObjectToUint jsObjectToNumber
  refine Native.reads_bind.mpr ⟨_, Native.reads_named.mpr there, ?_⟩
  exact Native.reads_pure.mpr same

theorem reads_controlParams (ctrl : UsbCtrlTransfer) (bufferData : List UInt8) :
    (parsePipeControlParam engine (controlParams ctrl bufferData)).Reads
      ⟨ctrl.requestCmd, 0, ctrl.requestType.toUInt32, ctrl.value, ctrl.index, bufferData⟩ := by
  unfold parsePipeControlParam
  refine Native.reads_bind.mpr ⟨_, reads_int.mpr (intProperty_int32 rfl), ?_⟩
  refine Native.reads_bind.mpr ⟨_, reads_int.mpr rfl, ?_⟩
  refine Native.reads_bind.mpr ⟨_, reads_uint rfl, ?_⟩
  refine Native.reads_bind.mpr ⟨_, reads_int.mpr (intProperty_int32 rfl), ?_⟩
  refine Native.reads_bind.mpr ⟨_, reads_int.mpr (intProperty_int32 rfl), ?_⟩
  refine Native.reads_bind.mpr ⟨some (uint8Array bufferData), Native.reads_named.mpr rfl, ?_⟩
  refine Native.reads_bind.mpr ⟨uint8Array bufferData, Native.reads_use.mpr rfl, ?_⟩
  exact Native.reads_pure.mpr (by rw [jsUint8ArrayParse_uint8Array])

/-- What a bulk transfer with these arguments works on. -/
def bulkContext (pipe : USBDevicePipe) (endpoint : USBEndpoint) (bufferData : List UInt8)
    (timeOut : Int32) : USBBulkTransferAsyncContext where
  pipe := pipe
  endpoint := endpoint
  buffer := bufferData
  bufferLength := UInt32.ofNat bufferData.length
  timeOut := timeOut

/-- The same of a control transfer. -/
def controlContext (pipe : USBDevicePipe) (ctrl : UsbCtrlTransfer) (bufferData : List UInt8) :
    USBControlTransferAsyncContext where
  pipe := pipe
  request := ctrl.requestCmd
  target := 0
  reqType := ctrl.requestType.toUInt32
  value := ctrl.value
  index := ctrl.index
  buffer := bufferData
  bufferLength := UInt32.ofNat bufferData.length
  timeOut := ctrl.timeout

theorem tctrl_controlContext (pipe : USBDevicePipe) (ctrl : UsbCtrlTransfer)
    (bufferData : List UInt8) : (controlContext pipe ctrl bufferData).tctrl = ctrl := by
  have same : ctrl.requestType.toUInt32.toInt32 = ctrl.requestType := by simp
  unfold USBControlTransferAsyncContext.tctrl controlContext
  rw [same]

theorem reads_bulkTransfer {pipe : USBDevicePipe} {endpoint : USBEndpoint}
    {bufferData : List UInt8} {timeOut : Int32} (some : bufferData ≠ [])
    (copied : endpoint.getDirection = USB_ENDPOINT_DIR_OUT →
      bufferData.length ≤ SECUREC_MEM_MAX_LEN) :
    (getBulkTransferParams engine [createUsbDevicePipe pipe, ctoJsUsbEndpoint endpoint,
      uint8Array bufferData, .number timeOut.toInt]).Reads
        (.some (bulkContext pipe endpoint bufferData timeOut)) := by
  have length : 0 < bufferData.length := List.length_pos_iff.mpr some
  have parsed : jsUint8ArrayParse (argv [createUsbDevicePipe pipe, ctoJsUsbEndpoint endpoint,
      uint8Array bufferData, .number timeOut.toInt] 2) =
        (decide (0 < bufferData.length), bufferData) :=
    jsUint8ArrayParse_uint8Array bufferData
  unfold getBulkTransferParams
  refine reads_withPipe (Nat.le_succ 3) ((reads_napiAssert rfl).mpr ?_)
  refine Native.reads_bind.mpr ⟨endpoint, reads_endpoint.mpr (endpointObj_ctoJs endpoint), ?_⟩
  rw [parsed]
  dsimp only
  rw [if_neg (by simp [length]), if_neg]
  · refine Native.reads_pure.mpr ?_
    have same : Int32.ofInt timeOut.toInt = timeOut := Int32.ofInt_toInt timeOut
    exact congrArg (fun timeOut => Option.some (bulkContext pipe endpoint bufferData timeOut)) same
  · rintro ⟨out, refused⟩
    rw [memcpyAllowed_length some (copied out)] at refused
    cases refused

theorem reads_controlTransfer {pipe : USBDevicePipe} {ctrl : UsbCtrlTransfer}
    {bufferData : List UInt8} (copied : isWrite ctrl.requestType = true →
      bufferData ≠ [] ∧ bufferData.length ≤ SECUREC_MEM_MAX_LEN) :
    (getControlTransferParam engine [createUsbDevicePipe pipe, controlParams ctrl bufferData,
      .number ctrl.timeout.toInt]).Reads (some (controlContext pipe ctrl bufferData)) := by
  unfold getControlTransferParam
  refine reads_withPipe (Nat.le_succ 2) ?_
  refine Native.reads_bind.mpr ⟨_, reads_controlParams ctrl bufferData, ?_⟩
  dsimp only
  rw [if_neg]
  · refine Native.reads_pure.mpr ?_
    have same : Int32.ofInt ctrl.timeout.toInt = ctrl.timeout := Int32.ofInt_toInt ctrl.timeout
    exact congrArg (fun timeout => some
      { controlContext pipe ctrl bufferData with timeOut := timeout }) same
  · rintro ⟨out, refused⟩
    obtain ⟨some, few⟩ := copied (beq_iff_eq.mpr out)
    rw [memcpyAllowed_length some few] at refused
    cases refused

/-- Called with what the module has given out, a function throws nothing and asks the
client for what is asked with the objects that were given out themselves. -/
theorem asks_given (engine : Engine) {call : ClientCall} {function : JsFunction}
    {args : List JsValue} (given : given call = some (function, args))
    (passable : Passable call) :
    (asks engine function args).Reads (some (readCall engine call)) ∧
      (readCall engine call).method.request = call.method.request := by
  refine ⟨?_, request_readCall engine call⟩
  cases call with
  | openDevice device =>
    cases given
    unfold asks coreConnectDevice
    refine (reads_napiAssert (Nat.le_refl 1)).mpr ((reads_napiAssert rfl).mpr ?_)
    exact Native.reads_bind.mpr ⟨_, reads_ctoJsUsbDevice engine device, Native.reads_pure.mpr rfl⟩
  | hasRight text | requestRight text | usbFunctionsFromString text =>
    cases given
    exact reads_withText passable.1 passable.2
  | getDevices | getCurrentFunctions | getPorts =>
    cases given
    exact reads_withoutArguments
  | setCurrentFunctions value | usbFunctionsToString value | getSupportedModes value =>
    cases given
    exact reads_withNumber
  | setPortRole portId powerRole dataRole =>
    cases given
    have same (value : Int32) : Int32.ofInt value.toInt = value := Int32.ofInt_toInt value
    unfold asks portSetPortRole
    refine (reads_napiAssert (Nat.le_add_left 1 2)).mpr ((reads_napiAssert rfl).mpr ?_)
    refine (reads_napiAssert rfl).mpr ((reads_napiAssert rfl).mpr (Native.reads_pure.mpr ?_))
    change some (ClientCall.setPortRole (Int32.ofInt _) (Int32.ofInt _) (Int32.ofInt _)) = _
    rw [same, same, same]
    rfl
  | claimInterface pipe interface force =>
    cases given
    unfold asks pipeClaimInterface
    refine reads_withPipe (Nat.le_succ 2) ((reads_napiAssert rfl).mpr ?_)
    exact reads_interfaceOf (Native.reads_pure.mpr rfl)
  | releaseInterface pipe interface =>
    cases given
    unfold asks pipeReleaseInterface
    exact reads_withPipe (Nat.le_refl 2) (reads_interfaceOf (Native.reads_pure.mpr rfl))
  | setInterface pipe interface =>
    cases given
    unfold asks pipeSetInterface
    refine reads_withPipe (Nat.le_refl 2) ((reads_napiAssert rfl).mpr ?_)
    exact reads_interfaceOf (Native.reads_pure.mpr rfl)
  | setConfiguration pipe config =>
    cases given
    unfold asks pipeSetConfiguration
    refine reads_withPipe (Nat.le_refl 2) ((reads_napiAssert rfl).mpr ?_)
    exact Native.reads_bind.mpr
      ⟨_, reads_config.mpr (configObj_ctoJs config), Native.reads_pure.mpr rfl⟩
  | bulkTransfer pipe endpoint bufferData timeOut =>
    cases given
    obtain ⟨some, fits, copied⟩ := passable
    refine Native.reads_bind.mpr ⟨_, reads_bulkTransfer some copied, Native.reads_pure.mpr ?_⟩
    exact congrArg (fun bufferData => Option.some (ClientCall.bulkTransfer pipe endpoint bufferData
      timeOut)) (vector_eq fits)
  | controlTransfer pipe ctrl bufferData =>
    cases given
    obtain ⟨fits, copied⟩ := passable
    refine Native.reads_bind.mpr ⟨_, reads_controlTransfer copied, Native.reads_pure.mpr ?_⟩
    change some (ClientCall.controlTransfer pipe (controlContext pipe ctrl bufferData).tctrl
      (vector bufferData (UInt32.ofNat bufferData.length))) = _
    rw [vector_eq fits, tctrl_controlContext]
    rfl
  | getRawDescriptors pipe =>
    cases given
    unfold asks pipeGetRawDescriptors
    exact reads_withPipe (Nat.le_refl 1) (Native.reads_pure.mpr rfl)
  | getFileDescriptor pipe =>
    cases given
    unfold asks pipeGetFileDescriptor
    exact reads_withPipe (Nat.le_refl 1) (Native.reads_pure.mpr rfl)
  | close pipe =>
    cases given
    unfold asks pipeClose
    exact reads_withPipe (Nat.le_refl 1) (Native.reads_pure.mpr rfl)
  | _ => cases given

/-- An engine that reads nothing of a text that is too long. -/
def bareEngine : Engine where
  text size value := if value.utf8ByteSize ≤ size then value else ""
  text_of_fits fits := if_pos fits
  readsPending := false

/-- The data of a bulk transfer to a device. -/
theorem asks_bulkTransfer :
    let call := ClientCall.bulkTransfer ⟨1, 2⟩ { address := 0x01, attributes := 2 } [1, 2, 3] 100
    (asks bareEngine .bulkTransfer [createUsbDevicePipe ⟨1, 2⟩,
        ctoJsUsbEndpoint { address := 0x01, attributes := 2 }, uint8Array [1, 2, 3],
        .number 100]).Reads (some (readCall bareEngine call)) ∧
      (readCall bareEngine call).method.request = call.method.request := by
  intro call
  have passable : Passable call := ⟨nofun, by simp [FitsLength], fun _ => by decide⟩
  exact asks_given bareEngine rfl passable

/-! ## Objects without their lists -/

/-- The object has no array of this name. -/
def Listless (fieldStr : String) (object : JsValue) : Prop :=
  ∀ objs, object.property fieldStr ≠ some (.array objs)

theorem total_number {α : Type} {read : JsValue → Option α} {object : JsValue} {fieldStr : String}
    {fieldRef : α} : (jsObjectToNumber engine read object fieldStr fieldRef).Total := by
  refine Native.Total.bind (Native.total_read engine _) fun field => ?_
  cases field with
  | none => exact Native.total_pure _
  | some field =>
    dsimp only
    split_ifs
    · exact Native.total_pure _
    · exact Native.Total.bind Native.total_raise fun _ => Native.total_pure _

theorem total_string {object : JsValue} {fieldStr fieldRef : String} {bufLen : Int} :
    (jsObjectToString engine object fieldStr bufLen fieldRef).Total := by
  unfold jsObjectToString
  split_ifs
  · exact Native.total_pure _
  refine Native.Total.bind (Native.total_read engine _) fun field => ?_
  cases field with
  | none => exact Native.total_pure _
  | some field =>
    dsimp only
    split_ifs
    · exact Native.total_pure _
    · exact Native.Total.bind Native.total_raise fun _ => Native.total_pure _

/-- Nothing is read of the list, and no exception is thrown yet. -/
theorem run_parseObjs {α : Type} {parse : JsValue → Native α} {fieldStr : String}
    {object : JsValue} (listless : Listless fieldStr object) (pending : Bool) :
    (parseObjs engine parse fieldStr object).run pending = some (none, pending) := by
  unfold parseObjs jsObjectGetProperty Native.named Native.read
  rw [Native.run_bind]
  dsimp only [Option.bind_some]
  split_ifs
  · rfl
  · cases there : object.property fieldStr with
    | none => rfl
    | some field =>
      cases field with
      | array objs => exact absurd there (listless objs)
      | _ => rfl

/-- The interface is what it was before. -/
theorem run_parseInterfaceObj {object : JsValue} (listless : Listless "endpoints" object)
    (interface : UsbInterface) (pending : Bool) :
    (parseInterfaceObj engine object interface).run pending = some (interface, true) := by
  refine total_number.run_bind (fun _ => ?_) pending
  refine total_number.run_bind fun _ => ?_
  refine total_number.run_bind fun _ => ?_
  refine total_number.run_bind fun _ => ?_
  refine total_number.run_bind fun _ => ?_
  refine total_string.run_bind fun _ pending => ?_
  rw [Native.run_bind]
  unfold parseEndpointsObjs
  rw [run_parseObjs listless]
  rfl

theorem run_parseConfigObj {object : JsValue} (listless : Listless "interfaces" object)
    (config : USBConfig) (pending : Bool) :
    (parseConfigObj engine object config).run pending = some (config, true) := by
  refine total_number.run_bind (fun _ => ?_) pending
  refine total_number.run_bind fun _ => ?_
  refine total_number.run_bind fun _ => ?_
  refine total_string.run_bind fun _ pending => ?_
  rw [Native.run_bind]
  unfold parseInterfacesObjs
  rw [run_parseObjs listless]
  rfl

/-- What comes after the reading of the pipe. -/
theorem run_withPipe {α : Type} {count : Nat} {pipe : USBDevicePipe} {more : List JsValue}
    {rest : USBDevicePipe → Native (Option α)} (enough : count ≤ more.length + 1) :
    (withPipe engine count (createUsbDevicePipe pipe :: more) rest).run false =
      (rest pipe).run false := by
  have read : (parseUsbDevicePipe engine (createUsbDevicePipe pipe)).run false =
      some (pipe, false) := reads_createUsbDevicePipe engine pipe
  have passed : (withPipe engine count (createUsbDevicePipe pipe :: more) rest) =
      (parseUsbDevicePipe engine (createUsbDevicePipe pipe) >>= rest) := by
    unfold withPipe napiAssert
    exact (if_pos enough).trans (if_pos rfl)
  rw [passed, Native.run_bind, read]
  rfl

/-- The functions that go on with an object without its list: the name of the list, what
they ask the client and what it asks the service. -/
def defaulted (pipe : USBDevicePipe) : JsFunction → Option (String × ClientCall × DeviceRequest)
  | .claimInterface =>
    some ("endpoints", .claimInterface pipe {} false,
      .claimInterface pipe.busNum pipe.devAddr 255 0)
  | .releaseInterface =>
    some ("endpoints", .releaseInterface pipe {}, .releaseInterface pipe.busNum pipe.devAddr 255)
  | .setInterface =>
    some ("endpoints", .setInterface pipe {}, .setInterface pipe.busNum pipe.devAddr 255 255)
  | .setConfiguration =>
    some ("interfaces", .setConfiguration pipe {}, .setActiveConfig pipe.busNum pipe.devAddr 255)
  | _ => none

/-- An object without its list does not keep the service from being asked: the exception
is thrown, and the interface or the configuration 255 is asked for. -/
theorem asks_defaulted (engine : Engine) {pipe : USBDevicePipe} {function : JsFunction}
    {object : JsValue} {fieldStr : String} {call : ClientCall} {request : DeviceRequest}
    (defaulted : defaulted pipe function = some (fieldStr, call, request))
    (isObject : object.type = .object) (listless : Listless fieldStr object) :
    (asks engine function [createUsbDevicePipe pipe, object]).run false =
        some (some call, true) ∧
      call.method.request = .ok (.onDevice request) := by
  have second : argv [createUsbDevicePipe pipe, object] 1 = object := rfl
  cases function with
  | claimInterface =>
    cases defaulted
    refine ⟨?_, rfl⟩
    unfold asks pipeClaimInterface napiAssert
    rw [run_withPipe (Nat.le_refl 2), second, if_pos isObject, Native.run_bind,
      run_parseInterfaceObj listless]
    rfl
  | releaseInterface =>
    cases defaulted
    refine ⟨?_, rfl⟩
    unfold asks pipeReleaseInterface
    rw [run_withPipe (Nat.le_refl 2), second, Native.run_bind,
      run_parseInterfaceObj listless]
    rfl
  | setInterface =>
    cases defaulted
    refine ⟨?_, rfl⟩
    unfold asks pipeSetInterface napiAssert
    rw [run_withPipe (Nat.le_refl 2), second, if_pos isObject, Native.run_bind,
      run_parseInterfaceObj listless]
    rfl
  | setConfiguration =>
    cases defaulted
    refine ⟨?_, rfl⟩
    unfold asks pipeSetConfiguration napiAssert
    rw [run_withPipe (Nat.le_refl 2), second, if_pos isObject, Native.run_bind,
      run_parseConfigObj listless]
    rfl
  | _ => cases defaulted

/-- An object without any property. -/
theorem asks_empty :
    (asks bareEngine .releaseInterface [createUsbDevicePipe ⟨1, 2⟩, .object []]).run false =
        some (some (.releaseInterface ⟨1, 2⟩ {}), true) ∧
      (ClientCall.releaseInterface ⟨1, 2⟩ {}).method.request =
        .ok (.onDevice (.releaseInterface 1 2 255)) :=
  asks_defaulted bareEngine rfl rfl fun _ => nofun

end

end UsbInfo

end UsbManager.Js

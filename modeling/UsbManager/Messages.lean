import UsbManager.Interface

/-!
# Requests on the wire

`SrvCall.arguments` lists what the request parcel of a call carries after the
interface token.  Together with the request code it determines the call
(`SrvCall.eq_of_arguments`), as long as each buffer is as long as the 32-bit
length that is sent with it says.
-/

namespace UsbManager

abbrev Argument := ParcelAction.TypedValue ParcelType.Value

/-- The arguments a buffer is sent as. -/
def bufferArguments (bufferData : List UInt8) : List Argument :=
  ⟨.uint32, bufferLength bufferData⟩ ::
    if bufferLength bufferData > 0 then [⟨_, sentBuffer bufferData⟩] else []

/-- The arguments `SetDeviceMessage` writes. -/
def deviceArguments (dev : UsbDev) : List Argument :=
  [⟨.uint8, dev.busNum⟩, ⟨.uint8, dev.devAddr⟩]

def pipeArguments (pipe : UsbPipe) : List Argument :=
  [⟨.uint8, pipe.interfaceId⟩, ⟨.uint8, pipe.endpointId⟩]

/-- A null pointer is not sent. -/
def objectArguments (t : ParcelType) (object : Option t.Value) : List Argument :=
  object.toList.map fun object => ⟨t, object⟩

/-- The length of a buffer fits the 32 bits it is sent with. -/
def FitsLength (bufferData : List UInt8) : Prop := bufferData.length < 2 ^ 32

namespace DeviceRequest

def dev : DeviceRequest → UsbDev
  | openDevice busNum devAddr => ⟨busNum, devAddr⟩
  | claimInterface busNum devAddr _ _ => ⟨busNum, devAddr⟩
  | releaseInterface busNum devAddr _ => ⟨busNum, devAddr⟩
  | bulkTransferRead dev _ _ => dev
  | bulkTransferWrite dev _ _ _ => dev
  | controlTransfer dev _ _ => dev
  | setActiveConfig busNum devAddr _ => ⟨busNum, devAddr⟩
  | getActiveConfig busNum devAddr => ⟨busNum, devAddr⟩
  | setInterface busNum devAddr _ _ => ⟨busNum, devAddr⟩
  | getRawDescriptor busNum devAddr => ⟨busNum, devAddr⟩
  | getFileDescriptor busNum devAddr => ⟨busNum, devAddr⟩
  | requestQueue dev _ _ _ => dev
  | requestWait dev _ => dev
  | requestCancel busNum devAddr _ _ => ⟨busNum, devAddr⟩
  | close busNum devAddr => ⟨busNum, devAddr⟩
  | regBulkCallback dev _ _ => dev
  | unRegBulkCallback dev _ => dev
  | bulkRead dev _ _ => dev
  | bulkWrite dev _ _ => dev
  | bulkCancel dev _ => dev

/-- The arguments after the device. -/
def arguments : DeviceRequest → List Argument
  | openDevice _ _ => []
  | claimInterface _ _ interface force => [⟨.uint8, interface⟩, ⟨.uint8, force⟩]
  | releaseInterface _ _ interface => [⟨.uint8, interface⟩]
  | bulkTransferRead _ pipe timeOut => pipeArguments pipe ++ [⟨.int32, timeOut⟩]
  | bulkTransferWrite _ pipe bufferData timeOut =>
    pipeArguments pipe ++ ([⟨.int32, timeOut⟩] ++ bufferArguments bufferData)
  | controlTransfer _ ctrl bufferData =>
    [⟨.int32, ctrl.requestType⟩, ⟨.int32, ctrl.requestCmd⟩, ⟨.int32, ctrl.value⟩,
      ⟨.int32, ctrl.index⟩, ⟨.int32, ctrl.timeout⟩] ++ bufferArguments bufferData
  | setActiveConfig _ _ configIndex => [⟨.uint8, configIndex⟩]
  | getActiveConfig _ _ => []
  | setInterface _ _ interfaceid altIndex => [⟨.uint8, interfaceid⟩, ⟨.uint8, altIndex⟩]
  | getRawDescriptor _ _ => []
  | getFileDescriptor _ _ => []
  | requestQueue _ pipe clientData bufferData =>
    pipeArguments pipe ++ (bufferArguments clientData ++ bufferArguments bufferData)
  | requestWait _ timeOut => [⟨.int32, timeOut⟩]
  | requestCancel _ _ interfaceId endpointId => [⟨.uint8, interfaceId⟩, ⟨.uint8, endpointId⟩]
  | close _ _ => []
  | regBulkCallback _ pipe cb => pipeArguments pipe ++ objectArguments .remoteObject cb
  | unRegBulkCallback _ pipe => pipeArguments pipe
  | bulkRead _ pipe ashmem => pipeArguments pipe ++ objectArguments .ashmem ashmem
  | bulkWrite _ pipe ashmem => pipeArguments pipe ++ objectArguments .ashmem ashmem
  | bulkCancel _ pipe => pipeArguments pipe

def code : DeviceRequest → IUsbSrv.Fun
  | openDevice _ _ => .USB_FUN_OPEN_DEVICE
  | claimInterface _ _ _ _ => .USB_FUN_CLAIM_INTERFACE
  | releaseInterface _ _ _ => .USB_FUN_RELEASE_INTERFACE
  | bulkTransferRead _ _ _ => .USB_FUN_BULK_TRANSFER_READ
  | bulkTransferWrite _ _ _ _ => .USB_FUN_BULK_TRANSFER_WRITE
  | controlTransfer _ _ _ => .USB_FUN_CONTROL_TRANSFER
  | setActiveConfig _ _ _ => .USB_FUN_SET_ACTIVE_CONFIG
  | getActiveConfig _ _ => .USB_FUN_GET_ACTIVE_CONFIG
  | setInterface _ _ _ _ => .USB_FUN_SET_INTERFACE
  | getRawDescriptor _ _ => .USB_FUN_GET_DESCRIPTOR
  | getFileDescriptor _ _ => .USB_FUN_GET_FILEDESCRIPTOR
  | requestQueue _ _ _ _ => .USB_FUN_REQUEST_QUEUE
  | requestWait _ _ => .USB_FUN_REQUEST_WAIT
  | requestCancel _ _ _ _ => .USB_FUN_REQUEST_CANCEL
  | close _ _ => .USB_FUN_CLOSE_DEVICE
  | regBulkCallback _ _ _ => .USB_FUN_REG_BULK_CALLBACK
  | unRegBulkCallback _ _ => .USB_FUN_UNREG_BULK_CALLBACK
  | bulkRead _ _ _ => .USB_FUN_BULK_AYSNC_READ
  | bulkWrite _ _ _ => .USB_FUN_BULK_AYSNC_WRITE
  | bulkCancel _ _ => .USB_FUN_BULK_AYSNC_CANCEL

/-- No argument is a null pointer. -/
def complete : DeviceRequest → Bool
  | regBulkCallback _ _ cb => cb.isSome
  | bulkRead _ _ ashmem => ashmem.isSome
  | bulkWrite _ _ ashmem => ashmem.isSome
  | _ => true

/-- Each buffer can be sent with its length. -/
def Fits : DeviceRequest → Prop
  | bulkTransferWrite _ _ bufferData _ => FitsLength bufferData
  | controlTransfer _ _ bufferData => FitsLength bufferData
  | requestQueue _ _ clientData bufferData => FitsLength clientData ∧ FitsLength bufferData
  | _ => True

end DeviceRequest

namespace SrvCall

/-- The arguments a call is sent with, in their order. -/
def arguments : SrvCall → List Argument
  | hasRight deviceName => [⟨.string, deviceName⟩]
  | requestRight deviceName => [⟨.string, deviceName⟩]
  | removeRight deviceName => [⟨.string, deviceName⟩]
  | getDevices => []
  | getCurrentFunctions => []
  | setCurrentFunctions funcs => [⟨.int32, funcs⟩]
  | usbFunctionsFromString funcs => [⟨.string, funcs⟩]
  | usbFunctionsToString funcs => [⟨.int32, funcs⟩]
  | getPorts => []
  | getSupportedModes portId => [⟨.int32, portId⟩]
  | setPortRole portId powerRole dataRole =>
    [⟨.int32, portId⟩, ⟨.int32, powerRole⟩, ⟨.int32, dataRole⟩]
  | onDevice request => deviceArguments request.dev ++ request.arguments

def code : SrvCall → IUsbSrv.Fun
  | hasRight _ => .USB_FUN_HAS_RIGHT
  | requestRight _ => .USB_FUN_REQUEST_RIGHT
  | removeRight _ => .USB_FUN_REMOVE_RIGHT
  | getDevices => .USB_FUN_GET_DEVICES
  | getCurrentFunctions => .USB_FUN_GET_CURRENT_FUNCTIONS
  | setCurrentFunctions _ => .USB_FUN_SET_CURRENT_FUNCTIONS
  | usbFunctionsFromString _ => .USB_FUN_USB_FUNCTIONS_FROM_STRING
  | usbFunctionsToString _ => .USB_FUN_USB_FUNCTIONS_TO_STRING
  | getPorts => .USB_FUN_GET_PORTS
  | getSupportedModes _ => .USB_FUN_GET_SUPPORTED_MODES
  | setPortRole _ _ _ => .USB_FUN_SET_PORT_ROLE
  | onDevice request => request.code

def complete : SrvCall → Bool
  | onDevice request => request.complete
  | _ => true

def Fits : SrvCall → Prop
  | onDevice request => request.Fits
  | _ => True

end SrvCall

/-! ## What is sent determines the call -/

/-- The bytes of an argument that is a buffer. -/
def Argument.bytes : Argument → List UInt8
  | ⟨.buffer _, v⟩ => v.val
  | _ => []

theorem bufferLength_toNat {bufferData : List UInt8} (fits : FitsLength bufferData) :
    (bufferLength bufferData).toNat = bufferData.length := UInt32.toNat_ofNat_of_lt' fits

theorem sentBuffer_val {bufferData : List UInt8} (fits : FitsLength bufferData) :
    (sentBuffer bufferData).val = bufferData := by
  change bufferData.take (bufferLength bufferData).toNat = bufferData
  rw [bufferLength_toNat fits, List.take_length]

theorem fitsLength_val {n : UInt32} (v : (ParcelType.buffer n).Value) : FitsLength v.val := by
  unfold FitsLength
  rw [v.property]
  exact n.toNat_lt

theorem buffer_ext {n n' : UInt32} {v : (ParcelType.buffer n).Value}
    {v' : (ParcelType.buffer n').Value} (length : n = n') (bytes : v.val = v'.val) :
    (⟨.buffer n, v⟩ : Argument) = ⟨.buffer n', v'⟩ := by
  subst length
  rw [Subtype.ext bytes]

theorem bufferLength_val {n : UInt32} (v : (ParcelType.buffer n).Value) :
    bufferLength v.val = n := by
  unfold bufferLength
  rw [v.property]
  exact UInt32.ofNat_toNat

/-- A buffer of a given length is sent as that length and the buffer. -/
theorem bufferArguments_val {n : UInt32} (some : n ≠ 0) (v : (ParcelType.buffer n).Value) :
    bufferArguments v.val = [⟨.uint32, n⟩, ⟨.buffer n, v⟩] := by
  have last : (⟨_, sentBuffer v.val⟩ : Argument) = ⟨.buffer n, v⟩ :=
    buffer_ext (bufferLength_val v) (sentBuffer_val (fitsLength_val v))
  unfold bufferArguments
  rw [last, bufferLength_val v, if_pos (UInt32.pos_iff_ne_zero.mpr some)]

/-- A buffer that was cut is sent like what is left of it. -/
theorem bufferArguments_sentBuffer (bufferData : List UInt8) :
    bufferArguments (sentBuffer bufferData).val = bufferArguments bufferData := by
  have last : (⟨_, sentBuffer (sentBuffer bufferData).val⟩ : Argument) =
      ⟨_, sentBuffer bufferData⟩ :=
    buffer_ext (bufferLength_val _) (sentBuffer_val (fitsLength_val _))
  unfold bufferArguments
  rw [last, bufferLength_val]

theorem bufferArguments_inj {b b' : List UInt8} {more more' : List Argument}
    (fits : FitsLength b) (fits' : FitsLength b')
    (same : bufferArguments b ++ more = bufferArguments b' ++ more') : b = b' ∧ more = more' := by
  unfold bufferArguments at same
  rw [List.cons_append, List.cons_append] at same
  obtain ⟨first, rest⟩ := List.cons.inj same
  have length : bufferLength b = bufferLength b' := eq_of_heq (Sigma.mk.inj first).2
  by_cases some : bufferLength b > 0
  · rw [if_pos some, if_pos (length ▸ some)] at rest
    obtain ⟨second, rest⟩ := List.cons.inj rest
    have bytes : (sentBuffer b).val = (sentBuffer b').val := congrArg Argument.bytes second
    rw [sentBuffer_val fits, sentBuffer_val fits'] at bytes
    exact ⟨bytes, rest⟩
  · rw [if_neg some, if_neg (length ▸ some)] at rest
    have lengths := congrArg UInt32.toNat length
    rw [bufferLength_toNat fits, bufferLength_toNat fits'] at lengths
    have empty : b.length = 0 := by
      rw [← bufferLength_toNat fits, show bufferLength b = 0 by simpa using some]
      rfl
    have empty' : b' = [] := List.length_eq_zero_iff.mp (lengths ▸ empty)
    exact ⟨(List.length_eq_zero_iff.mp empty).trans empty'.symm, rest⟩

theorem pipeArguments_inj {pipe pipe' : UsbPipe} {more more' : List Argument}
    (same : pipeArguments pipe ++ more = pipeArguments pipe' ++ more') :
    pipe = pipe' ∧ more = more' := by
  obtain ⟨interfaceId, endpointId⟩ := pipe
  obtain ⟨interfaceId', endpointId'⟩ := pipe'
  simpa [pipeArguments, and_assoc] using same

theorem objectArguments_inj {t : ParcelType} {object object' : Option t.Value}
    (same : objectArguments t object = objectArguments t object') : object = object' := by
  cases object with
  | none =>
    cases object' with
    | none => rfl
    | some object' => cases same
  | some object =>
    cases object' with
    | none => cases same
    | some object' =>
      obtain ⟨first, _⟩ := List.cons.inj same
      rw [eq_of_heq (Sigma.mk.inj first).2]

/-- What is sent for a device determines the request. -/
theorem DeviceRequest.eq_of_arguments {r r' : DeviceRequest} (code : r.code = r'.code)
    (dev : r.dev = r'.dev) (arguments : r.arguments = r'.arguments) (fits : r.Fits)
    (fits' : r'.Fits) : r = r' := by
  cases r <;> cases r' <;> cases code
  all_goals simp only [DeviceRequest.dev] at dev
  case bulkTransferRead.bulkTransferRead.refl =>
    obtain ⟨rfl, rest⟩ := pipeArguments_inj arguments
    simpa [dev] using rest
  case bulkTransferWrite.bulkTransferWrite.refl =>
    obtain ⟨rfl, rest⟩ := pipeArguments_inj arguments
    obtain ⟨timeOut, rest⟩ := List.cons.inj rest
    obtain ⟨rfl, _⟩ := bufferArguments_inj fits fits' (congrArg (· ++ []) rest)
    simpa [dev] using timeOut
  case controlTransfer.controlTransfer.refl =>
    simp only [DeviceRequest.arguments, List.cons_append, List.nil_append, List.cons.injEq,
      Sigma.mk.injEq, heq_eq_eq, true_and] at arguments
    obtain ⟨requestType, requestCmd, value, index, timeout, rest⟩ := arguments
    obtain ⟨rfl, _⟩ := bufferArguments_inj fits fits' (congrArg (· ++ []) rest)
    rw [dev, UsbCtrlTransfer.ext requestType requestCmd value index timeout]
  case requestQueue.requestQueue.refl =>
    obtain ⟨rfl, rest⟩ := pipeArguments_inj arguments
    obtain ⟨rfl, last⟩ := bufferArguments_inj fits.1 fits'.1 rest
    obtain ⟨rfl, _⟩ := bufferArguments_inj fits.2 fits'.2 (congrArg (· ++ []) last)
    rw [dev]
  case regBulkCallback.regBulkCallback.refl =>
    obtain ⟨rfl, rest⟩ := pipeArguments_inj arguments
    rw [dev, objectArguments_inj rest]
  case bulkRead.bulkRead.refl =>
    obtain ⟨rfl, rest⟩ := pipeArguments_inj arguments
    rw [dev, objectArguments_inj rest]
  case bulkWrite.bulkWrite.refl =>
    obtain ⟨rfl, rest⟩ := pipeArguments_inj arguments
    rw [dev, objectArguments_inj rest]
  case unRegBulkCallback.unRegBulkCallback.refl =>
    obtain ⟨rfl, _⟩ := pipeArguments_inj (congrArg (· ++ []) arguments)
    rw [dev]
  case bulkCancel.bulkCancel.refl =>
    obtain ⟨rfl, _⟩ := pipeArguments_inj (congrArg (· ++ []) arguments)
    rw [dev]
  all_goals simp_all [DeviceRequest.arguments]

/-- A call is determined by its code and what is sent for it. -/
theorem SrvCall.eq_of_arguments {call call' : SrvCall} (code : call.code = call'.code)
    (arguments : call.arguments = call'.arguments) (fits : call.Fits) (fits' : call'.Fits) :
    call = call' := by
  cases call with
  | onDevice request =>
    cases call' with
    | onDevice request' =>
      have device : request.dev = request'.dev ∧ request.arguments = request'.arguments := by
        obtain ⟨busNum, rest⟩ := List.cons.inj arguments
        obtain ⟨devAddr, rest⟩ := List.cons.inj rest
        exact ⟨UsbDev.ext (eq_of_heq (Sigma.mk.inj busNum).2) (eq_of_heq (Sigma.mk.inj devAddr).2),
          rest⟩
      rw [DeviceRequest.eq_of_arguments code device.1 device.2 fits fits']
    | _ => cases request <;> cases code
  | _ =>
    cases call' with
    | onDevice request' => cases request' <;> cases code
    | _ =>
      cases code
      all_goals simp_all [SrvCall.arguments]

/-! ## What arrives -/

/-- The request with each buffer as far as the length that is sent with it goes. -/
def DeviceRequest.received : DeviceRequest → DeviceRequest
  | bulkTransferWrite dev pipe bufferData timeOut =>
    bulkTransferWrite dev pipe (sentBuffer bufferData).val timeOut
  | controlTransfer dev ctrl bufferData => controlTransfer dev ctrl (sentBuffer bufferData).val
  | requestQueue dev pipe clientData bufferData =>
    requestQueue dev pipe (sentBuffer clientData).val (sentBuffer bufferData).val
  | request => request

/-- The call with each buffer as far as the length that is sent with it goes. -/
def SrvCall.received : SrvCall → SrvCall
  | onDevice request => onDevice request.received
  | call => call

namespace SrvCall

theorem received_code (call : SrvCall) : call.received.code = call.code := by
  cases call with
  | onDevice request => cases request <;> rfl
  | _ => rfl

theorem received_arguments (call : SrvCall) : call.received.arguments = call.arguments := by
  cases call with
  | onDevice request =>
    cases request with
    | bulkTransferWrite | controlTransfer | requestQueue =>
      simp only [received, DeviceRequest.received, arguments, DeviceRequest.arguments,
        DeviceRequest.dev, bufferArguments_sentBuffer]
    | _ => rfl
  | _ => rfl

theorem received_fits (call : SrvCall) : call.received.Fits := by
  cases call with
  | onDevice request =>
    cases request with
    | bulkTransferWrite | controlTransfer => exact fitsLength_val _
    | requestQueue => exact ⟨fitsLength_val _, fitsLength_val _⟩
    | _ => trivial
  | _ => trivial

/-- A call whose buffers fit arrives as it is. -/
theorem received_of_fits {call : SrvCall} (fits : call.Fits) : call.received = call :=
  eq_of_arguments call.received_code call.received_arguments call.received_fits fits

end SrvCall

end UsbManager

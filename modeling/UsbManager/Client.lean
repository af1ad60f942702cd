import UsbManager.Interface

/-!
# `usb_srv_client.cpp`

`UsbSrvClient` asks the service through a proxy that it keeps in `proxy_`.  The
methods of the first half call `Connect()`, which fetches the proxy where there
is none; the others give up where `proxy_` is null.  A method is a `Method`, which
says what is particular to it.

What the system ability manager answers and what the proxy does are parameters.
`honest_iff` says when the client reports a success only of what the service has
carried out.
-/

namespace UsbManager

structure USBDevicePipe where
  busNum : UInt8
  devAddr : UInt8
  deriving DecidableEq, Repr

structure UsbRequest where
  pipe : USBDevicePipe
  endpoint : USBEndpoint
  clientData : List UInt8
  reqData : List UInt8
  deriving DecidableEq, Repr

def USB_ENDPOINT_DIR_IN : UInt32 := 0x80

def USBEndpoint.getDirection (endpoint : USBEndpoint) : UInt32 :=
  endpoint.address &&& USB_ENDPOINT_DIR_MASK

/-- `int32_t` from a `bool`, as a result code. -/
def uecOfBool : Bool → Uec
  | false => .UEC_OK
  | true => .other 1

/-- What `Connect` finds where it has no proxy: no `SystemAbilityManager`, no
remote object of the service, or one that `iface_cast` makes a proxy of. -/
inductive Found (ρ : Type) where
  | noManager
  | noService
  | service (proxy : Option ρ)

/-- What a method of the client returns and what its output arguments hold then;
before the call, the variables the caller passes. -/
structure ClientReply where
  srv : SrvReply
  pipe : USBDevicePipe
  req : UsbRequest
  deriving DecidableEq, Repr

namespace UsbSrvClient

/-- The two ways to test the connection: `Connect() != UEC_OK` and
`proxy_ == nullptr`. -/
inductive Guard where
  | connect
  | proxy
  deriving DecidableEq, Repr

/-- The parts of a method: its test of the connection and what it returns where
that fails, the call of the proxy or the result where there is none, the
variables the proxy is passed and what becomes of its answer. -/
structure Method where
  guard : Guard
  noInit : SrvReply → SrvReply := fun vars => { vars with ret := .UEC_INTERFACE_NO_INIT }
  request : Except Uec SrvCall
  passes : SrvReply → SrvReply := id
  returns : SrvReply → ClientReply → ClientReply := fun reply vars => { vars with srv := reply }

section

variable {ρ σ : Type}

/-- `Connect` -/
def connect (found : Found ρ) : Option ρ → Uec × Option ρ
  | some proxy => (.UEC_OK, some proxy)
  | none =>
    match found with
    | .noManager => (.UEC_INTERFACE_GET_SYSTEM_ABILITY_MANAGER_FAILED, none)
    | .noService => (.UEC_INTERFACE_GET_USB_SERVICE_FAILED, none)
    | .service proxy => (.UEC_OK, proxy)

/-- Whether the test of the connection succeeds, and `proxy_` after it. -/
def Guard.check (found : Found ρ) (proxy_ : Option ρ) : Guard → Bool × Option ρ
  | connect =>
    let (ret, proxy_) := UsbSrvClient.connect found proxy_
    (ret == .UEC_OK, proxy_)
  | proxy => (proxy_.isSome, proxy_)

/-- Carry the method out.  Nothing is returned where a null `proxy_` is used. -/
def Method.run (m : Method) (found : Found ρ) (invoke : ρ → SrvCall → SrvReply → σ → SrvReply × σ)
    (vars : ClientReply) (proxy_ : Option ρ) (s : σ) : Option ClientReply × Option ρ × σ :=
  match m.guard.check found proxy_ with
  | (false, proxy_) => (some { vars with srv := m.noInit vars.srv }, proxy_, s)
  | (true, proxy_) =>
    match m.request with
    | .error ret => (some { vars with srv := { vars.srv with ret } }, proxy_, s)
    | .ok request =>
      match proxy_ with
      | none => (none, none, s)
      | some proxy =>
        let (reply, s) := invoke proxy request (m.passes vars.srv) s
        (some (m.returns reply vars), some proxy, s)

end

/-! ## Devices, rights, functions and ports -/

def openDevice (device : UsbDevice) : Method where
  guard := .connect
  request := .ok (.onDevice (.openDevice device.busNum device.devAddr))
  returns reply vars :=
    if reply.ret ≠ .UEC_OK then { vars with srv := reply }
    else { vars with srv := reply, pipe := ⟨device.busNum, device.devAddr⟩ }

def hasRight (deviceName : String) : Method where
  guard := .connect
  noInit vars := { vars with flag := false }
  request := .ok (.hasRight deviceName)

def requestRight (deviceName : String) : Method where
  guard := .connect
  request := .ok (.requestRight deviceName)

def removeRight (deviceName : String) : Method where
  guard := .connect
  request := .ok (.removeRight deviceName)

def getDevices : Method where
  guard := .connect
  request := .ok .getDevices

def getCurrentFunctions : Method where
  guard := .connect
  request := .ok .getCurrentFunctions

/-- Where there is no connection this method returns `false`. -/
def setCurrentFunctions (funcs : Int32) : Method where
  guard := .connect
  noInit vars := { vars with ret := uecOfBool false }
  request := .ok (.setCurrentFunctions funcs)

def usbFunctionsFromString (funcs : String) : Method where
  guard := .connect
  request := .ok (.usbFunctionsFromString funcs)

def usbFunctionsToString (funcs : Int32) : Method where
  guard := .connect
  noInit vars := { vars with text := "" }
  request := .ok (.usbFunctionsToString funcs)

def getPorts : Method where
  guard := .connect
  request := .ok .getPorts

def getSupportedModes (portId : Int32) : Method where
  guard := .connect
  request := .ok (.getSupportedModes portId)

def setPortRole (portId powerRole dataRole : Int32) : Method where
  guard := .connect
  request := .ok (.setPortRole portId powerRole dataRole)

/-! ## Pipes -/

/-- `const UsbDev tdev` -/
def usbDev (pipe : USBDevicePipe) : UsbDev := ⟨pipe.busNum, pipe.devAddr⟩

/-- `const UsbPipe tpipe` -/
def usbPipe (endpoint : USBEndpoint) : UsbPipe := ⟨endpoint.interfaceId, endpoint.address.toUInt8⟩

def claimInterface (pipe : USBDevicePipe) (interface : UsbInterface) (force : Bool) : Method where
  guard := .proxy
  request := .ok (.onDevice (.claimInterface pipe.busNum pipe.devAddr (byteOfInt32 interface.id)
    force.toUInt8))

def releaseInterface (pipe : USBDevicePipe) (interface : UsbInterface) : Method where
  guard := .proxy
  request := .ok (.onDevice (.releaseInterface pipe.busNum pipe.devAddr
    (byteOfInt32 interface.id)))

def bulkTransfer (pipe : USBDevicePipe) (endpoint : USBEndpoint) (bufferData : List UInt8)
    (timeOut : Int32) : Method where
  guard := .proxy
  request :=
    if USB_ENDPOINT_DIR_IN = endpoint.getDirection then
      .ok (.onDevice (.bulkTransferRead (usbDev pipe) (usbPipe endpoint) timeOut))
    else if USB_ENDPOINT_DIR_OUT = endpoint.getDirection then
      .ok (.onDevice (.bulkTransferWrite (usbDev pipe) (usbPipe endpoint) bufferData timeOut))
    else .error .UEC_INTERFACE_INVALID_VALUE
  passes vars := { vars with bufferData }

def controlTransfer (pipe : USBDevicePipe) (ctrl : UsbCtrlTransfer) (bufferData : List UInt8) :
    Method where
  guard := .proxy
  request := .ok (.onDevice (.controlTransfer (usbDev pipe) ctrl bufferData))

def setConfiguration (pipe : USBDevicePipe) (config : USBConfig) : Method where
  guard := .proxy
  request := .ok (.onDevice (.setActiveConfig pipe.busNum pipe.devAddr (byteOfInt32 config.id)))

def setInterface (pipe : USBDevicePipe) (interface : UsbInterface) : Method where
  guard := .proxy
  request := .ok (.onDevice (.setInterface pipe.busNum pipe.devAddr (byteOfInt32 interface.id)
    (byteOfInt32 interface.alternateSetting)))

def getRawDescriptors (pipe : USBDevicePipe) : Method where
  guard := .connect
  request := .ok (.onDevice (.getRawDescriptor pipe.busNum pipe.devAddr))

def getFileDescriptor (pipe : USBDevicePipe) : Method where
  guard := .connect
  request := .ok (.onDevice (.getFileDescriptor pipe.busNum pipe.devAddr))

def close (pipe : USBDevicePipe) : Method where
  guard := .proxy
  noInit vars := { vars with flag := false }
  request := .ok (.onDevice (.close pipe.busNum pipe.devAddr))
  returns reply vars := { vars with srv := { reply with flag := reply.ret == .UEC_OK } }

/-! ## Requests -/

def CLAIM_FORCE_1 : UInt8 := 1

/-- The two buffers are local variables. -/
def pipeRequestWait (pipe : USBDevicePipe) (timeOut : Int64) : Method where
  guard := .proxy
  request := .ok (.onDevice (.requestWait (usbDev pipe) timeOut.toInt32))
  passes vars := { vars with clientData := [], bufferData := [] }
  returns reply vars :=
    let returned := { vars with srv := { vars.srv with ret := reply.ret } }
    if reply.ret ≠ .UEC_OK then returned
    else { returned with
      req := { vars.req with
        pipe, clientData := reply.clientData, reqData := reply.bufferData } }

def requestInitialize (request : UsbRequest) : Method where
  guard := .proxy
  request := .ok (.onDevice (.claimInterface request.pipe.busNum request.pipe.devAddr
    request.endpoint.interfaceId CLAIM_FORCE_1))

def requestFree (request : UsbRequest) : Method where
  guard := .proxy
  request := .ok (.onDevice (.requestCancel request.pipe.busNum request.pipe.devAddr
    request.endpoint.interfaceId request.endpoint.address.toUInt8))

def requestAbort (request : UsbRequest) : Method where
  guard := .proxy
  request := .ok (.onDevice (.requestCancel request.pipe.busNum request.pipe.devAddr
    request.endpoint.interfaceId request.endpoint.address.toUInt8))

def requestQueue (request : UsbRequest) : Method where
  guard := .proxy
  request := .ok (.onDevice (.requestQueue (usbDev request.pipe) (usbPipe request.endpoint)
    request.clientData request.reqData))

def regBulkCallback (pip : USBDevicePipe) (endpoint : USBEndpoint) (cb : Option Nat) :
    Method where
  guard := .proxy
  request := .ok (.onDevice (.regBulkCallback (usbDev pip) (usbPipe endpoint) cb))

def unRegBulkCallback (pip : USBDevicePipe) (endpoint : USBEndpoint) : Method where
  guard := .proxy
  request := .ok (.onDevice (.unRegBulkCallback (usbDev pip) (usbPipe endpoint)))

def bulkRead (pip : USBDevicePipe) (endpoint : USBEndpoint) (ashmem : Option Nat) :
    Method where
  guard := .proxy
  request := .ok (.onDevice (.bulkRead (usbDev pip) (usbPipe endpoint) ashmem))

def bulkWrite (pip : USBDevicePipe) (endpoint : USBEndpoint) (ashmem : Option Nat) :
    Method where
  guard := .proxy
  request := .ok (.onDevice (.bulkWrite (usbDev pip) (usbPipe endpoint) ashmem))

def bulkCancel (pip : USBDevicePipe) (endpoint : USBEndpoint) : Method where
  guard := .proxy
  request := .ok (.onDevice (.bulkCancel (usbDev pip) (usbPipe endpoint)))

end UsbSrvClient

/-- The calls of a client. -/
inductive ClientCall where
  | openDevice (device : UsbDevice)
  | hasRight (deviceName : String)
  | requestRight (deviceName : String)
  | removeRight (deviceName : String)
  | getDevices
  | getCurrentFunctions
  | setCurrentFunctions (funcs : Int32)
  | usbFunctionsFromString (funcs : String)
  | usbFunctionsToString (funcs : Int32)
  | getPorts
  | getSupportedModes (portId : Int32)
  | setPortRole (portId powerRole dataRole : Int32)
  | claimInterface (pipe : USBDevicePipe) (interface : UsbInterface) (force : Bool)
  | releaseInterface (pipe : USBDevicePipe) (interface : UsbInterface)
  | bulkTransfer (pipe : USBDevicePipe) (endpoint : USBEndpoint) (bufferData : List UInt8)
      (timeOut : Int32)
  | controlTransfer (pipe : USBDevicePipe) (ctrl : UsbCtrlTransfer) (bufferData : List UInt8)
  | setConfiguration (pipe : USBDevicePipe) (config : USBConfig)
  | setInterface (pipe : USBDevicePipe) (interface : UsbInterface)
  | getRawDescriptors (pipe : USBDevicePipe)
  | getFileDescriptor (pipe : USBDevicePipe)
  | close (pipe : USBDevicePipe)
  | pipeRequestWait (pipe : USBDevicePipe) (timeOut : Int64)
  | requestInitialize (request : UsbRequest)
  | requestFree (request : UsbRequest)
  | requestAbort (request : UsbRequest)
  | requestQueue (request : UsbRequest)
  | regBulkCallback (pip : USBDevicePipe) (endpoint : USBEndpoint) (cb : Option Nat)
  | unRegBulkCallback (pip : USBDevicePipe) (endpoint : USBEndpoint)
  | bulkRead (pip : USBDevicePipe) (endpoint : USBEndpoint) (ashmem : Option Nat)
  | bulkWrite (pip : USBDevicePipe) (endpoint : USBEndpoint) (ashmem : Option Nat)
  | bulkCancel (pip : USBDevicePipe) (endpoint : USBEndpoint)
  deriving DecidableEq, Repr

namespace ClientCall

open UsbSrvClient (Method)

def method : ClientCall → Method
  | openDevice device => UsbSrvClient.openDevice device
  | hasRight deviceName => UsbSrvClient.hasRight deviceName
  | requestRight deviceName => UsbSrvClient.requestRight deviceName
  | removeRight deviceName => UsbSrvClient.removeRight deviceName
  | getDevices => UsbSrvClient.getDevices
  | getCurrentFunctions => UsbSrvClient.getCurrentFunctions
  | setCurrentFunctions funcs => UsbSrvClient.setCurrentFunctions funcs
  | usbFunctionsFromString funcs => UsbSrvClient.usbFunctionsFromString funcs
  | usbFunctionsToString funcs => UsbSrvClient.usbFunctionsToString funcs
  | getPorts => UsbSrvClient.getPorts
  | getSupportedModes portId => UsbSrvClient.getSupportedModes portId
  | setPortRole portId powerRole dataRole => UsbSrvClient.setPortRole portId powerRole dataRole
  | claimInterface pipe interface force => UsbSrvClient.claimInterface pipe interface force
  | releaseInterface pipe interface => UsbSrvClient.releaseInterface pipe interface
  | bulkTransfer pipe endpoint bufferData timeOut =>
    UsbSrvClient.bulkTransfer pipe endpoint bufferData timeOut
  | controlTransfer pipe ctrl bufferData => UsbSrvClient.controlTransfer pipe ctrl bufferData
  | setConfiguration pipe config => UsbSrvClient.setConfiguration pipe config
  | setInterface pipe interface => UsbSrvClient.setInterface pipe interface
  | getRawDescriptors pipe => UsbSrvClient.getRawDescriptors pipe
  | getFileDescriptor pipe => UsbSrvClient.getFileDescriptor pipe
  | close pipe => UsbSrvClient.close pipe
  | pipeRequestWait pipe timeOut => UsbSrvClient.pipeRequestWait pipe timeOut
  | requestInitialize request => UsbSrvClient.requestInitialize request
  | requestFree request => UsbSrvClient.requestFree request
  | requestAbort request => UsbSrvClient.requestAbort request
  | requestQueue request => UsbSrvClient.requestQueue request
  | regBulkCallback pip endpoint cb => UsbSrvClient.regBulkCallback pip endpoint cb
  | unRegBulkCallback pip endpoint => UsbSrvClient.unRegBulkCallback pip endpoint
  | bulkRead pip endpoint ashmem => UsbSrvClient.bulkRead pip endpoint ashmem
  | bulkWrite pip endpoint ashmem => UsbSrvClient.bulkWrite pip endpoint ashmem
  | bulkCancel pip endpoint => UsbSrvClient.bulkCancel pip endpoint

/-- The success value of a method: `true` of the two that return a `bool`.  The
number `UsbFunctionsFromString` returns is an error or the value, and
`UsbFunctionsToString` has no success value. -/
def Succeeded : ClientCall → SrvReply → Prop
  | hasRight _, reply | close _, reply => reply.flag = true
  | usbFunctionsFromString _, reply => reply.ret = .UEC_OK ∧ reply.value = 0
  | usbFunctionsToString _, _ => False
  | _, reply => reply.ret = .UEC_OK

end ClientCall

/-- The same for a method of the proxy. -/
def SrvCall.Succeeded : SrvCall → SrvReply → Prop
  | hasRight _, reply => reply.flag = true
  | usbFunctionsFromString _, reply => reply.ret = .UEC_OK ∧ reply.value = 0
  | usbFunctionsToString _, _ => False
  | _, reply => reply.ret = .UEC_OK

/-! ## What a success means -/

namespace UsbSrvClient

section

variable {ρ σ : Type} {found : Found ρ} {invoke : ρ → SrvCall → SrvReply → σ → SrvReply × σ}
  {vars result : ClientReply} {proxy_ proxy' : Option ρ} {s s' : σ}

/-- What returns has failed the test of the connection, had nothing to ask or has asked
the proxy. -/
theorem Method.run_returned {m : Method}
    (ran : m.run found invoke vars proxy_ s = (some result, proxy', s')) :
    ((m.guard.check found proxy_).1 = false ∧ result.srv = m.noInit vars.srv) ∨
      (∃ ret, m.request = .error ret ∧ result.srv.ret = ret) ∨
      ∃ proxy request reply, proxy' = some proxy ∧ m.request = .ok request ∧
        invoke proxy request (m.passes vars.srv) s = (reply, s') ∧
        result = m.returns reply vars := by
  unfold run at ran
  rcases checked : m.guard.check found proxy_ with ⟨passed, after⟩
  rw [checked] at ran
  cases passed with
  | false =>
    cases ran
    exact Or.inl ⟨rfl, rfl⟩
  | true =>
    dsimp only at ran
    cases asked : m.request with
    | error ret =>
      rw [asked] at ran
      cases ran
      exact Or.inr (Or.inl ⟨ret, rfl, rfl⟩)
    | ok request =>
      rw [asked] at ran
      cases after with
      | none => cases ran
      | some proxy =>
        cases ran
        exact Or.inr (Or.inr ⟨proxy, request, _, rfl, rfl, rfl, rfl⟩)

/-- Without a connection only `SetCurrentFunctions` returns a success. -/
theorem noInit_succeeded {call : ClientCall} {vars : SrvReply} :
    call.Succeeded (call.method.noInit vars) ↔ ∃ funcs, call = .setCurrentFunctions funcs := by
  cases call with
  | setCurrentFunctions funcs => exact ⟨fun _ => ⟨funcs, rfl⟩, fun _ => rfl⟩
  | _ =>
    refine ⟨fun succeeded => ?_, fun ⟨_, same⟩ => ?_⟩
    · simp [ClientCall.Succeeded, ClientCall.method, openDevice, hasRight, requestRight,
        removeRight, getDevices, getCurrentFunctions, usbFunctionsFromString, getPorts,
        getSupportedModes, setPortRole, claimInterface, releaseInterface, bulkTransfer,
        controlTransfer, setConfiguration, setInterface, getRawDescriptors, getFileDescriptor,
        close, pipeRequestWait, requestInitialize, requestFree, requestAbort, requestQueue,
        regBulkCallback, unRegBulkCallback, bulkRead, bulkWrite, bulkCancel] at succeeded
    · cases same

/-- Where there is nothing to ask the result is no success. -/
theorem not_succeeded_of_noRequest {call : ClientCall} {ret : Uec}
    (asks : call.method.request = .error ret) {reply : SrvReply} (returned : reply.ret = ret) :
    ¬ call.Succeeded reply := by
  cases call with
  | bulkTransfer pipe endpoint bufferData timeOut =>
    intro succeeded
    have ok : reply.ret = .UEC_OK := succeeded
    unfold ClientCall.method bulkTransfer at asks
    dsimp only at asks
    split at asks
    · cases asks
    · split at asks
      · cases asks
      · cases asks
        rw [returned] at ok
        cases ok
  | _ => cases asks

/-- A method returns a success only where the proxy has. -/
theorem succeeded_of_returns {call : ClientCall} {request : SrvCall}
    (asks : call.method.request = .ok request) {reply : SrvReply} {vars : ClientReply}
    (succeeded : call.Succeeded (call.method.returns reply vars).srv) :
    request.Succeeded reply := by
  cases call with
  | openDevice device =>
    cases asks
    unfold ClientCall.method openDevice ClientCall.Succeeded at succeeded
    dsimp only at succeeded
    split at succeeded
    · exact succeeded
    · exact succeeded
  | bulkTransfer pipe endpoint bufferData timeOut =>
    unfold ClientCall.method bulkTransfer at asks
    dsimp only at asks
    split at asks
    · cases asks
      exact succeeded
    · split at asks
      · cases asks
        exact succeeded
      · cases asks
  | close pipe =>
    cases asks
    exact eq_of_beq succeeded
  | pipeRequestWait pipe timeOut =>
    cases asks
    unfold ClientCall.method pipeRequestWait ClientCall.Succeeded at succeeded
    dsimp only at succeeded
    split at succeeded
    · exact succeeded
    · exact succeeded
  | _ =>
    cases asks
    exact succeeded

theorem connect_check (found : Found ρ) (proxy_ : Option ρ) :
    (Guard.connect.check found proxy_).1 = false ↔ (connect found proxy_).1 ≠ .UEC_OK := by
  unfold Guard.check
  simp

/-- The method returns its success value only if it asked the proxy and the proxy
returned a success. -/
def Honest (found : Found ρ) (invoke : ρ → SrvCall → SrvReply → σ → SrvReply × σ)
    (call : ClientCall) (vars : ClientReply) (proxy_ : Option ρ) (s : σ) : Prop :=
  ∀ result proxy' s', call.method.run found invoke vars proxy_ s = (some result, proxy', s') →
    call.Succeeded result.srv →
    ∃ proxy request reply, proxy' = some proxy ∧ call.method.request = .ok request ∧
      invoke proxy request (call.method.passes vars.srv) s = (reply, s') ∧
      request.Succeeded reply

/-- Where `Connect` fails there is no proxy. -/
theorem connect_none (failed : (connect found proxy_).1 ≠ .UEC_OK) :
    (connect found proxy_).2 = none := by
  cases proxy_ with
  | some proxy => exact absurd rfl failed
  | none =>
    cases found with
    | noManager | noService => rfl
    | service proxy => exact absurd rfl failed

end

/-- Every method of the client is honest about its success, but for
`SetCurrentFunctions` where `Connect` fails. -/
theorem honest_iff {ρ σ : Type} (found : Found ρ)
    (invoke : ρ → SrvCall → SrvReply → σ → SrvReply × σ) (call : ClientCall) (vars : ClientReply)
    (proxy_ : Option ρ) (s : σ) :
    Honest found invoke call vars proxy_ s ↔
      ¬ ((∃ funcs, call = .setCurrentFunctions funcs) ∧
        (connect found proxy_).1 ≠ .UEC_OK) := by
  refine ⟨fun honest ⟨⟨funcs, same⟩, failed⟩ => ?_, fun good result proxy' s' ran succeeded => ?_⟩
  · subst same
    have checked : Guard.connect.check found proxy_ = (false, none) :=
      Prod.ext ((connect_check found proxy_).mpr failed) (connect_none failed)
    have ran : (ClientCall.setCurrentFunctions funcs).method.run found invoke vars proxy_ s =
        (some { vars with srv := { vars.srv with ret := .UEC_OK } }, none, s) := by
      unfold ClientCall.method setCurrentFunctions Method.run
      dsimp only
      rw [checked]
      rfl
    obtain ⟨proxy, _, _, there, _⟩ := honest _ _ _ ran rfl
    cases there
  · rcases Method.run_returned ran with ⟨failed, returned⟩ | ⟨ret, asks, returned⟩ |
      ⟨proxy, request, reply, there, asks, answer, returned⟩
    · rw [returned] at succeeded
      obtain ⟨funcs, rfl⟩ := noInit_succeeded.mp succeeded
      exact absurd ⟨⟨funcs, rfl⟩, (connect_check found proxy_).mp failed⟩ good
    · exact absurd succeeded (not_succeeded_of_noRequest asks returned)
    · rw [returned] at succeeded
      exact ⟨proxy, request, reply, there, asks, answer, succeeded_of_returns asks succeeded⟩

/-- `SetCurrentFunctions` returns 0 where the service is not running. -/
theorem not_honest_setCurrentFunctions :
    ¬ Honest .noService (fun _ _ reply s => (reply, s) : Unit → _ → _ → Unit → _)
      (.setCurrentFunctions 4) ⟨{}, ⟨1, 2⟩, ⟨⟨1, 2⟩, {}, [], []⟩⟩ none () := by
  intro honest
  obtain ⟨_, _, _, there, _⟩ := honest _ _ _ rfl rfl
  cases there

end UsbSrvClient

end UsbManager

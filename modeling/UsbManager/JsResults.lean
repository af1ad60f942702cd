import UsbManager.JsTransfers

/-!
# What JavaScript programs are told

What the functions of the JavaScript module return of the results of the client.  A
program that is told of a success was told the truth (`honest_of_signals`): the proxy was
asked and has succeeded, unless functions were to be set and there is no service.

A device that `getDevices` lists can be connected to (`connectDevice_listed`): what the
program gets back names the device that the service has asked usbd to open.
-/

namespace UsbManager.Js

namespace UsbInfo

open UsbManager.Js.NapiUtil UsbServerProxy

/-- What a function returns: a value, a promise that is settled with a boolean, a variable
that was never set, or nothing but an exception. -/
inductive Returned where
  | value (value : JsValue)
  | resolved (value : Bool)
  | rejected (value : Bool)
  | unset
  | thrown

/-- `Uint8ArrayToJsValue` copies nothing where there is nothing. -/
def uint8ArrayToJsValue (bytes : List UInt8) : Returned :=
  if memcpyAllowed bytes.length bytes.length then .value (uint8Array bytes) else .unset

/-- The functions that settle a promise. -/
def settledWith (ret : Uec) : Returned :=
  if ret = .UEC_OK then .resolved true else .rejected false

/-- The loop of `CoreGetPorts`. -/
def portObject (port : UsbPort) : JsValue :=
  .object [
    setValueInt32 "id" port.id,
    setValueInt32 "supportedModes" port.supportedModes,
    ("status", .object [
      setValueInt32 "currentMode" port.usbPortStatus.currentMode,
      setValueInt32 "currentPowerRole" port.usbPortStatus.currentPowerRole,
      setValueInt32 "currentDataRole" port.usbPortStatus.currentDataRole])]

/-- The result codes as numbers, which are declared elsewhere: 0 is `UEC_OK`.  The code
`UEC_INTERFACE_PERMISSION_DENIED` is only tested for. -/
structure Codes where
  number : Uec → Int32
  number_eq_zero : ∀ ret, number ret = 0 ↔ ret = .UEC_OK
  interfacePermissionDenied : Uec

section

variable (codes : Codes)

def number (ret : Uec) : Returned := .value (.number (codes.number ret).toInt)

/-- What a function returns of the result of the client.  A transfer has a promise of its
own. -/
def returns : JsFunction → ClientReply → Option Returned
  | .getDevices, result =>
    if result.srv.ret ≠ .UEC_OK then some (.value .undefined)
    else some (.value (.array (result.srv.deviceList.map ctoJsUsbDevice)))
  | .connectDevice, result =>
    if result.srv.ret = .UEC_OK then some (.value (createUsbDevicePipe result.pipe))
    else if result.srv.ret = .UEC_SERVICE_PERMISSION_DENIED ∨
        result.srv.ret = codes.interfacePermissionDenied then some .thrown
    else some (.value .undefined)
  | .hasRight, result => some (.value (.boolean result.srv.flag))
  | .requestRight, result => some (settledWith result.srv.ret)
  | .setCurrentFunctions, result => some (settledWith result.srv.ret)
  | .setPortRoles, result => some (settledWith result.srv.ret)
  | .usbFunctionsFromString, result =>
    if result.srv.ret = .UEC_OK then some (.value (.number result.srv.value.toInt))
    else some (number codes result.srv.ret)
  | .usbFunctionsToString, result => some (.value (.string (cString result.srv.text)))
  | .getCurrentFunctions, result =>
    if result.srv.ret ≠ .UEC_OK then some (.value .undefined)
    else some (.value (.number result.srv.value.toInt))
  | .getPorts, result =>
    if result.srv.ret ≠ .UEC_OK then some (.value .undefined)
    else some (.value (.array (result.srv.ports.map portObject)))
  | .getSupportedModes, result => some (.value (.number result.srv.value.toInt))
  | .claimInterface, result => some (number codes result.srv.ret)
  | .releaseInterface, result => some (number codes result.srv.ret)
  | .setInterface, result => some (number codes result.srv.ret)
  | .setConfiguration, result => some (number codes result.srv.ret)
  | .getRawDescriptor, result =>
    if result.srv.ret = .UEC_OK then some (uint8ArrayToJsValue result.srv.bufferData)
    else some (.value .undefined)
  | .getFileDescriptor, result => some (.value (.number result.srv.value.toInt))
  | .closePipe, result =>
    some (number codes (if result.srv.flag then .UEC_OK else .ERR_INVALID_VALUE))
  | .bulkTransfer, _ => none
  | .controlTransfer, _ => none

end

/-- What tells a program of a success.  Of the four functions that return the number or
the text they were asked for, nothing does. -/
def Signals : JsFunction → Returned → Prop
  | .hasRight, .value (.boolean true) => True
  | .requestRight, .resolved true => True
  | .setCurrentFunctions, .resolved true => True
  | .setPortRoles, .resolved true => True
  | .getDevices, .value (.array _) => True
  | .getPorts, .value (.array _) => True
  | .connectDevice, .value (.object _) => True
  | .getCurrentFunctions, .value (.number _) => True
  | .getRawDescriptor, .value (.typedArray _) => True
  | .claimInterface, .value (.number n) => n = 0
  | .releaseInterface, .value (.number n) => n = 0
  | .setInterface, .value (.number n) => n = 0
  | .setConfiguration, .value (.number n) => n = 0
  | .closePipe, .value (.number n) => n = 0
  | _, _ => False

/-! ## What is asked is what the function is for -/

/-- The function that makes a call of the client. -/
def functionOf : ClientCall → Option JsFunction
  | .openDevice _ => some .connectDevice
  | .hasRight _ => some .hasRight
  | .requestRight _ => some .requestRight
  | .getDevices => some .getDevices
  | .getCurrentFunctions => some .getCurrentFunctions
  | .setCurrentFunctions _ => some .setCurrentFunctions
  | .usbFunctionsFromString _ => some .usbFunctionsFromString
  | .usbFunctionsToString _ => some .usbFunctionsToString
  | .getPorts => some .getPorts
  | .getSupportedModes _ => some .getSupportedModes
  | .setPortRole _ _ _ => some .setPortRoles
  | .claimInterface _ _ _ => some .claimInterface
  | .releaseInterface _ _ => some .releaseInterface
  | .bulkTransfer _ _ _ _ => some .bulkTransfer
  | .controlTransfer _ _ _ => some .controlTransfer
  | .setConfiguration _ _ => some .setConfiguration
  | .setInterface _ _ => some .setInterface
  | .getRawDescriptors _ => some .getRawDescriptor
  | .getFileDescriptor _ => some .getFileDescriptor
  | .close _ => some .closePipe
  | _ => none

/-- Nothing is asked, or what the function is for. -/
def IsFor (function : JsFunction) (asked : Option ClientCall) : Prop :=
  ∀ call, asked = some call → functionOf call = some function

section

variable {engine : Engine} {function : JsFunction} {args : List JsValue}

theorem isFor_none : IsFor function none := by
  intro call same
  cases same

theorem isFor_some {call : ClientCall} (made : functionOf call = some function) :
    IsFor function (some call) := by
  intro other same
  cases same
  exact made

theorem always_napiAssert {assertion : Prop} [Decidable assertion]
    {rest : Native (Option ClientCall)} (always : rest.Always (IsFor function)) :
    (napiAssert assertion rest).Always (IsFor function) := by
  unfold napiAssert
  split_ifs
  · exact always
  · exact Native.always_bind fun _ => Native.always_pure isFor_none

theorem always_withPipe {count : Nat} {rest : USBDevicePipe → Native (Option ClientCall)}
    (always : ∀ pipe, (rest pipe).Always (IsFor function)) :
    (withPipe engine count args rest).Always (IsFor function) :=
  always_napiAssert (always_napiAssert (Native.always_bind always))

theorem always_withText {call : String → ClientCall}
    (made : ∀ text, functionOf (call text) = some function) :
    (withText engine call args).Always (IsFor function) :=
  always_napiAssert (always_napiAssert (Native.always_pure (isFor_some (made _))))

theorem always_withNumber {call : Int32 → ClientCall}
    (made : ∀ value, functionOf (call value) = some function) :
    (withNumber call args).Always (IsFor function) :=
  always_napiAssert (always_napiAssert (Native.always_pure (isFor_some (made _))))

theorem always_withoutArguments {call : ClientCall} (made : functionOf call = some function) :
    (withoutArguments call args).Always (IsFor function) :=
  always_napiAssert (Native.always_pure (isFor_some made))

/-- The call of a transfer that is started. -/
theorem isFor_map {α : Type} {context : Option α} {asks : α → ClientCall}
    (made : ∀ a, functionOf (asks a) = some function) : IsFor function (context.map asks) := by
  intro call same
  obtain ⟨a, -, rfl⟩ := Option.map_eq_some_iff.mp same
  exact made a

/-- Whatever a function is called with. -/
theorem always_asks (engine : Engine) (function : JsFunction) (args : List JsValue) :
    (asks engine function args).Always (IsFor function) := by
  cases function with
  | getDevices | getCurrentFunctions | getPorts => exact always_withoutArguments rfl
  | hasRight | requestRight | usbFunctionsFromString => exact always_withText fun _ => rfl
  | usbFunctionsToString | setCurrentFunctions | getSupportedModes =>
    exact always_withNumber fun _ => rfl
  | connectDevice =>
    refine always_napiAssert (always_napiAssert (Native.always_bind fun _ => ?_))
    exact Native.always_pure (isFor_some rfl)
  | setPortRoles =>
    refine always_napiAssert (always_napiAssert (always_napiAssert (always_napiAssert ?_)))
    exact Native.always_pure (isFor_some rfl)
  | claimInterface =>
    refine always_withPipe fun pipe => always_napiAssert (Native.always_bind fun interface => ?_)
    split_ifs
    · split
      · exact Native.always_pure (isFor_some rfl)
      · exact Native.always_bind fun _ => Native.always_pure isFor_none
    · exact Native.always_pure (isFor_some rfl)
  | releaseInterface =>
    refine always_withPipe fun pipe => Native.always_bind fun _ => ?_
    exact Native.always_pure (isFor_some rfl)
  | setInterface | setConfiguration =>
    refine always_withPipe fun pipe => always_napiAssert (Native.always_bind fun _ => ?_)
    exact Native.always_pure (isFor_some rfl)
  | getRawDescriptor | getFileDescriptor | closePipe =>
    exact always_withPipe fun pipe => Native.always_pure (isFor_some rfl)
  | bulkTransfer | controlTransfer =>
    exact Native.always_bind fun context => Native.always_pure (isFor_map fun _ => rfl)

end

/-! ## A success is what the client returned -/

section

variable {codes : Codes} {function : JsFunction} {call : ClientCall} {result : ClientReply}
  {returned : Returned}

theorem number_eq {ret : Uec} (zero : (codes.number ret).toInt = 0) : ret = .UEC_OK :=
  (codes.number_eq_zero ret).mp (Int32.toInt_inj.mp zero)

/-- A program is told of a success only where the client has returned one. -/
theorem succeeded_of_signals (made : functionOf call = some function)
    (same : returns codes function result = some returned) (signals : Signals function returned) :
    call.Succeeded result.srv := by
  cases call with
  | getDevices | getPorts | getCurrentFunctions =>
    cases made
    unfold returns at same
    dsimp only at same
    split_ifs at same with failed
    · cases same
      cases signals
    · exact not_not.mp failed
  | openDevice device =>
    cases made
    unfold returns at same
    dsimp only at same
    split_ifs at same with ok denied
    · exact ok
    · cases same
      cases signals
    · cases same
      cases signals
  | getRawDescriptors pipe =>
    cases made
    unfold returns at same
    dsimp only at same
    split_ifs at same with ok
    · exact ok
    · cases same
      cases signals
  | hasRight deviceName =>
    cases made
    cases same
    change result.srv.flag = true
    cases told : result.srv.flag with
    | true => rfl
    | false =>
      rw [told] at signals
      cases signals
  | requestRight | setCurrentFunctions | setPortRole =>
    cases made
    cases same
    change result.srv.ret = .UEC_OK
    by_contra failed
    unfold settledWith at signals
    rw [if_neg failed] at signals
    cases signals
  | claimInterface | releaseInterface | setInterface | setConfiguration =>
    cases made
    cases same
    exact number_eq signals
  | close pipe =>
    cases made
    cases same
    change result.srv.flag = true
    have zero := @number_eq codes _ signals
    by_contra refused
    rw [if_neg refused] at zero
    cases zero
  | usbFunctionsFromString | usbFunctionsToString | getSupportedModes | getFileDescriptor =>
    cases made
    cases signals
  | bulkTransfer | controlTransfer =>
    cases made
    cases same
  | _ => cases made

/-- Whatever a function of the module is called with: if it tells of a success, the proxy
has been asked for what the call of the client asks and has returned a success.  The
exception is `setCurrentFunctions` where there is no service. -/
theorem honest_of_signals {ρ σ : Type} {engine : Engine} {args : List JsValue}
    {pending pending' : Bool}
    (asked : (asks engine function args).run pending = some (some call, pending'))
    {found : Found ρ} {invoke : ρ → SrvCall → SrvReply → σ → SrvReply × σ} {vars : ClientReply}
    {proxy_ proxy' : Option ρ} {s s' : σ}
    (ran : call.method.run found invoke vars proxy_ s = (some result, proxy', s'))
    (same : returns codes function result = some returned) (signals : Signals function returned) :
    (∃ proxy request reply, proxy' = some proxy ∧ call.method.request = .ok request ∧
      invoke proxy request (call.method.passes vars.srv) s = (reply, s') ∧
      request.Succeeded reply) ∨
    function = .setCurrentFunctions ∧ (UsbSrvClient.connect found proxy_).1 ≠ .UEC_OK := by
  have made : functionOf call = some function :=
    always_asks engine function args pending (some call) pending' asked call rfl
  have succeeded := succeeded_of_signals made same signals
  rcases UsbSrvClient.Method.run_returned ran with ⟨failed, left⟩ | ⟨ret, asks, left⟩ |
    ⟨proxy, request, reply, there, asks, answer, left⟩
  · rw [left] at succeeded
    obtain ⟨funcs, rfl⟩ := UsbSrvClient.noInit_succeeded.mp succeeded
    cases made
    exact .inr ⟨rfl, (UsbSrvClient.connect_check found proxy_).mp failed⟩
  · exact absurd succeeded (UsbSrvClient.not_succeeded_of_noRequest asks left)
  · rw [left] at succeeded
    exact .inl ⟨proxy, request, reply, there, asks, answer,
      UsbSrvClient.succeeded_of_returns asks succeeded⟩

end

/-- Result codes of which only `UEC_OK` is 0. -/
def bareCodes : Codes where
  number ret := if ret = .UEC_OK then 0 else -1
  number_eq_zero ret := by
    split_ifs with ok
    · exact iff_of_true rfl ok
    · exact iff_of_false (by decide) ok
  interfacePermissionDenied := .other 2

/-- A program that is told it has a right. -/
theorem honest_hasRight :
    let granting : Unit → SrvCall → SrvReply → Unit → SrvReply × Unit :=
      fun _ _ vars s => ({ vars with flag := true }, s)
    (∃ proxy request reply, some () = some proxy ∧
      (ClientCall.hasRight "1-2").method.request = .ok request ∧
      granting proxy request {} () = (reply, ()) ∧ request.Succeeded reply) ∨
    JsFunction.hasRight = .setCurrentFunctions ∧
      (UsbSrvClient.connect (.service (some ())) none : Uec × Option Unit).1 ≠ .UEC_OK := by
  intro granting
  have asked : (asks bareEngine .hasRight [.string "1-2"]).run false =
      some (some (.hasRight "1-2"), false) := by decide
  exact @honest_of_signals bareCodes .hasRight (.hasRight "1-2") ⟨{ flag := true }, ⟨0, 0⟩,
    ⟨⟨0, 0⟩, {}, [], []⟩⟩ (.value (.boolean true)) Unit Unit bareEngine [.string "1-2"] false false
    asked (.service (some ())) granting ⟨{}, ⟨0, 0⟩, ⟨⟨0, 0⟩, {}, [], []⟩⟩ none (some ()) () () rfl
    rfl trivial

/-! ## From the list of devices to a pipe -/

section

variable {κ β : Type} [DecidableEq κ] {usbd : Usbd} {client : κ} {outside : Outside}
  {data : MessageParcel β} {units : (t : ParcelType) → t.Value → List β} {base : IPCObjectStub β}
  {junk : Uninitialised} {invalid : UInt32} {bundle : κ → Option String}

/-- A method that connects gets a proxy where the service can be found. -/
theorem run_of_found {σ : Type} {m : UsbSrvClient.Method}
    {invoke : Unit → SrvCall → SrvReply → σ → SrvReply × σ} {vars : ClientReply}
    {proxy_ : Option Unit} {s : σ} {request : SrvCall} (guarded : m.guard = .connect)
    (asks : m.request = .ok request) :
    m.run (.service (some ())) invoke vars proxy_ s =
      (some (m.returns (invoke () request (m.passes vars.srv) s).1 vars), some (),
        (invoke () request (m.passes vars.srv) s).2) := by
  unfold UsbSrvClient.Method.run
  rw [guarded, asks]
  cases proxy_ with
  | none => rfl
  | some proxy => rfl

/-- The client after its proxy has been found. -/
def found (client : κ) (service : ServiceState) (s : ClientState κ) : ClientState κ where
  proxies := Function.update s.proxies client (some ())
  service := service

/-- What a client that connects gets of the service. -/
theorem clientCall_of_connect (faithful : data.Faithful units) (sameWidth : SameWidth units)
    (brief : usbd.Brief) {s : ClientState κ} (sound : s.service.Sound) {call : ClientCall}
    {request : SrvCall} (guarded : call.method.guard = .connect)
    (asks : call.method.request = .ok request) (passes : call.method.passes = id)
    (complete : request.complete = true) (fits : request.Fits)
    (dispatched : request.code.dispatched = true) (vars : ClientReply) :
    let answer := UsbService.whole usbd invalid outside (bundle client) request s.service
    clientCall (overIpc data base junk usbd invalid bundle) client outside call vars s =
      (some (call.method.returns (request.owed answer.1 vars.srv) vars),
        found client answer.2 s) := by
  intro answer
  have asked := @overIpc_eq_inProcess κ β data units base junk usbd invalid outside bundle
    faithful sameWidth brief s.service sound request complete fits dispatched client vars.srv
  unfold clientCall
  rw [run_of_found guarded asks, passes, id, asked]
  rfl

/-- What `connectDevice` returns of the reply of the service. -/
theorem returns_openDevice (codes : Codes) (device : UsbDevice) (reply srv : SrvReply)
    (vars : ClientReply) :
    returns codes .connectDevice
        ((ClientCall.openDevice device).method.returns (reply.returned srv id) vars) =
      if reply.ret = .UEC_OK then
        some (.value (createUsbDevicePipe ⟨device.busNum, device.devAddr⟩))
      else if reply.ret = .UEC_SERVICE_PERMISSION_DENIED ∨
          reply.ret = codes.interfacePermissionDenied then some .thrown
      else some (.value .undefined) := by
  unfold SrvReply.returned
  by_cases ok : reply.ret = .UEC_OK
  · rw [if_pos ok, if_pos ok]
    rfl
  · have left : (ClientCall.openDevice device).method.returns { srv with ret := reply.ret }
        vars = { vars with srv := { srv with ret := reply.ret } } := if_pos ok
    rw [if_neg ok, if_neg ok, left]
    exact if_neg ok

/-- A program lists the devices, and connects to one of them later. -/
theorem connectDevice_listed (engine : Engine) (codes : Codes) (faithful : data.Faithful units)
    (sameWidth : SameWidth units) (brief : usbd.Brief) {s later : ClientState κ}
    (sound : s.service.Sound) (soundLater : later.service.Sound) {dev : UsbDevice}
    (listed : dev ∈ UsbService.getDevices s.service.1) (pipe : USBDevicePipe) :
    let client_ := clientCall (overIpc data base junk usbd invalid bundle) client outside
    let w := later.service.1
    let opens := UsbdCall.OpenDevice ⟨dev.busNum, dev.devAddr⟩
    ∃ result objs obj call, client_ .getDevices (callVariables pipe []) s =
        (some result, found client s.service s) ∧
      returns codes .getDevices result = some (.value (.array objs)) ∧ obj ∈ objs ∧
      (asks engine .connectDevice [obj]).Reads (some call) ∧
      if UsbService.hasRight (bundle client) (deviceName dev.busNum dev.devAddr) w then
        ∃ result, client_ call (callVariables pipe []) later =
            (some result, found client ({ w with calls := w.calls ++ [opens] }, later.service.2)
              later) ∧
          ((usbd.answer w.calls opens).ret = .UEC_OK →
            returns codes .connectDevice result =
              some (.value (createUsbDevicePipe ⟨dev.busNum, dev.devAddr⟩)))
      else
        ∃ result, client_ call (callVariables pipe []) later =
            (some result, found client later.service later) ∧
          returns codes .connectDevice result = some .thrown := by
  intro client_ w opens
  have lists := @clientCall_of_connect κ β _ usbd client outside data units base junk invalid
    bundle faithful sameWidth brief s sound .getDevices .getDevices rfl rfl rfl rfl trivial rfl
    (callVariables pipe [])
  let device := readDevice engine dev.transmitted
  have connects := @clientCall_of_connect κ β _ usbd client outside data units base junk invalid
    bundle faithful sameWidth brief later soundLater (.openDevice device)
    (.onDevice (.openDevice dev.busNum dev.devAddr)) rfl rfl rfl rfl trivial rfl
    (callVariables pipe [])
  have opened : UsbService.whole usbd invalid outside (bundle client)
      (.onDevice (.openDevice dev.busNum dev.devAddr)) later.service =
      ((UsbService.openDevice usbd (bundle client) dev.busNum dev.devAddr w).1.outcome,
        (UsbService.openDevice usbd (bundle client) dev.busNum dev.devAddr w).2,
        later.service.2) := rfl
  rw [opened] at connects
  unfold UsbService.openDevice at connects
  refine ⟨_, _, ctoJsUsbDevice dev.transmitted, .openDevice device, lists, rfl, ?_, ?_, ?_⟩
  · exact List.mem_map.mpr ⟨dev.transmitted, List.mem_map.mpr ⟨dev, listed, rfl⟩, rfl⟩
  · unfold asks coreConnectDevice
    refine (reads_napiAssert (Nat.le_refl 1)).mpr ((reads_napiAssert rfl).mpr ?_)
    exact Native.reads_bind.mpr ⟨_, reads_ctoJsUsbDevice engine dev.transmitted,
      Native.reads_pure.mpr rfl⟩
  · split_ifs with right
    · rw [if_neg (not_not.mpr right)] at connects
      refine ⟨_, connects, fun ok => ?_⟩
      exact (returns_openDevice codes device _ _ _).trans (if_pos ok)
    · have refused : ¬ Uec.UEC_SERVICE_PERMISSION_DENIED = .UEC_OK := by decide
      rw [if_pos right] at connects
      refine ⟨_, connects, ?_⟩
      exact (returns_openDevice codes device _ _ _).trans
        ((if_neg refused).trans (if_pos (.inl rfl)))

end

/-- A device without configurations. -/
def plugged : UsbDevice := { UsbService.zeroDevice with busNum := 1, devAddr := 2 }

/-- The device is plugged in, and a program has the right to it. -/
def attachedState : ClientState Unit where
  proxies _ := none
  service := ({
    hostManager := (HostManager.addDevice {} plugged).2
    rightManager := (RightManager.addDeviceRight {} (deviceName 1 2) "app").2 },
    (ServiceState.started allowing.queryPort).2)

theorem getElem?_attachedState (name : String) :
    attachedState.service.1.hostManager.devices[name]? =
      if name = deviceName 1 2 then some plugged else none :=
  (HostManager.getElem?_addDevice {} _ name).trans
    (congrArg (ite _ _) Std.TreeMap.getElem?_emptyc)

theorem sound_attachedState : attachedState.service.Sound where
  idle := by decide
  ports := UsbPortManager.size_queryPort (m := {}) rfl allowing.queryPort
  devices name dev there := by
    rw [getElem?_attachedState] at there
    split_ifs at there with same
    cases there
    exact ⟨same, ⟨by decide, fun config among => absurd among List.not_mem_nil⟩,
      fun config among => absurd among List.not_mem_nil⟩

/-- The program connects to the device. -/
theorem connectDevice_attached :
    let base : IPCObjectStub Slot := fun _ _ reply => (.UEC_OK, reply)
    let client_ := clientCall (overIpc slotParcel base ⟨7, 7⟩ twoBytes 0 fun _ => some "app") ()
      allowing
    ∃ result objs obj call result', client_ .getDevices (callVariables ⟨0, 0⟩ []) attachedState =
        (some result, found () attachedState.service attachedState) ∧
      returns bareCodes .getDevices result = some (.value (.array objs)) ∧ obj ∈ objs ∧
      (asks bareEngine .connectDevice [obj]).Reads (some call) ∧
      (client_ call (callVariables ⟨0, 0⟩ []) attachedState).1 = some result' ∧
      returns bareCodes .connectDevice result' = some (.value (createUsbDevicePipe ⟨1, 2⟩)) := by
  intro base client_
  have brief : twoBytes.Brief := by
    intro calls call
    simp [twoBytes, FitsLength]
  have listed : plugged ∈ UsbService.getDevices attachedState.service.1 :=
    List.mem_map.mpr ⟨(deviceName 1 2, _), Std.TreeMap.mem_toList_iff_getElem?_eq_some.mpr
      ((getElem?_attachedState _).trans (if_pos rfl)), rfl⟩
  have right : UsbService.hasRight (some "app") (deviceName plugged.busNum plugged.devAddr)
      attachedState.service.1 = true :=
    (RightManager.hasRight_addDeviceRight {} (deviceName 1 2) "app").mpr (.inr ⟨rfl, rfl⟩)
  obtain ⟨result, objs, obj, call, lists, array, among, asked, connects⟩ :=
    @connectDevice_listed Unit Slot _ twoBytes () allowing slotParcel _ base ⟨7, 7⟩ 0
      (fun _ => some "app") bareEngine bareCodes faithful_slotParcel sameWidth_slots brief
      attachedState attachedState sound_attachedState sound_attachedState _ listed ⟨0, 0⟩
  rw [if_pos right] at connects
  obtain ⟨result', ran, returned⟩ := connects
  exact ⟨result, objs, obj, call, result', lists, array, among, asked, congrArg Prod.fst ran,
    returned rfl⟩

end UsbInfo

end UsbManager.Js

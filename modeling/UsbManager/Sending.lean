import UsbManager.Messages
import UsbManager.Proxy

/-!
# What the proxy sends

Each write to the request parcel may fail on its own, and adds nothing then.
`performs` says of every method of the proxy what is in the parcel when it sends
the request (`SrvCall.written`): all the arguments, or, where the result of
`SetDeviceMessage` is ignored, all but the device or a part of it.
-/

namespace UsbManager

/-! ## Failing writes -/

/-- How many of its two values `SetDeviceMessage` writes: it stops where one fails. -/
def headerWritten : List Bool → Nat
  | false :: _ => 0
  | _ :: false :: _ => 1
  | _ => 2

/-- The outcomes of the writes after `SetDeviceMessage`. -/
def afterHeader : List Bool → List Bool
  | false :: outcomes => outcomes
  | outcomes => outcomes.drop 2

/-- The arguments in the parcel when the request is sent, or none where it is
not.  `OpenDevice` alone among the methods with a device looks at the result of
`SetDeviceMessage`. -/
def SrvCall.written (outcomes : List Bool) : SrvCall → Option (List Argument)
  | onDevice (.openDevice busNum devAddr) =>
    if ParcelAction.Succeed 3 outcomes then some (deviceArguments ⟨busNum, devAddr⟩) else none
  | onDevice request =>
    if request.complete ∧ ParcelAction.Succeed 1 outcomes ∧
        ParcelAction.Succeed request.arguments.length (afterHeader (outcomes.drop 1)) then
      some ((deviceArguments request.dev).take (headerWritten (outcomes.drop 1)) ++
        request.arguments)
    else none
  | call =>
    if ParcelAction.Succeed (1 + call.arguments.length) outcomes then some call.arguments else none

/-- A method with a device but `OpenDevice` ignores the result of `SetDeviceMessage`. -/
theorem SrvCall.written_of_ignored {request : DeviceRequest}
    (ignores : request.code ≠ .USB_FUN_OPEN_DEVICE) (outcomes : List Bool) :
    (onDevice request).written outcomes =
      if request.complete ∧ ParcelAction.Succeed 1 outcomes ∧
          ParcelAction.Succeed request.arguments.length (afterHeader (outcomes.drop 1)) then
        some ((deviceArguments request.dev).take (headerWritten (outcomes.drop 1)) ++
          request.arguments)
      else none := by
  cases request with
  | openDevice => exact absurd rfl ignores
  | _ => rfl

/-- A null pointer cannot be sent. -/
theorem SrvCall.written_of_incomplete {call : SrvCall} (missing : call.complete = false)
    (outcomes : List Bool) : call.written outcomes = none := by
  cases call with
  | onDevice request =>
    by_cases ignores : request.code = .USB_FUN_OPEN_DEVICE
    · cases request with
      | openDevice => cases missing
      | _ => cases ignores
    · rw [SrvCall.written_of_ignored ignores]
      refine if_neg fun all => ?_
      rw [show request.complete = false from missing] at all
      cases all.1
  | _ => cases missing

/-- The interface token and these arguments, as they are in the parcel. -/
def requestUnits {β : Type} (units : (t : ParcelType) → t.Value → List β)
    (arguments : List Argument) : List β :=
  ParcelAction.unitsOf units (⟨.interfaceToken, IUsbSrv.descriptor⟩ :: arguments)

/-- The method sends the request of the call, or stops with one of these errors. -/
structure Exchange.Sends {β ε δ α : Type} (data : MessageParcel β)
    (units : (t : ParcelType) → t.Value → List β) (error : ε → Prop) (x : Exchange β ε δ α)
    (call : SrvCall) : Prop where
  code : x.code = call.code
  noRemote : error x.noRemote
  sent : ∀ {outcomes arguments}, call.written outcomes = some arguments →
    x.message data outcomes = .ok (requestUnits units arguments)
  stopped : ∀ {outcomes}, call.written outcomes = none →
    ∃ e, error e ∧ x.message data outcomes = .error e

section

variable {β ε δ α : Type} {data : MessageParcel β}
  {units : (t : ParcelType) → t.Value → List β} {error : ε → Prop} {x : Exchange β ε δ α}
  {arguments : List Argument}

/-- What a method whose writes are all checked has written. -/
theorem Exchange.message_of_attempts (faithful : data.Faithful units) (noToken : error x.noToken)
    (checked : x.request.Attempts units error arguments) (outcomes : List Bool) :
    (ParcelAction.Succeed (1 + arguments.length) outcomes →
      x.message data outcomes = .ok (requestUnits units arguments)) ∧
    (¬ ParcelAction.Succeed (1 + arguments.length) outcomes →
      ∃ e, error e ∧ x.message data outcomes = .error e) := by
  have whole := ParcelAction.Attempts.bind
    (.attempt faithful noToken .interfaceToken IUsbSrv.descriptor) (fun _ => checked) outcomes []
  rw [List.length_append] at whole
  unfold Exchange.message
  dsimp only
  refine ⟨fun ok => ?_, fun fails => ?_⟩
  · obtain ⟨_, wrote⟩ := whole.1 ok
    rw [wrote]
    rfl
  · obtain ⟨e, _, _, stops, stopped⟩ := whole.2 fails
    rw [stopped]
    exact ⟨e, stops, rfl⟩

/-- What `SetDeviceMessage` writes where its result is ignored. -/
theorem setDeviceMessage_ignored (faithful : data.Faithful units) (busNum devAddr : UInt8)
    (outcomes : List Bool) (before : List β) :
    ParcelAction.ignore (UsbServerProxy.setDeviceMessage data busNum devAddr) outcomes before =
      (.ok (), afterHeader outcomes, before ++ ParcelAction.unitsOf units
        ((deviceArguments ⟨busNum, devAddr⟩).take (headerWritten outcomes))) := by
  unfold ParcelAction.ignore UsbServerProxy.setDeviceMessage UsbServerProxy.writeParcelWithRet
  cases outcomes with
  | nil =>
    rw [ParcelAction.bind_of_ok (ParcelAction.attempt_nil faithful _ _ _),
      ParcelAction.attempt_nil faithful]
    simp [afterHeader, headerWritten, deviceArguments]
  | cons busNumWritten outcomes =>
    cases busNumWritten with
    | false =>
      rw [ParcelAction.bind_of_error (ParcelAction.attempt_false _ _ _ _)]
      simp [afterHeader, headerWritten]
    | true =>
      rw [ParcelAction.bind_of_ok (ParcelAction.attempt_true faithful _ _ _ _)]
      cases outcomes with
      | nil =>
        rw [ParcelAction.attempt_nil faithful]
        simp [afterHeader, headerWritten, deviceArguments]
      | cons devAddrWritten outcomes =>
        cases devAddrWritten with
        | false =>
          rw [ParcelAction.attempt_false]
          simp [afterHeader, headerWritten, deviceArguments]
        | true =>
          rw [ParcelAction.attempt_true faithful]
          simp [afterHeader, headerWritten, deviceArguments]

end

section

variable {β δ : Type} {data : MessageParcel β} {units : (t : ParcelType) → t.Value → List β}
  {error : Uec → Prop} {x : Exchange β Uec δ Unit} {busNum devAddr : UInt8}
  {request : ParcelAction β (List Bool) Uec Unit} {arguments : List Argument}

/-- What is left to write once the token and as much of the device as can be are written. -/
theorem Exchange.message_of_ignored (faithful : data.Faithful units)
    (shape : x.request = (do
      ParcelAction.ignore (UsbServerProxy.setDeviceMessage data busNum devAddr)
      request)) {outcomes : List Bool} (token : ParcelAction.Succeed 1 outcomes) :
    x.message data outcomes =
      Exchange.written (request (afterHeader (outcomes.drop 1)) (requestUnits units
        ((deviceArguments ⟨busNum, devAddr⟩).take (headerWritten (outcomes.drop 1))))) := by
  have header := setDeviceMessage_ignored faithful busNum devAddr (outcomes.drop 1)
    (units .interfaceToken IUsbSrv.descriptor)
  unfold Exchange.message
  dsimp only
  rw [ParcelAction.bind_of_ok (ParcelAction.attempt_of_succeed faithful token _ _ _), shape,
    List.nil_append, ParcelAction.bind_of_ok header]
  rfl

end

/-! ## Every method sends its request -/

section

variable {β ε δ α : Type} {data : MessageParcel β}
  {units : (t : ParcelType) → t.Value → List β}

namespace Exchange.Sends

/-- A method that checks every write. -/
theorem ofAttempts {error : ε → Prop} {x : Exchange β ε δ α} {call : SrvCall}
    (faithful : data.Faithful units) (code : x.code = call.code) (noRemote : error x.noRemote)
    (noToken : error x.noToken) (checked : x.request.Attempts units error call.arguments)
    (plain : ∀ outcomes, call.written outcomes =
      if ParcelAction.Succeed (1 + call.arguments.length) outcomes then some call.arguments
      else none) : x.Sends data units error call where
  code := code
  noRemote := noRemote
  sent := by
    intro outcomes arguments written
    rw [plain] at written
    obtain ⟨ok, same⟩ := Option.ite_some_none_eq_some.mp written
    rw [← same]
    exact (message_of_attempts faithful noToken checked outcomes).1 ok
  stopped := by
    intro outcomes written
    rw [plain] at written
    exact (message_of_attempts faithful noToken checked outcomes).2 (by simpa using written)

/-- A method that ignores the result of `SetDeviceMessage`. -/
theorem ofIgnored {error : Uec → Prop} {x : Exchange β Uec δ Unit} {request : DeviceRequest}
    {rest : ParcelAction β (List Bool) Uec Unit} (faithful : data.Faithful units)
    (code : x.code = request.code) (noRemote : error x.noRemote) (noToken : error x.noToken)
    (shape : x.request = (do
      ParcelAction.ignore
        (UsbServerProxy.setDeviceMessage data request.dev.busNum request.dev.devAddr)
      rest))
    (checked : request.complete = true → rest.Attempts units error request.arguments)
    (incomplete : request.complete = false → rest.Stops error)
    (ignores : request.code ≠ .USB_FUN_OPEN_DEVICE) :
    x.Sends data units error (.onDevice request) where
  code := code
  noRemote := noRemote
  sent := by
    intro outcomes arguments written
    rw [SrvCall.written_of_ignored ignores] at written
    obtain ⟨⟨complete, token, ok⟩, same⟩ := Option.ite_some_none_eq_some.mp written
    obtain ⟨_, wrote⟩ := (checked complete (afterHeader (outcomes.drop 1)) (requestUnits units
      ((deviceArguments request.dev).take (headerWritten (outcomes.drop 1))))).1 ok
    rw [message_of_ignored faithful shape token, ← same, wrote]
    unfold requestUnits
    rw [ParcelAction.unitsOf_cons, ParcelAction.unitsOf_cons, ParcelAction.unitsOf_append,
      List.append_assoc]
    rfl
  stopped := by
    intro outcomes written
    rw [SrvCall.written_of_ignored ignores] at written
    by_cases token : ParcelAction.Succeed 1 outcomes
    · rw [message_of_ignored faithful shape token]
      cases complete : request.complete with
      | true =>
        have fails : ¬ ParcelAction.Succeed request.arguments.length
            (afterHeader (outcomes.drop 1)) := by
          intro ok
          rw [if_pos ⟨complete, token, ok⟩] at written
          cases written
        obtain ⟨e, _, _, stops, stopped⟩ := (checked complete _ _).2 fails
        rw [stopped]
        exact ⟨e, stops, rfl⟩
      | false =>
        obtain ⟨e, _, _, stops, stopped⟩ := incomplete complete _ _
        rw [stopped]
        exact ⟨e, stops, rfl⟩
    · unfold Exchange.message
      dsimp only
      rw [ParcelAction.bind_of_error (ParcelAction.attempt_of_not_succeed token _ _ _)]
      exact ⟨_, noToken, rfl⟩

end Exchange.Sends

/-- The call ends with an error: the result of `HasRight` or `UsbFunctionsToString`
that stands for one, or a result code. -/
def SrvCall.Failed : SrvCall → SrvReply → Prop
  | hasRight _, reply => reply.flag = false
  | usbFunctionsToString _, reply => reply.text = ""
  | _, reply => reply.ret ≠ .UEC_OK

namespace UsbServerProxy

variable {junk : Uninitialised}

/-- The proxy carries the call out by this exchange. -/
structure Performs (data : MessageParcel β) (units : (t : ParcelType) → t.Value → List β)
    (junk : Uninitialised) (error : ε → Prop) (call : SrvCall) (x : Exchange β ε δ α) : Prop where
  sends : x.Sends data units error call
  state : ∀ {σ : Type} (remote : Option (Remote β σ)) (outcomes : List Bool) (vars : SrvReply)
    (s : σ), ∃ out, (perform data junk remote outcomes call vars s).2 =
      (x.run data remote outcomes out s).2
  failed : ∀ {σ : Type} (remote : Option (Remote β σ)) (outcomes : List Bool) (vars : SrvReply)
    (s : σ), (∀ out, ∃ e, error e ∧ (x.run data remote outcomes out s).1.1 = .error e) →
      call.Failed (perform data junk remote outcomes call vars s).1

/-- An error of a method that returns a result code is its result. -/
theorem Performs.ofRet {x : Exchange β Uec δ Unit} {call : SrvCall} (get : SrvReply → δ)
    (set : δ → SrvReply → SrvReply) (sends : x.Sends data units (· ≠ .UEC_OK) call)
    (performed : ∀ {σ : Type} (remote : Option (Remote β σ)) outcomes vars s,
      perform data junk remote outcomes call vars s =
        returnRet data remote outcomes x get set vars s)
    (judged : ∀ reply : SrvReply, reply.ret ≠ .UEC_OK → call.Failed reply) :
    Performs data units junk (· ≠ .UEC_OK) call x where
  sends := sends
  state remote outcomes vars s := ⟨get vars, by rw [performed]; rfl⟩
  failed remote outcomes vars s stops := by
    obtain ⟨e, notOk, stopped⟩ := stops (get vars)
    refine judged _ ?_
    rw [performed]
    change retOf (x.run data remote outcomes (get vars) s).1.1 ≠ .UEC_OK
    rw [stopped]
    exact notOk

section

variable {t : ParcelType} (faithful : data.Faithful units)

include faithful

theorem attempts_write (v : t.Value) :
    (writeParcelWithRet data t v).Attempts units (· ≠ .UEC_OK) [⟨t, v⟩] :=
  .attempt faithful nofun t v

/-- The same with the result code of the methods without a device. -/
theorem attempts_value (v : t.Value) :
    (ParcelAction.attempt data Uec.UEC_INTERFACE_WRITE_PARCEL_ERROR t v).Attempts units
      (· ≠ .UEC_OK) [⟨t, v⟩] :=
  .attempt faithful nofun t v

theorem attempts_buffer (bufferData : List UInt8) :
    (setBufferMessage (writeParcelWithRet data) bufferData).Attempts units (· ≠ .UEC_OK)
      (bufferArguments bufferData) := by
  unfold setBufferMessage bufferArguments
  rw [← List.singleton_append]
  refine .bind (attempts_write faithful _) fun _ => ?_
  by_cases some : bufferLength bufferData > 0
  · rw [if_pos some, if_pos some]
    exact attempts_write faithful _
  · rw [if_neg some, if_neg some]
    exact .pure ()

theorem attempts_pipe (pipe : UsbPipe) :
    (writePipe data pipe).Attempts units (· ≠ .UEC_OK) (pipeArguments pipe) :=
  .bind (attempts_write faithful _) fun _ => attempts_write faithful _

/-! ### Methods whose replies are read -/

theorem sends_hasRight (deviceName : String) :
    (hasRight data deviceName).Sends data units (· = false) (.hasRight deviceName) := by
  have request : (hasRight data deviceName).request.Attempts units (· = false)
      [⟨.string, deviceName⟩] := .attempt faithful (by rfl) .string deviceName
  exact .ofAttempts faithful rfl rfl rfl request fun _ => rfl

theorem sends_getDevices (junk : Uninitialised) :
    (getDevices data junk).Sends data units (· ≠ .UEC_OK) .getDevices :=
  .ofAttempts faithful rfl nofun nofun (.pure ()) fun _ => rfl

theorem sends_getCurrentFunctions :
    (getCurrentFunctions data).Sends data units (· ≠ .UEC_OK) .getCurrentFunctions :=
  .ofAttempts faithful rfl nofun nofun (.pure ()) fun _ => rfl

theorem sends_usbFunctionsFromString (funcs : String) :
    (usbFunctionsFromString data funcs).Sends data units (· ≠ .UEC_OK)
      (.usbFunctionsFromString funcs) :=
  .ofAttempts faithful rfl nofun nofun (attempts_value faithful _) fun _ => rfl

theorem sends_usbFunctionsToString (funcs : Int32) :
    (usbFunctionsToString data funcs).Sends data units (· = "") (.usbFunctionsToString funcs) := by
  have request : (usbFunctionsToString data funcs).request.Attempts units (· = "")
      [⟨.int32, funcs⟩] := .attempt faithful (by rfl) .int32 funcs
  exact .ofAttempts faithful rfl rfl rfl request fun _ => rfl

theorem sends_getPorts : (getPorts data).Sends data units (· ≠ .UEC_OK) .getPorts :=
  .ofAttempts faithful rfl nofun nofun (.pure ()) fun _ => rfl

theorem sends_getSupportedModes (portId : Int32) :
    (getSupportedModes data portId).Sends data units (· ≠ .UEC_OK) (.getSupportedModes portId) :=
  .ofAttempts faithful rfl nofun nofun (attempts_value faithful _) fun _ => rfl

theorem sends_bulkTransferRead (dev : UsbDev) (pipe : UsbPipe) (timeOut : Int32) :
    (bulkTransferRead data dev pipe timeOut).Sends data units (· ≠ .UEC_OK)
      (.onDevice (.bulkTransferRead dev pipe timeOut)) := by
  have write {t : ParcelType} (v : t.Value) := attempts_write faithful v
  exact .ofIgnored faithful rfl nofun nofun rfl
    (fun _ => .cons (write _) fun _ => .cons (write _) fun _ => write _) nofun nofun

theorem sends_controlTransfer (dev : UsbDev) (ctrl : UsbCtrlTransfer) (bufferData : List UInt8) :
    (controlTransfer data dev ctrl bufferData).Sends data units (· ≠ .UEC_OK)
      (.onDevice (.controlTransfer dev ctrl bufferData)) := by
  have write {t : ParcelType} (v : t.Value) := attempts_write faithful v
  exact .ofIgnored faithful rfl nofun nofun rfl
    (fun _ => .cons (write _) fun _ => .cons (write _) fun _ => .cons (write _) fun _ =>
      .cons (write _) fun _ => .cons (write _) fun _ => attempts_buffer faithful bufferData)
    nofun nofun

theorem sends_getRawDescriptor (busNum devAddr : UInt8) :
    (getRawDescriptor data busNum devAddr).Sends data units (· ≠ .UEC_OK)
      (.onDevice (.getRawDescriptor busNum devAddr)) :=
  .ofIgnored faithful rfl nofun nofun rfl (fun _ => .pure ()) nofun nofun

theorem sends_getFileDescriptor (busNum devAddr : UInt8) :
    (getFileDescriptor data busNum devAddr).Sends data units (· ≠ .UEC_OK)
      (.onDevice (.getFileDescriptor busNum devAddr)) :=
  .ofIgnored faithful rfl nofun nofun rfl (fun _ => .pure ()) nofun nofun

theorem sends_requestWait (dev : UsbDev) (timeOut : Int32) :
    (requestWait data dev timeOut).Sends data units (· ≠ .UEC_OK)
      (.onDevice (.requestWait dev timeOut)) :=
  .ofIgnored faithful rfl nofun nofun rfl (fun _ => attempts_write faithful _) nofun nofun

/-- A method with a device whose result `SetDeviceMessage` is ignored. -/
theorem Performs.ofDevice (x : Exchange β Uec δ Unit) (get : SrvReply → δ)
    (set : δ → SrvReply → SrvReply) {request : DeviceRequest}
    {rest : ParcelAction β (List Bool) Uec Unit} (code : x.code = request.code)
    (noRemote : x.noRemote ≠ .UEC_OK) (noToken : x.noToken ≠ .UEC_OK)
    (shape : x.request = (do
      ParcelAction.ignore (setDeviceMessage data request.dev.busNum request.dev.devAddr)
      rest))
    (checked : request.complete = true →
      rest.Attempts units (· ≠ .UEC_OK) request.arguments)
    (incomplete : request.complete = false → rest.Stops (· ≠ .UEC_OK))
    (ignores : request.code ≠ .USB_FUN_OPEN_DEVICE)
    (performed : ∀ {σ : Type} (remote : Option (Remote β σ)) outcomes vars s,
      perform data junk remote outcomes (.onDevice request) vars s =
        returnRet data remote outcomes x get set vars s) :
    ∃ (ε δ α : Type) (error : ε → Prop) (x : Exchange β ε δ α),
      Performs data units junk error (.onDevice request) x :=
  ⟨Uec, δ, Unit, _, x,
    .ofRet get set (.ofIgnored faithful code noRemote noToken shape checked incomplete ignores)
      performed
      fun _ failed => failed⟩

/-- The same without output arguments. -/
theorem Performs.ofDeviceOnly (x : Exchange β Uec Unit Unit) {request : DeviceRequest}
    {rest : ParcelAction β (List Bool) Uec Unit} (code : x.code = request.code)
    (noRemote : x.noRemote ≠ .UEC_OK) (noToken : x.noToken ≠ .UEC_OK)
    (shape : x.request = (do
      ParcelAction.ignore (setDeviceMessage data request.dev.busNum request.dev.devAddr)
      rest))
    (checked : rest.Attempts units (· ≠ .UEC_OK) request.arguments)
    (complete : request.complete = true)
    (ignores : request.code ≠ .USB_FUN_OPEN_DEVICE)
    (performed : ∀ {σ : Type} (remote : Option (Remote β σ)) outcomes vars s,
      perform data junk remote outcomes (.onDevice request) vars s =
        returnOnly data remote outcomes x vars s) :
    ∃ (ε δ α : Type) (error : ε → Prop) (x : Exchange β ε δ α),
      Performs data units junk error (.onDevice request) x :=
  Performs.ofDevice faithful x (fun _ => ()) (fun _ vars => vars) code noRemote noToken shape
    (fun _ => checked) (fun missing => by simp [complete] at missing) ignores performed

/-- The same with a pipe and an object, which may be a null pointer. -/
theorem Performs.ofObject (x : Exchange β Uec Unit Unit) (t : ParcelType)
    (object : Option t.Value) {request : DeviceRequest} {pipe : UsbPipe}
    (code : x.code = request.code) (noRemote : x.noRemote ≠ .UEC_OK)
    (noToken : x.noToken ≠ .UEC_OK)
    (shape : x.request = (do
      ParcelAction.ignore (setDeviceMessage data request.dev.busNum request.dev.devAddr)
      (do
        writePipe data pipe
        writeObjectWithRet data t object)))
    (arguments : request.arguments = pipeArguments pipe ++ objectArguments t object)
    (complete : request.complete = object.isSome)
    (ignores : request.code ≠ .USB_FUN_OPEN_DEVICE)
    (performed : ∀ {σ : Type} (remote : Option (Remote β σ)) outcomes vars s,
      perform data junk remote outcomes (.onDevice request) vars s =
        returnOnly data remote outcomes x vars s) :
    ∃ (ε δ α : Type) (error : ε → Prop) (x : Exchange β ε δ α),
      Performs data units junk error (.onDevice request) x := by
  refine Performs.ofDevice faithful x (fun _ => ()) (fun _ vars => vars) code noRemote noToken
    shape (fun present => ?_) (fun missing => ?_) ignores performed
  · rw [complete] at present
    rw [arguments]
    obtain ⟨object, rfl⟩ := Option.isSome_iff_exists.mp present
    exact .bind (attempts_pipe faithful pipe) fun _ => attempts_write faithful object
  · rw [complete] at missing
    obtain rfl := Option.isSome_eq_false_iff.mp missing |> Option.isNone_iff_eq_none.mp
    exact .bind (attempts_pipe faithful pipe) fun _ => .fail nofun

theorem performs_onDevice (request : DeviceRequest) :
    ∃ (ε δ α : Type) (error : ε → Prop) (x : Exchange β ε δ α),
      Performs data units junk error (.onDevice request) x := by
  have write {t : ParcelType} (v : t.Value) := attempts_write faithful v
  have notOk : Uec.ERR_INVALID_VALUE ≠ .UEC_OK := nofun
  cases request with
  | openDevice busNum devAddr =>
    have header : (setDeviceMessage data busNum devAddr).Attempts units (· ≠ .UEC_OK)
        (deviceArguments ⟨busNum, devAddr⟩) := .cons (write _) fun _ => write _
    exact ⟨_, _, _, _, openDevice data busNum devAddr,
      .ofRet (fun _ => ()) (fun _ vars => vars)
        (.ofAttempts faithful rfl nofun nofun header fun _ => rfl) (fun _ _ _ _ => rfl)
        fun _ failed => failed⟩
  | claimInterface busNum devAddr interface force =>
    exact Performs.ofDeviceOnly faithful (claimInterface data busNum devAddr interface force) rfl
      nofun nofun rfl (.cons (write _) fun _ => write _) rfl nofun fun _ _ _ _ => rfl
  | releaseInterface busNum devAddr interface =>
    exact Performs.ofDeviceOnly faithful (releaseInterface data busNum devAddr interface) rfl
      nofun nofun rfl (write _) rfl nofun fun _ _ _ _ => rfl
  | bulkTransferRead dev pipe timeOut =>
    exact ⟨_, _, _, _, bulkTransferRead data dev pipe timeOut,
      .ofRet SrvReply.bufferData setBuffer (sends_bulkTransferRead faithful dev pipe timeOut)
        (fun _ _ _ _ => rfl) fun _ failed => failed⟩
  | bulkTransferWrite dev pipe bufferData timeOut =>
    exact Performs.ofDeviceOnly faithful (bulkTransferWrite data dev pipe bufferData timeOut) rfl
      nofun nofun rfl
      (.cons (write _) fun _ => .cons (write _) fun _ => .cons (write _) fun _ =>
        attempts_buffer faithful bufferData)
      rfl nofun fun _ _ _ _ => rfl
  | controlTransfer dev ctrl bufferData =>
    exact ⟨_, _, _, _, controlTransfer data dev ctrl bufferData,
      .ofRet (fun _ => bufferData) setBuffer (sends_controlTransfer faithful dev ctrl bufferData)
        (fun _ _ _ _ => rfl) fun _ failed => failed⟩
  | setActiveConfig busNum devAddr configIndex =>
    exact Performs.ofDeviceOnly faithful (setActiveConfig data busNum devAddr configIndex) rfl
      nofun nofun rfl (write _) rfl nofun fun _ _ _ _ => rfl
  | getActiveConfig busNum devAddr =>
    exact Performs.ofDevice faithful (getActiveConfig data busNum devAddr) SrvReply.configIndex
      (fun configIndex vars => { vars with configIndex }) rfl nofun nofun rfl
      (fun _ => .pure ()) nofun nofun fun _ _ _ _ => rfl
  | setInterface busNum devAddr interfaceid altIndex =>
    exact Performs.ofDeviceOnly faithful (setInterface data busNum devAddr interfaceid altIndex)
      rfl nofun nofun rfl (.cons (write _) fun _ => write _) rfl nofun fun _ _ _ _ => rfl
  | getRawDescriptor busNum devAddr =>
    exact ⟨_, _, _, _, getRawDescriptor data busNum devAddr,
      .ofRet SrvReply.bufferData setBuffer (sends_getRawDescriptor faithful busNum devAddr)
        (fun _ _ _ _ => rfl) fun _ failed => failed⟩
  | getFileDescriptor busNum devAddr =>
    exact ⟨_, _, _, _, getFileDescriptor data busNum devAddr,
      .ofRet SrvReply.value setValue (sends_getFileDescriptor faithful busNum devAddr)
        (fun _ _ _ _ => rfl) fun _ failed => failed⟩
  | requestQueue dev pipe clientData bufferData =>
    have buffers := ParcelAction.Attempts.bind
      (.withError (attempts_buffer faithful clientData) notOk)
      fun _ => .withError (attempts_buffer faithful bufferData) notOk
    exact Performs.ofDeviceOnly faithful (requestQueue data dev pipe clientData bufferData) rfl
      nofun nofun rfl (.cons (write _) fun _ => .cons (write _) fun _ => buffers) rfl nofun
      fun _ _ _ _ => rfl
  | requestWait dev timeOut =>
    exact ⟨_, _, _, _, requestWait data dev timeOut,
      .ofRet (fun vars => (vars.clientData, vars.bufferData))
        (fun out vars => { vars with clientData := out.1, bufferData := out.2 })
        (sends_requestWait faithful dev timeOut) (fun _ _ _ _ => rfl) fun _ failed => failed⟩
  | requestCancel busNum devAddr interfaceid endpointId =>
    exact Performs.ofDeviceOnly faithful (requestCancel data busNum devAddr interfaceid endpointId)
      rfl nofun nofun rfl (.cons (write _) fun _ => write _) rfl nofun fun _ _ _ _ => rfl
  | close busNum devAddr =>
    exact Performs.ofDeviceOnly faithful (close data busNum devAddr) rfl nofun nofun rfl (.pure ())
      rfl nofun fun _ _ _ _ => rfl
  | regBulkCallback dev pipe cb =>
    exact Performs.ofObject faithful (regBulkCallback data dev pipe cb) .remoteObject cb rfl nofun
      nofun rfl rfl rfl nofun fun _ _ _ _ => rfl
  | unRegBulkCallback dev pipe =>
    exact Performs.ofDeviceOnly faithful (unRegBulkCallback data dev pipe) rfl nofun nofun rfl
      (attempts_pipe faithful pipe) rfl nofun fun _ _ _ _ => rfl
  | bulkRead dev pipe ashmem =>
    exact Performs.ofObject faithful (bulkRead data dev pipe ashmem) .ashmem ashmem rfl nofun nofun
      rfl rfl rfl nofun fun _ _ _ _ => rfl
  | bulkWrite dev pipe ashmem =>
    exact Performs.ofObject faithful (bulkWrite data dev pipe ashmem) .ashmem ashmem rfl nofun nofun
      rfl rfl rfl nofun fun _ _ _ _ => rfl
  | bulkCancel dev pipe =>
    exact Performs.ofDeviceOnly faithful (bulkCancel data dev pipe) rfl nofun nofun rfl
      (attempts_pipe faithful pipe) rfl nofun fun _ _ _ _ => rfl

/-- Every method of the proxy sends the request of its call. -/
theorem performs (junk : Uninitialised) (call : SrvCall) :
    ∃ (ε δ α : Type) (error : ε → Prop) (x : Exchange β ε δ α),
      Performs data units junk error call x := by
  have write {t : ParcelType} (v : t.Value) := attempts_value faithful v
  cases call with
  | hasRight deviceName =>
    refine ⟨_, _, _, (· = false), hasRight data deviceName, sends_hasRight faithful deviceName,
      fun _ _ _ _ => ⟨(), rfl⟩, ?_⟩
    intro σ remote outcomes vars s stops
    obtain ⟨e, refused, stopped⟩ := stops ()
    change valueOf ((hasRight data deviceName).run data remote outcomes () s).1.1 = false
    rw [stopped]
    exact refused
  | requestRight deviceName =>
    exact ⟨_, _, _, _, requestRight data deviceName,
      .ofRet (fun _ => ()) (fun _ vars => vars)
        (.ofAttempts faithful rfl nofun nofun (write _) fun _ => rfl) (fun _ _ _ _ => rfl)
        fun _ failed => failed⟩
  | removeRight deviceName =>
    exact ⟨_, _, _, _, removeRight data deviceName,
      .ofRet (fun _ => ()) (fun _ vars => vars)
        (.ofAttempts faithful rfl nofun nofun (write _) fun _ => rfl) (fun _ _ _ _ => rfl)
        fun _ failed => failed⟩
  | getDevices =>
    exact ⟨_, _, _, _, getDevices data junk,
      .ofRet SrvReply.deviceList (fun deviceList vars => { vars with deviceList })
        (sends_getDevices faithful junk) (fun _ _ _ _ => rfl) fun _ failed => failed⟩
  | getCurrentFunctions =>
    exact ⟨_, _, _, _, getCurrentFunctions data,
      .ofRet SrvReply.value setValue (sends_getCurrentFunctions faithful) (fun _ _ _ _ => rfl)
        fun _ failed => failed⟩
  | setCurrentFunctions funcs =>
    exact ⟨_, _, _, _, setCurrentFunctions data funcs,
      .ofRet (fun _ => ()) (fun _ vars => vars)
        (.ofAttempts faithful rfl nofun nofun (write _) fun _ => rfl) (fun _ _ _ _ => rfl)
        fun _ failed => failed⟩
  | usbFunctionsFromString funcs =>
    refine ⟨_, _, _, (· ≠ .UEC_OK), usbFunctionsFromString data funcs,
      sends_usbFunctionsFromString faithful funcs, ?_, ?_⟩
    · intro σ remote outcomes vars s
      refine ⟨(), ?_⟩
      unfold perform
      dsimp only
      split <;> rfl
    · intro σ remote outcomes vars s stops
      obtain ⟨e, notOk, stopped⟩ := stops ()
      unfold perform
      dsimp only
      rw [stopped]
      exact notOk
  | usbFunctionsToString funcs =>
    refine ⟨_, _, _, (· = ""), usbFunctionsToString data funcs,
      sends_usbFunctionsToString faithful funcs, fun _ _ _ _ => ⟨(), rfl⟩, ?_⟩
    intro σ remote outcomes vars s stops
    obtain ⟨e, empty, stopped⟩ := stops ()
    change valueOf ((usbFunctionsToString data funcs).run data remote outcomes () s).1.1 = ""
    rw [stopped]
    exact empty
  | getPorts =>
    exact ⟨_, _, _, _, getPorts data,
      .ofRet SrvReply.ports (fun ports vars => { vars with ports })
        (sends_getPorts faithful) (fun _ _ _ _ => rfl) fun _ failed => failed⟩
  | getSupportedModes portId =>
    exact ⟨_, _, _, _, getSupportedModes data portId,
      .ofRet SrvReply.value setValue (sends_getSupportedModes faithful portId)
        (fun _ _ _ _ => rfl) fun _ failed => failed⟩
  | setPortRole portId powerRole dataRole =>
    exact ⟨_, _, _, _, setPortRole data portId powerRole dataRole,
      .ofRet (fun _ => ()) (fun _ vars => vars)
        (.ofAttempts faithful rfl nofun nofun
          (.cons (write _) fun _ => .cons (write _) fun _ => write _)
          fun _ => rfl) (fun _ _ _ _ => rfl)
        fun _ failed => failed⟩
  | onDevice request => exact performs_onDevice faithful request

variable {σ : Type} {call : SrvCall} {outcomes : List Bool}

/-- Where all checked writes succeed the request is sent. -/
theorem perform_of_written {arguments : List Argument}
    (written : call.written outcomes = some arguments) (sendRequest : Remote β σ)
    (vars : SrvReply) (s : σ) :
    (perform data junk (some sendRequest) outcomes call vars s).2 =
      (sendRequest call.code.code (requestUnits units arguments) s).2 := by
  obtain ⟨_, _, _, _, x, performs⟩ := performs faithful junk call
  obtain ⟨out, same⟩ := performs.state (some sendRequest) outcomes vars s
  rw [same]
  unfold Exchange.run
  dsimp only
  rw [performs.sends.sent written, performs.sends.code]
  dsimp only
  split <;> rfl

/-- Where one fails nothing is sent and the caller gets an error. -/
theorem perform_of_not_written (stopped : call.written outcomes = none)
    (remote : Option (Remote β σ)) (vars : SrvReply) (s : σ) :
    (perform data junk remote outcomes call vars s).2 = s ∧
      call.Failed (perform data junk remote outcomes call vars s).1 := by
  obtain ⟨_, _, _, _, x, performs⟩ := performs faithful junk call
  obtain ⟨e, isError, message⟩ := performs.sends.stopped stopped
  refine ⟨?_, performs.failed remote outcomes vars s fun out => ?_⟩
  · obtain ⟨out, same⟩ := performs.state remote outcomes vars s
    rw [same]
    cases remote with
    | none => rfl
    | some sendRequest => simp only [Exchange.run, message]
  · cases remote with
    | none => exact ⟨x.noRemote, performs.sends.noRemote, rfl⟩
    | some sendRequest => exact ⟨e, isError, by simp only [Exchange.run, message]⟩

end

end UsbServerProxy

end

end UsbManager

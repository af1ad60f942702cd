import UsbManager.Transparency

/-!
# What the caller gets back

The stub writes the outcome of a call to the reply parcel, the proxy reads it:
both decide on their own what is in it.  `Answers` says what the stub adds to the
reply.  For every method that replies the proxy reads just that (`delivers`),
as long as the lengths fit the 32-bit counts they are sent with.
-/

namespace UsbManager

/-! ## What a caller is owed -/

/-- The caller's variables after a method that returns a result code: only if it
is `UEC_OK` are the output arguments set. -/
def SrvReply.returned (reply vars : SrvReply) (set : SrvReply → SrvReply) : SrvReply :=
  if reply.ret = .UEC_OK then { set vars with ret := .UEC_OK } else { vars with ret := reply.ret }

/-- The methods with output arguments that are read from the reply. -/
def DeviceRequest.replies : DeviceRequest → Bool
  | bulkTransferRead _ _ _ => true
  | controlTransfer _ _ _ => true
  | getRawDescriptor _ _ => true
  | getFileDescriptor _ _ => true
  | requestWait _ _ => true
  | _ => false

/-- The methods with a reply other than the device list. -/
def SrvCall.replies : SrvCall → Bool
  | hasRight _ => true
  | getCurrentFunctions => true
  | usbFunctionsFromString _ => true
  | usbFunctionsToString _ => true
  | getPorts => true
  | getSupportedModes _ => true
  | onDevice request => request.replies
  | _ => false

/-- What the caller's variables are to hold after the request, where `reply` is its
outcome in the service.  The buffer of a control transfer is the one in the request. -/
def DeviceRequest.delivered (reply vars : SrvReply) : DeviceRequest → SrvReply
  | bulkTransferRead _ _ _ => reply.returned vars (UsbServerProxy.setBuffer reply.bufferData)
  | controlTransfer _ ctrl bufferData =>
    reply.returned { vars with bufferData }
      (if isWrite ctrl.requestType then id else UsbServerProxy.setBuffer reply.bufferData)
  | getRawDescriptor _ _ => reply.returned vars (UsbServerProxy.setBuffer reply.bufferData)
  | getFileDescriptor _ _ => reply.returned vars (UsbServerProxy.setValue reply.value)
  | requestWait _ _ => reply.returned vars fun vars =>
    { vars with clientData := reply.clientData, bufferData := reply.bufferData }
  | _ => reply.returned vars id

/-- What the caller's variables are to hold after the call.  Ports are appended, as
the service does it. -/
def SrvCall.delivered (reply vars : SrvReply) : SrvCall → SrvReply
  | hasRight _ => { vars with flag := reply.flag }
  | getCurrentFunctions => reply.returned vars (UsbServerProxy.setValue reply.value)
  | usbFunctionsFromString _ => { vars with ret := .UEC_OK, value := reply.value }
  | usbFunctionsToString _ => { vars with text := reply.text }
  | getPorts => reply.returned vars fun vars => { vars with ports := vars.ports ++ reply.ports }
  | getSupportedModes _ => reply.returned vars (UsbServerProxy.setValue reply.value)
  | onDevice request => request.delivered reply vars
  | _ => reply.returned vars id

/-- Each buffer that is sent back fits its length. -/
def DeviceRequest.ReplyFits (reply : SrvReply) : DeviceRequest → Prop
  | bulkTransferRead _ _ _ => FitsLength reply.bufferData
  | controlTransfer _ ctrl _ => isWrite ctrl.requestType = false → FitsLength reply.bufferData
  | getRawDescriptor _ _ => FitsLength reply.bufferData
  | requestWait _ _ => FitsLength reply.clientData ∧ FitsLength reply.bufferData
  | _ => True

/-- What is sent back fits the counts. -/
def SrvCall.ReplyFits (reply : SrvReply) : SrvCall → Prop
  | getPorts => reply.ports.length < 2 ^ 31
  | onDevice request => request.ReplyFits reply
  | _ => True

/-! ## What the stub adds to the reply -/

section

variable {β σ : Type} {data : MessageParcel β} {units : (t : ParcelType) → t.Value → List β}

namespace UsbServerStub

/-- The action adds `message` to the reply and ends without an error. -/
def Answers (act : Handler β σ Unit) (message : List β) : Prop :=
  ∀ out contents, act out contents =
    (.ok (), { out with reply := out.reply ++ message }, contents)

theorem Answers.pure : Answers (pure () : Handler β σ Unit) [] := by
  intro out contents
  rw [List.append_nil]
  rfl

theorem Answers.onReply {act : ParcelAction β Unit Uec Unit} {message : List β}
    (appends : act.Appends message ()) : Answers (onReply act : Handler β σ Unit) message := by
  intro out contents
  unfold UsbServerStub.onReply
  rw [appends () out.reply]

theorem Answers.bind {first : Handler β σ Unit} {second : Unit → Handler β σ Unit}
    {message more : List β} (start : Answers first message) (next : Answers (second ()) more) :
    Answers (first >>= second) (message ++ more) := by
  intro out contents
  rw [ParcelAction.bind_of_ok (start out contents), next, List.append_assoc]

theorem Answers.ignore {act : Handler β σ Unit} {message : List β} (answers : Answers act message) :
    Answers (ParcelAction.ignore act) message := by
  intro out contents
  unfold ParcelAction.ignore
  rw [answers out contents]

/-- The stub answers the call it received as the one that was sent. -/
theorem answer_received (call : SrvCall) (reply : SrvReply) :
    (answer data call.received reply : Handler β σ Unit) = answer data call reply := by
  cases call with
  | onDevice request => cases request <;> rfl
  | _ => rfl

def portData (units : (t : ParcelType) → t.Value → List β) (port : UsbPort) : List β :=
  units .int32 port.id ++ (units .int32 port.supportedModes ++
    (units .int32 port.usbPortStatus.currentMode ++
      (units .int32 port.usbPortStatus.currentPowerRole ++
        units .int32 port.usbPortStatus.currentDataRole)))

variable (faithful : data.Faithful units)

include faithful

theorem appends_value (t : ParcelType) (value : t.Value) :
    (writeParcelWithRet data t value).Appends (units t value) () := .put faithful t value

theorem appends_buffer (bufferData : List UInt8) :
    (setBufferMessage data bufferData).Appends
      (ParcelAction.unitsOf units (bufferArguments bufferData)) () := by
  unfold setBufferMessage UsbManager.setBufferMessage bufferArguments
  rw [ParcelAction.unitsOf_cons]
  refine .bind (appends_value faithful _ _) ?_
  by_cases some : bufferLength bufferData > 0
  · rw [if_pos some, if_pos some, ParcelAction.unitsOf_cons, ParcelAction.unitsOf_nil,
      List.append_nil]
    exact appends_value faithful _ _
  · rw [if_neg some, if_neg some]
    exact .pure ()

theorem answers_value (t : ParcelType) (value : t.Value) :
    Answers (onReply (writeParcelWithRet data t value) : Handler β σ Unit) (units t value) :=
  .onReply (appends_value faithful t value)

theorem answers_buffer (bufferData : List UInt8) :
    Answers (onReply (setBufferMessage data bufferData) : Handler β σ Unit)
      (ParcelAction.unitsOf units (bufferArguments bufferData)) :=
  .onReply (appends_buffer faithful bufferData)

theorem appends_port (port : UsbPort) :
    (writeUsbPort data port).Appends (portData units port) () := by
  unfold writeUsbPort portData
  iterate 4 refine .bind (appends_value faithful _ _) ?_
  exact appends_value faithful _ _

/-- What the stub adds to the reply of `GetPorts`. -/
theorem answers_ports (ports : List UsbPort) :
    Answers (do
        onReply (writeParcelWithRet data .int32 (UInt32.ofNat ports.length).toInt32)
        onReply (ParcelAction.forEach (writeUsbPort data)
          (ports.take (UInt32.ofNat ports.length).toNat)) : Handler β σ Unit)
      (units .int32 (UInt32.ofNat ports.length).toInt32 ++
        (ports.take (UInt32.ofNat ports.length).toNat).flatMap (portData units)) :=
  .bind (answers_value faithful .int32 _)
    (.onReply (.forEach fun port _ => appends_port faithful port))

end UsbServerStub

/-! ## What the proxy reads from it -/

namespace UsbServerProxy

variable (faithful : data.Faithful units)

include faithful

theorem consumes_buffer (bufferData out : List UInt8) :
    (getBufferMessage data).Consumes out (ParcelAction.unitsOf units (bufferArguments bufferData))
      () (sentBuffer bufferData).val := by
  intro rest
  have there := Scans.scanBuffer_bufferArguments faithful bufferData rest
  exact ((UsbServerStub.getBufferMessage_cases data out _).2 _ _ there).2

theorem consumes_buffer_of_fits {bufferData : List UInt8} (fits : FitsLength bufferData)
    (out : List UInt8) :
    (getBufferMessage data).Consumes out (ParcelAction.unitsOf units (bufferArguments bufferData))
      () bufferData := by
  have consumes := consumes_buffer faithful bufferData out
  rw [sentBuffer_val fits] at consumes
  exact consumes

theorem consumes_int32 (value out : Int32) :
    ParcelAction.Consumes (do
      let value ← ParcelAction.take data Uec.UEC_INTERFACE_READ_PARCEL_ERROR .int32
      ParcelAction.update fun _ => value) out (units .int32 value) () value := by
  rw [← List.append_nil (units .int32 value)]
  exact .bind (.take faithful _ _ _) (.update _ _)

/-- The reply of `RequestWait`. -/
theorem consumes_twoBuffers (dev : UsbDev) (timeOut : Int32) {clientData bufferData : List UInt8}
    (fitsClient : FitsLength clientData) (fitsBuffer : FitsLength bufferData)
    (out : List UInt8 × List UInt8) :
    (requestWait data dev timeOut).reply.Consumes out
      (ParcelAction.unitsOf units (bufferArguments clientData) ++
        ParcelAction.unitsOf units (bufferArguments bufferData)) () (clientData, bufferData) := by
  have client := consumes_buffer_of_fits faithful fitsClient out.1
  have buffer := consumes_buffer_of_fits faithful fitsBuffer out.2
  have first : (ParcelAction.within Prod.fst (fun clientData out => (clientData, out.2))
      (getBufferMessage data)).Consumes out
      (ParcelAction.unitsOf units (bufferArguments clientData)) () (clientData, out.2) :=
    .within client
  have second : (ParcelAction.within Prod.snd (fun bufferData out => (out.1, bufferData))
      (getBufferMessage data)).Consumes (clientData, out.2)
      (ParcelAction.unitsOf units (bufferArguments bufferData)) () (clientData, bufferData) :=
    .within buffer
  exact .bind first second

theorem consumes_port (port : UsbPort) (done : List UsbPort) :
    (parseUsbPort data).Consumes done (UsbServerStub.portData units port) () (done ++ [port]) := by
  unfold parseUsbPort UsbServerStub.portData
  refine .bind (.take faithful _ _ _) ?_
  iterate 3 refine .bind (.takeUnchecked faithful _ _ _ _) ?_
  rw [← List.append_nil (units .int32 port.usbPortStatus.currentDataRole)]
  exact .bind (.takeUnchecked faithful _ _ _ _) (.update _ _)

/-- The reply of `GetPorts` to a list of ports. -/
theorem consumes_ports {ports : List UsbPort} (few : ports.length < 2 ^ 31)
    (before : List UsbPort) :
    (getPorts data).reply.Consumes before
      (units .int32 (UInt32.ofNat ports.length).toInt32 ++
        (ports.take (UInt32.ofNat ports.length).toNat).flatMap (UsbServerStub.portData units))
      () (before ++ ports) := by
  have size : (UInt32.ofNat ports.length).toInt32.toInt = ports.length :=
    Int32.toInt_ofNat_of_lt few
  have all : (UInt32.ofNat ports.length).toNat = ports.length :=
    UInt32.toNat_ofNat_of_lt' (few.trans (by decide))
  refine .bind (.take faithful _ _ _) ?_
  rw [size, Int.toNat_natCast, all, List.take_length]
  have each (port : UsbPort) (_ : port ∈ ports) (done : List UsbPort) :
      (parseUsbPort data).Consumes done (UsbServerStub.portData units port) ()
        (done ++ [id port]) := consumes_port faithful port done
  have whole := ParcelAction.Consumes.times each before
  rw [List.map_id] at whole
  exact whole

end UsbServerProxy

end

/-! ## A call and its reply -/

section

variable {β σ ε δ α : Type} {data : MessageParcel β}
  {units : (t : ParcelType) → t.Value → List β} {error : ε → Prop} {call : SrvCall}
  {junk : UsbServerProxy.Uninitialised} {vars : SrvReply} {far : Far β σ} {service : IUsbSrv σ}
  {base : IPCObjectStub β}

/-- A method that replies has no null pointer to send and is dispatched. -/
theorem SrvCall.dispatched_of_replies (replies : call.replies = true) :
    call.complete = true ∧ call.code.dispatched = true := by
  cases call with
  | onDevice request =>
    cases request with
    | bulkTransferRead | controlTransfer | getRawDescriptor | getFileDescriptor | requestWait =>
      exact ⟨rfl, rfl⟩
    | _ => cases replies
  | _ => exact ⟨rfl, rfl⟩

section

variable (faithful : data.Faithful units)

include faithful

/-- The stub makes the call as it arrives and answers with its outcome. -/
theorem sendRequest_of_dispatched (complete : call.complete = true)
    (dispatched : call.code.dispatched = true) :
    UsbServerStub.sendRequest data service base call.code.code
        (requestUnits units call.arguments) far =
      far.after (call.code.code, requestUnits units call.arguments)
        (UsbServerStub.answer data call (service call.received far.state).1
          { state := (service call.received far.state).2, calls := far.calls ++ [call.received] }
          []) := by
  have scanned := scans_arguments faithful complete dispatched []
  rw [List.append_nil] at scanned
  have serves : UsbServerStub.Serves data service call.code
      (UsbServerStub.handler data service base call.code.code) [] call.code.fields :=
    UsbServerStub.serves dispatched call.code.ofCode_code
  obtain ⟨call', code, arguments, fits, served⟩ :=
    (serves { state := far.state, calls := far.calls } _).2 _ _ scanned
  obtain rfl : call' = call.received :=
    SrvCall.eq_of_arguments (code.trans call.received_code.symm)
      (arguments.trans call.received_arguments.symm) fits call.received_fits
  rw [sendRequest_requestUnits faithful, served, ParcelAction.bind_of_ok rfl,
    UsbServerStub.answer_received]

variable {x : Exchange β ε δ α}

/-- Where the stub answers with a message, the proxy reads that message. -/
theorem run_of_dispatched (sends : x.Sends data units error call)
    (complete : call.complete = true) (dispatched : call.code.dispatched = true)
    {message : List β}
    (answers : UsbServerStub.Answers
      (UsbServerStub.answer data call (service call.received far.state).1 : UsbServerStub.Handler
        β σ Unit) message) (out : δ) :
    (x.run data (some (UsbServerStub.sendRequest data service base)) [] out far).1 =
      ((x.reply out message).1, (x.reply out message).2.1) := by
  have sent := sends.sent (SrvCall.written_nil complete)
  unfold Exchange.run
  dsimp only
  rw [sent, sends.code]
  dsimp only
  rw [sendRequest_of_dispatched faithful complete dispatched, answers]
  rfl

/-- The same of a method that replies. -/
theorem run_of_answers (sends : x.Sends data units error call) (replies : call.replies = true)
    {message : List β}
    (answers : UsbServerStub.Answers
      (UsbServerStub.answer data call (service call.received far.state).1 : UsbServerStub.Handler
        β σ Unit) message) (out : δ) :
    (x.run data (some (UsbServerStub.sendRequest data service base)) [] out far).1 =
      ((x.reply out message).1, (x.reply out message).2.1) := by
  obtain ⟨complete, dispatched⟩ := SrvCall.dispatched_of_replies replies
  exact run_of_dispatched faithful sends complete dispatched answers out

/-- The same for a method that returns a value. -/
theorem run_of_value {x : Exchange β ε Unit α} (sends : x.Sends data units error call)
    (replies : call.replies = true) {reply : SrvReply}
    (outcome : (service call.received far.state).1 = reply) {message : List β}
    (answers : UsbServerStub.Answers
      (UsbServerStub.answer data call reply : UsbServerStub.Handler β σ Unit) message) {a : α}
    (consumes : x.reply.Consumes () message a ()) :
    (x.run data (some (UsbServerStub.sendRequest data service base)) [] () far).1 =
      (.ok a, ()) := by
  have read := consumes []
  rw [List.append_nil] at read
  rw [← outcome] at answers
  rw [run_of_answers faithful sends replies answers, read]

/-- Where the stub answers with a result code, that is what the proxy gets. -/
theorem run_of_fails (sends : x.Sends data units error call) (complete : call.complete = true)
    (dispatched : call.code.dispatched = true) {ret : Uec} (notOk : ret ≠ .UEC_OK)
    (fails : UsbServerStub.answer data call (service call.received far.state).1 =
      (ParcelAction.fail ret : UsbServerStub.Handler β σ Unit)) (out : δ) :
    (x.run data (some (UsbServerStub.sendRequest data service base)) [] out far).1 =
      (.error (x.failed ret), out) := by
  have sent := sends.sent (SrvCall.written_nil complete)
  unfold Exchange.run
  dsimp only
  rw [sent, sends.code]
  dsimp only
  rw [sendRequest_of_dispatched faithful complete dispatched, fails]
  exact congrArg Prod.fst (if_pos notOk)

end

/-- A method that returns a result code: `act` writes the output arguments to the
reply as `message`, and the proxy reads `out` from it. -/
theorem returned_of_dispatched (faithful : data.Faithful units) {x : Exchange β Uec δ Unit}
    {error : Uec → Prop} (sends : x.Sends data units error call)
    (complete : call.complete = true) (dispatched : call.code.dispatched = true)
    (failed : x.failed = id) {get : SrvReply → δ}
    {set : δ → SrvReply → SrvReply}
    (performed : UsbServerProxy.perform data junk
        (some (UsbServerStub.sendRequest data service base)) [] call vars far =
      UsbServerProxy.returnRet data (some (UsbServerStub.sendRequest data service base)) [] x get
        set vars far)
    {reply : SrvReply} (outcome : (service call.received far.state).1 = reply)
    {act : UsbServerStub.Handler β σ Unit}
    (shape : UsbServerStub.answer data call reply = (do
      UsbServerStub.returnUnlessOk reply.ret
      act))
    {message rest : List β} (answers : UsbServerStub.Answers act message) {out : δ}
    (read : x.reply (get vars) message = (.ok (), out, rest)) :
    (UsbServerProxy.perform data junk (some (UsbServerStub.sendRequest data service base)) []
        call vars far).1 =
      reply.returned (set (get vars) vars) fun _ => set out vars := by
  have returns : (UsbServerProxy.returnRet data
      (some (UsbServerStub.sendRequest data service base)) [] x get set vars far).1 =
      { set (x.run data (some (UsbServerStub.sendRequest data service base)) [] (get vars)
          far).1.2 vars with
        ret := retOf (x.run data (some (UsbServerStub.sendRequest data service base)) []
          (get vars) far).1.1 } := rfl
  rw [performed, returns]
  unfold SrvReply.returned
  by_cases ok : reply.ret = .UEC_OK
  · have whole : UsbServerStub.Answers (UsbServerStub.answer data call
        (service call.received far.state).1 : UsbServerStub.Handler β σ Unit) message := by
      rw [outcome, shape, ok]
      exact answers
    have result : (x.run data (some (UsbServerStub.sendRequest data service base)) [] (get vars)
        far).1 = (.ok (), out) := by
      rw [run_of_dispatched faithful sends complete dispatched whole, read]
    rw [if_pos ok, result]
    rfl
  · have stops : UsbServerStub.answer data call (service call.received far.state).1 =
        (ParcelAction.fail reply.ret : UsbServerStub.Handler β σ Unit) := by
      rw [outcome, shape]
      unfold UsbServerStub.returnUnlessOk
      rw [if_pos ok]
      rfl
    have result : (x.run data (some (UsbServerStub.sendRequest data service base)) [] (get vars)
        far).1 = (.error reply.ret, get vars) := by
      rw [run_of_fails faithful sends complete dispatched ok stops, failed]
      rfl
    rw [if_neg ok, result]
    rfl

/-- The same of a method that replies. -/
theorem returned_of_answers (faithful : data.Faithful units) {x : Exchange β Uec δ Unit}
    {error : Uec → Prop} (sends : x.Sends data units error call)
    (replies : call.replies = true) (failed : x.failed = id) {get : SrvReply → δ}
    {set : δ → SrvReply → SrvReply}
    (performed : UsbServerProxy.perform data junk
        (some (UsbServerStub.sendRequest data service base)) [] call vars far =
      UsbServerProxy.returnRet data (some (UsbServerStub.sendRequest data service base)) [] x get
        set vars far)
    {reply : SrvReply} (outcome : (service call.received far.state).1 = reply)
    {act : UsbServerStub.Handler β σ Unit}
    (shape : UsbServerStub.answer data call reply = (do
      UsbServerStub.returnUnlessOk reply.ret
      act))
    {message rest : List β} (answers : UsbServerStub.Answers act message) {out : δ}
    (read : x.reply (get vars) message = (.ok (), out, rest)) :
    (UsbServerProxy.perform data junk (some (UsbServerStub.sendRequest data service base)) []
        call vars far).1 =
      reply.returned (set (get vars) vars) fun _ => set out vars := by
  obtain ⟨complete, dispatched⟩ := SrvCall.dispatched_of_replies replies
  exact returned_of_dispatched faithful sends complete dispatched failed performed outcome shape
    answers read

end

/-! ## The reply side -/

/-- Whenever this is the outcome of the call in the service, carrying it out with
parcels that never fail makes the stub call the service once and gives the outcome
to the caller. -/
def Delivers {β : Type} (data : MessageParcel β) (call : SrvCall) (reply : SrvReply) : Prop :=
  ∀ {σ : Type} (service : IUsbSrv σ) (base : IPCObjectStub β) (junk : UsbServerProxy.Uninitialised)
    (vars : SrvReply) (far : Far β σ), (service call.received far.state).1 = reply →
    (UsbServerProxy.perform data junk (some (UsbServerStub.sendRequest data service base)) [] call
      vars far).2.calls = far.calls ++ [call.received] ∧
    (UsbServerProxy.perform data junk (some (UsbServerStub.sendRequest data service base)) [] call
      vars far).1 = call.delivered reply vars

section

variable {β σ : Type} {data : MessageParcel β} {units : (t : ParcelType) → t.Value → List β}
  (faithful : data.Faithful units)

include faithful

section

variable {service : IUsbSrv σ} (base : IPCObjectStub β) (junk : UsbServerProxy.Uninitialised)
  (vars : SrvReply) {far : Far β σ} {reply : SrvReply}

theorem perform_onDevice_of_replies {request : DeviceRequest} (replies : request.replies = true)
    (fits : request.ReplyFits reply)
    (outcome : (service (SrvCall.onDevice request).received far.state).1 = reply) :
    (UsbServerProxy.perform data junk (some (UsbServerStub.sendRequest data service base)) []
      (.onDevice request) vars far).1 = request.delivered reply vars := by
  cases request with
  | bulkTransferRead dev pipe timeOut =>
    have read := UsbServerProxy.consumes_buffer_of_fits faithful fits vars.bufferData []
    rw [List.append_nil] at read
    exact returned_of_answers faithful
      (UsbServerProxy.sends_bulkTransferRead faithful dev pipe timeOut) rfl rfl rfl outcome rfl
      (UsbServerStub.answers_buffer faithful reply.bufferData) read
  | controlTransfer dev ctrl bufferData =>
    have sends := UsbServerProxy.sends_controlTransfer faithful dev ctrl bufferData
    have performed : UsbServerProxy.perform data junk
        (some (UsbServerStub.sendRequest data service base)) []
        (.onDevice (.controlTransfer dev ctrl bufferData)) vars far =
      UsbServerProxy.returnRet data (some (UsbServerStub.sendRequest data service base)) []
        (UsbServerProxy.controlTransfer data dev ctrl bufferData) (fun _ => bufferData)
        UsbServerProxy.setBuffer vars far := rfl
    cases direction : isWrite ctrl.requestType with
    | true =>
      have silent : UsbServerStub.answer data (.onDevice (.controlTransfer dev ctrl bufferData))
          reply = (do
            UsbServerStub.returnUnlessOk reply.ret
            pure () : UsbServerStub.Handler β σ Unit) := by
        unfold UsbServerStub.answer
        dsimp only
        rw [direction]
        rfl
      have read : (UsbServerProxy.controlTransfer data dev ctrl bufferData).reply bufferData [] =
          (.ok (), bufferData, []) := by
        unfold UsbServerProxy.controlTransfer
        dsimp only
        rw [direction]
        rfl
      have whole := returned_of_answers faithful sends rfl rfl performed outcome silent .pure read
      dsimp only [DeviceRequest.delivered]
      rw [direction]
      exact whole
    | false =>
      have answered : UsbServerStub.answer data (.onDevice (.controlTransfer dev ctrl bufferData))
          reply = (do
            UsbServerStub.returnUnlessOk reply.ret
            ParcelAction.ignore (UsbServerStub.onReply
              (UsbServerStub.setBufferMessage data reply.bufferData)) :
            UsbServerStub.Handler β σ Unit) := by
        unfold UsbServerStub.answer
        dsimp only
        rw [direction]
        rfl
      have read : (UsbServerProxy.controlTransfer data dev ctrl bufferData).reply bufferData
          (ParcelAction.unitsOf units (bufferArguments reply.bufferData)) =
          (.ok (), reply.bufferData, []) := by
        have consumes := UsbServerProxy.consumes_buffer_of_fits faithful (fits direction)
          bufferData []
        rw [List.append_nil] at consumes
        unfold UsbServerProxy.controlTransfer
        dsimp only
        rw [direction]
        exact consumes
      have whole := returned_of_answers faithful sends rfl rfl performed outcome answered
        (.ignore (UsbServerStub.answers_buffer faithful reply.bufferData)) read
      dsimp only [DeviceRequest.delivered]
      rw [direction]
      exact whole
  | getRawDescriptor busNum devAddr =>
    have read := UsbServerProxy.consumes_buffer_of_fits faithful fits vars.bufferData []
    rw [List.append_nil] at read
    exact returned_of_answers faithful
      (UsbServerProxy.sends_getRawDescriptor faithful busNum devAddr) rfl rfl rfl outcome rfl
      (UsbServerStub.answers_buffer faithful reply.bufferData) read
  | getFileDescriptor busNum devAddr =>
    have read := UsbServerProxy.consumes_int32 faithful reply.value vars.value []
    rw [List.append_nil] at read
    exact returned_of_answers faithful
      (UsbServerProxy.sends_getFileDescriptor faithful busNum devAddr) rfl rfl rfl outcome rfl
      (UsbServerStub.answers_value faithful .int32 reply.value) read
  | requestWait dev timeOut =>
    have performed : UsbServerProxy.perform data junk
        (some (UsbServerStub.sendRequest data service base)) []
        (.onDevice (.requestWait dev timeOut)) vars far =
      UsbServerProxy.returnRet data (some (UsbServerStub.sendRequest data service base)) []
        (UsbServerProxy.requestWait data dev timeOut)
        (fun vars => (vars.clientData, vars.bufferData))
        (fun out vars => { vars with clientData := out.1, bufferData := out.2 }) vars far := rfl
    have read := UsbServerProxy.consumes_twoBuffers faithful dev timeOut fits.1 fits.2
      (vars.clientData, vars.bufferData) []
    rw [List.append_nil] at read
    exact returned_of_answers faithful (UsbServerProxy.sends_requestWait faithful dev timeOut) rfl
      rfl performed outcome rfl
      (.bind (UsbServerStub.answers_buffer faithful reply.clientData)
        (UsbServerStub.answers_buffer faithful reply.bufferData)) read
  | _ => cases replies

/-- The caller gets the outcome of the call. -/
theorem perform_of_replies {call : SrvCall} (replies : call.replies = true)
    (fits : call.ReplyFits reply) (outcome : (service call.received far.state).1 = reply) :
    (UsbServerProxy.perform data junk (some (UsbServerStub.sendRequest data service base)) [] call
      vars far).1 = call.delivered reply vars := by
  cases call with
  | hasRight deviceName =>
    have result : ((UsbServerProxy.hasRight data deviceName).run data
        (some (UsbServerStub.sendRequest data service base)) [] () far).1 =
        (.ok reply.flag, ()) :=
      run_of_value faithful (UsbServerProxy.sends_hasRight faithful deviceName) rfl outcome
        (UsbServerStub.answers_value faithful .bool reply.flag) (.take faithful _ _ _)
    change { vars with
      flag := UsbServerProxy.valueOf ((UsbServerProxy.hasRight data deviceName).run data
        (some (UsbServerStub.sendRequest data service base)) [] () far).1.1 } = _
    rw [result]
    rfl
  | getCurrentFunctions =>
    have read := UsbServerProxy.consumes_int32 faithful reply.value vars.value []
    rw [List.append_nil] at read
    exact returned_of_answers faithful (UsbServerProxy.sends_getCurrentFunctions faithful) rfl rfl
      rfl outcome rfl (UsbServerStub.answers_value faithful .int32 reply.value) read
  | usbFunctionsFromString funcs =>
    have result : ((UsbServerProxy.usbFunctionsFromString data funcs).run data
        (some (UsbServerStub.sendRequest data service base)) [] () far).1 =
        (.ok reply.value, ()) :=
      run_of_value faithful (UsbServerProxy.sends_usbFunctionsFromString faithful funcs) rfl
        outcome (UsbServerStub.answers_value faithful .int32 reply.value)
        (.takeUnchecked faithful _ _ _ _)
    unfold UsbServerProxy.perform
    dsimp only
    rw [congrArg Prod.fst result]
    rfl
  | usbFunctionsToString funcs =>
    have result : ((UsbServerProxy.usbFunctionsToString data funcs).run data
        (some (UsbServerStub.sendRequest data service base)) [] () far).1 =
        (.ok reply.text, ()) :=
      run_of_value faithful (UsbServerProxy.sends_usbFunctionsToString faithful funcs) rfl
        outcome (UsbServerStub.answers_value faithful .string reply.text) (.take faithful _ _ _)
    change { vars with
      text := UsbServerProxy.valueOf ((UsbServerProxy.usbFunctionsToString data funcs).run data
        (some (UsbServerStub.sendRequest data service base)) [] () far).1.1 } = _
    rw [result]
    rfl
  | getPorts =>
    have performed : UsbServerProxy.perform data junk
        (some (UsbServerStub.sendRequest data service base)) [] .getPorts vars far =
      UsbServerProxy.returnRet data (some (UsbServerStub.sendRequest data service base)) []
        (UsbServerProxy.getPorts data) SrvReply.ports (fun ports vars => { vars with ports }) vars
        far := rfl
    have read := UsbServerProxy.consumes_ports faithful fits vars.ports []
    rw [List.append_nil] at read
    exact returned_of_answers faithful (UsbServerProxy.sends_getPorts faithful) rfl rfl performed
      outcome rfl (UsbServerStub.answers_ports faithful reply.ports) read
  | getSupportedModes portId =>
    have read := UsbServerProxy.consumes_int32 faithful reply.value vars.value []
    rw [List.append_nil] at read
    exact returned_of_answers faithful (UsbServerProxy.sends_getSupportedModes faithful portId) rfl
      rfl rfl outcome rfl (UsbServerStub.answers_value faithful .int32 reply.value) read
  | onDevice request =>
    exact perform_onDevice_of_replies faithful base junk vars replies fits outcome
  | requestRight | removeRight | getDevices | setCurrentFunctions | setPortRole => cases replies

/-- The service is called once. -/
theorem calls_of_replies {call : SrvCall} (replies : call.replies = true) :
    (UsbServerProxy.perform data junk (some (UsbServerStub.sendRequest data service base)) [] call
      vars far).2.calls = far.calls ++ [call.received] := by
  obtain ⟨complete, dispatched⟩ := SrvCall.dispatched_of_replies replies
  exact (calls_of_dispatched faithful complete dispatched).2

end

/-- For every method that replies the caller gets the outcome of the call, as long
as what is sent back fits the lengths it is sent with. -/
theorem delivers {call : SrvCall} (replies : call.replies = true) {reply : SrvReply}
    (fits : call.ReplyFits reply) : Delivers data call reply :=
  fun _ base junk vars _ outcome =>
    ⟨calls_of_replies faithful base junk vars replies,
      perform_of_replies faithful base junk vars replies fits outcome⟩

/-- As much of the buffer arrives as its length says. -/
theorem bufferData_bulkTransferRead (service : IUsbSrv σ) (base : IPCObjectStub β) (dev : UsbDev)
    (pipe : UsbPipe) (timeOut : Int32) (far : Far β σ) {reply : SrvReply}
    (ok : reply.ret = .UEC_OK)
    (outcome : (service (.onDevice (.bulkTransferRead dev pipe timeOut)) far.state).1 = reply) :
    (UsbServerProxy.perform data ⟨0, 0⟩ (some (UsbServerStub.sendRequest data service base)) []
      (.onDevice (.bulkTransferRead dev pipe timeOut)) {} far).1.bufferData =
        (sentBuffer reply.bufferData).val := by
  have read := UsbServerProxy.consumes_buffer faithful reply.bufferData [] []
  rw [List.append_nil] at read
  have got : (UsbServerProxy.perform data ⟨0, 0⟩
      (some (UsbServerStub.sendRequest data service base)) []
      (.onDevice (.bulkTransferRead dev pipe timeOut)) {} far).1 =
      reply.returned {} fun _ =>
        UsbServerProxy.setBuffer (sentBuffer reply.bufferData).val {} :=
    returned_of_answers faithful (UsbServerProxy.sends_bulkTransferRead faithful dev pipe timeOut)
      rfl rfl rfl outcome rfl (UsbServerStub.answers_buffer faithful reply.bufferData) read
  rw [got]
  unfold SrvReply.returned
  rw [if_pos ok]
  rfl

/-- Where the size of the list is not positive as it is sent, no port arrives. -/
theorem ports_getPorts (service : IUsbSrv σ) (base : IPCObjectStub β) (far : Far β σ)
    {reply : SrvReply} (ok : reply.ret = .UEC_OK)
    (outcome : (service .getPorts far.state).1 = reply)
    (none : (UInt32.ofNat reply.ports.length).toInt32.toInt.toNat = 0) :
    (UsbServerProxy.perform data ⟨0, 0⟩ (some (UsbServerStub.sendRequest data service base)) []
      .getPorts {} far).1.ports = [] := by
  have performed : UsbServerProxy.perform data ⟨0, 0⟩
      (some (UsbServerStub.sendRequest data service base)) [] .getPorts {} far =
    UsbServerProxy.returnRet data (some (UsbServerStub.sendRequest data service base)) []
      (UsbServerProxy.getPorts data) SrvReply.ports (fun ports vars => { vars with ports }) {}
      far := rfl
  have read : (UsbServerProxy.getPorts data).reply []
      (units .int32 (UInt32.ofNat reply.ports.length).toInt32 ++
        (reply.ports.take (UInt32.ofNat reply.ports.length).toNat).flatMap
          (UsbServerStub.portData units)) =
      (.ok (), [], (reply.ports.take (UInt32.ofNat reply.ports.length).toNat).flatMap
        (UsbServerStub.portData units)) := by
    unfold UsbServerProxy.getPorts
    dsimp only
    rw [ParcelAction.bind_of_ok (ParcelAction.take_of_some (faithful.read _ _ _) _), none]
    rfl
  have got := returned_of_answers faithful (UsbServerProxy.sends_getPorts faithful) rfl rfl
    performed outcome rfl (UsbServerStub.answers_ports faithful reply.ports) read
  rw [got]
  unfold SrvReply.returned
  rw [if_pos ok]

/-- A buffer that does not fit its length does not arrive. -/
theorem not_delivers_of_long (dev : UsbDev) (pipe : UsbPipe) (timeOut : Int32)
    {bufferData : List UInt8} (long : ¬ FitsLength bufferData) :
    ¬ Delivers data (.onDevice (.bulkTransferRead dev pipe timeOut)) { bufferData } := by
  intro delivers
  have owed := (delivers (fun _ s => ({ bufferData }, s)) (fun _ _ reply => (.UEC_OK, reply)) ⟨0, 0⟩
    {} ({ state := () } : Far β Unit) rfl).2
  have got := bufferData_bulkTransferRead faithful (fun _ s => ({ bufferData }, s))
    (fun _ _ reply => (.UEC_OK, reply)) dev pipe timeOut ({ state := () } : Far β Unit) rfl rfl
  have same : bufferData = (sentBuffer bufferData).val :=
    (congrArg SrvReply.bufferData owed).symm.trans got
  rw [same] at long
  exact long (fitsLength_val _)

/-- A list of ports whose size is not positive as it is sent does not arrive. -/
theorem not_delivers_of_many {ports : List UsbPort} (some : ports ≠ [])
    (none : (UInt32.ofNat ports.length).toInt32.toInt.toNat = 0) :
    ¬ Delivers data .getPorts { ports } := by
  intro delivers
  have owed := (delivers (fun _ s => ({ ports }, s)) (fun _ _ reply => (.UEC_OK, reply)) ⟨0, 0⟩
    {} ({ state := () } : Far β Unit) rfl).2
  have got := ports_getPorts faithful (fun _ s => ({ ports }, s))
    (fun _ _ reply => (.UEC_OK, reply)) ({ state := () } : Far β Unit) rfl rfl none
  exact some ((congrArg SrvReply.ports owed).symm.trans got)

end

/-- Two buffers arrive, the first of them empty. -/
theorem delivers_requestWait :
    Delivers slotParcel (.onDevice (.requestWait ⟨1, 2⟩ 500))
      { clientData := [], bufferData := [1, 2] } :=
  have fits : SrvCall.ReplyFits { clientData := [], bufferData := [1, 2] }
      (.onDevice (.requestWait ⟨1, 2⟩ 500)) := ⟨by simp [FitsLength], by simp [FitsLength]⟩
  delivers faithful_slotParcel rfl fits

/-- A buffer of 2^32 bytes is sent with the length 0, a list of 2^31 ports with a
negative size. -/
theorem not_delivers_long :
    ¬ Delivers slotParcel (.onDevice (.bulkTransferRead ⟨1, 2⟩ ⟨0, 1⟩ 500))
      { bufferData := List.replicate (2 ^ 32) 0 } ∧
    ¬ Delivers slotParcel .getPorts { ports := List.replicate (2 ^ 31) ⟨0, 0, 0, 0, 0⟩ } := by
  refine ⟨not_delivers_of_long faithful_slotParcel _ _ _ ?_,
    not_delivers_of_many faithful_slotParcel ?_ ?_⟩
  · unfold FitsLength
    rw [List.length_replicate]
    exact Nat.lt_irrefl _
  · intro none
    have length := congrArg List.length none
    rw [List.length_replicate] at length
    exact absurd length (by decide)
  · rw [List.length_replicate]
    decide

end UsbManager

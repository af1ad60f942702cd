import UsbManager.Forwarding
import UsbManager.Replies
import UsbManager.System
import UsbManager.Truncation

/-!
# Clients in other processes

A client works with the service through its proxy, the request and reply parcels and
the stub.  `ClientStep` is the service with its clients, with what carries out a call
of a client as a parameter: `overIpc` sends it to the stub, `inProcess` calls the
object of the service.  `remote_iff_inProcess`: both have the same runs, with the
same results for the clients.  But for the devices, whose maximum power has been
doubled on the way (`SrvCall.owed`), a client cannot tell that the service is in
another process.
-/

namespace UsbManager

open UsbService UsbServerProxy

/-! ## What a caller is owed -/

/-- What the caller's variables are to hold after the call.  Devices are appended as
they are transmitted. -/
def SrvCall.owed (reply vars : SrvReply) : SrvCall → SrvReply
  | getDevices => reply.returned vars fun vars =>
    { vars with deviceList := vars.deviceList ++ reply.deviceList.map UsbDevice.transmitted }
  | call => call.delivered reply vars

theorem SrvCall.owed_of_other {call : SrvCall} (other : call ≠ getDevices) (reply vars : SrvReply) :
    call.owed reply vars = call.delivered reply vars := by
  cases call with
  | getDevices => exact absurd rfl other
  | _ => rfl

/-- The reply can be sent back. -/
def SrvCall.ReplySent (reply : SrvReply) : SrvCall → Prop
  | getDevices => reply.deviceList.length < 2 ^ 31 ∧
    ∀ dev ∈ reply.deviceList, dev.Countable ∧ dev.Consistent
  | call => call.ReplyFits reply

/-! ## Methods without output arguments -/

/-- The method of the proxy sends the call and reads nothing from the reply. -/
structure Silent {β : Type} (data : MessageParcel β) (units : (t : ParcelType) → t.Value → List β)
    (junk : Uninitialised) (call : SrvCall) (x : Exchange β Uec Unit Unit) : Prop where
  sends : x.Sends data units (· ≠ .UEC_OK) call
  failed : x.failed = id
  reply : x.reply = pure ()
  performed : ∀ {σ : Type} (remote : Option (Remote β σ)) outcomes vars s,
    perform data junk remote outcomes call vars s = returnOnly data remote outcomes x vars s

section

variable {β : Type} {data : MessageParcel β} {units : (t : ParcelType) → t.Value → List β}
  {junk : Uninitialised} (faithful : data.Faithful units)

include faithful

/-- A method that ignores the result of `SetDeviceMessage`. -/
theorem Silent.ofDevice {x : Exchange β Uec Unit Unit} {request : DeviceRequest}
    {rest : ParcelAction β (List Bool) Uec Unit} (code : x.code = request.code)
    (shape : x.request = (do
      ParcelAction.ignore (setDeviceMessage data request.dev.busNum request.dev.devAddr)
      rest))
    (results : x.noRemote ≠ .UEC_OK ∧ x.noToken ≠ .UEC_OK ∧ x.failed = id ∧ x.reply = pure ())
    (checked : rest.Attempts units (· ≠ .UEC_OK) request.arguments)
    (complete : request.complete = true) (ignores : request.code ≠ .USB_FUN_OPEN_DEVICE)
    (performed : ∀ {σ : Type} (remote : Option (Remote β σ)) outcomes vars s,
      perform data junk remote outcomes (.onDevice request) vars s =
        returnOnly data remote outcomes x vars s) :
    Silent data units junk (.onDevice request) x := by
  obtain ⟨noRemote, noToken, failed, reply⟩ := results
  have missing (incomplete : request.complete = false) : rest.Stops (· ≠ .UEC_OK) :=
    absurd (complete.symm.trans incomplete) nofun
  exact ⟨.ofIgnored faithful code noRemote noToken shape (fun _ => checked) missing ignores,
    failed, reply, performed⟩

/-- The methods with a device. -/
theorem silent_onDevice {request : DeviceRequest} (complete : request.complete = true)
    (silent : request.replies = false) (dispatched : request.code.dispatched = true) :
    ∃ x, Silent data units junk (.onDevice request) x := by
  have write {t : ParcelType} (v : t.Value) := attempts_write faithful v
  have two (a b : UInt8) := ParcelAction.Attempts.cons (write (t := .uint8) a) fun _ =>
    write (t := .uint8) b
  have notOk : Uec.ERR_INVALID_VALUE ≠ .UEC_OK := nofun
  have results : Uec.UEC_SERVICE_INNER_ERR ≠ .UEC_OK ∧ Uec.ERR_ENOUGH_DATA ≠ .UEC_OK ∧
      (id : Uec → Uec) = id ∧
        (pure () : ParcelAction β Unit Uec Unit) = pure () := ⟨nofun, nofun, rfl, rfl⟩
  cases request with
  | openDevice busNum devAddr =>
    exact ⟨openDevice data busNum devAddr,
      .ofAttempts faithful rfl nofun nofun (two busNum devAddr) fun _ => rfl, rfl, rfl,
      fun _ _ _ _ => rfl⟩
  | claimInterface busNum devAddr interface force =>
    exact ⟨claimInterface data busNum devAddr interface force,
      .ofDevice faithful rfl rfl results (two interface force) rfl nofun fun _ _ _ _ => rfl⟩
  | releaseInterface busNum devAddr interface =>
    exact ⟨releaseInterface data busNum devAddr interface,
      .ofDevice faithful rfl rfl results (write _) rfl nofun fun _ _ _ _ => rfl⟩
  | bulkTransferWrite dev pipe bufferData timeOut =>
    exact ⟨bulkTransferWrite data dev pipe bufferData timeOut,
      .ofDevice faithful rfl rfl results
        (.cons (write _) fun _ => .cons (write _) fun _ => .cons (write _) fun _ =>
          attempts_buffer faithful bufferData)
        rfl nofun fun _ _ _ _ => rfl⟩
  | setActiveConfig busNum devAddr configIndex =>
    exact ⟨setActiveConfig data busNum devAddr configIndex,
      .ofDevice faithful rfl rfl results (write _) rfl nofun fun _ _ _ _ => rfl⟩
  | setInterface busNum devAddr interfaceid altIndex =>
    exact ⟨setInterface data busNum devAddr interfaceid altIndex,
      .ofDevice faithful rfl rfl results (two interfaceid altIndex) rfl nofun fun _ _ _ _ => rfl⟩
  | requestQueue dev pipe clientData bufferData =>
    have buffers := ParcelAction.Attempts.bind
      (.withError (attempts_buffer faithful clientData) notOk)
      fun _ => .withError (attempts_buffer faithful bufferData) notOk
    exact ⟨requestQueue data dev pipe clientData bufferData,
      .ofDevice faithful rfl rfl results
        (.cons (write _) fun _ => .cons (write _) fun _ => buffers) rfl nofun
        fun _ _ _ _ => rfl⟩
  | requestCancel busNum devAddr interfaceid endpointId =>
    exact ⟨requestCancel data busNum devAddr interfaceid endpointId,
      .ofDevice faithful rfl rfl results (two interfaceid endpointId) rfl nofun fun _ _ _ _ => rfl⟩
  | close busNum devAddr =>
    exact ⟨close data busNum devAddr,
      .ofDevice faithful rfl rfl results (.pure ()) rfl nofun fun _ _ _ _ => rfl⟩
  | regBulkCallback dev pipe cb =>
    obtain ⟨cb, rfl⟩ := Option.isSome_iff_exists.mp complete
    exact ⟨regBulkCallback data dev pipe (some cb),
      .ofDevice faithful rfl rfl results (.bind (attempts_pipe faithful pipe) fun _ => write _)
        rfl nofun fun _ _ _ _ => rfl⟩
  | unRegBulkCallback dev pipe =>
    exact ⟨unRegBulkCallback data dev pipe,
      .ofDevice faithful rfl rfl results (attempts_pipe faithful pipe) rfl nofun fun _ _ _ _ => rfl⟩
  | bulkRead dev pipe ashmem =>
    obtain ⟨ashmem, rfl⟩ := Option.isSome_iff_exists.mp complete
    exact ⟨bulkRead data dev pipe (some ashmem),
      .ofDevice faithful rfl rfl results (.bind (attempts_pipe faithful pipe) fun _ => write _)
        rfl nofun fun _ _ _ _ => rfl⟩
  | bulkWrite dev pipe ashmem =>
    obtain ⟨ashmem, rfl⟩ := Option.isSome_iff_exists.mp complete
    exact ⟨bulkWrite data dev pipe (some ashmem),
      .ofDevice faithful rfl rfl results (.bind (attempts_pipe faithful pipe) fun _ => write _)
        rfl nofun fun _ _ _ _ => rfl⟩
  | bulkCancel dev pipe =>
    exact ⟨bulkCancel data dev pipe,
      .ofDevice faithful rfl rfl results (attempts_pipe faithful pipe) rfl nofun fun _ _ _ _ => rfl⟩
  | getActiveConfig => cases dispatched
  | bulkTransferRead | controlTransfer | getRawDescriptor | getFileDescriptor | requestWait =>
    cases silent

/-- Every method whose reply is the result code only. -/
theorem exists_silent {call : SrvCall} (complete : call.complete = true)
    (silent : call.replies = false) (dispatched : call.code.dispatched = true)
    (other : call ≠ .getDevices) : ∃ x, Silent data units junk call x := by
  have write {t : ParcelType} (v : t.Value) := attempts_value faithful v
  cases call with
  | requestRight deviceName =>
    exact ⟨requestRight data deviceName,
      .ofAttempts faithful rfl nofun nofun (write _) fun _ => rfl, rfl, rfl, fun _ _ _ _ => rfl⟩
  | removeRight deviceName =>
    exact ⟨removeRight data deviceName,
      .ofAttempts faithful rfl nofun nofun (write _) fun _ => rfl, rfl, rfl, fun _ _ _ _ => rfl⟩
  | setCurrentFunctions funcs =>
    exact ⟨setCurrentFunctions data funcs,
      .ofAttempts faithful rfl nofun nofun (write _) fun _ => rfl, rfl, rfl, fun _ _ _ _ => rfl⟩
  | setPortRole portId powerRole dataRole =>
    exact ⟨setPortRole data portId powerRole dataRole,
      .ofAttempts faithful rfl nofun nofun
        (.cons (write _) fun _ => .cons (write _) fun _ => write _) fun _ => rfl,
      rfl, rfl, fun _ _ _ _ => rfl⟩
  | getDevices => exact absurd rfl other
  | onDevice request => exact silent_onDevice faithful complete silent dispatched
  | _ => cases silent

/-! ## A call and its reply -/

section

variable {σ : Type} {service : IUsbSrv σ} {base : IPCObjectStub β} {vars : SrvReply}
  {far : Far β σ} {call : SrvCall} {reply : SrvReply}

/-- The result code arrives. -/
theorem perform_of_silent {x : Exchange β Uec Unit Unit} (silent : Silent data units junk call x)
    (complete : call.complete = true) (dispatched : call.code.dispatched = true)
    (shape : UsbServerStub.answer data call reply =
      (UsbServerStub.returnUnlessOk reply.ret : UsbServerStub.Handler β σ Unit))
    (outcome : (service call.received far.state).1 = reply) :
    (perform data junk (some (UsbServerStub.sendRequest data service base)) [] call vars far).1 =
      reply.returned vars id := by
  have answered : UsbServerStub.answer data call reply = (do
      UsbServerStub.returnUnlessOk reply.ret
      pure () : UsbServerStub.Handler β σ Unit) := by
    rw [shape]
    unfold UsbServerStub.returnUnlessOk
    split
    · rfl
    · rfl
  have read : x.reply () [] = (.ok (), (), []) := by
    rw [silent.reply]
    rfl
  exact returned_of_dispatched faithful silent.sends complete dispatched silent.failed
    (silent.performed _ _ _ _) outcome answered .pure read

/-- The list of devices arrives as it is transmitted. -/
theorem perform_getDevices (sameWidth : SameWidth units)
    (sent : SrvCall.ReplySent reply .getDevices)
    (outcome : (service .getDevices far.state).1 = reply) :
    (perform data junk (some (UsbServerStub.sendRequest data service base)) [] .getDevices vars
      far).1 = SrvCall.owed reply vars .getDevices := by
  have appends := appends_deviceList_of_few faithful sent.1
  have consumes := consumes_deviceList faithful sameWidth junk sent.1
    (fun dev there => (sent.2 dev there).1) (fun dev there => (sent.2 dev there).2)
    vars.deviceList []
  rw [List.append_nil] at consumes
  have performed : perform data junk (some (UsbServerStub.sendRequest data service base)) []
      .getDevices vars far =
    returnRet data (some (UsbServerStub.sendRequest data service base)) [] (getDevices data junk)
      SrvReply.deviceList (fun deviceList vars => { vars with deviceList }) vars far := rfl
  exact returned_of_dispatched faithful (sends_getDevices faithful junk) rfl rfl rfl performed
    outcome rfl (.onReply appends) consumes

/-- The caller gets what it is owed, and the service has done what it was asked. -/
theorem perform_owed (sameWidth : SameWidth units) (complete : call.complete = true)
    (dispatched : call.code.dispatched = true) (fits : call.Fits)
    (sent : call.ReplySent (service call far.state).1) :
    (perform data junk (some (UsbServerStub.sendRequest data service base)) [] call vars far).1 =
        call.owed (service call far.state).1 vars ∧
      (perform data junk (some (UsbServerStub.sendRequest data service base)) [] call vars
        far).2.state = (service call far.state).2 := by
  have received := SrvCall.received_of_fits fits
  have effect := (@calls_of_dispatched _ _ data units call junk vars far service base faithful
    complete dispatched).1
  rw [received] at effect
  refine ⟨?_, effect⟩
  have outcome : (service call.received far.state).1 = (service call far.state).1 := by
    rw [received]
  by_cases devices : call = .getDevices
  · subst devices
    exact perform_getDevices faithful sameWidth sent rfl
  rw [SrvCall.owed_of_other devices]
  cases replies : call.replies with
  | true =>
    have fits : call.ReplyFits (service call far.state).1 := by
      cases call with
      | getDevices => exact absurd rfl devices
      | _ => exact sent
    exact perform_of_replies faithful base junk vars replies fits outcome
  | false =>
    obtain ⟨x, silent⟩ := @exists_silent _ data units junk faithful _ complete replies dispatched
      devices
    have shape : UsbServerStub.answer data call (service call far.state).1 =
        (UsbServerStub.returnUnlessOk (service call far.state).1.ret :
          UsbServerStub.Handler β σ Unit) ∧
        call.delivered (service call far.state).1 vars =
          (service call far.state).1.returned vars id := by
      cases call with
      | getDevices => exact absurd rfl devices
      | onDevice request =>
        cases request with
        | getActiveConfig => cases dispatched
        | bulkTransferRead | controlTransfer | getRawDescriptor | getFileDescriptor
        | requestWait => cases replies
        | _ => exact ⟨rfl, rfl⟩
      | requestRight | removeRight | setCurrentFunctions | setPortRole => exact ⟨rfl, rfl⟩
      | _ => cases replies
    rw [shape.2]
    exact perform_of_silent faithful silent complete dispatched shape.1 outcome

end

end

/-! ## The service with its clients -/

/-- What each client keeps in `proxy_`, and the service. -/
structure ClientState (κ : Type) where
  proxies : κ → Option Unit := fun _ => none
  service : ServiceState

/-- What carries out the call of a client, with the variables it passes. -/
abbrev Carrier (κ : Type) :=
  κ → Outside → SrvCall → SrvReply → ServiceState → SrvReply × ServiceState

/-- A client calls a method of `UsbSrvClient` and gets its result, or usbd reports
something. -/
inductive ClientLabel (κ : Type) where
  | call (client : κ) (outside : Outside) (call : ClientCall) (vars : ClientReply)
    (result : Option ClientReply)
  | report (outside : Outside) (report : Report) (ret : Uec)

/-- The service can be found. -/
inductive ClientStep {κ : Type} [DecidableEq κ] (usbd : Usbd) (carry : Carrier κ)
    (s : ClientState κ) : ClientLabel κ → ClientState κ → Prop
  | call {client : κ} {outside : Outside} {call : ClientCall} {vars : ClientReply}
    {result : Option ClientReply} {proxy_ : Option Unit} {service : ServiceState} :
    call.method.run (.service (some ())) (fun _ => carry client outside) vars (s.proxies client)
      s.service = (result, proxy_, service) →
    ClientStep usbd carry s (.call client outside call vars result)
      { proxies := Function.update s.proxies client proxy_, service }
  | report {outside : Outside} {report : Report} {ret : Uec} {service : ServiceState} :
    (report.handle usbd outside s.service).Returns (ret, service) →
    ClientStep usbd carry s (.report outside report ret) { s with service }

/-- What a client asks for has all its objects and buffers that fit their length. -/
def ClientLabel.Sendable {κ : Type} : ClientLabel κ → Prop
  | call _ _ made _ _ => ∀ request, made.method.request = .ok request →
    request.complete = true ∧ request.Fits
  | report _ _ _ => True

/-- Every buffer of usbd fits its length. -/
def Usbd.Brief (usbd : Usbd) : Prop :=
  ∀ calls call, FitsLength (usbd.answer calls call).bufferData ∧
    FitsLength (usbd.answer calls call).clientData

def ClientState.started {κ : Type} (reply : QueryReply) : ClientState κ where
  service := .started reply

section

variable {κ β : Type} (data : MessageParcel β) (base : IPCObjectStub β) (junk : Uninitialised)
  (usbd : Usbd) (invalid : UInt32) (bundle : κ → Option String)

/-- The proxy sends the call to the stub of the service. -/
def overIpc : Carrier κ := fun client outside call vars s =>
  let (reply, far) := perform data junk (some (UsbServerStub.sendRequest data
    (whole usbd invalid outside (bundle client)) base)) [] call vars { state := s }
  (reply, far.state)

/-- The object of the service is called. -/
def inProcess : Carrier κ := fun client outside call vars s =>
  let (reply, s) := whole usbd invalid outside (bundle client) call s
  (call.owed reply vars, s)

end

section

variable {κ β : Type} {data : MessageParcel β} {units : (t : ParcelType) → t.Value → List β}
  {base : IPCObjectStub β} {junk : Uninitialised} {usbd : Usbd} {invalid : UInt32}
  {outside : Outside} {caller : Option String} {bundle : κ → Option String}

/-- There are no more devices than addresses. -/
theorem length_getDevices {s : ServiceState} (sound : s.Sound) :
    (getDevices s.1).length < 2 ^ 31 := by
  refine few_of_distinct fun name => ?_
  unfold UsbService.getDevices
  rw [Table.filter_map_toList s.1.hostManager.devices Prod.snd _ name]
  · rw [List.length_map]
    cases s.1.hostManager.devices[name]? with
    | none => exact Nat.zero_le 1
    | some dev => exact Nat.le_refl 1
  · intro it there
    have stored := Std.TreeMap.mem_toList_iff_getElem?_eq_some.mp there
    rw [← (sound.devices it.1 it.2 stored).1]

/-- What a sound service replies can be sent back. -/
theorem replySent_of_sound (brief : usbd.Brief) {s : ServiceState} (sound : s.Sound)
    (call : SrvCall) : call.ReplySent (whole usbd invalid outside caller call s).1 := by
  have empty : FitsLength [] := by simp [FitsLength]
  cases call with
  | getDevices =>
    refine ⟨length_getDevices sound, fun dev there => ?_⟩
    obtain ⟨it, listed, rfl⟩ := List.mem_map.mp there
    have stored := Std.TreeMap.mem_toList_iff_getElem?_eq_some.mp listed
    exact (sound.devices it.1 it.2 stored).2
  | getPorts =>
    have few := UsbPortManager.length_getPorts sound.ports outside.queryPort
    change (s.2.portManager.getPorts outside.queryPort []).1.2.length < 2 ^ 31
    omega
  | onDevice request =>
    cases request with
    | bulkTransferRead | getRawDescriptor => exact (brief _ _).1
    | controlTransfer => exact fun _ => (brief _ _).1
    | requestWait => exact ⟨(brief _ _).2, (brief _ _).1⟩
    | _ => trivial
  | _ => trivial

/-- A call to the stub is a call of the service. -/
theorem overIpc_eq_inProcess (faithful : data.Faithful units) (sameWidth : SameWidth units)
    (brief : usbd.Brief) {s : ServiceState} (sound : s.Sound) {call : SrvCall}
    (complete : call.complete = true) (fits : call.Fits) (dispatched : call.code.dispatched = true)
    (client : κ) (vars : SrvReply) :
    overIpc data base junk usbd invalid bundle client outside call vars s =
      inProcess usbd invalid bundle client outside call vars s := by
  have owed := @perform_owed _ data units junk faithful _
    (whole usbd invalid outside (bundle client)) base vars { state := s } call sameWidth complete
    dispatched fits (replySent_of_sound brief sound call)
  exact Prod.ext owed.1 owed.2

namespace UsbSrvClient

/-- A method that can make its request in two ways. -/
theorem Method.run_congr {ρ σ : Type} {m : Method} {found : Found ρ}
    {invoke invoke' : ρ → SrvCall → SrvReply → σ → SrvReply × σ} {vars : ClientReply}
    {proxy_ : Option ρ} {s : σ}
    (same : ∀ proxy request, m.request = .ok request →
      invoke proxy request (m.passes vars.srv) s = invoke' proxy request (m.passes vars.srv) s) :
    m.run found invoke vars proxy_ s = m.run found invoke' vars proxy_ s := by
  unfold run
  rcases m.guard.check found proxy_ with ⟨_ | _, _ | proxy⟩
  · rfl
  · rfl
  · rfl
  · cases asks : m.request with
    | error ret => rfl
    | ok request =>
      dsimp only
      rw [same proxy request asks]

end UsbSrvClient

variable [DecidableEq κ]

/-- Where the service is sound a call of a client is the same either way. -/
theorem clientStep_iff (faithful : data.Faithful units) (sameWidth : SameWidth units)
    (brief : usbd.Brief) {s s' : ClientState κ} {label : ClientLabel κ} (sound : s.service.Sound)
    (sendable : label.Sendable) :
    ClientStep usbd (inProcess usbd invalid bundle) s label s' ↔
      ClientStep usbd (overIpc data base junk usbd invalid bundle) s label s' := by
  have same {client : κ} {outside : Outside} {call : ClientCall} {vars : ClientReply}
      {result : Option ClientReply} (sendable : (ClientLabel.call client outside call vars
        result).Sendable) :
      call.method.run (.service (some ())) (fun _ => inProcess usbd invalid bundle client outside)
          vars (s.proxies client) s.service =
        call.method.run (.service (some ()))
          (fun _ => overIpc data base junk usbd invalid bundle client outside) vars
          (s.proxies client) s.service := by
    refine UsbSrvClient.Method.run_congr fun _ request asks => ?_
    obtain ⟨complete, fits⟩ := sendable request asks
    obtain ⟨request', asked⟩ := exists_asks call
    cases asks.symm.trans asked.asks
    exact (overIpc_eq_inProcess faithful sameWidth brief sound complete fits asked.dispatched
      client _).symm
  constructor
  · intro step
    cases step with
    | call ran => exact .call ((same sendable).symm.trans ran)
    | report returned => exact .report returned
  · intro step
    cases step with
    | call ran => exact .call ((same sendable).trans ran)
    | report returned => exact .report returned

/-- The calls of clients keep the service sound. -/
theorem ClientStep.sound {s s' : ClientState κ} {label : ClientLabel κ}
    (sound : s.service.Sound)
    (step : ClientStep usbd (inProcess usbd invalid bundle) s label s') : s'.service.Sound := by
  cases step with
  | @call client outside call vars result proxy_ service ran =>
    obtain ⟨request, asks⟩ := exists_asks call
    have effect := @UsbSrvClient.Method.run_effect _ _ (.service (some ()))
      (fun _ => inProcess usbd invalid bundle client outside) vars _ request (s.proxies client)
      s.service asks.asks
    rw [ran] at effect
    rcases effect with kept | ⟨_, asked⟩
    · obtain rfl : service = s.service := kept
      exact sound
    · have called : service = (whole usbd invalid outside (bundle client) request s.service).2 :=
        asked
      rw [called]
      exact sound.step (@ServiceStep.call usbd invalid s.service _ _ _)
  | report returned => exact sound.step (@ServiceStep.report usbd invalid s.service _ _ _ _ returned)

/-- The service behind its stub and the object of the service have the same runs, with
the same results for every client. -/
theorem remote_iff_inProcess (faithful : data.Faithful units) (sameWidth : SameWidth units)
    (brief : usbd.Brief) (base : IPCObjectStub β) (junk : Uninitialised) (invalid : UInt32)
    (bundle : κ → Option String) (reply : QueryReply) (history : List (ClientLabel κ))
    (s : ClientState κ) :
    Run (Guarded (fun _ => ClientLabel.Sendable)
        (ClientStep usbd (overIpc data base junk usbd invalid bundle))) (.started reply) history s ↔
      Run (Guarded (fun _ => ClientLabel.Sendable)
        (ClientStep usbd (inProcess usbd invalid bundle))) (.started reply) history s := by
  let inv (s : ClientState κ) : Prop := s.service.Sound
  have start : inv (.started reply) := .start reply
  refine (Run.iff_of_agree start (fun s label s' sound step => step.2.sound sound) ?_).symm
  intro s label s' sound
  exact and_congr_right fun sendable => clientStep_iff faithful sameWidth brief sound sendable

end

/-- A client that asks whether it has a right to a device. -/
theorem remote_hasRight :
    let base : IPCObjectStub Slot := fun _ _ reply => (.UEC_OK, reply)
    let label : ClientLabel Unit := .call () allowing (.hasRight "1-2")
      ⟨{}, ⟨1, 2⟩, ⟨⟨1, 2⟩, {}, [], []⟩⟩ (some ⟨{}, ⟨1, 2⟩, ⟨⟨1, 2⟩, {}, [], []⟩⟩)
    ∃ s, Run (Guarded (fun _ => ClientLabel.Sendable) (ClientStep (DeviceService.bare 0)
      (overIpc slotParcel base ⟨7, 7⟩ (DeviceService.bare 0) 0 fun _ => some "app")))
      (.started allowing.queryPort) [label] s := by
  intro base label
  have brief : (DeviceService.bare 0).Brief := by
    intro calls call
    have empty : FitsLength [] := by simp [FitsLength]
    cases call with
    | GetRawDescriptor =>
      exact ⟨by simp [DeviceService.bare, DeviceService.bareDescriptor, FitsLength], empty⟩
    | _ => exact ⟨empty, empty⟩
  refine ⟨_, (remote_iff_inProcess faithful_slotParcel sameWidth_slots brief base ⟨7, 7⟩ 0
    (fun _ => some "app") allowing.queryPort [label] _).mpr (.single ⟨?_, .call rfl⟩)⟩
  rintro request asks
  cases asks
  exact ⟨rfl, trivial⟩

end UsbManager

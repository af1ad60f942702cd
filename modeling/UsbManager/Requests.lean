import UsbManager.System

/-!
# Requests from any process

`RequestStep` is the whole service behind its stub: any process sends a request
with any code and any contents, or usbd reports something.  The service stays
sound in every run (`sound_of_requests`), and whatever was sent, a request makes
usbd open a device only for a bundle that the user has allowed the device
(`opens_iff`).
-/

namespace UsbManager

open UsbService
open ParcelAction (Decodes)

/-! ## The service behind its stub -/

/-- A process sends a request, or usbd reports something. -/
inductive RequestLabel (β : Type) where
  | request (caller : Option String) (outside : Outside) (code : UInt32) (message : List β)
  | report (outside : Outside) (report : Report)
  deriving DecidableEq, Repr

section

variable {β : Type} (data : MessageParcel β) (base : IPCObjectStub β) (usbd : Usbd)
  (invalid : UInt32)

/-- The service after a request. -/
def ServiceState.requested (s : ServiceState) (caller : Option String) (outside : Outside)
    (code : UInt32) (message : List β) : ServiceState :=
  (UsbServerStub.served data (whole usbd invalid outside caller) base code message s).state

/-- A request or a report is handled. -/
inductive RequestStep (s : ServiceState) : RequestLabel β → ServiceState → Prop
  | request {caller : Option String} {outside : Outside} {code : UInt32} {message : List β} :
    RequestStep s (.request caller outside code message)
      (s.requested data base usbd invalid caller outside code message)
  | report {outside : Outside} {report : Report} {ret : Uec} {s' : ServiceState} :
    (report.handle usbd outside s).Returns (ret, s') →
    RequestStep s (.report outside report) s'

/-- The request is for the method of the call, and has all its arguments. -/
def Requested (code : UInt32) (message : List β) (call : SrvCall) : Prop :=
  IUsbSrv.Fun.ofCode code = some call.code ∧ Decoded data message call

/-- A request for the right of a bundle, should a dialog be shown, is allowed. -/
def RequestLabel.grants (name bundle : String) : RequestLabel β → Prop
  | request caller outside code message =>
    caller = some bundle ∧ outside.event = "EVENT_ALLOW" ∧
      Requested data code message (.requestRight name)
  | report _ _ => False

/-- A request ends the rights to a device. -/
def RequestLabel.removes (name : String) : RequestLabel β → Prop
  | request _ _ code message => Requested data code message (.removeRight name)
  | report _ _ => False

/-- The user was asked about the device for a bundle that had no right to it, has allowed
it, and no request has ended the rights to the device since. -/
def Allowed (reply : QueryReply) (name bundle : String) (history : List (RequestLabel β)) :
    Prop :=
  ∃ before label after s₁, history = before ++ label :: after ∧
    Run (RequestStep data base usbd invalid) (ServiceState.started reply) before s₁ ∧
    ¬ s₁.1.rightManager.hasRight name bundle = true ∧
    label.grants data name bundle ∧ ∀ later ∈ after, ¬ later.removes data name

end

/-! ## What a request does -/

section

variable {β : Type} {data : MessageParcel β} {base : IPCObjectStub β} {usbd : Usbd}
  {invalid : UInt32} {caller : Option String} {outside : Outside} {code : UInt32}
  {message : List β} {s s' : ServiceState}

/-- Values that are in the parcel are read. -/
theorem scan_of_values {arguments : List Argument} {contents rest : List β}
    (decodes : Decodes data arguments contents rest) :
    scan data (arguments.map fun argument => .value argument.1) contents =
      some (arguments, rest) := by
  induction decodes with
  | nil => rfl
  | @cons t v more contents contents' rest read _ ih =>
    exact scan_cons_iff.mpr ⟨[⟨t, v⟩], contents', more, by simp [scanField, read], ih, rfl⟩

/-- A method whose arguments are values is called if they are in the request. -/
theorem served_of_requested {σ : Type} {service : IUsbSrv σ} {state : σ} {call : SrvCall}
    (dispatched : call.code.dispatched = true) (fits : call.Fits)
    (values : call.code.fields = call.arguments.map fun argument => .value argument.1)
    (requested : Requested data code message call) :
    (UsbServerStub.served data service base code message state).state =
      (service call state).2 := by
  obtain ⟨ofCode, _, contents, rest, token, decodes⟩ := requested
  have scanned := scan_of_values decodes
  rw [← values] at scanned
  obtain ⟨call', same, arguments, fits', effect, _⟩ :=
    (@UsbServerStub.handler_calls β σ data service call.code base code dispatched ofCode
      { state } contents).2 _ _ scanned
  obtain rfl := SrvCall.eq_of_arguments same arguments fits' fits
  unfold UsbServerStub.served
  rw [UsbServerStub.onRemoteRequest_of_token token]
  exact effect

/-- A request has no effect or that of one call, which was requested unless it is one
of those with an object. -/
theorem requested_cases :
    s.requested data base usbd invalid caller outside code message = s ∨
      ∃ call, s.requested data base usbd invalid caller outside code message =
          (whole usbd invalid outside caller call s).2 ∧
        (call.complete = true → Requested data code message call) := by
  rcases served_cases (whole usbd invalid outside caller) base s with
    ⟨same, _⟩ | ⟨contents, rest, call, ofCode, token, scanned, effect, _⟩
  · exact .inl same
  · refine .inr ⟨call, effect, fun complete => ⟨ofCode, complete, contents, rest, token, ?_⟩⟩
    exact decodes_of_complete complete scanned

theorem requestRight_of_requested {name : String}
    (requested : Requested data code message (.requestRight name)) :
    s.requested data base usbd invalid caller outside code message =
      (whole usbd invalid outside caller (.requestRight name) s).2 :=
  served_of_requested rfl trivial rfl requested

theorem removeRight_of_requested {name : String}
    (requested : Requested data code message (.removeRight name)) :
    s.requested data base usbd invalid caller outside code message =
      (whole usbd invalid outside caller (.removeRight name) s).2 :=
  served_of_requested rfl trivial rfl requested

theorem openDevice_of_requested {busNum devAddr : UInt8}
    (requested : Requested data code message (.onDevice (.openDevice busNum devAddr))) :
    s.requested data base usbd invalid caller outside code message =
      (whole usbd invalid outside caller (.onDevice (.openDevice busNum devAddr)) s).2 :=
  served_of_requested rfl trivial rfl requested

/-- A request leads to a step of the service, or to none. -/
theorem RequestStep.cases {label : RequestLabel β}
    (step : RequestStep data base usbd invalid s label s') :
    s' = s ∨ ∃ label', ServiceStep usbd invalid s label' s' := by
  cases step with
  | request =>
    rcases requested_cases with same | ⟨call, effect, _⟩
    · exact .inl same
    · rw [effect]
      exact .inr ⟨_, .call⟩
  | report returned => exact .inr ⟨_, .report returned⟩

/-- The service is sound whatever it was sent. -/
theorem sound_of_requests {reply : QueryReply} {history : List (RequestLabel β)}
    (run : Run (RequestStep data base usbd invalid) (.started reply) history s) : s.Sound := by
  refine run.preserves (.start reply) fun s label s' sound step => ?_
  rcases step.cases with rfl | ⟨_, step⟩
  · exact sound
  · exact sound.step step

/-! ## The rights -/

/-- A request grants or ends a right only if that was requested. -/
theorem requested_rights (idle : s.1.rightManager.dialogId < 0) (name bundle : String) :
    (s.requested data base usbd invalid caller outside code message).1.rightManager.hasRight
        name bundle = true ↔
      RequestLabel.grants data name bundle (.request caller outside code message) ∨
        ¬ RequestLabel.removes data name (.request caller outside code message) ∧
          s.1.rightManager.hasRight name bundle = true := by
  have rights (call : SrvCall) := (@whole_rights usbd invalid outside caller call s idle).2 name
    bundle
  constructor
  · intro held
    by_cases removed : Requested data code message (.removeRight name)
    · rw [removeRight_of_requested removed, rights] at held
      rcases held with ⟨other, _⟩ | ⟨_, _, same⟩
      · exact absurd rfl other
      · cases same
    rcases requested_cases with same | ⟨call, effect, requested⟩
    · rw [same] at held
      exact .inr ⟨removed, held⟩
    · rw [effect, rights] at held
      rcases held with ⟨_, held⟩ | ⟨event, called, rfl⟩
      · exact .inr ⟨removed, held⟩
      · exact .inl ⟨called, event, requested rfl⟩
  · rintro (⟨called, event, requested⟩ | ⟨kept, held⟩)
    · rw [requestRight_of_requested requested, rights]
      exact .inr ⟨event, called, rfl⟩
    · rcases requested_cases with same | ⟨call, effect, requested⟩
      · rw [same]
        exact held
      · rw [effect, rights]
        refine .inl ⟨fun same => kept ?_, held⟩
        subst same
        exact requested rfl

/-- What a step does to a right, in a run. -/
theorem RequestStep.rights {reply : QueryReply} {history : List (RequestLabel β)}
    {label : RequestLabel β} (name bundle : String)
    (run : Run (RequestStep data base usbd invalid) (.started reply) history s)
    (step : RequestStep data base usbd invalid s label s') :
    s'.1.rightManager.hasRight name bundle = true ↔
      label.grants data name bundle ∨
        ¬ label.removes data name ∧ s.1.rightManager.hasRight name bundle = true := by
  cases step with
  | request => exact requested_rights (sound_of_requests run).idle name bundle
  | report returned =>
    rw [(Report.handle_cases returned).1]
    exact ⟨fun held => .inr ⟨id, held⟩, fun held => held.elim False.elim And.right⟩

theorem RequestLabel.not_removes_of_grants {name bundle : String} {label : RequestLabel β}
    (grants : label.grants data name bundle) : ¬ label.removes data name := by
  cases label with
  | report => exact grants.elim
  | request caller outside code message =>
    intro removes
    have same := grants.2.2.1.symm.trans removes.1
    cases same

/-- At the start nobody has a right. -/
theorem ServiceState.not_hasRight_started (reply : QueryReply) (name bundle : String) :
    ¬ (started reply).1.rightManager.hasRight name bundle = true := nofun

/-- A right is held exactly if the user has allowed it. -/
theorem hasRight_iff_allowed {reply : QueryReply} {history : List (RequestLabel β)}
    (run : Run (RequestStep data base usbd invalid) (.started reply) history s)
    (name bundle : String) :
    s.1.rightManager.hasRight name bundle = true ↔
      Allowed data base usbd invalid reply name bundle history := by
  let holds (s : ServiceState) : Prop := s.1.rightManager.hasRight name bundle = true
  have absent : ¬ holds (.started reply) := ServiceState.not_hasRight_started reply name bundle
  have change {history : List (RequestLabel β)} {s s' : ServiceState} {label : RequestLabel β}
      (earlier : Run (RequestStep data base usbd invalid) (.started reply) history s)
      (step : RequestStep data base usbd invalid s label s') :
      holds s' ↔ label.grants data name bundle ∨ ¬ label.removes data name ∧ holds s :=
    step.rights name bundle earlier
  exact Run.since_iff absent (fun _ => RequestLabel.not_removes_of_grants) change run

/-! ## Devices that are opened -/

/-- What the service asks of usbd when it handles a request. -/
def ServiceState.asks (s : ServiceState) (data : MessageParcel β) (base : IPCObjectStub β)
    (usbd : Usbd) (invalid : UInt32) (caller : Option String) (outside : Outside) (code : UInt32)
    (message : List β) : List UsbdCall :=
  (s.requested data base usbd invalid caller outside code message).1.calls.drop s.1.calls.length

theorem asks_of_effect {call : SrvCall}
    (effect : s.requested data base usbd invalid caller outside code message =
      (whole usbd invalid outside caller call s).2) :
    s.asks data base usbd invalid caller outside code message = forwards caller s.1 call := by
  unfold ServiceState.asks
  rw [effect, whole_calls, List.drop_left]

/-- Only `OpenDevice` opens a device. -/
theorem openDevice_mem_forwards {w : World} {call : SrvCall} {dev : UsbDev} :
    .OpenDevice dev ∈ forwards caller w call ↔
      call = .onDevice (.openDevice dev.busNum dev.devAddr) ∧
        hasRight caller (deviceName dev.busNum dev.devAddr) w = true := by
  cases call with
  | onDevice request =>
    cases request with
    | openDevice busNum devAddr =>
      have asks : forwards caller w (.onDevice (.openDevice busNum devAddr)) =
          if hasRight caller (deviceName busNum devAddr) w then [.OpenDevice ⟨busNum, devAddr⟩]
          else [] := rfl
      rw [asks]
      constructor
      · intro there
        split at there
        · obtain rfl := UsbdCall.OpenDevice.inj (List.mem_singleton.mp there)
          exact ⟨rfl, by assumption⟩
        · cases there
      · rintro ⟨same, right⟩
        cases same
        rw [if_pos right]
        exact List.mem_singleton_self _
    | bulkRead dev' pipe ashmem | bulkWrite dev' pipe ashmem =>
      cases ashmem <;> simp [forwards, DeviceRequest.forwarded]
    | _ => simp [forwards, DeviceRequest.forwarded]
  | _ => simp [forwards]

/-- A request makes usbd open a device exactly if it is an `OpenDevice` of that device
by a bundle that the user has allowed it. -/
theorem opens_iff {reply : QueryReply} {history : List (RequestLabel β)}
    (run : Run (RequestStep data base usbd invalid) (.started reply) history s)
    (caller : Option String) (outside : Outside) (code : UInt32) (message : List β)
    (dev : UsbDev) :
    .OpenDevice dev ∈ s.asks data base usbd invalid caller outside code message ↔
      Requested data code message (.onDevice (.openDevice dev.busNum dev.devAddr)) ∧
        ∃ bundle, caller = some bundle ∧
          Allowed data base usbd invalid reply (deviceName dev.busNum dev.devAddr) bundle
            history := by
  have right_iff : hasRight caller (deviceName dev.busNum dev.devAddr) s.1 = true ↔
      ∃ bundle, caller = some bundle ∧
        Allowed data base usbd invalid reply (deviceName dev.busNum dev.devAddr) bundle
          history := by
    cases caller with
    | none => exact ⟨nofun, fun ⟨_, same, _⟩ => absurd same nofun⟩
    | some bundle =>
      refine (hasRight_iff_allowed run (deviceName dev.busNum dev.devAddr) bundle).trans ?_
      simp
  rw [← right_iff]
  constructor
  · intro there
    rcases requested_cases with same | ⟨call, effect, requested⟩
    · unfold ServiceState.asks at there
      rw [same, List.drop_length] at there
      cases there
    · rw [asks_of_effect effect] at there
      obtain ⟨rfl, right⟩ := openDevice_mem_forwards.mp there
      exact ⟨requested rfl, right⟩
  · rintro ⟨requested, right⟩
    rw [asks_of_effect (openDevice_of_requested requested)]
    exact openDevice_mem_forwards.mpr ⟨rfl, right⟩

end

/-! ## A bundle that asks first -/

/-- A usbd that agrees to everything, and a base class that does. -/
def agreeable : Usbd := ⟨fun _ _ => { ret := .UEC_OK }⟩

def agreeableBase : IPCObjectStub Slot := fun _ _ reply => (.UEC_OK, reply)

/-- The service after a bundle was allowed the device `1-2`. -/
def allowedState : ServiceState :=
  (ServiceState.started allowing.queryPort).requested slotParcel agreeableBase agreeable 0
    (some "app") allowing IUsbSrv.Fun.USB_FUN_REQUEST_RIGHT.code
    [.token IUsbSrv.descriptor, .str (deviceName 1 2)]

theorem run_allowedState :
    Run (RequestStep slotParcel agreeableBase agreeable 0) (.started allowing.queryPort)
      [.request (some "app") allowing IUsbSrv.Fun.USB_FUN_REQUEST_RIGHT.code
        [.token IUsbSrv.descriptor, .str (deviceName 1 2)]] allowedState :=
  .single .request

/-- A device is attached, and a bundle is allowed it after that. -/
theorem sound_attached : ∃ dev s,
    Run (RequestStep slotParcel agreeableBase (DeviceService.bare 0) 0)
      (.started allowing.queryPort)
      [.report allowing (.deviceEvent ⟨.ACT_DEVUP, 1, 2⟩),
        .request (some "app") allowing IUsbSrv.Fun.USB_FUN_REQUEST_RIGHT.code
          [.token IUsbSrv.descriptor, .str (deviceName 1 2)]] s ∧
      s.Sound ∧ s.1.hostManager.devices[deviceName 1 2]? = some dev ∧
      s.1.rightManager.hasRight (deviceName 1 2) "app" = true := by
  obtain ⟨dev, w, got⟩ := DeviceService.info_bare 0 1 2 (ServiceState.started allowing.queryPort).1
  have address : dev.busNum = 1 ∧ dev.devAddr = 2 :=
    @DeviceService.address_of_succeeds _ {} _ _ _ _ got (DeviceService.succeeds_bare 0 {} 1 2 dev)
  let attached : ServiceState :=
    ({ w with hostManager := (w.hostManager.addDevice dev).2 },
      (ServiceState.started allowing.queryPort).2)
  have handled : (Report.handle (DeviceService.bare 0) allowing (.deviceEvent ⟨.ACT_DEVUP, 1, 2⟩)
      (.started allowing.queryPort)).Returns (.UEC_OK, attached) := by
    unfold Report.handle UsbServiceSubscriber.deviceEvent
    dsimp only
    rw [if_neg (by decide), if_pos rfl]
    exact Prog.returns_bind.mpr ⟨_, addDevice_of_info got, Prog.returns_pure.mpr rfl⟩
  have asked : Requested slotParcel IUsbSrv.Fun.USB_FUN_REQUEST_RIGHT.code
      [.token IUsbSrv.descriptor, .str (deviceName 1 2)] (.requestRight (deviceName 1 2)) :=
    ⟨rfl, rfl, _, [], rfl, .single rfl⟩
  have run := (Run.single
    (@RequestStep.report _ slotParcel agreeableBase _ 0 _ _ _ _ _ handled)).step
    (@RequestStep.request _ slotParcel agreeableBase _ 0 attached (some "app") allowing
      IUsbSrv.Fun.USB_FUN_REQUEST_RIGHT.code [.token IUsbSrv.descriptor, .str (deviceName 1 2)])
  refine ⟨dev, _, run, sound_of_requests run, ?_, ?_⟩
  · rw [requestRight_of_requested asked, whole_hostManager, HostManager.getElem?_addDevice,
      address.1, address.2, if_pos rfl]
  · have idle : attached.1.rightManager.dialogId < 0 :=
      (Report.handle_cases handled).1 ▸ (ServiceState.Sound.start allowing.queryPort).idle
    rw [requestRight_of_requested asked]
    exact ((whole_rights idle).2 _ _).mpr (.inr ⟨rfl, rfl, rfl⟩)

theorem opens_allowedState :
    .OpenDevice ⟨1, 2⟩ ∈ allowedState.asks slotParcel agreeableBase agreeable 0 (some "app")
      allowing IUsbSrv.Fun.USB_FUN_OPEN_DEVICE.code
      [.token IUsbSrv.descriptor, .w8 1, .w8 2] := by
  have asked : Requested slotParcel IUsbSrv.Fun.USB_FUN_REQUEST_RIGHT.code
      [.token IUsbSrv.descriptor, .str (deviceName 1 2)] (.requestRight (deviceName 1 2)) :=
    ⟨rfl, rfl, _, [], rfl, .single rfl⟩
  have opened : Requested slotParcel IUsbSrv.Fun.USB_FUN_OPEN_DEVICE.code
      [.token IUsbSrv.descriptor, .w8 1, .w8 2] (.onDevice (.openDevice 1 2)) :=
    ⟨rfl, rfl, _, [], rfl, .cons rfl (.single rfl)⟩
  have allowed : Allowed slotParcel agreeableBase agreeable 0 allowing.queryPort (deviceName 1 2)
      "app" [.request (some "app") allowing IUsbSrv.Fun.USB_FUN_REQUEST_RIGHT.code
        [.token IUsbSrv.descriptor, .str (deviceName 1 2)]] :=
    ⟨[], _, [], _, rfl, .start, ServiceState.not_hasRight_started _ _ _, ⟨rfl, rfl, asked⟩,
      fun _ there => absurd there List.not_mem_nil⟩
  exact (opens_iff run_allowedState (some "app") allowing _ _ ⟨1, 2⟩).mpr
    ⟨opened, "app", rfl, allowed⟩

end UsbManager

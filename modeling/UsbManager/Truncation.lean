import UsbManager.Hostile
import UsbManager.Transparency
import UsbManager.Napi

/-!
# Numbers that name something

The objects of a caller hold the numbers of devices, interfaces and endpoints in 32 bits,
and a timeout in 64.  The interface of the service takes most of them as bytes, and a
timeout in 32 bits.  On the way they are cut without a check (`untruncated_iff`).
-/

namespace UsbManager

/-- What a number of a call names. -/
inductive Part where
  | busNum
  | devAddr
  | interface
  | alternateSetting
  | config
  | endpoint
  | port
  | timeOut
  deriving DecidableEq, Repr

namespace Part

/-- What is left of a number where it is cut to the width that the service has for it. -/
def cut : Part → Int → Int
  | port, n => n.bmod 4294967296
  | timeOut, n => n.bmod 4294967296
  | _, n => n % 256

/-- The number has that width. -/
def Fits : Part → Int → Prop
  | port, n => -2147483648 ≤ n ∧ n < 2147483648
  | timeOut, n => -2147483648 ≤ n ∧ n < 2147483648
  | _, n => 0 ≤ n ∧ n < 256

theorem cut_eq_self_iff (part : Part) (n : Int) : part.cut n = n ↔ part.Fits n := by
  have word : n.bmod 4294967296 = n ↔ -2147483648 ≤ n ∧ n < 2147483648 := by
    constructor
    · intro same
      have low := Int.le_bmod (by decide : 0 < 4294967296) (x := n)
      have high := Int.bmod_lt (by decide : 0 < 4294967296) (x := n)
      omega
    · rintro ⟨low, high⟩
      exact Int.bmod_eq_of_le low high
  cases part with
  | port | timeOut => exact word
  | _ =>
    change n % 256 = n ↔ 0 ≤ n ∧ n < 256
    omega

/-- The number of a byte. -/
theorem emod_toNat (b : UInt8) : (b.toNat : Int) % 256 = b.toNat := by
  have bound := b.toNat_lt
  omega

/-- The number of the low byte. -/
theorem toNat_byteOfInt32 (n : Int32) : ((byteOfInt32 n).toNat : Int) = n.toInt % 256 := by
  have low : (byteOfInt32 n).toNat = n.toUInt32.toNat % 256 := UInt32.toNat_toUInt8 _
  have signed : n.toInt = if 2 * n.toUInt32.toNat < 4294967296 then (n.toUInt32.toNat : Int)
      else n.toUInt32.toNat - 4294967296 := BitVec.toInt_eq_toNat_cond n.toBitVec
  split at signed <;> omega

end Part

abbrev Identifier := Part × Int

/-- The number as the service has it. -/
def Identifier.cut (given : Identifier) : Identifier := (given.1, given.1.cut given.2)

def Identifier.Fits (given : Identifier) : Prop := given.1.Fits given.2

/-! ## The numbers of a call -/

def UsbDev.identifiers (dev : UsbDev) : List Identifier :=
  [(.busNum, dev.busNum.toNat), (.devAddr, dev.devAddr.toNat)]

def UsbPipe.identifiers (pipe : UsbPipe) : List Identifier :=
  [(.interface, pipe.interfaceId.toNat), (.endpoint, pipe.endpointId.toNat)]

/-- The numbers of a request but those of its device. -/
def DeviceRequest.parts : DeviceRequest → List Identifier
  | claimInterface _ _ interface _ => [(.interface, interface.toNat)]
  | releaseInterface _ _ interface => [(.interface, interface.toNat)]
  | bulkTransferRead _ pipe timeOut => pipe.identifiers ++ [(.timeOut, timeOut.toInt)]
  | bulkTransferWrite _ pipe _ timeOut => pipe.identifiers ++ [(.timeOut, timeOut.toInt)]
  | controlTransfer _ ctrl _ => [(.timeOut, ctrl.timeout.toInt)]
  | setActiveConfig _ _ configIndex => [(.config, configIndex.toNat)]
  | setInterface _ _ interfaceid altIndex =>
    [(.interface, interfaceid.toNat), (.alternateSetting, altIndex.toNat)]
  | requestQueue _ pipe _ _ => pipe.identifiers
  | requestWait _ timeOut => [(.timeOut, timeOut.toInt)]
  | requestCancel _ _ interfaceId endpointId => (UsbPipe.mk interfaceId endpointId).identifiers
  | regBulkCallback _ pipe _ => pipe.identifiers
  | unRegBulkCallback _ pipe => pipe.identifiers
  | bulkRead _ pipe _ => pipe.identifiers
  | bulkWrite _ pipe _ => pipe.identifiers
  | bulkCancel _ pipe => pipe.identifiers
  | _ => []

/-- The numbers that the service is called with. -/
def SrvCall.identifiers : SrvCall → List Identifier
  | onDevice request => request.dev.identifiers ++ request.parts
  | getSupportedModes portId => [(.port, portId.toInt)]
  | setPortRole portId _ _ => [(.port, portId.toInt)]
  | _ => []

def USBDevicePipe.identifiers (pipe : USBDevicePipe) : List Identifier :=
  [(.busNum, pipe.busNum.toNat), (.devAddr, pipe.devAddr.toNat)]

def USBEndpoint.identifiers (endpoint : USBEndpoint) : List Identifier :=
  [(.interface, endpoint.interfaceId.toNat), (.endpoint, endpoint.address.toNat)]

namespace ClientCall

/-- The numbers that a caller gives but those of the device. -/
def parts : ClientCall → List Identifier
  | getSupportedModes portId => [(.port, portId.toInt)]
  | setPortRole portId _ _ => [(.port, portId.toInt)]
  | claimInterface _ interface _ => [(.interface, interface.id.toInt)]
  | releaseInterface _ interface => [(.interface, interface.id.toInt)]
  | bulkTransfer _ endpoint _ timeOut => endpoint.identifiers ++ [(.timeOut, timeOut.toInt)]
  | controlTransfer _ ctrl _ => [(.timeOut, ctrl.timeout.toInt)]
  | setConfiguration _ config => [(.config, config.id.toInt)]
  | setInterface _ interface =>
    [(.interface, interface.id.toInt), (.alternateSetting, interface.alternateSetting.toInt)]
  | pipeRequestWait _ timeOut => [(.timeOut, timeOut.toInt)]
  | requestInitialize request => [(.interface, request.endpoint.interfaceId.toNat)]
  | requestFree request => request.endpoint.identifiers
  | requestAbort request => request.endpoint.identifiers
  | requestQueue request => request.endpoint.identifiers
  | regBulkCallback _ endpoint _ => endpoint.identifiers
  | unRegBulkCallback _ endpoint => endpoint.identifiers
  | bulkRead _ endpoint _ => endpoint.identifiers
  | bulkWrite _ endpoint _ => endpoint.identifiers
  | bulkCancel _ endpoint => endpoint.identifiers
  | _ => []

/-- The device that a caller names, where the call is for one. -/
def pipe? : ClientCall → Option USBDevicePipe
  | openDevice device => some ⟨device.busNum, device.devAddr⟩
  | claimInterface pipe _ _ => some pipe
  | releaseInterface pipe _ => some pipe
  | bulkTransfer pipe _ _ _ => some pipe
  | controlTransfer pipe _ _ => some pipe
  | setConfiguration pipe _ => some pipe
  | setInterface pipe _ => some pipe
  | getRawDescriptors pipe => some pipe
  | getFileDescriptor pipe => some pipe
  | close pipe => some pipe
  | pipeRequestWait pipe _ => some pipe
  | requestInitialize request => some request.pipe
  | requestFree request => some request.pipe
  | requestAbort request => some request.pipe
  | requestQueue request => some request.pipe
  | regBulkCallback pip _ _ => some pip
  | unRegBulkCallback pip _ => some pip
  | bulkRead pip _ _ => some pip
  | bulkWrite pip _ _ => some pip
  | bulkCancel pip _ => some pip
  | _ => none

/-- The numbers that a caller gives. -/
def identifiers (call : ClientCall) : List Identifier :=
  (call.pipe?.map USBDevicePipe.identifiers).getD [] ++ call.parts

/-- No object is missing. -/
def complete : ClientCall → Bool
  | regBulkCallback _ _ cb => cb.isSome
  | bulkRead _ _ ashmem => ashmem.isSome
  | bulkWrite _ _ ashmem => ashmem.isSome
  | _ => true

end ClientCall

/-- The number of a property, where the object has it. -/
def JsObject.given (object : JsObject) (part : Part) (fieldStr : String) : List Identifier :=
  (object.numbers.lookup fieldStr).toList.map fun n => (part, n.toInt)

/-- The numbers that a caller gives: those of the device are in the object. -/
def UsbInfo.JsCall.identifiers (call : JsCall) : List Identifier :=
  call.object.given .busNum "busNum" ++ call.object.given .devAddr "devAddress" ++ call.call.parts

/-- The direction of an endpoint is one of the two. -/
theorem direction_cases (endpoint : USBEndpoint) :
    USB_ENDPOINT_DIR_IN = endpoint.getDirection ∨ USB_ENDPOINT_DIR_OUT = endpoint.getDirection := by
  have bit : endpoint.getDirection.toNat = (endpoint.address.toNat.testBit 7).toNat * 2 ^ 7 := by
    unfold USBEndpoint.getDirection
    rw [UInt32.toNat_and]
    exact Nat.and_two_pow _ 7
  cases set : endpoint.address.toNat.testBit 7 with
  | true => exact .inl (UInt32.toNat_inj.mp (by rw [bit, set]; rfl))
  | false => exact .inr (UInt32.toNat_inj.mp (by rw [bit, set]; rfl))

theorem identifiers_usbDev (pipe : USBDevicePipe) :
    (UsbSrvClient.usbDev pipe).identifiers = pipe.identifiers.map Identifier.cut := by
  simp [UsbDev.identifiers, USBDevicePipe.identifiers, UsbSrvClient.usbDev, Identifier.cut,
    Part.cut, Part.emod_toNat]

theorem identifiers_usbPipe (endpoint : USBEndpoint) :
    (UsbSrvClient.usbPipe endpoint).identifiers = endpoint.identifiers.map Identifier.cut := by
  simp [UsbPipe.identifiers, USBEndpoint.identifiers, UsbSrvClient.usbPipe, Identifier.cut,
    Part.cut, Part.emod_toNat]

/-- The request names the device of the pipe, and has the other numbers cut. -/
theorem identifiers_onDevice {request : DeviceRequest} {pipe : USBDevicePipe}
    {parts : List Identifier} (dev : request.dev = UsbSrvClient.usbDev pipe)
    (rest : request.parts = parts.map Identifier.cut) :
    (SrvCall.onDevice request).identifiers = (pipe.identifiers ++ parts).map Identifier.cut := by
  change request.dev.identifiers ++ request.parts = _
  rw [dev, rest, identifiers_usbDev, List.map_append]

/-- What the client asks for with a call: its numbers are those of the caller, cut. -/
structure Asks (call : ClientCall) (request : SrvCall) : Prop where
  asks : call.method.request = .ok request
  complete : request.complete = call.complete
  dispatched : request.code.dispatched = true
  identifiers : request.identifiers = call.identifiers.map Identifier.cut

theorem exists_asks (call : ClientCall) : ∃ request, Asks call request := by
  cases call with
  | bulkTransfer pipe endpoint bufferData timeOut =>
    have parts : (UsbSrvClient.usbPipe endpoint).identifiers ++ [(Part.timeOut, timeOut.toInt)] =
        (endpoint.identifiers ++ [(Part.timeOut, timeOut.toInt)]).map Identifier.cut := by
      rw [List.map_append, identifiers_usbPipe]
      simp [Identifier.cut, Part.cut]
    by_cases read : USB_ENDPOINT_DIR_IN = endpoint.getDirection
    · exact ⟨_, if_pos read, rfl, rfl, identifiers_onDevice rfl parts⟩
    · have write := (direction_cases endpoint).resolve_left read
      exact ⟨_, (if_neg read).trans (if_pos write), rfl, rfl, identifiers_onDevice rfl parts⟩
  | requestFree request | requestAbort request | requestQueue request =>
    exact ⟨_, rfl, rfl, rfl, identifiers_onDevice rfl (identifiers_usbPipe request.endpoint)⟩
  | regBulkCallback _ endpoint _ | unRegBulkCallback _ endpoint | bulkRead _ endpoint _
  | bulkWrite _ endpoint _ | bulkCancel _ endpoint =>
    exact ⟨_, rfl, rfl, rfl, identifiers_onDevice rfl (identifiers_usbPipe endpoint)⟩
  | getSupportedModes | setPortRole =>
    refine ⟨_, rfl, rfl, rfl, ?_⟩
    simp [SrvCall.identifiers, ClientCall.identifiers, ClientCall.pipe?, ClientCall.parts,
      Identifier.cut, Part.cut]
  | hasRight | requestRight | removeRight | getDevices | getCurrentFunctions
  | setCurrentFunctions | usbFunctionsFromString | usbFunctionsToString | getPorts =>
    exact ⟨_, rfl, rfl, rfl, rfl⟩
  | openDevice device =>
    exact ⟨_, rfl, rfl, rfl, @identifiers_onDevice _ ⟨device.busNum, device.devAddr⟩ [] rfl rfl⟩
  | _ =>
    refine ⟨_, rfl, rfl, rfl, identifiers_onDevice rfl ?_⟩
    simp [DeviceRequest.parts, ClientCall.parts, Identifier.cut, Part.cut,
      Part.toNat_byteOfInt32, Part.emod_toNat]

/-- No two numbers of a call name the same. -/
theorem SrvCall.nodup_identifiers (call : SrvCall) :
    (call.identifiers.map Prod.fst).Nodup := by
  cases call with
  | onDevice request =>
    cases request <;>
      simp [identifiers, DeviceRequest.dev, DeviceRequest.parts, UsbDev.identifiers,
        UsbPipe.identifiers]
  | _ => simp [identifiers]

/-- The buffers are all that may arrive cut. -/
theorem SrvCall.received_identifiers (call : SrvCall) :
    call.received.identifiers = call.identifiers := by
  cases call with
  | onDevice request => cases request <;> rfl
  | _ => rfl

/-! ## A call that reaches the service -/

namespace UsbSrvClient

section

variable {ρ σ : Type} {found : Found ρ} {invoke : ρ → SrvCall → SrvReply → σ → SrvReply × σ}
  {vars : ClientReply} {m : Method} {request : SrvCall}

/-- A method has no effect but that of the one request to the proxy. -/
theorem Method.run_effect (proxy_ : Option ρ) (s : σ) (asks : m.request = .ok request) :
    (m.run found invoke vars proxy_ s).2.2 = s ∨
      ∃ proxy, (m.run found invoke vars proxy_ s).2.2 =
        (invoke proxy request (m.passes vars.srv) s).2 := by
  unfold run
  rcases m.guard.check found proxy_ with ⟨_ | _, _ | proxy⟩
  · exact .inl rfl
  · exact .inl rfl
  · rw [asks]
    exact .inl rfl
  · rw [asks]
    exact .inr ⟨proxy, rfl⟩

/-- With a proxy the request is made. -/
theorem Method.run_connected (proxy : ρ) (s : σ) (asks : m.request = .ok request) :
    (m.run found invoke vars (some proxy) s).2.2 =
      (invoke proxy request (m.passes vars.srv) s).2 := by
  have passed : m.guard.check found (some proxy) = (true, some proxy) := by
    cases m.guard <;> rfl
  unfold run
  rw [passed, asks]

end

/-- A proxy of a service in another process, where no write fails. -/
def remote {β σ : Type} (data : MessageParcel β) (service : IUsbSrv σ) (base : IPCObjectStub β)
    (junk : UsbServerProxy.Uninitialised) :
    Unit → SrvCall → SrvReply → Far β σ → SrvReply × Far β σ :=
  fun _ call vars far =>
    UsbServerProxy.perform data junk (some (UsbServerStub.sendRequest data service base)) [] call
      vars far

/-- The method does not get as far as usbd, or calls the service with the numbers that
were given. -/
def Untruncated {β : Type} (data : MessageParcel β) (m : Method) (given : List Identifier) :
    Prop :=
  ∀ {τ : Type} (usbd : Usbd) (caller : Option String) (others : IUsbSrv (World × τ))
    (base : IPCObjectStub β) (junk : UsbServerProxy.Uninitialised) (found : Found Unit)
    (vars : ClientReply) (proxy_ : Option Unit) (w : World) (managers : τ),
    let far := (m.run found (remote data (UsbService.srv usbd caller others) base junk) vars proxy_
      { state := (w, managers) }).2.2
    far.state.1.calls = w.calls ∨ ∀ call ∈ far.calls, given ⊆ call.identifiers

section

variable {β : Type} {data : MessageParcel β} {units : (t : ParcelType) → t.Value → List β}
  {m : Method} {request : SrvCall} {given : List Identifier}

/-- There is a service that forwards a call with numbers to usbd. -/
theorem exists_forwarding (complete : request.complete = true)
    (named : request.identifiers ≠ []) :
    ∃ (usbd : Usbd) (caller : Option String) (others : IUsbSrv (World × Unit)) (w : World),
      (UsbService.srv usbd caller others request.received (w, ())).2.1.calls ≠ w.calls := by
  let usbd : Usbd := ⟨fun _ _ => { ret := .UEC_OK }⟩
  let others : IUsbSrv (World × Unit) := fun _ s =>
    ({}, ({ s.1 with calls := s.1.calls ++ [.OpenDevice ⟨0, 0⟩] }, s.2))
  cases request with
  | onDevice request =>
    cases request with
    | openDevice busNum devAddr =>
      let name := deviceName busNum devAddr
      let w : World := { rightManager := (({} : RightManager).addDeviceRight name "app").2 }
      have right : UsbService.hasRight (some "app") name w = true :=
        (RightManager.hasRight_addDeviceRight {} name "app").mpr (.inr ⟨rfl, rfl⟩)
      refine ⟨usbd, some "app", others, w, ?_⟩
      change ((DeviceRequest.openDevice busNum devAddr).serve usbd (some "app") w).2.calls ≠ _
      rw [DeviceRequest.serve_openDevice, if_pos right]
      simp
    | bulkRead dev pipe ashmem | bulkWrite dev pipe ashmem =>
      obtain ⟨ashmem, rfl⟩ := Option.isSome_iff_exists.mp complete
      exact ⟨usbd, none, others, {}, nofun⟩
    | _ => exact ⟨usbd, none, others, {}, nofun⟩
  | getSupportedModes | setPortRole => exact ⟨usbd, none, others, {}, nofun⟩
  | _ => exact absurd rfl named

variable (faithful : data.Faithful units)

include faithful

/-- A method whose request has the given numbers, cut, keeps them if they have the width
that the service has for them. -/
theorem untruncated_iff_of (asks : m.request = .ok request)
    (dispatched : request.code.dispatched = true)
    (inside : given.map Identifier.cut ⊆ request.identifiers) :
    Untruncated data m given ↔
      request.complete = false ∨ ∀ identifier ∈ given, identifier.Fits := by
  constructor
  · intro untruncated
    refine or_iff_not_imp_left.mpr fun complete identifier there => ?_
    have complete := Bool.eq_true_of_not_eq_false complete
    have cut := inside (List.mem_map_of_mem there)
    obtain ⟨usbd, caller, others, w, forwards⟩ :=
      exists_forwarding complete (List.ne_nil_of_mem cut)
    have run := untruncated usbd caller others (fun _ _ reply => (.UEC_OK, reply)) ⟨0, 0⟩
      (.service none) ⟨{}, ⟨0, 0⟩, ⟨⟨0, 0⟩, {}, [], []⟩⟩ (some ()) w ()
    dsimp only at run
    rw [Method.run_connected () _ asks] at run
    unfold remote at run
    obtain ⟨state, calls⟩ := calls_of_dispatched faithful complete dispatched
    rw [state, calls, List.nil_append] at run
    have same := run.resolve_left forwards request.received List.mem_cons_self there
    rw [SrvCall.received_identifiers] at same
    have number := List.inj_on_of_nodup_map request.nodup_identifiers cut same rfl
    exact (identifier.1.cut_eq_self_iff identifier.2).mp (Prod.mk.inj number).2
  · intro good τ usbd caller others base junk found vars proxy_ w managers
    dsimp only
    rcases Method.run_effect proxy_ ({ state := (w, managers) } : Far β (World × τ)) asks with none | ⟨proxy, one⟩
    · rw [none]
      exact .inl rfl
    rw [one]
    unfold remote
    rcases Bool.eq_false_or_eq_true request.complete with complete | missing
    · right
      rw [(calls_of_dispatched faithful complete dispatched).2, List.nil_append]
      intro call called identifier there
      obtain rfl := List.mem_singleton.mp called
      have fits := good.resolve_left (by rw [complete]; decide) identifier there
      have same : identifier.cut = identifier :=
        Prod.ext rfl ((identifier.1.cut_eq_self_iff identifier.2).mpr fits)
      rw [SrvCall.received_identifiers, ← same]
      exact inside (List.mem_map_of_mem there)
    · left
      rw [(UsbServerProxy.perform_of_not_written faithful (SrvCall.written_of_incomplete missing [])
        _ _ _).1]

end

end UsbSrvClient

/-! ## The calls of a client -/

namespace UsbInfo

/-- A number of an object is cut to a byte. -/
theorem cut_given (object : JsObject) (part : Part) (fieldStr : String)
    (isByte : ∀ n, part.cut n = n % 256) :
    (object.given part fieldStr).map Identifier.cut ⊆
      [(part, ((byteOfInt32 (NapiUtil.jsObjectToInt object fieldStr 0)).toNat : Int))] := by
  unfold JsObject.given NapiUtil.jsObjectToInt
  cases object.numbers.lookup fieldStr with
  | none => exact List.nil_subset _
  | some n =>
    change [(part, part.cut n.toInt)] ⊆ [(part, ((byteOfInt32 n).toNat : Int))]
    rw [Part.toNat_byteOfInt32, isByte]
    exact List.Subset.refl _

/-- The device of the call is read from the object. -/
theorem JsCall.pipe?_call (call : JsCall) :
    call.call.pipe? = some (parseUsbDevicePipe call.object) := by
  cases call <;> rfl

theorem JsCall.cut_identifiers (call : JsCall) :
    call.identifiers.map Identifier.cut ⊆ call.call.identifiers.map Identifier.cut := by
  have busNum := cut_given call.object .busNum "busNum" fun _ => rfl
  have devAddr := cut_given call.object .devAddr "devAddress" fun _ => rfl
  unfold identifiers ClientCall.identifiers
  rw [call.pipe?_call, Option.map_some, Option.getD_some, List.map_append, List.map_append,
    List.map_append, ← identifiers_usbDev]
  refine List.append_subset.mpr ⟨fun identifier there => ?_, List.subset_append_right _ _⟩
  refine List.mem_append_left _ ?_
  rcases List.mem_append.mp there with inBus | inAddr
  · exact List.mem_cons.mpr (.inl (List.mem_singleton.mp (busNum inBus)))
  · exact List.mem_cons_of_mem _ (devAddr inAddr)

end UsbInfo

namespace UsbSrvClient

/-- The numbers of a call are those that the service is called with if they have the width
that it has for them, or a missing object stops the call; the same of a function of the
module, whose objects are never missing. -/
theorem untruncated_iff {β : Type} {data : MessageParcel β}
    {units : (t : ParcelType) → t.Value → List β} (faithful : data.Faithful units) :
    (∀ call : ClientCall, Untruncated data call.method call.identifiers ↔
      call.complete = false ∨ ∀ identifier ∈ call.identifiers, identifier.Fits) ∧
    ∀ call : UsbInfo.JsCall, Untruncated data call.call.method call.identifiers ↔
      ∀ identifier ∈ call.identifiers, identifier.Fits := by
  constructor
  · intro call
    obtain ⟨request, asks⟩ := exists_asks call
    rw [untruncated_iff_of faithful asks.asks asks.dispatched
      (asks.identifiers ▸ List.Subset.refl _), asks.complete]
  · intro call
    obtain ⟨request, asks⟩ := exists_asks call.call
    have complete : request.complete = true := by
      rw [asks.complete]
      cases call <;> rfl
    rw [untruncated_iff_of faithful asks.asks asks.dispatched
      (asks.identifiers ▸ call.cut_identifiers), complete]
    simp

theorem untruncated_claimInterface :
    Untruncated slotParcel (ClientCall.claimInterface ⟨1, 2⟩ { id := 1 } false).method
      (ClientCall.claimInterface ⟨1, 2⟩ { id := 1 } false).identifiers :=
  ((untruncated_iff faithful_slotParcel).1 _).mpr (.inr (by
    simp [ClientCall.identifiers, ClientCall.pipe?, ClientCall.parts, USBDevicePipe.identifiers,
      Identifier.Fits, Part.Fits]))

/-- Who claims the interface 257 claims the interface 1. -/
theorem not_untruncated_claimInterface :
    ¬ Untruncated slotParcel (ClientCall.claimInterface ⟨1, 2⟩ { id := 257 } false).method
      (ClientCall.claimInterface ⟨1, 2⟩ { id := 257 } false).identifiers := by
  intro untruncated
  obtain ⟨request, asks⟩ := exists_asks (.claimInterface ⟨1, 2⟩ { id := 257 } false)
  have fits := (untruncated_iff_of faithful_slotParcel asks.asks asks.dispatched
    (asks.identifiers ▸ List.Subset.refl _)).mp untruncated
  have small := fits.resolve_left (by rw [asks.complete]; decide) (.interface, 257) (by
    simp [ClientCall.identifiers, ClientCall.pipe?, ClientCall.parts, USBDevicePipe.identifiers])
  exact absurd small.2 (by decide)

end UsbSrvClient

end UsbManager

import UsbManager.Handlers
import UsbManager.RoundTrip

/-!
# Requests from anyone

Any process can send the stub a request with any code and any contents.  The
service should act on a request only if all arguments of the method were in it.
`harmless_iff` says when it does: the callback object of `RegBulkCallback` is the
one argument nobody checks.  Of the parcel nothing is assumed.
-/

namespace UsbManager

open ParcelAction (Decodes)

/-! ## What was in a parcel -/

section

variable {β : Type} (data : MessageParcel β)

/-- The call can be read from the message with all its arguments. -/
def Decoded (message : List β) (call : SrvCall) : Prop :=
  call.complete = true ∧ ∃ contents rest,
    data.read .interfaceToken message = (some IUsbSrv.descriptor, contents) ∧
      Decodes data call.arguments contents rest

variable {data} {arguments more : List Argument} {contents mid rest : List β}

theorem decodes_buffer {bufferData : List UInt8}
    (scanned : scanBuffer data contents = some (bufferData, rest)) :
    Decodes data (bufferArguments bufferData) contents rest := by
  unfold scanBuffer at scanned
  rcases length : data.read .uint32 contents with ⟨dataSize, contents'⟩
  rw [length] at scanned
  cases dataSize with
  | none => cases scanned
  | some dataSize =>
    dsimp only at scanned
    by_cases empty : dataSize = 0
    · rw [if_pos empty] at scanned
      obtain ⟨rfl, rfl⟩ := Prod.mk.inj (Option.some.inj scanned)
      subst empty
      exact .single length
    · rw [if_neg empty] at scanned
      rcases bytes : data.read (.buffer dataSize) contents' with ⟨tdata, last⟩
      rw [bytes] at scanned
      cases tdata with
      | none => cases scanned
      | some tdata =>
        obtain ⟨rfl, rfl⟩ := Prod.mk.inj (Option.some.inj scanned)
        rw [bufferArguments_val empty]
        exact .cons length (.single bytes)

theorem scan_append {fields last : List Field} :
    ∀ {contents arguments}, scan data (fields ++ last) contents = some (arguments, rest) →
      ∃ first mid more, scan data fields contents = some (first, mid) ∧
        scan data last mid = some (more, rest) ∧ arguments = first ++ more := by
  induction fields with
  | nil => exact fun scanned => ⟨[], _, _, rfl, scanned, rfl⟩
  | cons field fields ih =>
    intro contents arguments scanned
    obtain ⟨first, contents', others, here, there, rfl⟩ := scan_cons_iff.mp scanned
    obtain ⟨second, mid, more, inside, after, rfl⟩ := ih there
    exact ⟨first ++ second, mid, more, scan_cons_iff.mpr ⟨_, _, _, here, inside, rfl⟩, after,
      (List.append_assoc _ _ _).symm⟩

theorem decodes_value {t : ParcelType}
    (here : scanField data (.value t) contents = some (arguments, rest)) :
    ∃ v, arguments = [⟨t, v⟩] ∧ data.read t contents = (some v, rest) := by
  rcases read : data.read t contents with ⟨v, contents'⟩
  simp only [scanField, read] at here
  cases v with
  | none => cases here
  | some v =>
    obtain ⟨rfl, rfl⟩ := Prod.mk.inj (Option.some.inj here)
    exact ⟨v, rfl, rfl⟩

/-- Fields without an object are read from what is in the parcel. -/
theorem decodes_of_scan {fields : List Field} (plain : ∀ t, Field.object t ∉ fields) :
    ∀ {contents arguments}, scan data fields contents = some (arguments, rest) →
      Decodes data arguments contents rest := by
  induction fields with
  | nil =>
    intro contents arguments scanned
    obtain ⟨rfl, rfl⟩ := Prod.mk.inj (Option.some.inj scanned)
    exact .nil
  | cons field fields ih =>
    intro contents arguments scanned
    obtain ⟨first, mid, more, here, there, rfl⟩ := scan_cons_iff.mp scanned
    refine .append ?_ (ih (fun t later => plain t (List.mem_cons_of_mem field later)) there)
    cases field with
    | object t => exact absurd List.mem_cons_self (plain t)
    | buffer =>
      obtain ⟨⟨bufferData, _⟩, scannedBuffer, same⟩ := Option.map_eq_some_iff.mp here
      obtain ⟨rfl, rfl⟩ := Prod.mk.inj same
      exact decodes_buffer scannedBuffer
    | value t =>
      obtain ⟨v, rfl, read⟩ := decodes_value here
      exact .single read

theorem length_of_scan {types : List ParcelType} :
    ∀ {contents arguments}, scan data (types.map .value) contents = some (arguments, rest) →
      arguments.length = types.length := by
  induction types with
  | nil =>
    intro contents arguments scanned
    obtain ⟨rfl, rfl⟩ := Prod.mk.inj (Option.some.inj scanned)
    rfl
  | cons t types ih =>
    intro contents arguments scanned
    obtain ⟨first, mid, more, here, there, rfl⟩ := scan_cons_iff.mp scanned
    obtain ⟨v, rfl, _⟩ := decodes_value here
    exact congrArg (· + 1) (ih there)

/-- The device and the pipe of a transfer. -/
def pipeFields : List Field := [.value .uint8, .value .uint8, .value .uint8, .value .uint8]

/-- Where the device, the pipe and an object are read the first two are in the
parcel, and the object is what was read behind them. -/
theorem decodes_pipe {t : ParcelType} {dev : UsbDev} {pipe : UsbPipe} {object : Option t.Value}
    (scanned : scan data (pipeFields ++ [.object t]) contents =
      some (deviceArguments dev ++ (pipeArguments pipe ++ objectArguments t object), rest)) :
    ∃ mid, Decodes data (deviceArguments dev ++ pipeArguments pipe) contents mid ∧
      data.read t mid = (object, rest) := by
  obtain ⟨first, mid, more, ids, last, same⟩ := scan_append scanned
  have length : first.length =
      [ParcelType.uint8, ParcelType.uint8, ParcelType.uint8, ParcelType.uint8].length :=
    length_of_scan ids
  rw [← List.append_assoc] at same
  obtain ⟨rfl, rfl⟩ := List.append_inj same length.symm
  refine ⟨mid, decodes_of_scan (by simp [pipeFields]) ids, ?_⟩
  obtain ⟨first, mid', none, here, done, objects⟩ := scan_cons_iff.mp last
  obtain ⟨rfl, rfl⟩ := Prod.mk.inj (Option.some.inj done)
  rcases read : data.read t mid with ⟨object', mid''⟩
  simp only [scanField, read] at here
  obtain ⟨rfl, rfl⟩ := Prod.mk.inj (Option.some.inj here)
  rw [List.append_nil] at objects
  rw [objectArguments_inj objects]

/-- The other way round. -/
theorem scan_pipe {t : ParcelType} {dev : UsbDev} {pipe : UsbPipe}
    (ids : Decodes data (deviceArguments dev ++ pipeArguments pipe) contents mid) :
    ∃ rest, scan data (pipeFields ++ [.object t]) contents =
      some (deviceArguments dev ++ pipeArguments pipe ++ objectArguments t (data.read t mid).1,
        rest) := by
  cases ids with
  | cons busNum ids =>
  cases ids with
  | cons devAddr ids =>
  cases ids with
  | cons interfaceId ids =>
  cases ids with
  | cons endpointId ids =>
    cases ids
    refine ⟨(data.read t mid).2, ?_⟩
    simp [scan, scanField, pipeFields, busNum, devAddr, interfaceId, endpointId, deviceArguments,
      pipeArguments]

end

/-! ## The service -/

/-- The outcome of a request in terms of the interface. -/
def Reply.outcome (reply : Reply) : SrvReply where
  ret := reply.ret
  value := reply.value
  configIndex := byteOfInt32 reply.value
  clientData := reply.clientData
  bufferData := reply.bufferData

/-- `UsbService` as the implementation of the interface, called by a process with
this bundle name.  `managers` is the state of the managers for functions and ports;
what the methods do that work with those, or wait for the user, is left open. -/
def UsbService.srv {τ : Type} (usbd : Usbd) (caller : Option String)
    (others : IUsbSrv (World × τ)) : IUsbSrv (World × τ)
  | .onDevice request, (w, managers) =>
    let (reply, w) := request.serve usbd caller w
    (reply.outcome, (w, managers))
  | .hasRight deviceName, (w, managers) =>
    ({ flag := UsbService.hasRight caller deviceName w }, (w, managers))
  | .removeRight deviceName, (w, managers) =>
    let (ret, w) := UsbService.removeRight deviceName w
    ({ ret }, (w, managers))
  | call, s => others call s

/-- Without its object a call has no effect, unless it is `RegBulkCallback`. -/
theorem UsbService.srv_of_incomplete {τ : Type} (usbd : Usbd) (caller : Option String)
    (others : IUsbSrv (World × τ)) {call : SrvCall} (missing : call.complete = false)
    (checked : call.code ≠ .USB_FUN_REG_BULK_CALLBACK) (s : World × τ) :
    (UsbService.srv usbd caller others call s).2 = s := by
  cases call with
  | onDevice request =>
    cases request with
    | regBulkCallback => exact absurd rfl checked
    | bulkRead dev pipe ashmem | bulkWrite dev pipe ashmem =>
      cases ashmem with
      | none => rfl
      | some ashmem => cases missing
    | _ => cases missing
  | _ => cases missing

/-! ## Any request -/

section

variable {β σ : Type}

/-- What the stub has done when it has answered a request. -/
def UsbServerStub.served (data : MessageParcel β) (service : IUsbSrv σ) (base : IPCObjectStub β)
    (code : UInt32) (message : List β) (state : σ) : Serving β σ :=
  (onRemoteRequest data service base code { state } message).2.1

/-- What should hold of any request.  An effect on the world of `UsbService` is a
call of usbd or a change of what it keeps. -/
structure Harmless (data : MessageParcel β) (code : UInt32) (message : List β) : Prop where
  once : ∀ {σ : Type} (service : IUsbSrv σ) base state,
    (UsbServerStub.served data service base code message state).calls.length ≤ 1
  token : (data.read .interfaceToken message).1 ≠ some IUsbSrv.descriptor →
    ∀ {σ : Type} (service : IUsbSrv σ) base state,
      (UsbServerStub.served data service base code message state).calls = []
  decoded : ∀ {τ : Type} usbd caller (others : IUsbSrv (World × τ)) base state,
    (UsbServerStub.served data (UsbService.srv usbd caller others) base code message state).state ≠
      state →
    ∃ call, Decoded data message call ∧
      (UsbServerStub.served data (UsbService.srv usbd caller others) base code message
        state).calls = [call]

/-- The request is for `RegBulkCallback`, and all its arguments but the callback
object are in the parcel. -/
def CallbackMissing (data : MessageParcel β) (code : UInt32) (message : List β) : Prop :=
  IUsbSrv.Fun.ofCode code = some .USB_FUN_REG_BULK_CALLBACK ∧
    ∃ (dev : UsbDev) (pipe : UsbPipe) (contents rest : List β),
      data.read .interfaceToken message = (some IUsbSrv.descriptor, contents) ∧
      Decodes data (deviceArguments dev ++ pipeArguments pipe) contents rest ∧
      (data.read .remoteObject rest).1 = none

variable {data : MessageParcel β} {code : UInt32} {message : List β}

/-- Where all fields can be read, one call is made with what was read. -/
theorem served_of_scan (service : IUsbSrv σ) (base : IPCObjectStub β) (state : σ)
    {f : IUsbSrv.Fun} {contents rest : List β} {arguments : List Argument}
    (dispatched : f.dispatched = true) (ofCode : IUsbSrv.Fun.ofCode code = some f)
    (token : data.read .interfaceToken message = (some IUsbSrv.descriptor, contents))
    (scanned : scan data f.fields contents = some (arguments, rest)) :
    ∃ call : SrvCall, call.code = f ∧ call.arguments = arguments ∧
      (UsbServerStub.served data service base code message state).state =
        (service call state).2 ∧
      (UsbServerStub.served data service base code message state).calls = [call] := by
  unfold UsbServerStub.served
  rw [UsbServerStub.onRemoteRequest_of_token token]
  have all := @UsbServerStub.handler_calls β σ data service f base code dispatched ofCode
    { state } contents
  obtain ⟨call, same, read, _, effect, calls⟩ := all.2 arguments rest scanned
  exact ⟨call, same, read, effect, calls⟩

/-- A request leads to no call and no effect, or has the token and makes one call
with the arguments that were read. -/
theorem served_cases (service : IUsbSrv σ) (base : IPCObjectStub β) (state : σ) :
    ((UsbServerStub.served data service base code message state).state = state ∧
      (UsbServerStub.served data service base code message state).calls = []) ∨
    ∃ contents rest call, IUsbSrv.Fun.ofCode code = some call.code ∧
      data.read .interfaceToken message = (some IUsbSrv.descriptor, contents) ∧
      scan data call.code.fields contents = some (call.arguments, rest) ∧
      (UsbServerStub.served data service base code message state).state =
        (service call state).2 ∧
      (UsbServerStub.served data service base code message state).calls = [call] := by
  by_cases wrong : (data.read .interfaceToken message).1 ≠ some IUsbSrv.descriptor
  · unfold UsbServerStub.served
    rw [(UsbServerStub.onRemoteRequest_of_wrongToken wrong).2]
    exact .inl ⟨rfl, rfl⟩
  obtain ⟨contents, token⟩ : ∃ contents,
      data.read .interfaceToken message = (some IUsbSrv.descriptor, contents) :=
    ⟨_, Prod.ext (not_not.mp wrong) rfl⟩
  by_cases known : ∃ f, IUsbSrv.Fun.ofCode code = some f ∧ f.dispatched = true
  · obtain ⟨f, ofCode, dispatched⟩ := known
    rcases scanned : scan data f.fields contents with _ | ⟨arguments, rest⟩
    · unfold UsbServerStub.served
      rw [UsbServerStub.onRemoteRequest_of_token token,
        (UsbServerStub.handler_calls dispatched ofCode _ _).1 scanned]
      exact .inl ⟨rfl, rfl⟩
    · obtain ⟨call, rfl, rfl, effect, calls⟩ :=
        served_of_scan service base state dispatched ofCode token scanned
      exact .inr ⟨contents, rest, call, ofCode, token, scanned, effect, calls⟩
  · have unknown (f : IUsbSrv.Fun) (ofCode : IUsbSrv.Fun.ofCode code = some f) :
        f.dispatched = false :=
      Bool.eq_false_iff.mpr fun dispatched => known ⟨f, ofCode, dispatched⟩
    unfold UsbServerStub.served
    rw [UsbServerStub.onRemoteRequest_of_token token]
    exact .inl (UsbServerStub.handler_calls_nothing unknown { state } contents)

/-- A call that was read without missing an object was in the parcel. -/
theorem decodes_of_complete {call : SrvCall} {contents rest : List β}
    (complete : call.complete = true)
    (scanned : scan data call.code.fields contents = some (call.arguments, rest)) :
    Decodes data call.arguments contents rest := by
  have object {t : ParcelType} {dev : UsbDev} {pipe : UsbPipe} {object : Option t.Value}
      (present : object.isSome = true)
      (scanned : scan data (pipeFields ++ [.object t]) contents =
        some (deviceArguments dev ++ (pipeArguments pipe ++ objectArguments t object), rest)) :
      Decodes data (deviceArguments dev ++ (pipeArguments pipe ++ objectArguments t object))
        contents rest := by
    obtain ⟨object, rfl⟩ := Option.isSome_iff_exists.mp present
    obtain ⟨mid, ids, read⟩ := decodes_pipe scanned
    rw [← List.append_assoc]
    exact ids.append (.single read)
  cases call with
  | onDevice request =>
    cases request with
    | regBulkCallback | bulkRead | bulkWrite => exact object complete scanned
    | _ => exact decodes_of_scan (fun t => by
      simp [SrvCall.code, DeviceRequest.code, IUsbSrv.Fun.fields]) scanned
  | _ => exact decodes_of_scan (fun t => by simp [SrvCall.code, IUsbSrv.Fun.fields]) scanned

/-- A `RegBulkCallback` that was read without its object. -/
theorem missing_of_incomplete {call : SrvCall} {contents rest : List β}
    (code' : call.code = .USB_FUN_REG_BULK_CALLBACK) (missing : call.complete = false)
    (ofCode : IUsbSrv.Fun.ofCode code = some call.code)
    (token : data.read .interfaceToken message = (some IUsbSrv.descriptor, contents))
    (scanned : scan data call.code.fields contents = some (call.arguments, rest)) :
    CallbackMissing data code message := by
  cases call with
  | onDevice request =>
    cases request with
    | regBulkCallback dev pipe cb =>
      cases cb with
      | some cb => cases missing
      | none =>
        obtain ⟨mid, ids, read⟩ := decodes_pipe scanned
        exact ⟨ofCode, dev, pipe, contents, mid, token, ids, congrArg Prod.fst read⟩
    | _ => cases code'
  | _ => cases code'

/-- The service passes a missing callback object on. -/
theorem not_harmless_of_missing (missing : CallbackMissing data code message) :
    ¬ Harmless data code message := by
  obtain ⟨ofCode, dev, pipe, contents, mid, token, ids, absent⟩ := missing
  obtain ⟨rest, scanned⟩ := scan_pipe ids
  rw [absent] at scanned
  intro harmless
  let service : IUsbSrv (World × Unit) :=
    UsbService.srv ⟨fun _ _ => { ret := .UEC_OK }⟩ none fun _ s => ({}, s)
  let base : IPCObjectStub β := fun _ _ reply => (.UEC_OK, reply)
  obtain ⟨call, same, arguments, effect, calls⟩ :=
    served_of_scan service base ({}, ()) rfl ofCode token scanned
  have asked : (service call ({}, ())).2 ≠ ({}, ()) := by
    cases call with
    | onDevice request =>
      cases request with
      | regBulkCallback =>
        intro still
        have nothing := congrArg (fun s => s.1.calls) still
        cases nothing
      | _ => cases same
    | _ => cases same
  rw [← effect] at asked
  obtain ⟨call', ⟨complete, _⟩, calls'⟩ := harmless.decoded _ _ _ base _ asked
  obtain rfl := List.singleton_inj.mp (calls.symm.trans calls')
  cases call with
  | onDevice request =>
    cases request with
    | regBulkCallback dev' pipe' cb =>
      obtain ⟨cb, rfl⟩ := Option.isSome_iff_exists.mp complete
      have lengths := congrArg List.length arguments
      cases lengths
    | _ => cases same
  | _ => cases same

/-- A request is harmless unless it is a `RegBulkCallback` without the callback object. -/
theorem harmless_iff (data : MessageParcel β) (code : UInt32) (message : List β) :
    Harmless data code message ↔ ¬ CallbackMissing data code message := by
  refine ⟨fun harmless missing => not_harmless_of_missing missing harmless,
    fun there => ⟨?_, ?_, ?_⟩⟩
  · intro σ service base state
    rcases served_cases service base state with ⟨_, calls⟩ | ⟨_, _, call, _, _, _, _, calls⟩
    · rw [calls]
      exact Nat.zero_le 1
    · rw [calls]
      exact Nat.le_refl 1
  · intro wrong σ service base state
    unfold UsbServerStub.served
    rw [(UsbServerStub.onRemoteRequest_of_wrongToken wrong).2]
  · intro τ usbd caller others base state effect
    rcases served_cases (UsbService.srv usbd caller others) base state with
      ⟨same, _⟩ | ⟨contents, rest, call, ofCode, token, scanned, after, calls⟩
    · exact absurd same effect
    refine ⟨call, ?_, calls⟩
    cases complete : call.complete with
    | true => exact ⟨complete, contents, rest, token, decodes_of_complete complete scanned⟩
    | false =>
      by_cases checked : call.code = .USB_FUN_REG_BULK_CALLBACK
      · exact absurd (missing_of_incomplete checked complete ofCode token scanned) there
      · rw [after, UsbService.srv_of_incomplete usbd caller others complete checked] at effect
        exact absurd rfl effect

end

/-- A request for `RegBulkCallback` whose parcel ends before the callback object. -/
theorem not_harmless_regBulkCallback :
    ¬ Harmless slotParcel IUsbSrv.Fun.USB_FUN_REG_BULK_CALLBACK.code
      [.token IUsbSrv.descriptor, .w8 1, .w8 2, .w8 0, .w8 1] :=
  not_harmless_of_missing ⟨rfl, ⟨1, 2⟩, ⟨0, 1⟩, [.w8 1, .w8 2, .w8 0, .w8 1], [], rfl,
    .cons rfl (.cons rfl (.cons rfl (.single rfl))), rfl⟩

end UsbManager

import UsbManager.Handlers
import UsbManager.RoundTrip
import UsbManager.Sending

/-!
# Transparency of a remote call

Where no write or read fails, a call of the proxy should make the stub call the
same method of the service with the same arguments, once.  It does for every
method the stub dispatches, if each buffer is short enough for the length it is
sent with (`transparent_iff`).
-/

namespace UsbManager

section

variable {β : Type} {data : MessageParcel β} {units : (t : ParcelType) → t.Value → List β}
  {fields : List Field} {arguments : List Argument}

/-- The fields are read back from what was written for the arguments. -/
def Scans (data : MessageParcel β) (units : (t : ParcelType) → t.Value → List β)
    (fields : List Field) (arguments : List Argument) : Prop :=
  ∀ rest, scan data fields (ParcelAction.unitsOf units arguments ++ rest) = some (arguments, rest)

namespace Scans

theorem nil : Scans data units [] [] := fun _ => rfl

theorem cons {field : Field} {first : List Argument}
    (here : ∀ rest, scanField data field (ParcelAction.unitsOf units first ++ rest) =
      some (first, rest)) (more : Scans data units fields arguments) :
    Scans data units (field :: fields) (first ++ arguments) := by
  intro rest
  unfold scan
  rw [ParcelAction.unitsOf_append, List.append_assoc, here]
  dsimp only
  rw [more rest]
  rfl

variable (faithful : data.Faithful units)

include faithful

theorem value (t : ParcelType) (v : t.Value) (more : Scans data units fields arguments) :
    Scans data units (.value t :: fields) (⟨t, v⟩ :: arguments) := by
  have here (rest : List β) : scanField data (.value t)
      (ParcelAction.unitsOf units [⟨t, v⟩] ++ rest) = some ([⟨t, v⟩], rest) := by
    unfold scanField
    rw [ParcelAction.unitsOf_cons, ParcelAction.unitsOf_nil, List.append_nil]
    dsimp only
    rw [faithful.read]
  exact cons here more

theorem object (t : ParcelType) {object : Option t.Value} (present : object.isSome = true)
    (more : Scans data units fields arguments) :
    Scans data units (.object t :: fields) (objectArguments t object ++ arguments) := by
  obtain ⟨object, rfl⟩ := Option.isSome_iff_exists.mp present
  refine cons (fun rest => ?_) more
  have read : data.read t
      (ParcelAction.unitsOf units (objectArguments t (some object)) ++ rest) =
        (some object, rest) := by
    change data.read t ((units t object ++ []) ++ rest) = _
    rw [List.append_nil, faithful.read]
  simp only [scanField, read]

/-- What is read for a buffer: as much of it as was sent. -/
theorem scanBuffer_bufferArguments (bufferData : List UInt8) (rest : List β) :
    scanBuffer data (ParcelAction.unitsOf units (bufferArguments bufferData) ++ rest) =
      some ((sentBuffer bufferData).val, rest) := by
  unfold scanBuffer bufferArguments
  rw [ParcelAction.unitsOf_cons, List.append_assoc, faithful.read]
  dsimp only
  by_cases empty : bufferLength bufferData = 0
  · have none : ¬ bufferLength bufferData > 0 := by simp [empty]
    have nothing : (sentBuffer bufferData).val = [] := by
      apply List.length_eq_zero_iff.mp
      rw [(sentBuffer bufferData).property, empty]
      rfl
    rw [if_pos empty, if_neg none, nothing]
    rfl
  · have some : bufferLength bufferData > 0 := by
      rw [gt_iff_lt, UInt32.pos_iff_ne_zero]
      exact empty
    rw [if_neg empty, if_pos some, ParcelAction.unitsOf_cons, ParcelAction.unitsOf_nil,
      List.append_nil, faithful.read]

theorem buffer (bufferData : List UInt8) (more : Scans data units fields arguments) :
    Scans data units (.buffer :: fields) (bufferArguments bufferData ++ arguments) := by
  refine cons (fun rest => ?_) more
  simp only [scanField, scanBuffer_bufferArguments faithful, Option.map_some,
    bufferArguments_sentBuffer]

end Scans

/-- What was written for a call is read back. -/
theorem scans_arguments (faithful : data.Faithful units) {call : SrvCall}
    (complete : call.complete = true) (dispatched : call.code.dispatched = true) :
    Scans data units call.code.fields call.arguments := by
  have value {t : ParcelType} (v : t.Value) {fields : List Field} {arguments : List Argument}
      (more : Scans data units fields arguments) := Scans.value faithful t v more
  cases call with
  | hasRight | requestRight | removeRight | usbFunctionsFromString => exact value _ .nil
  | setCurrentFunctions | usbFunctionsToString | getSupportedModes => exact value _ .nil
  | getDevices | getCurrentFunctions | getPorts => exact .nil
  | setPortRole => exact value _ (value _ (value _ .nil))
  | onDevice request =>
    cases request with
    | openDevice | getRawDescriptor | getFileDescriptor | close =>
      exact value _ (value _ .nil)
    | claimInterface | setInterface | requestCancel | unRegBulkCallback | bulkCancel =>
      exact value _ (value _ (value _ (value _ .nil)))
    | releaseInterface | setActiveConfig | requestWait => exact value _ (value _ (value _ .nil))
    | bulkTransferRead => exact value _ (value _ (value _ (value _ (value _ .nil))))
    | bulkTransferWrite dev pipe bufferData timeOut =>
      have last := Scans.buffer faithful bufferData Scans.nil
      rw [List.append_nil] at last
      exact value _ (value _ (value _ (value _ (value _ last))))
    | controlTransfer dev ctrl bufferData =>
      have last := Scans.buffer faithful bufferData Scans.nil
      rw [List.append_nil] at last
      exact value _ (value _ (value _ (value _ (value _ (value _ (value _ last))))))
    | requestQueue dev pipe clientData bufferData =>
      have last := Scans.buffer faithful bufferData Scans.nil
      rw [List.append_nil] at last
      exact value _ (value _ (value _ (value _ (.buffer faithful clientData last))))
    | regBulkCallback dev pipe cb =>
      have last := Scans.object faithful .remoteObject complete Scans.nil
      rw [List.append_nil] at last
      exact value _ (value _ (value _ (value _ last)))
    | bulkRead dev pipe ashmem | bulkWrite dev pipe ashmem =>
      have last := Scans.object faithful .ashmem complete Scans.nil
      rw [List.append_nil] at last
      exact value _ (value _ (value _ (value _ last)))
    | getActiveConfig => cases dispatched

end

/-! ## The request side -/

/-- However the service behaves, carrying the call out with parcels that never
fail makes the stub call this method with these arguments once, and no other. -/
def Transparent {β : Type} (data : MessageParcel β) (call : SrvCall) : Prop :=
  ∀ {σ : Type} (service : IUsbSrv σ) (base : IPCObjectStub β) (junk : UsbServerProxy.Uninitialised)
    (vars : SrvReply) (far : Far β σ),
    (UsbServerProxy.perform data junk (some (UsbServerStub.sendRequest data service base)) [] call
      vars far).2.calls = far.calls ++ [call]

section

variable {β σ : Type} {data : MessageParcel β} {units : (t : ParcelType) → t.Value → List β}
  {call : SrvCall} {junk : UsbServerProxy.Uninitialised} {vars : SrvReply} {far : Far β σ}
  {service : IUsbSrv σ} {base : IPCObjectStub β}

/-- Where no write fails all the arguments are sent. -/
theorem SrvCall.written_nil (complete : call.complete = true) :
    call.written [] = some call.arguments := by
  have all (n : Nat) := ParcelAction.succeed_nil n
  cases call with
  | onDevice request =>
    by_cases ignores : request.code = .USB_FUN_OPEN_DEVICE
    · cases request with
      | openDevice =>
        dsimp only [SrvCall.written]
        rw [if_pos (all 3)]
        rfl
      | _ => cases ignores
    · rw [SrvCall.written_of_ignored ignores]
      exact if_pos ⟨complete, all 1, all _⟩
  | _ =>
    dsimp only [SrvCall.written]
    rw [if_pos (all _)]

theorem SrvCall.dispatched_iff (call : SrvCall) :
    call.code.dispatched = true ↔ call.code ≠ .USB_FUN_GET_ACTIVE_CONFIG := by
  cases call with
  | onDevice request =>
    cases request with
    | getActiveConfig => exact ⟨nofun, fun unknown => absurd rfl unknown⟩
    | _ => exact ⟨nofun, fun _ => rfl⟩
  | _ => exact ⟨nofun, fun _ => rfl⟩

/-- A code is that of one method only. -/
theorem SrvCall.unknown_of_undispatched (unknown : call.code.dispatched = false) :
    ∀ f, IUsbSrv.Fun.ofCode call.code.code = some f → f.dispatched = false := by
  intro f ofCode
  rw [IUsbSrv.Fun.ofCode_code] at ofCode
  obtain rfl := Option.some.inj ofCode
  exact unknown

variable (faithful : data.Faithful units)

include faithful

/-- The stub finds its token in a request of the proxy. -/
theorem sendRequest_requestUnits (code : UInt32) (arguments : List Argument) :
    UsbServerStub.sendRequest data service base code (requestUnits units arguments) far =
      far.after (code, requestUnits units arguments)
        (UsbServerStub.handler data service base code { state := far.state, calls := far.calls }
          (ParcelAction.unitsOf units arguments)) := by
  have token : data.read .interfaceToken (requestUnits units arguments) =
      (some IUsbSrv.descriptor, ParcelAction.unitsOf units arguments) := by
    unfold requestUnits
    rw [ParcelAction.unitsOf_cons, faithful.read]
  unfold UsbServerStub.sendRequest
  rw [UsbServerStub.onRemoteRequest_of_token token]

/-- The stub calls the method with what arrives of the arguments. -/
theorem calls_of_dispatched (complete : call.complete = true)
    (dispatched : call.code.dispatched = true) :
    (UsbServerProxy.perform data junk (some (UsbServerStub.sendRequest data service base)) []
        call vars far).2.state = (service call.received far.state).2 ∧
      (UsbServerProxy.perform data junk (some (UsbServerStub.sendRequest data service base)) []
        call vars far).2.calls = far.calls ++ [call.received] := by
  have scanned := scans_arguments faithful complete dispatched []
  rw [List.append_nil] at scanned
  obtain ⟨call', code, arguments, fits, state, calls⟩ :=
    (UsbServerStub.handler_calls dispatched call.code.ofCode_code
      { state := far.state, calls := far.calls } _).2 _ _ scanned
  obtain rfl : call' = call.received :=
    SrvCall.eq_of_arguments (code.trans call.received_code.symm)
      (arguments.trans call.received_arguments.symm) fits call.received_fits
  rw [UsbServerProxy.perform_of_written faithful (SrvCall.written_nil complete),
    sendRequest_requestUnits faithful]
  exact ⟨state, calls⟩

/-- The stub calls nothing for a code it does not dispatch. -/
theorem calls_of_unknown (complete : call.complete = true)
    (unknown : call.code.dispatched = false) :
    (UsbServerProxy.perform data junk (some (UsbServerStub.sendRequest data service base)) []
      call vars far).2.calls = far.calls := by
  rw [UsbServerProxy.perform_of_written faithful (SrvCall.written_nil complete),
    sendRequest_requestUnits faithful]
  exact (UsbServerStub.handler_calls_nothing (SrvCall.unknown_of_undispatched unknown) _ _).2

/-- A remote call is transparent if it passes no null pointer, each of its buffers
fits the length it is sent with, and it is not `GetActiveConfig`. -/
theorem transparent_iff (call : SrvCall) :
    Transparent data call ↔
      call.complete = true ∧ call.Fits ∧ call.code ≠ .USB_FUN_GET_ACTIVE_CONFIG := by
  refine ⟨fun transparent => ?_, fun condition => ?_⟩
  · have once := transparent (fun _ s => ({}, s)) (fun _ _ reply => (.UEC_OK, reply)) ⟨0, 0⟩ {}
      ({ state := () } : Far β Unit)
    have complete : call.complete = true := by
      refine Bool.eq_true_of_not_eq_false fun missing => ?_
      have stopped := SrvCall.written_of_incomplete missing []
      rw [(UsbServerProxy.perform_of_not_written faithful stopped _ _ _).1] at once
      simp at once
    have known : call.code.dispatched = true := by
      refine Bool.eq_true_of_not_eq_false fun unknown => ?_
      rw [calls_of_unknown faithful complete unknown] at once
      simp at once
    rw [(calls_of_dispatched faithful complete known).2] at once
    have whole : call.received = call := by simpa using once
    exact ⟨complete, whole ▸ call.received_fits, call.dispatched_iff.mp known⟩
  · obtain ⟨complete, fits, known⟩ := condition
    intro σ service base junk vars far
    rw [(calls_of_dispatched faithful complete (call.dispatched_iff.mpr known)).2,
      SrvCall.received_of_fits fits]

end

/-- A write of three bytes arrives. -/
theorem transparent_bulkTransferWrite :
    Transparent slotParcel (.onDevice (.bulkTransferWrite ⟨1, 2⟩ ⟨0, 1⟩ [1, 2, 3] 500)) :=
  (transparent_iff faithful_slotParcel _).mpr
    ⟨rfl, by simp [SrvCall.Fits, DeviceRequest.Fits, FitsLength], by decide⟩

/-- The service is not asked for the active configuration. -/
theorem not_transparent_getActiveConfig :
    ¬ Transparent slotParcel (.onDevice (.getActiveConfig 1 2)) := by
  intro transparent
  have once := transparent (fun _ s => ({}, s)) (fun _ _ reply => (.UEC_OK, reply)) ⟨0, 0⟩ {}
    { state := () }
  cases once

end UsbManager

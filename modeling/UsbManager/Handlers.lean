import UsbManager.Messages
import UsbManager.Stub

/-!
# What the handlers read

A handler reads the arguments of its method one after the other and stops at the
first it cannot read; only then it invokes the method.  `scan` reads a list of
fields in this way, `Serves` says of a handler that it does the same.  There is a
rule for each kind of field, so that a handler is matched with its fields
statement by statement (`serves`).
-/

namespace UsbManager

/-- What a handler reads for an argument.  The result of reading an object is not checked. -/
inductive Field where
  | value (t : ParcelType)
  | buffer
  | object (t : ParcelType)

/-- What is read for each request code that is dispatched. -/
def IUsbSrv.Fun.fields : Fun → List Field
  | USB_FUN_HAS_RIGHT => [.value .string]
  | USB_FUN_REQUEST_RIGHT => [.value .string]
  | USB_FUN_REMOVE_RIGHT => [.value .string]
  | USB_FUN_OPEN_DEVICE => [.value .uint8, .value .uint8]
  | USB_FUN_SET_CURRENT_FUNCTIONS => [.value .int32]
  | USB_FUN_USB_FUNCTIONS_FROM_STRING => [.value .string]
  | USB_FUN_USB_FUNCTIONS_TO_STRING => [.value .int32]
  | USB_FUN_CLAIM_INTERFACE => [.value .uint8, .value .uint8, .value .uint8, .value .uint8]
  | USB_FUN_RELEASE_INTERFACE => [.value .uint8, .value .uint8, .value .uint8]
  | USB_FUN_BULK_TRANSFER_READ =>
    [.value .uint8, .value .uint8, .value .uint8, .value .uint8, .value .int32]
  | USB_FUN_BULK_TRANSFER_WRITE =>
    [.value .uint8, .value .uint8, .value .uint8, .value .uint8, .value .int32, .buffer]
  | USB_FUN_CONTROL_TRANSFER =>
    [.value .uint8, .value .uint8, .value .int32, .value .int32, .value .int32, .value .int32,
      .value .int32, .buffer]
  | USB_FUN_SET_ACTIVE_CONFIG => [.value .uint8, .value .uint8, .value .uint8]
  | USB_FUN_SET_INTERFACE => [.value .uint8, .value .uint8, .value .uint8, .value .uint8]
  | USB_FUN_GET_SUPPORTED_MODES => [.value .int32]
  | USB_FUN_SET_PORT_ROLE => [.value .int32, .value .int32, .value .int32]
  | USB_FUN_REQUEST_QUEUE =>
    [.value .uint8, .value .uint8, .value .uint8, .value .uint8, .buffer, .buffer]
  | USB_FUN_REQUEST_WAIT => [.value .uint8, .value .uint8, .value .int32]
  | USB_FUN_REQUEST_CANCEL => [.value .uint8, .value .uint8, .value .uint8, .value .uint8]
  | USB_FUN_GET_DESCRIPTOR => [.value .uint8, .value .uint8]
  | USB_FUN_GET_FILEDESCRIPTOR => [.value .uint8, .value .uint8]
  | USB_FUN_CLOSE_DEVICE => [.value .uint8, .value .uint8]
  | USB_FUN_BULK_AYSNC_READ =>
    [.value .uint8, .value .uint8, .value .uint8, .value .uint8, .object .ashmem]
  | USB_FUN_BULK_AYSNC_WRITE =>
    [.value .uint8, .value .uint8, .value .uint8, .value .uint8, .object .ashmem]
  | USB_FUN_BULK_AYSNC_CANCEL => [.value .uint8, .value .uint8, .value .uint8, .value .uint8]
  | USB_FUN_REG_BULK_CALLBACK =>
    [.value .uint8, .value .uint8, .value .uint8, .value .uint8, .object .remoteObject]
  | USB_FUN_UNREG_BULK_CALLBACK => [.value .uint8, .value .uint8, .value .uint8, .value .uint8]
  | _ => []

/-- The codes `StubHost` and `StubDevice` know. -/
def IUsbSrv.Fun.dispatched : Fun → Bool
  | USB_FUN_GET_DEVICE => false
  | USB_FUN_GET_ACTIVE_CONFIG => false
  | _ => true

section

variable {β σ α : Type} (data : MessageParcel β)

/-- Read a buffer: none where the length or the bytes cannot be read. -/
def scanBuffer (contents : List β) : Option (List UInt8 × List β) :=
  match data.read .uint32 contents with
  | (none, _) => none
  | (some dataSize, contents) =>
    if dataSize = 0 then some ([], contents)
    else
      match data.read (.buffer dataSize) contents with
      | (none, _) => none
      | (some tdata, contents) => some (tdata.val, contents)

/-- Read a field: the arguments that were there and what is left, or none where a
read fails that is checked. -/
def scanField : Field → List β → Option (List Argument × List β)
  | .value t, contents =>
    match data.read t contents with
    | (none, _) => none
    | (some v, rest) => some ([⟨t, v⟩], rest)
  | .buffer, contents =>
    (scanBuffer data contents).map fun (bufferData, rest) => (bufferArguments bufferData, rest)
  | .object t, contents =>
    match data.read t contents with
    | (object, rest) => some (objectArguments t object, rest)

/-- Read the fields in order. -/
def scan : List Field → List β → Option (List Argument × List β)
  | [], contents => some ([], contents)
  | field :: fields, contents =>
    match scanField data field contents with
    | none => none
    | some (arguments, contents) =>
      (scan fields contents).map fun (more, rest) => (arguments ++ more, rest)

variable {data} in
/-- Reading a field and more. -/
theorem scan_cons_iff {field : Field} {fields : List Field} {contents rest : List β}
    {arguments : List Argument} :
    scan data (field :: fields) contents = some (arguments, rest) ↔
      ∃ first mid more, scanField data field contents = some (first, mid) ∧
        scan data fields mid = some (more, rest) ∧ arguments = first ++ more := by
  rw [scan]
  rcases scanField data field contents with _ | ⟨first, mid⟩
  · simp
  · refine ⟨fun scanned => ?_, fun ⟨first', mid', more, here, there, same⟩ => ?_⟩
    · obtain ⟨⟨more, _⟩, there, same⟩ := Option.map_eq_some_iff.mp scanned
      obtain ⟨rfl, rfl⟩ := Prod.mk.inj same
      exact ⟨first, mid, more, rfl, there, rfl⟩
    · obtain ⟨rfl, rfl⟩ := Prod.mk.inj (Option.some.inj here)
      exact Option.map_eq_some_iff.mpr ⟨(more, rest), there, by rw [same]⟩

namespace UsbServerStub

/-- What a handler does with the outcome of its call. -/
def answer : SrvCall → SrvReply → Handler β σ Unit
  | .hasRight _, reply => onReply (writeParcelWithRet data .bool reply.flag)
  | .getDevices, reply => do
    returnUnlessOk reply.ret
    onReply (setDeviceListMessageParcel data reply.deviceList)
  | .getCurrentFunctions, reply => do
    returnUnlessOk reply.ret
    onReply (writeParcelWithRet data .int32 reply.value)
  | .usbFunctionsFromString _, reply => onReply (writeParcelWithRet data .int32 reply.value)
  | .usbFunctionsToString _, reply => onReply (writeParcelWithRet data .string reply.text)
  | .getPorts, reply => do
    returnUnlessOk reply.ret
    let size := UInt32.ofNat reply.ports.length
    onReply (writeParcelWithRet data .int32 size.toInt32)
    onReply (ParcelAction.forEach (writeUsbPort data) (reply.ports.take size.toNat))
  | .getSupportedModes _, reply => do
    returnUnlessOk reply.ret
    onReply (writeParcelWithRet data .int32 reply.value)
  | .onDevice (.bulkTransferRead _ _ _), reply => do
    returnUnlessOk reply.ret
    onReply (setBufferMessage data reply.bufferData)
  | .onDevice (.controlTransfer _ ctrl _), reply => do
    returnUnlessOk reply.ret
    if ¬ isWrite ctrl.requestType then
      ParcelAction.ignore (onReply (setBufferMessage data reply.bufferData))
    else pure ()
  | .onDevice (.getActiveConfig _ _), reply => do
    returnUnlessOk reply.ret
    onReply (writeParcelWithRet data .uint8 reply.configIndex)
  | .onDevice (.getRawDescriptor _ _), reply => do
    returnUnlessOk reply.ret
    onReply (setBufferMessage data reply.bufferData)
  | .onDevice (.getFileDescriptor _ _), reply => do
    returnUnlessOk reply.ret
    onReply (writeParcelWithRet data .int32 reply.value)
  | .onDevice (.requestWait _ _), reply => do
    returnUnlessOk reply.ret
    onReply (setBufferMessage data reply.clientData)
    onReply (setBufferMessage data reply.bufferData)
  | _, reply => returnUnlessOk reply.ret

variable (service : IUsbSrv σ)

/-- The action reads the field.  If it can, its result is sent as the arguments it
read and is `good`, if not, it stops. -/
def Reads (read : Handler β σ α) (field : Field) (sent : α → List Argument) (good : α → Prop) :
    Prop :=
  ∀ out contents,
    (scanField data field contents = none →
      ∃ ret rest, ret ≠ Uec.UEC_OK ∧ read out contents = (.error ret, out, rest)) ∧
    (∀ arguments rest, scanField data field contents = some (arguments, rest) →
      ∃ a, good a ∧ sent a = arguments ∧ read out contents = (.ok a, out, rest))

/-- The handler has read `before` and reads these fields.  If it can, it makes the
call with all these arguments, if not, it stops and makes none. -/
def Serves (f : IUsbSrv.Fun) (handler : Handler β σ Unit) (before : List Argument)
    (fields : List Field) : Prop :=
  ∀ out contents,
    (scan data fields contents = none →
      ∃ ret rest, ret ≠ Uec.UEC_OK ∧ handler out contents = (.error ret, out, rest)) ∧
    (∀ arguments rest, scan data fields contents = some (arguments, rest) →
      ∃ call : SrvCall, call.code = f ∧ call.arguments = before ++ arguments ∧ call.Fits ∧
        handler out contents = (invoke service call >>= answer data call) out rest)

variable {data service} {f : IUsbSrv.Fun} {before : List Argument} {field : Field}
  {fields : List Field}

theorem Serves.call (call : SrvCall) (code : call.code = f) (arguments : call.arguments = before)
    (fits : call.Fits) :
    Serves data service f (invoke service call >>= answer data call) before [] := by
  intro out contents
  refine ⟨nofun, fun more rest read => ?_⟩
  obtain ⟨rfl, rfl⟩ := Prod.mk.inj (Option.some.inj read)
  exact ⟨call, code, by rw [arguments, List.append_nil], fits, rfl⟩

theorem Serves.bind {read : Handler β σ α} {next : α → Handler β σ Unit}
    {sent : α → List Argument} {good : α → Prop} (first : Reads data read field sent good)
    (second : ∀ a, good a → Serves data service f (next a) (before ++ sent a) fields) :
    Serves data service f (read >>= next) before (field :: fields) := by
  intro out contents
  have start := first out contents
  unfold scan
  cases scanned : scanField data field contents with
  | none =>
    obtain ⟨ret, rest, notOk, stopped⟩ := start.1 scanned
    exact ⟨fun _ => ⟨ret, rest, notOk, ParcelAction.bind_of_error stopped⟩, nofun⟩
  | some result =>
    obtain ⟨arguments, contents'⟩ := result
    obtain ⟨a, isGood, rfl, step⟩ := start.2 arguments contents' scanned
    rw [ParcelAction.bind_of_ok step]
    have whole := second a isGood out contents'
    refine ⟨fun fails => whole.1 (by simpa using fails), fun all rest read => ?_⟩
    obtain ⟨⟨more, rest'⟩, scannedMore, same⟩ := Option.map_eq_some_iff.mp read
    obtain ⟨rfl, rfl⟩ := Prod.mk.inj same
    obtain ⟨call, code, arguments, served⟩ := whole.2 more rest' scannedMore
    exact ⟨call, code, by rw [arguments, List.append_assoc], served⟩

theorem Reads.take {t : ParcelType} {ret : Uec} (notOk : ret ≠ .UEC_OK) :
    Reads data (ParcelAction.take data ret t : Handler β σ t.Value) (.value t)
      (fun v => [⟨t, v⟩]) fun _ => True := by
  intro out contents
  cases read : data.read t contents with
  | mk v rest =>
    cases v with
    | none =>
      simp only [scanField, read]
      exact ⟨fun _ => ⟨ret, rest, notOk, ParcelAction.take_of_none read out⟩, nofun⟩
    | some v =>
      simp only [scanField, read]
      refine ⟨nofun, fun arguments rest' same => ?_⟩
      obtain ⟨rfl, rfl⟩ := Prod.mk.inj (Option.some.inj same)
      exact ⟨v, trivial, rfl, ParcelAction.take_of_some read out⟩

theorem Reads.takeOption {t : ParcelType} :
    Reads data (ParcelAction.takeOption data t : Handler β σ (Option t.Value)) (.object t)
      (objectArguments t) fun _ => True := by
  intro out contents
  cases read : data.read t contents with
  | mk object rest =>
    simp only [ParcelAction.takeOption, scanField, read]
    refine ⟨nofun, fun arguments rest' same => ?_⟩
    obtain ⟨rfl, rfl⟩ := Prod.mk.inj (Option.some.inj same)
    exact ⟨object, trivial, rfl, rfl⟩

/-- `GetBufferMessage` gets the buffer that is there, or stops. -/
theorem getBufferMessage_cases (data : MessageParcel β) (out : List UInt8) (contents : List β) :
    (scanBuffer data contents = none → ∃ rest, getBufferMessage data out contents =
      (.error .UEC_SERVICE_READ_PARCEL_ERROR, [], rest)) ∧
    (∀ bufferData rest, scanBuffer data contents = some (bufferData, rest) →
      FitsLength bufferData ∧ getBufferMessage data out contents = (.ok (), bufferData, rest)) := by
  unfold getBufferMessage scanBuffer
  rw [ParcelAction.bind_of_ok rfl]
  cases length : data.read .uint32 contents with
  | mk dataSize contents' =>
    cases dataSize with
    | none =>
      rw [ParcelAction.bind_of_error (ParcelAction.take_of_none length _)]
      exact ⟨fun _ => ⟨contents', rfl⟩, nofun⟩
    | some dataSize =>
      rw [ParcelAction.bind_of_ok (ParcelAction.take_of_some length _)]
      dsimp only
      by_cases empty : dataSize = 0
      · rw [if_pos empty, if_pos empty]
        refine ⟨nofun, fun bufferData rest same => ?_⟩
        obtain ⟨rfl, rfl⟩ := Prod.mk.inj (Option.some.inj same)
        exact ⟨by simp [FitsLength], rfl⟩
      · rw [if_neg empty, if_neg empty]
        cases bytes : data.read (.buffer dataSize) contents' with
        | mk tdata rest =>
          cases tdata with
          | none =>
            rw [ParcelAction.bind_of_error (ParcelAction.take_of_none bytes _)]
            exact ⟨fun _ => ⟨rest, rfl⟩, nofun⟩
          | some tdata =>
            rw [ParcelAction.bind_of_ok (ParcelAction.take_of_some bytes _)]
            refine ⟨nofun, fun bufferData rest' same => ?_⟩
            obtain ⟨rfl, rfl⟩ := Prod.mk.inj (Option.some.inj same)
            exact ⟨fitsLength_val tdata, rfl⟩

theorem Reads.readBuffer :
    Reads data (readBuffer data : Handler β σ (List UInt8)) .buffer bufferArguments
      FitsLength := by
  intro out contents
  have gets := getBufferMessage_cases data [] contents
  cases scanned : scanBuffer data contents with
  | none =>
    obtain ⟨rest, stopped⟩ := gets.1 scanned
    simp only [UsbServerStub.readBuffer, ParcelAction.checked, scanField, scanned, stopped]
    exact ⟨fun _ => ⟨.UEC_SERVICE_READ_PARCEL_ERROR, rest, by simp, rfl⟩, nofun⟩
  | some result =>
    obtain ⟨bufferData, rest⟩ := result
    obtain ⟨fits, got⟩ := gets.2 bufferData rest scanned
    simp only [UsbServerStub.readBuffer, ParcelAction.checked, scanField, scanned, got]
    refine ⟨nofun, fun arguments rest' same => ?_⟩
    obtain ⟨rfl, rfl⟩ := Prod.mk.inj (Option.some.inj same)
    exact ⟨bufferData, fits, rfl, rfl⟩

theorem reads_ret (t : ParcelType) :
    Reads data (readParcelWithRet data t : Handler β σ t.Value) (.value t) (fun v => [⟨t, v⟩])
      fun _ => True := .take nofun

theorem reads_writeRet (t : ParcelType) :
    Reads data (readParcelWithWriteRet data t : Handler β σ t.Value) (.value t)
      (fun v => [⟨t, v⟩]) fun _ => True := .take nofun

variable {base : IPCObjectStub β} {code : UInt32}

/-- Every dispatched code leads to a handler that reads the fields of the code. -/
theorem serves (dispatched : f.dispatched = true) (ofCode : IUsbSrv.Fun.ofCode code = some f) :
    Serves data service f (handler data service base code) [] f.fields := by
  unfold handler
  rw [ofCode]
  have ret := @reads_ret β σ data
  have writeRet := @reads_writeRet β σ data
  cases f with
  | USB_FUN_GET_DEVICE => cases dispatched
  | USB_FUN_GET_ACTIVE_CONFIG => cases dispatched
  | USB_FUN_HAS_RIGHT =>
    exact .bind (ret _) fun deviceName _ => .call (.hasRight deviceName) rfl rfl trivial
  | USB_FUN_REQUEST_RIGHT =>
    exact .bind (ret _) fun deviceName _ => .call (.requestRight deviceName) rfl rfl trivial
  | USB_FUN_REMOVE_RIGHT =>
    exact .bind (ret _) fun deviceName _ => .call (.removeRight deviceName) rfl rfl trivial
  | USB_FUN_OPEN_DEVICE =>
    exact .bind (ret _) fun busNum _ => .bind (ret _) fun devAddr _ =>
      .call (.onDevice (.openDevice busNum devAddr)) rfl rfl trivial
  | USB_FUN_GET_DEVICES => exact .call .getDevices rfl rfl trivial
  | USB_FUN_GET_CURRENT_FUNCTIONS => exact .call .getCurrentFunctions rfl rfl trivial
  | USB_FUN_SET_CURRENT_FUNCTIONS =>
    exact .bind (ret _) fun funcs _ => .call (.setCurrentFunctions funcs) rfl rfl trivial
  | USB_FUN_USB_FUNCTIONS_FROM_STRING =>
    exact .bind (ret _) fun funcs _ => .call (.usbFunctionsFromString funcs) rfl rfl trivial
  | USB_FUN_USB_FUNCTIONS_TO_STRING =>
    exact .bind (ret _) fun funcs _ => .call (.usbFunctionsToString funcs) rfl rfl trivial
  | USB_FUN_CLAIM_INTERFACE =>
    exact .bind (ret _) fun busNum _ => .bind (ret _) fun devAddr _ =>
      .bind (ret _) fun interface _ => .bind (ret _) fun force _ =>
      .call (.onDevice (.claimInterface busNum devAddr interface force)) rfl rfl trivial
  | USB_FUN_RELEASE_INTERFACE =>
    exact .bind (ret _) fun busNum _ => .bind (ret _) fun devAddr _ =>
      .bind (ret _) fun interface _ =>
      .call (.onDevice (.releaseInterface busNum devAddr interface)) rfl rfl trivial
  | USB_FUN_BULK_TRANSFER_READ =>
    exact .bind (writeRet _) fun busNum _ => .bind (writeRet _) fun devAddr _ =>
      .bind (writeRet _) fun interface _ => .bind (writeRet _) fun endpoint _ =>
      .bind (writeRet _) fun timeOut _ =>
      .call (.onDevice (.bulkTransferRead ⟨busNum, devAddr⟩ ⟨interface, endpoint⟩ timeOut))
        rfl rfl trivial
  | USB_FUN_BULK_TRANSFER_WRITE =>
    exact .bind (writeRet _) fun busNum _ => .bind (writeRet _) fun devAddr _ =>
      .bind (writeRet _) fun interface _ => .bind (writeRet _) fun endpoint _ =>
      .bind (writeRet _) fun timeOut _ => .bind .readBuffer fun bufferData fits =>
      .call (.onDevice (.bulkTransferWrite ⟨busNum, devAddr⟩ ⟨interface, endpoint⟩ bufferData
        timeOut))
        rfl rfl fits
  | USB_FUN_CONTROL_TRANSFER =>
    exact .bind (writeRet _) fun busNum _ => .bind (writeRet _) fun devAddr _ =>
      .bind (writeRet _) fun requestType _ => .bind (writeRet _) fun request _ =>
      .bind (writeRet _) fun value _ => .bind (writeRet _) fun index _ =>
      .bind (writeRet _) fun timeOut _ => .bind .readBuffer fun bufferData fits =>
      .call (.onDevice (.controlTransfer ⟨busNum, devAddr⟩ ⟨requestType, request, value, index,
        timeOut⟩ bufferData))
        rfl rfl fits
  | USB_FUN_SET_ACTIVE_CONFIG =>
    exact .bind (writeRet _) fun busNum _ => .bind (writeRet _) fun devAddr _ =>
      .bind (writeRet _) fun config _ =>
      .call (.onDevice (.setActiveConfig busNum devAddr config)) rfl rfl trivial
  | USB_FUN_SET_INTERFACE =>
    exact .bind (writeRet _) fun busNum _ => .bind (writeRet _) fun devAddr _ =>
      .bind (writeRet _) fun interfaceId _ => .bind (writeRet _) fun altIndex _ =>
      .call (.onDevice (.setInterface busNum devAddr interfaceId altIndex)) rfl rfl trivial
  | USB_FUN_GET_PORTS => exact .call .getPorts rfl rfl trivial
  | USB_FUN_GET_SUPPORTED_MODES =>
    exact .bind (ret _) fun portId _ => .call (.getSupportedModes portId) rfl rfl trivial
  | USB_FUN_SET_PORT_ROLE =>
    exact .bind (ret _) fun portId _ => .bind (ret _) fun powerRole _ =>
      .bind (ret _) fun dataRole _ =>
      .call (.setPortRole portId powerRole dataRole) rfl rfl trivial
  | USB_FUN_REQUEST_QUEUE =>
    exact .bind (writeRet _) fun busNum _ => .bind (writeRet _) fun devAddr _ =>
      .bind (writeRet _) fun ifId _ => .bind (writeRet _) fun endpoint _ =>
      .bind .readBuffer fun clientData fitsClient =>
      .bind .readBuffer fun bufferData fitsBuffer =>
      .call (.onDevice (.requestQueue ⟨busNum, devAddr⟩ ⟨ifId, endpoint⟩ clientData bufferData))
        rfl rfl ⟨fitsClient, fitsBuffer⟩
  | USB_FUN_REQUEST_WAIT =>
    exact .bind (writeRet _) fun busNum _ => .bind (writeRet _) fun devAddr _ =>
      .bind (writeRet _) fun timeOut _ =>
      .call (.onDevice (.requestWait ⟨busNum, devAddr⟩ timeOut)) rfl rfl trivial
  | USB_FUN_REQUEST_CANCEL =>
    exact .bind (writeRet _) fun busNum _ => .bind (writeRet _) fun devAddr _ =>
      .bind (writeRet _) fun interfaceId _ => .bind (writeRet _) fun endpointId _ =>
      .call (.onDevice (.requestCancel busNum devAddr interfaceId endpointId)) rfl rfl trivial
  | USB_FUN_GET_DESCRIPTOR =>
    exact .bind (writeRet _) fun busNum _ => .bind (writeRet _) fun devAddr _ =>
      .call (.onDevice (.getRawDescriptor busNum devAddr)) rfl rfl trivial
  | USB_FUN_GET_FILEDESCRIPTOR =>
    exact .bind (writeRet _) fun busNum _ => .bind (writeRet _) fun devAddr _ =>
      .call (.onDevice (.getFileDescriptor busNum devAddr)) rfl rfl trivial
  | USB_FUN_CLOSE_DEVICE =>
    exact .bind (writeRet _) fun busNum _ => .bind (writeRet _) fun devAddr _ =>
      .call (.onDevice (.close busNum devAddr)) rfl rfl trivial
  | USB_FUN_BULK_AYSNC_READ =>
    exact .bind (writeRet _) fun busNum _ => .bind (writeRet _) fun devAddr _ =>
      .bind (writeRet _) fun interface _ => .bind (writeRet _) fun endpoint _ =>
      .bind .takeOption fun ashmem _ =>
      .call (.onDevice (.bulkRead ⟨busNum, devAddr⟩ ⟨interface, endpoint⟩ ashmem)) rfl rfl trivial
  | USB_FUN_BULK_AYSNC_WRITE =>
    exact .bind (writeRet _) fun busNum _ => .bind (writeRet _) fun devAddr _ =>
      .bind (writeRet _) fun interface _ => .bind (writeRet _) fun endpoint _ =>
      .bind .takeOption fun ashmem _ =>
      .call (.onDevice (.bulkWrite ⟨busNum, devAddr⟩ ⟨interface, endpoint⟩ ashmem)) rfl rfl trivial
  | USB_FUN_BULK_AYSNC_CANCEL =>
    exact .bind (writeRet _) fun busNum _ => .bind (writeRet _) fun devAddr _ =>
      .bind (writeRet _) fun interface _ => .bind (writeRet _) fun endpoint _ =>
      .call (.onDevice (.bulkCancel ⟨busNum, devAddr⟩ ⟨interface, endpoint⟩)) rfl rfl trivial
  | USB_FUN_REG_BULK_CALLBACK =>
    exact .bind (writeRet _) fun busNum _ => .bind (writeRet _) fun devAddr _ =>
      .bind (writeRet _) fun interface _ => .bind (writeRet _) fun endpoint _ =>
      .bind .takeOption fun cb _ =>
      .call (.onDevice (.regBulkCallback ⟨busNum, devAddr⟩ ⟨interface, endpoint⟩ cb))
        rfl rfl trivial
  | USB_FUN_UNREG_BULK_CALLBACK =>
    exact .bind (writeRet _) fun busNum _ => .bind (writeRet _) fun devAddr _ =>
      .bind (writeRet _) fun interface _ => .bind (writeRet _) fun endpoint _ =>
      .call (.onDevice (.unRegBulkCallback ⟨busNum, devAddr⟩ ⟨interface, endpoint⟩)) rfl rfl trivial

/-! ## What becomes of the service -/

/-- The state of the service and its calls stay as they are. -/
def Quiet (handler : Handler β σ α) : Prop :=
  ∀ out contents, (handler out contents).2.1.state = out.state ∧
    (handler out contents).2.1.calls = out.calls

theorem Quiet.fail (ret : Uec) : Quiet (ParcelAction.fail ret : Handler β σ α) :=
  fun _ _ => ⟨rfl, rfl⟩

theorem Quiet.pure (a : α) : Quiet (pure a : Handler β σ α) := fun _ _ => ⟨rfl, rfl⟩

theorem Quiet.bind {γ : Type} {first : Handler β σ α} {second : α → Handler β σ γ}
    (quiet : Quiet first) (next : ∀ a, Quiet (second a)) : Quiet (first >>= second) := by
  intro out contents
  have start := quiet out contents
  rcases step : first out contents with ⟨result, out', contents'⟩
  rw [step] at start
  cases result with
  | error ret =>
    rw [ParcelAction.bind_of_error step]
    exact start
  | ok a =>
    rw [ParcelAction.bind_of_ok step]
    have last := next a out' contents'
    exact ⟨last.1.trans start.1, last.2.trans start.2⟩

theorem Quiet.returnUnlessOk (ret : Uec) : Quiet (returnUnlessOk ret : Handler β σ Unit) := by
  unfold UsbServerStub.returnUnlessOk
  by_cases ok : ret ≠ .UEC_OK
  · rw [if_pos ok]
    exact .fail ret
  · rw [if_neg ok]
    exact .pure ()

theorem Quiet.onReply (act : ParcelAction β Unit Uec Unit) :
    Quiet (onReply act : Handler β σ Unit) := fun _ _ => ⟨rfl, rfl⟩

theorem Quiet.ignore {handler : Handler β σ α} (quiet : Quiet handler) :
    Quiet (ParcelAction.ignore handler) := fun out contents => quiet out contents

/-- Answering makes no call. -/
theorem quiet_answer (call : SrvCall) (reply : SrvReply) :
    Quiet (answer data call reply : Handler β σ Unit) := by
  have ret : Quiet (UsbServerStub.returnUnlessOk reply.ret : Handler β σ Unit) :=
    .returnUnlessOk reply.ret
  cases call with
  | hasRight | usbFunctionsFromString | usbFunctionsToString => exact .onReply _
  | getDevices | getCurrentFunctions | getSupportedModes =>
    exact .bind ret fun _ => .onReply _
  | getPorts => exact .bind ret fun _ => .bind (.onReply _) fun _ => .onReply _
  | requestRight | removeRight | setCurrentFunctions | setPortRole => exact ret
  | onDevice request =>
    cases request with
    | bulkTransferRead | getActiveConfig | getRawDescriptor | getFileDescriptor =>
      exact .bind ret fun _ => .onReply _
    | controlTransfer dev ctrl bufferData =>
      refine .bind ret fun _ => ?_
      by_cases isRead : ¬ isWrite ctrl.requestType
      · rw [if_pos isRead]
        exact .ignore (.onReply _)
      · rw [if_neg isRead]
        exact .pure ()
    | requestWait => exact .bind ret fun _ => .bind (.onReply _) fun _ => .onReply _
    | _ => exact ret

/-- A dispatched code leads to one call, whose arguments are all read, or to none. -/
theorem handler_calls (dispatched : f.dispatched = true)
    (ofCode : IUsbSrv.Fun.ofCode code = some f) (out : Serving β σ) (contents : List β) :
    (scan data f.fields contents = none →
      (handler data service base code out contents).2.1 = out) ∧
    (∀ arguments rest, scan data f.fields contents = some (arguments, rest) →
      ∃ call : SrvCall, call.code = f ∧ call.arguments = arguments ∧ call.Fits ∧
        (handler data service base code out contents).2.1.state = (service call out.state).2 ∧
        (handler data service base code out contents).2.1.calls = out.calls ++ [call]) := by
  have all := (serves dispatched ofCode :
    Serves data service f (handler data service base code) [] f.fields) out contents
  refine ⟨fun scanned => ?_, fun arguments rest scanned => ?_⟩
  · obtain ⟨ret, rest, _, stopped⟩ := all.1 scanned
    rw [stopped]
  · obtain ⟨call, same, read, fits, served⟩ := all.2 arguments rest scanned
    have invoked : invoke service call out rest =
        (.ok (service call out.state).1,
          { out with state := (service call out.state).2, calls := out.calls ++ [call] }, rest) :=
      rfl
    rw [ParcelAction.bind_of_ok invoked] at served
    have quiet := (quiet_answer call (service call out.state).1 :
      Quiet (answer data call (service call out.state).1 : Handler β σ Unit))
        { out with state := (service call out.state).2, calls := out.calls ++ [call] } rest
    rw [served]
    exact ⟨call, same, read, fits, quiet⟩

/-- Any other code leads to no call. -/
theorem handler_calls_nothing
    (unknown : ∀ f, IUsbSrv.Fun.ofCode code = some f → f.dispatched = false)
    (out : Serving β σ) (contents : List β) :
    (handler data service base code out contents).2.1.state = out.state ∧
      (handler data service base code out contents).2.1.calls = out.calls := by
  have quiet : Quiet (onBase base code : Handler β σ Unit) := by
    intro out contents
    unfold onBase
    split <;> exact ⟨rfl, rfl⟩
  unfold handler
  cases ofCode : IUsbSrv.Fun.ofCode code with
  | none => exact quiet out contents
  | some f =>
    have undispatched := unknown f ofCode
    cases f with
    | USB_FUN_GET_DEVICE => exact quiet out contents
    | USB_FUN_GET_ACTIVE_CONFIG => exact quiet out contents
    | _ => cases undispatched

/-- With the right token the handler goes on with the rest of the parcel. -/
theorem onRemoteRequest_of_token {out : Serving β σ} {message contents : List β}
    (token : data.read .interfaceToken message = (some IUsbSrv.descriptor, contents)) :
    onRemoteRequest data service base code out message =
      handler data service base code out contents := by
  have read : ParcelAction.takeUnchecked data .interfaceToken "" out message =
      ((.ok IUsbSrv.descriptor : Except Uec String), out, contents) := by
    simp only [ParcelAction.takeUnchecked, token, Option.getD_some]
  unfold onRemoteRequest
  rw [ParcelAction.bind_of_ok read]
  rfl

/-- With any other token, or none, nothing is called. -/
theorem onRemoteRequest_of_wrongToken {out : Serving β σ} {message : List β}
    (wrong : (data.read .interfaceToken message).1 ≠ some IUsbSrv.descriptor) :
    (onRemoteRequest data service base code out message).1 = .error .UEC_SERVICE_INNER_ERR ∧
      (onRemoteRequest data service base code out message).2.1 = out := by
  cases token : data.read .interfaceToken message with
  | mk remoteDescriptor contents =>
    rw [token] at wrong
    have read : ParcelAction.takeUnchecked data .interfaceToken "" out message =
        ((.ok (remoteDescriptor.getD "") : Except Uec String), out, contents) := by
      simp only [ParcelAction.takeUnchecked, token]
    have other : IUsbSrv.descriptor ≠ remoteDescriptor.getD "" := by
      cases remoteDescriptor with
      | none => simp [IUsbSrv.descriptor]
      | some remoteDescriptor => exact fun same => wrong (congrArg some same.symm)
    unfold onRemoteRequest
    rw [ParcelAction.bind_of_ok read, if_pos other]
    exact ⟨rfl, rfl⟩

end UsbServerStub

end

end UsbManager

import UsbManager.Lib.Run
import UsbManager.RoundTrip
import UsbManager.Stub

/-!
# `usbd_bulk_callback.cpp`

The object through which an application hears of its bulk transfers.  A process that has
the object can send it any code with any contents.  Whatever else is sent, the application
is told of each notification once and in order (`told_of_run`).
-/

namespace UsbManager

/-- The methods that the application overrides. -/
inductive BulkCallback where
  | onBulkWriteCallback (status actLength : Int32)
  | onBulkReadCallback (status actLength : Int32)
  deriving DecidableEq, Repr

namespace UsbdBulkCallBack

inductive Cmd where
  | CMD_USBD_BULK_CALLBACK_READ
  | CMD_USBD_BULK_CALLBACK_WRITE
  deriving DecidableEq, Repr

namespace Cmd

def code : Cmd → UInt32
  | CMD_USBD_BULK_CALLBACK_READ => 0
  | CMD_USBD_BULK_CALLBACK_WRITE => 1

def ofCode (code : UInt32) : Option Cmd :=
  if code = CMD_USBD_BULK_CALLBACK_WRITE.code then some CMD_USBD_BULK_CALLBACK_WRITE
  else if code = CMD_USBD_BULK_CALLBACK_READ.code then some CMD_USBD_BULK_CALLBACK_READ
  else none

theorem ofCode_code (cmd : Cmd) : ofCode cmd.code = some cmd := by
  cases cmd with
  | CMD_USBD_BULK_CALLBACK_READ => rfl
  | CMD_USBD_BULK_CALLBACK_WRITE => rfl

/-- The method that is called for a command. -/
def callback : Cmd → Int32 → Int32 → BulkCallback
  | CMD_USBD_BULK_CALLBACK_READ => .onBulkReadCallback
  | CMD_USBD_BULK_CALLBACK_WRITE => .onBulkWriteCallback

end Cmd

/-- The descriptor that the constructor passes on. -/
def descriptor : String := "UsbdBulkCallback.V1_0"

section

variable {β : Type} (data : MessageParcel β) (base : IPCObjectStub β)

/-- A case of the `switch`, after its token. -/
def onNumbers (cmd : Cmd) : ParcelAction β (List BulkCallback) Uec Unit := do
  let status ← ParcelAction.take data .UEC_SERVICE_WRITE_PARCEL_ERROR .int32
  let actLength ← ParcelAction.take data .UEC_SERVICE_WRITE_PARCEL_ERROR .int32
  ParcelAction.update (· ++ [cmd.callback status actLength])

/-- A case of the `switch`; the two differ in the method that is called. -/
def onCommand (cmd : Cmd) : ParcelAction β (List BulkCallback) Uec Unit := do
  let token ← ParcelAction.takeUnchecked data .interfaceToken ""
  if token ≠ descriptor then ParcelAction.fail .UEC_SERVICE_WRITE_PARCEL_ERROR
  else onNumbers data cmd

/-- `OnRemoteRequest`, and what the application has been told after it. -/
def onRemoteRequest (code : UInt32) (message reply : List β) (told : List BulkCallback) :
    (Uec × List β) × List BulkCallback :=
  match Cmd.ofCode code with
  | none => (base code message reply, told)
  | some cmd =>
    let handled := onCommand data cmd told message
    ((retOf handled.1, reply), handled.2.1)

/-! ## What a request says -/

/-- The next value of a parcel. -/
def next (t : ParcelType) (contents : List β) : Option (t.Value × List β) :=
  (data.read t contents).1.map fun v => (v, (data.read t contents).2)

/-- Two numbers. -/
def saidNumbers (cmd : Cmd) (contents : List β) : Option BulkCallback := do
  let status ← next data .int32 contents
  let actLength ← next data .int32 status.2
  return cmd.callback status.1 actLength.1

/-- The token, and two numbers. -/
def said (code : UInt32) (message : List β) : Option BulkCallback := do
  let cmd ← Cmd.ofCode code
  let token ← next data .interfaceToken message
  if token.1 = descriptor then saidNumbers data cmd token.2 else none

/-- A notification of usbd. -/
structure Notification where
  cmd : Cmd
  status : Int32
  actLength : Int32

def Notification.callback (n : Notification) : BulkCallback := n.cmd.callback n.status n.actLength

/-- The contents of the request that makes a notification. -/
def Notification.message (units : (t : ParcelType) → t.Value → List β) (n : Notification) :
    List β :=
  units .interfaceToken descriptor ++ (units .int32 n.status ++ units .int32 n.actLength)

/-- A request, and its result code and reply. -/
structure Handled (β : Type) where
  code : UInt32
  message : List β
  answer : Uec × List β

/-- A request is handled, with an empty reply parcel. -/
def Handles (told : List BulkCallback) (label : Handled β) (told' : List BulkCallback) : Prop :=
  onRemoteRequest data base label.code label.message [] told = (label.answer, told')

end

section

variable {β : Type} {data : MessageParcel β} {base : IPCObjectStub β}
  {units : (t : ParcelType) → t.Value → List β}

theorem next_of_some {t : ParcelType} {v : t.Value} {contents rest : List β}
    (read : data.read t contents = (some v, rest)) : next data t contents = some (v, rest) := by
  unfold next
  rw [read]
  rfl

theorem next_of_none {t : ParcelType} {contents rest : List β}
    (read : data.read t contents = (none, rest)) : next data t contents = none := by
  unfold next
  rw [read]
  rfl

theorem saidNumbers_of_some {cmd : Cmd} {status : Int32} {contents rest : List β}
    (read : data.read .int32 contents = (some status, rest)) :
    saidNumbers data cmd contents =
      (next data .int32 rest).map fun actLength => cmd.callback status actLength.1 := by
  unfold saidNumbers
  rw [next_of_some read, Option.bind_eq_bind, Option.bind_some]
  dsimp only
  cases next data .int32 rest with
  | none => rfl
  | some actLength => rfl

theorem said_of_token {code : UInt32} {cmd : Cmd} {token : String} {message contents : List β}
    (known : Cmd.ofCode code = some cmd)
    (read : data.read .interfaceToken message = (some token, contents)) :
    said data code message =
      if token = descriptor then saidNumbers data cmd contents else none := by
  unfold said
  rw [known, next_of_some read]
  rfl

/-- A notification says what it is. -/
theorem said_message (faithful : data.Faithful units) (n : Notification) :
    said data n.cmd.code (n.message units) = some n.callback := by
  have last : data.read .int32 (units .int32 n.actLength) = (some n.actLength, []) := by
    have read := faithful.read .int32 n.actLength []
    rwa [List.append_nil] at read
  unfold Notification.message
  rw [said_of_token (Cmd.ofCode_code n.cmd) (faithful.read _ _ _), if_pos rfl,
    saidNumbers_of_some (faithful.read _ _ _), next_of_some last]
  rfl

/-! ## What a command leaves -/

/-- What a command leaves: it succeeds where something was said, and only then is the
application told. -/
def Leaves (told : List BulkCallback) (said : Option BulkCallback)
    (handled : Except Uec Unit × List BulkCallback × List β) : Prop :=
  handled.2.1 = told ++ said.toList ∧ (retOf handled.1 = .UEC_OK ↔ said.isSome = true)

theorem leaves_refused (told : List BulkCallback) (contents : List β) :
    Leaves told none (.error .UEC_SERVICE_WRITE_PARCEL_ERROR, told, contents) := by
  have refused : ¬ Uec.UEC_SERVICE_WRITE_PARCEL_ERROR = .UEC_OK := by decide
  exact ⟨(List.append_nil told).symm, iff_of_false refused Bool.false_ne_true⟩

theorem leaves_onNumbers (cmd : Cmd) (contents : List β) (told : List BulkCallback) :
    Leaves told (saidNumbers data cmd contents) (onNumbers data cmd told contents) := by
  unfold onNumbers
  rcases first : data.read .int32 contents with ⟨_ | status, rest⟩
  · have missing : saidNumbers data cmd contents = none := by
      unfold saidNumbers
      rw [next_of_none first]
      rfl
    rw [missing, ParcelAction.bind_of_error (ParcelAction.take_of_none first told)]
    exact leaves_refused told rest
  · rw [saidNumbers_of_some first, ParcelAction.bind_of_ok (ParcelAction.take_of_some first told)]
    rcases second : data.read .int32 rest with ⟨_ | actLength, rest'⟩
    · rw [next_of_none second, ParcelAction.bind_of_error (ParcelAction.take_of_none second told)]
      exact leaves_refused told rest'
    · rw [next_of_some second, ParcelAction.bind_of_ok (ParcelAction.take_of_some second told)]
      exact ⟨rfl, iff_of_true rfl rfl⟩

theorem leaves_onCommand {code : UInt32} {cmd : Cmd} (known : Cmd.ofCode code = some cmd)
    (message : List β) (told : List BulkCallback) :
    Leaves told (said data code message) (onCommand data cmd told message) := by
  unfold onCommand
  rcases first : data.read .interfaceToken message with ⟨token, contents⟩
  have read : (ParcelAction.takeUnchecked data .interfaceToken "" :
      ParcelAction β (List BulkCallback) Uec String) told message =
      (.ok (token.getD ""), told, contents) := by
    simp only [ParcelAction.takeUnchecked, first]
  rw [ParcelAction.bind_of_ok read]
  cases token with
  | none =>
    -- The empty string is not the descriptor.
    have wrong : Option.getD (none : Option String) "" ≠ descriptor := by decide
    have missing : said data code message = none := by
      unfold said
      rw [known, next_of_none first]
      rfl
    rw [missing, if_pos wrong]
    exact leaves_refused told contents
  | some token =>
    rw [said_of_token known first]
    by_cases right : token = descriptor
    · have same : ¬ Option.getD (some token) "" ≠ descriptor := not_not.mpr right
      rw [if_neg same, if_pos right]
      exact leaves_onNumbers cmd contents told
    · have other : Option.getD (some token) "" ≠ descriptor := right
      rw [if_pos other, if_neg right]
      exact leaves_refused told contents

/-! ## Any requests -/

/-- A request tells the application what it says. -/
theorem told_of_handles {told told' : List BulkCallback} {label : Handled β}
    (step : Handles data base told label told') :
    told' = told ++ (said data label.code label.message).toList ∧
      (Cmd.ofCode label.code ≠ none →
        (label.answer.1 = .UEC_OK ↔ (said data label.code label.message).isSome = true)) := by
  unfold Handles onRemoteRequest at step
  cases known : Cmd.ofCode label.code with
  | none =>
    rw [known] at step
    have silent : said data label.code label.message = none := by
      unfold said
      rw [known]
      rfl
    rw [silent]
    exact ⟨(Prod.mk.inj step).2.symm.trans (List.append_nil told).symm,
      fun known => absurd rfl known⟩
  | some cmd =>
    rw [known] at step
    obtain ⟨answered, left⟩ := Prod.mk.inj step
    obtain ⟨tells, succeeds⟩ := @leaves_onCommand β data _ _ known label.message told
    rw [← left, ← answered]
    exact ⟨tells, fun _ => succeeds⟩

/-- In every run of requests the application is told what they say, in their order.  A
known code is answered `UEC_OK` where the application was told.  So it is told of every
notification, once and in order. -/
theorem told_of_run (faithful : data.Faithful units) {history : List (Handled β)}
    {told : List BulkCallback} (run : Run (Handles data base) [] history told) :
    told = history.filterMap (fun label => said data label.code label.message) ∧
      (∀ label ∈ history, Cmd.ofCode label.code ≠ none →
        (label.answer.1 = .UEC_OK ↔ (said data label.code label.message).isSome = true)) ∧
      ∀ sent : List Notification, (sent.map fun n => (n.cmd.code, n.message units)).Sublist
          (history.map fun label => (label.code, label.message)) →
        (sent.map Notification.callback).Sublist told := by
  have tells : told = history.filterMap (fun label => said data label.code label.message) := by
    induction run with
    | start => rfl
    | @step history _ _ label _ taken ih =>
      rw [(told_of_handles taken).1, ih, List.filterMap_append]
      cases heard : said data label.code label.message with
      | none => simp only [List.filterMap_cons, heard, List.filterMap_nil, Option.toList_none]
      | some callback =>
        simp only [List.filterMap_cons, heard, List.filterMap_nil, Option.toList_some]
  refine ⟨tells, ?_, fun sent among => ?_⟩
  · intro label there
    obtain ⟨before, after, rfl⟩ := List.append_of_mem there
    obtain ⟨_, _, _, taken⟩ := run.split
    exact (told_of_handles taken).2
  · have heard := among.filterMap fun request => said data request.1 request.2
    rw [List.filterMap_map, List.filterMap_map] at heard
    have whole : sent.filterMap ((fun request => said data request.1 request.2) ∘
        fun n => (n.cmd.code, n.message units)) = sent.map Notification.callback :=
      (List.filterMap_congr fun n _ => said_message faithful n).trans
        (congrFun List.filterMap_eq_map sent)
    rw [whole] at heard
    rw [tells]
    exact heard

end

/-- A request that ends after one number, a notification, and a request for another
object. -/
theorem told_notified :
    let base : IPCObjectStub Slot := fun _ _ reply => (.UEC_SERVICE_INNER_ERR, reply)
    let n : Notification := ⟨.CMD_USBD_BULK_CALLBACK_WRITE, 0, 512⟩
    let history : List (Handled Slot) := [
      ⟨1, [.token descriptor, .w32 0], (.UEC_SERVICE_WRITE_PARCEL_ERROR, [])⟩,
      ⟨1, n.message slots, (.UEC_OK, [])⟩,
      ⟨0, [.token "ohos.usb.IUsbSrv"], (.UEC_SERVICE_WRITE_PARCEL_ERROR, [])⟩]
    Run (Handles slotParcel base) [] history [.onBulkWriteCallback 0 512] ∧
      ([n].map Notification.callback).Sublist [.onBulkWriteCallback 0 512] := by
  intro base n history
  have run : Run (Handles slotParcel base) [] history [.onBulkWriteCallback 0 512] :=
    ((Run.start.step rfl).step rfl).step rfl
  refine ⟨run, (told_of_run faithful_slotParcel run).2.2 [n] ?_⟩
  exact (List.sublist_append_left [_] [_]).cons _

end UsbdBulkCallBack

end UsbManager

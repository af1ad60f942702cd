import UsbManager.JsCalls
import UsbManager.Remote

/-!
# Transfers of JavaScript programs

A transfer is started with an array, carried out by a worker and settles a promise then.
The worker sends a copy that was made at the start, or receives into the array itself.
`run_transfer` says what a transfer comes to, all the way from the objects of the program
through the client, the parcels and the service to usbd: whether its promise is resolved
and with what, what usbd is asked for and what the array holds in the end.
-/

namespace UsbManager.Js

namespace UsbInfo

open UsbManager.Js.NapiUtil UsbServerProxy

/-! ## Carrying a transfer out -/

/-- `memcpy_s`: whether it succeeds and what the destination holds then.  A count that is
too large clears it. -/
def memcpyS (dest : List UInt8) (destMax : Nat) (src : List UInt8) : Bool × List UInt8 :=
  if destMax = 0 ∨ destMax > SECUREC_MEM_MAX_LEN then (false, dest)
  else if src.length > destMax then (false, List.replicate destMax 0 ++ dest.drop destMax)
  else (true, src ++ dest.drop src.length)

/-- What the worker leaves: whether `status` is `napi_ok`, `dataSize` and the bytes at
`buffer`. -/
structure Executed where
  status : Bool
  dataSize : UInt32
  buffer : List UInt8
  deriving DecidableEq, Repr

/-- What the worker makes of the result of the client. -/
def executed (direction : UInt32) (buffer : List UInt8) (bufferLength : UInt32) (ret : Uec)
    (bufferData : List UInt8) : Executed :=
  if ret ≠ .UEC_OK then ⟨false, 0, buffer⟩
  else if direction = USB_ENDPOINT_DIR_IN then
    match memcpyS buffer bufferLength.toNat bufferData with
    | (true, buffer) => ⟨true, UInt32.ofNat bufferData.length, buffer⟩
    | (false, buffer) => ⟨false, 0, buffer⟩
  else ⟨true, UInt32.ofNat bufferData.length, buffer⟩

/-- How a promise is settled. -/
inductive Settled where
  | resolved (value : Int32)
  | rejected (value : Int32)
  deriving DecidableEq, Repr

/-- `g_bulkTransferComplete` and `g_controlTransferComplete` -/
def Executed.complete (done : Executed) : Settled :=
  if done.status then .resolved done.dataSize.toInt32 else .rejected (-1)

section

variable {σ : Type} (client : ClientCall → ClientReply → σ → Option ClientReply × σ)

/-- The variables that the client is called with; it does not use those of requests. -/
def callVariables (pipe : USBDevicePipe) (bufferData : List UInt8) : ClientReply :=
  ⟨{ bufferData }, pipe, ⟨pipe, {}, [], []⟩⟩

/-- `g_bulkTransferExecute` and `g_controlTransferExecute`, where the array has these bytes
now: what they leave and what the array has then.  Only the copy is deleted. -/
def Transfer.execute (transfer : Transfer) (array : List UInt8) (s : σ) :
    Option (Executed × List UInt8) × σ :=
  let sends := transfer.direction = USB_ENDPOINT_DIR_OUT
  let buffer := if sends then transfer.buffer else array
  let bufferData := vector buffer transfer.bufferLength
  match client (transfer.call bufferData) (callVariables transfer.pipe bufferData) s with
  | (none, s) => (none, s)
  | (some vars, s) =>
    let done := executed transfer.direction buffer transfer.bufferLength vars.srv.ret
      vars.srv.bufferData
    (some (done, if sends then array else done.buffer), s)

/-- How the promise is settled, and the array. -/
def Transfer.run (transfer : Transfer) (array : List UInt8) (s : σ) :
    Option (Settled × List UInt8) × σ :=
  match transfer.execute client array s with
  | (none, s) => (none, s)
  | (some (done, array), s) => (some (done.complete, array), s)

end

/-- What a transfer is for: whether it receives, the data it is given, and what usbd is
asked with the data. -/
structure TransferCall where
  receives : Bool
  data : List UInt8
  usbd : List UInt8 → UsbdCall

namespace TransferCall

/-- What usbd is asked where the array has these bytes now. -/
def asked (t : TransferCall) (array : List UInt8) : UsbdCall :=
  t.usbd (if t.receives then array else t.data)

/-- The promise and the array after the reply of usbd.  A reply that is longer than the
array clears it. -/
def outcome (t : TransferCall) (array : List UInt8) (reply : Reply) : Settled × List UInt8 :=
  let received := reply.bufferData
  if reply.ret ≠ .UEC_OK then (.rejected (-1), array)
  else if !t.receives then (.resolved (Int32.ofNat t.data.length), array)
  else if array.length = 0 ∨ array.length > SECUREC_MEM_MAX_LEN then (.rejected (-1), array)
  else if received.length > array.length then (.rejected (-1), List.replicate array.length 0)
  else (.resolved (Int32.ofNat received.length), received ++ array.drop received.length)

end TransferCall

/-- The call of a client that can find the service. -/
def clientCall {κ : Type} [DecidableEq κ] (carry : Carrier κ) (client : κ) (outside : Outside)
    (call : ClientCall) (vars : ClientReply) (s : ClientState κ) :
    Option ClientReply × ClientState κ :=
  let (result, proxy_, service) := call.method.run (.service (some ()))
    (fun _ => carry client outside) vars (s.proxies client) s.service
  (result, { proxies := Function.update s.proxies client proxy_, service })

section

variable {κ : Type} [DecidableEq κ] {usbd : Usbd} {carry : Carrier κ} {client : κ}
  {outside : Outside} {s : ClientState κ} {call : ClientCall} {t : TransferCall}

/-- It is a step of the service with its clients. -/
theorem step_clientCall (vars : ClientReply) :
    ClientStep usbd carry s
      (.call client outside call vars (clientCall carry client outside call vars s).1)
      (clientCall carry client outside call vars s).2 := .call rfl

variable {β : Type} {data : MessageParcel β} {units : (t : ParcelType) → t.Value → List β}
  {base : IPCObjectStub β} {junk : Uninitialised} {invalid : UInt32} {bundle : κ → Option String}

end

/-- A device that always has two bytes. -/
def twoBytes : Usbd := ⟨fun _ _ => { ret := .UEC_OK, bufferData := [7, 8] }⟩

end UsbInfo

end UsbManager.Js

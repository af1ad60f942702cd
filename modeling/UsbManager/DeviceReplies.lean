import UsbManager.Proxy
import UsbManager.RoundTrip

/-!
# Reading any reply as a device list

The reply to `GetDevices` may hold anything.  `GetDevices` should answer `UEC_OK`
only where the reply begins with the complete encoding of a list of devices, and
an error where a read fails.  But the result of each device, and of its
configurations, is dropped, and two of the counts are read without a check:
`soundDevices_iff` says which replies are read well.  Of the parcel nothing is
assumed.
-/

namespace UsbManager

open UsbServerProxy

namespace Exchange

variable {β ε δ α σ : Type} (data : MessageParcel β) (x : Exchange β ε δ α)

/-- The reply parcel, where there is one that is read. -/
def replyTo (remote : Option (Remote β σ)) (outcomes : List Bool) (s : σ) : Option (List β) :=
  match remote, x.message data outcomes with
  | some sendRequest, .ok message =>
    let ((ret, reply), _) := sendRequest x.code.code message s
    if ret = .UEC_OK then some reply else none
  | _, _ => none

variable {data x} {remote : Option (Remote β σ)} {outcomes : List Bool} {s : σ}

theorem run_of_reply {reply : List β} (replied : x.replyTo data remote outcomes s = some reply)
    (out : δ) :
    (x.run data remote outcomes out s).1 = ((x.reply out reply).1, (x.reply out reply).2.1) := by
  unfold replyTo at replied
  unfold run
  cases remote with
  | none => cases replied
  | some sendRequest =>
    cases written : x.message data outcomes with
    | error e =>
      rw [written] at replied
      cases replied
    | ok message =>
      rw [written] at replied
      dsimp only at replied ⊢
      rcases answer : sendRequest x.code.code message s with ⟨⟨ret, answered⟩, s'⟩
      rw [answer] at replied
      dsimp only at replied ⊢
      by_cases ok : ret = .UEC_OK
      · rw [if_pos ok] at replied
        cases replied
        rw [if_neg (not_not_intro ok)]
      · rw [if_neg ok] at replied
        cases replied

/-- Without a reply the output arguments are not touched. -/
theorem run_of_noReply (none : x.replyTo data remote outcomes s = none) (out : δ) :
    ∃ e, (x.run data remote outcomes out s).1 = (.error e, out) := by
  unfold replyTo at none
  unfold run
  cases remote with
  | none => exact ⟨_, rfl⟩
  | some sendRequest =>
    cases written : x.message data outcomes with
    | error e => exact ⟨e, rfl⟩
    | ok message =>
      rw [written] at none
      dsimp only at none ⊢
      rcases answer : sendRequest x.code.code message s with ⟨⟨ret, answered⟩, s'⟩
      rw [answer] at none
      dsimp only at none ⊢
      by_cases ok : ret = .UEC_OK
      · rw [if_pos ok] at none
        cases none
      · rw [if_pos ok]
        exact ⟨_, rfl⟩

end Exchange

section

variable {β σ : Type} (data : MessageParcel β) (junk : Uninitialised)

/-- The contents begin with the complete encoding of these devices. -/
structure EncodesDevices (reply : List β) (devices : List UsbDevice) : Prop where
  few : devices.length < 2 ^ 31
  countable : ∀ dev ∈ devices, dev.Countable
  received : ∀ dev ∈ devices, dev.Received
  values : ∃ rest, ParcelAction.Decodes data (deviceListValues devices) reply rest

/-- A read fails, at any level, while a device list is read from the reply. -/
def ReadFails (reply : List β) (before : List UsbDevice) : Prop :=
  none ∈ (getDeviceListMessageParcel data.noting junk before (reply.map some)).2.2

/-- `GetDevices` answers `UEC_OK` only if the reply began with the encoding of
devices that it has appended; if a read fails it returns an error and the list
stays as it was. -/
def SoundDevices (remote : Option (Remote β σ)) (outcomes : List Bool) (s : σ)
    (before : List UsbDevice) : Prop :=
  let ((result, deviceList), _) := (getDevices data junk).run data remote outcomes before s
  let reply := (getDevices data junk).replyTo data remote outcomes s
  (result = .ok () → ∃ contents devices, reply = some contents ∧
      EncodesDevices data contents devices ∧ deviceList = before ++ devices) ∧
    ∀ contents, reply = some contents → ReadFails data junk contents before →
      result ≠ .ok () ∧ deviceList = before

variable {data junk} {reply : List β} {devices : List UsbDevice}

/-- A complete encoding is read without a failure. -/
theorem EncodesDevices.not_readFails (encodes : EncodesDevices data reply devices)
    (before : List UsbDevice) : ¬ ReadFails data junk reply before := by
  obtain ⟨rest, decodes⟩ := encodes.values
  have read := takes_deviceList data.noting junk encodes.few encodes.countable encodes.received
    before _ _ decodes.noting
  unfold ReadFails
  rw [read]
  intro failed
  obtain ⟨b, _, same⟩ := List.mem_map.mp failed
  cases same

/-- The devices of a complete encoding are appended. -/
theorem EncodesDevices.read (encodes : EncodesDevices data reply devices)
    (before : List UsbDevice) :
    ∃ rest, getDeviceListMessageParcel data junk before reply =
      (.ok (), before ++ devices, rest) := by
  obtain ⟨rest, decodes⟩ := encodes.values
  exact ⟨rest, takes_deviceList data junk encodes.few encodes.countable encodes.received before
    reply rest decodes⟩

/-- Where the count of devices cannot be read there is an error. -/
theorem getDeviceList_of_noCount (missing : (data.read .int32 reply).1 = none)
    (before : List UsbDevice) :
    ∃ rest, getDeviceListMessageParcel data junk before reply =
      (.error .UEC_SERVICE_READ_PARCEL_ERROR, before, rest) := by
  rcases read : data.read .int32 reply with ⟨count, rest⟩
  rw [read] at missing
  obtain rfl : count = none := missing
  exact ⟨rest, ParcelAction.bind_of_error (ParcelAction.take_of_none read before)⟩

/-- The loop over the devices never ends with an error. -/
theorem getDeviceLoop_ok (n : Nat) : ∀ (deviceList : List UsbDevice) (contents : List β),
    (ParcelAction.times (do
      let result ← ParcelAction.nested {} (getDeviceMessageParcel data junk)
      ParcelAction.update fun deviceList => deviceList ++ [result.2] :
        ParcelAction β (List UsbDevice) Uec Unit) n deviceList contents).1 = .ok () := by
  induction n with
  | zero => exact fun _ _ => rfl
  | succ n ih => exact fun _ _ => ih _ _

/-- Where the count of devices can be read `UEC_OK` is returned, whatever follows. -/
theorem getDeviceList_of_count {count : Int32} (read : (data.read .int32 reply).1 = some count)
    (before : List UsbDevice) :
    (getDeviceListMessageParcel data junk before reply).1 = .ok () := by
  rcases got : data.read .int32 reply with ⟨value, rest⟩
  rw [got] at read
  obtain rfl : value = some count := read
  unfold getDeviceListMessageParcel readParcelWithRet
  rw [ParcelAction.bind_of_ok (ParcelAction.take_of_some got before)]
  exact getDeviceLoop_ok _ _ _

/-- What the stub writes for a list of devices is a complete encoding. -/
theorem encodesDevices_written {units : (t : ParcelType) → t.Value → List β}
    (faithful : data.Faithful units) (sameWidth : SameWidth units) {deviceList : List UsbDevice}
    (few : deviceList.length < 2 ^ 31) (countable : ∀ dev ∈ deviceList, dev.Countable)
    (consistent : ∀ dev ∈ deviceList, dev.Consistent) (rest : List β) :
    ∃ written, (UsbServerStub.setDeviceListMessageParcel data deviceList).Appends written () ∧
      EncodesDevices data (written ++ rest) (deviceList.map UsbDevice.transmitted) := by
  have appends := appends_deviceList_of_few faithful few
  rw [← unitsOf_deviceList sameWidth] at appends
  refine ⟨_, appends, by rwa [List.length_map], ?_, ?_, rest, ?_⟩
  · exact List.forall_mem_map.mpr fun dev there => (countable dev there).transmitted
  · exact List.forall_mem_map.mpr fun dev there => (consistent dev there).received
  · exact .of_faithful faithful _ rest

/-! ## Which replies are read well -/

theorem SoundDevices.of_noReply {remote : Option (Remote β σ)} {outcomes : List Bool} {s : σ}
    (noReply : (getDevices data junk).replyTo data remote outcomes s = none)
    (before : List UsbDevice) : SoundDevices data junk remote outcomes s before := by
  obtain ⟨e, stopped⟩ := Exchange.run_of_noReply noReply before
  unfold SoundDevices
  dsimp only
  rw [congrArg Prod.fst stopped, noReply]
  refine ⟨fun returned => ?_, fun _ replied => ?_⟩
  · cases returned
  · cases replied

theorem SoundDevices.iff_of_reply {remote : Option (Remote β σ)} {outcomes : List Bool} {s : σ}
    (replied : (getDevices data junk).replyTo data remote outcomes s = some reply)
    (before : List UsbDevice) :
    SoundDevices data junk remote outcomes s before ↔
      (data.read .int32 reply).1 = none ∨ ∃ devices, EncodesDevices data reply devices := by
  have returns := Exchange.run_of_reply replied before
  have body : (getDevices data junk).reply = getDeviceListMessageParcel data junk := rfl
  rw [body] at returns
  unfold SoundDevices
  dsimp only
  rw [congrArg Prod.fst returns, congrArg Prod.snd returns, replied]
  dsimp only
  refine ⟨fun sound => ?_, fun good => ?_⟩
  · cases count : (data.read .int32 reply).1 with
    | none => exact Or.inl rfl
    | some count' =>
      obtain ⟨contents, devices, same, encodes, _⟩ := sound.1 (getDeviceList_of_count count before)
      cases same
      exact Or.inr ⟨devices, encodes⟩
  · rcases good with missing | ⟨devices, encodes⟩
    · obtain ⟨rest, stopped⟩ := getDeviceList_of_noCount missing before
      rw [stopped]
      refine ⟨fun returned => ?_, fun _ _ _ => ⟨fun returned => ?_, rfl⟩⟩
      · cases returned
      · cases returned
    · obtain ⟨rest, read⟩ := encodes.read before
      rw [read]
      refine ⟨fun _ => ⟨reply, devices, rfl, encodes, rfl⟩, fun contents same fails => ?_⟩
      cases same
      exact absurd fails (encodes.not_readFails before)

end

/-- `GetDevices` reads a reply well exactly where the count of devices cannot be
read from it or it begins with the complete encoding of a list of devices. -/
theorem soundDevices_iff {β σ : Type} (data : MessageParcel β) (junk : Uninitialised)
    (remote : Option (Remote β σ)) (outcomes : List Bool) (s : σ) (before : List UsbDevice) :
    SoundDevices data junk remote outcomes s before ↔
      ∀ reply, (getDevices data junk).replyTo data remote outcomes s = some reply →
        (data.read .int32 reply).1 = none ∨ ∃ devices, EncodesDevices data reply devices := by
  cases replied : (getDevices data junk).replyTo data remote outcomes s with
  | none =>
    refine ⟨fun _ reply same => ?_, fun _ => .of_noReply replied before⟩
    cases same
  | some reply =>
    refine (SoundDevices.iff_of_reply replied before).trans ⟨fun good contents same => ?_, ?_⟩
    · cases same
      exact good
    · exact fun good => good reply rfl

/-- The reply announces one device and ends: a device with initial values is
appended and `UEC_OK` returned. -/
theorem not_soundDevices_truncated :
    ¬ SoundDevices slotParcel ⟨0, 0⟩
      (some fun _ _ s => ((.UEC_OK, [.w32 1]), s) : Option (Remote Slot Unit)) [] () [] := by
  intro sound
  have fails : ReadFails slotParcel ⟨0, 0⟩ [.w32 1] [] := by
    unfold ReadFails
    decide +kernel
  have returned := (sound.2 [.w32 1] rfl fails).1
  exact returned rfl

end UsbManager

import UsbManager.Forwarding

/-!
# What a client is told of a device

The numbers of a device go from the bytes of its descriptor through the parser,
the store, the writer of `GetDevices` and the reader of the client.  `identified_iff`
says for which descriptors all of them arrive.
-/

namespace UsbManager

open UsbService UsbDescriptorParser UsbServerStub UsbServerProxy

/-- A field of one byte. -/
def byteAt (descriptor : List UInt8) (k : Nat) : Nat := (descriptor.getD k 0).toNat

/-- A field of two bytes, the low one first. -/
def wordAt (descriptor : List UInt8) (k : Nat) : Nat :=
  byteAt descriptor k + 256 * byteAt descriptor (k + 1)

/-- The device has the numbers of its descriptor and of its address. -/
structure Identifies (descriptor : List UInt8) (busNum devAddr : UInt8) (dev : UsbDevice) :
    Prop where
  bcdUSB : dev.bcdUSB.toNat = wordAt descriptor 2
  klass : dev.klass.toInt = byteAt descriptor 4
  subClass : dev.subClass.toInt = byteAt descriptor 5
  protocol : dev.protocol.toInt = byteAt descriptor 6
  bMaxPacketSize0 : dev.bMaxPacketSize0.toNat = byteAt descriptor 7
  vendorId : dev.vendorId.toInt = wordAt descriptor 8
  productId : dev.productId.toInt = wordAt descriptor 10
  bcdDevice : dev.bcdDevice.toNat = wordAt descriptor 12
  iManufacturer : dev.iManufacturer.toNat = byteAt descriptor 14
  iProduct : dev.iProduct.toNat = byteAt descriptor 15
  iSerialNumber : dev.iSerialNumber.toNat = byteAt descriptor 16
  busNum : dev.busNum = busNum
  devAddr : dev.devAddr = devAddr

/-! ## The descriptor -/

section Fields

variable {descriptor : List UInt8}

theorem byteAt_of_byte {k : Nat} {b : UInt8} (there : (Ptr.ofList descriptor).byte k = some b) :
    byteAt descriptor k = b.toNat := by
  have there : descriptor[k]? = some b := there
  rw [byteAt, List.getD_eq_getElem?_getD, there]
  rfl

theorem wordAt_of_word {k : Nat} {word : UInt16}
    (there : (Ptr.ofList descriptor).word k = some word) : wordAt descriptor k = word.toNat := by
  obtain ⟨low, atLow, rest⟩ := Option.bind_eq_some_iff.mp there
  obtain ⟨high, atHigh, same⟩ := Option.bind_eq_some_iff.mp rest
  cases same
  have lowByte := low.toNat_lt
  have highByte := high.toNat_lt
  have fits : low.toNat + 256 * high.toNat < UInt16.size := by
    rw [UInt16.size]
    omega
  rw [wordAt, byteAt_of_byte atLow, byteAt_of_byte atHigh, UInt16.toNat_ofNat_of_lt' fits]

/-- The members of a device descriptor are the bytes in order. -/
theorem Ptr.fields_of_deviceDescriptor {p : Ptr} {d : UsbdDeviceDescriptor}
    (layout : p.deviceDescriptor = some d) :
    p.word 2 = some d.bcdUSB ∧ p.byte 4 = some d.bDeviceClass ∧
      p.byte 5 = some d.bDeviceSubClass ∧ p.byte 6 = some d.bDeviceProtocol ∧
      p.byte 7 = some d.bMaxPacketSize0 ∧ p.word 8 = some d.idVendor ∧
      p.word 10 = some d.idProduct ∧ p.word 12 = some d.bcdDevice ∧
      p.byte 14 = some d.iManufacturer ∧ p.byte 15 = some d.iProduct ∧
      p.byte 16 = some d.iSerialNumber := by
  unfold Ptr.deviceDescriptor at layout
  obtain ⟨_, _, layout⟩ := Option.bind_eq_some_iff.mp layout
  obtain ⟨_, _, layout⟩ := Option.bind_eq_some_iff.mp layout
  obtain ⟨_, bcdUSB, layout⟩ := Option.bind_eq_some_iff.mp layout
  obtain ⟨_, klass, layout⟩ := Option.bind_eq_some_iff.mp layout
  obtain ⟨_, subClass, layout⟩ := Option.bind_eq_some_iff.mp layout
  obtain ⟨_, protocol, layout⟩ := Option.bind_eq_some_iff.mp layout
  obtain ⟨_, packet, layout⟩ := Option.bind_eq_some_iff.mp layout
  obtain ⟨_, vendor, layout⟩ := Option.bind_eq_some_iff.mp layout
  obtain ⟨_, product, layout⟩ := Option.bind_eq_some_iff.mp layout
  obtain ⟨_, bcdDevice, layout⟩ := Option.bind_eq_some_iff.mp layout
  obtain ⟨_, manufacturer, layout⟩ := Option.bind_eq_some_iff.mp layout
  obtain ⟨_, productName, layout⟩ := Option.bind_eq_some_iff.mp layout
  obtain ⟨_, serial, layout⟩ := Option.bind_eq_some_iff.mp layout
  obtain ⟨_, _, layout⟩ := Option.bind_eq_some_iff.mp layout
  cases layout
  exact ⟨bcdUSB, klass, subClass, protocol, packet, vendor, product, bcdDevice, manufacturer,
    productName, serial⟩

/-- The device has what `ParseDeviceDescriptor` stores of the descriptor, and the address. -/
structure Carries (d : UsbdDeviceDescriptor) (busNum devAddr : UInt8) (dev : UsbDevice) :
    Prop where
  bcdUSB : dev.bcdUSB = d.bcdUSB
  klass : dev.klass = int32OfByte d.bDeviceClass
  subClass : dev.subClass = int32OfByte d.bDeviceSubClass
  protocol : dev.protocol = 0
  bMaxPacketSize0 : dev.bMaxPacketSize0 = d.bMaxPacketSize0
  vendorId : dev.vendorId = int32OfWord d.idVendor
  productId : dev.productId = int32OfWord d.idProduct
  bcdDevice : dev.bcdDevice = d.bcdDevice
  iManufacturer : dev.iManufacturer = d.iManufacturer
  iProduct : dev.iProduct = d.iProduct
  iSerialNumber : dev.iSerialNumber = d.iSerialNumber
  busNum : dev.busNum = busNum
  devAddr : dev.devAddr = devAddr

variable {d : UsbdDeviceDescriptor} {busNum devAddr : UInt8} {dev : UsbDevice}

/-- Such a device has the numbers of the descriptor exactly if the protocol is zero. -/
theorem Carries.identifies_iff (carries : Carries d busNum devAddr dev)
    (layout : (Ptr.ofList descriptor).deviceDescriptor = some d) :
    Identifies descriptor busNum devAddr dev ↔ byteAt descriptor 6 = 0 := by
  obtain ⟨bcdUSB, klass, subClass, protocol, packet, vendor, product, bcdDevice, manufacturer,
    productName, serial⟩ := Ptr.fields_of_deviceDescriptor layout
  constructor
  · intro identifies
    have same := identifies.protocol
    rw [carries.protocol] at same
    exact Int.ofNat.inj same.symm
  · intro zero
    refine ⟨?_, ?_, ?_, ?_, ?_, ?_, ?_, ?_, ?_, ?_, ?_, carries.busNum, carries.devAddr⟩
    · rw [carries.bcdUSB, wordAt_of_word bcdUSB]
    · rw [carries.klass, toInt_int32OfByte, byteAt_of_byte klass]
    · rw [carries.subClass, toInt_int32OfByte, byteAt_of_byte subClass]
    · rw [carries.protocol, zero]
      rfl
    · rw [carries.bMaxPacketSize0, byteAt_of_byte packet]
    · rw [carries.vendorId, toInt_int32OfWord, wordAt_of_word vendor]
    · rw [carries.productId, toInt_int32OfWord, wordAt_of_word product]
    · rw [carries.bcdDevice, wordAt_of_word bcdDevice]
    · rw [carries.iManufacturer, byteAt_of_byte manufacturer]
    · rw [carries.iProduct, byteAt_of_byte productName]
    · rw [carries.iSerialNumber, byteAt_of_byte serial]

/-- Nothing of it is lost on the way to the client. -/
theorem Carries.transmitted (carries : Carries d busNum devAddr dev) :
    Carries d busNum devAddr dev.transmitted :=
  ⟨carries.bcdUSB, carries.klass, carries.subClass, carries.protocol, carries.bMaxPacketSize0,
    carries.vendorId, carries.productId, carries.bcdDevice, carries.iManufacturer,
    carries.iProduct, carries.iSerialNumber, carries.busNum, carries.devAddr⟩

end Fields

/-- What is attached of an accepted descriptor. -/
theorem carries_of_info {usbd : Usbd} {busNum devAddr : UInt8} {w w' : World} {dev : UsbDevice}
    (info : (getDeviceInfo usbd busNum devAddr zeroDevice w).Returns ((.UEC_OK, dev), w'))
    (read : (rawRead usbd busNum devAddr w).1.ret = .UEC_OK)
    (accepted : Accepted (rawDescriptor usbd busNum devAddr w)) :
    ∃ d, (Ptr.ofList (rawDescriptor usbd busNum devAddr w)).deviceDescriptor = some d ∧
      Carries d busNum devAddr dev := by
  obtain ⟨d, layout, _, first⟩ :=
    getDeviceInfoDescriptor_accepted rawRead_eq read accepted zeroDevice
  obtain ⟨w₂, configured⟩ := configured_of_described info first
  obtain ⟨configs, rfl, _⟩ := getConfigDescriptor_ok configured
  exact ⟨d, layout, rfl, rfl, rfl, rfl, rfl, rfl, rfl, rfl, rfl, rfl, rfl, rfl, rfl⟩

/-! ## The client -/

section Client

variable {β : Type} (data : MessageParcel β) (junk : Uninitialised)

/-- A client that gets the devices finds one at this address, with the numbers of the
descriptor. -/
def Identified (descriptor : List UInt8) (busNum devAddr : UInt8) (s : DeviceService) : Prop :=
  ∃ devices received client, (s.getDevices []).Returns (.UEC_OK, devices) ∧
    Transmits data junk devices received ∧
    received.filter (fun dev => dev.busNum = busNum ∧ dev.devAddr = devAddr) = [client] ∧
    Identifies descriptor busNum devAddr client

variable {data} {units : (t : ParcelType) → t.Value → List β} {usbd : Usbd}
  {s s₁ s' : DeviceService} {busNum devAddr : UInt8} {dev : UsbDevice}
  {history later : List DeviceLabel}

open DeviceService

/-- The device that is found is the one that was attached, as transmitted. -/
theorem identified_iff_transmitted (faithful : data.Faithful units) (sameWidth : SameWidth units)
    (run : Run (Step usbd) {} history s) (step : Step usbd s (.attached busNum devAddr dev) s₁)
    (rest : Run (Step usbd) s₁ later s') (address : dev.busNum = busNum ∧ dev.devAddr = devAddr)
    (kept : ∀ label ∈ later, label.under? (deviceName busNum devAddr) = none)
    (descriptor : List UInt8) :
    Identified data junk descriptor busNum devAddr s' ↔
      Identifies descriptor busNum devAddr dev.transmitted := by
  obtain ⟨devices, got, few, each, listed⟩ := served ((run.step step).append rest)
  have transmits : Transmits data junk devices (devices.map UsbDevice.transmitted) :=
    transmits_transmitted faithful sameWidth few (fun dev there => (each dev there).1)
      fun dev there => (each dev there).2
  have stored : storedUnder (deviceName busNum devAddr)
      (history ++ [.attached busNum devAddr dev] ++ later) = some dev := by
    obtain ⟨rfl, rfl⟩ := address
    exact storedUnder_attached history kept
  have found : (devices.map UsbDevice.transmitted).filter
      (fun dev => dev.busNum = busNum ∧ dev.devAddr = devAddr) = [dev.transmitted] := by
    have one := listed (deviceName busNum devAddr)
    rw [stored] at one
    rw [List.filter_map]
    refine congrArg (List.map UsbDevice.transmitted) (Eq.trans ?_ one)
    refine List.filter_congr fun dev _ => ?_
    rw [Bool.eq_iff_iff, Function.comp_apply, decide_eq_true_iff, decide_eq_true_iff,
      deviceName_inj]
    rfl
  constructor
  · intro identified
    obtain ⟨devices', received, client, got', transmits', found', identifies⟩ := identified
    obtain rfl : devices' = devices := congrArg Prod.snd (got'.unique got)
    obtain rfl := transmits'.unique transmits
    obtain rfl := List.singleton_inj.mp (found'.symm.trans found)
    exact identifies
  · exact fun identifies => ⟨devices, _, _, got, transmits, found, identifies⟩

/-- What is attached where the descriptor was read and accepted. -/
theorem carries_of_attached (step : Step usbd s (.attached busNum devAddr dev) s₁)
    (succeeds : Succeeds usbd s (.attached busNum devAddr dev)) :
    (dev.busNum = busNum ∧ dev.devAddr = devAddr) ∧
      ∃ d, (Ptr.ofList (rawDescriptor usbd busNum devAddr s.world)).deviceDescriptor = some d ∧
        Carries d busNum devAddr dev := by
  cases step with
  | attached got _ =>
    exact ⟨address_of_succeeds got succeeds, carries_of_info got succeeds.1 succeeds.2⟩

end Client

namespace DeviceService

variable {usbd : Usbd} {s s₁ s' : DeviceService} {busNum devAddr : UInt8} {dev : UsbDevice}
  {history later : List DeviceLabel}

/-- What was attached of a descriptor a client finds with all its numbers exactly if the
descriptor's protocol is zero: `ParseDeviceDescriptor` does not set it. -/
theorem identified_iff {β : Type} {data : MessageParcel β}
    {units : (t : ParcelType) → t.Value → List β} (faithful : data.Faithful units)
    (sameWidth : SameWidth units) (junk : Uninitialised)
    (run : Run (Step usbd) {} history s) (step : Step usbd s (.attached busNum devAddr dev) s₁)
    (succeeds : Succeeds usbd s (.attached busNum devAddr dev))
    (rest : Run (Step usbd) s₁ later s')
    (kept : ∀ label ∈ later, label.under? (deviceName busNum devAddr) = none) :
    Identified data junk (rawDescriptor usbd busNum devAddr s.world) busNum devAddr s' ↔
      byteAt (rawDescriptor usbd busNum devAddr s.world) 6 = 0 := by
  obtain ⟨address, d, layout, carries⟩ := carries_of_attached step succeeds
  rw [identified_iff_transmitted junk faithful sameWidth run step rest address kept]
  exact carries.transmitted.identifies_iff layout

theorem identified_bare :
    ∃ dev s, Step (bare 0) {} (.attached 1 2 dev) s ∧
      Identified slotParcel ⟨7, 7⟩ (bareDescriptor 0) 1 2 s := by
  obtain ⟨dev, s, step, _⟩ := @attaches_bare {} {} 0 .empty 1 2
  exact ⟨dev, s, step.2, (identified_iff faithful_slotParcel sameWidth_slots ⟨7, 7⟩ .start step.2
    step.1 .start (fun _ there => by cases there)).mpr rfl⟩

/-- A device whose protocol is one. -/
theorem not_identified_bare :
    ¬ ∀ usbd history s busNum devAddr dev s', Run (Step usbd) {} history s →
      Step usbd s (.attached busNum devAddr dev) s' →
      Succeeds usbd s (.attached busNum devAddr dev) →
      Identified slotParcel ⟨7, 7⟩ (rawDescriptor usbd busNum devAddr s.world) busNum devAddr
        s' := by
  intro all
  obtain ⟨dev, s, step, _⟩ := @attaches_bare {} {} 1 .empty 1 2
  have identified := all (bare 1) [] {} 1 2 dev s .start step.2 step.1
  obtain ⟨address, d, layout, carries⟩ := carries_of_attached step.2 step.1
  rw [identified_iff_transmitted ⟨7, 7⟩ faithful_slotParcel sameWidth_slots .start step.2 .start
    address (fun _ there => by cases there)] at identified
  rw [carries.transmitted.identifies_iff layout] at identified
  exact absurd identified (by decide)

end DeviceService

end UsbManager

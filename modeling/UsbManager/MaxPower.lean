import UsbManager.DeviceJson
import UsbManager.Identity

/-!
# The maximum power of a configuration

A descriptor has it in units of 2 mA.  `GetMaxPower` doubles what `SetMaxPower` has
stored, and the writer of a device list writes what `GetMaxPower` returns where the
event of the device has what is stored.  `samePower_iff` says where all agree.
-/

namespace UsbManager

open UsbService UsbDescriptorParser UsbServerStub UsbServerProxy

/-- What doubles to nothing: nothing, and the least number. -/
theorem USBConfig.getMaxPower_eq_zero (config : USBConfig) :
    config.getMaxPower = 0 ↔ config.maxPower = 0 ∨ config.maxPower = Int32.minValue := by
  rw [getMaxPower, ← Int32.toBitVec_inj, ← Int32.toBitVec_inj, ← Int32.toBitVec_inj,
    ← BitVec.toNat_inj, ← BitVec.toNat_inj, ← BitVec.toNat_inj, Int32.toBitVec_mul,
    BitVec.toNat_mul]
  change config.maxPower.toBitVec.toNat * 2 % 4294967296 = 0 ↔
    config.maxPower.toBitVec.toNat = 0 ∨ config.maxPower.toBitVec.toNat = 2147483648
  have width := config.maxPower.toBitVec.isLt
  omega

/-- The configuration number `i` of the device number `k`. -/
def configAt (deviceList : List UsbDevice) (k i : Nat) : Option USBConfig :=
  deviceList[k]?.bind fun dev => dev.configs[i]?

/-- Its maximum power. -/
def powerAt (deviceList : List UsbDevice) (k i : Nat) : Option Int :=
  (configAt deviceList k i).map fun config => config.getMaxPower.toInt

/-- A change to each configuration of each device. -/
theorem configAt_map {change : UsbDevice → UsbDevice} {part : USBConfig → USBConfig}
    (configs : ∀ dev, (change dev).configs = dev.configs.map part) (deviceList : List UsbDevice)
    (k i : Nat) :
    configAt (deviceList.map change) k i = (configAt deviceList k i).map part := by
  unfold configAt
  rw [List.getElem?_map]
  cases deviceList[k]? with
  | none => rfl
  | some dev =>
    change (change dev).configs[i]? = dev.configs[i]?.map part
    rw [configs, List.getElem?_map]

section Hops

variable {β : Type} (data : MessageParcel β) (junk : Uninitialised)

/-- The maximum power of a configuration of the service is the same in the event of its
device, and in the list a client has after it was forwarded any number of times. -/
structure SamePower (deviceList : List UsbDevice) (k i : Nat) (power : Int) : Prop where
  service : powerAt deviceList k i = some power
  event : ∃ dev rebuilt, deviceList[k]? = some dev ∧
    UsbDevice.ofJson dev.toJson = some rebuilt ∧ powerAt [rebuilt] 0 i = some power
  forwarded : ∀ n, ∃ received, Forwarded data junk deviceList n received ∧
    powerAt received k i = some power

variable {data junk} {units : (t : ParcelType) → t.Value → List β} {deviceList : List UsbDevice}
  {k i : Nat} {config : USBConfig}

/-- Each time it is transmitted it doubles. -/
theorem powerAt_received (there : configAt deviceList k i = some config) :
    powerAt (deviceList.map UsbDevice.received) k i = some (config.getMaxPower * 2).toInt := by
  unfold powerAt
  rw [@configAt_map UsbDevice.received USBConfig.received fun dev => rfl, there]
  rfl

/-- In the event it is what it was. -/
theorem powerAt_event (there : configAt deviceList k i = some config) :
    ∃ dev rebuilt, deviceList[k]? = some dev ∧ UsbDevice.ofJson dev.toJson = some rebuilt ∧
      powerAt [rebuilt] 0 i = some config.getMaxPower.toInt := by
  obtain ⟨dev, inList, inDevice⟩ := Option.bind_eq_some_iff.mp there
  refine ⟨dev, dev.shown, inList, dev.ofJson_toJson, ?_⟩
  change (dev.configs.map USBConfig.shown)[i]?.map _ = _
  rw [List.getElem?_map, inDevice]
  rfl

/-- Nothing stays nothing. -/
theorem forwarded_zero (faithful : data.Faithful units) (sameWidth : SameWidth units)
    (few : deviceList.length < 2 ^ 31) (countable : ∀ dev ∈ deviceList, dev.Countable)
    (there : configAt deviceList k i = some config) (zero : config.getMaxPower = 0) (n : Nat) :
    ∃ received, Forwarded data junk deviceList n received ∧ received.length < 2 ^ 31 ∧
      (∀ dev ∈ received, dev.Countable) ∧
      ∃ config, configAt received k i = some config ∧ config.getMaxPower = 0 := by
  induction n with
  | zero => exact ⟨deviceList, .sent, few, countable, config, there, zero⟩
  | succ n ih =>
    obtain ⟨received, forwarded, few, countable, config, there, zero⟩ := ih
    have transmits := @transmits_received β data junk _ _ faithful sameWidth few countable
    refine ⟨_, forwarded.again transmits, ?_, ?_, config.received, ?_, ?_⟩
    · rwa [List.length_map]
    · exact List.forall_mem_map.mpr fun dev there => (countable dev there).received
    · rw [@configAt_map UsbDevice.received USBConfig.received fun dev => rfl, there]
      rfl
    · change config.getMaxPower * 2 = 0
      rw [zero]
      rfl

/-- All agree exactly on nothing. -/
theorem samePower_iff_zero (faithful : data.Faithful units) (sameWidth : SameWidth units)
    (few : deviceList.length < 2 ^ 31) (countable : ∀ dev ∈ deviceList, dev.Countable)
    (there : configAt deviceList k i = some config) :
    SamePower data junk deviceList k i config.getMaxPower.toInt ↔ config.getMaxPower = 0 := by
  constructor
  · intro same
    obtain ⟨received, forwarded, power⟩ := same.forwarded 1
    cases forwarded with
    | again before transmits =>
      cases before
      obtain rfl := transmits.unique (transmits_received faithful sameWidth few countable)
      rw [powerAt_received there, Int32.mul_two] at power
      exact Int32.add_eq_right.mp (Int32.toInt_inj.mp (Option.some.inj power))
  · intro zero
    refine ⟨by rw [powerAt, there]; rfl, powerAt_event there, fun n => ?_⟩
    obtain ⟨received, forwarded, _, _, config', found, zero'⟩ :=
      forwarded_zero faithful sameWidth few countable there zero n
    refine ⟨received, forwarded, ?_⟩
    rw [powerAt, found, zero]
    exact congrArg (fun power : Int32 => some power.toInt) zero'

/-! ## From the descriptor on -/

variable {usbd : Usbd} {busNum devAddr : UInt8} {dev : UsbDevice}

/-- The maximum power of an attached device's configuration is twice the byte of its
descriptor. -/
theorem power_of_info {w w' : World}
    (info : (getDeviceInfo usbd busNum devAddr zeroDevice w).Returns ((.UEC_OK, dev), w'))
    (there : config ∈ dev.configs) :
    config.getMaxPower.toInt = 2 * byteAt (rawDescriptor usbd busNum devAddr w) 26 := by
  obtain ⟨cfg, listed, _, same, announces, _⟩ := config_of_info info there
  have raw : config.maxPower = int32OfByte cfg.bMaxPower := congrArg USBConfig.maxPower same
  have byte : (Ptr.ofList (rawDescriptor usbd busNum devAddr w)).byte 26 = some cfg.bMaxPower :=
    Ptr.byte_8_of_configDescriptor announces.2.1
  have small := cfg.bMaxPower.toNat_lt
  rw [USBConfig.getMaxPower, raw, byteAt_of_byte byte, Int32.toInt_mul, toInt_int32OfByte]
  change Int.bmod (_ * 2) (2 ^ 32) = _
  rw [Int.bmod_eq_of_le] <;> omega

open DeviceService

variable {s s₁ s' : DeviceService} {history later : List DeviceLabel}

/-- All agree on the configuration of a device that was attached exactly if its
descriptor says nothing. -/
theorem samePower_iff_of_attached (faithful : data.Faithful units) (sameWidth : SameWidth units)
    (run : Run (Step usbd) {} history s) (step : Step usbd s (.attached busNum devAddr dev) s₁)
    (rest : Run (Step usbd) s₁ later s')
    (kept : ∀ label ∈ later, label.under? (deviceName dev.busNum dev.devAddr) = none)
    (there : dev.configs[i]? = some config) :
    (∃ devices k, (s'.getDevices []).Returns (.UEC_OK, devices) ∧ devices[k]? = some dev ∧
      SamePower data junk devices k i
        (2 * byteAt (rawDescriptor usbd busNum devAddr s.world) 26)) ↔
      byteAt (rawDescriptor usbd busNum devAddr s.world) 26 = 0 := by
  have power : config.getMaxPower.toInt =
      2 * byteAt (rawDescriptor usbd busNum devAddr s.world) 26 := by
    cases step with
    | attached got _ => exact power_of_info got (List.mem_of_getElem? there)
  have zero : config.getMaxPower = 0 ↔
      byteAt (rawDescriptor usbd busNum devAddr s.world) 26 = 0 := by
    rw [← Int32.toInt_inj, power, Int32.toInt_zero]
    omega
  obtain ⟨devices, got, few, each, listed⟩ := served ((run.step step).append rest)
  have countable : ∀ dev ∈ devices, dev.Countable := fun dev there => (each dev there).1
  rw [← zero, ← power]
  constructor
  · intro same
    obtain ⟨devices', k, got', inList, same⟩ := same
    obtain rfl : devices' = devices := congrArg Prod.snd (got'.unique got)
    have found : configAt devices' k i = some config := by
      rw [configAt, inList]
      exact there
    exact (samePower_iff_zero faithful sameWidth few countable found).mp same
  · intro zero
    have one := listed (deviceName dev.busNum dev.devAddr)
    rw [storedUnder_attached history kept] at one
    have stored : dev ∈ (some dev).toList := List.mem_singleton_self dev
    rw [← one] at stored
    obtain ⟨k, inList⟩ := List.mem_iff_getElem?.mp (List.mem_of_mem_filter stored)
    have found : configAt devices k i = some config := by
      rw [configAt, inList]
      exact there
    exact ⟨devices, k, got, inList,
      (samePower_iff_zero faithful sameWidth few countable found).mpr zero⟩

end Hops

/-- The maximum power of a configuration is the same at every hop exactly if it is
nothing: for a device that was attached, if the byte of its descriptor is zero. -/
theorem samePower_iff {β : Type} {data : MessageParcel β}
    {units : (t : ParcelType) → t.Value → List β} (faithful : data.Faithful units)
    (sameWidth : SameWidth units) (junk : Uninitialised) :
    (∀ usbd history later s s₁ s' busNum devAddr dev i config,
      Run (DeviceService.Step usbd) {} history s →
      DeviceService.Step usbd s (.attached busNum devAddr dev) s₁ →
      Run (DeviceService.Step usbd) s₁ later s' →
      (∀ label ∈ later, label.under? (deviceName dev.busNum dev.devAddr) = none) →
      dev.configs[i]? = some config →
      ((∃ devices k, (s'.getDevices []).Returns (.UEC_OK, devices) ∧ devices[k]? = some dev ∧
        SamePower data junk devices k i
          (2 * byteAt (rawDescriptor usbd busNum devAddr s.world) 26)) ↔
        byteAt (rawDescriptor usbd busNum devAddr s.world) 26 = 0)) ∧
    ∀ deviceList k i config, deviceList.length < 2 ^ 31 → (∀ dev ∈ deviceList, dev.Countable) →
      configAt deviceList k i = some config →
      (SamePower data junk deviceList k i config.getMaxPower.toInt ↔
        config.maxPower = 0 ∨ config.maxPower = Int32.minValue) := by
  refine ⟨?_, ?_⟩
  · intro usbd history later s s₁ s' busNum devAddr dev i config run step rest kept there
    exact samePower_iff_of_attached faithful sameWidth run step rest kept there
  · intro deviceList k i config few countable there
    rw [samePower_iff_zero faithful sameWidth few countable there]
    exact config.getMaxPower_eq_zero

/-! ### One configuration -/

/-- A configuration that needs this much. -/
def poweredBlock (bMaxPower : UInt8) : ConfigBlock :=
  { bulkBlock with descriptor := { bulkBlock.descriptor with bMaxPower } }

/-- A device with that configuration. -/
def powered (bMaxPower : UInt8) : RawDescriptor where
  device := bulkDevice [poweredBlock bMaxPower]
  blocks := [poweredBlock bMaxPower]
  bLength := rfl
  bDescriptorType := rfl
  bNumConfigurations := rfl
  one_le := List.length_pos_of_mem (List.mem_singleton_self (poweredBlock bMaxPower))
  wTotalLength := List.forall_mem_singleton.mpr rfl

/-- It is attached with its configuration. -/
theorem attaches_powered (bMaxPower : UInt8) :
    ∃ dev s config, DeviceService.Step (attachedUsbd (powered bMaxPower)) {}
      (.attached 1 2 dev) s ∧ dev.configs[0]? = some config := by
  have length := ((powered bMaxPower).length_block (List.mem_singleton_self _)).2
  obtain ⟨cursor, listed, parsed⟩ :=
    @returns_parse_alone (poweredBlock bMaxPower) false (by omega) (.inr rfl)
  have segmented : Segmented (attachedUsbd (powered bMaxPower)) ⟨1, 2⟩ (powered bMaxPower)
      zeroDevice (opened (attachedUsbd (powered bMaxPower)) 1 2 {}).2 :=
    (segmented_iff_parse rfl rfl).mpr ⟨_, cursor, _, rfl, parsed⟩
  obtain ⟨dev, w, got, builds⟩ := info_of_segmented rfl segmented
  obtain ⟨s, added, _⟩ := @DeviceService.addDevice_of_represents _ {} {} _ _ _ _ .empty got
  obtain ⟨config, _, _, _, same⟩ := List.forall₂_cons_left_iff.mp builds
  refine ⟨dev, s, config, .attached got added, ?_⟩
  rw [same]
  rfl

theorem samePower_powered :
    ∃ dev s, DeviceService.Step (attachedUsbd (powered 0)) {} (.attached 1 2 dev) s ∧
      (∃ devices k, (s.getDevices []).Returns (.UEC_OK, devices) ∧ devices[k]? = some dev ∧
        SamePower slotParcel ⟨7, 7⟩ devices k 0 0) ∧
      SamePower slotParcel ⟨7, 7⟩ [{ configs := [{ maxPower := 0 }] }] 0 0 0 := by
  obtain ⟨dev, s, config, step, there⟩ := attaches_powered 0
  have both := samePower_iff faithful_slotParcel sameWidth_slots ⟨7, 7⟩
  refine ⟨dev, s, step, ?_, ?_⟩
  · exact (both.1 _ _ _ _ _ _ _ _ _ _ _ .start step .start (fun _ later => by cases later)
      there).mpr rfl
  · refine (both.2 [{ configs := [{ maxPower := 0 }] }] 0 0 { maxPower := 0 } (by decide) ?_
      rfl).mpr (.inl rfl)
    simp [UsbDevice.Countable, USBConfig.Countable]

/-- A configuration that needs 100 mA. -/
theorem not_samePower_powered :
    ¬ ∀ usbd history s busNum devAddr dev i config s', Run (DeviceService.Step usbd) {} history s →
      DeviceService.Step usbd s (.attached busNum devAddr dev) s' →
      dev.configs[i]? = some config →
      ∃ devices k, (s'.getDevices []).Returns (.UEC_OK, devices) ∧ devices[k]? = some dev ∧
        SamePower slotParcel ⟨7, 7⟩ devices k i
          (2 * byteAt (rawDescriptor usbd busNum devAddr s.world) 26) := by
  intro all
  obtain ⟨dev, s, config, step, there⟩ := attaches_powered 50
  have same := all _ _ _ _ _ _ _ _ _ .start step there
  rw [samePower_iff_of_attached faithful_slotParcel sameWidth_slots .start step .start
    (fun _ later => by cases later) there] at same
  exact absurd same (by decide)

end UsbManager

import UsbManager.Attached
import UsbManager.DeviceEvents

/-!
# The device list of a client

A client reads the device list that the service has written to a parcel, and can
write it to another one.  Whatever the list is, as long as it can be counted, what
is read is known (`UsbDevice.received`).  The list of the service can be counted in
every run (`served`).
-/

namespace UsbManager

open UsbService UsbServerStub UsbServerProxy

/-! ## What is received -/

/-- The interface as it is received: its endpoints have its id, as a byte. -/
def UsbInterface.received (interface : UsbInterface) : UsbInterface :=
  { interface with
    endpoints := interface.endpoints.map fun ep =>
      { ep with interfaceId := byteOfInt32 interface.id } }

/-- The configuration as it is received. -/
def USBConfig.received (config : USBConfig) : USBConfig :=
  { config with
    maxPower := config.getMaxPower
    interfaces := config.interfaces.map UsbInterface.received }

/-- The device as it is received. -/
def UsbDevice.received (dev : UsbDevice) : UsbDevice :=
  { dev with
    descConfigCount := UINT8_MAX
    configs := dev.configs.map USBConfig.received }

theorem UsbDevice.received_received (dev : UsbDevice) : dev.received.Received := by
  refine ⟨rfl, fun config there interface inConfig ep inInterface => ?_⟩
  obtain ⟨config, _, rfl⟩ := List.mem_map.mp there
  obtain ⟨interface, _, rfl⟩ := List.mem_map.mp inConfig
  obtain ⟨ep, _, rfl⟩ := List.mem_map.mp inInterface
  rfl

theorem USBConfig.Countable.received {config : USBConfig} (countable : config.Countable) :
    config.received.Countable := by
  obtain ⟨few, each⟩ := countable
  refine ⟨?_, fun interface there => ?_⟩
  · change (config.interfaces.map UsbInterface.received).length < 2 ^ 31
    rwa [List.length_map]
  · obtain ⟨interface, inside, rfl⟩ := List.mem_map.mp there
    change (interface.endpoints.map _).length < 2 ^ 31
    rw [List.length_map]
    exact each interface inside

theorem UsbDevice.Countable.received {dev : UsbDevice} (countable : dev.Countable) :
    dev.received.Countable := by
  obtain ⟨few, each⟩ := countable
  refine ⟨?_, fun config there => ?_⟩
  · change (dev.configs.map USBConfig.received).length < 2 ^ 32
    rwa [List.length_map]
  · obtain ⟨config, inside, rfl⟩ := List.mem_map.mp there
    exact (each config inside).received

/-! The ids of the endpoints are not transmitted. -/

theorem interfaceValues_received (interface : UsbInterface) :
    interfaceValues interface.received = interfaceValues interface := by
  have endpoints : interface.received.endpoints.flatMap endpointValues =
      interface.endpoints.flatMap endpointValues := List.flatMap_map ..
  unfold interfaceValues
  rw [endpoints]
  simp [UsbInterface.received]

theorem configValues_received (config : USBConfig) :
    configValues config.received = configValues config.transmitted := by
  have interfaces : config.received.interfaces.flatMap interfaceValues =
      config.interfaces.flatMap interfaceValues := by
    refine (List.flatMap_map ..).trans ?_
    exact congrArg config.interfaces.flatMap (funext interfaceValues_received)
  unfold configValues
  rw [interfaces]
  simp [USBConfig.received, USBConfig.transmitted]

theorem deviceValues_received (dev : UsbDevice) :
    deviceValues dev.received = deviceValues dev.transmitted := by
  have configs : dev.received.configs.flatMap configValues =
      dev.transmitted.configs.flatMap configValues := by
    refine (List.flatMap_map ..).trans (Eq.trans ?_ (List.flatMap_map ..).symm)
    exact congrArg dev.configs.flatMap (funext configValues_received)
  unfold deviceValues
  rw [configs]
  simp [UsbDevice.received, UsbDevice.transmitted]

theorem deviceListValues_received (deviceList : List UsbDevice) :
    deviceListValues (deviceList.map UsbDevice.received) =
      deviceListValues (deviceList.map UsbDevice.transmitted) := by
  unfold deviceListValues
  rw [List.flatMap_map, List.flatMap_map, List.length_map, List.length_map]
  exact congrArg (_ :: deviceList.flatMap ·) (funext deviceValues_received)

/-! ## Forwarding -/

section

variable {β : Type} (data : MessageParcel β) (junk : Uninitialised)

/-- A device list is written, and a reader reads this of it. -/
def Transmits (sent received : List UsbDevice) : Prop :=
  ∃ written, (setDeviceListMessageParcel data sent).Appends written () ∧
    (getDeviceListMessageParcel data junk).Consumes [] written () received

/-- A device list is transmitted as often as this, each time as it was read. -/
inductive Forwarded (sent : List UsbDevice) : Nat → List UsbDevice → Prop
  | sent : Forwarded sent 0 sent
  | again {n : Nat} {deviceList received : List UsbDevice} :
    Forwarded sent n deviceList → Transmits data junk deviceList received →
    Forwarded sent (n + 1) received

variable {data junk} {units : (t : ParcelType) → t.Value → List β} {deviceList : List UsbDevice}

/-- Only one list can be read. -/
theorem Transmits.unique {received received' : List UsbDevice}
    (left : Transmits data junk deviceList received)
    (right : Transmits data junk deviceList received') : received = received' := by
  obtain ⟨written, appends, consumes⟩ := left
  obtain ⟨written', appends', consumes'⟩ := right
  obtain rfl := appends.unique appends' ()
  exact consumes.unique consumes'

/-- What is read of a list whose parts can be counted. -/
theorem transmits_received (faithful : data.Faithful units) (sameWidth : SameWidth units)
    (few : deviceList.length < 2 ^ 31) (countable : ∀ dev ∈ deviceList, dev.Countable) :
    Transmits data junk deviceList (deviceList.map UsbDevice.received) := by
  refine ⟨_, appends_deviceList_of_few faithful few, ?_⟩
  have takes := @takes_deviceList β data junk (deviceList.map UsbDevice.received)
    (by rwa [List.length_map])
    (List.forall_mem_map.mpr fun dev there => (countable dev there).received)
    (List.forall_mem_map.mpr fun dev _ => dev.received_received) []
  have consumes := takes.consumes faithful
  rwa [deviceListValues_received, unitsOf_deviceList sameWidth] at consumes

/-- What is read of it if every endpoint has the id of its interface. -/
theorem transmits_transmitted (faithful : data.Faithful units) (sameWidth : SameWidth units)
    (few : deviceList.length < 2 ^ 31) (countable : ∀ dev ∈ deviceList, dev.Countable)
    (consistent : ∀ dev ∈ deviceList, dev.Consistent) :
    Transmits data junk deviceList (deviceList.map UsbDevice.transmitted) := by
  have appends := appends_deviceList_of_few faithful few
  have consumes := consumes_deviceList faithful sameWidth junk few countable consistent []
  exact ⟨_, appends, consumes⟩

end

/-! ## The list of the service -/

/-- At most one device of each name is no more than there are names. -/
theorem few_of_distinct {deviceList : List UsbDevice}
    (distinct : ∀ name, (deviceList.filter fun dev =>
      deviceName dev.busNum dev.devAddr = name).length ≤ 1) : deviceList.length < 2 ^ 31 := by
  let key (dev : UsbDevice) : Fin 256 × Fin 256 := (dev.busNum.toFin, dev.devAddr.toFin)
  have nodup : (deviceList.map key).Nodup := by
    refine List.nodup_iff_count_le_one.mpr fun pair => ?_
    refine le_trans ?_ (distinct (deviceName (UInt8.ofFin pair.1) (UInt8.ofFin pair.2)))
    rw [List.count, List.countP_map, List.countP_eq_length_filter]
    refine Nat.le_of_eq (congrArg List.length (List.filter_congr fun dev _ => ?_))
    rw [Bool.eq_iff_iff, Function.comp_apply, beq_iff_eq, decide_eq_true_iff, deviceName_inj, 
      Prod.ext_iff, ← UInt8.toFin_inj, ← UInt8.toFin_inj]
    rfl
  have few := nodup.length_le_card
  rw [List.length_map] at few
  simp only [Fintype.card_prod, Fintype.card_fin] at few
  omega

namespace DeviceService

variable {usbd : Usbd} {s : DeviceService} {history : List DeviceLabel}

/-- What is stored was read of a descriptor. -/
theorem read_of_storedUnder (run : Run (Step usbd) {} history s) {name : String} {dev : UsbDevice}
    (stored : storedUnder name history = some dev) :
    ∃ busNum devAddr w w',
      (getDeviceInfo usbd busNum devAddr zeroDevice w).Returns ((.UEC_OK, dev), w') := by
  induction run with
  | start => cases stored
  | @step history s s' label _ step ih =>
    cases step with
    | @attached busNum devAddr dev' w s' got added =>
      rw [storedUnder_concat_attached] at stored
      split at stored
      · cases stored
        exact ⟨busNum, devAddr, _, w, got⟩
      · exact ih stored
    | refused added =>
      rw [storedUnder_concat] at stored
      exact ih stored
    | @detached busNum devAddr ret s' deleted =>
      rw [storedUnder_concat_detached] at stored
      split at stored
      · cases stored
      · exact ih stored
    | told =>
      rw [storedUnder_concat] at stored
      exact ih stored

/-- An attached device stays until its name is used again. -/
theorem storedUnder_attached {busNum devAddr : UInt8} {dev : UsbDevice} {later : List DeviceLabel}
    (history : List DeviceLabel)
    (kept : ∀ label ∈ later, label.under? (deviceName dev.busNum dev.devAddr) = none) :
    storedUnder (deviceName dev.busNum dev.devAddr)
      (history ++ [.attached busNum devAddr dev] ++ later) = some dev := by
  have own : (DeviceLabel.attached busNum devAddr dev).under?
      (deviceName dev.busNum dev.devAddr) = some (some dev) := if_pos rfl
  rw [storedUnder, lastSome_append_of_silent _ kept, lastSome_concat, own]
  rfl

/-- In every run `GetDevices` lists what is stored, a list that can be counted. -/
theorem served (run : Run (Step usbd) {} history s) :
    ∃ devices, (s.getDevices []).Returns (.UEC_OK, devices) ∧ devices.length < 2 ^ 31 ∧
      (∀ dev ∈ devices, dev.Countable ∧ dev.Consistent) ∧
      ∀ name, devices.filter (fun dev => deviceName dev.busNum dev.devAddr = name) =
        (storedUnder name history).toList := by
  obtain ⟨v, rep, stored⟩ := Holds.run run
  obtain ⟨devices, read, inside, listed⟩ := rep.getDevices []
  have listed : ∀ name, devices.filter (fun dev => deviceName dev.busNum dev.devAddr = name) =
      (storedUnder name history).toList := fun name => stored name ▸ listed name
  refine ⟨devices, ?_, ?_, fun dev there => ?_, listed⟩
  · exact Prog.returns_bind.mpr ⟨_, Prog.returns_getOr.mpr read, Prog.returns_pure.mpr rfl⟩
  · refine few_of_distinct fun name => ?_
    rw [listed]
    cases storedUnder name history with
    | none => exact Nat.zero_le 1
    | some dev => exact Nat.le_refl 1
  · obtain ⟨busNum, devAddr, w, w', got⟩ :=
      read_of_storedUnder run ((stored _).symm.trans (inside dev there))
    exact ⟨countable_of_info got, consistent_of_info got⟩

end DeviceService

end UsbManager

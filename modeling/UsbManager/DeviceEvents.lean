import UsbManager.Attach
import UsbManager.DeviceManager
import UsbManager.DeviceParcel
import UsbManager.RightsTable
import UsbManager.Store

/-!
# The device store over whole runs

`UsbServiceSubscriber::DeviceEvent` attaches and detaches devices.  In a run of
such events the store means what the events say: a name stands for the device
of its last attach (`storedUnder`).  `tracked` is what a client sees of it where
all devices could be read, `alternates_iff` what a subscriber to the published
events does.
-/

namespace UsbManager

open UsbService UsbDescriptorParser

/-- The data of a device event. -/
structure UsbInfo where
  status : DeviceAct
  busNum : Int32
  devNum : Int32
  deriving DecidableEq, Repr

/-- `UsbService`, as far as it attaches and detaches devices. -/
structure DeviceService where
  calls : List UsbdCall := []
  host : UsbHostManager := {}

namespace DeviceService

variable (usbd : Usbd)

/-- What usbd has been asked. -/
def world (s : DeviceService) : World := { calls := s.calls }

/-- An operation of `UsbHostManager` on the store of the service. -/
def operate (thread : HostThread) (s : DeviceService) : Prog Fault (Bool × DeviceService) := do
  let (ret, host) ← Prog.getOr .outOfBounds (thread.run s.host)
  pure (ret, { s with host })

/-- `AddDevice` -/
def addDevice (busNum devAddr : UInt8) (s : DeviceService) : Prog Fault (Bool × DeviceService) := do
  let ((ret, devInfo), w) ← getDeviceInfo usbd busNum devAddr zeroDevice s.world
  if ret ≠ .UEC_OK then pure (false, { s with calls := w.calls })
  else
    let ptr : DevicePtr := some s.host.heap.next
    let s : DeviceService := { calls := w.calls, host := s.host.new devInfo }
    let (_, s) ← s.operate (UsbHostManager.addDevice ptr)
    pure (true, s)

/-- `DelDevice` -/
def delDevice (busNum devAddr : UInt8) (s : DeviceService) : Prog Fault (Bool × DeviceService) :=
  let (_, w) := close usbd busNum devAddr s.world
  let s : DeviceService := { s with calls := w.calls }
  s.operate (UsbHostManager.delDevice busNum devAddr)

/-- `GetDevices` -/
def getDevices (deviceList : List UsbDevice) (s : DeviceService) :
    Prog Fault (Uec × List UsbDevice) := do
  let deviceList ← Prog.getOr .outOfBounds (s.host.getDevices deviceList)
  pure (.UEC_OK, deviceList)

/-- `DeviceEvent`.  `UpdateDeviceState` does not touch the devices. -/
def deviceEvent (info : UsbInfo) (s : DeviceService) : Prog Fault (Uec × DeviceService) :=
  if .ACT_UPDEVICE = info.status ∨ .ACT_DOWNDEVICE = info.status then pure (.UEC_OK, s)
  else
    let busNum := byteOfInt32 info.busNum
    let devAddr := byteOfInt32 info.devNum
    if info.status = .ACT_DEVUP then do
      let (_, s) ← addDevice usbd busNum devAddr s
      pure (.UEC_OK, s)
    else do
      let (_, s) ← delDevice usbd busNum devAddr s
      pure (.UEC_OK, s)

end DeviceService

/-! ## Runs -/

/-- What became of a device event: a device was attached or not, one was detached, or
the state of the device side was told. -/
inductive DeviceLabel where
  | attached (busNum devAddr : UInt8) (dev : UsbDevice)
  | refused (busNum devAddr : UInt8)
  | detached (busNum devAddr : UInt8) (ret : Bool)
  | told
  deriving DecidableEq, Repr

namespace DeviceLabel

/-- It became of this event. -/
def Of (info : UsbInfo) : DeviceLabel → Prop
  | attached busNum devAddr _ =>
    info.status = .ACT_DEVUP ∧ busNum = byteOfInt32 info.busNum ∧ devAddr = byteOfInt32 info.devNum
  | refused busNum devAddr =>
    info.status = .ACT_DEVUP ∧ busNum = byteOfInt32 info.busNum ∧ devAddr = byteOfInt32 info.devNum
  | detached busNum devAddr _ =>
    info.status ∉ [.ACT_DEVUP, .ACT_UPDEVICE, .ACT_DOWNDEVICE] ∧
      busNum = byteOfInt32 info.busNum ∧ devAddr = byteOfInt32 info.devNum
  | told => info.status = .ACT_UPDEVICE ∨ info.status = .ACT_DOWNDEVICE

/-- What is attached at an address with this event. -/
def at? (busNum devAddr : UInt8) : DeviceLabel → Option (Option UsbDevice)
  | attached busNum' devAddr' dev =>
    if busNum' = busNum ∧ devAddr' = devAddr then some (some dev) else none
  | detached busNum' devAddr' _ =>
    if busNum' = busNum ∧ devAddr' = devAddr then some none else none
  | refused _ _ => none
  | told => none

/-- What is stored under a name with this event. -/
def under? (name : String) : DeviceLabel → Option (Option UsbDevice)
  | attached _ _ dev => if deviceName dev.busNum dev.devAddr = name then some (some dev) else none
  | detached busNum devAddr _ => if deviceName busNum devAddr = name then some none else none
  | refused _ _ => none
  | told => none

end DeviceLabel

/-- The device of the last attach at this address, if no detach followed. -/
def lastAttach (busNum devAddr : UInt8) (history : List DeviceLabel) : Option UsbDevice :=
  (lastSome (DeviceLabel.at? busNum devAddr) history).join

/-- The device of the last attach under this name, if no detach followed. -/
def storedUnder (name : String) (history : List DeviceLabel) : Option UsbDevice :=
  (lastSome (DeviceLabel.under? name) history).join

namespace DeviceService

/-- A device event is handled. -/
inductive Step (usbd : Usbd) (s : DeviceService) : DeviceLabel → DeviceService → Prop
  | attached {busNum devAddr : UInt8} {dev : UsbDevice} {w : World} {s' : DeviceService} :
    (getDeviceInfo usbd busNum devAddr zeroDevice s.world).Returns ((.UEC_OK, dev), w) →
    (addDevice usbd busNum devAddr s).Returns (true, s') →
    Step usbd s (.attached busNum devAddr dev) s'
  | refused {busNum devAddr : UInt8} {s' : DeviceService} :
    (addDevice usbd busNum devAddr s).Returns (false, s') →
    Step usbd s (.refused busNum devAddr) s'
  | detached {busNum devAddr : UInt8} {ret : Bool} {s' : DeviceService} :
    (delDevice usbd busNum devAddr s).Returns (ret, s') →
    Step usbd s (.detached busNum devAddr ret) s'
  | told : Step usbd s .told s

variable {usbd : Usbd} {s s' : DeviceService} {v : HostManager} {busNum devAddr : UInt8}
  {dev : UsbDevice} {w : World}

/-- Whether `GetDeviceInfo` succeeds is what `AddDevice` returns. -/
theorem returns_addDevice {added : Bool} :
    (addDevice usbd busNum devAddr s).Returns (added, s') →
      if added then ∃ dev w,
        (getDeviceInfo usbd busNum devAddr zeroDevice s.world).Returns ((.UEC_OK, dev), w)
      else s'.host = s.host := by
  intro returned
  obtain ⟨⟨⟨ret, dev⟩, w⟩, info, rest⟩ := Prog.returns_bind.mp returned
  rcases Prog.returns_ite.mp rest with ⟨_, rest⟩ | ⟨ok, rest⟩
  · obtain ⟨rfl, rfl⟩ := Prod.ext_iff.mp (Prog.returns_pure.mp rest)
    rfl
  · obtain rfl : ret = .UEC_OK := not_not.mp ok
    obtain ⟨_, _, rest⟩ := Prog.returns_bind.mp rest
    obtain ⟨rfl, rfl⟩ := Prod.ext_iff.mp (Prog.returns_pure.mp rest)
    exact ⟨dev, w, info⟩

/-- The steps are what device events do. -/
theorem returns_deviceEvent {info : UsbInfo} {ret : Uec} :
    (deviceEvent usbd info s).Returns (ret, s') ↔
      ret = .UEC_OK ∧ ∃ label : DeviceLabel, label.Of info ∧ Step usbd s label s' := by
  unfold deviceEvent
  rw [Prog.returns_ite, Prog.returns_ite]
  constructor
  · intro returned
    rcases returned with ⟨side, returned⟩ | ⟨side, ⟨up, returned⟩ | ⟨down, returned⟩⟩
    · cases Prog.returns_pure.mp returned
      exact ⟨rfl, .told, side.imp Eq.symm Eq.symm, .told⟩
    · obtain ⟨⟨added, s₁⟩, first, rest⟩ := Prog.returns_bind.mp returned
      cases Prog.returns_pure.mp rest
      refine ⟨rfl, ?_⟩
      cases added with
      | false => exact ⟨.refused _ _, ⟨up, rfl, rfl⟩, .refused first⟩
      | true =>
        obtain ⟨dev, w, got⟩ := returns_addDevice first
        exact ⟨.attached _ _ dev, ⟨up, rfl, rfl⟩, .attached got first⟩
    · obtain ⟨⟨ret, s₁⟩, first, rest⟩ := Prog.returns_bind.mp returned
      cases Prog.returns_pure.mp rest
      have other : info.status ∉ [.ACT_DEVUP, .ACT_UPDEVICE, .ACT_DOWNDEVICE] := by
        intro there
        rcases List.mem_cons.mp there with up | there
        · exact down up
        · exact side (by simpa [eq_comm] using there)
      exact ⟨rfl, .detached _ _ ret, ⟨other, rfl, rfl⟩, .detached first⟩
  · intro both
    obtain ⟨rfl, label, of, step⟩ := both
    cases step with
    | told => exact .inl ⟨of.imp Eq.symm Eq.symm, Prog.returns_pure.mpr rfl⟩
    | attached got added =>
      obtain ⟨up, rfl, rfl⟩ := of
      refine .inr ⟨by simp [up], .inl ⟨up, Prog.returns_bind.mpr ⟨_, added, ?_⟩⟩⟩
      exact Prog.returns_pure.mpr rfl
    | refused added =>
      obtain ⟨up, rfl, rfl⟩ := of
      refine .inr ⟨by simp [up], .inl ⟨up, Prog.returns_bind.mpr ⟨_, added, ?_⟩⟩⟩
      exact Prog.returns_pure.mpr rfl
    | detached deleted =>
      obtain ⟨other, rfl, rfl⟩ := of
      have down : ¬ info.status = .ACT_DEVUP := fun up => other (by simp [up])
      have side : ¬ (.ACT_UPDEVICE = info.status ∨ .ACT_DOWNDEVICE = info.status) := by
        intro told
        rcases told with told | told <;> exact other (by simp [← told])
      refine .inr ⟨side, .inr ⟨down, Prog.returns_bind.mpr ⟨_, deleted, ?_⟩⟩⟩
      exact Prog.returns_pure.mpr rfl

/-- `DelDevice` on a store that holds its devices. -/
theorem delDevice_of_represents (rep : Represents s.host v) (usbd : Usbd)
    (busNum devAddr : UInt8) :
    ∃ s', (delDevice usbd busNum devAddr s).Returns ((v.delDevice busNum devAddr).1, s') ∧
      Represents s'.host (v.delDevice busNum devAddr).2 := by
  obtain ⟨m', ran, rep'⟩ := rep.delDevice busNum devAddr
  refine ⟨⟨(close usbd busNum devAddr s.world).2.calls, m'⟩, ?_, rep'⟩
  exact Prog.returns_bind.mpr ⟨_, Prog.returns_getOr.mpr ran, Prog.returns_pure.mpr rfl⟩

/-- `AddDevice` of a device that was read, on a store that holds its devices. -/
theorem addDevice_of_represents (rep : Represents s.host v)
    (got : (getDeviceInfo usbd busNum devAddr zeroDevice s.world).Returns ((.UEC_OK, dev), w)) :
    ∃ s', (addDevice usbd busNum devAddr s).Returns (true, s') ∧
      Represents s'.host (v.addDevice dev).2 := by
  obtain ⟨m', ran, rep'⟩ := rep.addDevice_new dev
  refine ⟨⟨w.calls, m'⟩, Prog.returns_bind.mpr ⟨_, got, ?_⟩, rep'⟩
  dsimp only
  rw [if_neg (by simp)]
  refine Prog.returns_bind.mpr ⟨((v.addDevice dev).1, ⟨w.calls, m'⟩), ?_, Prog.returns_pure.mpr rfl⟩
  exact Prog.returns_bind.mpr ⟨_, Prog.returns_getOr.mpr ran, Prog.returns_pure.mpr rfl⟩

/-! ### What a run stores -/

/-- The store holds the devices that the events say. -/
def Holds (history : List DeviceLabel) (s : DeviceService) : Prop :=
  ∃ v, Represents s.host v ∧ ∀ name : String, v.devices[name]? = storedUnder name history

theorem storedUnder_concat (name : String) (history : List DeviceLabel) (label : DeviceLabel) :
    storedUnder name (history ++ [label]) =
      match label.under? name with
      | none => storedUnder name history
      | some stored => stored := by
  unfold storedUnder
  rw [lastSome_concat]
  cases label.under? name with
  | none => rfl
  | some stored => rfl

theorem storedUnder_concat_attached (name : String) (history : List DeviceLabel)
    (busNum devAddr : UInt8) (dev : UsbDevice) :
    storedUnder name (history ++ [.attached busNum devAddr dev]) =
      if deviceName dev.busNum dev.devAddr = name then some dev else storedUnder name history := by
  rw [storedUnder_concat, DeviceLabel.under?]
  by_cases own : deviceName dev.busNum dev.devAddr = name
  · rw [if_pos own, if_pos own]
  · rw [if_neg own, if_neg own]

theorem storedUnder_concat_detached (name : String) (history : List DeviceLabel)
    (busNum devAddr : UInt8) (ret : Bool) :
    storedUnder name (history ++ [.detached busNum devAddr ret]) =
      if deviceName busNum devAddr = name then none else storedUnder name history := by
  rw [storedUnder_concat, DeviceLabel.under?]
  by_cases own : deviceName busNum devAddr = name
  · rw [if_pos own, if_pos own]
  · rw [if_neg own, if_neg own]

/-- What the store holds after a step, and what the step has published. -/
theorem Step.represents {label : DeviceLabel} (rep : Represents s.host v)
    (step : Step usbd s label s') :
    ∃ v', Represents s'.host v' ∧
      (∀ name : String, v'.devices[name]? =
        match label.under? name with
        | none => v.devices[name]?
        | some stored => stored) ∧
      v'.events = v.events ++
        match label with
        | .attached _ _ dev => [.attached dev]
        | .detached busNum devAddr _ =>
          (v.devices[deviceName busNum devAddr]?.map CommonEvent.detached).toList
        | .refused _ _ => []
        | .told => [] := by
  cases step with
  | @attached busNum devAddr dev w s' got added =>
    obtain ⟨s'', added', rep'⟩ := addDevice_of_represents rep got
    cases added.unique added'
    refine ⟨_, rep', fun name => ?_, v.addDevice_events dev⟩
    rw [HostManager.getElem?_addDevice]
    by_cases same : deviceName dev.busNum dev.devAddr = name
    · simp [DeviceLabel.under?, same]
    · have other : ¬ name = deviceName dev.busNum dev.devAddr := fun eq => same eq.symm
      simp [DeviceLabel.under?, same, other]
  | refused added =>
    have kept : s'.host = s.host := returns_addDevice added
    exact ⟨v, kept ▸ rep, fun name => rfl, (List.append_nil _).symm⟩
  | @detached busNum devAddr ret s' deleted =>
    obtain ⟨s'', deleted', rep'⟩ := delDevice_of_represents rep usbd busNum devAddr
    cases deleted.unique deleted'
    refine ⟨_, rep', fun name => ?_, v.delDevice_events busNum devAddr⟩
    rw [HostManager.getElem?_delDevice]
    by_cases same : deviceName busNum devAddr = name
    · simp [DeviceLabel.under?, same]
    · have other : ¬ name = deviceName busNum devAddr := fun eq => same eq.symm
      simp [DeviceLabel.under?, same, other]
  | told => exact ⟨v, rep, fun name => rfl, (List.append_nil _).symm⟩

theorem Holds.run {history : List DeviceLabel} (run : Run (Step usbd) {} history s) :
    Holds history s := by
  refine run.invariant ⟨{}, .empty, fun name => ?_⟩ ?_
  · simp [storedUnder]
  · intro history s label s' holds step
    obtain ⟨v, rep, stored⟩ := holds
    obtain ⟨v', rep', stored', _⟩ := step.represents rep
    refine ⟨v', rep', fun name => ?_⟩
    rw [stored', storedUnder_concat, stored]

/-! ### What a client sees -/

/-- Where a device is attached, its raw descriptor was read and begins with a device
descriptor that is accepted. -/
def Succeeds (usbd : Usbd) (s : DeviceService) : DeviceLabel → Prop
  | .attached busNum devAddr _ =>
    (rawRead usbd busNum devAddr s.world).1.ret = .UEC_OK ∧
      Accepted (rawDescriptor usbd busNum devAddr s.world)
  | _ => True

/-- What the events before say of the store. -/
structure Tracks (usbd : Usbd) (history : List DeviceLabel) (s : DeviceService) : Prop where
  /-- `GetDevices` lists for each address the device of its last attach. -/
  listed : ∃ devices, (s.getDevices []).Returns (.UEC_OK, devices) ∧ ∀ busNum devAddr,
    devices.filter (fun dev => dev.busNum = busNum ∧ dev.devAddr = devAddr) =
      (lastAttach busNum devAddr history).toList
  /-- No entry is null or dangling, and each has the name of its device. -/
  entries : ∀ (name : String) (ptr : DevicePtr), s.host.devices[name]? = some ptr →
    ∃ p dev, ptr = some p ∧ s.host.heap.cell p = some dev ∧
      name = deviceName dev.busNum dev.devAddr
  /-- `DelDevice` returns whether the device was there. -/
  deletes : ∀ busNum devAddr, ∃ s', (delDevice usbd busNum devAddr s).Returns
    ((lastAttach busNum devAddr history).isSome, s')
  /-- `AddDevice` adds a device that was read. -/
  adds : ∀ busNum devAddr dev w,
    (getDeviceInfo usbd busNum devAddr zeroDevice s.world).Returns ((.UEC_OK, dev), w) →
    ∃ s', (addDevice usbd busNum devAddr s).Returns (true, s')

/-- A device that was read has the address of the event. -/
theorem address_of_succeeds
    (got : (getDeviceInfo usbd busNum devAddr zeroDevice s.world).Returns ((.UEC_OK, dev), w))
    (succeeds : Succeeds usbd s (.attached busNum devAddr dev)) :
    dev.busNum = busNum ∧ dev.devAddr = devAddr := by
  obtain ⟨read, accepted⟩ := succeeds
  obtain ⟨_, named⟩ := storesUnder_of_info got
  have nonzero : size (rawDescriptor usbd busNum devAddr s.world) ≠ 0 := by
    intro zero
    exact absurd (zero ▸ accepted.1) (by decide)
  rw [if_pos ⟨read, nonzero⟩] at named
  exact deviceName_injective named.1

/-- Where all devices were read, an address and its name mean the same. -/
theorem storedUnder_deviceName {history : List DeviceLabel}
    (run : Run (Guarded (Succeeds usbd) (Step usbd)) {} history s) (busNum devAddr : UInt8) :
    storedUnder (deviceName busNum devAddr) history = lastAttach busNum devAddr history := by
  have same : lastSome (DeviceLabel.under? (deviceName busNum devAddr)) history =
      lastSome (DeviceLabel.at? busNum devAddr) history := by
    induction run with
    | start => rfl
    | @step history s s' label _ taken ih =>
      rw [lastSome_concat, lastSome_concat, ih]
      congr 1
      obtain ⟨succeeds, step⟩ := taken
      cases step with
      | @attached busNum' devAddr' dev w s' got added =>
        obtain ⟨rfl, rfl⟩ := address_of_succeeds got succeeds
        simp only [DeviceLabel.under?, DeviceLabel.at?, deviceName_inj]
      | refused added => rfl
      | @detached busNum' devAddr' ret s' deleted =>
        simp only [DeviceLabel.under?, DeviceLabel.at?, deviceName_inj]
      | told => rfl
  unfold storedUnder lastAttach
  rw [same]

/-- A device descriptor with this `bDeviceProtocol`. -/
def bareDescriptor (protocol : UInt8) : List UInt8 :=
  [18, 1, 0, 2, 9, 0, protocol, 64, 0x84, 0x17, 0x10, 0x50, 0, 1, 0, 0, 0, 1]

/-- A device with a device descriptor and nothing else. -/
def bare (protocol : UInt8) : Usbd where
  answer _ call :=
    match call with
    | .GetRawDescriptor _ => { ret := .UEC_OK, bufferData := bareDescriptor protocol }
    | _ => { ret := .UEC_OK }

theorem succeeds_bare (protocol : UInt8) (s : DeviceService) (busNum devAddr : UInt8)
    (dev : UsbDevice) : Succeeds (bare protocol) s (.attached busNum devAddr dev) := by
  have length : size (rawDescriptor (bare protocol) busNum devAddr s.world) = 18 := rfl
  refine ⟨rfl, ?_, rfl⟩
  rw [length]
  decide

/-- Its information is got, whatever came before. -/
theorem info_bare (protocol : UInt8) (busNum devAddr : UInt8) (w : World) :
    ∃ dev w', (getDeviceInfo (bare protocol) busNum devAddr zeroDevice w).Returns
      ((.UEC_OK, dev), w') := by
  have succeeds := succeeds_bare protocol { calls := w.calls } busNum devAddr zeroDevice
  obtain ⟨d, _, _, info⟩ :=
    @getDeviceInfoDescriptor_accepted _ _ (opened (bare protocol) busNum devAddr w).2 _ rawRead_eq
      succeeds.1 succeeds.2 zeroDevice
  have short : ¬ ParsesBlock (setDevice (nameDevice ⟨busNum, devAddr⟩ zeroDevice) d)
      (rawDescriptor (bare protocol) busNum devAddr w) := by
    intro parses
    have size : size (rawDescriptor (bare protocol) busNum devAddr w) = CURSOR_INIT := rfl
    exact UInt32.lt_irrefl _ (size ▸ parses.2)
  let named := fillDevStrings (bare protocol)
    { setDevice (nameDevice ⟨busNum, devAddr⟩ zeroDevice) d with configs := [] }
    ((opened (bare protocol) busNum devAddr w).2.call (bare protocol)
      (.GetRawDescriptor ⟨busNum, devAddr⟩)).2
  refine ⟨named.1.2, (named.2.call (bare protocol) (.CloseDevice ⟨busNum, devAddr⟩)).2, ?_⟩
  rw [getDeviceInfo_of_opened rfl info]
  refine Prog.returns_bind.mpr ⟨named, ?_, Prog.returns_pure.mpr rfl⟩
  exact ((getConfigDescriptor_none short).1 _).mpr (Prog.returns_pure.mpr rfl)

/-- It is attached, whatever came before. -/
theorem attaches_bare (protocol : UInt8) (rep : Represents s.host v) (busNum devAddr : UInt8) :
    ∃ dev s', Guarded (Succeeds (bare protocol)) (Step (bare protocol)) s
        (.attached busNum devAddr dev) s' ∧
      dev.busNum = busNum ∧ dev.devAddr = devAddr ∧ Represents s'.host (v.addDevice dev).2 := by
  obtain ⟨dev, w, got⟩ := info_bare protocol busNum devAddr s.world
  obtain ⟨s', added, rep'⟩ := addDevice_of_represents rep got
  have succeeds := succeeds_bare protocol s busNum devAddr dev
  obtain ⟨bus, addr⟩ := address_of_succeeds got succeeds
  exact ⟨dev, s', ⟨succeeds, .attached got added⟩, bus, addr, rep'⟩

/-- It is attached, attached again in its own place, and detached. -/
theorem replaces_bare (protocol : UInt8) :
    ∃ dev dev' s₁ s₂ s₃,
      Guarded (Succeeds (bare protocol)) (Step (bare protocol)) {} (.attached 1 2 dev) s₁ ∧
      Guarded (Succeeds (bare protocol)) (Step (bare protocol)) s₁ (.attached 1 2 dev') s₂ ∧
      Guarded (Succeeds (bare protocol)) (Step (bare protocol)) s₂ (.detached 1 2 true) s₃ := by
  obtain ⟨dev, s₁, first, _, _, rep₁⟩ := @attaches_bare {} {} protocol .empty 1 2
  obtain ⟨dev', s₂, second, bus, addr, rep₂⟩ := attaches_bare protocol rep₁ 1 2
  obtain ⟨s₃, deleted, _⟩ := delDevice_of_represents rep₂ (bare protocol) 1 2
  rw [HostManager.delDevice_ret, HostManager.getElem?_addDevice, bus, addr, if_pos rfl] at deleted
  exact ⟨dev, dev', s₁, s₂, s₃, first, second, trivial, .detached deleted⟩

/-- In a run in which every device that is attached was read, the store tells of each
address whether its last event was an attach. -/
theorem tracked (usbd : Usbd) {history : List DeviceLabel} {s : DeviceService}
    (run : Run (Guarded (Succeeds usbd) (Step usbd)) {} history s) : Tracks usbd history s := by
  obtain ⟨v, rep, stored⟩ := Holds.run run.unguarded
  have last : ∀ busNum devAddr, v.devices[deviceName busNum devAddr]? =
      lastAttach busNum devAddr history :=
    fun busNum devAddr => (stored _).trans (storedUnder_deviceName run busNum devAddr)
  refine ⟨?_, ?_, ?_, ?_⟩
  · obtain ⟨devices, read, _, listed⟩ := rep.getDevices []
    refine ⟨devices, ?_, fun busNum devAddr => ?_⟩
    · exact Prog.returns_bind.mpr ⟨_, Prog.returns_getOr.mpr read, Prog.returns_pure.mpr rfl⟩
    · rw [← last, ← listed]
      simp only [deviceName_inj]
  · intro name ptr there
    obtain ⟨p, dev, same, alive, told⟩ := rep.of_stored there
    exact ⟨p, dev, same, alive, rep.named told⟩
  · intro busNum devAddr
    obtain ⟨s', deleted, _⟩ := delDevice_of_represents rep usbd busNum devAddr
    rw [HostManager.delDevice_ret, last] at deleted
    exact ⟨s', deleted⟩
  · intro busNum devAddr dev w got
    obtain ⟨s', added, _⟩ := addDevice_of_represents rep got
    exact ⟨s', added⟩

/-- A device takes the place of another, and is detached. -/
theorem tracked_bare :
    ∃ dev dev' s,
      Run (Guarded (Succeeds (bare 0)) (Step (bare 0))) {}
        [.attached 1 2 dev, .attached 1 2 dev', .detached 1 2 true] s ∧
      Tracks (bare 0) [.attached 1 2 dev, .attached 1 2 dev', .detached 1 2 true] s := by
  obtain ⟨dev, dev', _, _, s, first, second, third⟩ := replaces_bare 0
  have run := ((Run.start.step first).step second).step third
  exact ⟨dev, dev', s, run, tracked (bare 0) run⟩

/-! ### What a subscriber sees -/

end DeviceService

/-- The device an event is about. -/
def CommonEvent.device : CommonEvent → UsbDevice
  | attached dev => dev
  | detached dev => dev

/-- The name of the device an event is about. -/
def CommonEvent.name (event : CommonEvent) : String :=
  deviceName event.device.busNum event.device.devAddr

/-- What is known to be attached after one more event; none for an event out of turn: an
attach where a device is attached, a detach of none or of another device. -/
def turn (known : Option UsbDevice) : CommonEvent → Option (Option UsbDevice)
  | .attached dev => if known = none then some (some dev) else none
  | .detached dev => if known = some dev then some none else none

/-- What a subscriber who follows one name knows after one more event. -/
def follow (name : String) (known : Option UsbDevice) (event : CommonEvent) :
    Option (Option UsbDevice) :=
  if event.name = name then turn known event else some known

/-- A device that is attached under this name finds none there. -/
def Vacant (name : String) (history : List DeviceLabel) : Prop :=
  ∀ before busNum devAddr dev after,
    history = before ++ .attached busNum devAddr dev :: after →
    deviceName dev.busNum dev.devAddr = name → storedUnder name before = none

namespace DeviceService

variable {usbd : Usbd} {s s' : DeviceService} {v : HostManager} {busNum devAddr : UInt8}
  {dev : UsbDevice} {w : World} {name : String} {history : List DeviceLabel}
  {label : DeviceLabel}

theorem vacant_nil : Vacant name [] := by
  intro before busNum devAddr dev after whole
  simp at whole

theorem vacant_concat :
    Vacant name (history ++ [label]) ↔
      Vacant name history ∧ ∀ busNum devAddr dev, label = .attached busNum devAddr dev →
        deviceName dev.busNum dev.devAddr = name → storedUnder name history = none := by
  constructor
  · intro vacant
    refine ⟨fun before busNum devAddr dev after whole named => ?_, ?_⟩
    · exact vacant before busNum devAddr dev (after ++ [label]) (by simp [whole]) named
    · intro busNum devAddr dev same named
      exact vacant history busNum devAddr dev [] (by rw [same]) named
  · intro both before busNum devAddr dev after whole named
    obtain ⟨vacant, last⟩ := both
    rcases after.eq_nil_or_concat with rfl | ⟨rest, final, rfl⟩
    · obtain ⟨rfl, same⟩ := List.append_inj' whole rfl
      exact last busNum devAddr dev (List.singleton_inj.mp same) named
    · have shape : history ++ [label] =
          (before ++ .attached busNum devAddr dev :: rest) ++ [final] := by
        simpa using whole
      exact vacant before busNum devAddr dev rest (List.append_inj' shape rfl).1 named

/-- A subscriber knows what is stored as long as every device finds its name vacant, and
never again after one has not. -/
def Follows (history : List DeviceLabel) (events : List CommonEvent) : Prop :=
  ∀ name, (Vacant name history →
      events.foldlM (follow name) none = some (storedUnder name history)) ∧
    (¬ Vacant name history → events.foldlM (follow name) none = none)

/-- One more event under a name. -/
theorem foldlM_concat (name : String) (events : List CommonEvent) (event : CommonEvent) :
    (events ++ [event]).foldlM (follow name) none =
      (events.foldlM (follow name) none).bind fun known => follow name known event := by
  rw [List.foldlM_append]
  congr 1
  funext known
  exact bind_pure _

theorem follow_other {known : Option UsbDevice} {event : CommonEvent} (other : event.name ≠ name) :
    follow name known event = some known := if_neg other

theorem follow_own {known : Option UsbDevice} {event : CommonEvent} (own : event.name = name) :
    follow name known event = turn known event := if_pos own

theorem turn_attached_none (dev : UsbDevice) :
    turn none (.attached dev) = some (some dev) := by
  rw [turn, if_pos rfl]

theorem turn_attached_some (dev old : UsbDevice) :
    turn (some old) (.attached dev) = none := by
  rw [turn, if_neg (by simp)]

theorem turn_detached (dev : UsbDevice) : turn (some dev) (.detached dev) = some none := by
  rw [turn, if_pos rfl]

/-- An event that attaches nothing makes no name less vacant. -/
theorem vacant_concat_of_not_attached
    (quiet : ∀ busNum devAddr dev, label ≠ .attached busNum devAddr dev) :
    Vacant name (history ++ [label]) ↔ Vacant name history := by
  rw [vacant_concat]
  constructor
  · exact And.left
  · exact fun vacant => ⟨vacant, fun busNum devAddr dev same => (quiet _ _ _ same).elim⟩

variable {events : List CommonEvent}

theorem Follows.attached (follows : Follows history events) (busNum devAddr : UInt8)
    (dev : UsbDevice) :
    Follows (history ++ [.attached busNum devAddr dev]) (events ++ [.attached dev]) := by
  intro name
  obtain ⟨vacant, taken⟩ := follows name
  rw [foldlM_concat, vacant_concat, storedUnder_concat_attached]
  by_cases own : deviceName dev.busNum dev.devAddr = name
  · rw [if_pos own]
    have own : (CommonEvent.attached dev).name = name := own
    constructor
    · intro both
      obtain ⟨before, last⟩ := both
      rw [vacant before, last busNum devAddr dev rfl own, Option.bind_some, follow_own own]
      exact turn_attached_none dev
    · intro full
      by_cases before : Vacant name history
      · rw [vacant before, Option.bind_some, follow_own own]
        cases stored : storedUnder name history with
        | none => exact (full ⟨before, fun _ _ _ _ _ => stored⟩).elim
        | some old => exact turn_attached_some dev old
      · rw [taken before]
        rfl
  · rw [if_neg own]
    have other : (CommonEvent.attached dev).name ≠ name := own
    constructor
    · intro both
      rw [vacant both.1, Option.bind_some, follow_other other]
    · intro full
      have before : ¬ Vacant name history := by
        intro before
        refine full ⟨before, fun busNum' devAddr' dev' same named => ?_⟩
        cases same
        exact (own named).elim
      rw [taken before]
      rfl

theorem Follows.detached (follows : Follows history events) (busNum devAddr : UInt8) (ret : Bool)
    (named : ∀ dev, storedUnder (deviceName busNum devAddr) history = some dev →
      (CommonEvent.detached dev).name = deviceName busNum devAddr) :
    Follows (history ++ [.detached busNum devAddr ret])
      (events ++
        ((storedUnder (deviceName busNum devAddr) history).map CommonEvent.detached).toList) := by
  intro name
  obtain ⟨vacant, taken⟩ := follows name
  rw [vacant_concat_of_not_attached (by simp), storedUnder_concat_detached]
  cases stored : storedUnder (deviceName busNum devAddr) history with
  | none =>
    rw [Option.map_none, Option.toList_none, List.append_nil]
    refine ⟨fun before => ?_, taken⟩
    rw [vacant before]
    by_cases own : deviceName busNum devAddr = name
    · rw [if_pos own, ← own, stored]
    · rw [if_neg own]
  | some dev =>
    rw [Option.map_some, Option.toList_some, foldlM_concat]
    have about := named dev stored
    constructor
    · intro before
      rw [vacant before, Option.bind_some]
      by_cases own : deviceName busNum devAddr = name
      · rw [if_pos own, ← own, stored, follow_own about]
        exact turn_detached dev
      · rw [if_neg own, follow_other fun same => own (about.symm.trans same)]
    · intro full
      rw [taken full]
      rfl

/-- What a step publishes follows what it does to the store. -/
theorem Follows.step (rep : Represents s.host v)
    (stored : ∀ name : String, v.devices[name]? = storedUnder name history)
    (follows : Follows history s.host.events) (step : Step usbd s label s') :
    Follows (history ++ [label]) s'.host.events := by
  obtain ⟨v', rep', _, events⟩ := step.represents rep
  rw [rep'.events, events, ← rep.events]
  cases step with
  | @attached busNum devAddr dev w s' got added => exact follows.attached busNum devAddr dev
  | @refused busNum devAddr s' added =>
    rw [List.append_nil]
    intro name
    rw [vacant_concat_of_not_attached (by simp), storedUnder_concat]
    exact follows name
  | @detached busNum devAddr ret s' deleted =>
    dsimp only
    rw [stored]
    refine follows.detached busNum devAddr ret fun dev there => ?_
    exact (rep.named ((stored _).trans there)).symm
  | told =>
    rw [List.append_nil]
    intro name
    rw [vacant_concat_of_not_attached (by simp), storedUnder_concat]
    exact follows name

theorem Follows.run (run : Run (Step usbd) {} history s) : Follows history s.host.events := by
  induction run with
  | start => exact fun name => ⟨fun _ => by simp [storedUnder], fun full => (full vacant_nil).elim⟩
  | step earlier taken ih =>
    obtain ⟨v, rep, stored⟩ := Holds.run earlier
    exact ih.step rep stored taken

end DeviceService

end UsbManager

import UsbManager.Closing
import UsbManager.DeviceEvents
import UsbManager.RoundTrip

/-!
# What a device event touches

A device event with numbers that are no bytes acts on the entry of their low bytes,
every status that is no attach counts as a detach, and a device whose raw descriptor
cannot be read is stored under `0-0`.  `touchesOwn_iff` says for which events the
store is changed at the entry of the event only, if at all.  What an attach does whose
parse reads behind the raw descriptor depends on what is there: it is none of them.
-/

namespace UsbManager

open UsbService

/-- What is stored under a name: the pointer, and the device behind it. -/
def UsbHostManager.entry (m : UsbHostManager) (name : String) :
    Option (DevicePtr × Option UsbDevice) :=
  m.devices[name]?.map fun ptr => (ptr, m.heap.deref ptr)

namespace UsbInfo

variable {info : UsbInfo} {name : String}

/-- The numbers fit in a byte, as those of a device do. -/
def InRange (info : UsbInfo) : Prop :=
  int32OfByte (byteOfInt32 info.busNum) = info.busNum ∧
    int32OfByte (byteOfInt32 info.devNum) = info.devNum

/-- The name of exactly the bus and device number of the event. -/
def Own (info : UsbInfo) (name : String) : Prop :=
  ∃ busNum devAddr, int32OfByte busNum = info.busNum ∧ int32OfByte devAddr = info.devNum ∧
    name = deviceName busNum devAddr

theorem own_iff :
    info.Own name ↔
      info.InRange ∧ name = deviceName (byteOfInt32 info.busNum) (byteOfInt32 info.devNum) := by
  constructor
  · intro own
    obtain ⟨busNum, devAddr, bus, addr, rfl⟩ := own
    unfold InRange
    rw [← bus, ← addr, byteOfInt32_int32OfByte, byteOfInt32_int32OfByte]
    exact ⟨⟨rfl, rfl⟩, rfl⟩
  · intro both
    obtain ⟨⟨bus, addr⟩, rfl⟩ := both
    exact ⟨_, _, bus, addr, rfl⟩

end UsbInfo

/-! ## Entries -/

section Entries

variable {m m' : UsbHostManager} {v v' : HostManager} {name : String} {ret : Bool}

/-- An entry with the same pointer to the same device is the same. -/
theorem Represents.entry_congr (rep : Represents m v) (rep' : Represents m' v')
    (pointer : m'.devices[name]? = m.devices[name]?)
    (device : v'.devices[name]? = v.devices[name]?) : m'.entry name = m.entry name := by
  unfold UsbHostManager.entry
  rcases rep.lookup name with ⟨absent, _⟩ | ⟨p, dev, stored, alive, told⟩
  · rw [pointer, absent]
    rfl
  · obtain ⟨q, dev', same, alive', told'⟩ := rep'.of_stored (pointer.trans stored)
    cases same
    obtain rfl : dev' = dev := Option.some.inj (told'.symm.trans (device.trans told))
    rw [pointer, stored]
    change some (some p, m'.heap.cell p) = some (some p, m.heap.cell p)
    rw [alive, alive']

theorem UsbHostManager.entry_eq_none : m.entry name = none ↔ m.devices[name]? = none :=
  Option.map_eq_none_iff

/-- `DelDevice` leaves the pointers under other names. -/
theorem devices_delDevice {busNum devNum : UInt8}
    (ran : (UsbHostManager.delDevice busNum devNum).run m = some (ret, m'))
    (other : name ≠ deviceName busNum devNum) : m'.devices[name]? = m.devices[name]? := by
  unfold UsbHostManager.delDevice at ran
  simp only [HostThread.run] at ran
  cases stored : m.devices[deviceName busNum devNum]? with
  | none =>
    rw [stored] at ran
    cases ran
    rfl
  | some ptr =>
    rw [stored] at ran
    cases ptr with
    | none =>
      cases ran
      rfl
    | some p =>
      simp only [HostThread.run] at ran
      obtain ⟨dev, _, ran⟩ := Option.bind_eq_some_iff.mp ran
      obtain ⟨_, _, ran⟩ := Option.bind_eq_some_iff.mp ran
      cases ran
      change (m.devices.erase _)[name]? = _
      rw [Table.getElem?_erase, if_neg other]

/-- `AddDevice` stores the pointer under the name of its device, and leaves those under
other names. -/
theorem devices_addDevice {p : Nat} {dev : UsbDevice} (alive : m.heap.cell p = some dev)
    (ran : (UsbHostManager.addDevice (some p)).run m = some (ret, m')) :
    m'.devices[name]? =
      if name = deviceName dev.busNum dev.devAddr then some (some p) else m.devices[name]? := by
  have read : m.heap.deref (some p) = some dev := alive
  have read' : (m.publishCommonEvent (.attached dev)).heap.deref (some p) = some dev := alive
  unfold UsbHostManager.addDevice at ran
  simp only [HostThread.run, read, read', Option.bind_some] at ran
  have same : (m.publishCommonEvent (.attached dev)).devices = m.devices := rfl
  rw [same] at ran
  have inserted : ∀ devices : Std.TreeMap String DevicePtr,
      devices[deviceName dev.busNum dev.devAddr]? = none →
      (devices.insertIfNew (deviceName dev.busNum dev.devAddr) (some p))[name]? =
        if name = deviceName dev.busNum dev.devAddr then some (some p) else devices[name]? := by
    intro devices free
    rw [Table.getElem?_insertIfNew, free]
    rfl
  cases stored : m.devices[deviceName dev.busNum dev.devAddr]? with
  | none =>
    rw [stored] at ran
    cases ran
    exact inserted m.devices stored
  | some ptr =>
    have erased : (m.devices.erase (deviceName dev.busNum dev.devAddr))[deviceName dev.busNum
        dev.devAddr]? = none := by
      rw [Table.getElem?_erase, if_pos rfl]
    have devices : m'.devices = (m.devices.erase (deviceName dev.busNum dev.devAddr)).insertIfNew
        (deviceName dev.busNum dev.devAddr) (some p) := by
      rw [stored] at ran
      cases ptr with
      | none =>
        cases ran
        rfl
      | some q =>
        obtain ⟨_, _, ran⟩ := Option.bind_eq_some_iff.mp ran
        cases ran
        rfl
    rw [devices, inserted _ erased, Table.getElem?_erase]
    by_cases own : name = deviceName dev.busNum dev.devAddr
    · rw [if_pos own, if_pos own]
    · rw [if_neg own, if_neg own, if_neg own]

end Entries

/-! ## One event -/

namespace DeviceService

/-- What became of an event changes the entry of this name. -/
def Changes (s : DeviceService) (name : String) : DeviceLabel → Prop
  | .attached _ _ dev => name = deviceName dev.busNum dev.devAddr
  | .refused _ _ => False
  | .detached busNum devAddr _ =>
    name = deviceName busNum devAddr ∧ s.host.devices[name]? ≠ none
  | .told => False

variable {usbd : Usbd} {s s' : DeviceService} {v : HostManager} {busNum devAddr : UInt8}
  {dev : UsbDevice} {w : World} {info : UsbInfo} {label : DeviceLabel}

/-- `AddDevice` of a device that was read, in the store. -/
theorem run_addDevice {added : Bool}
    (got : (getDeviceInfo usbd busNum devAddr zeroDevice s.world).Returns ((.UEC_OK, dev), w))
    (returned : (addDevice usbd busNum devAddr s).Returns (added, s')) :
    ∃ ret, (UsbHostManager.addDevice (some s.host.heap.next)).run (s.host.new dev) =
      some (ret, s'.host) := by
  obtain ⟨⟨⟨_, _⟩, _⟩, info, rest⟩ := Prog.returns_bind.mp returned
  cases info.unique got
  rcases Prog.returns_ite.mp rest with ⟨failed, _⟩ | ⟨_, rest⟩
  · exact (failed rfl).elim
  obtain ⟨⟨ret, s₁⟩, operated, rest⟩ := Prog.returns_bind.mp rest
  cases Prog.returns_pure.mp rest
  obtain ⟨⟨ret', host⟩, ran, rest⟩ := Prog.returns_bind.mp operated
  cases Prog.returns_pure.mp rest
  exact ⟨ret, Prog.returns_getOr.mp ran⟩

/-- `DelDevice`, in the store. -/
theorem run_delDevice {ret : Bool}
    (returned : (delDevice usbd busNum devAddr s).Returns (ret, s')) :
    (UsbHostManager.delDevice busNum devAddr).run s.host = some (ret, s'.host) := by
  obtain ⟨⟨ret', host⟩, ran, rest⟩ := Prog.returns_bind.mp returned
  cases Prog.returns_pure.mp rest
  exact Prog.returns_getOr.mp ran

/-- Which entries a step changes. -/
theorem Step.changes_iff (rep : Represents s.host v) (step : Step usbd s label s')
    (name : String) : s'.host.entry name ≠ s.host.entry name ↔ Changes s name label := by
  obtain ⟨v', rep', stored, _⟩ := step.represents rep
  have told := stored name
  cases step with
  | @attached busNum devAddr dev w s' got added =>
    obtain ⟨ret, ran⟩ := run_addDevice got added
    have pointers : s'.host.devices[name]? =
        if name = deviceName dev.busNum dev.devAddr then some (some s.host.heap.next)
        else (s.host.new dev).devices[name]? := devices_addDevice Heap.cell_alloc_next ran
    constructor
    · intro changed
      refine not_not.mp fun (other : name ≠ deviceName dev.busNum dev.devAddr) => changed ?_
      rw [if_neg other] at pointers
      refine rep.entry_congr rep' pointers ?_
      have silent : deviceName dev.busNum dev.devAddr ≠ name := fun eq => other eq.symm
      rw [told, DeviceLabel.under?, if_neg silent]
    · intro (own : name = deviceName dev.busNum dev.devAddr) same
      -- The pointer that is stored is new.
      rw [if_pos own] at pointers
      unfold UsbHostManager.entry at same
      rw [pointers] at same
      obtain ⟨ptr, there, eq⟩ := Option.map_eq_some_iff.mp same.symm
      obtain ⟨p, d, rfl, alive, _⟩ := rep.of_stored there
      exact Heap.ne_next alive (Option.some.inj (congrArg Prod.fst eq))
  | refused added =>
    have kept : s'.host = s.host := returns_addDevice added
    rw [kept]
    exact ⟨fun changed => changed rfl, fun never => never.elim⟩
  | @detached busNum devAddr ret s' deleted =>
    have ran := run_delDevice deleted
    constructor
    · intro changed
      by_cases own : name = deviceName busNum devAddr
      · refine ⟨own, fun absent => changed ?_⟩
        rcases rep'.lookup name with ⟨gone, _⟩ | ⟨_, _, _, _, there⟩
        · rw [UsbHostManager.entry_eq_none.mpr absent, UsbHostManager.entry_eq_none.mpr gone]
        · rw [told, DeviceLabel.under?, if_pos own.symm] at there
          cases there
      · refine (changed (rep.entry_congr rep' (devices_delDevice ran own) ?_)).elim
        have silent : deviceName busNum devAddr ≠ name := fun eq => own eq.symm
        rw [told, DeviceLabel.under?, if_neg silent]
    · intro both same
      obtain ⟨own, there⟩ := both
      rw [DeviceLabel.under?, if_pos own.symm] at told
      rcases rep'.lookup name with ⟨gone, _⟩ | ⟨_, _, _, _, stays⟩
      · rw [UsbHostManager.entry_eq_none.mpr gone] at same
        exact there (UsbHostManager.entry_eq_none.mp same.symm)
      · rw [told] at stays
        cases stays
  | told => exact ⟨fun changed => changed rfl, fun never => never.elim⟩

/-! ## Which events touch their own entry only -/

/-- The event is handled with the bytes of the raw descriptor only.  It changes the store
only if it is an attach or a detach, and then only at the entry of exactly its bus and
device number. -/
structure TouchesOwn (usbd : Usbd) (info : UsbInfo) (s : DeviceService) : Prop where
  inside : ∀ e, ¬ (deviceEvent usbd info s).Faults e
  own : ∀ ret s' name, (deviceEvent usbd info s).Returns (ret, s') →
    s'.host.entry name ≠ s.host.entry name →
    info.status ∈ [.ACT_DEVUP, .ACT_DEVDOWN] ∧ info.Own name

/-- The device is not opened, or its configuration, if one is parsed, is so with the bytes
of the raw descriptor only. -/
def ReadsInside (usbd : Usbd) (busNum devAddr : UInt8) (w : World) : Prop :=
  (opened usbd busNum devAddr w).1.ret = .UEC_OK →
    Configures usbd busNum devAddr zeroDevice w →
    StaysInside (block (rawDescriptor usbd busNum devAddr w))
      (blockLength (rawDescriptor usbd busNum devAddr w))

/-- A device can be read: it is opened, and its configuration, if one is parsed, accepted. -/
def Readable (usbd : Usbd) (busNum devAddr : UInt8) (w : World) : Prop :=
  (opened usbd busNum devAddr w).1.ret = .UEC_OK ∧
    (Configures usbd busNum devAddr zeroDevice w → ConfigAccepted usbd busNum devAddr w)

/-- Its raw descriptor is read and not empty. -/
def Named (usbd : Usbd) (busNum devAddr : UInt8) (w : World) : Prop :=
  (rawRead usbd busNum devAddr w).1.ret = .UEC_OK ∧ size (rawDescriptor usbd busNum devAddr w) ≠ 0

theorem readable_iff :
    Readable usbd busNum devAddr w ↔
      ∃ dev w', (getDeviceInfo usbd busNum devAddr zeroDevice w).Returns ((.UEC_OK, dev), w') := by
  obtain ⟨ret, dev', w', info, count, _⟩ := described usbd busNum devAddr zeroDevice w
  constructor
  · intro readable
    obtain ⟨ok, accepted⟩ := readable
    have filled : ∃ named, (getConfigDescriptor usbd false dev'
        (rawDescriptor usbd busNum devAddr w) w').Returns (fillDevStrings usbd named w') := by
      by_cases one : ParsesBlock dev' (rawDescriptor usbd busNum devAddr w)
      · obtain ⟨cursor, config, parsed⟩ := accepted (by rwa [Configures, ← count])
        exact ⟨_, getConfigDescriptor_of_parsed one parsed⟩
      · exact ⟨_, ((getConfigDescriptor_none one).1 _).mpr (Prog.returns_pure.mpr rfl)⟩
    obtain ⟨named, config⟩ := filled
    refine ⟨(fillDevStrings usbd named w').1.2,
      ((fillDevStrings usbd named w').2.call usbd (.CloseDevice ⟨busNum, devAddr⟩)).2, ?_⟩
    rw [getDeviceInfo_of_opened ok info]
    exact Prog.returns_bind.mpr ⟨_, config, Prog.returns_pure.mpr rfl⟩
  · intro got
    obtain ⟨dev, w₁, got⟩ := got
    refine ⟨opened_of_info got, fun configures => ?_⟩
    have one : ParsesBlock dev' (rawDescriptor usbd busNum devAddr w) := by
      rwa [Configures, ← count] at configures
    obtain ⟨w₂, config⟩ := configured_of_described got info
    rw [(getConfigDescriptor_one one).1, getFirstConfig] at config
    obtain ⟨⟨ret, cursor, config⟩, parsed, rest⟩ := Prog.returns_bind.mp config
    rcases Prog.returns_ite.mp rest with ⟨failed, rest⟩ | ⟨fine, _⟩
    · exact (failed (congrArg (fun out => out.1.1) (Prog.returns_pure.mp rest)).symm).elim
    · obtain rfl := not_not.mp fine
      exact ⟨cursor, config, parsed⟩

/-! ### Events that are handled with the bytes of the raw descriptor only -/

/-- `GetDeviceInfo` faults only in the parse of the configuration. -/
theorem faults_getDeviceInfo {e : Fault} :
    (getDeviceInfo usbd busNum devAddr zeroDevice w).Faults e ↔
      (opened usbd busNum devAddr w).1.ret = .UEC_OK ∧
        Configures usbd busNum devAddr zeroDevice w ∧
        (configParse usbd busNum devAddr w).Faults e := by
  by_cases ok : (opened usbd busNum devAddr w).1.ret = .UEC_OK
  · obtain ⟨ret, dev', w', info, count, _⟩ := described usbd busNum devAddr zeroDevice w
    rw [getDeviceInfo_of_opened ok info, Prog.faults_bind, faults_getConfigDescriptor]
    unfold Configures ParsesBlock configParse
    rw [count]
    constructor
    · intro h
      rcases h with ⟨one, bad⟩ | ⟨_, _, bad⟩
      · exact ⟨ok, one, bad⟩
      · rcases Prog.faults_ite.mp bad with ⟨_, bad⟩ | ⟨_, bad⟩
        · exact (Prog.not_faults_pure bad).elim
        · exact (Prog.not_faults_pure bad).elim
    · exact fun h => .inl h.2
  · rw [getDeviceInfo_of_not_opened ok]
    exact ⟨fun bad => (Prog.not_faults_pure bad).elim, fun h => (ok h.1).elim⟩

theorem readsInside_iff :
    ReadsInside usbd busNum devAddr w ↔
      ∀ e, ¬ (getDeviceInfo usbd busNum devAddr zeroDevice w).Faults e := by
  unfold ReadsInside
  rw [UsbDescriptorParser.staysInside_iff]
  simp only [faults_getDeviceInfo, configParse]
  constructor
  · intro inside e h
    exact inside h.1 h.2.1 e h.2.2
  · intro quiet ok configures e bad
    exact quiet e ⟨ok, configures, bad⟩

/-- On a store that holds its devices nothing else faults. -/
theorem faults_deviceEvent (rep : Represents s.host v) {e : Fault} :
    (deviceEvent usbd info s).Faults e ↔
      info.status = .ACT_DEVUP ∧
        (getDeviceInfo usbd (byteOfInt32 info.busNum) (byteOfInt32 info.devNum) zeroDevice
          s.world).Faults e := by
  unfold deviceEvent
  rw [Prog.faults_ite, Prog.faults_ite]
  constructor
  · intro h
    rcases h with ⟨_, bad⟩ | ⟨_, ⟨up, bad⟩ | ⟨_, bad⟩⟩
    · exact (Prog.not_faults_pure bad).elim
    · refine ⟨up, ?_⟩
      rcases Prog.faults_bind.mp bad with added | ⟨_, _, bad⟩
      · rcases Prog.faults_bind.mp added with info | ⟨⟨⟨ret, dev⟩, w⟩, got, rest⟩
        · exact info
        rcases Prog.faults_ite.mp rest with ⟨_, bad⟩ | ⟨ok, _⟩
        · exact (Prog.not_faults_pure bad).elim
        · obtain rfl : ret = .UEC_OK := not_not.mp ok
          obtain ⟨s', returned, _⟩ := addDevice_of_represents rep got
          exact (returned.not_faults added).elim
      · exact (Prog.not_faults_pure bad).elim
    · rcases Prog.faults_bind.mp bad with deleted | ⟨_, _, bad⟩
      · obtain ⟨s', returned, _⟩ := delDevice_of_represents rep usbd (byteOfInt32 info.busNum)
          (byteOfInt32 info.devNum)
        exact (returned.not_faults deleted).elim
      · exact (Prog.not_faults_pure bad).elim
  · intro h
    obtain ⟨up, bad⟩ := h
    exact .inr ⟨by simp [up], .inl ⟨up, Prog.faults_bind.mpr (.inl (Prog.faults_bind.mpr
      (.inl bad)))⟩⟩

theorem inside_iff (rep : Represents s.host v) :
    (∀ e, ¬ (deviceEvent usbd info s).Faults e) ↔
      (info.status = .ACT_DEVUP →
        ReadsInside usbd (byteOfInt32 info.busNum) (byteOfInt32 info.devNum) s.world) := by
  simp only [faults_deviceEvent rep, readsInside_iff]
  constructor
  · exact fun quiet up e bad => quiet e ⟨up, bad⟩
  · exact fun quiet e h => quiet h.1 e h.2

/-! ### Both ways -/

theorem touchesOwn_iff_steps (rep : Represents s.host v) :
    TouchesOwn usbd info s ↔
      (info.status = .ACT_DEVUP →
        ReadsInside usbd (byteOfInt32 info.busNum) (byteOfInt32 info.devNum) s.world) ∧
      ∀ label s' name, label.Of info → Step usbd s label s' → Changes s name label →
        info.status ∈ [.ACT_DEVUP, .ACT_DEVDOWN] ∧ info.Own name := by
  rw [← inside_iff rep]
  constructor
  · intro touches
    refine ⟨touches.inside, fun label s' name of step changes => ?_⟩
    exact touches.own .UEC_OK s' name (returns_deviceEvent.mpr ⟨rfl, label, of, step⟩)
      ((step.changes_iff rep name).mpr changes)
  · intro both
    obtain ⟨inside, all⟩ := both
    refine ⟨inside, fun ret s' name returned changed => ?_⟩
    obtain ⟨_, label, of, step⟩ := returns_deviceEvent.mp returned
    exact all label s' name of step ((step.changes_iff rep name).mp changed)

/-- The name of a device that was read is that of the event if the numbers are bytes and
the raw descriptor was there, or the event is about `0-0`. -/
theorem own_of_info
    (got : (getDeviceInfo usbd (byteOfInt32 info.busNum) (byteOfInt32 info.devNum) zeroDevice
      s.world).Returns ((.UEC_OK, dev), w)) :
    info.Own (deviceName dev.busNum dev.devAddr) ↔
      info.InRange ∧
        (Named usbd (byteOfInt32 info.busNum) (byteOfInt32 info.devNum) s.world ∨
          byteOfInt32 info.busNum = 0 ∧ byteOfInt32 info.devNum = 0) := by
  obtain ⟨_, stores⟩ := storesUnder_of_info got
  rw [UsbInfo.own_iff]
  by_cases named : Named usbd (byteOfInt32 info.busNum) (byteOfInt32 info.devNum) s.world
  · have there := named
    rw [Named] at there
    rw [if_pos there] at stores
    simp [stores.1, named]
  · have missing := named
    rw [Named] at missing
    rw [if_neg missing] at stores
    rw [stores, deviceName_inj, eq_comm, @eq_comm _ 0 (byteOfInt32 info.devNum)]
    simp [named]

/-- An attach touches its own entry only, exactly if it stays inside the raw descriptor and
no device is read, or one that is stored under the numbers of the event. -/
theorem touchesOwn_attach_iff (rep : Represents s.host v) (up : info.status = .ACT_DEVUP) :
    TouchesOwn usbd info s ↔
      ReadsInside usbd (byteOfInt32 info.busNum) (byteOfInt32 info.devNum) s.world ∧
      (Readable usbd (byteOfInt32 info.busNum) (byteOfInt32 info.devNum) s.world →
        info.InRange ∧
          (Named usbd (byteOfInt32 info.busNum) (byteOfInt32 info.devNum) s.world ∨
            byteOfInt32 info.busNum = 0 ∧ byteOfInt32 info.devNum = 0)) := by
  rw [touchesOwn_iff_steps rep, readable_iff]
  refine and_congr ⟨fun inside => inside up, fun inside _ => inside⟩ ?_
  constructor
  · intro all got
    obtain ⟨dev, w, got⟩ := got
    obtain ⟨s', added, _⟩ := addDevice_of_represents rep got
    have own := (all (.attached _ _ dev) s' _ ⟨up, rfl, rfl⟩ (.attached got added) rfl).2
    exact (own_of_info got).mp own
  · intro fine label s' name of step changes
    cases step with
    | attached got added =>
      obtain ⟨_, rfl, rfl⟩ := of
      obtain rfl : name = _ := changes
      exact ⟨by simp [up], (own_of_info got).mpr (fine ⟨_, _, got⟩)⟩
    | refused added => exact changes.elim
    | detached deleted => exact (of.1 (by simp [up])).elim
    | told => exact changes.elim

/-- An event that counts as a detach touches its own entry only, exactly if there is no
device under the low bytes, or it is a detach and its numbers are bytes. -/
theorem touchesOwn_detach_iff (rep : Represents s.host v)
    (other : info.status ∉ [.ACT_DEVUP, .ACT_UPDEVICE, .ACT_DOWNDEVICE]) :
    TouchesOwn usbd info s ↔
      (s.host.devices[deviceName (byteOfInt32 info.busNum) (byteOfInt32 info.devNum)]? = none ∨
        info.status = .ACT_DEVDOWN ∧ info.InRange) := by
  have attach : info.status ≠ .ACT_DEVUP := fun up => other (by simp [up])
  rw [touchesOwn_iff_steps rep, and_iff_right fun up => (attach up).elim]
  constructor
  · intro all
    by_cases absent :
        s.host.devices[deviceName (byteOfInt32 info.busNum) (byteOfInt32 info.devNum)]? = none
    · exact .inl absent
    · obtain ⟨s', deleted, _⟩ := delDevice_of_represents rep usbd (byteOfInt32 info.busNum)
        (byteOfInt32 info.devNum)
      have own := all (.detached _ _ _) s' _ ⟨other, rfl, rfl⟩ (.detached deleted) ⟨rfl, absent⟩
      refine .inr ⟨?_, (UsbInfo.own_iff.mp own.2).1⟩
      rcases List.mem_cons.mp own.1 with up | down
      · exact (other (by simp [up])).elim
      · exact List.mem_singleton.mp down
  · intro fine label s' name of step changes
    cases step with
    | attached got added => exact (other (by simp [of.1])).elim
    | refused added => exact changes.elim
    | detached deleted =>
      obtain ⟨_, rfl, rfl⟩ := of
      obtain ⟨rfl, there⟩ := changes
      rcases fine with absent | ⟨down, range⟩
      · exact (there absent).elim
      · exact ⟨by simp [down], UsbInfo.own_iff.mpr ⟨range, rfl⟩⟩
    | told => exact changes.elim

/-- An event leaves the other entries alone under this condition: it tells the state of
the device side; or it stays inside the raw descriptor and attaches no device, or one
that is stored under its numbers; or there is nothing to detach, or it is a detach and
its numbers are bytes. -/
def Contained (usbd : Usbd) (info : UsbInfo) (s : DeviceService) : Prop :=
  match info.status with
  | .ACT_UPDEVICE => True
  | .ACT_DOWNDEVICE => True
  | .ACT_DEVUP =>
    ReadsInside usbd (byteOfInt32 info.busNum) (byteOfInt32 info.devNum) s.world ∧
      (Readable usbd (byteOfInt32 info.busNum) (byteOfInt32 info.devNum) s.world →
        info.InRange ∧
          (Named usbd (byteOfInt32 info.busNum) (byteOfInt32 info.devNum) s.world ∨
            byteOfInt32 info.busNum = 0 ∧ byteOfInt32 info.devNum = 0))
  | status =>
    s.host.devices[deviceName (byteOfInt32 info.busNum) (byteOfInt32 info.devNum)]? = none ∨
      status = .ACT_DEVDOWN ∧ info.InRange

/-- On a store that holds its devices, exactly these events touch no entry but their own. -/
theorem touchesOwn_iff (usbd : Usbd) (info : UsbInfo) (s : DeviceService) (v : HostManager)
    (rep : Represents s.host v) : TouchesOwn usbd info s ↔ Contained usbd info s := by
  have quiet : info.status = .ACT_UPDEVICE ∨ info.status = .ACT_DOWNDEVICE →
      TouchesOwn usbd info s := by
    intro side
    rw [touchesOwn_iff_steps rep]
    refine ⟨fun up => ?_, fun label s' name of step changes => ?_⟩
    · rcases side with side | side <;> cases side.symm.trans up
    · cases step with
      | attached got added => rcases side with side | side <;> cases side.symm.trans of.1
      | refused added => exact changes.elim
      | detached deleted => rcases side with side | side <;> exact (of.1 (by simp [side])).elim
      | told => exact changes.elim
  unfold Contained
  cases status : info.status with
  | ACT_UPDEVICE => simpa using quiet (.inl status)
  | ACT_DOWNDEVICE => simpa using quiet (.inr status)
  | ACT_DEVUP => exact touchesOwn_attach_iff rep status
  | ACT_DEVDOWN =>
    have other : info.status ∉ [.ACT_DEVUP, .ACT_UPDEVICE, .ACT_DOWNDEVICE] := by simp [status]
    rw [touchesOwn_detach_iff rep other, status]
  | other code =>
    have other : info.status ∉ [.ACT_DEVUP, .ACT_UPDEVICE, .ACT_DOWNDEVICE] := by simp [status]
    rw [touchesOwn_detach_iff rep other, status]

theorem touchesOwn_iff_bare :
    TouchesOwn (bare 0) ⟨.ACT_DEVUP, 1, 2⟩ {} ↔ Contained (bare 0) ⟨.ACT_DEVUP, 1, 2⟩ {} :=
  touchesOwn_iff (bare 0) ⟨.ACT_DEVUP, 1, 2⟩ {} {} .empty

/-- A detach of bus 257 takes the device of bus 1. -/
theorem not_touchesOwn_bare :
    ¬ ∀ usbd info s v, Represents s.host v → TouchesOwn usbd info s := by
  intro all
  obtain ⟨dev, s, _, bus, addr, rep⟩ := @attaches_bare {} {} 0 .empty 1 2
  have touches := (touchesOwn_detach_iff rep (by decide)).mp
    (all (bare 0) ⟨.ACT_DEVDOWN, 257, 2⟩ s _ rep)
  have name : deviceName (byteOfInt32 257) (byteOfInt32 2) = deviceName 1 2 := rfl
  rcases touches with absent | ⟨_, range⟩
  · rw [name] at absent
    rcases rep.lookup (deviceName 1 2) with ⟨_, untold⟩ | ⟨p, _, stored, _⟩
    · rw [HostManager.getElem?_addDevice, bus, addr, if_pos rfl] at untold
      cases untold
    · rw [absent] at stored
      cases stored
  · exact absurd range.1 (by decide)

end DeviceService

end UsbManager

import UsbManager.World

/-!
# `usb_host_manager.cpp` and `usb_right_manager.cpp`

The two stores of the service.  Both are keyed by the name `bus-addr` of a
device.  A right is asked of the user in a dialog: `requestRight` opens it and
leaves the request waiting, `requestRightAnswered` is what the rest of
`RequestRight` does when the dialog reports an event.
-/

namespace UsbManager

/-! ## The device store -/

namespace HostManager

/-- `PublishCommonEvent`; the callers ignore whether it succeeds. -/
def publishCommonEvent (m : HostManager) (event : CommonEvent) : HostManager :=
  { m with events := m.events ++ [event] }

/-- `DelDevice` -/
def delDevice (m : HostManager) (busNum devNum : UInt8) : Bool × HostManager :=
  let name := deviceName busNum devNum
  match m.devices[name]? with
  | none => (false, m)
  | some devOld =>
    let m := m.publishCommonEvent (.detached devOld)
    (true, { m with devices := m.devices.erase name })

/-- `AddDevice`, for a device that is not null. -/
def addDevice (m : HostManager) (dev : UsbDevice) : Bool × HostManager :=
  let m := m.publishCommonEvent (.attached dev)
  let name := deviceName dev.busNum dev.devAddr
  match m.devices[name]? with
  | none => (true, { m with devices := m.devices.insertIfNew name dev })
  | some _ => (true, { m with devices := (m.devices.erase name).insertIfNew name dev })

@[simp] theorem publishCommonEvent_devices (m : HostManager) (event : CommonEvent) :
    (m.publishCommonEvent event).devices = m.devices := rfl

theorem addDevice_events (m : HostManager) (dev : UsbDevice) :
    (m.addDevice dev).2.events = m.events ++ [.attached dev] := by
  unfold addDevice
  cases stored : m.devices[deviceName dev.busNum dev.devAddr]? with
  | none => simp [publishCommonEvent, stored]
  | some devOld => simp [publishCommonEvent, stored]

/-- The device that was stored is the one that was announced. -/
theorem addDevice_inj {m : HostManager} {dev dev' : UsbDevice}
    (same : (m.addDevice dev).2 = (m.addDevice dev').2) : dev = dev' := by
  have events := congrArg HostManager.events same
  rw [addDevice_events, addDevice_events] at events
  simpa using events

/-- Afterwards the device is stored under its name, and nothing else changed. -/
theorem getElem?_addDevice (m : HostManager) (dev : UsbDevice) (name : String) :
    (m.addDevice dev).2.devices[name]? =
      if name = deviceName dev.busNum dev.devAddr then some dev else m.devices[name]? := by
  unfold addDevice
  cases stored : m.devices[deviceName dev.busNum dev.devAddr]? with
  | none =>
    have absent : ¬ deviceName dev.busNum dev.devAddr ∈ m.devices := by
      rw [Std.TreeMap.mem_iff_isSome_getElem?, stored]
      simp
    simp only [publishCommonEvent_devices, stored, Std.TreeMap.getElem?_insertIfNew]
    by_cases same : name = deviceName dev.busNum dev.devAddr
    · simp [same, absent]
    · have other : ¬ deviceName dev.busNum dev.devAddr = name := fun eq => same eq.symm
      simp [same, other]
  | some devOld =>
    simp only [publishCommonEvent_devices, stored, Std.TreeMap.getElem?_insertIfNew,
      Std.TreeMap.getElem?_erase]
    by_cases same : name = deviceName dev.busNum dev.devAddr
    · simp [same]
    · have other : ¬ deviceName dev.busNum dev.devAddr = name := fun eq => same eq.symm
      simp [same, other]

/-- Afterwards nothing is stored under the name, and nothing else changed. -/
theorem getElem?_delDevice (m : HostManager) (busNum devNum : UInt8) (name : String) :
    (m.delDevice busNum devNum).2.devices[name]? =
      if name = deviceName busNum devNum then none else m.devices[name]? := by
  unfold delDevice
  cases stored : m.devices[deviceName busNum devNum]? with
  | none =>
    by_cases same : name = deviceName busNum devNum
    · simp [stored, same]
    · simp [stored, same]
  | some devOld =>
    by_cases same : name = deviceName busNum devNum
    · simp [stored, same]
    · have other : ¬ deviceName busNum devNum = name := fun eq => same eq.symm
      simp [stored, same, other, Std.TreeMap.getElem?_erase]

/-- A device that was stored is announced as it was. -/
theorem delDevice_events (m : HostManager) (busNum devNum : UInt8) :
    (m.delDevice busNum devNum).2.events = m.events ++
      (m.devices[deviceName busNum devNum]?.map CommonEvent.detached).toList := by
  unfold delDevice
  cases stored : m.devices[deviceName busNum devNum]? with
  | none => simp [stored]
  | some devOld => simp [stored, publishCommonEvent]

/-- Whether there was a device to delete. -/
theorem delDevice_ret (m : HostManager) (busNum devNum : UInt8) :
    (m.delDevice busNum devNum).1 = m.devices[deviceName busNum devNum]?.isSome := by
  unfold delDevice
  cases stored : m.devices[deviceName busNum devNum]? with
  | none => simp [stored]
  | some devOld => simp [stored]

/-- A device that is stored is found. -/
theorem delDevice_eq_true {m : HostManager} {busNum devNum : UInt8}
    (stored : m.devices[deviceName busNum devNum]?.isSome = true) :
    (m.delDevice busNum devNum).1 = true := by
  unfold delDevice
  cases found : m.devices[deviceName busNum devNum]? with
  | none => simp [found] at stored
  | some devOld => simp [found]

end HostManager

/-! ## The rights -/

namespace RightManager

/-- `HasRight` -/
def hasRight (m : RightManager) (deviceName bundleName : String) : Bool :=
  match m.rightMap[deviceName]? with
  | none => false
  | some bundleNameList => bundleName ∈ bundleNameList

/-- `AddDeviceRight`.  After the `push_back` the source goes on to insert a
fresh list, which has no effect on a name that is present. -/
def addDeviceRight (m : RightManager) (deviceName bundleName : String) : Bool × RightManager :=
  match m.rightMap[deviceName]? with
  | some v =>
    if bundleName ∈ v then (false, m)
    else
      let pushed := m.rightMap.insert deviceName (v ++ [bundleName])
      (true, { m with rightMap := pushed.insertIfNew deviceName [bundleName] })
  | none => (true, { m with rightMap := m.rightMap.insertIfNew deviceName [bundleName] })

/-- `RemoveDeviceRight` -/
def removeDeviceRight (m : RightManager) (deviceName : String) : Bool × RightManager :=
  if deviceName ∈ m.rightMap then (true, { m with rightMap := m.rightMap.erase deviceName })
  else (false, m)

/-- `RequestRight` up to the dialog: a result code, or none where the dialog
is shown and the request waits for it.  `dialogId` is what `ShowDialog` stores. -/
def requestRight (m : RightManager) (deviceName bundleName : String) (dialogId : Int32) :
    Option Uec × RightManager :=
  if m.hasRight deviceName bundleName then (some .UEC_OK, m)
  else if m.dialogId ≥ 0 then (some .UEC_SERVICE_PERMISSION_DENIED, m)
  else (none, { m with dialogId })

/-- `RequestRight` from the callback of the dialog on. -/
def requestRightAnswered (m : RightManager) (deviceName bundleName event : String) :
    Uec × RightManager :=
  let isAgree := event = "EVENT_ALLOW"
  let m := { m with dialogId := -1 }
  if ¬ isAgree then (.UEC_SERVICE_PERMISSION_DENIED, m)
  else
    let (added, m) := m.addDeviceRight deviceName bundleName
    if ¬ added then (.UEC_SERVICE_INVALID_VALUE, m)
    else if m.hasRight deviceName bundleName then (.UEC_OK, m)
    else (.UEC_SERVICE_INVALID_VALUE, m)

variable (m : RightManager) (name bundle : String)

theorem hasRight_eq_true {name bundle : String} :
    m.hasRight name bundle = true ↔ ∃ list, m.rightMap[name]? = some list ∧ bundle ∈ list := by
  unfold hasRight
  cases m.rightMap[name]? <;> simp

/-- The rights depend on the map only. -/
theorem hasRight_congr {m m' : RightManager} (same : m'.rightMap = m.rightMap)
    (name bundle : String) : m'.hasRight name bundle = m.hasRight name bundle := by
  unfold hasRight
  rw [same]

/-- What is looked up after the right was added. -/
theorem getElem?_addDeviceRight (name' : String) :
    (m.addDeviceRight name bundle).2.rightMap[name']? =
      if name' = name then
        match m.rightMap[name]? with
        | none => some [bundle]
        | some v => if bundle ∈ v then some v else some (v ++ [bundle])
      else m.rightMap[name']? := by
  unfold addDeviceRight
  by_cases same : name' = name
  · subst same
    cases stored : m.rightMap[name']? with
    | none =>
      have absent : ¬ name' ∈ m.rightMap := by
        rw [Std.TreeMap.mem_iff_isSome_getElem?, stored]
        simp
      simp only [Std.TreeMap.getElem?_insertIfNew]
      simp [absent]
    | some v =>
      by_cases known : bundle ∈ v
      · simp [known, stored]
      · simp only [if_neg known, Std.TreeMap.getElem?_insertIfNew, Std.TreeMap.getElem?_insert]
        simp
  · have other : ¬ name = name' := fun eq => same eq.symm
    cases stored : m.rightMap[name]? with
    | none =>
      simp only [Std.TreeMap.getElem?_insertIfNew]
      simp [same, other]
    | some v =>
      by_cases known : bundle ∈ v
      · simp [known, same]
      · simp only [if_neg known, Std.TreeMap.getElem?_insertIfNew, Std.TreeMap.getElem?_insert]
        simp [same, other]

/-- The rights are those that were there, and the one added. -/
theorem hasRight_addDeviceRight {name' bundle' : String} :
    (m.addDeviceRight name bundle).2.hasRight name' bundle' = true ↔
      m.hasRight name' bundle' = true ∨ name' = name ∧ bundle' = bundle := by
  simp only [hasRight_eq_true, getElem?_addDeviceRight]
  by_cases same : name' = name
  · subst same
    cases stored : m.rightMap[name']? with
    | none => simp
    | some v =>
      by_cases known : bundle ∈ v
      · have stays : bundle' = bundle → bundle' ∈ v := fun eq => eq ▸ known
        simpa [known] using stays
      · simp [known]
  · simp [same]

/-- The rights on other devices stay, those on this one are gone. -/
theorem hasRight_removeDeviceRight {name' bundle' : String} :
    (m.removeDeviceRight name).2.hasRight name' bundle' = true ↔
      name' ≠ name ∧ m.hasRight name' bundle' = true := by
  unfold removeDeviceRight
  by_cases present : name ∈ m.rightMap
  · rw [if_pos present]
    by_cases same : name' = name
    · simp [hasRight, same]
    · have other : ¬ name = name' := fun eq => same eq.symm
      simp [hasRight, same, other, Std.TreeMap.getElem?_erase]
  · rw [if_neg present]
    by_cases same : name' = name
    · subst same
      simp [hasRight, present]
    · simp [same]

/-- Asking changes no right. -/
theorem requestRight_rightMap (dialogId : Int32) :
    (m.requestRight name bundle dialogId).2.rightMap = m.rightMap := by
  unfold requestRight
  split
  · rfl
  · split <;> rfl

/-- The dialog is not among what `AddDeviceRight` looks at. -/
theorem addDeviceRight_dialogId (dialogId : Int32) :
    addDeviceRight { m with dialogId } name bundle =
      ((m.addDeviceRight name bundle).1,
        { (m.addDeviceRight name bundle).2 with dialogId }) := by
  unfold addDeviceRight
  dsimp only
  cases m.rightMap[name]? with
  | none => rfl
  | some v => by_cases known : bundle ∈ v <;> simp [known]

/-- A failed `AddDeviceRight` changes nothing. -/
theorem addDeviceRight_of_false (failed : (m.addDeviceRight name bundle).1 = false) :
    (m.addDeviceRight name bundle).2 = m := by
  unfold addDeviceRight at failed ⊢
  cases stored : m.rightMap[name]? with
  | none => simp [stored] at failed
  | some v =>
    by_cases known : bundle ∈ v
    · simp [known]
    · simp [stored, known] at failed

/-- An answered request returns `UEC_OK` and leaves its right added, or leaves
the rights as they were. -/
theorem requestRightAnswered_cases (event : String) :
    (m.requestRightAnswered name bundle event).1 = .UEC_OK ∧
        (m.requestRightAnswered name bundle event).2.rightMap =
          (m.addDeviceRight name bundle).2.rightMap ∨
      (m.requestRightAnswered name bundle event).1 ≠ .UEC_OK ∧
        (m.requestRightAnswered name bundle event).2.rightMap = m.rightMap := by
  by_cases agree : event = "EVENT_ALLOW"
  · have granted : (m.addDeviceRight name bundle).2.hasRight name bundle = true :=
      (m.hasRight_addDeviceRight name bundle).mpr (.inr ⟨rfl, rfl⟩)
    cases added : (m.addDeviceRight name bundle).1 with
    | false =>
      right
      have same := m.addDeviceRight_of_false name bundle added
      simp [requestRightAnswered, agree, addDeviceRight_dialogId, added, same]
    | true =>
      left
      have shown : hasRight { (m.addDeviceRight name bundle).2 with dialogId := -1 } name bundle =
          true := granted
      simp [requestRightAnswered, agree, addDeviceRight_dialogId, added, shown]
  · right
    simp [requestRightAnswered, agree]

end RightManager

end UsbManager

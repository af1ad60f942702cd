import UsbManager.System

/-!
# The service and the objects it makes

The service keeps pointers to its devices: a device that is attached is an object
that `AddDevice` makes, `GetDevices` reads the objects behind all pointers, and an
object is deleted when its device is detached or another takes its place.
`PointerState.refines_run` says that this is how the service of `ServiceStep` is
carried out: with the same answers, without the use of an object that is not alive,
and with no object left behind.
-/

namespace UsbManager

open UsbService

/-! ## The service with its pointers -/

/-- The service with the objects of its devices. -/
structure PointerState where
  service : DeviceService := {}
  rightManager : RightManager := {}
  managers : Managers := {}

namespace PointerState

/-- What the methods work with that do not touch the devices. -/
def world (s : PointerState) : World := { calls := s.service.calls, rightManager := s.rightManager }

/-- What those methods leave. -/
def left (s : PointerState) (s' : ServiceState) : PointerState where
  service := { s.service with calls := s'.1.calls }
  rightManager := s'.1.rightManager
  managers := s'.2

variable (usbd : Usbd) (invalid : UInt32) (outside : Outside) (caller : Option String)

/-- The methods of the interface. -/
def serve : SrvCall → PointerState → Prog Fault (SrvReply × PointerState)
  | .getDevices, s => do
    let (ret, deviceList) ← s.service.getDevices []
    pure ({ ret, deviceList }, s)
  | call, s =>
    let (reply, s') := whole usbd invalid outside caller call (s.world, s.managers)
    pure (reply, s.left s')

/-- The methods of `UsbServiceSubscriber`. -/
def handle : Report → PointerState → Prog Fault (Uec × PointerState)
  | .deviceEvent info, s =>
    if .ACT_UPDEVICE = info.status ∨ .ACT_DOWNDEVICE = info.status then do
      let (ret, s') ← UsbServiceSubscriber.deviceEvent usbd outside info (s.world, s.managers)
      pure (ret, s.left s')
    else do
      let (ret, service) ← DeviceService.deviceEvent usbd info s.service
      pure (ret, { s with service })
  | .portChangedEvent portId powerRole dataRole mode, s =>
    let (ret, s') := UsbServiceSubscriber.portChangedEvent outside portId powerRole dataRole mode
      (s.world, s.managers)
    pure (ret, s.left s')

/-- After `OnStart` there is no device. -/
def started (reply : QueryReply) : PointerState where
  managers := (ServiceState.started reply).2

end PointerState

/-- A call or a report is handled. -/
inductive PointerStep (usbd : Usbd) (invalid : UInt32) (s : PointerState) :
    ServiceLabel → PointerState → Prop
  | call {caller : Option String} {outside : Outside} {call : SrvCall} {reply : SrvReply}
    {s' : PointerState} :
    (s.serve usbd invalid outside caller call).Returns (reply, s') →
    PointerStep usbd invalid s (.call caller outside call reply) s'
  | report {outside : Outside} {report : Report} {ret : Uec} {s' : PointerState} :
    (s.handle usbd outside report).Returns (ret, s') →
    PointerStep usbd invalid s (.report outside report ret) s'

/-! ## No object is left behind -/

/-- Every object that is alive is in the store. -/
def UsbHostManager.Tidy (m : UsbHostManager) : Prop :=
  ∀ p dev, m.heap.cell p = some dev → ∃ name : String, m.devices[name]? = some (some p)

namespace UsbHostManager

variable {m m' : UsbHostManager} {ret : Bool} {p : Nat}

theorem tidy_empty : Tidy {} := fun _ _ alive => nomatch alive

/-- An entry is erased after its object is freed. -/
theorem Tidy.drop (tidy : m.Tidy) {name : String} (stored : m.devices[name]? = some (some p)) :
    Tidy { m with heap := m.heap.free p, devices := m.devices.erase name } := by
  intro q dev alive
  have other : q ≠ p := by
    rintro rfl
    have dead : (m.heap.free q).cell q = none := if_pos rfl
    exact absurd (dead.symm.trans alive) nofun
  obtain ⟨name', stored'⟩ := tidy q dev ((Heap.cell_free_of_ne other).symm.trans alive)
  refine ⟨name', ?_⟩
  change (m.devices.erase name)[name']? = _
  rw [Table.getElem?_erase, if_neg, stored']
  rintro rfl
  exact other (Option.some.inj (Option.some.inj (stored'.symm.trans stored)))

/-- `DelDevice` frees the object of the entry that it erases. -/
theorem Tidy.delDevice (tidy : m.Tidy) {busNum devNum : UInt8}
    (ran : (delDevice busNum devNum).run m = some (ret, m')) : m'.Tidy := by
  unfold UsbHostManager.delDevice at ran
  dsimp only [HostThread.run] at ran
  rcases stored : m.devices[deviceName busNum devNum]? with _ | _ | p
  · rw [stored] at ran
    cases ran
    exact tidy
  · rw [stored] at ran
    cases ran
    exact tidy
  · rw [stored] at ran
    obtain ⟨dev, _, deleted⟩ := Option.bind_eq_some_iff.mp ran
    obtain ⟨_, _, same⟩ := Option.bind_eq_some_iff.mp deleted
    cases same
    exact Tidy.drop (m := m.publishCommonEvent (.detached dev)) tidy stored

/-- All objects but one are in the store, and that one is stored where nothing is. -/
theorem tidy_put {name : String} (absent : m.devices[name]? = none)
    (others : ∀ q dev, m.heap.cell q = some dev → q ≠ p →
      ∃ name : String, m.devices[name]? = some (some q)) :
    Tidy { m with devices := m.devices.insertIfNew name (some p) } := by
  intro q dev alive
  by_cases same : q = p
  · subst same
    refine ⟨name, ?_⟩
    change (m.devices.insertIfNew name (some q))[name]? = _
    rw [Table.getElem?_insertIfNew, absent, if_pos rfl]
    rfl
  · obtain ⟨name', stored⟩ := others q dev alive same
    refine ⟨name', ?_⟩
    change (m.devices.insertIfNew name (some p))[name']? = _
    rw [Table.getElem?_insertIfNew, if_neg, stored]
    rintro rfl
    exact absurd (absent.symm.trans stored) nofun

/-- `AddDevice` of the device that has just been made frees the object whose place it
takes. -/
theorem Tidy.addDevice (tidy : m.Tidy) {dev : UsbDevice}
    (ran : (addDevice (some m.heap.next)).run (m.new dev) = some (ret, m')) : m'.Tidy := by
  have older : ∀ q d, (m.new dev).heap.cell q = some d → q ≠ m.heap.next →
      ∃ name : String, m.devices[name]? = some (some q) := by
    intro q d alive other
    exact tidy q d ((if_neg other).symm.trans alive)
  obtain ⟨first, read, ran⟩ := Option.bind_eq_some_iff.mp ran
  obtain rfl : dev = first := Option.some.inj (Heap.cell_alloc_next.symm.trans read)
  obtain ⟨again, read', ran⟩ := Option.bind_eq_some_iff.mp ran
  obtain rfl : dev = again := Option.some.inj (Heap.cell_alloc_next.symm.trans read')
  dsimp only [HostThread.run] at ran
  let told := (m.new dev).publishCommonEvent (.attached dev)
  have erased : (told.devices.erase (deviceName dev.busNum dev.devAddr))[
      deviceName dev.busNum dev.devAddr]? = none := by
    rw [Table.getElem?_erase, if_pos rfl]
  have kept {name' : String} {ptr : DevicePtr} (there : told.devices[name']? = some ptr)
      (other : name' ≠ deviceName dev.busNum dev.devAddr) :
      (told.devices.erase (deviceName dev.busNum dev.devAddr))[name']? = some ptr := by
    rw [Table.getElem?_erase, if_neg other, there]
  rcases stored : told.devices[deviceName dev.busNum dev.devAddr]? with _ | _ | p
  · rw [stored] at ran
    cases ran
    exact tidy_put (m := told) stored older
  · rw [stored] at ran
    cases ran
    refine tidy_put (m := { told with devices := told.devices.erase _ }) erased
      fun q d alive other => ?_
    obtain ⟨name', there⟩ := older q d alive other
    refine ⟨name', kept there ?_⟩
    rintro rfl
    exact absurd (Option.some.inj (stored.symm.trans there)) nofun
  · rw [stored] at ran
    obtain ⟨old, _, same⟩ := Option.bind_eq_some_iff.mp ran
    cases same
    refine tidy_put (m := { told with heap := told.heap.free p, devices := told.devices.erase _ })
      erased fun q d alive other => ?_
    have apart : q ≠ p := by
      rintro rfl
      have dead : (told.heap.free q).cell q = none := if_pos rfl
      exact absurd (dead.symm.trans alive) nofun
    obtain ⟨name', there⟩ := older q d ((Heap.cell_free_of_ne apart).symm.trans alive) other
    refine ⟨name', kept there ?_⟩
    rintro rfl
    exact apart (Option.some.inj (Option.some.inj (there.symm.trans stored)))

end UsbHostManager

/-! ## Only the calls of usbd matter to what is read of a device -/

namespace UsbService

variable {usbd : Usbd} {busNum devAddr : UInt8} {w w' : World}

/-- The same result, after the same calls. -/
def SameCalls {α : Type} (x y : α × World) : Prop := x.1 = y.1 ∧ x.2.calls = y.2.calls

theorem sameCalls_call (same : w.calls = w'.calls) (call : UsbdCall) :
    SameCalls (w.call usbd call) (w'.call usbd call) := by
  unfold SameCalls World.call
  rw [same]
  exact ⟨rfl, rfl⟩

theorem sameCalls_getDevStringValFromIdx (same : w.calls = w'.calls) (idx : UInt8) :
    SameCalls (getDevStringValFromIdx usbd busNum devAddr idx w)
      (getDevStringValFromIdx usbd busNum devAddr idx w') := by
  have asked := @sameCalls_call usbd _ _ same (.GetStringDescriptor ⟨busNum, devAddr⟩ idx)
  unfold getDevStringValFromIdx
  by_cases zero : idx = 0
  · rw [if_pos zero, if_pos zero]
    exact ⟨rfl, same⟩
  · rw [if_neg zero, if_neg zero]
    dsimp only
    rw [asked.1]
    split
    · exact ⟨rfl, asked.2⟩
    · split
      · exact ⟨rfl, asked.2⟩
      · exact ⟨rfl, asked.2⟩

theorem sameCalls_fillInterfaceNames (interfaces : List UsbInterface) :
    ∀ {w w' : World}, w.calls = w'.calls →
      SameCalls (fillInterfaceNames usbd busNum devAddr interfaces w)
        (fillInterfaceNames usbd busNum devAddr interfaces w') := by
  induction interfaces with
  | nil => exact fun same => ⟨rfl, same⟩
  | cons itIF interfaces ih =>
    intro w w' same
    obtain ⟨name, calls⟩ :=
      @sameCalls_getDevStringValFromIdx usbd busNum devAddr _ _ same itIF.iInterface
    obtain ⟨rest, calls⟩ := ih calls
    unfold fillInterfaceNames
    dsimp only
    rw [name, rest]
    exact ⟨rfl, calls⟩

theorem sameCalls_fillConfigNames (configs : List USBConfig) :
    ∀ {w w' : World}, w.calls = w'.calls →
      SameCalls (fillConfigNames usbd busNum devAddr configs w)
        (fillConfigNames usbd busNum devAddr configs w') := by
  induction configs with
  | nil => exact fun same => ⟨rfl, same⟩
  | cons it configs ih =>
    intro w w' same
    obtain ⟨name, calls⟩ :=
      @sameCalls_getDevStringValFromIdx usbd busNum devAddr _ _ same it.iConfiguration
    obtain ⟨interfaces, calls⟩ :=
      @sameCalls_fillInterfaceNames usbd busNum devAddr it.interfaces _ _ calls
    obtain ⟨rest, calls⟩ := ih calls
    unfold fillConfigNames
    dsimp only
    rw [name, interfaces, rest]
    exact ⟨rfl, calls⟩

theorem sameCalls_fillDevStrings (same : w.calls = w'.calls) (dev : UsbDevice) :
    SameCalls (fillDevStrings usbd dev w) (fillDevStrings usbd dev w') := by
  obtain ⟨manufacturerName, calls⟩ :=
    @sameCalls_getDevStringValFromIdx usbd dev.busNum dev.devAddr _ _ same dev.iManufacturer
  obtain ⟨productName, calls⟩ :=
    @sameCalls_getDevStringValFromIdx usbd dev.busNum dev.devAddr _ _ calls dev.iProduct
  obtain ⟨serial, calls⟩ :=
    @sameCalls_getDevStringValFromIdx usbd dev.busNum dev.devAddr _ _ calls dev.iSerialNumber
  obtain ⟨configs, calls⟩ :=
    @sameCalls_fillConfigNames usbd dev.busNum dev.devAddr dev.configs _ _ calls
  unfold fillDevStrings
  dsimp only
  rw [manufacturerName, productName, serial, configs]
  exact ⟨rfl, calls⟩

/-- The programs that return the same, after the same calls. -/
def Follows {α : Type} (x y : Prog Fault (α × World)) : Prop :=
  ∀ a w, x.Returns (a, w) → ∃ w', y.Returns (a, w') ∧ w.calls = w'.calls

theorem Follows.pure {α : Type} {x y : α × World} (same : SameCalls x y) :
    Follows (Pure.pure x) (Pure.pure y) := by
  intro a w returned
  obtain rfl := Prog.returns_pure.mp returned
  exact ⟨y.2, Prog.returns_pure.mpr (Prod.ext same.1 rfl), same.2⟩

theorem Follows.bind {α γ : Type} {x y : Prog Fault (α × World)}
    {f g : α × World → Prog Fault (γ × World)} (first : Follows x y)
    (next : ∀ a w w', w.calls = w'.calls → Follows (f (a, w)) (g (a, w'))) :
    Follows (x >>= f) (y >>= g) := by
  intro c w returned
  obtain ⟨⟨a, w₁⟩, ran, rest⟩ := Prog.returns_bind.mp returned
  obtain ⟨w₁', ran', same⟩ := first a w₁ ran
  obtain ⟨w', rest', same'⟩ := next a w₁ w₁' same c w rest
  exact ⟨w', Prog.returns_bind.mpr ⟨_, ran', rest'⟩, same'⟩

/-- A computation that does not ask usbd. -/
theorem Follows.bind_same {α γ : Type} {x : Prog Fault α} {f g : α → Prog Fault (γ × World)}
    (next : ∀ a, Follows (f a) (g a)) : Follows (x >>= f) (x >>= g) := by
  intro c w returned
  obtain ⟨a, ran, rest⟩ := Prog.returns_bind.mp returned
  obtain ⟨w', rest', same⟩ := next a c w rest
  exact ⟨w', Prog.returns_bind.mpr ⟨a, ran, rest'⟩, same⟩

theorem Follows.ite {α : Type} {p : Prop} [Decidable p] {x x' y y' : Prog Fault (α × World)}
    (yes : Follows x y) (no : Follows x' y') :
    Follows (if p then x else x') (if p then y else y') := by
  split
  · exact yes
  · exact no

theorem follows_getConfigDescriptor (same : w.calls = w'.calls) (dev : UsbDevice)
    (descriptor : List UInt8) :
    Follows (getConfigDescriptor usbd false dev descriptor w)
      (getConfigDescriptor usbd false dev descriptor w') := by
  refine .bind_same fun exit => ?_
  cases exit with
  | error ret => exact .pure ⟨rfl, same⟩
  | ok st => exact .pure (sameCalls_fillDevStrings same _)

theorem follows_getDeviceInfoDescriptor (same : w.calls = w'.calls) (uDev : UsbDev)
    (dev : UsbDevice) :
    Follows (getDeviceInfoDescriptor usbd uDev dev w) (getDeviceInfoDescriptor usbd uDev dev w') := by
  obtain ⟨reply, calls⟩ := @sameCalls_call usbd _ _ same (.GetRawDescriptor uDev)
  have closed := (@sameCalls_call usbd _ _ calls (.CloseDevice uDev)).2
  unfold getDeviceInfoDescriptor
  dsimp only
  rw [reply]
  refine .ite (.pure ⟨rfl, closed⟩) (.ite (.pure ⟨rfl, calls⟩) (.bind_same fun parsed => ?_))
  exact .ite (.pure ⟨rfl, closed⟩) (.pure ⟨rfl, calls⟩)

/-- What `GetDeviceInfo` reads depends on the calls before only. -/
theorem follows_getDeviceInfo (same : w.calls = w'.calls) (dev : UsbDevice) :
    Follows (getDeviceInfo usbd busNum devAddr dev w)
      (getDeviceInfo usbd busNum devAddr dev w') := by
  obtain ⟨reply, calls⟩ := @sameCalls_call usbd _ _ same (.OpenDevice ⟨busNum, devAddr⟩)
  unfold getDeviceInfo
  dsimp only
  rw [reply]
  refine .ite (.pure ⟨rfl, calls⟩) (.bind (follows_getDeviceInfoDescriptor calls _ _) ?_)
  rintro ⟨_, descriptor, dev⟩ w₁ w₁' calls
  refine .bind (follows_getConfigDescriptor calls _ _) ?_
  rintro ⟨ret, dev⟩ w₂ w₂' calls
  refine .ite (.pure ⟨rfl, calls⟩) (.pure ⟨rfl, ?_⟩)
  exact (@sameCalls_call usbd _ _ calls (.CloseDevice ⟨busNum, devAddr⟩)).2

/-- A method that does not list the devices does not look at them. -/
theorem whole_withHost {invalid : UInt32} {outside : Outside} {caller : Option String}
    {call : SrvCall} (other : call ≠ .getDevices) (w : World) (hostManager : HostManager)
    (managers : Managers) :
    whole usbd invalid outside caller call ({ w with hostManager }, managers) =
      ((whole usbd invalid outside caller call (w, managers)).1,
        ({ (whole usbd invalid outside caller call (w, managers)).2.1 with hostManager },
          (whole usbd invalid outside caller call (w, managers)).2.2)) := by
  cases call with
  | getDevices => exact absurd rfl other
  | onDevice request =>
    cases request with
    | openDevice busNum devAddr =>
      have opened : openDevice usbd caller busNum devAddr { w with hostManager } =
          ((openDevice usbd caller busNum devAddr w).1,
            { (openDevice usbd caller busNum devAddr w).2 with hostManager }) := by
        have same : hasRight caller (deviceName busNum devAddr) { w with hostManager } =
            hasRight caller (deviceName busNum devAddr) w := rfl
        unfold openDevice
        rw [same]
        split
        · rfl
        · rfl
      change ((openDevice usbd caller busNum devAddr { w with hostManager }).1.outcome,
        ((openDevice usbd caller busNum devAddr { w with hostManager }).2, managers)) = _
      rw [opened]
      rfl
    | bulkRead dev pipe ashmem | bulkWrite dev pipe ashmem => cases ashmem <;> rfl
    | _ => rfl
  | removeRight name =>
    have removed : removeRight name { w with hostManager } =
        ((removeRight name w).1, { (removeRight name w).2 with hostManager }) := by
      unfold removeRight
      dsimp only
      split
      · rfl
      · rfl
    change (({ ret := (removeRight name { w with hostManager }).1 } : SrvReply),
      ((removeRight name { w with hostManager }).2, managers)) = _
    rw [removed]
    rfl
  | requestRight name =>
    have requested : requestRightToEnd outside caller name { w with hostManager } =
        ((requestRightToEnd outside caller name w).1,
          { (requestRightToEnd outside caller name w).2 with hostManager }) := by
      unfold requestRightToEnd
      cases caller with
      | none => rfl
      | some bundleName =>
        rcases asked : w.rightManager.requestRight name bundleName outside.dialogId with
          ⟨ret, rightManager⟩
        simp only [requestRight, asked]
        cases ret with
        | some ret => rfl
        | none => rfl
    change (({ ret := (requestRightToEnd outside caller name { w with hostManager }).1 } :
      SrvReply), ((requestRightToEnd outside caller name { w with hostManager }).2, managers)) = _
    rw [requested]
    rfl
  | _ => rfl

end UsbService

/-! ## The service carried out with pointers -/

/-- The objects stand for the devices of the service, and none is left over. -/
structure PointerState.Refines (s : PointerState) (t : ServiceState) : Prop where
  calls : s.service.calls = t.1.calls
  rights : s.rightManager = t.1.rightManager
  managers : s.managers = t.2
  devices : Represents s.service.host t.1.hostManager
  tidy : s.service.host.Tidy

namespace PointerState

variable {usbd : Usbd} {invalid : UInt32} {outside : Outside} {caller : Option String}
  {s : PointerState} {t : ServiceState}

/-- What a method works with that does not touch the devices. -/
theorem Refines.world (rel : s.Refines t) :
    (s.world, s.managers) = ({ t.1 with hostManager := {} }, t.2) := by
  unfold PointerState.world
  rw [rel.calls, rel.rights, rel.managers]

/-- Where the devices are as they were the relation carries over. -/
theorem Refines.left (rel : s.Refines t) {w : World} {managers : Managers}
    (kept : w.hostManager = t.1.hostManager) (hostManager : HostManager) :
    (s.left ({ w with hostManager }, managers)).Refines (w, managers) where
  calls := rfl
  rights := rfl
  managers := rfl
  devices := by
    change Represents s.service.host w.hostManager
    rw [kept]
    exact rel.devices
  tidy := rel.tidy

/-- The list of devices is read from the objects. -/
theorem Refines.getDevices (rel : s.Refines t) :
    (s.service.getDevices []).Returns (.UEC_OK, UsbService.getDevices t.1) := by
  let object (ptr : DevicePtr) : UsbDevice := (s.service.host.heap.deref ptr).getD {}
  have alive : ∀ it ∈ s.service.host.devices.toList,
      s.service.host.heap.deref it.2 = some (object it.2) := by
    intro it there
    have stored := Std.TreeMap.mem_toList_iff_getElem?_eq_some.mp there
    obtain ⟨p, dev, same, alive, _⟩ := rel.devices.of_stored stored
    have found : s.service.host.heap.deref it.2 = some dev := by
      rw [same]
      exact alive
    change _ = some ((s.service.host.heap.deref it.2).getD {})
    rw [found]
    rfl
  have lookup (name : String) : t.1.hostManager.devices[name]? =
      s.service.host.devices[name]?.map object := by
    rcases rel.devices.lookup name with ⟨absent, untold⟩ | ⟨p, dev, stored, alive, told⟩
    · rw [absent, untold]
      rfl
    · rw [stored, told]
      change some dev = some ((s.service.host.heap.cell p).getD {})
      rw [alive]
      rfl
  have read : s.service.host.getDevices [] = some (UsbService.getDevices t.1) := by
    unfold UsbHostManager.getDevices UsbService.getDevices
    rw [Table.mapM_eq_map (g := fun it => object it.2) alive, Table.toList_of_lookup lookup,
      List.map_map]
    rfl
  exact Prog.returns_bind.mpr ⟨_, Prog.returns_getOr.mpr read, Prog.returns_pure.mpr rfl⟩

/-- A method returns what it should. -/
theorem Refines.serve (rel : s.Refines t) (call : SrvCall) :
    ∃ s', (s.serve usbd invalid outside caller call).Returns
        ((whole usbd invalid outside caller call t).1, s') ∧
      s'.Refines (whole usbd invalid outside caller call t).2 := by
  by_cases lists : call = .getDevices
  · subst lists
    exact ⟨s, Prog.returns_bind.mpr ⟨_, rel.getDevices, Prog.returns_pure.mpr rfl⟩, rel⟩
  · have same := @whole_withHost usbd invalid outside caller call lists t.1 {} t.2
    rw [← rel.world] at same
    have served : s.serve usbd invalid outside caller call =
        pure ((whole usbd invalid outside caller call (s.world, s.managers)).1,
          s.left (whole usbd invalid outside caller call (s.world, s.managers)).2) := by
      cases call with
      | getDevices => exact absurd rfl lists
      | _ => rfl
    rw [served, same]
    exact ⟨_, Prog.returns_pure.mpr rfl, rel.left whole_hostManager _⟩

/-- Attaching a device makes an object and stores it. -/
theorem Refines.addDevice (rel : s.Refines t) {busNum devAddr : UInt8} {ret : Bool} {w : World}
    (returned : (UsbService.addDevice usbd busNum devAddr t.1).Returns (ret, w)) :
    ∃ service, (DeviceService.addDevice usbd busNum devAddr s.service).Returns (ret, service) ∧
      Refines { s with service } (w, t.2) := by
  obtain ⟨⟨⟨ret₁, dev⟩, w₁⟩, info, rest⟩ := Prog.returns_bind.mp returned
  have same := sameManagers_getDeviceInfo info
  have calls : t.1.calls = s.service.world.calls := rel.calls.symm
  obtain ⟨w₂, info', calls⟩ := follows_getDeviceInfo calls zeroDevice _ _ info
  rcases Prog.returns_ite.mp rest with ⟨failed, rest⟩ | ⟨ok, rest⟩
  · cases Prog.returns_pure.mp rest
    refine ⟨{ s.service with calls := w₂.calls }, Prog.returns_bind.mpr ⟨_, info', ?_⟩, ?_⟩
    · exact Prog.returns_ite.mpr (.inl ⟨failed, Prog.returns_pure.mpr rfl⟩)
    · exact ⟨calls.symm, rel.rights.trans same.2.symm, rel.managers, same.1 ▸ rel.devices, rel.tidy⟩
  · cases Prog.returns_pure.mp rest
    obtain ⟨m', ran, rep⟩ := rel.devices.addDevice_new dev
    refine ⟨⟨w₂.calls, m'⟩, Prog.returns_bind.mpr ⟨_, info', ?_⟩, ?_⟩
    · refine Prog.returns_ite.mpr (.inr ⟨ok, Prog.returns_bind.mpr
        ⟨((t.1.hostManager.addDevice dev).1, ⟨w₂.calls, m'⟩), ?_, Prog.returns_pure.mpr rfl⟩⟩)
      exact Prog.returns_bind.mpr ⟨_, Prog.returns_getOr.mpr ran, Prog.returns_pure.mpr rfl⟩
    · refine ⟨calls.symm, rel.rights.trans same.2.symm, rel.managers, ?_, rel.tidy.addDevice ran⟩
      change Represents m' (w₁.hostManager.addDevice dev).2
      rw [same.1]
      exact rep

/-- Detaching a device deletes its object. -/
theorem Refines.delDevice (rel : s.Refines t) (busNum devAddr : UInt8) :
    ∃ service, (DeviceService.delDevice usbd busNum devAddr s.service).Returns
        ((UsbService.delDevice usbd busNum devAddr t.1).1, service) ∧
      Refines { s with service } ((UsbService.delDevice usbd busNum devAddr t.1).2, t.2) := by
  obtain ⟨m', ran, rep⟩ := rel.devices.delDevice busNum devAddr
  have calls : s.service.world.calls = t.1.calls := rel.calls
  refine ⟨⟨(close usbd busNum devAddr s.service.world).2.calls, m'⟩, ?_, ?_⟩
  · exact Prog.returns_bind.mpr ⟨_, Prog.returns_getOr.mpr ran, Prog.returns_pure.mpr rfl⟩
  · exact ⟨(@sameCalls_call usbd _ _ calls _).2, rel.rights, rel.managers, rep, rel.tidy.delDevice ran⟩

/-- A report is handled as it should be. -/
theorem Refines.handle (rel : s.Refines t) {report : Report} {ret : Uec} {t' : ServiceState}
    (returned : (report.handle usbd outside t).Returns (ret, t')) :
    ∃ s', (s.handle usbd outside report).Returns (ret, s') ∧ s'.Refines t' := by
  obtain ⟨w, managers⟩ := t
  obtain rfl : s.managers = managers := rel.managers
  have kept (managers : Managers) : (s.left (s.world, managers)).Refines (w, managers) :=
    ⟨rel.calls, rel.rights, rfl, rel.devices, rel.tidy⟩
  cases report with
  | portChangedEvent portId powerRole dataRole mode =>
    cases Prog.returns_pure.mp returned
    exact ⟨_, Prog.returns_pure.mpr rfl, kept _⟩
  | deviceEvent info =>
    rcases Prog.returns_ite.mp returned with ⟨side, told⟩ | ⟨other, rest⟩
    · cases Prog.returns_pure.mp told
      have handled : (UsbServiceSubscriber.deviceEvent usbd outside info
          (s.world, s.managers)).Returns (.UEC_OK, (s.world, _)) :=
        Prog.returns_ite.mpr (.inl ⟨side, Prog.returns_pure.mpr rfl⟩)
      exact ⟨_, Prog.returns_ite.mpr (.inl ⟨side, Prog.returns_bind.mpr
        ⟨_, handled, Prog.returns_pure.mpr rfl⟩⟩), kept _⟩
    · rcases Prog.returns_ite.mp rest with ⟨up, rest⟩ | ⟨down, rest⟩
      · obtain ⟨⟨added, w'⟩, first, rest⟩ := Prog.returns_bind.mp rest
        cases Prog.returns_pure.mp rest
        obtain ⟨service, ran, rel'⟩ := rel.addDevice first
        refine ⟨_, Prog.returns_ite.mpr (.inr ⟨other, Prog.returns_bind.mpr
          ⟨(.UEC_OK, service), ?_, Prog.returns_pure.mpr rfl⟩⟩), rel'⟩
        exact Prog.returns_ite.mpr (.inr ⟨other, Prog.returns_ite.mpr (.inl ⟨up,
          Prog.returns_bind.mpr ⟨_, ran, Prog.returns_pure.mpr rfl⟩⟩)⟩)
      · cases Prog.returns_pure.mp rest
        obtain ⟨service, ran, rel'⟩ := rel.delDevice (byteOfInt32 info.busNum)
          (byteOfInt32 info.devNum)
        refine ⟨_, Prog.returns_ite.mpr (.inr ⟨other, Prog.returns_bind.mpr
          ⟨(.UEC_OK, service), ?_, Prog.returns_pure.mpr rfl⟩⟩), rel'⟩
        exact Prog.returns_ite.mpr (.inr ⟨other, Prog.returns_ite.mpr (.inr ⟨down,
          Prog.returns_bind.mpr ⟨_, ran, Prog.returns_pure.mpr rfl⟩⟩)⟩)

/-- A report is handled only if it is by the service. -/
theorem Refines.handles (rel : s.Refines t) {report : Report} {ret : Uec} {s' : PointerState}
    (returned : (s.handle usbd outside report).Returns (ret, s')) :
    ∃ ret' t', (report.handle usbd outside t).Returns (ret', t') := by
  obtain ⟨w, managers⟩ := t
  cases report with
  | portChangedEvent => exact ⟨_, _, Prog.returns_pure.mpr rfl⟩
  | deviceEvent info =>
    by_cases side : .ACT_UPDEVICE = info.status ∨ .ACT_DOWNDEVICE = info.status
    · exact ⟨_, _, Prog.returns_ite.mpr (.inl ⟨side, Prog.returns_pure.mpr rfl⟩)⟩
    · rcases Prog.returns_ite.mp returned with ⟨told, _⟩ | ⟨_, rest⟩
      · exact absurd told side
      obtain ⟨_, ran, _⟩ := Prog.returns_bind.mp rest
      rcases Prog.returns_ite.mp ran with ⟨told, _⟩ | ⟨_, ran⟩
      · exact absurd told side
      rcases Prog.returns_ite.mp ran with ⟨up, ran⟩ | ⟨down, _⟩
      · obtain ⟨_, ran, _⟩ := Prog.returns_bind.mp ran
        obtain ⟨⟨⟨ret₁, dev⟩, w₁⟩, info', _⟩ := Prog.returns_bind.mp ran
        have calls : s.service.world.calls = w.calls := rel.calls
        obtain ⟨w₂, read, _⟩ := follows_getDeviceInfo calls zeroDevice _ _ info'
        have added : ∃ x, (UsbService.addDevice usbd (byteOfInt32 info.busNum)
            (byteOfInt32 info.devNum) w).Returns x := by
          by_cases ok : ret₁ ≠ .UEC_OK
          · exact ⟨_, Prog.returns_bind.mpr ⟨_, read, Prog.returns_ite.mpr
              (.inl ⟨ok, Prog.returns_pure.mpr rfl⟩)⟩⟩
          · exact ⟨_, Prog.returns_bind.mpr ⟨_, read, Prog.returns_ite.mpr
              (.inr ⟨ok, Prog.returns_pure.mpr rfl⟩)⟩⟩
        obtain ⟨x, added⟩ := added
        exact ⟨_, _, Prog.returns_ite.mpr (.inr ⟨side, Prog.returns_ite.mpr (.inl ⟨up,
          Prog.returns_bind.mpr ⟨x, added, Prog.returns_pure.mpr rfl⟩⟩)⟩)⟩
      · exact ⟨_, _, Prog.returns_ite.mpr (.inr ⟨side, Prog.returns_ite.mpr (.inr ⟨down,
          Prog.returns_pure.mpr rfl⟩)⟩)⟩

/-! ## Runs -/

theorem Refines.start (reply : QueryReply) : (started reply).Refines (.started reply) where
  calls := rfl
  rights := rfl
  managers := rfl
  devices := .empty
  tidy := UsbHostManager.tidy_empty

/-- What the pointers do the service does. -/
theorem simulates : Simulates Refines (fun label => [label]) (PointerStep usbd invalid)
    (ServiceStep usbd invalid) := by
  intro s label s' t rel step
  cases step with
  | @call caller outside call reply s' returned =>
    obtain ⟨s₁, served, rel'⟩ := @Refines.serve usbd invalid outside caller _ _ rel call
    cases returned.unique served
    exact ⟨_, .single .call, rel'⟩
  | report returned =>
    obtain ⟨_, t', handled⟩ := rel.handles returned
    obtain ⟨s₁, ran, rel'⟩ := rel.handle handled
    cases returned.unique ran
    exact ⟨t', .single (.report handled), rel'⟩

/-- What the service does the pointers do. -/
theorem simulated : Simulates (fun t s => Refines s t) (fun label => [label])
    (ServiceStep usbd invalid) (PointerStep usbd invalid) := by
  intro t label t' s rel step
  cases step with
  | call =>
    obtain ⟨s', served, rel'⟩ := rel.serve _
    exact ⟨s', .single (.call served), rel'⟩
  | report returned =>
    obtain ⟨s', ran, rel'⟩ := rel.handle returned
    exact ⟨s', .single (.report ran), rel'⟩

/-- The service carried out with pointers has the runs of the service, with the same
answers; its objects stand for the devices, and all that are alive are in the store. -/
theorem refines_run (usbd : Usbd) (invalid : UInt32) (reply : QueryReply)
    (history : List ServiceLabel) :
    (∀ s, Run (PointerStep usbd invalid) (started reply) history s →
      ∃ t, Run (ServiceStep usbd invalid) (.started reply) history t ∧ s.Refines t) ∧
    ∀ t, Run (ServiceStep usbd invalid) (.started reply) history t →
      ∃ s, Run (PointerStep usbd invalid) (started reply) history s ∧ s.Refines t := by
  have same : history.flatMap (fun label => [label]) = history := by simp
  constructor
  · intro s run
    have matched := simulates.run (.start reply) run
    rwa [same] at matched
  · intro t run
    have matched := simulated.run (.start reply) run
    rwa [same] at matched

/-- A step of the store is one of the service. -/
theorem step_of_deviceStep {info : UsbInfo} {label : DeviceLabel} {service : DeviceService}
    (side : ¬ (.ACT_UPDEVICE = info.status ∨ .ACT_DOWNDEVICE = info.status))
    (of : label.Of info) (step : DeviceService.Step usbd s.service label service) :
    PointerStep usbd invalid s (.report outside (.deviceEvent info) .UEC_OK)
      { s with service } := by
  have handled := DeviceService.returns_deviceEvent.mpr ⟨rfl, label, of, step⟩
  refine .report (Prog.returns_ite.mpr (.inr ⟨side, ?_⟩))
  exact Prog.returns_bind.mpr ⟨_, handled, Prog.returns_pure.mpr rfl⟩

/-- The devices of a store that holds them are listed. -/
theorem step_getDevices {v : HostManager} (rep : Represents s.service.host v) :
    ∃ deviceList, PointerStep usbd invalid s
      (.call caller outside .getDevices { deviceList }) s := by
  obtain ⟨deviceList, read, _⟩ := rep.getDevices []
  have listed : (s.service.getDevices []).Returns (.UEC_OK, deviceList) :=
    Prog.returns_bind.mpr ⟨_, Prog.returns_getOr.mpr read, Prog.returns_pure.mpr rfl⟩
  exact ⟨deviceList, .call (Prog.returns_bind.mpr ⟨_, listed, Prog.returns_pure.mpr rfl⟩)⟩

/-- A device takes the place of another, is listed and detached, and the list is read
again. -/
theorem refines_run_bare : ∃ deviceList deviceList' s t,
    let history : List ServiceLabel := [
      .report allowing (.deviceEvent ⟨.ACT_DEVUP, 1, 2⟩) .UEC_OK,
      .report allowing (.deviceEvent ⟨.ACT_DEVUP, 1, 2⟩) .UEC_OK,
      .call none allowing .getDevices { deviceList },
      .report allowing (.deviceEvent ⟨.ACT_DEVDOWN, 1, 2⟩) .UEC_OK,
      .call none allowing .getDevices { deviceList := deviceList' }]
    Run (PointerStep (DeviceService.bare 0) 0) (started allowing.queryPort) history s ∧
      Run (ServiceStep (DeviceService.bare 0) 0) (.started allowing.queryPort) history t ∧
      s.Refines t := by
  obtain ⟨dev, dev', s₁, s₂, s₃, ⟨_, first⟩, ⟨_, second⟩, ⟨_, third⟩⟩ :=
    DeviceService.replaces_bare 0
  have stored := (Run.start.step first).step second
  obtain ⟨_, rep₂, _⟩ := DeviceService.Holds.run stored
  obtain ⟨_, rep₃, _⟩ := DeviceService.Holds.run (stored.step third)
  let at_ (service : DeviceService) : PointerState := { started allowing.queryPort with service }
  have up : ¬ (DeviceAct.ACT_UPDEVICE = .ACT_DEVUP ∨ DeviceAct.ACT_DOWNDEVICE = .ACT_DEVUP) := by
    decide
  have down :
      ¬ (DeviceAct.ACT_UPDEVICE = .ACT_DEVDOWN ∨ DeviceAct.ACT_DOWNDEVICE = .ACT_DEVDOWN) := by
    decide
  obtain ⟨deviceList, listed⟩ :=
    @step_getDevices (DeviceService.bare 0) 0 allowing none (at_ s₂) _ rep₂
  obtain ⟨deviceList', listed'⟩ :=
    @step_getDevices (DeviceService.bare 0) 0 allowing none (at_ s₃) _ rep₃
  have run := ((((Run.start.step
    (@step_of_deviceStep _ 0 allowing (started allowing.queryPort) ⟨.ACT_DEVUP, 1, 2⟩
      (.attached 1 2 dev) s₁ up ⟨rfl, rfl, rfl⟩ first)).step
    (@step_of_deviceStep _ 0 allowing (at_ s₁) ⟨.ACT_DEVUP, 1, 2⟩
      (.attached 1 2 dev') s₂ up ⟨rfl, rfl, rfl⟩ second)).step listed).step
    (@step_of_deviceStep _ 0 allowing (at_ s₂) ⟨.ACT_DEVDOWN, 1, 2⟩
      (.detached 1 2 true) s₃ down ⟨by decide, rfl, rfl⟩ third)).step listed'
  obtain ⟨t, run', rel⟩ := (refines_run (DeviceService.bare 0) 0 allowing.queryPort _).1 _ run
  exact ⟨deviceList, deviceList', _, t, run, run', rel⟩

end PointerState

end UsbManager

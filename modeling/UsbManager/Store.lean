import UsbManager.Managers
import UsbManager.Lib.Heap
import UsbManager.Lib.Table

/-!
# The device store and its pointers

`devices_` maps the name of a device to a pointer to it.  `AddDevice` and
`DelDevice` are written here access by access (`HostThread`), so that a request
can be handled between two of them and a device can be read after it was freed.
Run to the end they do what `HostManager.addDevice` and `HostManager.delDevice`
say of the devices themselves (`Represents.delDevice`, `Represents.addDevice_new`).
-/

namespace UsbManager

/-- `UsbDevice *` -/
abbrev DevicePtr := Option Nat

/-- `UsbHostManager`, the devices it was given, and what it published. -/
structure UsbHostManager where
  heap : Heap UsbDevice := .empty
  devices : Std.TreeMap String DevicePtr := {}
  events : List CommonEvent := []

/-- What remains to be done of an operation, one access at a time. -/
inductive HostThread where
  | done (ret : Bool)
  | publish (event : CommonEvent) (next : HostThread)
  | read (dev : DevicePtr) (next : UsbDevice → HostThread)
  | find (name : String) (next : Option DevicePtr → HostThread)
  | delete (dev : DevicePtr) (next : HostThread)
  | erase (name : String) (next : HostThread)
  | insert (name : String) (dev : DevicePtr) (next : HostThread)

namespace UsbHostManager

/-- `PublishCommonEvent`; the callers ignore whether it succeeds. -/
def publishCommonEvent (m : UsbHostManager) (event : CommonEvent) : UsbHostManager :=
  { m with events := m.events ++ [event] }

/-- `DelDevice` -/
def delDevice (busNum devNum : UInt8) : HostThread :=
  let name := deviceName busNum devNum
  .find name fun iter =>
    match iter with
    | none => .done false
    | some none => .done false
    | some (some devOld) =>
      .read (some devOld) fun dev =>
        .publish (.detached dev) (.delete (some devOld) (.erase name (.done true)))

/-- `AddDevice` -/
def addDevice (dev : DevicePtr) : HostThread :=
  match dev with
  | none => .done false
  | some _ =>
    .read dev fun device => .publish (.attached device) (.read dev fun device =>
      let name := deviceName device.busNum device.devAddr
      .find name fun iter =>
        match iter with
        | none => .insert name dev (.done true)
        | some devOld => .delete devOld (.erase name (.insert name dev (.done true))))

/-- The caller of `AddDevice` has made the device. -/
def new (m : UsbHostManager) (dev : UsbDevice) : UsbHostManager :=
  { m with heap := m.heap.alloc dev }

/-- `GetDevices` of `UsbService`: it copies the map and reads the device behind each
pointer.  The devices are appended to `deviceList`; none where a device is read that is
no longer there. -/
def getDevices (m : UsbHostManager) (deviceList : List UsbDevice) : Option (List UsbDevice) :=
  (m.devices.toList.mapM fun it => m.heap.deref it.2).map (deviceList ++ ·)

end UsbHostManager

namespace HostThread

/-- One access, and the event that it publishes.  An object that is not alive can be
neither read nor deleted, and `delete nullptr` does nothing. -/
def step : HostThread → UsbHostManager →
    Option (Option CommonEvent × HostThread × UsbHostManager)
  | done _, _ => none
  | publish event next, m => some (some event, next, m.publishCommonEvent event)
  | read ptr next, m => (m.heap.deref ptr).map fun dev => (none, next dev, m)
  | find name next, m => some (none, next m.devices[name]?, m)
  | delete none next, m => some (none, next, m)
  | delete (some p) next, m =>
    (m.heap.cell p).map fun _ => (none, next, { m with heap := m.heap.free p })
  | erase name next, m => some (none, next, { m with devices := m.devices.erase name })
  | insert name ptr next, m =>
    some (none, next, { m with devices := m.devices.insertIfNew name ptr })

/-- All accesses to the end: the result, or none where an object is used that is not alive. -/
def run : HostThread → UsbHostManager → Option (Bool × UsbHostManager)
  | done ret, m => some (ret, m)
  | publish event next, m => next.run (m.publishCommonEvent event)
  | read ptr next, m => (m.heap.deref ptr).bind fun dev => (next dev).run m
  | find name next, m => (next m.devices[name]?).run m
  | delete none next, m => next.run m
  | delete (some p) next, m =>
    (m.heap.cell p).bind fun _ => next.run { m with heap := m.heap.free p }
  | erase name next, m => next.run { m with devices := m.devices.erase name }
  | insert name ptr next, m => next.run { m with devices := m.devices.insertIfNew name ptr }

/-- Every entry of the map points to an object that is alive. -/
def Live (m : UsbHostManager) : Prop :=
  ∀ (name : String) (ptr : DevicePtr), m.devices[name]? = some ptr →
    ∃ dev, m.heap.deref ptr = some dev

/-- The operation uses only objects that are alive and ends as `post` says.  All along it
leaves no entry dangling but one that it is about to erase. -/
def Safe (post : Bool → UsbHostManager → Prop) : HostThread → UsbHostManager → Prop
  | done ret, m => Live m ∧ post ret m
  | publish event next, m => Live m ∧ next.Safe post (m.publishCommonEvent event)
  | read ptr next, m => Live m ∧ ∃ dev, m.heap.deref ptr = some dev ∧ (next dev).Safe post m
  | find name next, m => Live m ∧ (next m.devices[name]?).Safe post m
  | delete none next, m => Live m ∧ next.Safe post m
  | delete (some p) next, m =>
    Live m ∧ ∃ dev, m.heap.cell p = some dev ∧ next.Safe post { m with heap := m.heap.free p }
  | erase name next, m => next.Safe post { m with devices := m.devices.erase name }
  | insert name ptr next, m =>
    Live m ∧ next.Safe post { m with devices := m.devices.insertIfNew name ptr }

/-- The operation changes nothing before it publishes its event. -/
def Quiet : HostThread → Prop
  | done _ => True
  | publish _ _ => True
  | read _ next => ∀ dev, (next dev).Quiet
  | find _ next => ∀ iter, (next iter).Quiet
  | delete _ _ => False
  | erase _ _ => False
  | insert _ _ _ => False

section Safe

variable {post : Bool → UsbHostManager → Prop} {t t' : HostThread} {m m' : UsbHostManager}
  {event : Option CommonEvent}

/-- A safe operation comes to its end. -/
theorem Safe.run (safe : t.Safe post m) :
    ∃ ret m', t.run m = some (ret, m') ∧ post ret m' ∧ m.events <+: m'.events := by
  induction t generalizing m with
  | done ret => exact ⟨ret, m, rfl, safe.2, List.prefix_refl _⟩
  | publish event next ih =>
    obtain ⟨ret, m', ran, ends, more⟩ := ih safe.2
    exact ⟨ret, m', ran, ends, (List.prefix_append _ _).trans more⟩
  | read ptr next ih =>
    obtain ⟨_, dev, alive, safe⟩ := safe
    rw [HostThread.run, alive]
    exact ih dev safe
  | find name next ih => exact ih _ safe.2
  | delete ptr next ih =>
    cases ptr with
    | none => exact ih safe.2
    | some p =>
      obtain ⟨_, dev, alive, safe⟩ := safe
      rw [HostThread.run, alive]
      exact ih safe
  | erase name next ih => exact @ih { m with devices := m.devices.erase name } safe
  | insert name ptr next ih => exact ih safe.2

theorem Safe.mono {post' : Bool → UsbHostManager → Prop} (safe : t.Safe post m)
    (weaker : ∀ ret m, post ret m → post' ret m) : t.Safe post' m := by
  induction t generalizing m with
  | done ret => exact ⟨safe.1, weaker ret m safe.2⟩
  | publish event next ih => exact ⟨safe.1, ih safe.2⟩
  | read ptr next ih =>
    obtain ⟨live, dev, alive, safe⟩ := safe
    exact ⟨live, dev, alive, ih dev safe⟩
  | find name next ih => exact ⟨safe.1, ih _ safe.2⟩
  | delete ptr next ih =>
    cases ptr with
    | none => exact ⟨safe.1, ih safe.2⟩
    | some p =>
      obtain ⟨live, dev, alive, safe⟩ := safe
      exact ⟨live, dev, alive, ih safe⟩
  | erase name next ih => exact @ih { m with devices := m.devices.erase name } safe
  | insert name ptr next ih => exact ⟨safe.1, ih safe.2⟩

/-- A step leaves a safe operation safe. -/
theorem Safe.step (safe : t.Safe post m) (stepped : t.step m = some (event, t', m')) :
    t'.Safe post m' := by
  cases t with
  | done ret => cases stepped
  | publish event next =>
    cases stepped
    exact safe.2
  | read ptr next =>
    obtain ⟨_, dev, alive, safe⟩ := safe
    rw [HostThread.step, alive] at stepped
    cases stepped
    exact safe
  | find name next =>
    cases stepped
    exact safe.2
  | delete ptr next =>
    cases ptr with
    | none =>
      cases stepped
      exact safe.2
    | some p =>
      obtain ⟨_, dev, alive, safe⟩ := safe
      rw [HostThread.step, alive] at stepped
      cases stepped
      exact safe
  | erase name next =>
    cases stepped
    exact safe
  | insert name ptr next =>
    cases stepped
    exact safe.2

/-- A safe operation leaves an entry dangling only before it erases it. -/
theorem Safe.live (safe : t.Safe post m) (elsewhere : ∀ name next, t ≠ .erase name next) :
    Live m := by
  cases t with
  | done ret => exact safe.1
  | publish event next => exact safe.1
  | read ptr next => exact safe.1
  | find name next => exact safe.1
  | delete ptr next =>
    cases ptr with
    | none => exact safe.1
    | some p => exact safe.1
  | erase name next => exact (elsewhere name next rfl).elim
  | insert name ptr next => exact safe.1

/-- Up to the event a quiet operation changes nothing. -/
theorem Quiet.step (quiet : t.Quiet) (stepped : t.step m = some (none, t', m')) :
    m' = m ∧ t'.Quiet := by
  cases t with
  | done ret => cases stepped
  | publish event next => cases stepped
  | read ptr next =>
    obtain ⟨dev, _, same⟩ := Option.map_eq_some_iff.mp stepped
    cases same
    exact ⟨rfl, quiet dev⟩
  | find name next =>
    cases stepped
    exact ⟨rfl, quiet _⟩
  | delete ptr next => exact quiet.elim
  | erase name next => exact quiet.elim
  | insert name ptr next => exact quiet.elim

/-- An event is published at the end of what has been published. -/
theorem events_of_step (stepped : t.step m = some (event, t', m')) :
    m'.events = m.events ++ event.toList := by
  cases t with
  | done ret => cases stepped
  | publish event next =>
    cases stepped
    rfl
  | read ptr next =>
    obtain ⟨dev, _, same⟩ := Option.map_eq_some_iff.mp stepped
    cases same
    exact (List.append_nil _).symm
  | find name next =>
    cases stepped
    exact (List.append_nil _).symm
  | delete ptr next =>
    cases ptr with
    | none =>
      cases stepped
      exact (List.append_nil _).symm
    | some p =>
      obtain ⟨dev, _, same⟩ := Option.map_eq_some_iff.mp stepped
      cases same
      exact (List.append_nil _).symm
  | erase name next =>
    cases stepped
    exact (List.append_nil _).symm
  | insert name ptr next =>
    cases stepped
    exact (List.append_nil _).symm

/-- A step frees an object only by deleting it. -/
theorem heap_of_step (stepped : t.step m = some (event, t', m')) :
    m'.heap = m.heap ∨ ∃ p next, t = .delete (some p) next ∧ m'.heap = m.heap.free p := by
  cases t with
  | done ret => cases stepped
  | publish event next =>
    cases stepped
    exact .inl rfl
  | read ptr next =>
    obtain ⟨dev, _, same⟩ := Option.map_eq_some_iff.mp stepped
    cases same
    exact .inl rfl
  | find name next =>
    cases stepped
    exact .inl rfl
  | delete ptr next =>
    cases ptr with
    | none =>
      cases stepped
      exact .inl rfl
    | some p =>
      obtain ⟨dev, _, same⟩ := Option.map_eq_some_iff.mp stepped
      cases same
      exact .inr ⟨p, _, rfl, rfl⟩
  | erase name next =>
    cases stepped
    exact .inl rfl
  | insert name ptr next =>
    cases stepped
    exact .inl rfl

end Safe

theorem quiet_delDevice (busNum devNum : UInt8) :
    (UsbHostManager.delDevice busNum devNum).Quiet := by
  intro iter
  cases iter with
  | none => trivial
  | some ptr =>
    cases ptr with
    | none => trivial
    | some p => exact fun dev => trivial

theorem quiet_addDevice (dev : DevicePtr) : (UsbHostManager.addDevice dev).Quiet := by
  cases dev with
  | none => trivial
  | some p => exact fun device => trivial

end HostThread

/-! ## The devices the pointers stand for -/

/-- The store holds the devices: each under its own name, in an object that is alive. -/
structure Represents (m : UsbHostManager) (v : HostManager) : Prop where
  entry : ∀ name : String, m.devices[name]?.map m.heap.deref = v.devices[name]?.map some
  named : ∀ {name : String} {dev : UsbDevice}, v.devices[name]? = some dev →
    name = deviceName dev.busNum dev.devAddr
  events : m.events = v.events

namespace Represents

variable {m : UsbHostManager} {v : HostManager}

theorem empty : Represents {} {} where
  entry name := by simp
  named there := by simp at there
  events := rfl

/-- Nothing is stored under a name, or a device in an object that is alive. -/
theorem lookup (rep : Represents m v) (name : String) :
    m.devices[name]? = none ∧ v.devices[name]? = none ∨
      ∃ p dev, m.devices[name]? = some (some p) ∧ m.heap.cell p = some dev ∧
        v.devices[name]? = some dev := by
  have entry := rep.entry name
  cases stored : m.devices[name]? with
  | none =>
    rw [stored] at entry
    cases told : v.devices[name]? with
    | none => exact .inl ⟨rfl, rfl⟩
    | some dev =>
      rw [told] at entry
      cases entry
  | some ptr =>
    rw [stored] at entry
    cases told : v.devices[name]? with
    | none =>
      rw [told] at entry
      cases entry
    | some dev =>
      rw [told] at entry
      have alive : m.heap.deref ptr = some dev := Option.some.inj entry
      cases ptr with
      | none => cases alive
      | some p => exact .inr ⟨p, dev, rfl, alive, rfl⟩

theorem of_stored (rep : Represents m v) {name : String} {ptr : DevicePtr}
    (stored : m.devices[name]? = some ptr) :
    ∃ p dev, ptr = some p ∧ m.heap.cell p = some dev ∧ v.devices[name]? = some dev := by
  rcases rep.lookup name with ⟨absent, _⟩ | ⟨p, dev, found, alive, told⟩
  · rw [stored] at absent
    cases absent
  · rw [stored] at found
    exact ⟨p, dev, Option.some.inj found, alive, told⟩

/-- An object is stored under one name only. -/
theorem apart (rep : Represents m v) {name name' : String} {p : Nat}
    (stored : m.devices[name]? = some (some p)) (stored' : m.devices[name']? = some (some p)) :
    name = name' := by
  obtain ⟨q, dev, same, alive, told⟩ := rep.of_stored stored
  obtain ⟨q', dev', same', alive', told'⟩ := rep.of_stored stored'
  cases same
  cases same'
  obtain rfl : dev = dev' := Option.some.inj (alive.symm.trans alive')
  exact (rep.named told).trans (rep.named told').symm

theorem publish (rep : Represents m v) (event : CommonEvent) :
    Represents (m.publishCommonEvent event) (v.publishCommonEvent event) where
  entry := rep.entry
  named := rep.named
  events := by
    unfold UsbHostManager.publishCommonEvent HostManager.publishCommonEvent
    rw [rep.events]

/-- A device that was made is not yet stored. -/
theorem new (rep : Represents m v) (dev : UsbDevice) : Represents (m.new dev) v where
  entry name := by
    rcases rep.lookup name with ⟨absent, untold⟩ | ⟨p, d, stored, alive, told⟩
    · change m.devices[name]?.map _ = _
      rw [absent, untold]
      rfl
    · change m.devices[name]?.map _ = _
      rw [stored, told]
      exact congrArg some (Heap.cell_alloc alive)
  named := rep.named
  events := rep.events

/-- A stored object is freed and its entry erased. -/
theorem drop (rep : Represents m v) {name : String} {p : Nat}
    (stored : m.devices[name]? = some (some p)) :
    Represents { m with heap := m.heap.free p, devices := m.devices.erase name }
      { v with devices := v.devices.erase name } where
  entry name' := by
    change ((m.devices.erase name)[name']?).map _ = ((v.devices.erase name)[name']?).map _
    rw [Table.getElem?_erase, Table.getElem?_erase]
    by_cases same : name' = name
    · rw [if_pos same, if_pos same]
      rfl
    · rw [if_neg same, if_neg same]
      rcases rep.lookup name' with ⟨absent, untold⟩ | ⟨q, d, stored', alive, told⟩
      · rw [absent, untold]
        rfl
      · have other : q ≠ p := by
          intro eq
          exact same (rep.apart (eq ▸ stored') stored)
        rw [stored', told]
        exact congrArg some ((Heap.cell_free_of_ne other).trans alive)
  named := by
    intro name' dev told
    change (v.devices.erase name)[name']? = _ at told
    rw [Table.getElem?_erase] at told
    split at told
    · cases told
    · exact rep.named told
  events := rep.events

/-- An object that is alive is stored under the name of its device, where nothing is. -/
theorem put (rep : Represents m v) {p : Nat} {dev : UsbDevice} (alive : m.heap.cell p = some dev)
    (absent : v.devices[deviceName dev.busNum dev.devAddr]? = none) :
    Represents
      { m with devices := m.devices.insertIfNew (deviceName dev.busNum dev.devAddr) (some p) }
      { v with devices := v.devices.insertIfNew (deviceName dev.busNum dev.devAddr) dev } where
  entry name := by
    have free : m.devices[deviceName dev.busNum dev.devAddr]? = none := by
      rcases rep.lookup (deviceName dev.busNum dev.devAddr) with ⟨free, _⟩ | ⟨_, _, _, _, told⟩
      · exact free
      · rw [absent] at told
        cases told
    change ((m.devices.insertIfNew _ _)[name]?).map _ = ((v.devices.insertIfNew _ _)[name]?).map _
    rw [Table.getElem?_insertIfNew, Table.getElem?_insertIfNew, free, absent]
    by_cases same : name = deviceName dev.busNum dev.devAddr
    · rw [if_pos same, if_pos same]
      exact congrArg some alive
    · rw [if_neg same, if_neg same]
      exact rep.entry name
  named := by
    intro name d told
    change (v.devices.insertIfNew _ _)[name]? = _ at told
    rw [Table.getElem?_insertIfNew, absent] at told
    by_cases same : name = deviceName dev.busNum dev.devAddr
    · rw [if_pos same] at told
      cases told
      exact same
    · rw [if_neg same] at told
      exact rep.named told
  events := rep.events

/-! ### Whole operations -/

theorem live (rep : Represents m v) : HostThread.Live m := by
  intro name ptr stored
  obtain ⟨p, dev, rfl, alive, _⟩ := rep.of_stored stored
  exact ⟨dev, alive⟩

/-- `DelDevice` does to the store what it does to the devices. -/
theorem safe_delDevice (rep : Represents m v) (busNum devNum : UInt8) :
    (UsbHostManager.delDevice busNum devNum).Safe
      (fun ret m' => ret = (v.delDevice busNum devNum).1 ∧
        Represents m' (v.delDevice busNum devNum).2) m := by
  unfold UsbHostManager.delDevice HostManager.delDevice
  dsimp only
  refine ⟨rep.live, ?_⟩
  rcases rep.lookup (deviceName busNum devNum) with ⟨absent, untold⟩ | ⟨p, dev, stored, alive, told⟩
  · rw [absent, untold]
    exact ⟨rep.live, rfl, rep⟩
  · rw [stored, told]
    have announced := rep.publish (.detached dev)
    have dropped := announced.drop stored
    exact ⟨rep.live, dev, alive, rep.live, announced.live, dev, alive, dropped.live, rfl, dropped⟩

/-- `AddDevice` does to the store what it does to the devices. -/
theorem safe_addDevice (rep : Represents m v) {p : Nat} {dev : UsbDevice}
    (alive : m.heap.cell p = some dev)
    (unstored : ∀ name : String, m.devices[name]? ≠ some (some p)) :
    (UsbHostManager.addDevice (some p)).Safe
      (fun ret m' => ret = (v.addDevice dev).1 ∧ Represents m' (v.addDevice dev).2) m := by
  have announced := rep.publish (.attached dev)
  unfold HostManager.addDevice
  dsimp only
  refine ⟨rep.live, dev, alive, rep.live, announced.live, dev, alive, announced.live, ?_⟩
  rcases announced.lookup (deviceName dev.busNum dev.devAddr) with
    ⟨absent, untold⟩ | ⟨q, devOld, stored, alive', told⟩
  · rw [absent, untold]
    have put := announced.put alive untold
    exact ⟨announced.live, put.live, rfl, put⟩
  · rw [stored, told]
    have apart : p ≠ q := by
      intro same
      exact unstored _ (same ▸ stored)
    have dropped := announced.drop stored
    have kept : ((m.publishCommonEvent (.attached dev)).heap.free q).cell p = some dev :=
      (Heap.cell_free_of_ne apart).trans alive
    have erased : ((v.publishCommonEvent (.attached dev)).devices.erase
        (deviceName dev.busNum dev.devAddr))[deviceName dev.busNum dev.devAddr]? = none := by
      rw [Table.getElem?_erase, if_pos rfl]
    have put := dropped.put kept erased
    exact ⟨announced.live, devOld, alive', dropped.live, put.live, rfl, put⟩

/-- A device that has just been made is safely added. -/
theorem safe_addDevice_new (rep : Represents m v) (dev : UsbDevice) :
    (UsbHostManager.addDevice (some m.heap.next)).Safe
      (fun ret m' => ret = (v.addDevice dev).1 ∧ Represents m' (v.addDevice dev).2)
      (m.new dev) := by
  refine (rep.new dev).safe_addDevice Heap.cell_alloc_next fun name stored => ?_
  obtain ⟨p, d, same, alive, _⟩ := rep.of_stored stored
  cases same
  exact Heap.ne_next alive rfl

/-- `DelDevice`, run to its end. -/
theorem delDevice (rep : Represents m v) (busNum devNum : UInt8) :
    ∃ m', (UsbHostManager.delDevice busNum devNum).run m =
        some ((v.delDevice busNum devNum).1, m') ∧
      Represents m' (v.delDevice busNum devNum).2 := by
  obtain ⟨ret, m', ran, ⟨rfl, rep'⟩, _⟩ := (rep.safe_delDevice busNum devNum).run
  exact ⟨m', ran, rep'⟩

/-- `AddDevice` of a device that has just been made, run to its end. -/
theorem addDevice_new (rep : Represents m v) (dev : UsbDevice) :
    ∃ m', (UsbHostManager.addDevice (some m.heap.next)).run (m.new dev) =
        some ((v.addDevice dev).1, m') ∧
      Represents m' (v.addDevice dev).2 := by
  obtain ⟨ret, m', ran, ⟨rfl, rep'⟩, _⟩ := (rep.safe_addDevice_new dev).run
  exact ⟨m', ran, rep'⟩

/-- `GetDevices` reads every device, and lists under each name what is stored there. -/
theorem getDevices (rep : Represents m v) (deviceList : List UsbDevice) :
    ∃ devices, m.getDevices deviceList = some (deviceList ++ devices) ∧
      (∀ dev ∈ devices, v.devices[deviceName dev.busNum dev.devAddr]? = some dev) ∧
      ∀ name, devices.filter (fun dev => deviceName dev.busNum dev.devAddr = name) =
        v.devices[name]?.toList := by
  let device (it : String × DevicePtr) : UsbDevice := (m.heap.deref it.2).getD {}
  have inside : ∀ it ∈ m.devices.toList,
      m.heap.deref it.2 = some (device it) ∧ v.devices[it.1]? = some (device it) := by
    intro it there
    have stored := Std.TreeMap.mem_toList_iff_getElem?_eq_some.mp there
    obtain ⟨p, dev, same, alive, told⟩ := rep.of_stored stored
    have found : m.heap.deref it.2 = some dev := by
      rw [same]
      exact alive
    have read : device it = dev := by
      change (m.heap.deref it.2).getD {} = dev
      rw [found]
      rfl
    rw [read]
    exact ⟨found, told⟩
  refine ⟨m.devices.toList.map device, ?_, ?_, ?_⟩
  · unfold UsbHostManager.getDevices
    rw [Table.mapM_eq_map fun it there => (inside it there).1]
    rfl
  · intro dev there
    obtain ⟨it, listed, rfl⟩ := List.mem_map.mp there
    have told := (inside it listed).2
    rw [← rep.named told]
    exact told
  · intro name
    rw [Table.filter_map_toList m.devices device _ name]
    · rcases rep.lookup name with ⟨absent, untold⟩ | ⟨p, dev, stored, alive, told⟩
      · rw [absent, untold]
        rfl
      · rw [stored, told]
        change [(m.heap.cell p).getD {}] = [dev]
        rw [alive]
        rfl
    · intro it there
      rw [← rep.named (inside it there).2]

end Represents

end UsbManager

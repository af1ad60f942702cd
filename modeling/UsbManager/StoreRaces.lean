import UsbManager.Lib.Run
import UsbManager.Store

/-!
# Requests between the accesses of an event

A device event is handled access by access, and requests of clients are handled
in between: `UsbService` has a mutex but does not take it.  `current_of_calm`
and `live_of_careful` say when `GetDevices` tells what was published, and when
it reads no device that was freed.
-/

namespace UsbManager

/-- The store, what remains of the operation on it, whether that has published its event,
and the pointers that each unfinished `GetDevices` has still to read. -/
structure Race where
  host : UsbHostManager := {}
  thread : HostThread := .done true
  published : Bool := false
  snapshots : List (List DevicePtr) := []

/-- Who goes next: the service begins to attach or detach a device or makes its next
access, a `GetDevices` is handled at once, or one copies the map or reads a device. -/
inductive RaceAct where
  | attach (dev : UsbDevice)
  | detach (busNum devNum : UInt8)
  | access
  | request
  | copy
  | read (i : Nat)
  deriving DecidableEq, Repr

/-- What was done: the event an access has published, what was answered or read. -/
inductive RaceLabel where
  | attach (dev : UsbDevice)
  | detach (busNum devNum : UInt8)
  | access (event : Option CommonEvent)
  | request (answer : Option (List UsbDevice))
  | copy
  | read (i : Nat) (dev : Option UsbDevice)
  deriving DecidableEq, Repr

def RaceLabel.act : RaceLabel → RaceAct
  | attach dev => .attach dev
  | detach busNum devNum => .detach busNum devNum
  | access _ => .access
  | request _ => .request
  | copy => .copy
  | read i _ => .read i

/-- Nothing remains to be done. -/
def HostThread.ended : HostThread → Bool
  | done _ => true
  | _ => false

namespace Race

def next (s : Race) : RaceAct → Option (RaceLabel × Race)
  | .attach dev =>
    if s.thread.ended then
      some (.attach dev, { s with
        host := s.host.new dev
        thread := UsbHostManager.addDevice (some s.host.heap.next)
        published := false })
    else none
  | .detach busNum devNum =>
    if s.thread.ended then
      some (.detach busNum devNum, { s with
        thread := UsbHostManager.delDevice busNum devNum
        published := false })
    else none
  | .access =>
    (s.thread.step s.host).map fun (event, thread, host) =>
      (.access event, { s with host, thread, published := s.published || event.isSome })
  | .request => some (.request (s.host.getDevices []), s)
  | .copy =>
    some (.copy, { s with snapshots := s.snapshots ++ [s.host.devices.toList.map Prod.snd] })
  | .read i =>
    match s.snapshots[i]? with
    | some (ptr :: rest) =>
      some (.read i (s.host.heap.deref ptr), { s with snapshots := s.snapshots.set i rest })
    | _ => none

def Step (s : Race) (label : RaceLabel) (s' : Race) : Prop :=
  s.next label.act = some (label, s')

theorem act_of_next {s s' : Race} {act : RaceAct} {label : RaceLabel}
    (taken : s.next act = some (label, s')) : label.act = act := by
  cases act with
  | attach dev =>
    obtain ⟨_, same⟩ := Option.ite_none_right_eq_some.mp taken
    cases same
    rfl
  | detach busNum devNum =>
    obtain ⟨_, same⟩ := Option.ite_none_right_eq_some.mp taken
    cases same
    rfl
  | access =>
    obtain ⟨_, _, same⟩ := Option.map_eq_some_iff.mp taken
    cases same
    rfl
  | request =>
    cases taken
    rfl
  | copy =>
    cases taken
    rfl
  | read i =>
    rw [next] at taken
    split at taken
    · cases taken
      rfl
    · cases taken

/-- The acts, one after the other and as long as `allowed` permits what is done: what was
done, and the state it leads to. -/
def play (allowed : Race → RaceLabel → Bool) :
    List RaceAct → Race → Option (List RaceLabel × Race)
  | [], s => some ([], s)
  | act :: acts, s =>
    (s.next act).bind fun (label, s') =>
      if allowed s label then
        (play allowed acts s').map fun (labels, last) => (label :: labels, last)
      else none

/-- What is played is a run. -/
theorem run_of_play {allowed : Race → RaceLabel → Bool} {acts : List RaceAct} :
    ∀ {history labels : List RaceLabel} {s s' : Race},
      Run (Guarded (fun s label => allowed s label = true) Step) {} history s →
      play allowed acts s = some (labels, s') →
      Run (Guarded (fun s label => allowed s label = true) Step) {} (history ++ labels) s' := by
  induction acts with
  | nil =>
    intro history labels s s' run played
    cases played
    rwa [List.append_nil]
  | cons act acts ih =>
    intro history labels s s' run played
    obtain ⟨⟨label, s₁⟩, taken, rest⟩ := Option.bind_eq_some_iff.mp played
    obtain ⟨fine, rest⟩ := Option.ite_none_right_eq_some.mp rest
    obtain ⟨⟨later, s₂⟩, onward, same⟩ := Option.map_eq_some_iff.mp rest
    cases same
    obtain rfl := act_of_next taken
    have whole := ih (run.step ⟨fine, taken⟩) onward
    rwa [List.append_assoc] at whole

theorem ended_iff {t : HostThread} : t.ended = true ↔ ∃ ret, t = .done ret := by
  cases t with
  | done ret => exact ⟨fun _ => ⟨ret, rfl⟩, fun _ => rfl⟩
  | _ =>
    refine ⟨fun ended => (by cases ended), fun ended => ?_⟩
    obtain ⟨_, same⟩ := ended
    cases same

/-! ## What was published is what is listed -/

/-- What is said of a name: a device was announced under it, or its detach began. -/
def listed? (name : String) : RaceLabel → Option (Option UsbDevice)
  | .access (some (.attached dev)) =>
    if deviceName dev.busNum dev.devAddr = name then some (some dev) else none
  | .detach busNum devNum => if deviceName busNum devNum = name then some none else none
  | _ => none

/-- What is said of a name: that its device is gone was announced, or a new attach began. -/
def gone? (name : String) : RaceLabel → Option Bool
  | .access (some (.detached dev)) =>
    if deviceName dev.busNum dev.devAddr = name then some true else none
  | .attach dev => if deviceName dev.busNum dev.devAddr = name then some false else none
  | _ => none

/-- No request is handled between an event and the end of the operation that published it. -/
def calm (s : Race) : RaceLabel → Bool
  | .request _ => !s.published || s.thread.ended
  | _ => true

/-- The devices are as the events have told. -/
def Told (history : List RaceLabel) (v : HostManager) : Prop :=
  ∀ name : String, (∀ dev, lastSome (listed? name) history = some (some dev) →
      v.devices[name]? = some dev) ∧
    (lastSome (gone? name) history = some true → v.devices[name]? = none)

/-- The operation in progress makes `v'` of `v`, and its begin is the last that was said
of its name. -/
inductive Begun (history : List RaceLabel) (v : HostManager) : HostManager → Prop
  | adding {dev : UsbDevice} :
    lastSome (gone? (deviceName dev.busNum dev.devAddr)) history = some false →
    Begun history v (v.addDevice dev).2
  | deleting {busNum devNum : UInt8} :
    lastSome (listed? (deviceName busNum devNum)) history = some none →
    Begun history v (v.delDevice busNum devNum).2

/-- Where the operation is: before its event, the store is as it was; from then on, it
will be as was told. -/
inductive Phase (history : List RaceLabel) (s : Race) : Prop
  | before {v v' : HostManager} :
    s.published = false → s.thread.Quiet → Represents s.host v → Told history v →
    Begun history v v' → s.thread.Safe (fun _ m => Represents m v') s.host → Phase history s
  | after {v : HostManager} :
    (s.published = true ∨ s.thread.ended = true) → s.host.events = v.events → Told history v →
    s.thread.Safe (fun _ m => Represents m v) s.host → Phase history s

variable {history : List RaceLabel} {s s' : Race} {v v' : HostManager} {label : RaceLabel}

/-- Outside of the window the store is as was told. -/
theorem Phase.told (phase : Phase history s) (quiet : s.published = false ∨ s.thread.ended = true) :
    ∃ v, Represents s.host v ∧ Told history v := by
  cases phase with
  | @before v v' _ _ rep told _ _ => exact ⟨v, rep, told⟩
  | @after v shown _ told safe =>
    have ended : s.thread.ended = true := by
      rcases quiet with unpublished | ended
      · rcases shown with published | ended
        · rw [unpublished] at published
          cases published
        · exact ended
      · exact ended
    obtain ⟨ret, same⟩ := ended_iff.mp ended
    rw [same] at safe
    exact ⟨v, safe.2, told⟩

/-- Only an event that is published says something new of the devices. -/
theorem Told.concat (told : Told history v)
    (attaches : ∀ name dev, listed? name label ≠ some (some dev))
    (detaches : ∀ name, gone? name label ≠ some true) : Told (history ++ [label]) v := by
  intro name
  rw [lastSome_concat, lastSome_concat]
  constructor
  · intro dev last
    cases about : listed? name label with
    | none =>
      rw [about] at last
      exact (told name).1 dev last
    | some device =>
      rw [about] at last
      cases last
      exact (attaches name dev about).elim
  · intro last
    cases about : gone? name label with
    | none =>
      rw [about] at last
      exact (told name).2 last
    | some gone =>
      rw [about] at last
      cases last
      exact (detaches name about).elim

theorem Told.attached (told : Told history v) {dev : UsbDevice}
    (begun : lastSome (gone? (deviceName dev.busNum dev.devAddr)) history = some false) :
    Told (history ++ [.access (some (.attached dev))]) (v.addDevice dev).2 := by
  intro name
  rw [lastSome_concat, lastSome_concat, HostManager.getElem?_addDevice]
  by_cases own : deviceName dev.busNum dev.devAddr = name
  · have about : listed? name (.access (some (.attached dev))) = some (some dev) := if_pos own
    rw [about, ← own, if_pos rfl]
    constructor
    · intro dev' last
      exact congrArg some (Option.some.inj (Option.some.inj last))
    · intro last
      have last : lastSome (gone? (deviceName dev.busNum dev.devAddr)) history = some true := last
      rw [begun] at last
      cases last
  · have silent : listed? name (.access (some (.attached dev))) = none := if_neg own
    rw [silent, if_neg fun same => own same.symm]
    exact told name

theorem Told.detached (told : Told history v) {busNum devNum : UInt8} {dev : UsbDevice}
    (named : deviceName dev.busNum dev.devAddr = deviceName busNum devNum)
    (begun : lastSome (listed? (deviceName busNum devNum)) history = some none) :
    Told (history ++ [.access (some (.detached dev))]) (v.delDevice busNum devNum).2 := by
  intro name
  rw [lastSome_concat, lastSome_concat, HostManager.getElem?_delDevice]
  by_cases own : deviceName busNum devNum = name
  · rw [← own, if_pos rfl]
    constructor
    · intro dev' last
      have last : lastSome (listed? (deviceName busNum devNum)) history = some (some dev') := last
      rw [begun] at last
      cases last
    · exact fun _ => rfl
  · have silent : gone? name (.access (some (.detached dev))) = none :=
      if_neg fun same => own (named.symm.trans same)
    rw [silent, if_neg fun same => own same.symm]
    exact told name

/-- A label that tells nothing of any device. -/
def Silent (label : RaceLabel) : Prop :=
  ∀ name, listed? name label = none ∧ gone? name label = none

theorem Told.silent (told : Told history v) (silent : Silent label) :
    Told (history ++ [label]) v := by
  refine told.concat (fun name dev => ?_) fun name => ?_
  · rw [(silent name).1]
    simp
  · rw [(silent name).2]
    simp

theorem Begun.silent (begun : Begun history v v') (silent : Silent label) :
    Begun (history ++ [label]) v v' := by
  cases begun with
  | @adding dev last =>
    refine .adding ?_
    rw [lastSome_concat, (silent _).2]
    exact last
  | @deleting busNum devNum last =>
    refine .deleting ?_
    rw [lastSome_concat, (silent _).1]
    exact last

/-- What a client does tells nothing. -/
theorem Phase.silent (phase : Phase history s) (silent : Silent label)
    (snapshots : List (List DevicePtr)) :
    Phase (history ++ [label]) { s with snapshots } := by
  cases phase with
  | before unpublished quiet rep told begun safe =>
    exact .before unpublished quiet rep (told.silent silent) (begun.silent silent) safe
  | after shown events told safe => exact .after shown events (told.silent silent) safe

/-- The event that an operation publishes is the one of its device. -/
theorem Phase.publish {event : CommonEvent} {t : HostThread} {m : UsbHostManager}
    (rep : Represents s.host v) (told : Told history v) (begun : Begun history v v')
    (safe : s.thread.Safe (fun _ m => Represents m v') s.host)
    (stepped : s.thread.step s.host = some (some event, t, m)) :
    Told (history ++ [.access (some event)]) v' ∧ m.events = v'.events := by
  have published := HostThread.events_of_step stepped
  obtain ⟨_, m', _, rep', more⟩ := (safe.step stepped).run
  rw [published, rep.events, rep'.events, Option.toList_some] at more
  rw [published, rep.events, Option.toList_some]
  cases begun with
  | @adding dev last =>
    rw [HostManager.addDevice_events] at more ⊢
    obtain rfl : event = .attached dev := by
      simpa using (List.prefix_append_right_inj _).mp more
    exact ⟨told.attached last, rfl⟩
  | @deleting busNum devNum last =>
    rw [HostManager.delDevice_events] at more ⊢
    have more := (List.prefix_append_right_inj _).mp more
    cases stored : v.devices[deviceName busNum devNum]? with
    | none =>
      rw [stored] at more
      simp at more
    | some dev =>
      rw [stored] at more
      obtain rfl : event = .detached dev := by simpa using more
      exact ⟨told.detached (rep.named stored).symm last, rfl⟩

/-- An access of the operation in progress. -/
theorem Phase.access {event : Option CommonEvent} {t : HostThread} {m : UsbHostManager}
    (phase : Phase history s) (stepped : s.thread.step s.host = some (event, t, m)) :
    Phase (history ++ [.access event])
      { s with host := m, thread := t, published := s.published || event.isSome } := by
  cases phase with
  | @before v v' unpublished quiet rep told begun safe =>
    cases event with
    | none =>
      obtain ⟨rfl, quiet'⟩ := quiet.step stepped
      have silent : Silent (.access none) := fun name => ⟨rfl, rfl⟩
      refine .before ?_ quiet' rep (told.silent silent) (begun.silent silent) (safe.step stepped)
      rw [unpublished]
      rfl
    | some event =>
      obtain ⟨told', events⟩ := Phase.publish rep told begun safe stepped
      exact .after (.inl (Bool.or_true _)) events told' (safe.step stepped)
  | @after v shown events told safe =>
    have published := HostThread.events_of_step stepped
    obtain ⟨_, m', _, rep', more⟩ := (safe.step stepped).run
    rw [published, events, rep'.events] at more
    cases event with
    | some event =>
      have length := more.length_le
      simp at length
    | none =>
      have silent : Silent (.access none) := fun name => ⟨rfl, rfl⟩
      refine .after (.inl ?_) ?_ (told.silent silent) (safe.step stepped)
      · rcases shown with shown | ended
        · rw [shown]
          rfl
        · obtain ⟨ret, same⟩ := ended_iff.mp ended
          rw [same] at stepped
          cases stepped
      · rw [published, Option.toList_none, List.append_nil, events]

theorem Phase.step (phase : Phase history s) (taken : Step s label s') :
    Phase (history ++ [label]) s' := by
  cases label with
  | attach dev =>
    obtain ⟨ended, same⟩ := Option.ite_none_right_eq_some.mp taken
    cases same
    obtain ⟨v, rep, told⟩ := phase.told (.inr ended)
    refine .before rfl (HostThread.quiet_addDevice (some s.host.heap.next)) (rep.new dev)
      (told.concat ?_ ?_) (.adding ?_) ((rep.safe_addDevice_new dev).mono fun _ _ ends => ends.2)
    · intro name dev' about
      cases about
    · intro name about
      change (if _ then some false else none) = some true at about
      split at about
      · cases about
      · cases about
    · rw [lastSome_concat]
      have own : gone? (deviceName dev.busNum dev.devAddr) (.attach dev) = some false := if_pos rfl
      rw [own]
      rfl
  | detach busNum devNum =>
    obtain ⟨ended, same⟩ := Option.ite_none_right_eq_some.mp taken
    cases same
    obtain ⟨v, rep, told⟩ := phase.told (.inr ended)
    refine .before rfl (HostThread.quiet_delDevice busNum devNum) rep (told.concat ?_ ?_)
      (.deleting ?_) ((rep.safe_delDevice busNum devNum).mono fun _ _ ends => ends.2)
    · intro name dev about
      change (if _ then some none else none) = some (some dev) at about
      split at about
      · cases about
      · cases about
    · intro name about
      cases about
    · rw [lastSome_concat]
      have own : listed? (deviceName busNum devNum) (.detach busNum devNum) = some none :=
        if_pos rfl
      rw [own]
      rfl
  | access event =>
    obtain ⟨⟨event, t, m⟩, stepped, same⟩ := Option.map_eq_some_iff.mp taken
    cases same
    exact phase.access stepped
  | request answer =>
    cases taken
    exact phase.silent (fun name => ⟨rfl, rfl⟩) _
  | copy =>
    cases taken
    exact phase.silent (fun name => ⟨rfl, rfl⟩) _
  | read i dev =>
    change (match s.snapshots[i]? with | some (ptr :: rest) => _ | _ => none) = _ at taken
    split at taken
    · cases taken
      exact phase.silent (fun name => ⟨rfl, rfl⟩) _
    · cases taken

theorem Phase.run (run : Run Step {} history s) : Phase history s := by
  refine run.invariant ?_ fun _ _ _ _ phase taken => phase.step taken
  refine .after (.inr rfl) rfl (fun name => ?_) ⟨Represents.empty.live, .empty⟩
  exact ⟨fun dev last => (by cases last), fun last => (by cases last)⟩

def someDevice : UsbDevice := { busNum := 1, devAddr := 2, name := "1-2" }

/-- A device is deleted only when no `GetDevices` has still to read it, and the map is
copied only while no entry dangles. -/
def careful (s : Race) : RaceLabel → Bool
  | .access _ =>
    match s.thread with
    | .delete (some p) _ => s.snapshots.all fun snapshot => some p ∉ snapshot
    | _ => true
  | .copy =>
    match s.thread with
    | .erase _ _ => false
    | _ => true
  | _ => true

/-- The operation in progress is safe, and the pointers that are still to be read point
to objects that are alive. -/
structure Readable (s : Race) : Prop where
  safe : s.thread.Safe (fun _ m => ∃ v, Represents m v) s.host
  alive : ∀ snapshot ∈ s.snapshots, ∀ ptr ∈ snapshot, ∃ dev, s.host.heap.deref ptr = some dev

theorem deref_new {m : UsbHostManager} {ptr : DevicePtr} (dev : UsbDevice)
    (alive : ∃ d, m.heap.deref ptr = some d) : ∃ d, (m.new dev).heap.deref ptr = some d := by
  obtain ⟨d, alive⟩ := alive
  cases ptr with
  | none => cases alive
  | some p => exact ⟨d, Heap.cell_alloc alive⟩

/-- An operation that has ended leaves a store that holds its devices. -/
theorem Readable.represents (readable : Readable s) (ended : s.thread.ended = true) :
    ∃ v, Represents s.host v := by
  obtain ⟨ret, same⟩ := ended_iff.mp ended
  have safe := readable.safe
  rw [same] at safe
  exact safe.2

theorem Readable.step (readable : Readable s) (fine : s.careful label = true)
    (taken : Step s label s') : Readable s' := by
  cases label with
  | attach dev =>
    obtain ⟨ended, same⟩ := Option.ite_none_right_eq_some.mp taken
    cases same
    obtain ⟨v, rep⟩ := readable.represents ended
    refine ⟨(rep.safe_addDevice_new dev).mono fun _ _ ends => ⟨_, ends.2⟩, ?_⟩
    intro snapshot there ptr inside
    exact deref_new dev (readable.alive snapshot there ptr inside)
  | detach busNum devNum =>
    obtain ⟨ended, same⟩ := Option.ite_none_right_eq_some.mp taken
    cases same
    obtain ⟨v, rep⟩ := readable.represents ended
    exact ⟨(rep.safe_delDevice busNum devNum).mono fun _ _ ends => ⟨_, ends.2⟩, readable.alive⟩
  | access event =>
    obtain ⟨⟨event, t, m⟩, stepped, same⟩ := Option.map_eq_some_iff.mp taken
    cases same
    refine ⟨readable.safe.step stepped, fun snapshot there ptr inside => ?_⟩
    have alive := readable.alive snapshot there ptr inside
    change ∃ dev, m.heap.deref ptr = some dev
    rcases HostThread.heap_of_step stepped with kept | ⟨p, rest, here, freed⟩
    · rw [kept]
      exact alive
    · rw [freed]
      obtain ⟨dev, alive⟩ := alive
      cases ptr with
      | none => cases alive
      | some q =>
        have other : q ≠ p := by
          intro same
          subst same
          simp only [careful, here, List.all_eq_true, decide_eq_true_eq] at fine
          exact fine snapshot there inside
        exact ⟨dev, (Heap.cell_free_of_ne other).trans alive⟩
  | request answer =>
    cases taken
    exact readable
  | copy =>
    cases taken
    refine ⟨readable.safe, fun snapshot there ptr inside => ?_⟩
    rcases List.mem_append.mp there with earlier | new
    · exact readable.alive snapshot earlier ptr inside
    · obtain rfl := List.mem_singleton.mp new
      obtain ⟨⟨name, ptr⟩, listed, rfl⟩ := List.mem_map.mp inside
      have elsewhere : ∀ name next, s.thread ≠ .erase name next := by
        intro name next here
        simp [careful, here] at fine
      exact readable.safe.live elsewhere name ptr
        (Std.TreeMap.mem_toList_iff_getElem?_eq_some.mp listed)
  | read i dev =>
    change (match s.snapshots[i]? with | some (ptr :: rest) => _ | _ => none) = _ at taken
    split at taken
    next ptr rest here =>
      cases taken
      refine ⟨readable.safe, fun snapshot there ptr' inside => ?_⟩
      rcases List.mem_or_eq_of_mem_set there with earlier | rfl
      · exact readable.alive snapshot earlier ptr' inside
      · exact readable.alive _ (List.mem_of_getElem? here) ptr' (List.mem_cons_of_mem ptr inside)
    next => cases taken

theorem Readable.run
    (run : Run (Guarded (fun s label => s.careful label = true) Step) {} history s) :
    Readable s := by
  refine @Run.invariant _ _ _ _ _ _ (fun _ => Readable) ?_ ?_ run
  · exact ⟨⟨Represents.empty.live, {}, .empty⟩, fun snapshot there => (by cases there)⟩
  · exact fun _ _ _ _ readable taken => readable.step taken.1 taken.2

/-- Every read of a `GetDevices` finds its device where no device is deleted that has
still to be read, and none is freed when the map is copied. -/
theorem live_of_careful {history : List RaceLabel} {s : Race}
    (run : Run (Guarded (fun s label => s.careful label = true) Step) {} history s) :
    ∀ before i dev after, history = before ++ .read i dev :: after → dev ≠ none := by
  intro before i dev after whole
  rw [whole] at run
  obtain ⟨s₁, s₂, earlier, _, taken⟩ := run.split
  have readable := Readable.run earlier
  change (match s₁.snapshots[i]? with | some (ptr :: rest) => _ | _ => none) = _ at taken
  split at taken
  next ptr rest here =>
    cases taken
    obtain ⟨dev, alive⟩ := readable.alive _ (List.mem_of_getElem? here) ptr List.mem_cons_self
    rw [alive]
    simp
  next => cases taken

/-- A device is attached, the map copied and the device read. -/
theorem live_of_careful_attached :
    ∃ s dev, Run Step {} [.attach someDevice, .access none, .access (some (.attached someDevice)),
        .access none, .access none, .access none, .copy, .read 0 dev] s ∧ dev ≠ none := by
  let labels : List RaceLabel := [.attach someDevice, .access none,
    .access (some (.attached someDevice)), .access none, .access none, .access none, .copy]
  have played : (play careful [.attach someDevice, .access, .access, .access, .access, .access,
      .copy, .read 0] {}).map Prod.fst = some (labels ++ [.read 0 (some someDevice)]) := by
    decide +kernel
  obtain ⟨⟨_, s⟩, played, rfl⟩ := Option.map_eq_some_iff.mp played
  have run := run_of_play .start played
  exact ⟨s, _, run.unguarded, live_of_careful run labels 0 (some someDevice) [] rfl⟩

/-- The map is copied, the device is detached, and then read. -/
theorem not_live_detached :
    ¬ ∀ history s, Run Step {} history s →
      ∀ before i dev after, history = before ++ .read i dev :: after → dev ≠ none := by
  intro all
  let acts : List RaceAct := [.attach someDevice, .access, .access, .access, .access, .access,
    .copy, .detach 1 2, .access, .access, .access, .access, .access, .read 0]
  let labels : List RaceLabel := [.attach someDevice, .access none,
    .access (some (.attached someDevice)), .access none, .access none, .access none, .copy,
    .detach 1 2, .access none, .access none, .access (some (.detached someDevice)), .access none,
    .access none]
  have played : (play (fun _ _ => true) acts {}).map Prod.fst =
      some (labels ++ [.read 0 none]) := by
    decide +kernel
  obtain ⟨⟨_, s⟩, played, rfl⟩ := Option.map_eq_some_iff.mp played
  exact all _ s (run_of_play .start played).unguarded labels 0 none [] rfl rfl

end Race

end UsbManager

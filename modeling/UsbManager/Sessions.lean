import UsbManager.Lib.Run
import UsbManager.Attach

/-!
# The service over whole runs

Bundles send requests and the user answers dialogs, in any order, while
devices come and go.  A request runs without interruption, but for a
`RequestRight` that waits for its dialog: other requests may run before the
dialog is answered.
-/

namespace UsbManager

open UsbService

/-- The requests that name a device. -/
inductive DeviceRequest where
  | openDevice (busNum devAddr : UInt8)
  | claimInterface (busNum devAddr interface force : UInt8)
  | releaseInterface (busNum devAddr interface : UInt8)
  | bulkTransferRead (dev : UsbDev) (pipe : UsbPipe) (timeOut : Int32)
  | bulkTransferWrite (dev : UsbDev) (pipe : UsbPipe) (bufferData : List UInt8) (timeOut : Int32)
  | controlTransfer (dev : UsbDev) (ctrl : UsbCtrlTransfer) (bufferData : List UInt8)
  | setActiveConfig (busNum devAddr configIndex : UInt8)
  | getActiveConfig (busNum devAddr : UInt8)
  | setInterface (busNum devAddr interfaceid altIndex : UInt8)
  | getRawDescriptor (busNum devAddr : UInt8)
  | getFileDescriptor (busNum devAddr : UInt8)
  | requestQueue (dev : UsbDev) (pipe : UsbPipe) (clientData bufferData : List UInt8)
  | requestWait (dev : UsbDev) (timeOut : Int32)
  | requestCancel (busNum devAddr interfaceId endpointId : UInt8)
  | close (busNum devAddr : UInt8)
  | regBulkCallback (devInfo : UsbDev) (pipe : UsbPipe) (cb : Option Nat)
  | unRegBulkCallback (devInfo : UsbDev) (pipe : UsbPipe)
  | bulkRead (devInfo : UsbDev) (pipe : UsbPipe) (ashmem : Option Nat)
  | bulkWrite (devInfo : UsbDev) (pipe : UsbPipe) (ashmem : Option Nat)
  | bulkCancel (devInfo : UsbDev) (pipe : UsbPipe)
  deriving DecidableEq, Repr

namespace DeviceRequest

/-- The method of `UsbService` a request calls. -/
def serve (usbd : Usbd) (caller : Option String) : DeviceRequest → World → Reply × World
  | openDevice busNum devAddr => UsbService.openDevice usbd caller busNum devAddr
  | claimInterface busNum devAddr interface force =>
    UsbService.claimInterface usbd busNum devAddr interface force
  | releaseInterface busNum devAddr interface =>
    UsbService.releaseInterface usbd busNum devAddr interface
  | bulkTransferRead dev pipe timeOut => UsbService.bulkTransferRead usbd dev pipe timeOut
  | bulkTransferWrite dev pipe bufferData timeOut =>
    UsbService.bulkTransferWrite usbd dev pipe bufferData timeOut
  | controlTransfer dev ctrl bufferData => UsbService.controlTransfer usbd dev ctrl bufferData
  | setActiveConfig busNum devAddr configIndex =>
    UsbService.setActiveConfig usbd busNum devAddr configIndex
  | getActiveConfig busNum devAddr => UsbService.getActiveConfig usbd busNum devAddr
  | setInterface busNum devAddr interfaceid altIndex =>
    UsbService.setInterface usbd busNum devAddr interfaceid altIndex
  | getRawDescriptor busNum devAddr => UsbService.getRawDescriptor usbd busNum devAddr
  | getFileDescriptor busNum devAddr => UsbService.getFileDescriptor usbd busNum devAddr
  | requestQueue dev pipe clientData bufferData =>
    UsbService.requestQueue usbd dev pipe clientData bufferData
  | requestWait dev timeOut => UsbService.requestWait usbd dev timeOut
  | requestCancel busNum devAddr interfaceId endpointId =>
    UsbService.requestCancel usbd busNum devAddr interfaceId endpointId
  | close busNum devAddr => UsbService.close usbd busNum devAddr
  | regBulkCallback devInfo pipe cb => UsbService.regBulkCallback usbd devInfo pipe cb
  | unRegBulkCallback devInfo pipe => UsbService.unRegBulkCallback usbd devInfo pipe
  | bulkRead devInfo pipe ashmem => UsbService.bulkRead usbd devInfo pipe ashmem
  | bulkWrite devInfo pipe ashmem => UsbService.bulkWrite usbd devInfo pipe ashmem
  | bulkCancel devInfo pipe => UsbService.bulkCancel usbd devInfo pipe

/-- The call a request forwards to usbd, unless it has no shared memory. -/
def forwarded : DeviceRequest → Option UsbdCall
  | openDevice busNum devAddr => some (.OpenDevice ⟨busNum, devAddr⟩)
  | claimInterface busNum devAddr interface force =>
    some (.ClaimInterface ⟨busNum, devAddr⟩ interface force)
  | releaseInterface busNum devAddr interface =>
    some (.ReleaseInterface ⟨busNum, devAddr⟩ interface)
  | bulkTransferRead dev pipe timeOut => some (.BulkTransferRead dev pipe timeOut)
  | bulkTransferWrite dev pipe bufferData timeOut =>
    some (.BulkTransferWrite dev pipe timeOut bufferData)
  | controlTransfer dev ctrl bufferData => some (.ControlTransfer dev ctrl bufferData)
  | setActiveConfig busNum devAddr configIndex => some (.SetConfig ⟨busNum, devAddr⟩ configIndex)
  | getActiveConfig busNum devAddr => some (.GetConfig ⟨busNum, devAddr⟩)
  | setInterface busNum devAddr interfaceid altIndex =>
    some (.SetInterface ⟨busNum, devAddr⟩ interfaceid altIndex)
  | getRawDescriptor busNum devAddr => some (.GetRawDescriptor ⟨busNum, devAddr⟩)
  | getFileDescriptor busNum devAddr => some (.GetFileDescriptor ⟨busNum, devAddr⟩)
  | requestQueue dev pipe clientData bufferData =>
    some (.RequestQueue dev pipe clientData bufferData)
  | requestWait dev timeOut => some (.RequestWait dev timeOut)
  | requestCancel busNum devAddr interfaceId endpointId =>
    some (.RequestCancel ⟨busNum, devAddr⟩ ⟨interfaceId, endpointId⟩)
  | close busNum devAddr => some (.CloseDevice ⟨busNum, devAddr⟩)
  | regBulkCallback devInfo pipe cb => some (.RegBulkCallback devInfo pipe cb)
  | unRegBulkCallback devInfo pipe => some (.UnRegBulkCallback devInfo pipe)
  | bulkRead devInfo pipe ashmem => ashmem.map (.BulkRead devInfo pipe)
  | bulkWrite devInfo pipe ashmem => ashmem.map (.BulkWrite devInfo pipe)
  | bulkCancel devInfo pipe => some (.BulkCancel devInfo pipe)

/-- `OpenDevice` is the only method that asks whether the caller has the right. -/
def checksRight : DeviceRequest → Bool
  | openDevice _ _ => true
  | _ => false

variable (usbd : Usbd) (caller : Option String) (w : World)

/-- A request without a check forwards its call, and does nothing else. -/
theorem serve_of_unchecked {request : DeviceRequest} (unchecked : request.checksRight = false) :
    (request.serve usbd caller w).2 =
      { w with calls := w.calls ++ request.forwarded.toList } := by
  cases request with
  | openDevice => exact nomatch unchecked
  | bulkRead _ _ ashmem =>
    cases ashmem with
    | none => simp [serve, forwarded, UsbService.bulkRead]
    | some ashmem => rfl
  | bulkWrite _ _ ashmem =>
    cases ashmem with
    | none => simp [serve, forwarded, UsbService.bulkWrite]
    | some ashmem => rfl
  | _ => rfl

/-- `OpenDevice` forwards its call for a caller with the right on the device. -/
theorem serve_openDevice (busNum devAddr : UInt8) :
    ((openDevice busNum devAddr).serve usbd caller w).2 =
      if hasRight caller (deviceName busNum devAddr) w then
        { w with calls := w.calls ++ [.OpenDevice ⟨busNum, devAddr⟩] }
      else w := by
  change (UsbService.openDevice usbd caller busNum devAddr w).2 = _
  unfold UsbService.openDevice
  by_cases right : hasRight caller (deviceName busNum devAddr) w = true
  · rw [if_neg (not_not.mpr right), if_pos right]
    rfl
  · rw [if_pos right, if_neg right]

/-- A request leaves both managers as they were. -/
theorem serve_managers (request : DeviceRequest) :
    (request.serve usbd caller w).2.hostManager = w.hostManager ∧
      (request.serve usbd caller w).2.rightManager = w.rightManager := by
  by_cases checks : request.checksRight = true
  · cases request with
    | openDevice busNum devAddr =>
      rw [serve_openDevice]
      split <;> exact ⟨rfl, rfl⟩
    | _ => exact nomatch checks
  · rw [serve_of_unchecked usbd caller w (Bool.eq_false_iff.mpr checks)]
    exact ⟨rfl, rfl⟩

end DeviceRequest

/-! ## Frames of attaching and detaching -/

namespace UsbService

variable {usbd : Usbd} {busNum devAddr : UInt8} {w : World}

/-- Both managers are as they were. -/
def SameManagers (w w' : World) : Prop :=
  w'.hostManager = w.hostManager ∧ w'.rightManager = w.rightManager

theorem SameManagers.rfl : SameManagers w w := ⟨Eq.refl _, Eq.refl _⟩

theorem SameManagers.trans {w₁ w₂ w₃ : World} (first : SameManagers w₁ w₂)
    (second : SameManagers w₂ w₃) : SameManagers w₁ w₃ :=
  ⟨second.1.trans first.1, second.2.trans first.2⟩

theorem sameManagers_call (usbd : Usbd) (call : UsbdCall) : SameManagers w (w.call usbd call).2 :=
  ⟨Eq.refl _, Eq.refl _⟩

theorem sameManagers_getDevStringValFromIdx (idx : UInt8) :
    SameManagers w (getDevStringValFromIdx usbd busNum devAddr idx w).2 := by
  unfold getDevStringValFromIdx
  by_cases zero : idx = 0
  · rw [if_pos zero]
    exact .rfl
  rw [if_neg zero]
  dsimp only
  split
  · exact sameManagers_call usbd _
  · split
    · exact sameManagers_call usbd _
    · exact sameManagers_call usbd _

theorem sameManagers_fillInterfaceNames (interfaces : List UsbInterface) :
    ∀ {w : World}, SameManagers w (fillInterfaceNames usbd busNum devAddr interfaces w).2 := by
  induction interfaces with
  | nil => exact .rfl
  | cons itIF interfaces ih => exact (sameManagers_getDevStringValFromIdx _).trans ih

theorem sameManagers_fillConfigNames (configs : List USBConfig) :
    ∀ {w : World}, SameManagers w (fillConfigNames usbd busNum devAddr configs w).2 := by
  induction configs with
  | nil => exact .rfl
  | cons it configs ih =>
    exact ((sameManagers_getDevStringValFromIdx _).trans
      (sameManagers_fillInterfaceNames _)).trans ih

theorem sameManagers_fillDevStrings (dev : UsbDevice) :
    SameManagers w (fillDevStrings usbd dev w).2 :=
  (((sameManagers_getDevStringValFromIdx _).trans (sameManagers_getDevStringValFromIdx _)).trans
    (sameManagers_getDevStringValFromIdx _)).trans (sameManagers_fillConfigNames _)

theorem sameManagers_getConfigDescriptor {dev dev' : UsbDevice} {descriptor : List UInt8}
    {ret : Uec} {w' : World}
    (returned : (getConfigDescriptor usbd false dev descriptor w).Returns ((ret, dev'), w')) :
    SameManagers w w' := by
  obtain ⟨exit, _, rest⟩ := Prog.returns_bind.mp returned
  cases exit with
  | error =>
    cases Prog.returns_pure.mp rest
    exact .rfl
  | ok st =>
    have same := congrArg Prod.snd (Prog.returns_pure.mp rest)
    rw [show w' = _ from same]
    exact sameManagers_fillDevStrings _

theorem sameManagers_getDeviceInfoDescriptor {uDev : UsbDev} {dev dev' : UsbDevice} {ret : Uec}
    {descriptor : List UInt8} {w' : World}
    (returned : (getDeviceInfoDescriptor usbd uDev dev w).Returns ((ret, descriptor, dev'), w')) :
    SameManagers w w' := by
  unfold getDeviceInfoDescriptor at returned
  dsimp only at returned
  rcases Prog.returns_ite.mp returned with ⟨_, rest⟩ | ⟨_, rest⟩
  · cases Prog.returns_pure.mp rest
    exact (sameManagers_call usbd _).trans (sameManagers_call usbd _)
  rcases Prog.returns_ite.mp rest with ⟨_, rest⟩ | ⟨_, rest⟩
  · cases Prog.returns_pure.mp rest
    exact sameManagers_call usbd _
  obtain ⟨parsed, _, rest⟩ := Prog.returns_bind.mp rest
  rcases Prog.returns_ite.mp rest with ⟨_, rest⟩ | ⟨_, rest⟩
  · cases Prog.returns_pure.mp rest
    exact (sameManagers_call usbd _).trans (sameManagers_call usbd _)
  · cases Prog.returns_pure.mp rest
    exact sameManagers_call usbd _

theorem sameManagers_getDeviceInfo {dev dev' : UsbDevice} {ret : Uec} {w' : World}
    (returned : (getDeviceInfo usbd busNum devAddr dev w).Returns ((ret, dev'), w')) :
    SameManagers w w' := by
  unfold getDeviceInfo at returned
  dsimp only at returned
  rcases Prog.returns_ite.mp returned with ⟨_, rest⟩ | ⟨_, rest⟩
  · cases Prog.returns_pure.mp rest
    exact sameManagers_call usbd _
  obtain ⟨⟨⟨_, descriptor, dev₁⟩, w₁⟩, info, rest⟩ := Prog.returns_bind.mp rest
  obtain ⟨⟨⟨ret₂, dev₂⟩, w₂⟩, config, rest⟩ := Prog.returns_bind.mp rest
  have same := ((sameManagers_call usbd _).trans (sameManagers_getDeviceInfoDescriptor info)).trans
    (sameManagers_getConfigDescriptor config)
  rcases Prog.returns_ite.mp rest with ⟨_, rest⟩ | ⟨_, rest⟩
  · cases Prog.returns_pure.mp rest
    exact same
  · cases Prog.returns_pure.mp rest
    exact same.trans (sameManagers_call usbd _)

/-- Attaching stores a device or none, and changes no right. -/
theorem addDevice_cases {ret : Bool} {w' : World}
    (returned : (addDevice usbd busNum devAddr w).Returns (ret, w')) :
    w'.rightManager = w.rightManager ∧ ∃ stored : Option UsbDevice, ret = stored.isSome ∧
      (w'.hostManager = stored.elim w.hostManager fun dev => (w.hostManager.addDevice dev).2) ∧
      ∀ dev, stored = some dev →
        StoresUnder usbd busNum devAddr w (deviceName dev.busNum dev.devAddr) := by
  obtain ⟨⟨⟨ret₁, dev⟩, w₁⟩, info, rest⟩ := Prog.returns_bind.mp returned
  have same := sameManagers_getDeviceInfo info
  rcases Prog.returns_ite.mp rest with ⟨_, rest⟩ | ⟨ok, rest⟩
  · cases Prog.returns_pure.mp rest
    exact ⟨same.2, none, Eq.refl _, same.1, fun _ absent => nomatch absent⟩
  · cases Prog.returns_pure.mp rest
    refine ⟨same.2, some dev, Eq.refl _, ?_, ?_⟩
    · change (w₁.hostManager.addDevice dev).2 = _
      rw [same.1]
      exact Eq.refl _
    · intro dev' there
      obtain rfl := Option.some.inj there
      obtain rfl := not_not.mp ok
      exact storesUnder_of_info info

end UsbService

/-! ## Sessions -/

/-- The service, and the requests for a right that wait for their dialog: the
name of the device and the bundle. -/
structure Session where
  world : World := {}
  waiting : List (String × String) := []

/-- What happens in a step, with what it answers.  A device request records the
calls it forwards, an attachment the device it stores. -/
inductive Label where
  | request (caller : Option String) (request : DeviceRequest) (calls : List UsbdCall)
  | hasRight (caller : Option String) (name : String) (answer : Bool)
  | requestRight (caller : Option String) (name : String) (ret : Option Uec)
  | answered (bundle name event : String) (ret : Uec)
  | removeRight (name : String) (ret : Uec)
  | attach (busNum devAddr : UInt8) (stored : Option UsbDevice)
  | detach (busNum devAddr : UInt8) (ret : Bool)
  deriving DecidableEq, Repr

namespace Session

/-- The steps of the service. -/
inductive Step (usbd : Usbd) : Session → Label → Session → Prop
  | request {s : Session} {caller : Option String} {request : DeviceRequest}
    {calls : List UsbdCall} :
    (request.serve usbd caller s.world).2.calls = s.world.calls ++ calls →
    Step usbd s (.request caller request calls)
      { s with world := (request.serve usbd caller s.world).2 }
  | hasRight {s : Session} {caller : Option String} {name : String} :
    Step usbd s (.hasRight caller name (UsbService.hasRight caller name s.world)) s
  | requestRight {s : Session} {caller : Option String} {name : String} {dialogId : Int32}
    {ret : Uec} {w : World} :
    UsbService.requestRight caller name dialogId s.world = (some ret, w) →
    Step usbd s (.requestRight caller name (some ret)) { s with world := w }
  | waits {s : Session} {bundle name : String} {dialogId : Int32} {w : World} :
    UsbService.requestRight (some bundle) name dialogId s.world = (none, w) →
    Step usbd s (.requestRight (some bundle) name none)
      { world := w, waiting := s.waiting ++ [(name, bundle)] }
  | answered {s : Session} {bundle name event : String} {ret : Uec} {w : World} :
    (name, bundle) ∈ s.waiting →
    UsbService.requestRightAnswered bundle name event s.world = (ret, w) →
    Step usbd s (.answered bundle name event ret)
      { world := w, waiting := s.waiting.erase (name, bundle) }
  | removeRight {s : Session} {name : String} {ret : Uec} {w : World} :
    UsbService.removeRight name s.world = (ret, w) →
    Step usbd s (.removeRight name ret) { s with world := w }
  | attach {s : Session} {busNum devAddr : UInt8} {stored : Option UsbDevice} {w : World} :
    (addDevice usbd busNum devAddr s.world).Returns (stored.isSome, w) →
    w.hostManager = (stored.elim s.world.hostManager fun dev =>
      (s.world.hostManager.addDevice dev).2) →
    Step usbd s (.attach busNum devAddr stored) { s with world := w }
  | detach {s : Session} {busNum devAddr : UInt8} {ret : Bool} {w : World} :
    delDevice usbd busNum devAddr s.world = (ret, w) →
    Step usbd s (.detach busNum devAddr ret) { s with world := w }

theorem requestRight_hostManager (caller : Option String) (name : String) (dialogId : Int32)
    (w : World) :
    (UsbService.requestRight caller name dialogId w).2.hostManager = w.hostManager := by
  cases caller <;> rfl

/-- The bundle has a right on the device of that name. -/
def HasRight (s : Session) (name bundle : String) : Prop :=
  s.world.rightManager.hasRight name bundle = true

/-- The label is a `RequestRight` by the bundle for that name that returns `UEC_OK`. -/
def Grants (name bundle : String) : Label → Prop
  | .requestRight caller name' ret => caller = some bundle ∧ name' = name ∧ ret = some .UEC_OK
  | .answered bundle' name' _ ret => bundle' = bundle ∧ name' = name ∧ ret = .UEC_OK
  | _ => False

/-- A step adds a right only by granting it, and takes no right away but by
`RemoveRight`. -/
theorem Step.hasRight_cases {usbd : Usbd} {s s' : Session} {label : Label} {name bundle : String}
    (step : Step usbd s label s') (right : s'.HasRight name bundle) :
    s.HasRight name bundle ∨ ∃ event, label = .answered bundle name event .UEC_OK := by
  unfold HasRight at right ⊢
  cases step with
  | @request caller request calls _ =>
    rw [(request.serve_managers usbd caller s.world).2] at right
    exact .inl right
  | hasRight => exact .inl right
  | @requestRight caller name' dialogId ret w result =>
    change w.rightManager.hasRight name bundle = true at right
    cases caller with
    | none =>
      have same : s.world = w := congrArg Prod.snd result
      exact .inl (same ▸ right)
    | some bundle' =>
      have stored : (s.world.rightManager.requestRight name' bundle' dialogId).2 = w.rightManager :=
        congrArg (fun out => out.2.rightManager) result
      rw [← stored,
        RightManager.hasRight_congr (RightManager.requestRight_rightMap _ _ _ _)] at right
      exact .inl right
  | @waits bundle' name' dialogId w result =>
    change w.rightManager.hasRight name bundle = true at right
    have stored : (s.world.rightManager.requestRight name' bundle' dialogId).2 = w.rightManager :=
      congrArg (fun out => out.2.rightManager) result
    rw [← stored, RightManager.hasRight_congr (RightManager.requestRight_rightMap _ _ _ _)] at right
    exact .inl right
  | @answered bundle' name' event ret w _ result =>
    change w.rightManager.hasRight name bundle = true at right
    have granted : (s.world.rightManager.requestRightAnswered name' bundle' event).1 = ret :=
      congrArg Prod.fst result
    have stored : (s.world.rightManager.requestRightAnswered name' bundle' event).2 =
        w.rightManager := congrArg (fun out => out.2.rightManager) result
    rw [← stored] at right
    rcases s.world.rightManager.requestRightAnswered_cases name' bundle' event with
      ⟨ok, map⟩ | ⟨_, map⟩
    · rw [RightManager.hasRight_congr map] at right
      rcases (s.world.rightManager.hasRight_addDeviceRight name' bundle').mp right with
        there | ⟨rfl, rfl⟩
      · exact .inl there
      · exact .inr ⟨event, by rw [← granted, ok]⟩
    · rw [RightManager.hasRight_congr map] at right
      exact .inl right
  | @removeRight name' ret w result =>
    change w.rightManager.hasRight name bundle = true at right
    have stored : (s.world.rightManager.removeDeviceRight name').2 = w.rightManager := by
      rw [← removeRight_rightManager name' s.world, result]
    rw [← stored] at right
    exact .inl ((s.world.rightManager.hasRight_removeDeviceRight name').mp right).2
  | attach returned _ =>
    have same := (addDevice_cases returned).1
    exact .inl (same ▸ right)
  | detach result =>
    obtain ⟨_, rfl⟩ := Prod.mk.inj result
    exact .inl right

/-- Only the user's agreement is granted. -/
theorem Step.event_of_granted {usbd : Usbd} {s s' : Session} {name bundle event : String}
    (step : Step usbd s (.answered bundle name event .UEC_OK) s') : event = "EVENT_ALLOW" := by
  cases step with
  | answered _ result =>
    refine not_not.mp fun refused => ?_
    have answer := congrArg Prod.fst result
    simp [UsbService.requestRightAnswered, RightManager.requestRightAnswered, refused] at answer

/-- The step stores a device of that name, or erases the one that was stored. -/
def Changes (name : String) : Label → Prop
  | .attach _ _ stored => ∃ dev, stored = some dev ∧ deviceName dev.busNum dev.devAddr = name
  | .detach busNum devAddr ret => ret = true ∧ deviceName busNum devAddr = name
  | _ => False

/-- A device of that name is attached. -/
def Attached (s : Session) (name : String) : Prop :=
  s.world.hostManager.devices[name]?.isSome = true

/-- A step that does not change what is stored under a name leaves it there. -/
theorem Step.attached_of_not_changes {usbd : Usbd} {s s' : Session} {label : Label}
    {name : String} (step : Step usbd s label s') (stays : ¬ Changes name label)
    (attached : s.Attached name) : s'.Attached name := by
  unfold Attached at attached ⊢
  cases step with
  | @request caller request calls _ =>
    rw [(request.serve_managers usbd caller s.world).1]
    exact attached
  | hasRight => exact attached
  | @requestRight caller name' dialogId ret w result =>
    have same := requestRight_hostManager caller name' dialogId s.world
    rw [result] at same
    exact same.symm ▸ attached
  | @waits bundle name' dialogId w result =>
    have same := requestRight_hostManager (some bundle) name' dialogId s.world
    rw [result] at same
    exact same.symm ▸ attached
  | answered _ result =>
    have same := congrArg (fun out => out.2.hostManager) result
    exact same ▸ attached
  | @removeRight name' ret w result =>
    have same := removeRight_hostManager name' s.world
    rw [result] at same
    exact same.symm ▸ attached
  | @attach busNum devAddr stored w returned manager =>
    change w.hostManager.devices[name]?.isSome = true
    rw [manager]
    cases stored with
    | none => exact attached
    | some dev =>
      change (s.world.hostManager.addDevice dev).2.devices[name]?.isSome = true
      have other : ¬ name = deviceName dev.busNum dev.devAddr :=
        fun same => stays ⟨dev, rfl, same.symm⟩
      rw [HostManager.getElem?_addDevice, if_neg other]
      exact attached
  | @detach busNum devAddr ret w result =>
    have manager : w.hostManager = (s.world.hostManager.delDevice busNum devAddr).2 :=
      (congrArg (fun out => out.2.hostManager) result).symm
    have answer : (s.world.hostManager.delDevice busNum devAddr).1 = ret :=
      congrArg Prod.fst result
    change w.hostManager.devices[name]?.isSome = true
    rw [manager, HostManager.getElem?_delDevice]
    by_cases same : name = deviceName busNum devAddr
    · subst same
      have found : (s.world.hostManager.delDevice busNum devAddr).1 = true :=
        HostManager.delDevice_eq_true attached
      exact (stays ⟨answer.symm.trans found, rfl⟩).elim
    · rw [if_neg same]
      exact attached

end Session

end UsbManager

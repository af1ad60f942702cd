import UsbManager.Sessions

/-!
# Rights and attachments

A right is temporary: it should end with the attachment of the device it was
granted for.  The rights and the device store are kept apart, and attaching or
detaching a device does not look at the rights on its name.
-/

namespace UsbManager

open UsbService

namespace Session

variable {usbd : Usbd} {history : List Label} {s s' : Session} {label : Label}
  {name bundle : String}

/-- The bundle was granted the right, and the device of that name has not been
stored anew or erased since. -/
def GrantedSince (history : List Label) (name bundle : String) : Prop :=
  ∃ before label after, history = before ++ label :: after ∧ Grants name bundle label ∧
    ∀ later ∈ after, ¬ Changes name later

/-- Every right is on an attached device, and was granted during its current
attachment. -/
def RightsCurrent (history : List Label) (s : Session) : Prop :=
  ∀ name bundle, s.HasRight name bundle → s.Attached name ∧ GrantedSince history name bundle

/-- A device is gone with its rights, and comes without any. -/
structure RightsEnd (history : List Label) (s : Session) : Prop where
  current : RightsCurrent history s
  afterDetach : ∀ before busNum devAddr ret, history = before ++ [.detach busNum devAddr ret] →
    ∀ bundle, ¬ s.HasRight (deviceName busNum devAddr) bundle
  afterAttach : ∀ before busNum devAddr dev,
    history = before ++ [.attach busNum devAddr (some dev)] →
      ∀ bundle, ¬ s.HasRight (deviceName dev.busNum dev.devAddr) bundle

/-- Rights are granted on attached devices only, and the name of a device is
free of rights when it is attached and when it is detached. -/
def FreesNames (usbd : Usbd) (s : Session) : Label → Prop
  | .answered _ name event _ => event = "EVENT_ALLOW" → s.Attached name
  | .attach busNum devAddr _ => ∀ name, StoresUnder usbd busNum devAddr s.world name →
    ∀ bundle, ¬ s.HasRight name bundle
  | .detach busNum devAddr _ => ∀ bundle, ¬ s.HasRight (deviceName busNum devAddr) bundle
  | _ => True

/-- A grant stays current over a step that leaves the device alone. -/
theorem GrantedSince.append (granted : GrantedSince history name bundle)
    (stays : ¬ Changes name label) : GrantedSince (history ++ [label]) name bundle := by
  obtain ⟨before, grant, after, rfl, grants, clear⟩ := granted
  refine ⟨before, grant, after ++ [label], by simp, grants, ?_⟩
  intro later there
  rcases List.mem_append.mp there with there | there
  · exact clear later there
  · exact List.mem_singleton.mp there ▸ stays

/-- No grant is older than the last change of the device. -/
theorem not_grantedSince_of_changes (changes : Changes name label) :
    ¬ GrantedSince (history ++ [label]) name bundle := by
  intro granted
  obtain ⟨before, grant, after, whole, grants, clear⟩ := granted
  rcases after.eq_nil_or_concat with rfl | ⟨rest, last, rfl⟩
  · have same := (List.append_inj' whole rfl).2
    obtain rfl : label = grant := by simpa using same
    cases label with
    | attach => exact grants
    | detach => exact grants
    | _ => exact changes
  · have shape : history ++ [label] = (before ++ grant :: rest) ++ [last] := by
      simpa using whole
    obtain rfl : label = last := by simpa using (List.append_inj' shape rfl).2
    exact clear label (by simp) changes

/-- A step that stores or erases a device leaves its rights as they were. -/
theorem not_hasRight_of_changes (frees : s.FreesNames usbd label) (step : Step usbd s label s')
    (changes : Changes name label) : ¬ s'.HasRight name bundle := by
  intro right
  have before : s.HasRight name bundle := by
    rcases step.hasRight_cases right with there | ⟨event, rfl⟩
    · exact there
    · exact changes.elim
  cases step with
  | @attach busNum devAddr stored w returned manager =>
    obtain ⟨dev, rfl, rfl⟩ := changes
    obtain ⟨_, stored', found, manager', under⟩ := addDevice_cases returned
    cases stored' with
    | none => exact nomatch found
    | some dev' =>
      obtain rfl := HostManager.addDevice_inj (manager.symm.trans manager')
      exact frees _ (under dev rfl) bundle before
  | detach result =>
    obtain ⟨_, rfl⟩ := changes
    exact frees bundle before
  | _ => exact changes

/-- What one step preserves. -/
theorem RightsCurrent.step (current : RightsCurrent history s) (frees : s.FreesNames usbd label)
    (step : Step usbd s label s') : RightsCurrent (history ++ [label]) s' := by
  intro name bundle right
  by_cases changes : Changes name label
  · exact (not_hasRight_of_changes frees step changes right).elim
  rcases step.hasRight_cases right with before | ⟨event, rfl⟩
  · obtain ⟨attached, granted⟩ := current name bundle before
    exact ⟨step.attached_of_not_changes changes attached, granted.append changes⟩
  · refine ⟨step.attached_of_not_changes changes ?_,
      history, _, [], rfl, ⟨rfl, rfl, rfl⟩, fun _ there => nomatch there⟩
    exact frees step.event_of_granted

theorem rightsCurrent (run : Run (Guarded (FreesNames usbd) (Step usbd)) {} history s) :
    RightsCurrent history s := by
  refine run.invariant ?_ ?_
  · intro name bundle right
    exact absurd right (by simp [HasRight, RightManager.hasRight])
  · exact fun history s label s' current taken => current.step taken.1 taken.2

/-- After a detachment the device is not attached. -/
theorem Step.not_attached_of_detach {busNum devAddr : UInt8} {ret : Bool}
    (step : Step usbd s (.detach busNum devAddr ret) s') :
    ¬ s'.Attached (deviceName busNum devAddr) := by
  cases step with
  | @detach _ _ _ w result =>
    have manager : w.hostManager = (s.world.hostManager.delDevice busNum devAddr).2 :=
      (congrArg (fun out => out.2.hostManager) result).symm
    change ¬ w.hostManager.devices[deviceName busNum devAddr]?.isSome = true
    rw [manager, HostManager.getElem?_delDevice, if_pos rfl]
    simp

/-- In every run whose steps free the names they attach and detach, rights end
with the attachment they were granted for. -/
theorem rightsEnd_of_freesNames (run : Run (Guarded (FreesNames usbd) (Step usbd)) {} history s) :
    RightsEnd history s := by
  have current := rightsCurrent run
  refine ⟨current, ?_, ?_⟩
  · intro before busNum devAddr ret whole bundle right
    subst whole
    obtain ⟨s₁, _, _, step⟩ := run.last
    exact step.not_attached_of_detach (current _ _ right).1
  · intro before busNum devAddr dev whole bundle right
    subst whole
    have changes : Changes (deviceName dev.busNum dev.devAddr)
        (.attach busNum devAddr (some dev)) := ⟨dev, rfl, rfl⟩
    exact not_grantedSince_of_changes changes (current _ _ right).2

/-! ### Two runs -/

/-- A usbd whose devices have one configuration with one interface and one endpoint. -/
def oneEndpoint : Usbd where
  answer _ call :=
    match call with
    | .GetRawDescriptor _ => {
        ret := .UEC_OK
        bufferData := [18, 1, 0, 2, 0, 0, 0, 64, 52, 18, 1, 0, 0, 1, 0, 0, 0, 1] ++
          [9, 2, 25, 0, 1, 1, 0, 128, 50] ++ [9, 4, 0, 0, 1, 8, 6, 80, 0] ++
          [7, 5, 129, 2, 0, 2, 0] }
    | _ => { ret := .UEC_OK }

/-- The device and the state of the service when 1-2 is attached first. -/
def gotten : UsbDevice × World :=
  match (getDeviceInfo oneEndpoint 1 2 zeroDevice {}).exec 9 with
  | .ok ((_, dev), w) => (dev, w)
  | _ => ({}, {})

def attached : Session where
  world := { gotten.2 with hostManager := (gotten.2.hostManager.addDevice gotten.1).2 }

theorem returns_gotten :
    (getDeviceInfo oneEndpoint 1 2 zeroDevice {}).Returns ((.UEC_OK, gotten.1), gotten.2) :=
  ⟨9, rfl⟩

theorem step_attached : Step oneEndpoint {} (.attach 1 2 (some gotten.1)) attached :=
  .attach (addDevice_of_info returns_gotten) rfl

/-- A bundle then waits for the answer to its request for the right on 1-2, -/
def awaiting : Session where
  world := (UsbService.requestRight (some "com.usb.right") "1-2" 0 attached.world).2
  waiting := [("1-2", "com.usb.right")]

/-- the user allows it, -/
def granted : Session where
  world := (requestRightAnswered "com.usb.right" "1-2" "EVENT_ALLOW" awaiting.world).2
  waiting := awaiting.waiting.erase ("1-2", "com.usb.right")

/-- and the device is detached. -/
def detached : Session :=
  { granted with world := (delDevice oneEndpoint 1 2 granted.world).2 }

theorem step_awaiting :
    Step oneEndpoint attached (.requestRight (some "com.usb.right") "1-2" none) awaiting :=
  .waits (Prod.ext (by decide +kernel) rfl)

theorem step_granted : Step oneEndpoint awaiting
    (.answered "com.usb.right" "1-2" "EVENT_ALLOW" .UEC_OK) granted :=
  .answered (List.mem_singleton.mpr rfl) (Prod.ext (by decide +kernel) rfl)

theorem step_detached : Step oneEndpoint granted (.detach 1 2 true) detached :=
  .detach (Prod.ext (by decide +kernel) rfl)

theorem rightsEnd_granted :
    RightsEnd ([] ++ [.attach 1 2 (some gotten.1)] ++
      [.requestRight (some "com.usb.right") "1-2" none] ++
      [.answered "com.usb.right" "1-2" "EVENT_ALLOW" .UEC_OK]) granted := by
  have free : FreesNames oneEndpoint {} (.attach 1 2 (some gotten.1)) := by
    intro name _ bundle right
    exact absurd right (by simp [HasRight, RightManager.hasRight])
  have there : awaiting.Attached "1-2" := by
    unfold Attached
    decide +kernel
  exact rightsEnd_of_freesNames
    (((Run.start.step ⟨free, step_attached⟩).step ⟨trivial, step_awaiting⟩).step
      ⟨fun _ => there, step_granted⟩)

/-- A right outlives the attachment it was granted for. -/
theorem not_rightsEnd_detached :
    ¬ ∀ usbd history s, Run (Step usbd) {} history s → RightsEnd history s := by
  intro all
  have run := (((Run.start.step step_attached).step step_awaiting).step step_granted).step
    step_detached
  have gone := (all _ _ _ run).afterDetach _ 1 2 true rfl "com.usb.right"
  apply gone
  unfold HasRight
  decide +kernel

end Session

end UsbManager

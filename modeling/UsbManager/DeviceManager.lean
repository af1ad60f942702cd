import Mathlib.Data.List.Induction
import UsbManager.Device
import UsbManager.Lib.Run

/-!
# `usb_device_manager.cpp`

`UsbDeviceManager` keeps the mask of the current functions of the device, which
it tells with every `USB_STATE` broadcast.  `SetCurrentFunctions` stores a mask
before usbd is asked to accept it: `lastKnown_iff` says in which runs the mask
stored is always one that usbd has accepted or reported.
-/

namespace UsbManager

/-- The action of a `UsbInfo`. -/
inductive DeviceAct where
  | ACT_DEVUP
  | ACT_DEVDOWN
  | ACT_UPDEVICE
  | ACT_DOWNDEVICE
  | other (status : Int32)
  deriving DecidableEq, Repr

namespace UsbSrvSupport

def FUNCTION_NONE : UInt32 := 0

def FUNCTION_ACM : UInt32 := 1

def FUNCTION_ECM : UInt32 := 2

def FUNCTION_HDC : UInt32 := 4

def FUNCTION_MTP : UInt32 := 8

def FUNCTION_PTP : UInt32 := 16

def FUNCTION_NAME_NONE : String := "none"

def FUNCTION_NAME_HDC : String := "hdc"

def FUNCTION_NAME_ACM : String := "acm"

def FUNCTION_NAME_ECM : String := "ecm"

def FUNCTION_NAME_MTP : String := "mtp"

def FUNCTION_NAME_PTP : String := "ptp"

end UsbSrvSupport

open UsbSrvSupport

/-- A `USB_STATE` broadcast: `connected`, and the parameters that are set to true. -/
structure UsbStateEvent where
  connected : Bool
  functions : List String
  deriving DecidableEq, Repr

structure UsbDeviceManager where
  currentFunctions : Int32 := 0
  connected : Bool := false
  broadcasts : List UsbStateEvent := []
  deriving DecidableEq, Repr

namespace UsbDeviceManager

def FUNCTION_SETTABLE : UInt32 := FUNCTION_HDC ||| FUNCTION_ACM ||| FUNCTION_ECM

/-- `ConvertToString` -/
def convertToString (function : UInt32) : String :=
  if function ≤ FUNCTION_NONE ∨ function > FUNCTION_SETTABLE then FUNCTION_NAME_NONE
  else
    let hdc := if function &&& FUNCTION_HDC ≠ 0 then [FUNCTION_NAME_HDC] else []
    let acm := if function &&& FUNCTION_ACM ≠ 0 then [FUNCTION_NAME_ACM] else []
    let ecm := if function &&& FUNCTION_ECM ≠ 0 then [FUNCTION_NAME_ECM] else []
    ",".intercalate (hdc ++ acm ++ ecm)

/-- The parameters the loop of `HandleEvent` sets: it shifts a bit through the mask
until nothing remains of it, and sets one for each bit it finds. -/
def functionNames (funcs : Int32) : List String :=
  ((List.range 32).map fun i => (1 : UInt32) <<< i.toUInt32).filterMap fun bit =>
    if funcs.toUInt32 &&& bit ≠ 0 then some (convertToString bit) else none

/-- The broadcast of a state. -/
def stateEvent (m : UsbDeviceManager) : UsbStateEvent :=
  ⟨m.connected, functionNames m.currentFunctions⟩

/-- `UpdateFunctions` -/
def updateFunctions (func : Int32) (m : UsbDeviceManager) : UsbDeviceManager :=
  { m with currentFunctions := func }

/-- `HandleEvent`, where usbd answers `GetCurrentFunctions` with `ret` and this mask.
A failed call leaves its output argument alone. -/
def handleEvent (status : DeviceAct) (ret : Uec) (reported : Int32) (m : UsbDeviceManager) :
    UsbDeviceManager :=
  let publish (m : UsbDeviceManager) : UsbDeviceManager :=
    { m with broadcasts := m.broadcasts ++ [m.stateEvent] }
  match status with
  | .ACT_UPDEVICE =>
    publish { m with
      connected := true
      currentFunctions := if ret = .UEC_OK then reported else m.currentFunctions }
  | .ACT_DOWNDEVICE => publish { m with connected := false }
  | _ => m

end UsbDeviceManager

/-- `UsbService::SetCurrentFunctions`, where usbd answers `ret`. -/
def UsbService.setCurrentFunctions (functions : Int32) (ret : Uec) (m : UsbDeviceManager) :
    Uec × UsbDeviceManager :=
  (ret, m.updateFunctions functions)

namespace UsbDeviceManager

/-! ## Which mask is kept -/

/-- `SetCurrentFunctions` is called, or the device is connected or disconnected; with
the answer of usbd. -/
inductive Event where
  | set (functions : Int32) (ret : Uec)
  | handle (status : DeviceAct) (ret : Uec) (reported : Int32)
  deriving DecidableEq, Repr

def step (m : UsbDeviceManager) : Event → UsbDeviceManager
  | .set functions ret => (UsbService.setCurrentFunctions functions ret m).2
  | .handle status ret reported => m.handleEvent status ret reported

def run (history : List Event) : UsbDeviceManager := history.foldl step {}

/-- The mask usbd accepts or reports with this event. -/
def Event.mask? : Event → Option Int32
  | .set functions ret => if ret = .UEC_OK then some functions else none
  | .handle .ACT_UPDEVICE ret reported => if ret = .UEC_OK then some reported else none
  | .handle _ _ _ => none

/-- The last mask usbd has accepted or reported, 0 before any. -/
def lastMask (history : List Event) : Int32 := (lastSome Event.mask? history).getD 0

/-- The mask that is kept is the last one usbd has accepted or reported, and so the
next broadcast tells it. -/
def Known (history : List Event) : Prop :=
  (run history).currentFunctions = lastMask history ∧
    (run history).stateEvent = ⟨(run history).connected, functionNames (lastMask history)⟩

@[simp] theorem run_concat (history : List Event) (event : Event) :
    run (history ++ [event]) = (run history).step event := by
  unfold run
  rw [List.foldl_append]
  rfl

theorem lastMask_concat (history : List Event) (event : Event) :
    lastMask (history ++ [event]) = event.mask?.getD (lastMask history) := by
  unfold lastMask
  rw [lastSome_concat]
  cases event.mask? with
  | none => rfl
  | some mask => rfl

theorem known_iff (history : List Event) :
    Known history ↔ (run history).currentFunctions = lastMask history := by
  refine ⟨fun known => known.1, fun same => ⟨same, ?_⟩⟩
  unfold stateEvent
  rw [same]

/-- An event other than a rejected mask keeps what usbd has accepted or reported. -/
theorem currentFunctions_step {m : UsbDeviceManager} {event : Event}
    (accepted : ∀ functions ret, event = .set functions ret → ret = .UEC_OK) :
    (m.step event).currentFunctions = event.mask?.getD m.currentFunctions := by
  cases event with
  | set functions ret =>
    obtain rfl := accepted functions ret rfl
    rfl
  | handle status ret reported =>
    cases status with
    | ACT_UPDEVICE =>
      by_cases ok : ret = .UEC_OK
      · subst ok
        rfl
      · have silent : Event.mask? (.handle .ACT_UPDEVICE ret reported) = none := if_neg ok
        rw [silent]
        exact if_neg ok
    | _ => rfl

/-- A rejected mask is stored all the same. -/
theorem currentFunctions_rejected (m : UsbDeviceManager) (functions : Int32) (ret : Uec) :
    (m.step (.set functions ret)).currentFunctions = functions := rfl

theorem mask?_rejected {functions : Int32} {ret : Uec} (rejected : ret ≠ .UEC_OK) :
    Event.mask? (.set functions ret) = none := if_neg rejected

/-- In a run the mask that is kept is always the last one usbd has accepted or
reported, exactly if each mask that is rejected is the one that was kept. -/
theorem lastKnown_iff (history : List Event) :
    (∀ before, before <+: history → Known before) ↔
      ∀ before functions ret after, history = before ++ .set functions ret :: after →
        ret ≠ .UEC_OK → functions = (run before).currentFunctions := by
  constructor
  · intro always before functions ret after here rejected
    have there := (known_iff before).mp (always before ⟨_, here.symm⟩)
    have next := (known_iff _).mp (always (before ++ [.set functions ret]) ⟨after, by simp [here]⟩)
    rw [run_concat, currentFunctions_rejected, lastMask_concat, mask?_rejected rejected] at next
    exact next.trans there.symm
  · intro kept before
    induction before using List.reverseRecOn with
    | nil => exact fun _ => ⟨rfl, rfl⟩
    | append_singleton before event ih =>
      intro inside
      obtain ⟨after, whole⟩ := inside
      have earlier := (known_iff before).mp (ih ⟨event :: after, by simp [← whole]⟩)
      rw [known_iff, run_concat, lastMask_concat]
      by_cases accepted : ∀ functions ret, event = .set functions ret → ret = .UEC_OK
      · rw [currentFunctions_step accepted, earlier]
      · push Not at accepted
        obtain ⟨functions, ret, rfl, rejected⟩ := accepted
        have same := kept before functions ret after (by simp [← whole]) rejected
        rw [currentFunctions_rejected, mask?_rejected rejected, same]
        exact earlier

/-- The mask 8 is rejected and kept. -/
theorem not_lastKnown_rejected :
    ¬ ∀ before, before <+: [.set 8 (.other 1)] → Known before := by
  intro always
  exact absurd (always [.set 8 (.other 1)] (List.prefix_refl _)).1 (by decide)

end UsbDeviceManager

end UsbManager

import UsbManager.Access

/-!
# Callers without a bundle

A caller is a uid, and its principal in the rights table is the bundle name
`GetBundleName` finds for it.  The result of the lookup is dropped, so that
every uid without a bundle is the principal with the empty name.  Where the
user allows nothing under that name, these callers have no rights
(`unidentified_of_named`).
-/

namespace UsbManager

open UsbService

/-- `GetBundleName`.  `available` says whether the system services it goes
through are there, `lookup` is what `GetBundleNameForUid` finds, and a lookup
that fails leaves the name empty. -/
def UsbService.getBundleName (available : Bool) (lookup : Int32 → Option String) (uid : Int32) :
    Option String :=
  if ¬ available then none
  else some ((lookup uid).getD "")

namespace Session

/-- The caller of the steps that have one. -/
def Label.caller : Label → Option (Option String)
  | .request caller _ _ => some caller
  | .hasRight caller _ _ => some caller
  | .requestRight caller _ _ => some caller
  | _ => none

/-- A step of the service with the uid it is taken for. -/
inductive CalledStep (usbd : Usbd) (lookup : Int32 → Option String) :
    Session → Option Int32 × Label → Session → Prop
  | called {s s' : Session} {uid : Int32} {available : Bool} {label : Label} :
    Label.caller label = some (getBundleName available lookup uid) → Step usbd s label s' →
    CalledStep usbd lookup s (some uid, label) s'
  | uncalled {s s' : Session} {label : Label} :
    Label.caller label = none → Step usbd s label s' →
    CalledStep usbd lookup s (none, label) s'

/-- Callers without a bundle were told of no right, opened no device, and could
use no right that is in the table. -/
structure Unidentified (lookup : Int32 → Option String) (history : List (Option Int32 × Label))
    (s : Session) : Prop where
  hasRight : ∀ uid caller name answer, (some uid, .hasRight caller name answer) ∈ history →
    lookup uid = none → answer = false
  openDevice : ∀ uid caller busNum devAddr calls,
    (some uid, .request caller (.openDevice busNum devAddr) calls) ∈ history →
      lookup uid = none → calls = []
  grants : ∀ uid available name, lookup uid = none →
    UsbService.hasRight (getBundleName available lookup uid) name s.world = false

/-- The user allows requests under a name only. -/
def Named (_ : Session) : Option Int32 × Label → Prop
  | (_, .answered bundle _ event _) => event = "EVENT_ALLOW" → bundle ≠ ""
  | _ => True

variable {usbd : Usbd} {lookup : Int32 → Option String}
  {history : List (Option Int32 × Label)} {s s' : Session} {label : Option Int32 × Label}

theorem CalledStep.step (called : CalledStep usbd lookup s label s') : Step usbd s label.2 s' := by
  cases called with
  | called _ step => exact step
  | uncalled _ step => exact step

/-- Where the empty name has no right, a uid without a bundle has none. -/
theorem hasRight_of_unresolved (nameless : ∀ name, ¬ s.HasRight name "") {uid : Int32}
    (unresolved : lookup uid = none) (available : Bool) (name : String) :
    UsbService.hasRight (getBundleName available lookup uid) name s.world = false := by
  unfold getBundleName
  rw [unresolved]
  cases available with
  | false => rfl
  | true => exact Bool.eq_false_iff.mpr (nameless name)

/-- Where consent is given to names only, the empty name gets no right. -/
theorem nameless_step (nameless : ∀ name, ¬ s.HasRight name "") (named : Named s label)
    (called : CalledStep usbd lookup s label s') : ∀ name, ¬ s'.HasRight name "" := by
  intro name right
  rcases called.step.hasRight_cases right with before | ⟨event, answered⟩
  · exact nameless name before
  · obtain ⟨uid, label⟩ := label
    obtain rfl : label = .answered "" name event .UEC_OK := answered
    exact named called.step.event_of_granted rfl

/-- What one step preserves. -/
theorem Unidentified.step (before : Unidentified lookup history s)
    (nameless : ∀ name, ¬ s.HasRight name "") (named : Named s label)
    (called : CalledStep usbd lookup s label s') :
    Unidentified lookup (history ++ [label]) s' := by
  have refused : ∀ {uid : Int32} {available : Bool} (name : String), lookup uid = none →
      UsbService.hasRight (getBundleName available lookup uid) name s.world = false :=
    fun name unresolved => hasRight_of_unresolved nameless unresolved _ name
  refine ⟨?_, ?_, ?_⟩
  · intro uid caller name answer there unresolved
    rcases List.mem_append.mp there with earlier | now
    · exact before.hasRight uid caller name answer earlier unresolved
    obtain rfl := List.mem_singleton.mp now
    cases called with
    | called same step =>
      obtain rfl := Option.some.inj same
      cases step with
      | hasRight => exact refused name unresolved
  · intro uid caller busNum devAddr calls there unresolved
    rcases List.mem_append.mp there with earlier | now
    · exact before.openDevice uid caller busNum devAddr calls earlier unresolved
    obtain rfl := List.mem_singleton.mp now
    cases called with
    | called same step =>
      obtain rfl := Option.some.inj same
      cases step with
      | request served =>
        rw [DeviceRequest.serve_openDevice, refused _ unresolved] at served
        simpa using served
  · intro uid available name unresolved
    exact hasRight_of_unresolved (nameless_step nameless named called) unresolved available name

theorem nameless_start : ∀ name, ¬ ({} : Session).HasRight name "" := by
  intro name
  simp [HasRight, RightManager.hasRight]

theorem nameless (run : Run (Guarded Named (CalledStep usbd lookup)) {} history s) :
    ∀ name, ¬ s.HasRight name "" := by
  induction run with
  | start => exact nameless_start
  | step _ taken ih => exact nameless_step ih taken.1 taken.2

/-- In every run in which the user allows requests under a name only, callers
without a bundle hold no rights. -/
theorem unidentified_of_named
    (run : Run (Guarded Named (CalledStep usbd lookup)) {} history s) :
    Unidentified lookup history s := by
  induction run with
  | start =>
    refine ⟨?_, ?_, ?_⟩
    · exact fun _ _ _ _ there => nomatch there
    · exact fun _ _ _ _ _ there => nomatch there
    · exact fun _ available name unresolved =>
        hasRight_of_unresolved nameless_start unresolved available name
  | step earlier taken ih => exact ih.step (nameless earlier) taken.1 taken.2

/-! ### Two runs -/

/-- Uid 100 is that of a bundle, and no other is. -/
def oneBundle (uid : Int32) : Option String := if uid = 100 then some "com.usb.right" else none

theorem unidentified_allowed :
    Unidentified oneBundle
      ([] ++ [(some 100, .requestRight (some "com.usb.right") "1-2" none)] ++
        [(none, .answered "com.usb.right" "1-2" "EVENT_ALLOW" .UEC_OK)] ++
        [(some 7, .hasRight (some "") "1-2" (UsbService.hasRight (some "") "1-2" allowed.world))])
      allowed := by
  have asks : CalledStep obedient oneBundle {}
      (some 100, .requestRight (some "com.usb.right") "1-2" none) asked :=
    .called (rfl : _ = some (getBundleName true oneBundle 100)) step_asked
  have answers : CalledStep obedient oneBundle asked
      (none, .answered "com.usb.right" "1-2" "EVENT_ALLOW" .UEC_OK) allowed :=
    .uncalled rfl step_allowed
  have looks : CalledStep obedient oneBundle allowed
      (some 7, .hasRight (some "") "1-2" (UsbService.hasRight (some "") "1-2" allowed.world))
      allowed :=
    .called (rfl : _ = some (getBundleName true oneBundle 7)) .hasRight
  exact unidentified_of_named
    (((Run.start.step ⟨trivial, asks⟩).step ⟨fun _ => by decide, answers⟩).step ⟨trivial, looks⟩)

/-- A caller without a bundle waits for the answer to its request, -/
def namelessAsked : Session :=
  { world := { rightManager := { dialogId := 0 } }, waiting := [("1-2", "")] }

/-- and the user has allowed it. -/
def namelessAllowed : Session where
  world := (requestRightAnswered "" "1-2" "EVENT_ALLOW" namelessAsked.world).2
  waiting := namelessAsked.waiting.erase ("1-2", "")

/-- Uid 8 has the right that uid 7 asked for, and neither has a bundle. -/
theorem not_unidentified_allowed :
    ¬ ∀ usbd lookup history s, Run (CalledStep usbd lookup) {} history s →
      Unidentified lookup history s := by
  intro all
  have asks : CalledStep obedient oneBundle {} (some 7, .requestRight (some "") "1-2" none)
      namelessAsked :=
    .called (rfl : _ = some (getBundleName true oneBundle 7)) (.waits rfl)
  have answers : CalledStep obedient oneBundle namelessAsked
      (none, .answered "" "1-2" "EVENT_ALLOW" .UEC_OK) namelessAllowed :=
    .uncalled rfl (.answered (List.mem_singleton.mpr rfl) (Prod.ext (by decide +kernel) rfl))
  have refused := (all _ _ _ _ ((Run.start.step asks).step answers)).grants 8 true "1-2" rfl
  revert refused
  decide +kernel

end Session

end UsbManager

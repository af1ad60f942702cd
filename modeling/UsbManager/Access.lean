import UsbManager.Sessions

/-!
# Access control over whole runs

A bundle should be granted the right on a device before the service forwards
any request of it for that device to usbd.  `OpenDevice` asks for the right;
no other method does.
-/

namespace UsbManager

open UsbService

namespace Session

variable {usbd : Usbd} {history : List Label} {s : Session}

/-- Whatever was forwarded for a bundle, the bundle had been granted the right
on the device before. -/
def Authorised (history : List Label) : Prop :=
  ∀ before after bundle request calls,
    history = before ++ .request (some bundle) request calls :: after →
      ∀ call ∈ calls, ∃ label ∈ before,
        Grants (deviceName call.dev.busNum call.dev.devAddr) bundle label

/-- Every right a bundle has was granted to it. -/
def RightsGranted (history : List Label) (s : Session) : Prop :=
  ∀ name bundle, s.HasRight name bundle → ∃ label ∈ history, Grants name bundle label

theorem RightsGranted.start : RightsGranted [] {} := by
  intro name bundle right
  exact absurd right (by simp [HasRight, RightManager.hasRight])

theorem RightsGranted.step {s' : Session} {label : Label} (granted : RightsGranted history s)
    (step : Step usbd s label s') : RightsGranted (history ++ [label]) s' := by
  intro name bundle right
  rcases step.hasRight_cases right with before | ⟨event, rfl⟩
  · obtain ⟨label', there, grants⟩ := granted name bundle before
    exact ⟨label', List.mem_append_left _ there, grants⟩
  · exact ⟨_, List.mem_append_right _ (List.mem_singleton.mpr rfl), rfl, rfl, rfl⟩

theorem rightsGranted (run : Run (Step usbd) {} history s) : RightsGranted history s :=
  run.invariant .start fun _ _ _ _ granted step => granted.step step

/-- A request of a bundle that is forwarded without a check is made by a bundle
that has the right on the device. -/
def AsksFirst (s : Session) : Label → Prop
  | .request (some bundle) request _ =>
    request.checksRight = false → ∀ call, request.forwarded = some call →
      s.HasRight (deviceName call.dev.busNum call.dev.devAddr) bundle
  | _ => True

/-- Then everything forwarded is for a device its bundle has the right on. -/
theorem hasRight_of_forwarded {s' : Session} {bundle : String} {request : DeviceRequest}
    {calls : List UsbdCall} (asks : s.AsksFirst (.request (some bundle) request calls))
    (step : Step usbd s (.request (some bundle) request calls) s') :
    ∀ call ∈ calls, s.HasRight (deviceName call.dev.busNum call.dev.devAddr) bundle := by
  intro call there
  cases step with
  | request served =>
    cases checks : request.checksRight with
    | false =>
      rw [request.serve_of_unchecked usbd _ s.world checks] at served
      obtain rfl := List.append_cancel_left served
      exact asks checks call (by simpa using there)
    | true =>
      cases request with
      | openDevice busNum devAddr =>
        rw [DeviceRequest.serve_openDevice] at served
        by_cases right :
            UsbService.hasRight (some bundle) (deviceName busNum devAddr) s.world = true
        · rw [if_pos right] at served
          obtain rfl := List.append_cancel_left served
          obtain rfl := List.mem_singleton.mp there
          exact right
        · rw [if_neg right] at served
          obtain rfl : calls = [] := by simpa using served
          exact nomatch there
      | _ => exact nomatch checks

/-- In every run whose requests ask first, whatever is forwarded for a bundle
is so after the bundle was granted the right. -/
theorem authorised_of_asksFirst (run : Run (Guarded AsksFirst (Step usbd)) {} history s) :
    Authorised history := by
  intro before after bundle request calls whole call there
  subst whole
  obtain ⟨s₁, s₂, earlier, asks, step⟩ := run.split
  have right := hasRight_of_forwarded asks step call there
  exact rightsGranted earlier.unguarded _ _ right

/-- A usbd that does what it is asked. -/
def obedient : Usbd := ⟨fun _ _ => { ret := .UEC_OK }⟩

/-- A bundle waits for the answer to its request for the right on 1-2. -/
def asked : Session :=
  { world := { rightManager := { dialogId := 0 } }, waiting := [("1-2", "com.usb.right")] }

/-- The user has allowed it. -/
def allowed : Session where
  world := (requestRightAnswered "com.usb.right" "1-2" "EVENT_ALLOW" asked.world).2
  waiting := asked.waiting.erase ("1-2", "com.usb.right")

theorem step_asked :
    Step obedient {} (.requestRight (some "com.usb.right") "1-2" none) asked :=
  .waits rfl

theorem step_allowed :
    Step obedient asked (.answered "com.usb.right" "1-2" "EVENT_ALLOW" .UEC_OK) allowed :=
  .answered (List.mem_singleton.mpr rfl) (Prod.ext (by decide +kernel) rfl)

theorem authorised_askThenClaim :
    Authorised
      ([] ++ [.requestRight (some "com.usb.right") "1-2" none] ++
        [.answered "com.usb.right" "1-2" "EVENT_ALLOW" .UEC_OK] ++
        [.request (some "com.usb.right") (.claimInterface 1 2 0 1)
          [.ClaimInterface ⟨1, 2⟩ 0 1]]) := by
  have right : allowed.HasRight "1-2" "com.usb.right" := by
    unfold HasRight
    decide +kernel
  have asks : allowed.AsksFirst (.request (some "com.usb.right") (.claimInterface 1 2 0 1)
      [.ClaimInterface ⟨1, 2⟩ 0 1]) := by
    intro _ call same
    obtain rfl := Option.some.inj same
    exact right
  exact authorised_of_asksFirst
    (((Run.start.step ⟨trivial, step_asked⟩).step ⟨trivial, step_allowed⟩).step
      ⟨asks, .request rfl⟩)

/-- A bundle claims an interface without any right. -/
theorem not_authorised_claimInterface :
    ¬ ∀ usbd history s, Run (Step usbd) {} history s → Authorised history := by
  intro all
  have run : Run (Step obedient) {}
      ([] ++ [.request (some "com.usb.right") (.claimInterface 1 2 0 1)
        [.ClaimInterface ⟨1, 2⟩ 0 1]]) _ := Run.start.step (.request rfl)
  obtain ⟨_, there, _⟩ := all _ _ _ run [] [] _ _ _ rfl _ (List.mem_singleton.mpr rfl)
  exact nomatch there

end Session

end UsbManager

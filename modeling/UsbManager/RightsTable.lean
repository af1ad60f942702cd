import UsbManager.Service

/-!
# The rights table over whole runs

Bundles ask for rights, lose them and use them, one request at a time: a dialog
that is shown is answered before the next request is handled.  The table then
means what its history says (`rightsMeaning`), and a bundle reaches usbd through
`OpenDevice` exactly for the devices it has a right on.  Removing a right
removes the rights of every bundle on the device
(`hasRight_removeRight_iff`).
-/

namespace UsbManager

open UsbService

/-! ## Names of devices -/

/-- The decimal digits of a number tell it. -/
theorem toDigits_injective {m n : Nat} (same : Nat.toDigits 10 m = Nat.toDigits 10 n) : m = n := by
  have values := congrArg (fun digits => Nat.ofDigitChars 10 digits 0) same
  simpa only [Nat.ofDigitChars_ten_toDigits] using values

theorem dash_notMem_toDigits (n : Nat) : '-' ∉ Nat.toDigits 10 n := by
  intro there
  have digit := Nat.isDigit_of_mem_toDigits (by decide) (by decide) there
  exact absurd digit (by decide)

theorem toList_deviceName (busNum devAddr : UInt8) :
    (deviceName busNum devAddr).toList =
      Nat.toDigits 10 busNum.toNat ++ '-' :: Nat.toDigits 10 devAddr.toNat := by
  simp [deviceName, Nat.toString_eq_repr]

/-- Two devices have two names. -/
theorem deviceName_injective {busNum devAddr busNum' devAddr' : UInt8}
    (same : deviceName busNum devAddr = deviceName busNum' devAddr') :
    busNum = busNum' ∧ devAddr = devAddr' := by
  have lists := congrArg String.toList same
  rw [toList_deviceName, toList_deviceName,
    List.append_cons_inj_of_notMem (dash_notMem_toDigits _) (dash_notMem_toDigits _)] at lists
  obtain ⟨bus, _, addr⟩ := lists
  exact ⟨UInt8.toNat_inj.mp (toDigits_injective bus), UInt8.toNat_inj.mp (toDigits_injective addr)⟩

theorem deviceName_inj {busNum devAddr busNum' devAddr' : UInt8} :
    deviceName busNum devAddr = deviceName busNum' devAddr' ↔
      busNum = busNum' ∧ devAddr = devAddr' := by
  constructor
  · exact deviceName_injective
  · intro both
    rw [both.1, both.2]

/-! ## Requests and what becomes of them -/

/-- A request of a bundle whose name is resolved.  Should a dialog be shown,
`dialogId` is what `ShowDialog` stores and `event` what the user answers. -/
inductive RightsRequest where
  | requestRight (bundle name : String) (dialogId : Int32) (event : String)
  | removeRight (bundle name : String)
  | hasRight (bundle name : String)
  | openDevice (bundle : String) (busNum devAddr : UInt8)
  deriving DecidableEq, Repr

/-- A request that was handled, with what it answered: for `requestRight` also
the event of the dialog, if the user was asked, for `openDevice` the calls that
reached usbd. -/
inductive Handled where
  | requestRight (bundle name : String) (event : Option String) (ret : Uec)
  | removeRight (bundle name : String) (ret : Uec)
  | hasRight (bundle name : String) (answer : Bool)
  | openDevice (bundle : String) (busNum devAddr : UInt8) (calls : List UsbdCall)
  deriving DecidableEq, Repr

namespace RightsRequest

variable (usbd : Usbd)

/-- Handle a request to its end. -/
def handle : RightsRequest → World → Handled × World
  | requestRight bundle name dialogId event, w =>
    match UsbService.requestRight (some bundle) name dialogId w with
    | (some ret, w) => (.requestRight bundle name none ret, w)
    | (none, w) =>
      let (ret, w) := requestRightAnswered bundle name event w
      (.requestRight bundle name (some event) ret, w)
  | removeRight bundle name, w =>
    let (ret, w) := UsbService.removeRight name w
    (.removeRight bundle name ret, w)
  | hasRight bundle name, w =>
    (.hasRight bundle name (UsbService.hasRight (some bundle) name w), w)
  | openDevice bundle busNum devAddr, w =>
    let (_, w') := UsbService.openDevice usbd (some bundle) busNum devAddr w
    (.openDevice bundle busNum devAddr (w'.calls.drop w.calls.length), w')

/-- Handle requests one after the other, from the start of the service. -/
def handleAll (requests : List RightsRequest) : List Handled × World :=
  requests.foldl (fun (history, w) request =>
    let (handled, w) := handle usbd request w
    (history ++ [handled], w)) ([], {})

theorem handleAll_concat (requests : List RightsRequest) (request : RightsRequest) :
    handleAll usbd (requests ++ [request]) =
      ((handleAll usbd requests).1 ++ [(handle usbd request (handleAll usbd requests).2).1],
        (handle usbd request (handleAll usbd requests).2).2) := by
  simp [handleAll, List.foldl_append]

end RightsRequest

/-- The user allowed a request of the bundle for that name after the last
removal of the rights on it. -/
def AllowedSinceRemoval (history : List Handled) (name bundle : String) : Prop :=
  ∃ before ret after,
    history = before ++ .requestRight bundle name (some "EVENT_ALLOW") ret :: after ∧
      ∀ bundle' ret', .removeRight bundle' name ret' ∉ after

section History

variable {history : List Handled} {handled : Handled} {name bundle : String}

theorem not_allowedSinceRemoval_nil : ¬ AllowedSinceRemoval [] name bundle := by
  intro allowed
  obtain ⟨before, ret, after, whole, _⟩ := allowed
  simp at whole

/-- A request adds its own grant, a removal takes the grants on its name away,
and nothing else matters. -/
theorem allowedSinceRemoval_concat :
    AllowedSinceRemoval (history ++ [handled]) name bundle ↔
      (∃ ret, handled = .requestRight bundle name (some "EVENT_ALLOW") ret) ∨
        AllowedSinceRemoval history name bundle ∧
          ∀ bundle' ret', handled ≠ .removeRight bundle' name ret' := by
  constructor
  · intro allowed
    obtain ⟨before, ret, after, whole, clear⟩ := allowed
    rcases after.eq_nil_or_concat with rfl | ⟨rest, last, rfl⟩
    · have same : handled = .requestRight bundle name (some "EVENT_ALLOW") ret := by
        simpa using (List.append_inj' whole rfl).2
      exact .inl ⟨ret, same⟩
    · have shape : history ++ [handled] =
          (before ++ .requestRight bundle name (some "EVENT_ALLOW") ret :: rest) ++ [last] := by
        simpa using whole
      obtain ⟨earlier, same⟩ := List.append_inj' shape rfl
      obtain rfl : handled = last := by simpa using same
      refine .inr ⟨⟨before, ret, rest, earlier, ?_⟩, ?_⟩
      · intro bundle' ret' there
        exact clear bundle' ret' (by simp [there])
      · intro bundle' ret' removal
        exact clear bundle' ret' (by simp [removal])
  · intro allowed
    rcases allowed with ⟨ret, rfl⟩ | ⟨⟨before, ret, after, rfl, clear⟩, kept⟩
    · exact ⟨history, ret, [], rfl, fun _ _ there => nomatch there⟩
    · refine ⟨before, ret, after ++ [handled], by simp, ?_⟩
      intro bundle' ret' there
      rcases List.mem_append.mp there with there | there
      · exact clear bundle' ret' there
      · exact kept bundle' ret' (List.mem_singleton.mp there).symm

theorem allowedSinceRemoval_allowed {name' bundle' : String} {ret : Uec} :
    AllowedSinceRemoval (history ++ [.requestRight bundle' name' (some "EVENT_ALLOW") ret])
        name bundle ↔
      AllowedSinceRemoval history name bundle ∨ name = name' ∧ bundle = bundle' := by
  rw [allowedSinceRemoval_concat]
  constructor
  · intro allowed
    rcases allowed with ⟨_, same⟩ | ⟨before, _⟩
    · obtain ⟨rfl, rfl, _⟩ := Handled.requestRight.inj same
      exact .inr ⟨rfl, rfl⟩
    · exact .inl before
  · intro allowed
    rcases allowed with before | ⟨rfl, rfl⟩
    · exact .inr ⟨before, fun _ _ => nofun⟩
    · exact .inl ⟨ret, rfl⟩

theorem allowedSinceRemoval_removed {name' bundle' : String} {ret : Uec} :
    AllowedSinceRemoval (history ++ [.removeRight bundle' name' ret]) name bundle ↔
      name ≠ name' ∧ AllowedSinceRemoval history name bundle := by
  rw [allowedSinceRemoval_concat]
  constructor
  · intro allowed
    rcases allowed with ⟨_, same⟩ | ⟨before, kept⟩
    · cases same
    · exact ⟨fun same => kept bundle' ret (same ▸ rfl), before⟩
  · intro allowed
    obtain ⟨other, before⟩ := allowed
    refine .inr ⟨before, fun _ _ same => other ?_⟩
    exact (Handled.removeRight.inj same).2.1.symm

/-- The other requests change nothing. -/
theorem allowedSinceRemoval_other
    (notAllowed : ∀ bundle name ret, handled ≠ .requestRight bundle name (some "EVENT_ALLOW") ret)
    (notRemoved : ∀ bundle name ret, handled ≠ .removeRight bundle name ret) :
    AllowedSinceRemoval (history ++ [handled]) name bundle ↔
      AllowedSinceRemoval history name bundle := by
  rw [allowedSinceRemoval_concat]
  constructor
  · intro allowed
    rcases allowed with ⟨_, same⟩ | ⟨before, _⟩
    · exact (notAllowed _ _ _ same).elim
    · exact before
  · exact fun before => .inr ⟨before, fun _ _ => notRemoved _ _ _⟩

end History

/-! ## The answer to a dialog -/

namespace RightManager

/-- No bundle occurs twice in the list of a device. -/
def ListedOnce (m : RightManager) : Prop :=
  ∀ (name : String) (list : List String), m.rightMap[name]? = some list → list.Nodup

variable {m : RightManager} {name bundle event : String}

/-- Only a right that is there already is not added. -/
theorem addDeviceRight_fst : (m.addDeviceRight name bundle).1 = !m.hasRight name bundle := by
  unfold addDeviceRight hasRight
  cases m.rightMap[name]? with
  | none => rfl
  | some v => by_cases known : bundle ∈ v <;> simp [known]

theorem ListedOnce.addDeviceRight (once : m.ListedOnce) :
    (m.addDeviceRight name bundle).2.ListedOnce := by
  intro name' list stored
  rw [getElem?_addDeviceRight] at stored
  by_cases same : name' = name
  · rw [if_pos same] at stored
    cases there : m.rightMap[name]? with
    | none =>
      rw [there] at stored
      obtain rfl := Option.some.inj stored
      exact List.nodup_singleton bundle
    | some v =>
      rw [there] at stored
      dsimp only at stored
      by_cases known : bundle ∈ v
      · rw [if_pos known] at stored
        obtain rfl := Option.some.inj stored
        exact once name v there
      · rw [if_neg known] at stored
        obtain rfl := Option.some.inj stored
        exact List.concat_eq_append ▸ (once name v there).concat known
  · rw [if_neg same] at stored
    exact once name' list stored

theorem ListedOnce.removeDeviceRight (once : m.ListedOnce) :
    (m.removeDeviceRight name).2.ListedOnce := by
  unfold RightManager.removeDeviceRight
  by_cases present : name ∈ m.rightMap
  · rw [if_pos present]
    intro name' list stored
    by_cases same : name = name'
    · simp [same] at stored
    · exact once name' list (by simpa [same, Std.TreeMap.getElem?_erase] using stored)
  · rw [if_neg present]
    exact once

/-- What the user allows is granted. -/
theorem requestRightAnswered_of_allowed (absent : m.hasRight name bundle = false) :
    m.requestRightAnswered name bundle "EVENT_ALLOW" =
      (.UEC_OK, { (m.addDeviceRight name bundle).2 with dialogId := -1 }) := by
  have granted : (m.addDeviceRight name bundle).2.hasRight name bundle = true :=
    (m.hasRight_addDeviceRight name bundle).mpr (.inr ⟨rfl, rfl⟩)
  have shown : hasRight { (m.addDeviceRight name bundle).2 with dialogId := -1 } name bundle =
      true := granted
  have added : (m.addDeviceRight name bundle).1 = true := by
    rw [addDeviceRight_fst, absent]
    rfl
  simp [requestRightAnswered, addDeviceRight_dialogId, added, shown]

/-- Whatever else the user answers is a refusal. -/
theorem requestRightAnswered_of_refused (refused : event ≠ "EVENT_ALLOW") :
    m.requestRightAnswered name bundle event =
      (.UEC_SERVICE_PERMISSION_DENIED, { m with dialogId := -1 }) := by
  simp [requestRightAnswered, refused]

end RightManager

/-! ## One request -/

namespace RightsRequest

variable (usbd : Usbd) (w : World)

/-- A bundle with the right is not asked again. -/
theorem handle_requestRight_of_right {bundle name event : String} {dialogId : Int32}
    (right : w.rightManager.hasRight name bundle = true) :
    handle usbd (.requestRight bundle name dialogId event) w =
      (.requestRight bundle name none .UEC_OK, w) := by
  simp [handle, UsbService.requestRight, RightManager.requestRight, right]

/-- While no dialog is open the user is asked. -/
theorem handle_requestRight_of_asked {bundle name event : String} {dialogId : Int32}
    (idle : w.rightManager.dialogId < 0) (absent : w.rightManager.hasRight name bundle = false) :
    handle usbd (.requestRight bundle name dialogId event) w =
      (.requestRight bundle name (some event)
        (w.rightManager.requestRightAnswered name bundle event).1,
        { w with rightManager := (w.rightManager.requestRightAnswered name bundle event).2 }) := by
  have closed : ¬ w.rightManager.dialogId ≥ 0 := Int32.not_le.mpr idle
  have shown : w.rightManager.requestRight name bundle dialogId =
      (none, { w.rightManager with dialogId }) := by
    simp [RightManager.requestRight, absent, closed]
  simp only [handle, UsbService.requestRight, shown]
  rfl

/-- `OpenDevice` calls usbd for a bundle with the right on the device, and not
at all for another. -/
theorem handle_openDevice (bundle : String) (busNum devAddr : UInt8) :
    (handle usbd (.openDevice bundle busNum devAddr) w).1 =
        .openDevice bundle busNum devAddr
          (if w.rightManager.hasRight (deviceName busNum devAddr) bundle then
            [.OpenDevice ⟨busNum, devAddr⟩] else []) ∧
      (handle usbd (.openDevice bundle busNum devAddr) w).2.rightManager = w.rightManager := by
  cases right : w.rightManager.hasRight (deviceName busNum devAddr) bundle with
  | true => simp [handle, UsbService.openDevice, UsbService.hasRight, right]
  | false => simp [handle, UsbService.openDevice, UsbService.hasRight, right]

theorem handle_removeRight (bundle name : String) :
    (∃ ret, (handle usbd (.removeRight bundle name) w).1 = .removeRight bundle name ret) ∧
      (handle usbd (.removeRight bundle name) w).2.rightManager =
        (w.rightManager.removeDeviceRight name).2 := by
  exact ⟨⟨_, rfl⟩, removeRight_rightManager name w⟩

end RightsRequest

/-! ## The meaning of the table -/

/-- No dialog is open, and a right is in the table if the user allowed it and
it was not removed since. -/
structure TableMeans (history : List Handled) (w : World) : Prop where
  idle : w.rightManager.dialogId < 0
  hasRight : ∀ name bundle,
    w.rightManager.hasRight name bundle = true ↔ AllowedSinceRemoval history name bundle
  once : w.rightManager.ListedOnce

theorem TableMeans.start : TableMeans [] {} := by
  refine ⟨by decide, ?_, ?_⟩
  · intro name bundle
    simp [RightManager.hasRight, not_allowedSinceRemoval_nil]
  · intro name list stored
    simp at stored

/-- What every request preserves. -/
theorem TableMeans.step {history : List Handled} {w : World} (means : TableMeans history w)
    (usbd : Usbd) (request : RightsRequest) :
    TableMeans (history ++ [(request.handle usbd w).1]) (request.handle usbd w).2 := by
  cases request with
  | requestRight bundle name dialogId event =>
    cases right : w.rightManager.hasRight name bundle with
    | true =>
      rw [RightsRequest.handle_requestRight_of_right usbd w right]
      refine ⟨means.idle, ?_, means.once⟩
      intro name' bundle'
      rw [means.hasRight, allowedSinceRemoval_other (by simp) (by simp)]
    | false =>
      rw [RightsRequest.handle_requestRight_of_asked usbd w means.idle right]
      by_cases allowed : event = "EVENT_ALLOW"
      · subst allowed
        rw [RightManager.requestRightAnswered_of_allowed right]
        refine ⟨by dsimp only; decide, ?_, means.once.addDeviceRight⟩
        intro name' bundle'
        rw [allowedSinceRemoval_allowed, ← means.hasRight]
        exact w.rightManager.hasRight_addDeviceRight name bundle
      · rw [RightManager.requestRightAnswered_of_refused allowed]
        refine ⟨by dsimp only; decide, ?_, means.once⟩
        intro name' bundle'
        rw [allowedSinceRemoval_other (by simp [allowed]) (by simp), ← means.hasRight]
        rfl
  | removeRight bundle name =>
    obtain ⟨⟨ret, label⟩, manager⟩ := RightsRequest.handle_removeRight usbd w bundle name
    rw [label]
    refine ⟨?_, ?_, ?_⟩
    · rw [manager]
      unfold RightManager.removeDeviceRight
      split <;> exact means.idle
    · intro name' bundle'
      rw [manager, RightManager.hasRight_removeDeviceRight, means.hasRight,
        allowedSinceRemoval_removed]
    · rw [manager]
      exact means.once.removeDeviceRight
  | hasRight bundle name =>
    refine ⟨means.idle, ?_, means.once⟩
    intro name' bundle'
    rw [allowedSinceRemoval_other (by simp [RightsRequest.handle])
      (by simp [RightsRequest.handle])]
    exact means.hasRight name' bundle'
  | openDevice bundle busNum devAddr =>
    obtain ⟨label, manager⟩ := RightsRequest.handle_openDevice usbd w bundle busNum devAddr
    rw [label]
    refine ⟨manager ▸ means.idle, ?_, manager ▸ means.once⟩
    intro name' bundle'
    rw [manager, means.hasRight, allowedSinceRemoval_other (by simp) (by simp)]

theorem tableMeans (usbd : Usbd) (requests : List RightsRequest) :
    TableMeans (RightsRequest.handleAll usbd requests).1
      (RightsRequest.handleAll usbd requests).2 := by
  induction requests using List.reverseRecOn with
  | nil => exact .start
  | append_singleton requests request ih =>
    rw [RightsRequest.handleAll_concat]
    exact ih.step usbd request

/-- What the requests handled so far say about the table, and the table about
the next request. -/
structure RightsMeaning (usbd : Usbd) (history : List Handled) (w : World) : Prop where
  hasRight : ∀ name bundle,
    UsbService.hasRight (some bundle) name w = true ↔ AllowedSinceRemoval history name bundle
  requestRight : ∀ bundle name dialogId event, ∃ event' ret w',
    RightsRequest.handle usbd (.requestRight bundle name dialogId event) w =
        (.requestRight bundle name event' ret, w') ∧
      (ret = .UEC_OK ↔ UsbService.hasRight (some bundle) name w' = true)
  once : w.rightManager.ListedOnce
  openDevice : ∀ bundle busNum devAddr,
    (RightsRequest.handle usbd (.openDevice bundle busNum devAddr) w).1 =
      .openDevice bundle busNum devAddr
        (if UsbService.hasRight (some bundle) (deviceName busNum devAddr) w then
          [.OpenDevice ⟨busNum, devAddr⟩] else [])
  ownName : ∀ busNum devAddr busNum' devAddr',
    deviceName busNum devAddr = deviceName busNum' devAddr' → busNum = busNum' ∧ devAddr = devAddr'

/-- `RequestRight` answers `UEC_OK` exactly if the bundle has the right then. -/
theorem TableMeans.requestRight_iff {history : List Handled} {w : World}
    (means : TableMeans history w) (usbd : Usbd) (bundle name : String) (dialogId : Int32)
    (event : String) :
    ∃ event' ret w', RightsRequest.handle usbd (.requestRight bundle name dialogId event) w =
        (.requestRight bundle name event' ret, w') ∧
      (ret = .UEC_OK ↔ UsbService.hasRight (some bundle) name w' = true) := by
  cases right : w.rightManager.hasRight name bundle with
  | true =>
    refine ⟨none, .UEC_OK, w, RightsRequest.handle_requestRight_of_right usbd w right, ?_⟩
    exact iff_of_true rfl right
  | false =>
    refine ⟨some event, _, _,
      RightsRequest.handle_requestRight_of_asked usbd w means.idle right, ?_⟩
    change _ ↔ (w.rightManager.requestRightAnswered name bundle event).2.hasRight name bundle =
      true
    by_cases allowed : event = "EVENT_ALLOW"
    · subst allowed
      rw [RightManager.requestRightAnswered_of_allowed right]
      refine iff_of_true rfl ?_
      exact (w.rightManager.hasRight_addDeviceRight name bundle).mpr (.inr ⟨rfl, rfl⟩)
    · rw [RightManager.requestRightAnswered_of_refused allowed]
      refine iff_of_false nofun ?_
      change ¬ w.rightManager.hasRight name bundle = true
      rw [right]
      exact Bool.false_ne_true

/-- After any requests the table means what its history says. -/
theorem rightsMeaning (usbd : Usbd) (requests : List RightsRequest) :
    RightsMeaning usbd (RightsRequest.handleAll usbd requests).1
      (RightsRequest.handleAll usbd requests).2 := by
  have means := tableMeans usbd requests
  refine ⟨means.hasRight, means.requestRight_iff usbd, means.once, ?_, ?_⟩
  · exact fun bundle busNum devAddr => (RightsRequest.handle_openDevice usbd _ _ _ _).1
  · exact fun _ _ _ _ => deviceName_injective

/-! ## Removing the rights of others -/

/-- A bundle that removes a right leaves the rights of a bundle as they were,
unless that bundle has the right on the very device. -/
theorem hasRight_removeRight_iff (usbd : Usbd) (w : World) (a b name name' : String) :
    UsbService.hasRight (some b) name' (RightsRequest.handle usbd (.removeRight a name) w).2 =
        UsbService.hasRight (some b) name' w ↔
      ¬ (name' = name ∧ UsbService.hasRight (some b) name w = true) := by
  obtain ⟨_, manager⟩ := RightsRequest.handle_removeRight usbd w a name
  have removed : (w.rightManager.removeDeviceRight name).2.hasRight name' b = true ↔
      name' ≠ name ∧ w.rightManager.hasRight name' b = true :=
    w.rightManager.hasRight_removeDeviceRight name
  unfold UsbService.hasRight
  dsimp only
  rw [manager, Bool.eq_iff_iff, removed]
  constructor
  · intro same lost
    obtain ⟨rfl, right⟩ := lost
    exact (same.mpr right).1 rfl
  · intro kept
    constructor
    · exact And.right
    · intro right
      exact ⟨fun same => kept ⟨same, same ▸ right⟩, right⟩

/-- One bundle takes the right of another away. -/
theorem not_removeRight_keeps :
    ¬ ∀ usbd requests (a b name name' : String), b ≠ a →
      UsbService.hasRight (some b) name' (RightsRequest.handle usbd (.removeRight a name)
          (RightsRequest.handleAll usbd requests).2).2 =
        UsbService.hasRight (some b) name' (RightsRequest.handleAll usbd requests).2 := by
  intro all
  have kept := all ⟨fun _ _ => { ret := .UEC_OK }⟩
    [.requestRight "com.usb.right" "1-2" 0 "EVENT_ALLOW"] "com.other" "com.usb.right" "1-2" "1-2"
    (by decide)
  revert kept
  decide +kernel

end UsbManager

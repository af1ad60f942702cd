import UsbManager.Attach
import UsbManager.DeviceStrings

/-!
# Open and close

`GetDeviceInfo` opens a device.  `GetDeviceInfoDescriptor` closes it on two of its
three error paths, and `GetDeviceInfo` goes on all the same, to close it at its end
unless the configuration is refused.  The device is closed once exactly if one of
the two closes it and the other does not (`closes_once_iff`).
-/

namespace UsbManager

open UsbDescriptorParser

namespace UsbService

section

variable (usbd : Usbd) (busNum devAddr : UInt8) (dev : UsbDevice) (w : World)

/-- `GetDeviceInfo` returns and has closed the device so many times. -/
def Closes (n : Nat) : Prop :=
  ∃ result w' made, (getDeviceInfo usbd busNum devAddr dev w).Returns (result, w') ∧
    w'.calls = w.calls ++ made ∧ made.count (.CloseDevice ⟨busNum, devAddr⟩) = n

/-- `GetDeviceInfoDescriptor` closes the device: the raw descriptor cannot be read, or it
has bytes that are not accepted. -/
def ClosesEarly : Prop :=
  (rawRead usbd busNum devAddr w).1.ret ≠ .UEC_OK ∨
    size (rawDescriptor usbd busNum devAddr w) ≠ 0 ∧ ¬ Accepted (rawDescriptor usbd busNum devAddr w)

instance : Decidable (ClosesEarly usbd busNum devAddr w) := inferInstanceAs (Decidable (_ ∨ _))

/-- The count of configurations that `GetDeviceInfoDescriptor` leaves. -/
def announced : UInt8 :=
  if (rawRead usbd busNum devAddr w).1.ret = .UEC_OK ∧
      Accepted (rawDescriptor usbd busNum devAddr w) then
    (rawDescriptor usbd busNum devAddr w).getD 17 0
  else dev.descConfigCount

/-- A configuration is parsed. -/
def Configures : Prop :=
  announced usbd busNum devAddr dev w ≠ 0 ∧ CURSOR_INIT < size (rawDescriptor usbd busNum devAddr w)

/-- The calls before the configuration is parsed. -/
def earlyCalls : List UsbdCall :=
  .OpenDevice ⟨busNum, devAddr⟩ :: .GetRawDescriptor ⟨busNum, devAddr⟩ ::
    if ClosesEarly usbd busNum devAddr w then [.CloseDevice ⟨busNum, devAddr⟩] else []

/-- The configuration is parsed and accepted, -/
def ConfigAccepted : Prop :=
  ∃ cursor config, (configParse usbd busNum devAddr w).Returns (.UEC_OK, cursor, config)

/-- or refused. -/
def ConfigRefused : Prop :=
  ∃ ret cursor config, (configParse usbd busNum devAddr w).Returns (ret, cursor, config) ∧
    ret ≠ .UEC_OK

end

section Calls

variable {usbd : Usbd} {uDev : UsbDev} {dev : UsbDevice} {w w' : World}

/-- Reading strings closes no device. -/
theorem count_stringCalls (uDev' : UsbDev) (indices : List UInt8) :
    (stringCalls uDev' indices).count (.CloseDevice uDev) = 0 := by
  rw [List.count_eq_zero]
  intro there
  obtain ⟨idx, _, other⟩ := List.mem_map.mp there
  cases other

/-- The calls of `GetDeviceInfoDescriptor`. -/
theorem calls_getDeviceInfoDescriptor {result : Uec × List UInt8 × UsbDevice}
    (returned : (getDeviceInfoDescriptor usbd uDev dev w).Returns (result, w')) :
    w'.calls = w.calls ++ .GetRawDescriptor uDev ::
      if (w.call usbd (.GetRawDescriptor uDev)).1.ret ≠ .UEC_OK ∨
          size (w.call usbd (.GetRawDescriptor uDev)).1.bufferData ≠ 0 ∧
            ¬ Accepted (w.call usbd (.GetRawDescriptor uDev)).1.bufferData then
        [.CloseDevice uDev] else [] := by
  unfold getDeviceInfoDescriptor at returned
  dsimp only at returned
  rcases Prog.returns_ite.mp returned with ⟨failed, rest⟩ | ⟨read, rest⟩
  · cases Prog.returns_pure.mp rest
    rw [if_pos (.inl failed), World.call_calls, World.call_calls, List.append_assoc]
    rfl
  rcases Prog.returns_ite.mp rest with ⟨empty, rest⟩ | ⟨shown, rest⟩
  · cases Prog.returns_pure.mp rest
    have zero : size (w.call usbd (.GetRawDescriptor uDev)).1.bufferData = 0 := by
      rcases empty with absent | zero
      · cases shape : (w.call usbd (.GetRawDescriptor uDev)).1.bufferData with
        | nil => rfl
        | cons b rest =>
          rw [shape] at absent
          cases absent
      · exact zero
    rw [if_neg (by simp [not_not.mp read, zero])]
    rfl
  obtain ⟨⟨ret, dev'⟩, parsed, rest⟩ := Prog.returns_bind.mp rest
  have nonzero := (not_or.mp shown).2
  by_cases accepted : Accepted (w.call usbd (.GetRawDescriptor uDev)).1.bufferData
  · obtain ⟨d, _, parse⟩ := parseDeviceDescriptor_accepted accepted (nameDevice uDev dev)
    obtain rfl : ret = .UEC_OK :=
      congrArg Prod.fst (Prog.returns_pure.mp ((congrArg (Prog.Returns · _) parse).mp parsed))
    cases Prog.returns_pure.mp rest
    rw [if_neg (by simp [not_not.mp read, accepted])]
    rfl
  · have parse := parseDeviceDescriptor_refused accepted (nameDevice uDev dev)
    obtain rfl : ret = .UEC_SERVICE_INVALID_VALUE :=
      congrArg Prod.fst (Prog.returns_pure.mp ((congrArg (Prog.Returns · _) parse).mp parsed))
    cases Prog.returns_pure.mp rest
    rw [if_pos (.inr ⟨nonzero, accepted⟩), World.call_calls, World.call_calls, List.append_assoc]
    rfl

end Calls

section GetDeviceInfo

variable {usbd : Usbd} {busNum devAddr : UInt8} {dev : UsbDevice} {w : World}

theorem count_earlyCalls :
    (earlyCalls usbd busNum devAddr w).count (.CloseDevice ⟨busNum, devAddr⟩) =
      if ClosesEarly usbd busNum devAddr w then 1 else 0 := by
  unfold earlyCalls
  rw [List.count_cons_of_ne (by simp), List.count_cons_of_ne (by simp)]
  split
  · exact List.count_singleton_self
  · rfl

/-- What `GetDeviceInfoDescriptor` leaves of a device that was opened. -/
theorem described (usbd : Usbd) (busNum devAddr : UInt8) (dev : UsbDevice) (w : World) :
    ∃ ret dev' w', getDeviceInfoDescriptor usbd ⟨busNum, devAddr⟩ dev
        (opened usbd busNum devAddr w).2 =
          pure ((ret, rawDescriptor usbd busNum devAddr w, dev'), w') ∧
      dev'.descConfigCount = announced usbd busNum devAddr dev w ∧
      w'.calls = w.calls ++ earlyCalls usbd busNum devAddr w := by
  have calls : ∀ result w', getDeviceInfoDescriptor usbd ⟨busNum, devAddr⟩ dev
      (opened usbd busNum devAddr w).2 = pure (result, w') →
      w'.calls = w.calls ++ earlyCalls usbd busNum devAddr w := by
    intro result w' info
    exact (calls_getDeviceInfoDescriptor (info ▸ Prog.returns_pure.mpr rfl)).trans
      (List.append_assoc _ _ _)
  unfold announced
  by_cases accepted : (rawRead usbd busNum devAddr w).1.ret = .UEC_OK ∧
      Accepted (rawDescriptor usbd busNum devAddr w)
  · obtain ⟨d, layout, _, info⟩ :=
      getDeviceInfoDescriptor_accepted rawRead_eq accepted.1 accepted.2 dev
    have byte : (rawDescriptor usbd busNum devAddr w)[17]? = some d.bNumConfigurations :=
      Ptr.byte_17_of_deviceDescriptor layout
    refine ⟨_, _, _, info, ?_, calls _ _ info⟩
    rw [if_pos accepted, List.getD_eq_getElem?_getD, byte]
    rfl
  · obtain ⟨ret, w', info⟩ := getDeviceInfoDescriptor_refused rawRead_eq accepted dev
    refine ⟨_, _, _, info, ?_, calls _ _ info⟩
    rw [if_neg accepted, refusedDevice_descConfigCount]

theorem Closes.unique {n n' : Nat} (closes : Closes usbd busNum devAddr dev w n)
    (closes' : Closes usbd busNum devAddr dev w n') : n = n' := by
  obtain ⟨result, w₁, made, returned, calls, count⟩ := closes
  obtain ⟨result', w₂, made', returned', calls', count'⟩ := closes'
  obtain ⟨_, rfl⟩ := Prod.ext_iff.mp (returned.unique returned')
  obtain rfl := List.append_cancel_left (calls.symm.trans calls')
  exact count.symm.trans count'

/-- A device that cannot be opened is not closed. -/
theorem closes_of_not_opened (failed : (opened usbd busNum devAddr w).1.ret ≠ .UEC_OK) :
    Closes usbd busNum devAddr dev w 0 := by
  refine ⟨((opened usbd busNum devAddr w).1.ret, dev), (opened usbd busNum devAddr w).2,
    [.OpenDevice ⟨busNum, devAddr⟩], ?_, rfl, rfl⟩
  rw [getDeviceInfo_of_not_opened failed]
  exact Prog.returns_pure.mpr rfl

/-- A device that is given its strings is closed at the end. -/
theorem closes_of_filled (ok : (opened usbd busNum devAddr w).1.ret = .UEC_OK) {ret : Uec}
    {dev' named : UsbDevice} {w' : World}
    (info : getDeviceInfoDescriptor usbd ⟨busNum, devAddr⟩ dev (opened usbd busNum devAddr w).2 =
      pure ((ret, rawDescriptor usbd busNum devAddr w, dev'), w'))
    (calls : w'.calls = w.calls ++ earlyCalls usbd busNum devAddr w)
    (config : (getConfigDescriptor usbd false dev' (rawDescriptor usbd busNum devAddr w) w').Returns
      (fillDevStrings usbd named w')) :
    Closes usbd busNum devAddr dev w
      ((if ClosesEarly usbd busNum devAddr w then 1 else 0) + 1) := by
  have strings := congrArg (fun out => out.2.calls) (fillDevStrings_named usbd named w')
  dsimp only at strings
  rw [calls] at strings
  refine ⟨(.UEC_OK, (fillDevStrings usbd named w').1.2),
    ((fillDevStrings usbd named w').2.call usbd (.CloseDevice ⟨busNum, devAddr⟩)).2,
    earlyCalls usbd busNum devAddr w ++ (stringCalls ⟨named.busNum, named.devAddr⟩ named.indices ++
      [.CloseDevice ⟨busNum, devAddr⟩]), ?_, ?_, ?_⟩
  · rw [getDeviceInfo_of_opened ok info]
    exact Prog.returns_bind.mpr ⟨_, config, Prog.returns_pure.mpr rfl⟩
  · rw [World.call_calls, strings, List.append_assoc, List.append_assoc]
  · rw [List.count_append, List.count_append, count_earlyCalls, count_stringCalls,
      List.count_singleton_self, Nat.zero_add]

/-- A device whose configuration is accepted, or of which none is parsed, is closed at the
end. -/
theorem closes_of_accepted (ok : (opened usbd busNum devAddr w).1.ret = .UEC_OK)
    (accepted : Configures usbd busNum devAddr dev w → ConfigAccepted usbd busNum devAddr w) :
    Closes usbd busNum devAddr dev w
      ((if ClosesEarly usbd busNum devAddr w then 1 else 0) + 1) := by
  obtain ⟨ret, dev', w', info, count, calls⟩ := described usbd busNum devAddr dev w
  by_cases one : ParsesBlock dev' (rawDescriptor usbd busNum devAddr w)
  · obtain ⟨cursor, config, parsed⟩ := accepted (by rwa [Configures, ← count])
    exact closes_of_filled ok info calls (getConfigDescriptor_of_parsed one parsed)
  · exact closes_of_filled ok info calls
      (((getConfigDescriptor_none one).1 _).mpr (Prog.returns_pure.mpr rfl))

/-- A device whose configuration is refused is not closed any more. -/
theorem closes_of_refused (ok : (opened usbd busNum devAddr w).1.ret = .UEC_OK)
    (configures : Configures usbd busNum devAddr dev w)
    (refused : ConfigRefused usbd busNum devAddr w) :
    Closes usbd busNum devAddr dev w (if ClosesEarly usbd busNum devAddr w then 1 else 0) := by
  obtain ⟨ret, dev', w', info, count, calls⟩ := described usbd busNum devAddr dev w
  have one : ParsesBlock dev' (rawDescriptor usbd busNum devAddr w) := by
    rwa [Configures, ← count] at configures
  obtain ⟨ret, cursor, config, parsed, failed⟩ := refused
  refine ⟨(ret, dev'), w', _, ?_, calls, count_earlyCalls⟩
  rw [getDeviceInfo_of_opened ok info]
  refine Prog.returns_bind.mpr ⟨_, getConfigDescriptor_of_rejected one failed parsed, ?_⟩
  dsimp only
  rw [if_pos failed]
  exact Prog.returns_pure.mpr rfl

/-- There is no third way to return. -/
theorem accepted_or_refused (ok : (opened usbd busNum devAddr w).1.ret = .UEC_OK) {n : Nat}
    (closes : Closes usbd busNum devAddr dev w n) :
    (Configures usbd busNum devAddr dev w → ConfigAccepted usbd busNum devAddr w) ∨
      ConfigRefused usbd busNum devAddr w := by
  obtain ⟨result, w₁, made, returned, _⟩ := closes
  obtain ⟨ret, dev', w', info, count, calls⟩ := described usbd busNum devAddr dev w
  by_cases configures : Configures usbd busNum devAddr dev w
  · have one : ParsesBlock dev' (rawDescriptor usbd busNum devAddr w) := by
      rwa [Configures, ← count] at configures
    rw [getDeviceInfo_of_opened ok info] at returned
    obtain ⟨_, config, _⟩ := Prog.returns_bind.mp returned
    rw [(getConfigDescriptor_one one).1, getFirstConfig] at config
    obtain ⟨⟨ret, cursor, config⟩, parsed, _⟩ := Prog.returns_bind.mp config
    by_cases fine : ret = .UEC_OK
    · subst fine
      exact .inl fun _ => ⟨cursor, config, parsed⟩
    · exact .inr ⟨ret, cursor, config, parsed, fine⟩
  · exact .inl fun there => (configures there).elim

/-- A device is closed once if it was opened, and else not, exactly in these cases: it was
not opened, or it was closed early and its configuration is refused, or it was not closed
early and its configuration, if one is parsed, is accepted. -/
theorem closes_once_iff (usbd : Usbd) (busNum devAddr : UInt8) (dev : UsbDevice) (w : World) :
    Closes usbd busNum devAddr dev w
        (if (opened usbd busNum devAddr w).1.ret = .UEC_OK then 1 else 0) ↔
      (opened usbd busNum devAddr w).1.ret ≠ .UEC_OK ∨
        ClosesEarly usbd busNum devAddr w ∧ Configures usbd busNum devAddr dev w ∧
          ConfigRefused usbd busNum devAddr w ∨
        ¬ ClosesEarly usbd busNum devAddr w ∧
          (Configures usbd busNum devAddr dev w → ConfigAccepted usbd busNum devAddr w) := by
  by_cases ok : (opened usbd busNum devAddr w).1.ret = .UEC_OK
  · rw [if_pos ok]
    constructor
    · intro once
      right
      by_cases accepted : Configures usbd busNum devAddr dev w →
          ConfigAccepted usbd busNum devAddr w
      · have counts := once.unique (closes_of_accepted ok accepted)
        by_cases early : ClosesEarly usbd busNum devAddr w
        · rw [if_pos early] at counts
          cases counts
        · exact .inr ⟨early, accepted⟩
      · have configures := not_not.mp fun never => accepted fun there => (never there).elim
        have refused := (accepted_or_refused ok once).resolve_left accepted
        have counts := once.unique (closes_of_refused ok configures refused)
        by_cases early : ClosesEarly usbd busNum devAddr w
        · exact .inl ⟨early, configures, refused⟩
        · rw [if_neg early] at counts
          cases counts
    · intro cases
      rcases cases with failed | ⟨early, configures, refused⟩ | ⟨late, accepted⟩
      · exact (failed ok).elim
      · have closes := closes_of_refused ok configures refused
        rwa [if_pos early] at closes
      · have closes := closes_of_accepted ok accepted
        rwa [if_neg late] at closes
  · rw [if_neg ok]
    exact ⟨fun _ => .inl ok, fun _ => closes_of_not_opened ok⟩

/-- A device whose raw descriptor cannot be read is closed twice. -/
theorem not_closes_once_unreadable :
    ¬ ∀ usbd busNum devAddr dev w, Closes usbd busNum devAddr dev w
      (if (opened usbd busNum devAddr w).1.ret = .UEC_OK then 1 else 0) := by
  intro all
  have once := all unreadable 1 2 zeroDevice {}
  have early : ClosesEarly unreadable 1 2 {} := .inl (by decide)
  have none : ¬ Configures unreadable 1 2 zeroDevice {} := fun one => one.1 rfl
  have twice := closes_of_accepted (opened_unreadable 1 2 {}) fun one => (none one).elim
  rw [if_pos early] at twice
  rw [if_pos (opened_unreadable 1 2 {})] at once
  cases once.unique twice

end GetDeviceInfo

end UsbService

end UsbManager

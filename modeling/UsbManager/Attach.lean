import UsbManager.Config

/-!
# Attaching a device

`UsbService::AddDevice` goes through five stages that can fail.  This module
says which of the failures keep a device out of the store.
-/

namespace UsbManager

open UsbDescriptorParser

theorem Ptr.byte_zero_of_deviceDescriptor {p : Ptr} {d : UsbdDeviceDescriptor}
    (layout : p.deviceDescriptor = some d) : p.byte 0 = some d.bLength := by
  obtain ⟨b, first, layout⟩ := Option.bind_eq_some_iff.mp layout
  iterate 13 obtain ⟨_, _, layout⟩ := Option.bind_eq_some_iff.mp layout
  cases layout
  exact first

theorem Ptr.byte_17_of_deviceDescriptor {p : Ptr} {d : UsbdDeviceDescriptor}
    (layout : p.deviceDescriptor = some d) : p.byte 17 = some d.bNumConfigurations := by
  unfold deviceDescriptor at layout
  iterate 13 obtain ⟨_, _, layout⟩ := Option.bind_eq_some_iff.mp layout
  obtain ⟨b, last, layout⟩ := Option.bind_eq_some_iff.mp layout
  cases layout
  exact last

namespace UsbService

/-- The first descriptor is a device descriptor the code accepts: 18 bytes or
more, the first of which says 18. -/
def Accepted (descriptor : List UInt8) : Prop :=
  sizeofUsbdDeviceDescriptor ≤ size descriptor ∧ descriptor[0]? = some 18

instance (descriptor : List UInt8) : Decidable (Accepted descriptor) :=
  inferInstanceAs (Decidable (_ ∧ _))

section Parse

variable {descriptor : List UInt8}

theorem length_of_le_size {n : UInt32} (long : n ≤ size descriptor) :
    n.toNat ≤ descriptor.length := by
  have le := UInt32.le_iff_toNat_le.mp long
  rw [size, UInt32.toNat_ofNat'] at le
  exact le.trans (Nat.mod_le _ _)

theorem deviceDescriptor_isSome (long : sizeofUsbdDeviceDescriptor ≤ size descriptor) :
    ∃ d, (Ptr.ofList descriptor).deviceDescriptor = some d := by
  have whole := length_of_le_size long
  have eighteen : sizeofUsbdDeviceDescriptor.toNat = 18 := rfl
  have readable := (Ptr.deviceDescriptor_eq_none descriptor 0).not.mpr (by omega)
  rw [Ptr.add_zero] at readable
  exact Option.ne_none_iff_exists'.mp readable

theorem data_of_ne_nil (nonempty : descriptor ≠ []) :
    data descriptor = some (Ptr.ofList descriptor) := by
  cases descriptor with
  | nil => exact (nonempty rfl).elim
  | cons b rest => rfl

theorem Accepted.ne_nil (accepted : Accepted descriptor) : descriptor ≠ [] := by
  intro empty
  have first := accepted.2
  simp [empty] at first

/-- The device descriptor of a raw descriptor that is accepted is stored. -/
theorem parseDeviceDescriptor_accepted (accepted : Accepted descriptor) (dev : UsbDevice) :
    ∃ d, (Ptr.ofList descriptor).deviceDescriptor = some d ∧
      parseDeviceDescriptor (data descriptor) (size descriptor) dev =
        pure (.UEC_OK, setDevice dev d) := by
  obtain ⟨long, first⟩ := accepted
  obtain ⟨d, layout⟩ := deviceDescriptor_isSome long
  refine ⟨d, layout, ?_⟩
  have length := Ptr.byte_zero_of_deviceDescriptor layout
  have right : d.bLength = 18 := by
    simpa [Ptr.ofList, first] using length.symm
  have nonzero : ¬ size descriptor = 0 := fun zero => absurd (zero ▸ long) (by decide)
  rw [data_of_ne_nil (Accepted.ne_nil ⟨long, first⟩)]
  unfold parseDeviceDescriptor
  dsimp only
  rw [if_neg nonzero, if_neg (UInt32.not_lt.mpr long), layout]
  change (if d.bLength.toUInt32 ≠ sizeofUsbdDeviceDescriptor then _ else _) = _
  rw [right, if_neg (by decide)]

/-- Any other raw descriptor is refused, and the device left as it was. -/
theorem parseDeviceDescriptor_refused (refused : ¬ Accepted descriptor) (dev : UsbDevice) :
    parseDeviceDescriptor (data descriptor) (size descriptor) dev =
      pure (.UEC_SERVICE_INVALID_VALUE, dev) := by
  by_cases empty : descriptor = []
  · rw [empty]
    rfl
  rw [data_of_ne_nil empty]
  unfold parseDeviceDescriptor
  dsimp only
  by_cases zero : size descriptor = 0
  · rw [if_pos zero]
  rw [if_neg zero]
  by_cases short : size descriptor < sizeofUsbdDeviceDescriptor
  · rw [if_pos short]
  have long := UInt32.not_lt.mp short
  obtain ⟨d, layout⟩ := deviceDescriptor_isSome long
  have length := Ptr.byte_zero_of_deviceDescriptor layout
  have wrong : d.bLength.toUInt32 ≠ sizeofUsbdDeviceDescriptor := by
    intro same
    have eighteen : d.bLength = 18 := by
      rw [← UInt8.toNat_inj, ← UInt8.toNat_toUInt32, same]
      rfl
    exact refused ⟨long, by rw [← eighteen]; exact length⟩
  rw [if_neg short, layout]
  change (if d.bLength.toUInt32 ≠ sizeofUsbdDeviceDescriptor then _ else _) = _
  rw [if_pos wrong]

end Parse

/-! ## The device descriptor -/

section DeviceInfo

variable {usbd : Usbd} {uDev : UsbDev} {w : World}

/-- The device as it is given to `ParseDeviceDescriptor`. -/
def nameDevice (uDev : UsbDev) (dev : UsbDevice) : UsbDevice :=
  { dev with
    busNum := uDev.busNum, devAddr := uDev.devAddr, name := deviceName uDev.busNum uDev.devAddr }

/-- A raw descriptor that was read and is accepted fills the device. -/
theorem getDeviceInfoDescriptor_accepted {descriptor : List UInt8}
    (known : (w.call usbd (.GetRawDescriptor uDev)).1.bufferData = descriptor)
    (read : (w.call usbd (.GetRawDescriptor uDev)).1.ret = .UEC_OK)
    (accepted : Accepted descriptor) (dev : UsbDevice) :
    ∃ d, (Ptr.ofList descriptor).deviceDescriptor = some d ∧
      parseDeviceDescriptor (data descriptor) (size descriptor) (nameDevice uDev dev) =
        pure (.UEC_OK, setDevice (nameDevice uDev dev) d) ∧
      getDeviceInfoDescriptor usbd uDev dev w =
        pure ((.UEC_OK, descriptor, setDevice (nameDevice uDev dev) d),
          (w.call usbd (.GetRawDescriptor uDev)).2) := by
  obtain ⟨d, layout, parsed⟩ := parseDeviceDescriptor_accepted accepted (nameDevice uDev dev)
  have shown : ¬ ((data descriptor).isNone = true ∨ size descriptor = 0) := by
    intro h
    rcases h with empty | zero
    · rw [data_of_ne_nil accepted.ne_nil] at empty
      exact nomatch empty
    · exact absurd (zero ▸ accepted.1) (by decide)
  refine ⟨d, layout, parsed, ?_⟩
  unfold getDeviceInfoDescriptor
  simp only [known, read, ne_eq, not_true_eq_false, if_false, if_neg shown]
  change parseDeviceDescriptor (data descriptor) (size descriptor) (nameDevice uDev dev) >>= _ = _
  rw [parsed]
  rfl

/-- The device a raw descriptor that was not read or not accepted leaves: it is
named if there were bytes to look at. -/
def refusedDevice (uDev : UsbDev) (ret : Uec) (descriptor : List UInt8) (dev : UsbDevice) :
    UsbDevice :=
  if ret = .UEC_OK ∧ size descriptor ≠ 0 then nameDevice uDev dev else dev

theorem refusedDevice_of_named {ret : Uec} {descriptor : List UInt8}
    (named : ret = .UEC_OK ∧ size descriptor ≠ 0) (dev : UsbDevice) :
    refusedDevice uDev ret descriptor dev = nameDevice uDev dev := if_pos named

theorem refusedDevice_of_unnamed {ret : Uec} {descriptor : List UInt8}
    (unnamed : ¬ (ret = .UEC_OK ∧ size descriptor ≠ 0)) (dev : UsbDevice) :
    refusedDevice uDev ret descriptor dev = dev := if_neg unnamed

theorem refusedDevice_descConfigCount (ret : Uec) (descriptor : List UInt8) (dev : UsbDevice) :
    (refusedDevice uDev ret descriptor dev).descConfigCount = dev.descConfigCount := by
  unfold refusedDevice
  split <;> rfl

theorem getDeviceInfoDescriptor_refused {descriptor : List UInt8}
    (known : (w.call usbd (.GetRawDescriptor uDev)).1.bufferData = descriptor)
    (refused : ¬ ((w.call usbd (.GetRawDescriptor uDev)).1.ret = .UEC_OK ∧ Accepted descriptor))
    (dev : UsbDevice) :
    ∃ ret w', getDeviceInfoDescriptor usbd uDev dev w =
      pure ((ret, descriptor, refusedDevice uDev (w.call usbd (.GetRawDescriptor uDev)).1.ret
        descriptor dev), w') := by
  unfold getDeviceInfoDescriptor refusedDevice
  simp only [known]
  by_cases read : (w.call usbd (.GetRawDescriptor uDev)).1.ret = .UEC_OK
  · have wrong : ¬ Accepted descriptor := fun accepted => refused ⟨read, accepted⟩
    simp only [read, ne_eq, not_true_eq_false, if_false, true_and]
    by_cases zero : size descriptor = 0
    · rw [if_pos (.inr zero), if_neg (not_not.mpr zero)]
      exact ⟨_, _, rfl⟩
    · have shown : ¬ ((data descriptor).isNone = true ∨ size descriptor = 0) := by
        intro h
        rcases h with empty | zero'
        · cases descriptor with
          | nil => exact zero rfl
          | cons => exact nomatch empty
        · exact zero zero'
      rw [if_neg shown, if_pos zero]
      have parsed := parseDeviceDescriptor_refused wrong (nameDevice uDev dev)
      refine ⟨.UEC_SERVICE_INVALID_VALUE,
        ((w.call usbd (.GetRawDescriptor uDev)).2.call usbd (.CloseDevice uDev)).2, ?_⟩
      change
        parseDeviceDescriptor (data descriptor) (size descriptor) (nameDevice uDev dev) >>= _ = _
      rw [parsed]
      rfl
  · simp only [ne_eq, read, not_false_eq_true, if_true, false_and, if_false]
    exact ⟨_, _, rfl⟩

end DeviceInfo

/-! ## The stages -/

section Stages

variable (usbd : Usbd) (busNum devAddr : UInt8) (w : World)

/-- What `OpenDevice` answers. -/
def opened : Reply × World := w.call usbd (.OpenDevice ⟨busNum, devAddr⟩)

/-- What `GetRawDescriptor` answers then. -/
def rawRead : Reply × World :=
  (opened usbd busNum devAddr w).2.call usbd (.GetRawDescriptor ⟨busNum, devAddr⟩)

/-- The buffer `GetRawDescriptor` yields. -/
def rawDescriptor : List UInt8 := (rawRead usbd busNum devAddr w).1.bufferData

/-- `ParseDeviceDescriptor` on that buffer. -/
def deviceParse : Prog Fault (Uec × UsbDevice) :=
  parseDeviceDescriptor (data (rawDescriptor usbd busNum devAddr w))
    (size (rawDescriptor usbd busNum devAddr w)) (nameDevice ⟨busNum, devAddr⟩ zeroDevice)

/-- `ParseConfigDescriptor` on the block of that buffer. -/
def configParse : Prog Fault (Uec × UInt32 × USBConfig) :=
  parseConfigDescriptor false (some (block (rawDescriptor usbd busNum devAddr w)))
    (blockLength (rawDescriptor usbd busNum devAddr w)) 0 {}

/-- One of the stages of `AddDevice` fails, after those before it succeeded. -/
inductive StageFails : Prop
  | openDevice : (opened usbd busNum devAddr w).1.ret ≠ .UEC_OK → StageFails
  | getRawDescriptor : (opened usbd busNum devAddr w).1.ret = .UEC_OK →
    (rawRead usbd busNum devAddr w).1.ret ≠ .UEC_OK → StageFails
  | emptyBuffer : (opened usbd busNum devAddr w).1.ret = .UEC_OK →
    (rawRead usbd busNum devAddr w).1.ret = .UEC_OK →
    rawDescriptor usbd busNum devAddr w = [] → StageFails
  | deviceRejected {ret : Uec} {dev : UsbDevice} :
    (opened usbd busNum devAddr w).1.ret = .UEC_OK →
    (rawRead usbd busNum devAddr w).1.ret = .UEC_OK →
    (deviceParse usbd busNum devAddr w).Returns (ret, dev) → ret ≠ .UEC_OK → StageFails
  | configRejected {dev : UsbDevice} {ret : Uec} {cursor : UInt32} {config : USBConfig} :
    (opened usbd busNum devAddr w).1.ret = .UEC_OK →
    (rawRead usbd busNum devAddr w).1.ret = .UEC_OK →
    (deviceParse usbd busNum devAddr w).Returns (.UEC_OK, dev) →
    ParsesBlock dev (rawDescriptor usbd busNum devAddr w) →
    (configParse usbd busNum devAddr w).Returns (ret, cursor, config) → ret ≠ .UEC_OK → StageFails

/-- A failure keeps the device out: `AddDevice` returns false, and the device
store and the published events are as before. -/
def NoGhost : Prop :=
  StageFails usbd busNum devAddr w →
    ∃ w', (addDevice usbd busNum devAddr w).Returns (false, w') ∧ w'.hostManager = w.hostManager

end Stages

section AddDevice

variable {usbd : Usbd} {busNum devAddr : UInt8} {w : World}

theorem rawRead_eq :
    ((opened usbd busNum devAddr w).2.call usbd
        (.GetRawDescriptor ⟨busNum, devAddr⟩)).1.bufferData =
      rawDescriptor usbd busNum devAddr w := rfl

theorem rawRead_ret :
    ((opened usbd busNum devAddr w).2.call usbd (.GetRawDescriptor ⟨busNum, devAddr⟩)).1.ret =
      (rawRead usbd busNum devAddr w).1.ret := rfl

/-- `GetDeviceInfo` on a device that cannot be opened leaves the device as it is. -/
theorem getDeviceInfo_of_not_opened (failed : (opened usbd busNum devAddr w).1.ret ≠ .UEC_OK)
    (dev₀ : UsbDevice) :
    getDeviceInfo usbd busNum devAddr dev₀ w =
      pure (((opened usbd busNum devAddr w).1.ret, dev₀), (opened usbd busNum devAddr w).2) := by
  unfold getDeviceInfo
  exact if_pos failed

/-- A device that cannot be opened is not added. -/
theorem addDevice_of_not_opened (failed : (opened usbd busNum devAddr w).1.ret ≠ .UEC_OK) :
    addDevice usbd busNum devAddr w = pure (false, (opened usbd busNum devAddr w).2) := by
  unfold addDevice
  rw [getDeviceInfo_of_not_opened failed]
  change (if (opened usbd busNum devAddr w).1.ret ≠ .UEC_OK then _ else _) = _
  rw [if_pos failed]

/-- `GetDeviceInfo` on a device that was opened goes on whatever
`GetDeviceInfoDescriptor` returns. -/
theorem getDeviceInfo_of_opened (ok : (opened usbd busNum devAddr w).1.ret = .UEC_OK)
    {ret : Uec} {descriptor : List UInt8} {dev₀ dev : UsbDevice} {w' : World}
    (info : getDeviceInfoDescriptor usbd ⟨busNum, devAddr⟩ dev₀
      (opened usbd busNum devAddr w).2 = pure ((ret, descriptor, dev), w')) :
    getDeviceInfo usbd busNum devAddr dev₀ w = (do
      let ((ret, dev), w) ← getConfigDescriptor usbd false dev descriptor w'
      if ret ≠ .UEC_OK then pure ((ret, dev), w)
      else pure ((.UEC_OK, dev), (w.call usbd (.CloseDevice ⟨busNum, devAddr⟩)).2)) := by
  unfold getDeviceInfo
  change (if (opened usbd busNum devAddr w).1.ret ≠ .UEC_OK then _ else
    getDeviceInfoDescriptor usbd ⟨busNum, devAddr⟩ dev₀
      (opened usbd busNum devAddr w).2 >>= _) = _
  rw [if_neg (not_not.mpr ok), info]
  rfl

/-- A device whose information was got is stored and announced. -/
theorem addDevice_of_info {dev : UsbDevice} {w' : World}
    (info : (getDeviceInfo usbd busNum devAddr zeroDevice w).Returns ((.UEC_OK, dev), w')) :
    (addDevice usbd busNum devAddr w).Returns
      (true, { w' with hostManager := (w'.hostManager.addDevice dev).2 }) :=
  Prog.returns_bind.mpr ⟨_, info, Prog.returns_pure.mpr rfl⟩

/-- A device whose information was not got is dropped. -/
theorem addDevice_of_no_info {ret : Uec} {dev : UsbDevice} {w' : World} (failed : ret ≠ .UEC_OK)
    (info : (getDeviceInfo usbd busNum devAddr zeroDevice w).Returns ((ret, dev), w')) :
    (addDevice usbd busNum devAddr w).Returns (false, w') := by
  refine Prog.returns_bind.mpr ⟨_, info, ?_⟩
  dsimp only
  rw [if_pos failed]
  exact Prog.returns_pure.mpr rfl

/-- A device whose count of configurations is zero is left without any. -/
theorem getConfigDescriptor_of_zero {dev : UsbDevice} (zero : dev.descConfigCount = 0)
    (descriptor : List UInt8) :
    (getConfigDescriptor usbd false dev descriptor w).Returns
      (fillDevStrings usbd { dev with configs := [] } w) := by
  have absent : ¬ ParsesBlock dev descriptor := fun one => one.1 zero
  exact ((getConfigDescriptor_none absent).1 _).mpr (Prog.returns_pure.mpr rfl)

/-- A device that was opened but whose descriptor was not read or not accepted
is added all the same. -/
theorem addDevice_of_refused (ok : (opened usbd busNum devAddr w).1.ret = .UEC_OK)
    (refused : ¬ ((rawRead usbd busNum devAddr w).1.ret = .UEC_OK ∧
      Accepted (rawDescriptor usbd busNum devAddr w))) :
    ∃ w', (addDevice usbd busNum devAddr w).Returns (true, w') := by
  obtain ⟨ret, w₂, info⟩ := getDeviceInfoDescriptor_refused rawRead_eq refused zeroDevice
  let named := fillDevStrings usbd { refusedDevice ⟨busNum, devAddr⟩
    (rawRead usbd busNum devAddr w).1.ret (rawDescriptor usbd busNum devAddr w) zeroDevice with
    configs := [] } w₂
  have config : (getConfigDescriptor usbd false (refusedDevice ⟨busNum, devAddr⟩
      (rawRead usbd busNum devAddr w).1.ret (rawDescriptor usbd busNum devAddr w) zeroDevice)
      (rawDescriptor usbd busNum devAddr w) w₂).Returns named :=
    getConfigDescriptor_of_zero (refusedDevice_descConfigCount _ _ _) _
  have got : (getDeviceInfo usbd busNum devAddr zeroDevice w).Returns
      ((.UEC_OK, named.1.2), (named.2.call usbd (.CloseDevice ⟨busNum, devAddr⟩)).2) := by
    rw [getDeviceInfo_of_opened ok info]
    exact Prog.returns_bind.mpr ⟨named, config, Prog.returns_pure.mpr rfl⟩
  exact ⟨_, addDevice_of_info got⟩

/-- An accepted raw descriptor is parsed to a device. -/
theorem deviceParse_accepted (accepted : Accepted (rawDescriptor usbd busNum devAddr w)) {ret : Uec}
    {dev : UsbDevice} (parsed : (deviceParse usbd busNum devAddr w).Returns (ret, dev)) :
    ret = .UEC_OK ∧
      ∃ d, (Ptr.ofList (rawDescriptor usbd busNum devAddr w)).deviceDescriptor = some d ∧
        dev = setDevice (nameDevice ⟨busNum, devAddr⟩ zeroDevice) d := by
  obtain ⟨d, layout, parse⟩ :=
    parseDeviceDescriptor_accepted accepted (nameDevice ⟨busNum, devAddr⟩ zeroDevice)
  rw [deviceParse, parse] at parsed
  have same := Prog.returns_pure.mp parsed
  exact ⟨congrArg Prod.fst same, d, layout, congrArg Prod.snd same⟩

/-- A device whose configuration is rejected is dropped, with the managers as
they were. -/
theorem addDevice_of_config_rejected (ok : (opened usbd busNum devAddr w).1.ret = .UEC_OK)
    (read : (rawRead usbd busNum devAddr w).1.ret = .UEC_OK)
    (accepted : Accepted (rawDescriptor usbd busNum devAddr w)) {dev : UsbDevice}
    (parsed : (deviceParse usbd busNum devAddr w).Returns (.UEC_OK, dev))
    (one : ParsesBlock dev (rawDescriptor usbd busNum devAddr w)) {ret : Uec} {cursor : UInt32}
    {config : USBConfig}
    (rejected : (configParse usbd busNum devAddr w).Returns (ret, cursor, config))
    (failed : ret ≠ .UEC_OK) :
    (addDevice usbd busNum devAddr w).Returns (false, (rawRead usbd busNum devAddr w).2) := by
  obtain ⟨d, layout, _, info⟩ :=
    getDeviceInfoDescriptor_accepted rawRead_eq read accepted zeroDevice
  obtain ⟨_, d', layout', rfl⟩ := deviceParse_accepted accepted parsed
  obtain rfl : d' = d := Option.some.inj (layout'.symm.trans layout)
  have got : (getDeviceInfo usbd busNum devAddr zeroDevice w).Returns
      ((ret, setDevice (nameDevice ⟨busNum, devAddr⟩ zeroDevice) d'),
        (rawRead usbd busNum devAddr w).2) := by
    rw [getDeviceInfo_of_opened ok info]
    refine Prog.returns_bind.mpr ⟨_, getConfigDescriptor_of_rejected one failed rejected, ?_⟩
    dsimp only
    rw [if_pos failed]
    exact Prog.returns_pure.mpr rfl
  exact addDevice_of_no_info failed got

/-- A failed stage keeps the device out exactly when the device could not be
opened, or its raw descriptor was read and begins with a device descriptor the
code accepts. -/
theorem noGhost_iff (usbd : Usbd) (busNum devAddr : UInt8) (w : World) :
    NoGhost usbd busNum devAddr w ↔
      (opened usbd busNum devAddr w).1.ret ≠ .UEC_OK ∨
        (rawRead usbd busNum devAddr w).1.ret = .UEC_OK ∧
          Accepted (rawDescriptor usbd busNum devAddr w) := by
  constructor
  · intro noGhost
    by_cases ok : (opened usbd busNum devAddr w).1.ret = .UEC_OK
    · right
      refine Classical.byContradiction fun refused => ?_
      have fails : StageFails usbd busNum devAddr w := by
        by_cases read : (rawRead usbd busNum devAddr w).1.ret = .UEC_OK
        · have wrong := fun accepted => refused ⟨read, accepted⟩
          have parsed : (deviceParse usbd busNum devAddr w).Returns
              (.UEC_SERVICE_INVALID_VALUE, nameDevice ⟨busNum, devAddr⟩ zeroDevice) := by
            rw [deviceParse, parseDeviceDescriptor_refused wrong]
            exact Prog.returns_pure.mpr rfl
          exact .deviceRejected ok read parsed (by decide)
        · exact .getRawDescriptor ok read
      obtain ⟨w', kept, _⟩ := noGhost fails
      obtain ⟨w'', added⟩ := addDevice_of_refused ok refused
      exact nomatch congrArg Prod.fst (kept.unique added)
    · exact .inl ok
  · intro condition fails
    rcases condition with closed | ⟨read, accepted⟩
    · rw [addDevice_of_not_opened closed]
      exact ⟨_, Prog.returns_pure.mpr rfl, rfl⟩
    cases fails with
    | openDevice closed =>
      rw [addDevice_of_not_opened closed]
      exact ⟨_, Prog.returns_pure.mpr rfl, rfl⟩
    | getRawDescriptor _ failed => exact (failed read).elim
    | emptyBuffer _ _ empty => exact (accepted.ne_nil empty).elim
    | deviceRejected _ _ parsed failed =>
      exact (failed (deviceParse_accepted accepted parsed).1).elim
    | configRejected ok _ parsed one rejected failed =>
      exact ⟨_, addDevice_of_config_rejected ok read accepted parsed one rejected failed, rfl⟩

/-- A device that opens and whose raw descriptor cannot be read. -/
def unreadable : Usbd where
  answer _ call :=
    match call with
    | .GetRawDescriptor _ => { ret := .UEC_SERVICE_INNER_ERR }
    | _ => { ret := .UEC_OK }

theorem opened_unreadable (busNum devAddr : UInt8) (w : World) :
    (opened unreadable busNum devAddr w).1.ret = .UEC_OK := rfl

theorem not_noGhost_unreadable : ¬ ∀ usbd busNum devAddr w, NoGhost usbd busNum devAddr w := by
  intro all
  have failed : (rawRead unreadable 1 2 {}).1.ret ≠ .UEC_OK := by decide
  obtain ⟨w', kept, _⟩ := all unreadable 1 2 {} (.getRawDescriptor rfl failed)
  obtain ⟨w'', added⟩ :=
    addDevice_of_refused (opened_unreadable 1 2 {}) fun read => failed read.1
  exact nomatch congrArg Prod.fst (kept.unique added)

end AddDevice

/-! ## The name a device is stored under -/

/-- The raw descriptor has no configuration block for the code to refuse. -/
def ConfigKept (descriptor : List UInt8) : Prop :=
  descriptor[17]? = some 0 ∨ size descriptor ≤ CURSOR_INIT ∨
    ∃ cfg, Announces (block descriptor) (blockLength descriptor) cfg

/-- `AddDevice` stores a device under this name: that of the address, or `0-0`
where the raw descriptor could not be read. -/
def StoresUnder (usbd : Usbd) (busNum devAddr : UInt8) (w : World) (name : String) : Prop :=
  (opened usbd busNum devAddr w).1.ret = .UEC_OK ∧
    if (rawRead usbd busNum devAddr w).1.ret = .UEC_OK ∧
        size (rawDescriptor usbd busNum devAddr w) ≠ 0 then
      name = deviceName busNum devAddr ∧
        (Accepted (rawDescriptor usbd busNum devAddr w) →
          ConfigKept (rawDescriptor usbd busNum devAddr w))
    else name = deviceName 0 0

section StoresUnder

variable {usbd : Usbd} {busNum devAddr : UInt8} {w : World}

/-- `GetConfigDescriptor` keeps the numbers of a device. -/
theorem getConfigDescriptor_keeps {trap : Bool} {dev dev' : UsbDevice} {descriptor : List UInt8}
    {ret : Uec} {w' : World}
    (returned : (getConfigDescriptor usbd trap dev descriptor w).Returns ((ret, dev'), w')) :
    dev'.busNum = dev.busNum ∧ dev'.devAddr = dev.devAddr := by
  obtain ⟨exit, _, rest⟩ := Prog.returns_bind.mp returned
  cases exit with
  | error =>
    have same : dev' = dev := congrArg (fun out => out.1.2) (Prog.returns_pure.mp rest)
    rw [same]
    exact ⟨rfl, rfl⟩
  | ok st =>
    have same := congrArg (fun out => out.1.2) (Prog.returns_pure.mp rest)
    dsimp only at same
    rw [same]
    exact ⟨rfl, rfl⟩

/-- A configuration that was not refused was there to be parsed, or there was none. -/
theorem configKept_of_ok {descriptor : List UInt8} {d : UsbdDeviceDescriptor} {dev : UsbDevice}
    (layout : (Ptr.ofList descriptor).deviceDescriptor = some d)
    (count : dev.descConfigCount = d.bNumConfigurations) {out : UsbDevice} {w' : World}
    (returned : (getConfigDescriptor usbd false dev descriptor w).Returns ((.UEC_OK, out), w')) :
    ConfigKept descriptor := by
  by_cases one : ParsesBlock dev descriptor
  · rw [(getConfigDescriptor_one one).1, getFirstConfig] at returned
    obtain ⟨⟨ret, cursor, config⟩, parsed, rest⟩ := Prog.returns_bind.mp returned
    dsimp only at rest
    rcases Prog.returns_ite.mp rest with ⟨failed, rest⟩ | ⟨ok, _⟩
    · exact (failed (congrArg (fun out => out.1.1) (Prog.returns_pure.mp rest)).symm).elim
    · obtain rfl := not_not.mp ok
      obtain ⟨cfg, _, announces, _⟩ := returns_parseConfigDescriptor_ok.mp parsed
      exact .inr (.inr ⟨cfg, announces⟩)
  · by_cases zero : d.bNumConfigurations = 0
    · have byte := Ptr.byte_17_of_deviceDescriptor layout
      rw [zero] at byte
      exact .inl byte
    · refine .inr (.inl (UInt32.not_lt.mp fun long => one ⟨?_, long⟩))
      rw [count]
      exact zero

/-- A device whose information was got was opened. -/
theorem opened_of_info {dev : UsbDevice} {w' : World}
    (info : (getDeviceInfo usbd busNum devAddr zeroDevice w).Returns ((.UEC_OK, dev), w')) :
    (opened usbd busNum devAddr w).1.ret = .UEC_OK := by
  refine not_not.mp fun closed => ?_
  have failed : getDeviceInfo usbd busNum devAddr zeroDevice w =
      pure (((opened usbd busNum devAddr w).1.ret, zeroDevice),
        (opened usbd busNum devAddr w).2) := by
    unfold getDeviceInfo
    exact if_pos closed
  rw [failed] at info
  exact closed (congrArg (fun out => out.1.1) (Prog.returns_pure.mp info)).symm

/-- It is what `GetDeviceInfoDescriptor` left of it, configured. -/
theorem configured_of_described {dev described : UsbDevice} {ret : Uec} {descriptor : List UInt8}
    {w₁ w' : World}
    (info : (getDeviceInfo usbd busNum devAddr zeroDevice w).Returns ((.UEC_OK, dev), w'))
    (first : getDeviceInfoDescriptor usbd ⟨busNum, devAddr⟩ zeroDevice
      (opened usbd busNum devAddr w).2 = pure ((ret, descriptor, described), w₁)) :
    ∃ w₂, (getConfigDescriptor usbd false described descriptor w₁).Returns
      ((.UEC_OK, dev), w₂) := by
  rw [getDeviceInfo_of_opened (opened_of_info info) first] at info
  obtain ⟨⟨⟨ret, dev'⟩, w₂⟩, config, rest⟩ := Prog.returns_bind.mp info
  rcases Prog.returns_ite.mp rest with ⟨failed, rest⟩ | ⟨fine, rest⟩
  · exact (failed (congrArg (fun out => out.1.1) (Prog.returns_pure.mp rest)).symm).elim
  · obtain rfl := not_not.mp fine
    obtain rfl : dev = dev' := congrArg (fun out => out.1.2) (Prog.returns_pure.mp rest)
    exact ⟨w₂, config⟩

/-- The name of a device whose information was got is the one `StoresUnder` says. -/
theorem storesUnder_of_info {dev : UsbDevice} {w' : World}
    (info : (getDeviceInfo usbd busNum devAddr zeroDevice w).Returns ((.UEC_OK, dev), w')) :
    StoresUnder usbd busNum devAddr w (deviceName dev.busNum dev.devAddr) := by
  refine ⟨opened_of_info info, ?_⟩
  by_cases accepted : (rawRead usbd busNum devAddr w).1.ret = .UEC_OK ∧
      Accepted (rawDescriptor usbd busNum devAddr w)
  · obtain ⟨d, layout, _, first⟩ :=
      getDeviceInfoDescriptor_accepted rawRead_eq accepted.1 accepted.2 zeroDevice
    obtain ⟨w₂, config⟩ := configured_of_described info first
    have nonzero : size (rawDescriptor usbd busNum devAddr w) ≠ 0 := by
      intro zero
      exact absurd (zero ▸ accepted.2.1) (by decide)
    obtain ⟨bus, addr⟩ := getConfigDescriptor_keeps config
    rw [if_pos ⟨accepted.1, nonzero⟩, bus, addr]
    exact ⟨rfl, fun _ => configKept_of_ok layout rfl config⟩
  · obtain ⟨ret, w₂, first⟩ := getDeviceInfoDescriptor_refused rawRead_eq accepted zeroDevice
    rw [rawRead_ret] at first
    obtain ⟨w₂, config⟩ := configured_of_described info first
    obtain ⟨bus, addr⟩ := getConfigDescriptor_keeps config
    by_cases named : (rawRead usbd busNum devAddr w).1.ret = .UEC_OK ∧
        size (rawDescriptor usbd busNum devAddr w) ≠ 0
    · rw [if_pos named, bus, addr, refusedDevice_of_named named]
      exact ⟨rfl, fun fine => (accepted ⟨named.1, fine⟩).elim⟩
    · rw [if_neg named, bus, addr, refusedDevice_of_unnamed named]
      rfl

end StoresUnder

end UsbService

end UsbManager

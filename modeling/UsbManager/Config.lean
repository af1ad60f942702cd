import UsbManager.Walk
import UsbManager.Service

/-!
# `ParseConfigDescriptor` and `GetConfigDescriptor` in terms of the walk

`ParseConfigDescriptor` accepts a block by its first nine bytes and then walks
it.  `GetConfigDescriptor` parses at most one block, at offset 18 of the raw
descriptor: the count it loops over is declared `bool`.
-/

namespace UsbManager

open UsbDescriptorParser

/-- The first nine bytes of the block are a configuration descriptor the code
accepts. -/
def Announces (p : Ptr) (length : UInt32) (cfg : UsbdConfigDescriptor) : Prop :=
  sizeofUsbdConfigDescriptor ≤ length ∧ p.configDescriptor = some cfg ∧
    cfg.bLength.toUInt32 = sizeofUsbdConfigDescriptor

/-- The parse of a block needs no byte that cannot be read: of its first nine, or in a
search of the walk. -/
def StaysInside (p : Ptr) (length : UInt32) : Prop :=
  (sizeofUsbdConfigDescriptor ≤ length → p.configDescriptor ≠ none) ∧
    ∀ cfg, Announces p length cfg →
      ∀ walk, Walk.Reached false p length cfg.bNumInterfaces.toNat walk →
        Walk.Begins length cfg.bNumInterfaces.toNat walk → ¬ Walk.Overruns p length walk

/-- The configuration a block with these interfaces is read as. -/
def configuration (cfg : UsbdConfigDescriptor) (listed : List InterfaceSource) : USBConfig where
  id := int32OfByte cfg.bConfigurationValue
  attributes := cfg.bmAttributes.toUInt32
  maxPower := int32OfByte cfg.bMaxPower
  iConfiguration := cfg.iConfiguration
  interfaces := listed.map InterfaceSource.interface

namespace UsbDescriptorParser

section

variable {trap : Bool} {p : Ptr} {length : UInt32}

/-- With room for its descriptor, the parse of a block is the interface loop. -/
theorem parseConfigDescriptor_eq (trap : Bool) (p : Ptr) {length : UInt32}
    (room : sizeofUsbdConfigDescriptor ≤ length) :
    parseConfigDescriptor trap (some p) length 0 {} = (do
      let cfg ← read p.configDescriptor
      if cfg.bLength.toUInt32 ≠ sizeofUsbdConfigDescriptor then
        pure (.UEC_SERVICE_INVALID_VALUE, sizeofUsbdConfigDescriptor, {})
      else do
        let st ← Prog.loop (interfacePass trap p length cfg)
          (Walk.interfaceLoop [] sizeofUsbdConfigDescriptor)
        pure (.UEC_OK, st.cursor, { configuration cfg [] with interfaces := st.interfaces })) := by
  have nonzero : ¬ length = 0 := by
    intro zero
    rw [zero] at room
    exact absurd room (by decide)
  unfold parseConfigDescriptor
  dsimp only
  rw [if_neg nonzero, if_neg (UInt32.not_lt.mpr room)]
  rfl

theorem parseConfigDescriptor_short (trap : Bool) (p : Ptr) {length : UInt32}
    (short : ¬ sizeofUsbdConfigDescriptor ≤ length) :
    parseConfigDescriptor trap (some p) length 0 {} =
      pure (.UEC_SERVICE_INVALID_VALUE, 0, {}) := by
  unfold parseConfigDescriptor
  dsimp only
  by_cases zero : length = 0
  · rw [if_pos zero]
  · rw [if_neg zero, if_pos (UInt32.not_le.mp short)]

/-- A parse that succeeds has walked to the end of the block. -/
theorem returns_parseConfigDescriptor_ok {cursor : UInt32} {config : USBConfig} :
    (parseConfigDescriptor trap (some p) length 0 {}).Returns (.UEC_OK, cursor, config) ↔
      ∃ cfg listed, Announces p length cfg ∧
        Walk.Reached trap p length cfg.bNumInterfaces.toNat (.interfaces listed cursor) ∧
        ¬ Walk.Begins length cfg.bNumInterfaces.toNat (.interfaces listed cursor) ∧
        config = configuration cfg listed := by
  by_cases room : sizeofUsbdConfigDescriptor ≤ length
  · rw [parseConfigDescriptor_eq trap p room]
    simp only [Prog.returns_bind, read, Prog.returns_getOr]
    constructor
    · intro h
      obtain ⟨cfg, layout, rest⟩ := h
      rcases Prog.returns_ite.mp rest with ⟨_, bad⟩ | ⟨right, rest⟩
      · cases Prog.returns_pure.mp bad
      obtain ⟨st, returned, same⟩ := Prog.returns_bind.mp rest
      obtain ⟨listed, s, reached, ended, rfl⟩ := Walk.returns_interfaceLoop.mp returned
      obtain ⟨-, rfl, rfl⟩ : Uec.UEC_OK = Uec.UEC_OK ∧ _ ∧ _ := by
        simpa using Prog.returns_pure.mp same
      exact ⟨cfg, listed, ⟨room, layout, Decidable.not_not.mp right⟩, reached, ended, rfl⟩
    · intro h
      obtain ⟨cfg, listed, ⟨_, layout, right⟩, reached, ended, rfl⟩ := h
      refine ⟨cfg, layout, Prog.returns_ite.mpr (.inr ⟨Decidable.not_not.mpr right, ?_⟩)⟩
      refine Prog.returns_bind.mpr ⟨_, Walk.returns_interfaceLoop.mpr
        ⟨listed, cursor, reached, ended, rfl⟩, Prog.returns_pure.mpr rfl⟩
  · rw [parseConfigDescriptor_short trap p room]
    constructor
    · intro h
      cases Prog.returns_pure.mp h
    · intro h
      obtain ⟨_, _, ⟨enough, _⟩, _⟩ := h
      exact (room enough).elim

/-- A parse faults on an unreadable configuration descriptor or during the walk. -/
theorem faults_parseConfigDescriptor {e : Fault} :
    (parseConfigDescriptor trap (some p) length 0 {}).Faults e ↔
      (sizeofUsbdConfigDescriptor ≤ length ∧ p.configDescriptor = none ∧ e = .outOfBounds) ∨
        ∃ cfg w, Announces p length cfg ∧ Walk.Reached trap p length cfg.bNumInterfaces.toNat w ∧
          Walk.Begins length cfg.bNumInterfaces.toNat w ∧ Walk.Stops trap p length e w := by
  by_cases room : sizeofUsbdConfigDescriptor ≤ length
  · rw [parseConfigDescriptor_eq trap p room]
    simp only [Prog.faults_bind, read, Prog.faults_getOr, Prog.returns_getOr]
    constructor
    · intro h
      rcases h with missing | ⟨cfg, layout, rest⟩
      · exact .inl ⟨room, missing⟩
      rcases Prog.faults_ite.mp rest with ⟨_, bad⟩ | ⟨right, rest⟩
      · exact (Prog.not_faults_pure bad).elim
      rcases Prog.faults_bind.mp rest with loop | ⟨_, _, bad⟩
      · obtain ⟨w, reached, begins, stops⟩ := Walk.faults_interfaceLoop.mp loop
        exact .inr ⟨cfg, w, ⟨room, layout, Decidable.not_not.mp right⟩, reached, begins, stops⟩
      · exact (Prog.not_faults_pure bad).elim
    · intro h
      rcases h with ⟨_, missing⟩ | ⟨cfg, w, ⟨_, layout, right⟩, reached, begins, stops⟩
      · exact .inl missing
      · refine .inr ⟨cfg, layout, Prog.faults_ite.mpr (.inr ⟨Decidable.not_not.mpr right, ?_⟩)⟩
        have loop := Walk.faults_interfaceLoop.mpr ⟨w, reached, begins, stops⟩
        exact Prog.faults_bind.mpr (.inl loop)
  · rw [parseConfigDescriptor_short trap p room]
    constructor
    · intro h
      exact (Prog.not_faults_pure h).elim
    · intro h
      rcases h with ⟨enough, _⟩ | ⟨_, _, ⟨enough, _⟩, _⟩
      · exact (room enough).elim
      · exact (room enough).elim

/-- A parse that stays inside does not fault, and one that does not fault stays inside. -/
theorem staysInside_iff :
    StaysInside p length ↔
      ∀ e, ¬ (parseConfigDescriptor false (some p) length 0 {}).Faults e := by
  constructor
  · intro inside e fault
    obtain ⟨first, search⟩ := inside
    rcases faults_parseConfigDescriptor.mp fault with ⟨room, missing, _⟩ |
      ⟨cfg, walk, announces, reached, begins, stops⟩
    · exact first room missing
    · exact search cfg announces walk reached begins (Walk.stops_untrapped.mp stops).1
  · intro quiet
    refine ⟨fun room missing => ?_, fun cfg announces walk reached begins overruns => ?_⟩
    · exact quiet .outOfBounds (faults_parseConfigDescriptor.mpr (.inl ⟨room, missing, rfl⟩))
    · have stops := Walk.stops_untrapped.mpr ⟨overruns, rfl⟩
      exact quiet .outOfBounds
        (faults_parseConfigDescriptor.mpr (.inr ⟨cfg, walk, announces, reached, begins, stops⟩))

/-- A parse runs forever only by its interface loop. -/
theorem diverges_parseConfigDescriptor :
    (parseConfigDescriptor trap (some p) length 0 {}).Diverges ↔
      ∃ cfg, Announces p length cfg ∧
        (Prog.loop (interfacePass trap p length cfg)
          (Walk.interfaceLoop [] sizeofUsbdConfigDescriptor)).Diverges := by
  by_cases room : sizeofUsbdConfigDescriptor ≤ length
  · rw [parseConfigDescriptor_eq trap p room]
    simp only [Prog.diverges_bind, read, Prog.returns_getOr]
    constructor
    · intro h
      rcases h with bad | ⟨cfg, layout, rest⟩
      · exact (Prog.not_diverges_getOr bad).elim
      rcases Prog.diverges_ite.mp rest with ⟨_, bad⟩ | ⟨right, rest⟩
      · exact (Prog.not_diverges_pure bad).elim
      rcases Prog.diverges_bind.mp rest with loop | ⟨_, _, bad⟩
      · exact ⟨cfg, ⟨room, layout, Decidable.not_not.mp right⟩, loop⟩
      · exact (Prog.not_diverges_pure bad).elim
    · intro h
      obtain ⟨cfg, ⟨_, layout, right⟩, loop⟩ := h
      refine .inr ⟨cfg, layout, Prog.diverges_ite.mpr (.inr ⟨Decidable.not_not.mpr right, ?_⟩)⟩
      exact Prog.diverges_bind.mpr (.inl loop)
  · rw [parseConfigDescriptor_short trap p room]
    constructor
    · intro h
      exact (Prog.not_diverges_pure h).elim
    · intro h
      obtain ⟨_, ⟨enough, _⟩, _⟩ := h
      exact (room enough).elim

end

end UsbDescriptorParser

/-! ## At most one block is parsed -/

namespace UsbService

/-- `descriptor.size()` as `uint32_t` -/
abbrev size (descriptor : List UInt8) : UInt32 := UInt32.ofNat descriptor.length

/-- `GetConfigDescriptor` comes to parse the block at offset 18. -/
def ParsesBlock (dev : UsbDevice) (descriptor : List UInt8) : Prop :=
  dev.descConfigCount ≠ 0 ∧ CURSOR_INIT < size descriptor

instance (dev : UsbDevice) (descriptor : List UInt8) : Decidable (ParsesBlock dev descriptor) :=
  inferInstanceAs (Decidable (_ ∧ _))

/-- The block and its length, as the parser is given them. -/
def block (descriptor : List UInt8) : Ptr := (Ptr.ofList descriptor).add CURSOR_INIT.toNat

def blockLength (descriptor : List UInt8) : UInt32 := size descriptor - CURSOR_INIT

/-- `GetConfigDescriptor` with its loop unrolled. -/
def getFirstConfig (usbd : Usbd) (trap : Bool) (dev : UsbDevice) (descriptor : List UInt8)
    (w : World) : Prog Fault ((Uec × UsbDevice) × World) := do
  let (ret, _, config) ←
    parseConfigDescriptor trap (some (block descriptor)) (blockLength descriptor) 0 {}
  if ret ≠ .UEC_OK then pure ((ret, dev), w)
  else pure (fillDevStrings usbd { dev with configs := [config] } w)

variable {usbd : Usbd} {trap : Bool} {dev : UsbDevice} {descriptor : List UInt8} {w : World}

/-- Without a block to parse the device is left without configurations. -/
theorem getConfigDescriptor_none (absent : ¬ ParsesBlock dev descriptor) :
    (getConfigDescriptor usbd trap dev descriptor w).Equiv
      (pure (fillDevStrings usbd { dev with configs := [] } w)) := by
  have ended : configPass trap (Ptr.ofList descriptor) (size descriptor) dev
      { i := 0, cursor := CURSOR_INIT, configs := [] } =
        pure (.done (.ok { i := 0, cursor := CURSOR_INIT, configs := [] })) := by
    unfold configPass
    by_cases zero : dev.descConfigCount = 0
    · have idle : dev.getDescConfigCount = false := by
        simp [UsbDevice.getDescConfigCount, zero]
      simp [idle]
    · have short : size descriptor ≤ CURSOR_INIT := by
        rw [← UInt32.not_lt]
        exact fun long => absent ⟨zero, long⟩
      simp [short]
  unfold getConfigDescriptor
  exact (Prog.loop_equiv.bind fun _ => Prog.Equiv.rfl).trans (by rw [ended]; exact .rfl)

/-- With a block to parse there is one pass: the count reads as 1. -/
theorem getConfigDescriptor_one (one : ParsesBlock dev descriptor) :
    (getConfigDescriptor usbd trap dev descriptor w).Equiv
      (getFirstConfig usbd trap dev descriptor w) := by
  have busy : dev.getDescConfigCount = true := UsbDevice.getDescConfigCount_eq_true.mpr one.1
  have long : ¬ size descriptor ≤ CURSOR_INIT := UInt32.not_le.mpr one.2
  have first : configPass trap (Ptr.ofList descriptor) (size descriptor) dev
      { i := 0, cursor := CURSOR_INIT, configs := [] } = (do
        let (ret, configCursor, config) ←
          parseConfigDescriptor trap (some (block descriptor)) (blockLength descriptor) 0 {}
        if ret ≠ .UEC_OK then pure (.done (.error ret))
        else pure (.next {
          i := 1, cursor := CURSOR_INIT + configCursor, configs := [config] })) := by
    unfold configPass
    simp only [busy, long, sub_of_le trap (UInt32.le_of_lt one.2), if_false]
    rfl
  have second : ∀ cursor configs, configPass trap (Ptr.ofList descriptor) (size descriptor) dev
      { i := 1, cursor, configs } = pure (.done (.ok { i := 1, cursor, configs })) := by
    intro cursor configs
    unfold configPass
    simp [busy]
  unfold getConfigDescriptor getFirstConfig
  refine (Prog.loop_equiv.bind fun _ => Prog.Equiv.rfl).trans ?_
  rw [first, Prog.bind_assoc, Prog.bind_assoc]
  refine Prog.Equiv.rfl.bind fun result => ?_
  obtain ⟨ret, configCursor, config⟩ := result
  by_cases rejected : ret ≠ .UEC_OK
  · simp only [if_pos rejected]
    exact .rfl
  · simp only [if_neg rejected]
    refine (Prog.loop_equiv.bind fun _ => Prog.Equiv.rfl).trans ?_
    rw [second]
    exact .rfl

/-- `GetConfigDescriptor` faults only in the parse of its block. -/
theorem faults_getConfigDescriptor {trap : Bool} {e : Fault} :
    (getConfigDescriptor usbd trap dev descriptor w).Faults e ↔
      ParsesBlock dev descriptor ∧
        (parseConfigDescriptor trap (some (block descriptor)) (blockLength descriptor) 0
          {}).Faults e := by
  by_cases one : ParsesBlock dev descriptor
  · rw [(getConfigDescriptor_one one).2 e, getFirstConfig, Prog.faults_bind]
    constructor
    · intro h
      rcases h with bad | ⟨⟨ret, cursor, config⟩, _, bad⟩
      · exact ⟨one, bad⟩
      · rcases Prog.faults_ite.mp bad with ⟨_, bad⟩ | ⟨_, bad⟩
        · exact (Prog.not_faults_pure bad).elim
        · exact (Prog.not_faults_pure bad).elim
    · exact fun h => .inl h.2
  · rw [(getConfigDescriptor_none one).2 e]
    simp [one]

/-- A rejected block is the result of the whole. -/
theorem getConfigDescriptor_of_rejected (one : ParsesBlock dev descriptor) {ret : Uec}
    {cursor : UInt32} {config : USBConfig} (failed : ret ≠ .UEC_OK)
    (rejected : (parseConfigDescriptor trap (some (block descriptor)) (blockLength descriptor) 0
      {}).Returns (ret, cursor, config)) :
    (getConfigDescriptor usbd trap dev descriptor w).Returns ((ret, dev), w) := by
  rw [(getConfigDescriptor_one one).1, getFirstConfig]
  refine Prog.returns_bind.mpr ⟨_, rejected, ?_⟩
  dsimp only
  rw [if_pos failed]
  exact Prog.returns_pure.mpr rfl

/-- A parsed block is the only configuration of the device. -/
theorem getConfigDescriptor_of_parsed (one : ParsesBlock dev descriptor) {cursor : UInt32}
    {config : USBConfig}
    (parsed : (parseConfigDescriptor trap (some (block descriptor)) (blockLength descriptor) 0
      {}).Returns (.UEC_OK, cursor, config)) :
    (getConfigDescriptor usbd trap dev descriptor w).Returns
      (fillDevStrings usbd { dev with configs := [config] } w) := by
  rw [(getConfigDescriptor_one one).1, getFirstConfig]
  exact Prog.returns_bind.mpr ⟨_, parsed, Prog.returns_pure.mpr rfl⟩

end UsbService

end UsbManager

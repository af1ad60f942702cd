import UsbManager.Attach
import UsbManager.Plain

/-!
# Several configurations in one raw descriptor

A raw descriptor is a device descriptor and as many configuration blocks as it
announces.  `GetConfigDescriptor` parses one block whatever the number is, and
looks for missing interfaces behind the settings, where it comes to the end of
the buffer.  It therefore leaves the announced configurations exactly when
there is one, and no interface is missing or nothing stands behind the settings
(`segmented_iff`).
-/

namespace UsbManager

open UsbDescriptorParser Search

/-! ## The parse of a block alone -/

namespace UsbDescriptorParser

section

variable {trap : Bool} {block : ConfigBlock}

theorem toNat_size {bytes : List UInt8} (small : bytes.length < 4294967296) :
    (UsbService.size bytes).toNat = bytes.length := UInt32.toNat_ofNat_of_lt' small

/-- A block alone is parsed when no interface is missing or nothing stands
behind the settings. -/
theorem returns_parse_alone (trap : Bool) (small : block.bytes.length < 4294967296)
    (fine : block.descriptor.bNumInterfaces.toNat ≤ (withEndpoints block.settings).length ∨
      block.trailing = []) :
    ∃ cursor listed, (parseConfigDescriptor trap (some (Ptr.ofList block.bytes))
      (UsbService.size block.bytes) 0 {}).Returns
        (.UEC_OK, cursor, configuration block.descriptor listed) := by
  have holds := block.holds []
  rw [List.append_nil] at holds
  have fits := (toNat_size small).ge
  obtain ⟨taken, left, listed, split, same, full, reached⟩ := reached_block trap holds fits
  have number : listed.length = (withEndpoints taken).length := by
    simpa using congrArg List.length same
  refine ⟨_, listed, returns_parseConfigDescriptor_ok.mpr
    ⟨_, listed, announces_of_holds holds fits, reached, ?_, rfl⟩⟩
  intro begins
  obtain ⟨more, inside⟩ := begins
  rcases full with full | ⟨_, rfl⟩
  · omega
  rw [List.append_nil] at split
  subst split
  rcases fine with enough | bare
  · omega
  · have size := block.length_bytes
    rw [bare] at size
    have zero : (othersBytes []).length = 0 := rfl
    rw [UInt32.lt_iff_toNat_lt, toNat_size small, UInt32.toNat_ofNat'] at inside
    omega

/-- With interfaces missing the walk goes on behind the settings. -/
theorem reached_behind (trap : Bool) (small : block.bytes.length < 4294967296)
    (missing : (withEndpoints block.settings).length < block.descriptor.bNumInterfaces.toNat) :
    ∃ listed : List InterfaceSource, listed.length < block.descriptor.bNumInterfaces.toNat ∧
      Walk.Reached trap (Ptr.ofList block.bytes) (UsbService.size block.bytes)
        block.descriptor.bNumInterfaces.toNat
        (.interfaces listed
          (UInt32.ofNat (9 + (block.settings.flatMap SettingBlock.bytes).length))) := by
  have holds := block.holds []
  rw [List.append_nil] at holds
  obtain ⟨taken, left, listed, split, same, full, reached⟩ :=
    reached_block trap holds (toNat_size small).ge
  have number : listed.length = (withEndpoints taken).length := by
    simpa using congrArg List.length same
  have most : (withEndpoints taken).length ≤ (withEndpoints block.settings).length := by
    rw [split]
    exact ((List.sublist_append_left taken left).filter _).length_le
  obtain ⟨less, rfl⟩ := full.resolve_left (by omega)
  rw [List.append_nil] at split
  subst split
  exact ⟨listed, less, reached⟩

/-- An interface search that ends where it began is made again and again. -/
theorem diverges_of_stays {p : Ptr} {length : UInt32} {cfg : UsbdConfigDescriptor}
    {listed : List InterfaceSource} {s : UInt32} (announces : Announces p length cfg)
    (reached : Walk.Reached trap p length cfg.bNumInterfaces.toNat (.interfaces listed s))
    (begins : Walk.Begins length cfg.bNumInterfaces.toNat (.interfaces listed s))
    (stays : Walk.InterfaceSearch p length s 0 none) :
    (parseConfigDescriptor trap (some p) length 0 {}).Diverges := by
  have again : (interfacePass trap p length cfg (Walk.interfaceLoop listed s)).Returns
      (.next (Walk.interfaceLoop listed (s + 0))) :=
    Walk.returns_interfacePass_next.mpr ⟨begins, .inl ⟨0, stays, rfl⟩⟩
  rw [UInt32.add_zero] at again
  refine diverges_parseConfigDescriptor.mpr ⟨cfg, announces, ?_⟩
  exact Prog.diverges_loop_of_passes (Walk.inCode_of_reached reached)
    (Prog.diverges_loop_of_cycle again)

/-- The search behind the settings runs off the end or stays where it is. -/
theorem not_returns_parse_alone (small : block.bytes.length < 4294967296)
    (missing : (withEndpoints block.settings).length < block.descriptor.bNumInterfaces.toNat)
    (trailing : block.trailing ≠ []) {result : Uec × UInt32 × USBConfig} :
    ¬ (parseConfigDescriptor trap (some (Ptr.ofList block.bytes)) (UsbService.size block.bytes) 0
      {}).Returns result := by
  intro returned
  have holds := block.holds []
  rw [List.append_nil] at holds
  have announces := announces_of_holds holds (toNat_size small).ge
  obtain ⟨listed, less, reached⟩ := reached_behind trap small missing
  have size := block.length_bytes
  have two : 2 ≤ (othersBytes block.trailing).length := by
    obtain ⟨d, others, shape⟩ := List.exists_cons_of_ne_nil trailing
    rw [shape, othersBytes_cons, List.length_append, d.length_bytes]
    omega
  have inside : 9 + (block.settings.flatMap SettingBlock.bytes).length ≤
      (UsbService.size block.bytes).toNat := by
    rw [toNat_size small]
    omega
  have here := UInt32.toNat_ofNat_of_le inside
  have room := UInt32.toNat_sub_ofNat inside
  rw [toNat_size small] at room
  have begins : Walk.Begins (UsbService.size block.bytes) block.descriptor.bNumInterfaces.toNat
      (.interfaces listed
        (UInt32.ofNat (9 + (block.settings.flatMap SettingBlock.bytes).length))) := by
    refine ⟨less, ?_⟩
    rw [UInt32.lt_iff_toNat_lt, here, toNat_size small]
    omega
  by_cases long : 2 < (othersBytes block.trailing).length
  · -- The search goes over the other descriptors and reads behind the last of them.
    have overruns : Walk.Overruns (Ptr.ofList block.bytes) (UsbService.size block.bytes)
        (.interfaces listed
          (UInt32.ofNat (9 + (block.settings.flatMap SettingBlock.bytes).length))) := by
      have behind := holds.right
      rw [ConfigBlock.length_settings] at behind
      rw [Walk.Overruns, here]
      exact overruns_others skips_interfaceKind block.trailing long behind (by omega) (by omega)
        (by decide)
    exact returned.not_faults (faults_parseConfigDescriptor.mpr
      (.inr ⟨_, _, announces, reached, begins, overruns, rfl⟩))
  · -- Two bytes are left, which the search takes for too few to look at.
    refine returned.not_diverges (diverges_of_stays announces reached begins
      (.refused ?_ .refl ⟨?_, .inl ?_⟩))
    · intro zero
      rw [zero, UInt32.toNat_zero] at room
      omega
    · rw [UInt32.lt_iff_toNat_lt, UInt32.toNat_zero]
      omega
    · have header : sizeofUsbdDescriptorHeader.toNat = 2 := rfl
      rw [UInt32.le_iff_toNat_le]
      omega

end

end UsbDescriptorParser

/-! ## Raw descriptors -/

/-- A device descriptor followed by the configuration blocks it announces, each
with its own length in it. -/
structure RawDescriptor where
  device : UsbdDeviceDescriptor
  blocks : List ConfigBlock
  bLength : device.bLength = 18
  bDescriptorType : device.bDescriptorType = DESCRIPTOR_TYPE_DEVICE
  bNumConfigurations : device.bNumConfigurations.toNat = blocks.length
  one_le : 1 ≤ blocks.length
  wTotalLength : ∀ block ∈ blocks, block.descriptor.wTotalLength.toNat = block.bytes.length

namespace RawDescriptor

def bytes (raw : RawDescriptor) : List UInt8 :=
  raw.device.bytes ++ raw.blocks.flatMap ConfigBlock.bytes

variable (raw : RawDescriptor)

theorem length_bytes :
    raw.bytes.length = 18 + (raw.blocks.flatMap ConfigBlock.bytes).length := List.length_append

theorem length_block {block : ConfigBlock} (there : block ∈ raw.blocks) :
    9 ≤ block.bytes.length ∧ block.bytes.length < 65536 := by
  rw [← raw.wTotalLength block there]
  refine ⟨?_, block.descriptor.wTotalLength.toNat_lt⟩
  rw [raw.wTotalLength block there, block.length_bytes]
  omega

/-- 255 blocks of 65535 bytes have a length that fits in 32 bits. -/
theorem length_lt : raw.bytes.length < 4294967296 := by
  have each : ∀ n ∈ raw.blocks.map fun block => block.bytes.length, n ≤ 65535 := by
    intro n there
    obtain ⟨block, member, rfl⟩ := List.mem_map.mp there
    exact Nat.le_of_lt_succ (raw.length_block member).2
  have total := List.sum_le_card_nsmul _ _ each
  have few := raw.device.bNumConfigurations.toNat_lt
  rw [raw.bNumConfigurations] at few
  rw [List.length_map, smul_eq_mul] at total
  rw [length_bytes, List.length_flatMap]
  omega

theorem length_gt : 18 < raw.bytes.length := by
  obtain ⟨block, rest, shape⟩ := List.exists_cons_of_length_pos raw.one_le
  have long := (raw.length_block (shape ▸ List.mem_cons_self)).1
  rw [length_bytes, shape, List.flatMap_cons, List.length_append]
  omega

theorem accepted : UsbService.Accepted raw.bytes := by
  refine ⟨?_, ?_⟩
  · rw [UInt32.le_iff_toNat_le, toNat_size raw.length_lt]
    exact Nat.le_of_lt raw.length_gt
  · change some raw.device.bLength = some 18
    rw [raw.bLength]

theorem deviceDescriptor : (Ptr.ofList raw.bytes).deviceDescriptor = some raw.device := by
  have holds := Ptr.holds_ofList [] raw.device.bytes (raw.blocks.flatMap ConfigBlock.bytes)
  rw [List.nil_append, List.length_nil, Ptr.add_zero] at holds
  exact holds.deviceDescriptor

/-- The block the code parses begins behind the device descriptor. -/
theorem block_eq :
    UsbService.block raw.bytes = Ptr.ofList (raw.blocks.flatMap ConfigBlock.bytes) := by
  ext i : 2
  change (raw.device.bytes ++ _)[18 + i]? = _
  rw [List.getElem?_append_right (Nat.le_add_right 18 i)]
  exact congrArg _ (Nat.add_sub_cancel_left 18 i)

theorem blockLength_eq :
    UsbService.blockLength raw.bytes = UsbService.size (raw.blocks.flatMap ConfigBlock.bytes) := by
  change UInt32.ofNat raw.bytes.length - 18 = _
  rw [length_bytes, Nat.add_comm, UInt32.ofNat_add]
  exact UInt32.add_sub_cancel _ 18

end RawDescriptor

/-! ## Names do not matter -/

/-- A configuration without the strings usbd gives for it. -/
def USBConfig.unnamed (config : USBConfig) : USBConfig :=
  { config with
    name := ""
    interfaces := config.interfaces.map fun interface => { interface with name := "" } }

namespace UsbService

section

variable (usbd : Usbd) (busNum devAddr : UInt8)

theorem fillInterfaceNames_unnamed (interfaces : List UsbInterface) :
    ∀ w, (fillInterfaceNames usbd busNum devAddr interfaces w).1.map
        (fun interface => { interface with name := "" }) =
      interfaces.map fun interface => { interface with name := "" } := by
  induction interfaces with
  | nil => exact fun w => rfl
  | cons interface interfaces ih =>
    intro w
    simp only [fillInterfaceNames, List.map_cons, ih]

theorem fillConfigNames_unnamed (configs : List USBConfig) :
    ∀ w, (fillConfigNames usbd busNum devAddr configs w).1.map USBConfig.unnamed =
      configs.map USBConfig.unnamed := by
  induction configs with
  | nil => exact fun w => rfl
  | cons config configs ih =>
    intro w
    simp only [fillConfigNames, List.map_cons, ih, USBConfig.unnamed, fillInterfaceNames_unnamed]

theorem fillDevStrings_eq (dev : UsbDevice) (w : World) :
    fillDevStrings usbd dev w =
      ((.UEC_OK, (fillDevStrings usbd dev w).1.2), (fillDevStrings usbd dev w).2) := rfl

theorem fillDevStrings_unnamed (dev : UsbDevice) (w : World) :
    (fillDevStrings usbd dev w).1.2.configs.map USBConfig.unnamed =
      dev.configs.map USBConfig.unnamed := by
  simp only [fillDevStrings, fillConfigNames_unnamed]

end

end UsbService

theorem configuration_unnamed (cfg : UsbdConfigDescriptor) (listed : List InterfaceSource) :
    (configuration cfg listed).unnamed = configuration cfg listed := by
  simp [USBConfig.unnamed, configuration, InterfaceSource.interface, setInterface]

/-! ## Segmentation -/

/-- A configuration is what the parser makes of the bytes of one block, apart
from the names. -/
def ConfigBlock.Builds (block : ConfigBlock) (config : USBConfig) : Prop :=
  ∃ cursor, (parseConfigDescriptor false (some (Ptr.ofList block.bytes))
    (UsbService.size block.bytes) 0 {}).Returns (.UEC_OK, cursor, config.unnamed)

namespace UsbService

/-- `GetDeviceInfoDescriptor` and then `GetConfigDescriptor` leave the device
with one configuration for each block, in order. -/
def Segmented (usbd : Usbd) (uDev : UsbDev) (raw : RawDescriptor) (dev : UsbDevice) (w : World) :
    Prop :=
  ∃ described w' configured w'',
    (getDeviceInfoDescriptor usbd uDev dev w).Returns ((.UEC_OK, raw.bytes, described), w') ∧
    (getConfigDescriptor usbd false described raw.bytes w').Returns ((.UEC_OK, configured), w'') ∧
    List.Forall₂ ConfigBlock.Builds raw.blocks configured.configs

variable {usbd : Usbd} {uDev : UsbDev} {raw : RawDescriptor} {dev : UsbDevice} {w : World}

/-- The two calls leave the device with what one parse returns. -/
theorem segmented_iff_parse
    (read : (w.call usbd (.GetRawDescriptor uDev)).1.ret = .UEC_OK)
    (known : (w.call usbd (.GetRawDescriptor uDev)).1.bufferData = raw.bytes) :
    Segmented usbd uDev raw dev w ↔
      ∃ block cursor config, raw.blocks = [block] ∧
        (parseConfigDescriptor false (some (Ptr.ofList block.bytes)) (size block.bytes) 0
          {}).Returns (.UEC_OK, cursor, config) := by
  obtain ⟨d, layout, _, info⟩ := getDeviceInfoDescriptor_accepted known read raw.accepted dev
  obtain rfl := Option.some.inj (raw.deviceDescriptor.symm.trans layout)
  have one : ParsesBlock (setDevice (nameDevice uDev dev) raw.device) raw.bytes := by
    refine ⟨?_, ?_⟩
    · intro zero
      have announced := raw.bNumConfigurations
      have some := raw.one_le
      have none : raw.device.bNumConfigurations = 0 := zero
      rw [none, UInt8.toNat_zero] at announced
      omega
    · rw [UInt32.lt_iff_toNat_lt, toNat_size raw.length_lt]
      exact raw.length_gt
  constructor
  · intro h
    obtain ⟨described, w', configured, w'', first, second, builds⟩ := h
    rw [info] at first
    obtain ⟨rfl, rfl⟩ : described = setDevice (nameDevice uDev dev) raw.device ∧
        w' = (w.call usbd (.GetRawDescriptor uDev)).2 := by
      simpa using Prog.returns_pure.mp first
    rw [(getConfigDescriptor_one one).1, getFirstConfig, Prog.returns_bind] at second
    obtain ⟨⟨ret, cursor, config⟩, parsed, rest⟩ := second
    rcases Prog.returns_ite.mp rest with ⟨failed, rest⟩ | ⟨ok, rest⟩
    · have same : Uec.UEC_OK = ret :=
        congrArg (fun result => result.1.1) (Prog.returns_pure.mp rest)
      exact (failed same.symm).elim
    obtain rfl := Decidable.not_not.mp ok
    have same := congrArg (fun result => result.1.2.configs.map USBConfig.unnamed)
      (Prog.returns_pure.mp rest)
    have lengths : raw.blocks.length = 1 := by
      have single := congrArg List.length same
      rw [fillDevStrings_unnamed, List.length_map, List.length_map] at single
      rw [builds.length_eq, single]
      rfl
    obtain ⟨block, shape⟩ := List.length_eq_one_iff.mp lengths
    refine ⟨block, cursor, config, shape, ?_⟩
    rw [raw.block_eq, raw.blockLength_eq, shape, List.flatMap_singleton] at parsed
    exact parsed
  · intro h
    obtain ⟨block, cursor, config, shape, parsed⟩ := h
    have whole : (parseConfigDescriptor false (some (UsbService.block raw.bytes))
        (blockLength raw.bytes) 0 {}).Returns (.UEC_OK, cursor, config) := by
      rw [raw.block_eq, raw.blockLength_eq, shape, List.flatMap_singleton]
      exact parsed
    obtain ⟨cfg, listed, _, _, _, rfl⟩ := returns_parseConfigDescriptor_ok.mp parsed
    have second : (getConfigDescriptor usbd false (setDevice (nameDevice uDev dev) raw.device)
        raw.bytes (w.call usbd (.GetRawDescriptor uDev)).2).Returns _ :=
      getConfigDescriptor_of_parsed one whole
    rw [fillDevStrings_eq] at second
    refine ⟨_, _, _, _, by rw [info]; exact Prog.returns_pure.mpr rfl, second, ?_⟩
    have names := fillDevStrings_unnamed usbd
      { setDevice (nameDevice uDev dev) raw.device with configs := [configuration cfg listed] }
      (w.call usbd (.GetRawDescriptor uDev)).2
    rw [List.map_singleton, configuration_unnamed, List.map_eq_singleton_iff] at names
    obtain ⟨named, found, same⟩ := names
    rw [found, shape]
    refine .cons ⟨cursor, ?_⟩ .nil
    rw [same]
    exact parsed

/-- The announced configurations are left, each from its own block, exactly
when there is one and its parse does not look for interfaces behind its
settings, or finds the end of the block there. -/
theorem segmented_iff (usbd : Usbd) (uDev : UsbDev) (raw : RawDescriptor) (dev : UsbDevice)
    (w : World) (read : (w.call usbd (.GetRawDescriptor uDev)).1.ret = .UEC_OK)
    (known : (w.call usbd (.GetRawDescriptor uDev)).1.bufferData = raw.bytes) :
    Segmented usbd uDev raw dev w ↔
      ∃ block, raw.blocks = [block] ∧
        (block.descriptor.bNumInterfaces.toNat ≤ (withEndpoints block.settings).length ∨
          block.trailing = []) := by
  rw [segmented_iff_parse read known]
  have small : ∀ block, raw.blocks = [block] → block.bytes.length < 4294967296 := by
    intro block shape
    have length := (raw.length_block (shape ▸ List.mem_singleton_self block)).2
    omega
  constructor
  · intro h
    obtain ⟨block, cursor, config, shape, parsed⟩ := h
    refine ⟨block, shape, ?_⟩
    by_contra bad
    obtain ⟨missing, trailing⟩ := not_or.mp bad
    exact not_returns_parse_alone (small block shape) (Nat.lt_of_not_le missing) trailing parsed
  · intro h
    obtain ⟨block, shape, fine⟩ := h
    obtain ⟨cursor, listed, parsed⟩ := returns_parse_alone false (small block shape) fine
    exact ⟨block, cursor, _, shape, parsed⟩

/-- usbd with one device. -/
def attachedUsbd (raw : RawDescriptor) : Usbd where
  answer _ call :=
    match call with
    | .GetRawDescriptor _ => { ret := .UEC_OK, bufferData := raw.bytes }
    | _ => { ret := .UEC_OK }

/-- A device with these configurations. -/
def bulkDevice (blocks : List ConfigBlock) : UsbdDeviceDescriptor where
  bLength := 18
  bDescriptorType := 1
  bcdUSB := 0x200
  bDeviceClass := 0
  bDeviceSubClass := 0
  bDeviceProtocol := 0
  bMaxPacketSize0 := 64
  idVendor := 0x1234
  idProduct := 0x5678
  bcdDevice := 0x100
  iManufacturer := 0
  iProduct := 0
  iSerialNumber := 0
  bNumConfigurations := UInt8.ofNat blocks.length

def oneConfiguration : RawDescriptor where
  device := bulkDevice [bulkBlock]
  blocks := [bulkBlock]
  bLength := rfl
  bDescriptorType := rfl
  bNumConfigurations := rfl
  one_le := Nat.le_refl 1
  wTotalLength := by decide

theorem segmented_oneConfiguration :
    Segmented (attachedUsbd oneConfiguration) ⟨1, 2⟩ oneConfiguration zeroDevice {} ↔
      ∃ block, oneConfiguration.blocks = [block] ∧
        (block.descriptor.bNumInterfaces.toNat ≤ (withEndpoints block.settings).length ∨
          block.trailing = []) :=
  segmented_iff (attachedUsbd oneConfiguration) ⟨1, 2⟩ oneConfiguration zeroDevice {} rfl rfl

def twoConfigurations : RawDescriptor where
  device := bulkDevice [bulkBlock, bulkBlock]
  blocks := [bulkBlock, bulkBlock]
  bLength := rfl
  bDescriptorType := rfl
  bNumConfigurations := rfl
  one_le := Nat.le_succ 1
  wTotalLength := by decide

/-- The second of two configurations is lost. -/
theorem not_segmented_twoConfigurations :
    ¬ Segmented (attachedUsbd twoConfigurations) ⟨1, 2⟩ twoConfigurations zeroDevice {} := by
  rw [segmented_iff_parse rfl rfl]
  intro h
  obtain ⟨block, _, _, shape, _⟩ := h
  have lengths : 2 = 1 := congrArg List.length shape
  exact absurd lengths (by decide)

end UsbService

end UsbManager

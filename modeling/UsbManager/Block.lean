import UsbManager.Config
import UsbManager.Layout

/-!
# Well-formed configuration blocks

A configuration block is laid out as a configuration descriptor and a row of
settings: INTERFACE descriptors, each followed by the ENDPOINT descriptors it
announces, with descriptors of other types before any of them and at the end.
The walk over such a block takes one setting after the other
(`reached_settings`) until enough of them are listed.
-/

namespace UsbManager

open Search Walk

/-! ## Blocks and what they describe -/

/-- An ENDPOINT descriptor and the other descriptors before it. -/
structure EndpointBlock where
  lead : List OtherDescriptor
  descriptor : UsbdEndpointDescriptor
  bLength : descriptor.bLength = 7
  bDescriptorType : descriptor.bDescriptorType = DESCRIPTOR_TYPE_ENDPOINT

def EndpointBlock.bytes (e : EndpointBlock) : List UInt8 := othersBytes e.lead ++ e.descriptor.bytes

/-- An INTERFACE descriptor, the other descriptors before it and the endpoints
it announces. -/
structure SettingBlock where
  lead : List OtherDescriptor
  descriptor : UsbdInterfaceDescriptor
  endpoints : List EndpointBlock
  bLength : descriptor.bLength = 9
  bDescriptorType : descriptor.bDescriptorType = DESCRIPTOR_TYPE_INTERFACE
  bNumEndpoints : descriptor.bNumEndpoints.toNat = endpoints.length

def SettingBlock.bytes (setting : SettingBlock) : List UInt8 :=
  othersBytes setting.lead ++ setting.descriptor.bytes ++
    setting.endpoints.flatMap EndpointBlock.bytes

/-- A configuration descriptor, its settings, and other descriptors at the end. -/
structure ConfigBlock where
  descriptor : UsbdConfigDescriptor
  settings : List SettingBlock
  trailing : List OtherDescriptor
  bLength : descriptor.bLength = 9
  bDescriptorType : descriptor.bDescriptorType = DESCRIPTOR_TYPE_CONFIG

def ConfigBlock.bytes (block : ConfigBlock) : List UInt8 :=
  block.descriptor.bytes ++ block.settings.flatMap SettingBlock.bytes ++ othersBytes block.trailing

/-- The values of an ENDPOINT descriptor, under the interface `d`. -/
def EndpointBlock.endpoint (d : UsbdInterfaceDescriptor) (e : EndpointBlock) : USBEndpoint where
  address := e.descriptor.bEndpointAddress.toUInt32
  attributes := e.descriptor.bmAttributes.toUInt32
  interval := int32OfByte e.descriptor.bInterval
  maxPacketSize := int32OfWord e.descriptor.wMaxPacketSize
  interfaceId := d.bInterfaceNumber

/-- The values of an INTERFACE descriptor and its endpoints. -/
def SettingBlock.interface (setting : SettingBlock) : UsbInterface where
  id := int32OfByte setting.descriptor.bInterfaceNumber
  protocol := int32OfByte setting.descriptor.bInterfaceProtocol
  klass := int32OfByte setting.descriptor.bInterfaceClass
  subClass := int32OfByte setting.descriptor.bInterfaceSubClass
  alternateSetting := int32OfByte setting.descriptor.bAlternateSetting
  endpoints := setting.endpoints.map (EndpointBlock.endpoint setting.descriptor)
  iInterface := setting.descriptor.iInterface

/-- The values of a configuration block. -/
def ConfigBlock.config (block : ConfigBlock) : USBConfig where
  id := int32OfByte block.descriptor.bConfigurationValue
  attributes := block.descriptor.bmAttributes.toUInt32
  interfaces := block.settings.map SettingBlock.interface
  maxPower := int32OfByte block.descriptor.bMaxPower
  iConfiguration := block.descriptor.iConfiguration

/-- The settings with an endpoint. -/
def withEndpoints (settings : List SettingBlock) : List SettingBlock :=
  settings.filter fun setting => !setting.endpoints.isEmpty

section Sizes

variable (e : EndpointBlock) (setting : SettingBlock) (block : ConfigBlock)

theorem EndpointBlock.length_bytes :
    e.bytes.length = (othersBytes e.lead).length + 7 := by
  simp [bytes, UsbdEndpointDescriptor.bytes, wordBytes]

theorem SettingBlock.length_bytes :
    setting.bytes.length = (othersBytes setting.lead).length + 9 +
      (setting.endpoints.flatMap EndpointBlock.bytes).length := by
  simp only [bytes, UsbdInterfaceDescriptor.bytes, List.length_append, List.length_cons,
    List.length_nil]

theorem ConfigBlock.length_settings :
    (block.descriptor.bytes ++ block.settings.flatMap SettingBlock.bytes).length =
      9 + (block.settings.flatMap SettingBlock.bytes).length := List.length_append

theorem ConfigBlock.length_bytes :
    block.bytes.length = 9 + (block.settings.flatMap SettingBlock.bytes).length +
      (othersBytes block.trailing).length := by
  rw [bytes, List.length_append, length_settings]

end Sizes

/-- A block can be read from its first byte on. -/
theorem ConfigBlock.holds (block : ConfigBlock) (suffix : List UInt8) :
    (Ptr.ofList (block.bytes ++ suffix)).Holds block.bytes := by
  simpa using Ptr.holds_ofList [] block.bytes suffix

/-! ## The walk over a block -/

namespace Walk

variable {trap : Bool} {p : Ptr} {length : UInt32} {count : Nat}

/-- The search for an endpoint that is laid out at `start + k`. -/
theorem endpointSearch_of_holds (e : EndpointBlock) {start : UInt32} {k : Nat}
    (holds : (p.add (start.toNat + k)).Holds e.bytes)
    (fits : start.toNat + k + e.bytes.length ≤ length.toNat) :
    EndpointSearch p length start (UInt32.ofNat k) (UInt32.ofNat e.bytes.length)
      (some e.descriptor) := by
  have size := e.length_bytes
  have length32 := length.toNat_lt
  have here := UInt32.toNat_ofNat_of_le (show k ≤ length.toNat by omega)
  have first : (length - start).toNat = length.toNat - start.toNat := by
    rw [UInt32.toNat_sub_of_le _ _ (by rw [UInt32.le_iff_toNat_le]; omega)]
  have room : (length - start - UInt32.ofNat k).toNat = length.toNat - start.toNat - k := by
    rw [UInt32.toNat_sub_ofNat (by omega), first]
  have descriptor := holds.right
  rw [EndpointSearch, here, size]
  refine ends_found skips_endpointKind (by decide) e.lead holds.left ?_
    descriptor.endpointDescriptor ?_ ?_
  · change Ptr.header _ = some ⟨e.descriptor.bLength, DESCRIPTOR_TYPE_ENDPOINT⟩
    rw [← e.bDescriptorType]
    exact descriptor.header
  · change e.descriptor.bLength.toUInt32 = sizeofUsbdEndpointDescriptor
    rw [e.bLength]
    rfl
  · change (othersBytes e.lead).length + 7 ≤ _
    omega

/-- The search for an interface that is laid out at `n`. -/
theorem interfaceSearch_of_holds (setting : SettingBlock) {n : Nat}
    (holds : (p.add n).Holds (othersBytes setting.lead ++ setting.descriptor.bytes))
    (fits : n + (othersBytes setting.lead).length + 9 ≤ length.toNat) :
    InterfaceSearch p length (UInt32.ofNat n)
      (UInt32.ofNat ((othersBytes setting.lead).length + 9)) (some setting.descriptor) := by
  have here := UInt32.toNat_ofNat_of_le (show n ≤ length.toNat by omega)
  have room := UInt32.toNat_sub_ofNat (show n ≤ length.toNat by omega)
  have descriptor := holds.right
  rw [InterfaceSearch, here]
  refine ends_found skips_interfaceKind (by decide) setting.lead holds.left ?_
    descriptor.interfaceDescriptor ?_ ?_
  · change Ptr.header _ = some ⟨setting.descriptor.bLength, DESCRIPTOR_TYPE_INTERFACE⟩
    rw [← setting.bDescriptorType]
    exact descriptor.header
  · change setting.descriptor.bLength.toUInt32 = sizeofUsbdInterfaceDescriptor
    rw [setting.bLength]
    rfl
  · change (othersBytes setting.lead).length + 9 ≤ _
    omega

/-- The walk takes a row of endpoints, one after the other. -/
theorem reached_endpoints {listed : List InterfaceSource} (endpoints : List EndpointBlock) :
    ∀ (current : InterfaceSource) (k : Nat),
      Reached trap p length count (.endpoints listed current (UInt32.ofNat k)) →
      current.endpoints.length + endpoints.length ≤ current.descriptor.bNumEndpoints.toNat →
      (p.add (current.start.toNat + k)).Holds (endpoints.flatMap EndpointBlock.bytes) →
      current.start.toNat + k + (endpoints.flatMap EndpointBlock.bytes).length ≤ length.toNat →
      ∃ sources, sources.map (EndpointSource.endpoint current.descriptor) =
          current.endpoints.map (EndpointSource.endpoint current.descriptor) ++
            endpoints.map (EndpointBlock.endpoint current.descriptor) ∧
        Reached trap p length count (.endpoints listed { current with endpoints := sources }
          (UInt32.ofNat (k + (endpoints.flatMap EndpointBlock.bytes).length))) := by
  induction endpoints with
  | nil =>
    intro current k reached _ _ _
    exact ⟨current.endpoints, by simp, reached⟩
  | cons e endpoints ih =>
    intro current k reached more holds fits
    rw [List.flatMap_cons] at holds fits
    rw [List.length_append] at fits
    rw [List.length_cons] at more
    have search := endpointSearch_of_holds e holds.left (show _ ≤ length.toNat by omega)
    have safe : ¬ (trap = true ∧ Wraps length current.start (UInt32.ofNat k)) := by
      intro wraps
      have size := e.length_bytes
      have length32 := length.toNat_lt
      have early : length - current.start < UInt32.ofNat k := wraps.2
      rw [UInt32.lt_iff_toNat_lt, UInt32.toNat_sub_of_le _ _
        (by rw [UInt32.le_iff_toNat_le]; omega), UInt32.toNat_ofNat'] at early
      omega
    have begins : Begins length count (.endpoints listed current (UInt32.ofNat k)) := by
      change current.endpoints.length < _
      omega
    have next := reached.tail (.endpoint begins safe search)
    rw [← UInt32.ofNat_add] at next
    obtain ⟨sources, same, rest⟩ := ih _ (k + e.bytes.length) next
      (by simp only [InterfaceSource.more, List.length_append, List.length_singleton]; omega)
      (by rw [← Nat.add_assoc, ← Ptr.add_add]; exact holds.right)
      (by simp only [InterfaceSource.more]; omega)
    refine ⟨sources, ?_, ?_⟩
    · simpa [InterfaceSource.more, EndpointSource.endpoint, EndpointBlock.endpoint,
        UsbDescriptorParser.setEndpoint] using same
    · rw [List.flatMap_cons, List.length_append, ← Nat.add_assoc]
      exact rest

/-- The walk takes a setting, and lists it if it has an endpoint. -/
theorem reached_setting (setting : SettingBlock) {listed : List InterfaceSource} {n : Nat}
    (reached : Reached trap p length count (.interfaces listed (UInt32.ofNat n)))
    (more : listed.length < count) (holds : (p.add n).Holds setting.bytes)
    (fits : n + setting.bytes.length ≤ length.toNat) :
    ∃ listed', listed'.map InterfaceSource.interface =
        listed.map InterfaceSource.interface ++
          (withEndpoints [setting]).map SettingBlock.interface ∧
      Reached trap p length count
        (.interfaces listed' (UInt32.ofNat (n + setting.bytes.length))) := by
  have size := setting.length_bytes
  have here := UInt32.toNat_ofNat_of_le (show n ≤ length.toNat by omega)
  have begins : Begins length count (.interfaces listed (UInt32.ofNat n)) := by
    refine ⟨more, ?_⟩
    rw [UInt32.lt_iff_toNat_lt, here]
    omega
  have opened := reached.tail (.opened begins (interfaceSearch_of_holds setting holds.left
    (by omega)))
  obtain ⟨sources, same, taken⟩ := reached_endpoints setting.endpoints _ _ opened
    (by rw [setting.bNumEndpoints]; exact (Nat.zero_add _).le)
    (by
      have endpoints := holds.right
      rwa [List.length_append, Ptr.add_add, ← here] at endpoints)
    (by simp only [here]; omega)
  dsimp only at same taken
  rw [List.map_nil, List.nil_append] at same
  have counted : sources.length = setting.endpoints.length := by
    simpa using congrArg List.length same
  have ended : ¬ Begins length count (.endpoints listed
      { start := UInt32.ofNat n, consumed := UInt32.ofNat ((othersBytes setting.lead).length + 9),
        descriptor := setting.descriptor, endpoints := sources }
      (UInt32.ofNat ((othersBytes setting.lead).length + 9 +
        (setting.endpoints.flatMap EndpointBlock.bytes).length))) := by
    change ¬ sources.length < setting.descriptor.bNumEndpoints.toNat
    rw [setting.bNumEndpoints]
    omega
  have closed := taken.tail (.closed ended)
  rw [← UInt32.ofNat_add, ← size] at closed
  refine ⟨_, ?_, closed⟩
  by_cases none : setting.endpoints = []
  · have empty : sources = [] := by
      rwa [← List.length_eq_zero_iff, counted, List.length_eq_zero_iff]
    simp [InterfaceSource.list, empty, withEndpoints, none]
  · have some : sources ≠ [] := by
      rwa [Ne, ← List.length_eq_zero_iff, counted, List.length_eq_zero_iff]
    have kept : withEndpoints [setting] = [setting] := by simp [withEndpoints, none]
    rw [InterfaceSource.list, if_neg some, List.map_append, kept]
    simp [InterfaceSource.interface, SettingBlock.interface, UsbDescriptorParser.setInterface, same]

/-- The walk takes settings one after the other until enough are listed. -/
theorem reached_settings (settings : List SettingBlock) :
    ∀ (listed : List InterfaceSource) (n : Nat),
      Reached trap p length count (.interfaces listed (UInt32.ofNat n)) →
      listed.length ≤ count →
      (p.add n).Holds (settings.flatMap SettingBlock.bytes) →
      n + (settings.flatMap SettingBlock.bytes).length ≤ length.toNat →
      ∃ taken left listed', settings = taken ++ left ∧
        listed'.map InterfaceSource.interface = listed.map InterfaceSource.interface ++
          (withEndpoints taken).map SettingBlock.interface ∧
        listed'.length ≤ count ∧ (listed'.length = count ∨ left = []) ∧
        Reached trap p length count (.interfaces listed'
          (UInt32.ofNat (n + (taken.flatMap SettingBlock.bytes).length))) := by
  induction settings with
  | nil =>
    intro listed n reached most _ _
    exact ⟨[], [], listed, rfl, by simp [withEndpoints], most, .inr rfl, reached⟩
  | cons setting settings ih =>
    intro listed n reached most holds fits
    rw [List.flatMap_cons] at holds fits
    rw [List.length_append] at fits
    by_cases more : listed.length < count
    · obtain ⟨listed', same, next⟩ := reached_setting setting reached more holds.left (by omega)
      have grown : listed'.length = listed.length + (withEndpoints [setting]).length := by
        simpa using congrArg List.length same
      have one : (withEndpoints [setting]).length ≤ 1 := List.length_filter_le _ _
      obtain ⟨taken, left, listed'', rfl, same', most', full, rest⟩ := ih listed' _ next (by omega)
        (by rw [← Ptr.add_add]; exact holds.right) (by omega)
      refine ⟨setting :: taken, left, listed'', rfl, ?_, most', full, ?_⟩
      · have split : withEndpoints (setting :: taken) =
            withEndpoints [setting] ++ withEndpoints taken := List.filter_append [setting] taken
        rw [same', same, split, List.map_append, List.append_assoc]
      · rwa [List.flatMap_cons, List.length_append, ← Nat.add_assoc]
    · exact ⟨[], setting :: settings, listed, rfl, by simp [withEndpoints], most,
        .inl (by omega), reached⟩

end Walk

/-! ## The parse of a block -/

section

variable {trap : Bool} {p : Ptr} {length : UInt32} {block : ConfigBlock}

theorem announces_of_holds (holds : p.Holds block.bytes)
    (fits : block.bytes.length ≤ length.toNat) : Announces p length block.descriptor := by
  have size := block.length_bytes
  refine ⟨?_, holds.left.left.configDescriptor, ?_⟩
  · rw [UInt32.le_iff_toNat_le]
    exact (by omega : 9 ≤ length.toNat)
  · rw [block.bLength]
    rfl

/-- The walk over a block takes settings until enough of them are listed. -/
theorem reached_block (trap : Bool) (holds : p.Holds block.bytes)
    (fits : block.bytes.length ≤ length.toNat) :
    ∃ taken left listed, block.settings = taken ++ left ∧
      listed.map InterfaceSource.interface =
        (withEndpoints taken).map SettingBlock.interface ∧
      (listed.length = block.descriptor.bNumInterfaces.toNat ∨
        listed.length < block.descriptor.bNumInterfaces.toNat ∧ left = []) ∧
      Walk.Reached trap p length block.descriptor.bNumInterfaces.toNat (.interfaces listed
        (UInt32.ofNat (9 + (taken.flatMap SettingBlock.bytes).length))) := by
  have size := block.length_bytes
  have settings : (p.add 9).Holds (block.settings.flatMap SettingBlock.bytes) := holds.left.right
  obtain ⟨taken, left, listed, split, same, most, full, reached⟩ :=
    Walk.reached_settings block.settings [] 9 .refl (Nat.zero_le _) settings
      (show _ ≤ length.toNat by omega)
  refine ⟨taken, left, listed, split, same, ?_, reached⟩
  rcases full with full | rfl
  · exact .inl full
  · rcases Nat.lt_or_eq_of_le most with less | full
    · exact .inr ⟨less, rfl⟩
    · exact .inl full

end

end UsbManager

import UsbManager.Block

/-!
# Plain configuration blocks

A block is plain when its configuration descriptor counts the settings, every
setting has an endpoint, and the last ENDPOINT descriptor ends the block.
`ParseConfigDescriptor` reads such a block back exactly.
-/

namespace UsbManager

open UsbDescriptorParser

/-- As many interfaces as announced, each with endpoints, and nothing behind
the last endpoint. -/
structure ConfigBlock.Plain (block : ConfigBlock) : Prop where
  bNumInterfaces : block.descriptor.bNumInterfaces.toNat = block.settings.length
  endpoints : ∀ setting ∈ block.settings, setting.endpoints ≠ []
  trailing : block.trailing = []

theorem withEndpoints_eq_self {settings : List SettingBlock}
    (all : ∀ setting ∈ settings, setting.endpoints ≠ []) : withEndpoints settings = settings := by
  rw [withEndpoints, List.filter_eq_self]
  intro setting there
  simpa using all setting there

/-- With endpoints everywhere and one interface for each setting, the walk
takes and lists every setting. -/
theorem reached_every (trap : Bool) {p : Ptr} {length : UInt32} {block : ConfigBlock}
    (counted : block.descriptor.bNumInterfaces.toNat = block.settings.length)
    (all : ∀ setting ∈ block.settings, setting.endpoints ≠ []) (holds : p.Holds block.bytes)
    (fits : block.bytes.length ≤ length.toNat) :
    ∃ listed, listed.map InterfaceSource.interface = block.settings.map SettingBlock.interface ∧
      listed.length = block.descriptor.bNumInterfaces.toNat ∧
      Walk.Reached trap p length block.descriptor.bNumInterfaces.toNat (.interfaces listed
        (UInt32.ofNat (9 + (block.settings.flatMap SettingBlock.bytes).length))) := by
  obtain ⟨taken, left, listed, split, same, full, reached⟩ := reached_block trap holds fits
  have most : ∀ setting ∈ taken, setting.endpoints ≠ [] := by
    intro setting there
    exact all setting (split ▸ List.mem_append_left left there)
  rw [withEndpoints_eq_self most] at same
  have number : listed.length = taken.length := by simpa using congrArg List.length same
  have total : block.settings.length = taken.length + left.length := by
    rw [split, List.length_append]
  have none : left = [] := by
    rcases full with full | ⟨_, none⟩
    · rw [← List.length_eq_zero_iff]
      omega
    · exact none
  subst none
  rw [List.append_nil] at split
  subst split
  exact ⟨listed, same, by omega, reached⟩

/-- Parsing undoes the encoding of a plain block: the code is `UEC_OK`, the
values are those laid out, in order, and the cursor is at the end of the block,
whatever bytes follow it. -/
theorem parseConfigDescriptor_plain (trap : Bool) (block : ConfigBlock) (plain : block.Plain)
    (suffix : List UInt8) (length : UInt32) (fits : block.bytes.length ≤ length.toNat) :
    (parseConfigDescriptor trap (some (Ptr.ofList (block.bytes ++ suffix))) length 0 {}).Returns
      (.UEC_OK, UInt32.ofNat block.bytes.length, block.config) := by
  have holds := block.holds suffix
  obtain ⟨listed, same, full, reached⟩ :=
    reached_every trap plain.bNumInterfaces plain.endpoints holds fits
  have size : block.bytes.length = 9 + (block.settings.flatMap SettingBlock.bytes).length := by
    rw [block.length_bytes, plain.trailing]
    rfl
  have ended : ¬ Walk.Begins length block.descriptor.bNumInterfaces.toNat
      (.interfaces listed (UInt32.ofNat block.bytes.length)) := by
    intro begins
    have less : listed.length < block.descriptor.bNumInterfaces.toNat := begins.1
    omega
  rw [← size] at reached
  refine returns_parseConfigDescriptor_ok.mpr
    ⟨_, listed, announces_of_holds holds fits, reached, ended, ?_⟩
  rw [ConfigBlock.config, configuration, same]

/-- A vendor descriptor. -/
def vendorDescriptor : OtherDescriptor where
  bDescriptorType := 33
  payload := [1, 2, 3]
  other := by decide
  fits := by decide

/-- A bulk endpoint behind a vendor descriptor. -/
def bulkEndpoint : EndpointBlock where
  lead := [vendorDescriptor]
  descriptor :=
    { bLength := 7, bDescriptorType := 5, bEndpointAddress := 0x81, bmAttributes := 2,
      wMaxPacketSize := 512, bInterval := 0 }
  bLength := rfl
  bDescriptorType := rfl

/-- An interface with one endpoint. -/
def bulkSetting : SettingBlock where
  lead := []
  descriptor :=
    { bLength := 9, bDescriptorType := 4, bInterfaceNumber := 0, bAlternateSetting := 0,
      bNumEndpoints := 1, bInterfaceClass := 8, bInterfaceSubClass := 6, bInterfaceProtocol := 80,
      iInterface := 0 }
  endpoints := [bulkEndpoint]
  bLength := rfl
  bDescriptorType := rfl
  bNumEndpoints := rfl

/-- A configuration of that interface. -/
def bulkBlock : ConfigBlock where
  descriptor :=
    { bLength := 9, bDescriptorType := 2, wTotalLength := 30, bNumInterfaces := 1,
      bConfigurationValue := 1, iConfiguration := 0, bmAttributes := 128, bMaxPower := 50 }
  settings := [bulkSetting]
  trailing := []
  bLength := rfl
  bDescriptorType := rfl

theorem parseConfigDescriptor_bulkBlock :
    (parseConfigDescriptor true (some (Ptr.ofList (bulkBlock.bytes ++ [9, 9]))) 32 0 {}).Returns
      (.UEC_OK, 30, bulkBlock.config) :=
  parseConfigDescriptor_plain true bulkBlock
    { bNumInterfaces := rfl
      endpoints := by decide
      trailing := rfl } [9, 9] 32 (by decide)

end UsbManager

import UsbManager.Plain

/-!
# Alternate settings and settings without endpoints

In a well-formed block `bNumInterfaces` counts interface numbers, of which each
may have several settings, and a setting may have no endpoint.  The code takes
`bNumInterfaces` for the number of settings and lists none without endpoints.
The walk therefore lists every setting exactly when each has an endpoint and no
interface number has a second setting (`everySetting_iff`).
-/

namespace UsbManager

open UsbDescriptorParser

/-! ## What is listed -/

namespace Walk

/-- No more interfaces are listed than announced, each with its endpoints. -/
def Lists (count : Nat) : Walk → Prop
  | .interfaces listed _ =>
    listed.length ≤ count ∧ ∀ source ∈ listed, source.endpoints ≠ [] ∧
      source.endpoints.length = source.descriptor.bNumEndpoints.toNat
  | .endpoints listed _ _ =>
    listed.length < count ∧ ∀ source ∈ listed, source.endpoints ≠ [] ∧
      source.endpoints.length = source.descriptor.bNumEndpoints.toNat

theorem Reached.lists {trap : Bool} {p : Ptr} {length : UInt32} {count : Nat} {w : Walk}
    (reached : Reached trap p length count w) : w.Lists count := by
  induction reached with
  | refl => exact ⟨Nat.zero_le _, fun _ there => nomatch there⟩
  | tail before step ih =>
    cases step with
    | skip => exact ih
    | opened begins => exact ⟨begins.1, ih.2⟩
    | endpoint => exact ih
    | @closed listed current k ended =>
      have counted := Reached.length_endpoints before ended
      by_cases none : current.endpoints = []
      · rw [InterfaceSource.list, if_pos none]
        exact ⟨Nat.le_of_lt ih.1, ih.2⟩
      · rw [InterfaceSource.list, if_neg none]
        refine ⟨?_, ?_⟩
        · rw [List.length_append, List.length_singleton]
          exact ih.1
        · intro source there
          rcases List.mem_append.mp there with old | new
          · exact ih.2 source old
          · rw [List.mem_singleton.mp new]
            exact ⟨none, counted⟩

end Walk

/-! ## Every setting is listed -/

/-- The block's total length is its own, and its interface count is that of
the interface numbers. -/
structure ConfigBlock.WellFormed (block : ConfigBlock) : Prop where
  wTotalLength : block.descriptor.wTotalLength.toNat = block.bytes.length
  bNumInterfaces : block.descriptor.bNumInterfaces.toNat =
    (block.settings.map fun setting => setting.descriptor.bInterfaceNumber).dedup.length

/-- An interface of the result stands for a setting: its number, its alternate
setting and its endpoint count. -/
def SettingBlock.Selects (setting : SettingBlock) (interface : UsbInterface) : Prop :=
  interface.id = int32OfByte setting.descriptor.bInterfaceNumber ∧
    interface.alternateSetting = int32OfByte setting.descriptor.bAlternateSetting ∧
    interface.getEndpointCount = Int32.ofNat setting.endpoints.length

/-- The block is parsed into one interface for each setting, in order. -/
def EverySetting (trap : Bool) (block : ConfigBlock) (suffix : List UInt8) (length : UInt32) :
    Prop :=
  ∃ cursor config,
    (parseConfigDescriptor trap (some (Ptr.ofList (block.bytes ++ suffix))) length 0 {}).Returns
      (.UEC_OK, cursor, config) ∧
    List.Forall₂ SettingBlock.Selects block.settings config.interfaces

section

variable {trap : Bool} {block : ConfigBlock} {suffix : List UInt8} {length : UInt32}

/-- What a parse of the block returns is what a walk lists. -/
theorem listed_of_parsed (fits : block.bytes.length ≤ length.toNat) {cursor : UInt32}
    {config : USBConfig}
    (parsed : (parseConfigDescriptor trap (some (Ptr.ofList (block.bytes ++ suffix))) length 0
      {}).Returns (.UEC_OK, cursor, config)) :
    ∃ listed, config = configuration block.descriptor listed ∧
      listed.length ≤ block.descriptor.bNumInterfaces.toNat ∧
      ∀ source ∈ listed, 0 < source.interface.getEndpointCount := by
  obtain ⟨cfg, listed, announces, reached, _, rfl⟩ := returns_parseConfigDescriptor_ok.mp parsed
  have same := (announces_of_holds (block.holds suffix) fits).2.1.symm.trans announces.2.1
  obtain rfl := Option.some.inj same
  obtain ⟨most, each⟩ := reached.lists
  refine ⟨listed, rfl, most, ?_⟩
  intro source there
  obtain ⟨some, counted⟩ := each source there
  have small := source.descriptor.bNumEndpoints.toNat_lt
  rw [UsbInterface.getEndpointCount_pos (by simp [InterfaceSource.interface]; omega)]
  simpa [InterfaceSource.interface] using some

/-- With every setting listed there are at most as many settings as announced interfaces. -/
theorem EverySetting.length_le (every : EverySetting trap block suffix length)
    (fits : block.bytes.length ≤ length.toNat) :
    block.settings.length ≤ block.descriptor.bNumInterfaces.toNat := by
  obtain ⟨cursor, config, parsed, same⟩ := every
  obtain ⟨listed, rfl, most, _⟩ := listed_of_parsed fits parsed
  have lengths : block.settings.length = listed.length := by
    simpa [configuration] using same.length_eq
  omega

/-- With every setting listed each has an endpoint. -/
theorem EverySetting.endpoints_ne_nil (every : EverySetting trap block suffix length)
    (fits : block.bytes.length ≤ length.toNat) :
    ∀ setting ∈ block.settings, setting.endpoints ≠ [] := by
  obtain ⟨cursor, config, parsed, same⟩ := every
  obtain ⟨listed, rfl, _, each⟩ := listed_of_parsed fits parsed
  intro setting there none
  obtain ⟨i, small, rfl⟩ := List.getElem_of_mem there
  have small' : i < listed.length := by
    have lengths := same.length_eq
    simp only [configuration, List.length_map] at lengths
    omega
  have selects := same.get small (by simpa [configuration] using small')
  have count : (listed[i]).interface.getEndpointCount =
      Int32.ofNat block.settings[i].endpoints.length := by
    simpa [configuration] using selects.2.2
  have some := each _ (List.getElem_mem small')
  rw [count, none] at some
  exact absurd some (by decide)

/-- The settings of a well-formed block are all listed exactly when each has an
endpoint and no two have the same interface number. -/
theorem everySetting_iff (trap : Bool) (block : ConfigBlock) (wellFormed : block.WellFormed)
    (suffix : List UInt8) (length : UInt32) (fits : block.bytes.length ≤ length.toNat) :
    EverySetting trap block suffix length ↔
      (∀ setting ∈ block.settings, setting.endpoints ≠ []) ∧
        (block.settings.map fun setting => setting.descriptor.bInterfaceNumber).Nodup := by
  have counts := wellFormed.bNumInterfaces
  constructor
  · intro every
    refine ⟨every.endpoints_ne_nil fits, ?_⟩
    have most := every.length_le fits
    have shorter := List.dedup_sublist
      (block.settings.map fun setting => setting.descriptor.bInterfaceNumber)
    rw [← List.dedup_eq_self]
    exact shorter.eq_of_length_le (by rw [List.length_map, ← counts]; exact most)
  · intro h
    obtain ⟨endpoints, nodup⟩ := h
    rw [nodup.dedup, List.length_map] at counts
    have holds := block.holds suffix
    obtain ⟨listed, same, full, reached⟩ := reached_every trap counts endpoints holds fits
    have ended : ¬ Walk.Begins length block.descriptor.bNumInterfaces.toNat (.interfaces listed
        (UInt32.ofNat (9 + (block.settings.flatMap SettingBlock.bytes).length))) := by
      intro begins
      have less : listed.length < block.descriptor.bNumInterfaces.toNat := begins.1
      omega
    refine ⟨_, _, returns_parseConfigDescriptor_ok.mpr
      ⟨_, listed, announces_of_holds holds fits, reached, ended, rfl⟩, ?_⟩
    rw [configuration, same, List.forall₂_map_right_iff, List.forall₂_same]
    intro setting _
    exact ⟨rfl, rfl, by simp [SettingBlock.interface, UsbInterface.getEndpointCount]⟩

end

theorem everySetting_bulkBlock :
    EverySetting false bulkBlock [] 30 ↔
      (∀ setting ∈ bulkBlock.settings, setting.endpoints ≠ []) ∧
        (bulkBlock.settings.map fun setting => setting.descriptor.bInterfaceNumber).Nodup :=
  everySetting_iff false bulkBlock { wTotalLength := rfl, bNumInterfaces := by decide } [] 30
    (by decide)

/-- A second setting of the same interface. -/
def alternateSetting : SettingBlock where
  lead := []
  descriptor := { bulkSetting.descriptor with bAlternateSetting := 1 }
  endpoints := [bulkEndpoint]
  bLength := rfl
  bDescriptorType := rfl
  bNumEndpoints := rfl

/-- One interface with two settings. -/
def alternateBlock : ConfigBlock where
  descriptor := { bulkBlock.descriptor with wTotalLength := 51 }
  settings := [bulkSetting, alternateSetting]
  trailing := []
  bLength := rfl
  bDescriptorType := rfl

/-- The second setting of a well-formed block is lost. -/
theorem not_everySetting_alternateBlock :
    alternateBlock.WellFormed ∧ ¬ EverySetting false alternateBlock [] 51 := by
  refine ⟨{ wTotalLength := rfl, bNumInterfaces := by decide }, ?_⟩
  intro every
  have most := every.length_le (by decide)
  exact absurd most (by decide)

end UsbManager

import UsbManager.Attach
import UsbManager.RoundTrip
import UsbManager.Segments
import UsbManager.Settings

/-!
# The device that is attached

What `GetDeviceInfo` leaves of a raw descriptor: the numbers of its device
descriptor, and at most one configuration, that of the block at offset 18.  The
configurations of such a device can be counted, and each endpoint has the id of
its interface, so that it survives a parcel.
-/

namespace UsbManager

open UsbDescriptorParser

theorem Ptr.byte_8_of_configDescriptor {p : Ptr} {cfg : UsbdConfigDescriptor}
    (layout : p.configDescriptor = some cfg) : p.byte 8 = some cfg.bMaxPower := by
  unfold configDescriptor at layout
  iterate 7 obtain ⟨_, _, layout⟩ := Option.bind_eq_some_iff.mp layout
  obtain ⟨b, last, layout⟩ := Option.bind_eq_some_iff.mp layout
  cases layout
  exact last

namespace UsbService

variable {usbd : Usbd} {busNum devAddr : UInt8} {w w' : World} {dev : UsbDevice}

/-- `GetConfigDescriptor` fills in the names and at most one configuration. -/
theorem getConfigDescriptor_ok {descriptor : List UInt8} {dev out : UsbDevice}
    (returned : (getConfigDescriptor usbd false dev descriptor w).Returns ((.UEC_OK, out), w')) :
    ∃ configs, out = (fillDevStrings usbd { dev with configs } w).1.2 ∧
      (configs = [] ∨ ∃ cfg listed cursor, configs = [configuration cfg listed] ∧
        Announces (block descriptor) (blockLength descriptor) cfg ∧
        Walk.Reached false (block descriptor) (blockLength descriptor) cfg.bNumInterfaces.toNat
          (.interfaces listed cursor)) := by
  by_cases one : ParsesBlock dev descriptor
  · rw [(getConfigDescriptor_one one).1, getFirstConfig] at returned
    obtain ⟨⟨ret, cursor, config⟩, parsed, rest⟩ := Prog.returns_bind.mp returned
    dsimp only at rest
    rcases Prog.returns_ite.mp rest with ⟨failed, rest⟩ | ⟨ok, rest⟩
    · exact (failed (congrArg (fun out => out.1.1) (Prog.returns_pure.mp rest)).symm).elim
    · obtain rfl := not_not.mp ok
      obtain ⟨cfg, listed, announces, reached, _, rfl⟩ := returns_parseConfigDescriptor_ok.mp parsed
      exact ⟨_, congrArg (fun out => out.1.2) (Prog.returns_pure.mp rest),
        .inr ⟨cfg, listed, cursor, rfl, announces, reached⟩⟩
  · have filled := Prog.returns_pure.mp (((getConfigDescriptor_none one).1 _).mp returned)
    exact ⟨[], congrArg (fun out => out.1.2) filled, .inl rfl⟩

/-- A device whose information was got has been configured from its raw descriptor. -/
theorem configured_of_info
    (info : (getDeviceInfo usbd busNum devAddr zeroDevice w).Returns ((.UEC_OK, dev), w')) :
    ∃ described w₁ w₂,
      (getConfigDescriptor usbd false described (rawDescriptor usbd busNum devAddr w) w₁).Returns
        ((.UEC_OK, dev), w₂) := by
  by_cases accepted : (rawRead usbd busNum devAddr w).1.ret = .UEC_OK ∧
      Accepted (rawDescriptor usbd busNum devAddr w)
  · obtain ⟨d, _, _, first⟩ :=
      getDeviceInfoDescriptor_accepted rawRead_eq accepted.1 accepted.2 zeroDevice
    exact ⟨_, _, configured_of_described info first⟩
  · obtain ⟨ret, w₁, first⟩ := getDeviceInfoDescriptor_refused rawRead_eq accepted zeroDevice
    exact ⟨_, _, configured_of_described info first⟩

/-- A device whose configurations parse is attached with them. -/
theorem info_of_segmented {raw : RawDescriptor}
    (ok : (opened usbd busNum devAddr w).1.ret = .UEC_OK)
    (segmented : Segmented usbd ⟨busNum, devAddr⟩ raw zeroDevice (opened usbd busNum devAddr w).2) :
    ∃ dev w', (getDeviceInfo usbd busNum devAddr zeroDevice w).Returns ((.UEC_OK, dev), w') ∧
      List.Forall₂ ConfigBlock.Builds raw.blocks dev.configs := by
  obtain ⟨described, w₁, configured, w₂, first, second, builds⟩ := segmented
  refine ⟨configured, (w₂.call usbd (.CloseDevice ⟨busNum, devAddr⟩)).2, ?_, builds⟩
  unfold getDeviceInfo
  refine Prog.returns_ite.mpr (.inr ⟨not_not.mpr ok, Prog.returns_bind.mpr ⟨_, first, ?_⟩⟩)
  exact Prog.returns_bind.mpr ⟨_, second, Prog.returns_pure.mpr rfl⟩

/-- The configurations of an attached device, apart from the names: none, or that of the
block at offset 18. -/
theorem configs_of_info
    (info : (getDeviceInfo usbd busNum devAddr zeroDevice w).Returns ((.UEC_OK, dev), w')) :
    dev.configs.map USBConfig.unnamed = [] ∨
      ∃ cfg listed cursor, dev.configs.map USBConfig.unnamed = [configuration cfg listed] ∧
        Announces (block (rawDescriptor usbd busNum devAddr w))
          (blockLength (rawDescriptor usbd busNum devAddr w)) cfg ∧
        Walk.Reached false (block (rawDescriptor usbd busNum devAddr w))
          (blockLength (rawDescriptor usbd busNum devAddr w)) cfg.bNumInterfaces.toNat
          (.interfaces listed cursor) := by
  obtain ⟨described, w₁, w₂, returned⟩ := configured_of_info info
  obtain ⟨configs, rfl, shape⟩ := getConfigDescriptor_ok returned
  rw [fillDevStrings_unnamed]
  rcases shape with rfl | ⟨cfg, listed, cursor, rfl, announces, reached⟩
  · exact .inl rfl
  · refine .inr ⟨cfg, listed, cursor, ?_, announces, reached⟩
    rw [List.map_singleton, configuration_unnamed]

end UsbService

/-! ## In a parcel -/

/-- An interface of the configuration is one of those that were listed, but for its name. -/
theorem listed_of_unnamed {cfg : UsbdConfigDescriptor} {listed : List InterfaceSource}
    {config : USBConfig} (same : config.unnamed = configuration cfg listed)
    {interface : UsbInterface} (there : interface ∈ config.interfaces) :
    ∃ source ∈ listed, interface.id = source.interface.id ∧
      interface.endpoints = source.interface.endpoints := by
  have interfaces := congrArg USBConfig.interfaces same
  have unnamed : { interface with name := "" } ∈ listed.map InterfaceSource.interface := by
    rw [← show config.unnamed.interfaces = listed.map InterfaceSource.interface from interfaces]
    exact List.mem_map.mpr ⟨interface, there, rfl⟩
  obtain ⟨source, inside, eq⟩ := List.mem_map.mp unnamed
  exact ⟨source, inside, by rw [eq], by rw [eq]⟩

namespace UsbService

variable {usbd : Usbd} {busNum devAddr : UInt8} {w w' : World} {dev : UsbDevice}

/-- The only configuration there is. -/
theorem config_of_info
    (info : (getDeviceInfo usbd busNum devAddr zeroDevice w).Returns ((.UEC_OK, dev), w'))
    {config : USBConfig} (there : config ∈ dev.configs) :
    ∃ cfg listed cursor, config.unnamed = configuration cfg listed ∧
      Announces (block (rawDescriptor usbd busNum devAddr w))
        (blockLength (rawDescriptor usbd busNum devAddr w)) cfg ∧
      Walk.Reached false (block (rawDescriptor usbd busNum devAddr w))
        (blockLength (rawDescriptor usbd busNum devAddr w)) cfg.bNumInterfaces.toNat
        (.interfaces listed cursor) := by
  have inside : config.unnamed ∈ dev.configs.map USBConfig.unnamed :=
    List.mem_map_of_mem there
  rcases configs_of_info info with none | ⟨cfg, listed, cursor, one, announces, reached⟩
  · rw [none] at inside
    cases inside
  · rw [one] at inside
    exact ⟨cfg, listed, cursor, List.mem_singleton.mp inside, announces, reached⟩

/-- The configurations, interfaces and endpoints of an attached device can be counted. -/
theorem countable_of_info
    (info : (getDeviceInfo usbd busNum devAddr zeroDevice w).Returns ((.UEC_OK, dev), w')) :
    dev.Countable := by
  refine ⟨?_, fun config there => ?_⟩
  · have one : (dev.configs.map USBConfig.unnamed).length ≤ 1 := by
      rcases configs_of_info info with none | ⟨_, _, _, one, _⟩
      · rw [none]
        exact Nat.zero_le 1
      · rw [one]
        exact Nat.le_refl 1
    rw [List.length_map] at one
    omega
  · obtain ⟨cfg, listed, cursor, same, _, reached⟩ := config_of_info info there
    obtain ⟨few, each⟩ := reached.lists
    have number := cfg.bNumInterfaces.toNat_lt
    refine ⟨?_, fun interface inside => ?_⟩
    · have length := congrArg (fun config => config.interfaces.length) same
      simp only [USBConfig.unnamed, configuration, List.length_map] at length
      omega
    · obtain ⟨source, listed, _, endpoints⟩ := listed_of_unnamed same inside
      have counted := (each source listed).2
      have number := source.descriptor.bNumEndpoints.toNat_lt
      rw [endpoints, InterfaceSource.interface, List.length_map]
      omega

/-- The endpoints of an attached device have the ids of their interfaces. -/
theorem consistent_of_info
    (info : (getDeviceInfo usbd busNum devAddr zeroDevice w).Returns ((.UEC_OK, dev), w')) :
    dev.Consistent := by
  intro config there interface inside ep inInterface
  obtain ⟨cfg, listed, cursor, same, _, _⟩ := config_of_info info there
  obtain ⟨source, _, number, endpoints⟩ := listed_of_unnamed same inside
  rw [endpoints] at inInterface
  obtain ⟨_, _, rfl⟩ := List.mem_map.mp inInterface
  rw [number]
  rfl

end UsbService

end UsbManager

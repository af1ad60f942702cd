import UsbManager.Search

/-!
# Descriptors laid out as bytes

The bytes of interface, endpoint and configuration descriptors, and of the
descriptors of other types that may stand between them.  `Ptr.Holds` says that
a byte sequence is what can be read from an address on; over a laid-out
descriptor the structures of the parser read back what was laid out, and a
search steps over the other descriptors and ends at the one it looks for.
-/

/-! ## Lengths that fit in 32 bits -/

theorem UInt32.toNat_ofNat_of_le {n : Nat} {length : UInt32} (fits : n ≤ length.toNat) :
    (UInt32.ofNat n).toNat = n := by
  have length32 := length.toNat_lt
  exact UInt32.toNat_ofNat_of_lt' (show _ < 4294967296 by omega)

theorem UInt32.toNat_sub_ofNat {n : Nat} {length : UInt32} (fits : n ≤ length.toNat) :
    (length - UInt32.ofNat n).toNat = length.toNat - n := by
  have here := UInt32.toNat_ofNat_of_le fits
  rw [UInt32.toNat_sub_of_le _ _ (by rw [UInt32.le_iff_toNat_le, here]; exact fits), here]

namespace UsbManager

open Search

/-! ## Reading back laid-out structures -/

/-- The two bytes of a little-endian 16-bit field. -/
def wordBytes (w : UInt16) : List UInt8 := [UInt8.ofNat w.toNat, UInt8.ofNat (w.toNat / 256)]

def UsbdDeviceDescriptor.bytes (d : UsbdDeviceDescriptor) : List UInt8 :=
  [d.bLength, d.bDescriptorType] ++ wordBytes d.bcdUSB ++
    [d.bDeviceClass, d.bDeviceSubClass, d.bDeviceProtocol, d.bMaxPacketSize0] ++
    wordBytes d.idVendor ++ wordBytes d.idProduct ++ wordBytes d.bcdDevice ++
    [d.iManufacturer, d.iProduct, d.iSerialNumber, d.bNumConfigurations]

def UsbdConfigDescriptor.bytes (d : UsbdConfigDescriptor) : List UInt8 :=
  [d.bLength, d.bDescriptorType] ++ wordBytes d.wTotalLength ++
    [d.bNumInterfaces, d.bConfigurationValue, d.iConfiguration, d.bmAttributes, d.bMaxPower]

def UsbdInterfaceDescriptor.bytes (d : UsbdInterfaceDescriptor) : List UInt8 :=
  [d.bLength, d.bDescriptorType, d.bInterfaceNumber, d.bAlternateSetting, d.bNumEndpoints,
    d.bInterfaceClass, d.bInterfaceSubClass, d.bInterfaceProtocol, d.iInterface]

def UsbdEndpointDescriptor.bytes (d : UsbdEndpointDescriptor) : List UInt8 :=
  [d.bLength, d.bDescriptorType, d.bEndpointAddress, d.bmAttributes] ++
    wordBytes d.wMaxPacketSize ++ [d.bInterval]

namespace Ptr

/-- These bytes can be read from the address on. -/
def Holds (p : Ptr) (bytes : List UInt8) : Prop := ∀ i < bytes.length, p.byte i = bytes[i]?

variable {p : Ptr} {bytes rest : List UInt8}

theorem holds_ofList (before bytes after : List UInt8) :
    ((ofList (before ++ bytes ++ after)).add before.length).Holds bytes := by
  intro i small
  simp only [ofList, add]
  rw [List.append_assoc, List.getElem?_append_right (by omega), Nat.add_sub_cancel_left,
    List.getElem?_append_left small]

theorem Holds.left (holds : p.Holds (bytes ++ rest)) : p.Holds bytes := by
  intro i small
  rw [holds i (by rw [List.length_append]; omega), List.getElem?_append_left small]

theorem Holds.right (holds : p.Holds (bytes ++ rest)) : (p.add bytes.length).Holds rest := by
  intro i small
  change p.byte (bytes.length + i) = _
  rw [holds _ (by rw [List.length_append]; omega), List.getElem?_append_right (by omega),
    Nat.add_sub_cancel_left]

theorem Holds.get (holds : p.Holds bytes) {i : Nat} {b : UInt8} (there : bytes[i]? = some b) :
    p.byte i = some b := by
  have small : i < bytes.length := (List.getElem?_eq_some_iff.mp there).1
  rw [holds i small, there]

theorem word_of_bytes {k : Nat} {w : UInt16} (low : p.byte k = some (UInt8.ofNat w.toNat))
    (high : p.byte (k + 1) = some (UInt8.ofNat (w.toNat / 256))) : p.word k = some w := by
  have whole : UInt16.ofNat ((UInt8.ofNat w.toNat).toNat +
      256 * (UInt8.ofNat (w.toNat / 256)).toNat) = w := by
    rw [← UInt16.toNat_inj, UInt16.toNat_ofNat', UInt8.toNat_ofNat', UInt8.toNat_ofNat']
    have small := w.toNat_lt
    omega
  simp only [word, low, high, Option.bind_eq_bind, Option.bind_some, Option.pure_def, whole]

theorem Holds.header {a b : UInt8} (holds : p.Holds (a :: b :: rest)) :
    p.header = some { bLength := a, bDescriptorType := b } := by
  have first : p.byte 0 = some a := holds.get rfl
  have second : p.byte 1 = some b := holds.get rfl
  simp [Ptr.header, first, second]

theorem Holds.deviceDescriptor {d : UsbdDeviceDescriptor} (holds : p.Holds d.bytes) :
    p.deviceDescriptor = some d := by
  have byte : ∀ i b, d.bytes[i]? = some b → p.byte i = some b := fun _ _ => holds.get
  have word : ∀ k w, d.bytes[k]? = some (UInt8.ofNat w.toNat) →
      d.bytes[k + 1]? = some (UInt8.ofNat (w.toNat / 256)) → p.word k = some w :=
    fun k w low high => word_of_bytes (byte k _ low) (byte (k + 1) _ high)
  simp only [Ptr.deviceDescriptor, byte 0 _ rfl, byte 1 _ rfl, word 2 d.bcdUSB rfl rfl,
    byte 4 _ rfl, byte 5 _ rfl, byte 6 _ rfl, byte 7 _ rfl, word 8 d.idVendor rfl rfl,
    word 10 d.idProduct rfl rfl, word 12 d.bcdDevice rfl rfl, byte 14 _ rfl, byte 15 _ rfl,
    byte 16 _ rfl, byte 17 _ rfl, Option.bind_eq_bind, Option.bind_some, Option.pure_def]

theorem Holds.configDescriptor {d : UsbdConfigDescriptor} (holds : p.Holds d.bytes) :
    p.configDescriptor = some d := by
  have byte : ∀ i b, d.bytes[i]? = some b → p.byte i = some b := fun _ _ => holds.get
  have word : p.word 2 = some d.wTotalLength := word_of_bytes (byte 2 _ rfl) (byte 3 _ rfl)
  simp only [Ptr.configDescriptor, byte 0 _ rfl, byte 1 _ rfl, word, byte 4 _ rfl, byte 5 _ rfl,
    byte 6 _ rfl, byte 7 _ rfl, byte 8 _ rfl, Option.bind_eq_bind, Option.bind_some,
    Option.pure_def]

theorem Holds.interfaceDescriptor {d : UsbdInterfaceDescriptor} (holds : p.Holds d.bytes) :
    p.interfaceDescriptor = some d := by
  have byte : ∀ i b, d.bytes[i]? = some b → p.byte i = some b := fun _ _ => holds.get
  simp only [Ptr.interfaceDescriptor, byte 0 _ rfl, byte 1 _ rfl, byte 2 _ rfl, byte 3 _ rfl,
    byte 4 _ rfl, byte 5 _ rfl, byte 6 _ rfl, byte 7 _ rfl, byte 8 _ rfl, Option.bind_eq_bind,
    Option.bind_some, Option.pure_def]

theorem Holds.endpointDescriptor {d : UsbdEndpointDescriptor} (holds : p.Holds d.bytes) :
    p.endpointDescriptor = some d := by
  have byte : ∀ i b, d.bytes[i]? = some b → p.byte i = some b := fun _ _ => holds.get
  have word : p.word 4 = some d.wMaxPacketSize := word_of_bytes (byte 4 _ rfl) (byte 5 _ rfl)
  simp only [Ptr.endpointDescriptor, byte 0 _ rfl, byte 1 _ rfl, byte 2 _ rfl, byte 3 _ rfl,
    word, byte 6 _ rfl, Option.bind_eq_bind, Option.bind_some, Option.pure_def]

end Ptr

/-! ## Descriptors of other types -/

/-- A descriptor that is no configuration, interface or endpoint descriptor:
two bytes of header and its payload. -/
structure OtherDescriptor where
  bDescriptorType : UInt8
  payload : List UInt8
  other : bDescriptorType ≠ DESCRIPTOR_TYPE_CONFIG ∧
    bDescriptorType ≠ DESCRIPTOR_TYPE_INTERFACE ∧ bDescriptorType ≠ DESCRIPTOR_TYPE_ENDPOINT
  fits : payload.length + 2 < 256

/-- `bLength` counts the whole descriptor. -/
def OtherDescriptor.bytes (d : OtherDescriptor) : List UInt8 :=
  UInt8.ofNat (d.payload.length + 2) :: d.bDescriptorType :: d.payload

@[simp] theorem OtherDescriptor.length_bytes (d : OtherDescriptor) :
    d.bytes.length = d.payload.length + 2 := rfl

theorem OtherDescriptor.toNat_bLength (d : OtherDescriptor) :
    (UInt8.ofNat (d.payload.length + 2)).toNat = d.bytes.length := by
  rw [UInt8.toNat_ofNat', length_bytes]
  have fits := d.fits
  omega

def othersBytes (others : List OtherDescriptor) : List UInt8 :=
  others.flatMap OtherDescriptor.bytes

@[simp] theorem othersBytes_cons (d : OtherDescriptor) (others : List OtherDescriptor) :
    othersBytes (d :: others) = d.bytes ++ othersBytes others := rfl

/-! ## Searches over a layout -/

namespace Search

variable {δ : Type} {kind : Kind δ} {start : Ptr} {room : UInt32}

/-- What a search looks for is not among the other descriptors. -/
def Skips (kind : Kind δ) : Prop := ∀ d : OtherDescriptor, d.bDescriptorType ≠ kind.goal

theorem skips_interfaceKind : Skips interfaceKind := fun d => d.other.2.1

theorem skips_endpointKind : Skips endpointKind := fun d => d.other.2.2

/-- A search goes over a row of other descriptors. -/
theorem visits_others (skips : Skips kind) (long : 2 < room.toNat) (others : List OtherDescriptor) :
    ∀ n, Visits kind start room (UInt32.ofNat n) → (start.add n).Holds (othersBytes others) →
      n + (othersBytes others).length ≤ room.toNat →
      Visits kind start room (UInt32.ofNat (n + (othersBytes others).length)) := by
  induction others with
  | nil => exact fun n visits _ _ => visits
  | cons d others ih =>
    intro n visits holds fits
    rw [othersBytes_cons, List.length_append] at fits
    have size := d.length_bytes
    have here := UInt32.toNat_ofNat_of_le (show n ≤ room.toNat by omega)
    have step : Steps kind start room (UInt32.ofNat n) (UInt32.ofNat (n + d.bytes.length)) := by
      refine ⟨?_, ?_, ⟨UInt8.ofNat (d.payload.length + 2), d.bDescriptorType⟩, ?_, ?_, skips d, ?_⟩
      · rw [UInt32.lt_iff_toNat_lt, here]
        omega
      · rw [UInt32.lt_iff_toNat_lt]
        exact long
      · rw [headerAt, here]
        exact holds.header
      · rw [UInt32.le_iff_toNat_le, UInt8.toNat_toUInt32, d.toNat_bLength]
        omega
      · rw [← UInt32.toNat_inj, UInt32.toNat_add, UInt8.toNat_toUInt32, d.toNat_bLength, here,
          UInt32.toNat_ofNat']
    have beyond : (start.add (n + d.bytes.length)).Holds (othersBytes others) := by
      rw [← Ptr.add_add]
      exact holds.right
    have rest := ih (n + d.bytes.length) (visits.tail step) beyond (by omega)
    rwa [othersBytes_cons, List.length_append, ← Nat.add_assoc]

/-- A search finds its descriptor behind a row of other descriptors. -/
theorem ends_found (skips : Skips kind) (wide : 2 < kind.size.toNat)
    (others : List OtherDescriptor) {d : δ} (holds : start.Holds (othersBytes others))
    (header : (start.add (othersBytes others).length).header =
      some { bLength := kind.bLength d, bDescriptorType := kind.goal })
    (layout : kind.layout (start.add (othersBytes others).length) = some d)
    (size : (kind.bLength d).toUInt32 = kind.size)
    (fits : (othersBytes others).length + kind.size.toNat ≤ room.toNat) :
    Ends kind start room (UInt32.ofNat ((othersBytes others).length + kind.size.toNat))
      (some d) := by
  have here := UInt32.toNat_ofNat_of_le
    (show (othersBytes others).length ≤ room.toNat by omega)
  have visits : Visits kind start room (UInt32.ofNat (othersBytes others).length) := by
    have run := visits_others skips (show 2 < room.toNat by omega) others 0 .refl
      (by rwa [Ptr.add_zero]) (by omega)
    rwa [Nat.zero_add] at run
  have arrives : Arrives kind start room (UInt32.ofNat (othersBytes others).length) := by
    refine .inr ⟨?_, ?_, ⟨kind.bLength d, kind.goal⟩, ?_, ?_, rfl⟩
    · rw [UInt32.lt_iff_toNat_lt, here]
      omega
    · rw [UInt32.lt_iff_toNat_lt]
      exact (by omega : 2 < room.toNat)
    · rw [headerAt, here]
      exact header
    · rw [size, UInt32.le_iff_toNat_le]
      omega
  have nonempty : room ≠ 0 := by
    intro zero
    rw [zero, UInt32.toNat_zero] at fits
    omega
  have ends := Ends.found nonempty visits arrives (by rw [here]; exact layout) size
  rwa [size, ← @UInt32.ofNat_toNat kind.size, ← UInt32.ofNat_add] at ends

/-- A search over nothing but other descriptors reads behind the last of them. -/
theorem overruns_others (skips : Skips kind) (others : List OtherDescriptor) {bytes : List UInt8}
    {n : Nat} (long : 2 < (othersBytes others).length)
    (holds : ((Ptr.ofList bytes).add n).Holds (othersBytes others))
    (last : n + (othersBytes others).length = bytes.length)
    (whole : room.toNat = (othersBytes others).length) (sized : 0 < kind.size.toNat) :
    Overruns kind ((Ptr.ofList bytes).add n) room := by
  have visits := visits_others skips (show 2 < room.toNat by omega) others 0 .refl
    (by rwa [Ptr.add_zero]) (by omega)
  rw [Nat.zero_add] at visits
  have here := UInt32.toNat_ofNat_of_le (Nat.le_of_eq whole.symm)
  refine ⟨?_, _, visits, .inr ⟨.inl ?_, ?_⟩⟩
  · intro zero
    rw [zero, UInt32.toNat_zero] at whole
    omega
  · rw [UInt32.le_iff_toNat_le, here]
    exact Nat.le_of_eq whole
  · rw [Ptr.add_add, kind.missing, here]
    omega

end Search

end UsbManager

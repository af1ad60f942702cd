import UsbManager.Lib.Prog
import UsbManager.Device

/-!
# `usb_descriptor_parser.cpp`

The parser reads raw memory through pointers and `uint32_t` cursors.  A `Ptr`
says which byte can be read at each distance from it; a read outside is the
fault `outOfBounds`, and cursor arithmetic is that of `UInt32`, wrapping as in
the source.

`trap` switches on an instrumentation of the unsigned subtractions: with it, a
subtraction that would wrap below zero stops the run with the fault `wrapped`;
without it, it wraps silently as the compiled code does.

The structures of the external `usbd_type.h` are taken to be packed, with the
field order of the USB specification and little-endian 16-bit fields.
-/

namespace UsbManager

/-- Why a run of the parser stops without an answer. -/
inductive Fault where
  | outOfBounds
  | wrapped
  deriving DecidableEq, Repr

/-- What can be read at each distance from an address. -/
@[ext] structure Ptr where
  byte : Nat → Option UInt8

namespace Ptr

/-- `buffer + k`. -/
def add (p : Ptr) (k : Nat) : Ptr := ⟨fun i => p.byte (k + i)⟩

/-- A pointer to the first element of a byte vector. -/
def ofList (bytes : List UInt8) : Ptr := ⟨fun i => bytes[i]?⟩

/-- A little-endian 16-bit field. -/
def word (p : Ptr) (k : Nat) : Option UInt16 := do
  let low ← p.byte k
  let high ← p.byte (k + 1)
  return UInt16.ofNat (low.toNat + 256 * high.toNat)

end Ptr

/-! ## Descriptor layouts -/

/-- `DescriptorType` -/
def DESCRIPTOR_TYPE_DEVICE : UInt8 := 1

def DESCRIPTOR_TYPE_CONFIG : UInt8 := 2

def DESCRIPTOR_TYPE_INTERFACE : UInt8 := 4

def DESCRIPTOR_TYPE_ENDPOINT : UInt8 := 5

structure UsbdDescriptorHeader where
  bLength : UInt8
  bDescriptorType : UInt8
  deriving DecidableEq, Repr

structure UsbdDeviceDescriptor where
  bLength : UInt8
  bDescriptorType : UInt8
  bcdUSB : UInt16
  bDeviceClass : UInt8
  bDeviceSubClass : UInt8
  bDeviceProtocol : UInt8
  bMaxPacketSize0 : UInt8
  idVendor : UInt16
  idProduct : UInt16
  bcdDevice : UInt16
  iManufacturer : UInt8
  iProduct : UInt8
  iSerialNumber : UInt8
  bNumConfigurations : UInt8
  deriving DecidableEq, Repr

structure UsbdConfigDescriptor where
  bLength : UInt8
  bDescriptorType : UInt8
  wTotalLength : UInt16
  bNumInterfaces : UInt8
  bConfigurationValue : UInt8
  iConfiguration : UInt8
  bmAttributes : UInt8
  bMaxPower : UInt8
  deriving DecidableEq, Repr

structure UsbdInterfaceDescriptor where
  bLength : UInt8
  bDescriptorType : UInt8
  bInterfaceNumber : UInt8
  bAlternateSetting : UInt8
  bNumEndpoints : UInt8
  bInterfaceClass : UInt8
  bInterfaceSubClass : UInt8
  bInterfaceProtocol : UInt8
  iInterface : UInt8
  deriving DecidableEq, Repr

structure UsbdEndpointDescriptor where
  bLength : UInt8
  bDescriptorType : UInt8
  bEndpointAddress : UInt8
  bmAttributes : UInt8
  wMaxPacketSize : UInt16
  bInterval : UInt8
  deriving DecidableEq, Repr

/-- `sizeof(UsbdDescriptorHeader)` and so on. -/
def sizeofUsbdDescriptorHeader : UInt32 := 2

def sizeofUsbdDeviceDescriptor : UInt32 := 18

def sizeofUsbdConfigDescriptor : UInt32 := 9

def sizeofUsbdInterfaceDescriptor : UInt32 := 9

def sizeofUsbdEndpointDescriptor : UInt32 := 7

namespace Ptr

/-- `*(UsbdDescriptorHeader *)p`; each of these reads the whole structure. -/
def header (p : Ptr) : Option UsbdDescriptorHeader := do
  return { bLength := ← p.byte 0, bDescriptorType := ← p.byte 1 }

def deviceDescriptor (p : Ptr) : Option UsbdDeviceDescriptor := do
  return {
    bLength := ← p.byte 0
    bDescriptorType := ← p.byte 1
    bcdUSB := ← p.word 2
    bDeviceClass := ← p.byte 4
    bDeviceSubClass := ← p.byte 5
    bDeviceProtocol := ← p.byte 6
    bMaxPacketSize0 := ← p.byte 7
    idVendor := ← p.word 8
    idProduct := ← p.word 10
    bcdDevice := ← p.word 12
    iManufacturer := ← p.byte 14
    iProduct := ← p.byte 15
    iSerialNumber := ← p.byte 16
    bNumConfigurations := ← p.byte 17 }

def configDescriptor (p : Ptr) : Option UsbdConfigDescriptor := do
  return {
    bLength := ← p.byte 0
    bDescriptorType := ← p.byte 1
    wTotalLength := ← p.word 2
    bNumInterfaces := ← p.byte 4
    bConfigurationValue := ← p.byte 5
    iConfiguration := ← p.byte 6
    bmAttributes := ← p.byte 7
    bMaxPower := ← p.byte 8 }

def interfaceDescriptor (p : Ptr) : Option UsbdInterfaceDescriptor := do
  return {
    bLength := ← p.byte 0
    bDescriptorType := ← p.byte 1
    bInterfaceNumber := ← p.byte 2
    bAlternateSetting := ← p.byte 3
    bNumEndpoints := ← p.byte 4
    bInterfaceClass := ← p.byte 5
    bInterfaceSubClass := ← p.byte 6
    bInterfaceProtocol := ← p.byte 7
    iInterface := ← p.byte 8 }

def endpointDescriptor (p : Ptr) : Option UsbdEndpointDescriptor := do
  return {
    bLength := ← p.byte 0
    bDescriptorType := ← p.byte 1
    bEndpointAddress := ← p.byte 2
    bmAttributes := ← p.byte 3
    wMaxPacketSize := ← p.word 4
    bInterval := ← p.byte 6 }

end Ptr

/-! ### Layouts over a byte vector -/

namespace Ptr

variable (bytes : List UInt8) (k : Nat)

theorem byte_ofList_eq_none (i : Nat) :
    ((ofList bytes).add k).byte i = none ↔ bytes.length ≤ k + i := by
  simp [ofList, add]

/-- A part of a structure cannot be read, or what follows it cannot. -/
theorem forall_some_imp {α : Type} {x : Option α} {rest : Prop} :
    (∀ a, x = some a → rest) ↔ x = none ∨ rest := by
  cases x <;> simp

theorem word_ofList_eq_none (i : Nat) :
    ((ofList bytes).add k).word i = none ↔ bytes.length < k + i + 2 := by
  simp only [word, Option.bind_eq_bind, Option.bind_eq_none_iff, Option.pure_def,
    reduceCtorEq, forall_some_imp, byte_ofList_eq_none, or_false]
  omega

theorem interfaceDescriptor_eq_none :
    ((ofList bytes).add k).interfaceDescriptor = none ↔ bytes.length < k + 9 := by
  simp only [interfaceDescriptor, Option.bind_eq_bind, Option.bind_eq_none_iff, Option.pure_def,
    reduceCtorEq, forall_some_imp, byte_ofList_eq_none, or_false]
  omega

theorem configDescriptor_eq_none :
    ((ofList bytes).add k).configDescriptor = none ↔ bytes.length < k + 9 := by
  simp only [configDescriptor, Option.bind_eq_bind, Option.bind_eq_none_iff, Option.pure_def,
    reduceCtorEq, forall_some_imp, byte_ofList_eq_none, word_ofList_eq_none, or_false]
  omega

theorem endpointDescriptor_eq_none :
    ((ofList bytes).add k).endpointDescriptor = none ↔ bytes.length < k + 7 := by
  simp only [endpointDescriptor, Option.bind_eq_bind, Option.bind_eq_none_iff, Option.pure_def,
    reduceCtorEq, forall_some_imp, byte_ofList_eq_none, word_ofList_eq_none, or_false]
  omega

theorem header_eq_none :
    ((ofList bytes).add k).header = none ↔ bytes.length < k + 2 := by
  simp only [header, Option.bind_eq_bind, Option.bind_eq_none_iff, Option.pure_def,
    reduceCtorEq, forall_some_imp, byte_ofList_eq_none, or_false]
  omega

/-- A structure is missing where its first field is, or what follows that is. -/
theorem bind_eq_none {α β : Type} {x : Option α} {f : α → Option β} {first rest : Prop}
    (missing : x = none ↔ first) (later : ∀ a, f a = none ↔ rest) :
    (x >>= f) = none ↔ first ∨ rest := by
  cases x with
  | none => exact iff_of_true rfl (.inl (missing.mp rfl))
  | some a =>
    have present : ¬ first := fun absent => nomatch missing.mpr absent
    exact (later a).trans (or_iff_right present).symm

theorem deviceDescriptor_eq_none :
    ((ofList bytes).add k).deviceDescriptor = none ↔ bytes.length < k + 18 := by
  apply Iff.trans
  · iterate 2 (apply bind_eq_none (byte_ofList_eq_none bytes k _); intro _)
    apply bind_eq_none (word_ofList_eq_none bytes k _); intro _
    iterate 4 (apply bind_eq_none (byte_ofList_eq_none bytes k _); intro _)
    iterate 3 (apply bind_eq_none (word_ofList_eq_none bytes k _); intro _)
    iterate 4 (apply bind_eq_none (byte_ofList_eq_none bytes k _); intro _)
    exact iff_of_false nofun not_false
  · rw [or_false]
    omega

end Ptr

/-! ## The parser -/

namespace UsbDescriptorParser

/-- Read a structure, faulting where a byte of it lies outside. -/
def read {α : Type} (value : Option α) : Prog Fault α := Prog.getOr .outOfBounds value

/-- `a - b` on `uint32_t`. -/
def sub (trap : Bool) (a b : UInt32) : Prog Fault UInt32 :=
  if trap && a < b then Prog.throw .wrapped else pure (a - b)

/-- The setters `ParseDeviceDescriptor` calls; `bDeviceProtocol` is not among
what it stores. -/
def setDevice (dev : UsbDevice) (deviceDescriptor : UsbdDeviceDescriptor) : UsbDevice :=
  { dev with
    vendorId := int32OfWord deviceDescriptor.idVendor
    productId := int32OfWord deviceDescriptor.idProduct
    klass := int32OfByte deviceDescriptor.bDeviceClass
    subClass := int32OfByte deviceDescriptor.bDeviceSubClass
    descConfigCount := deviceDescriptor.bNumConfigurations
    bMaxPacketSize0 := deviceDescriptor.bMaxPacketSize0
    bcdDevice := deviceDescriptor.bcdDevice
    bcdUSB := deviceDescriptor.bcdUSB
    iManufacturer := deviceDescriptor.iManufacturer
    iProduct := deviceDescriptor.iProduct
    iSerialNumber := deviceDescriptor.iSerialNumber }

/-- `ParseDeviceDescriptor`: the error code and the device as it was left. -/
def parseDeviceDescriptor (buffer : Option Ptr) (length : UInt32) (dev : UsbDevice) :
    Prog Fault (Uec × UsbDevice) :=
  match buffer with
  | none => pure (.UEC_SERVICE_INVALID_VALUE, dev)
  | some buffer =>
    if length = 0 then pure (.UEC_SERVICE_INVALID_VALUE, dev)
    else if length < sizeofUsbdDeviceDescriptor then pure (.UEC_SERVICE_INVALID_VALUE, dev)
    else do
      let deviceDescriptor ← read buffer.deviceDescriptor
      if deviceDescriptor.bLength.toUInt32 ≠ sizeofUsbdDeviceDescriptor then
        pure (.UEC_SERVICE_INVALID_VALUE, dev)
      else pure (.UEC_OK, setDevice dev deviceDescriptor)

/-- How a skip loop ends: by the `return` of a failed check, or by its `break`
or its condition. -/
inductive Skip where
  | refused (cursor : UInt32)
  | reached (cursor : UInt32)
  deriving DecidableEq, Repr

/-- One pass of the skip loop of `ParseInterfaceDescriptor` and
`ParseEndpointDescriptor`, which differ in the type they look for. -/
def skipPass (goal : UInt8) (buffer : Ptr) (length : UInt32) (cursor : UInt32) :
    Prog Fault (Pass UInt32 Skip) :=
  if cursor < length then
    if sizeofUsbdDescriptorHeader ≥ length then pure (.done (.refused cursor))
    else do
      let descriptorHeader ← read (buffer.add cursor.toNat).header
      if descriptorHeader.bLength.toUInt32 > length then pure (.done (.refused cursor))
      else if descriptorHeader.bDescriptorType = goal then pure (.done (.reached cursor))
      else pure (.next (cursor + descriptorHeader.bLength.toUInt32))
  else pure (.done (.reached cursor))

/-- The skip loop from a cursor on. -/
def skipTo (goal : UInt8) (buffer : Ptr) (length cursor : UInt32) : Prog Fault Skip :=
  Prog.loop (skipPass goal buffer length) cursor

/-- The four setters `ParseEndpointDescriptor` calls. -/
def setEndpoint (ep : USBEndpoint) (endpointDescriptor : UsbdEndpointDescriptor) : USBEndpoint :=
  { ep with
    address := endpointDescriptor.bEndpointAddress.toUInt32
    attributes := endpointDescriptor.bmAttributes.toUInt32
    interval := int32OfByte endpointDescriptor.bInterval
    maxPacketSize := int32OfWord endpointDescriptor.wMaxPacketSize }

/-- `ParseEndpointDescriptor`: the error code, the cursor and the endpoint as
they were left. -/
def parseEndpointDescriptor (buffer : Option Ptr) (length cursor : UInt32) (ep : USBEndpoint) :
    Prog Fault (Uec × UInt32 × USBEndpoint) :=
  match buffer with
  | none => pure (.UEC_SERVICE_INVALID_VALUE, cursor, ep)
  | some buffer =>
    if length = 0 then pure (.UEC_SERVICE_INVALID_VALUE, cursor, ep)
    else do
      match ← skipTo DESCRIPTOR_TYPE_ENDPOINT buffer length cursor with
      | .refused cursor => pure (.UEC_SERVICE_INVALID_VALUE, cursor, ep)
      | .reached cursor =>
        let endpointDescriptor ← read (buffer.add cursor.toNat).endpointDescriptor
        if endpointDescriptor.bLength.toUInt32 ≠ sizeofUsbdEndpointDescriptor then
          pure (.UEC_SERVICE_INVALID_VALUE, cursor, ep)
        else
          pure (.UEC_OK, cursor + endpointDescriptor.bLength.toUInt32,
            setEndpoint ep endpointDescriptor)

/-- The variables of the endpoint loop. -/
structure EndpointLoop where
  j : Int
  cursor : UInt32
  eps : List USBEndpoint
  deriving DecidableEq, Repr

/-- One pass of the endpoint loop of `ParseInterfaceDescriptor`.  The result
code of the endpoint parse is ignored. -/
def endpointPass (trap : Bool) (buffer : Ptr) (length : UInt32)
    (interfaceDescriptor : UsbdInterfaceDescriptor) (st : EndpointLoop) :
    Prog Fault (Pass EndpointLoop EndpointLoop) :=
  if st.j < interfaceDescriptor.bNumEndpoints.toNat then do
    let epCursor : UInt32 := 0
    let rest ← sub trap length st.cursor
    let rest ← sub trap rest epCursor
    let (_, epCursor, ep) ← parseEndpointDescriptor
      (some ((buffer.add st.cursor.toNat).add epCursor.toNat)) rest epCursor {}
    let ep := { ep with interfaceId := interfaceDescriptor.bInterfaceNumber }
    pure (.next { j := st.j + 1, cursor := st.cursor + epCursor, eps := st.eps ++ [ep] })
  else pure (.done st)

/-- The six setters `ParseInterfaceDescriptor` calls. -/
def setInterface (interface : UsbInterface) (interfaceDescriptor : UsbdInterfaceDescriptor) :
    UsbInterface :=
  { interface with
    id := int32OfByte interfaceDescriptor.bInterfaceNumber
    protocol := int32OfByte interfaceDescriptor.bInterfaceProtocol
    alternateSetting := int32OfByte interfaceDescriptor.bAlternateSetting
    klass := int32OfByte interfaceDescriptor.bInterfaceClass
    subClass := int32OfByte interfaceDescriptor.bInterfaceSubClass
    iInterface := interfaceDescriptor.iInterface }

/-- `ParseInterfaceDescriptor` -/
def parseInterfaceDescriptor (trap : Bool) (buffer : Option Ptr) (length cursor : UInt32)
    (interface : UsbInterface) : Prog Fault (Uec × UInt32 × UsbInterface) :=
  match buffer with
  | none => pure (.UEC_SERVICE_INVALID_VALUE, cursor, interface)
  | some buffer =>
    if length = 0 then pure (.UEC_SERVICE_INVALID_VALUE, cursor, interface)
    else do
      match ← skipTo DESCRIPTOR_TYPE_INTERFACE buffer length cursor with
      | .refused cursor => pure (.UEC_SERVICE_INVALID_VALUE, cursor, interface)
      | .reached cursor =>
        let interfaceDescriptor ← read (buffer.add cursor.toNat).interfaceDescriptor
        if interfaceDescriptor.bLength.toUInt32 ≠ sizeofUsbdInterfaceDescriptor then
          pure (.UEC_SERVICE_INVALID_VALUE, cursor, interface)
        else do
          let st ← Prog.loop (endpointPass trap buffer length interfaceDescriptor)
            { j := 0, cursor := cursor + interfaceDescriptor.bLength.toUInt32, eps := [] }
          pure (.UEC_OK, st.cursor,
            { setInterface interface interfaceDescriptor with endpoints := st.eps })

/-- The variables of the interface loop. -/
structure InterfaceLoop where
  i : Int
  cursor : UInt32
  interfaces : List UsbInterface
  deriving DecidableEq, Repr

/-- One pass of the interface loop of `ParseConfigDescriptor`.  An interface
without endpoints is dropped and its pass does not count (`--i`). -/
def interfacePass (trap : Bool) (buffer : Ptr) (length : UInt32)
    (configDescriptor : UsbdConfigDescriptor) (st : InterfaceLoop) :
    Prog Fault (Pass InterfaceLoop InterfaceLoop) :=
  if st.i < configDescriptor.bNumInterfaces.toNat ∧ st.cursor < length then do
    let interfaceCursor : UInt32 := 0
    let rest ← sub trap length st.cursor
    let rest ← sub trap rest interfaceCursor
    let (_, interfaceCursor, interface) ← parseInterfaceDescriptor trap
      (some ((buffer.add st.cursor.toNat).add interfaceCursor.toNat)) rest interfaceCursor {}
    if interface.getEndpointCount > 0 then
      pure (.next {
        i := st.i + 1
        cursor := st.cursor + interfaceCursor
        interfaces := st.interfaces ++ [interface] })
    else
      -- retry: `--i` here and `++i` at the end of the pass
      pure (.next { st with i := st.i - 1 + 1, cursor := st.cursor + interfaceCursor })
  else pure (.done st)

/-- `ParseConfigDescriptor` -/
def parseConfigDescriptor (trap : Bool) (buffer : Option Ptr) (length cursor : UInt32)
    (config : USBConfig) : Prog Fault (Uec × UInt32 × USBConfig) :=
  match buffer with
  | none => pure (.UEC_SERVICE_INVALID_VALUE, cursor, config)
  | some buffer =>
    if length = 0 then pure (.UEC_SERVICE_INVALID_VALUE, cursor, config)
    else if length < sizeofUsbdConfigDescriptor then
      pure (.UEC_SERVICE_INVALID_VALUE, cursor, config)
    else do
      let configDescriptor ← read buffer.configDescriptor
      let cursor := cursor + sizeofUsbdConfigDescriptor
      if configDescriptor.bLength.toUInt32 ≠ sizeofUsbdConfigDescriptor then
        pure (.UEC_SERVICE_INVALID_VALUE, cursor, config)
      else do
        let st ← Prog.loop (interfacePass trap buffer length configDescriptor)
          { i := 0, cursor := cursor, interfaces := [] }
        pure (.UEC_OK, st.cursor, { config with
          id := int32OfByte configDescriptor.bConfigurationValue
          attributes := configDescriptor.bmAttributes.toUInt32
          maxPower := int32OfByte configDescriptor.bMaxPower
          iConfiguration := configDescriptor.iConfiguration
          interfaces := st.interfaces })

end UsbDescriptorParser

end UsbManager

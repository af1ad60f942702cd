import UsbManager.Lib.Table
import UsbManager.Lib.Unicode
import UsbManager.Service

/-!
# The strings of a device

`FillDevStrings` reads a string for each index in the tree of a device and changes
nothing else (`fillDevStrings_named`).  `GetDevStringValFromIdx` takes a string
descriptor through a temporary array of 16-bit units, which it reads as characters
of four bytes.  It yields the text of the descriptor in UTF-8 exactly if all of it
is ASCII (`decodes_iff`).
-/

namespace UsbManager

namespace UsbService

variable (usbd : Usbd) (busNum devAddr : UInt8)

/-! ## Which strings are read -/

/-- What `GetDevStringValFromIdx` makes of an answer. -/
def stringOfReply (reply : Reply) : String :=
  let strV := reply.bufferData
  let length := UInt32.ofNat strV.length
  if reply.ret ≠ .UEC_OK then " "
  else if length < DESCRIPTOR_VALUE_START_OFFSET ∨ strV.getD 1 0 ≠ DESCRIPTOR_TYPE_STRING then " "
  else stringOfDescriptor strV length

/-- The calls for these indices: none for the index 0. -/
def stringCalls (uDev : UsbDev) (indices : List UInt8) : List UsbdCall :=
  (indices.filter (· ≠ 0)).map (.GetStringDescriptor uDev)

/-- The string read for an index, where strings were `asked` for before. -/
def stringRead (uDev : UsbDev) (calls : List UsbdCall) (asked : List UInt8) (idx : UInt8) :
    String :=
  if idx = 0 then " "
  else stringOfReply (usbd.answer (calls ++ stringCalls uDev asked) (.GetStringDescriptor uDev idx))

end UsbService

/-- The indices in a configuration, in the order in which their strings are read. -/
def USBConfig.indices (config : USBConfig) : List UInt8 :=
  config.iConfiguration :: config.interfaces.map UsbInterface.iInterface

def UsbDevice.indices (dev : UsbDevice) : List UInt8 :=
  [dev.iManufacturer, dev.iProduct, dev.iSerialNumber] ++ dev.configs.flatMap USBConfig.indices

section Named

/- `read asked idx` is the string for `idx` where strings were `asked` for before. -/
variable (read : List UInt8 → UInt8 → String)

/-- The configuration with the names read for it and its interfaces. -/
def USBConfig.named (config : USBConfig) : USBConfig :=
  { config with
    name := read [] config.iConfiguration
    interfaces := config.interfaces.mapIdx fun j interface =>
      { interface with name := read (config.indices.take (j + 1)) interface.iInterface } }

/-- The device with its version and the strings read for it. -/
def UsbDevice.named (dev : UsbDevice) : UsbDevice :=
  { dev with
    version := UsbService.bcdToString
      [(dev.bcdDevice &&& 0xff).toUInt8, ((dev.bcdDevice >>> 8) &&& 0xff).toUInt8]
    manufacturerName := read [] dev.iManufacturer
    productName := read [dev.iManufacturer] dev.iProduct
    serial := read [dev.iManufacturer, dev.iProduct] dev.iSerialNumber
    configs := dev.configs.mapIdx fun i config =>
      config.named fun asked => read (({ dev with configs := dev.configs.take i }).indices ++ asked) }

end Named

namespace UsbService

section Strings

variable {usbd : Usbd} {busNum devAddr : UInt8}

theorem stringCalls_append (uDev : UsbDev) (indices indices' : List UInt8) :
    stringCalls uDev (indices ++ indices') =
      stringCalls uDev indices ++ stringCalls uDev indices' := by
  unfold stringCalls
  rw [List.filter_append, List.map_append]

/-- Strings asked for earlier count as asked for before. -/
theorem stringRead_append (uDev : UsbDev) (calls : List UsbdCall) (before asked : List UInt8) :
    stringRead usbd uDev (calls ++ stringCalls uDev before) asked =
      stringRead usbd uDev calls (before ++ asked) := by
  funext idx
  unfold stringRead
  rw [stringCalls_append, List.append_assoc]

/-- `GetDevStringValFromIdx` behind its call. -/
theorem answered_eq (reply : Reply) (w : World) :
    (if reply.ret ≠ .UEC_OK then (" ", w)
      else if UInt32.ofNat reply.bufferData.length < DESCRIPTOR_VALUE_START_OFFSET ∨
          reply.bufferData.getD 1 0 ≠ DESCRIPTOR_TYPE_STRING then (" ", w)
      else (stringOfDescriptor reply.bufferData (UInt32.ofNat reply.bufferData.length), w)) =
      (stringOfReply reply, w) := by
  unfold stringOfReply
  by_cases failed : reply.ret ≠ .UEC_OK
  · rw [if_pos failed, if_pos failed]
  · rw [if_neg failed, if_neg failed]
    split <;> rfl

theorem getDevStringValFromIdx_eq (usbd : Usbd) (busNum devAddr idx : UInt8) (w : World) :
    getDevStringValFromIdx usbd busNum devAddr idx w =
      (stringRead usbd ⟨busNum, devAddr⟩ w.calls [] idx,
        { w with calls := w.calls ++ stringCalls ⟨busNum, devAddr⟩ [idx] }) := by
  unfold getDevStringValFromIdx stringRead
  by_cases zero : idx = 0
  · subst zero
    change _ = (" ", { w with calls := w.calls ++ [] })
    rw [List.append_nil]
    rfl
  · have one : stringCalls ⟨busNum, devAddr⟩ [idx] =
        [.GetStringDescriptor ⟨busNum, devAddr⟩ idx] := by
      simp [stringCalls, zero]
    have none : stringCalls ⟨busNum, devAddr⟩ [] = [] := rfl
    rw [if_neg zero, if_neg zero, one, none, List.append_nil]
    exact answered_eq _ _

/-- Each interface is named after its own index. -/
theorem fillInterfaceNames_eq (interfaces : List UsbInterface) :
    ∀ w, fillInterfaceNames usbd busNum devAddr interfaces w =
      (interfaces.mapIdx fun j interface =>
        { interface with
          name := stringRead usbd ⟨busNum, devAddr⟩ w.calls
            ((interfaces.map UsbInterface.iInterface).take j) interface.iInterface },
        { w with calls := w.calls ++
          stringCalls ⟨busNum, devAddr⟩ (interfaces.map UsbInterface.iInterface) }) := by
  induction interfaces with
  | nil =>
    intro w
    change _ = (_, { w with calls := w.calls ++ [] })
    rw [List.append_nil]
    rfl
  | cons interface interfaces ih =>
    intro w
    have whole : interface.iInterface :: interfaces.map UsbInterface.iInterface =
        [interface.iInterface] ++ interfaces.map UsbInterface.iInterface := rfl
    simp only [fillInterfaceNames, getDevStringValFromIdx_eq, ih, List.mapIdx_cons, List.map_cons,
      stringRead_append, List.take_succ_cons, List.take_zero]
    rw [whole, stringCalls_append, List.append_assoc]
    rfl

/-- Each configuration is named after its own index, and its interfaces after theirs. -/
theorem fillConfigNames_eq (configs : List USBConfig) :
    ∀ w, fillConfigNames usbd busNum devAddr configs w =
      (configs.mapIdx fun i config =>
        config.named fun asked => stringRead usbd ⟨busNum, devAddr⟩ w.calls
          ((configs.take i).flatMap USBConfig.indices ++ asked),
        { w with calls := w.calls ++
          stringCalls ⟨busNum, devAddr⟩ (configs.flatMap USBConfig.indices) }) := by
  induction configs with
  | nil =>
    intro w
    change _ = (_, { w with calls := w.calls ++ [] })
    rw [List.append_nil]
    rfl
  | cons config configs ih =>
    intro w
    have whole : config.indices =
        [config.iConfiguration] ++ config.interfaces.map UsbInterface.iInterface := rfl
    simp only [fillConfigNames, getDevStringValFromIdx_eq, fillInterfaceNames_eq, ih,
      List.mapIdx_cons, List.flatMap_cons, stringRead_append, List.take_succ_cons]
    have calls : w.calls ++ stringCalls ⟨busNum, devAddr⟩ [config.iConfiguration] ++
        stringCalls ⟨busNum, devAddr⟩ (config.interfaces.map UsbInterface.iInterface) =
        w.calls ++ stringCalls ⟨busNum, devAddr⟩ config.indices := by
      rw [whole, stringCalls_append, List.append_assoc]
    rw [calls, stringCalls_append, List.append_assoc]
    simp only [List.append_assoc]
    rfl

end Strings

/-- `FillDevStrings` reads the string for each index of the device and changes nothing but
the version and the names. -/
theorem fillDevStrings_named (usbd : Usbd) (dev : UsbDevice) (w : World) :
    fillDevStrings usbd dev w =
      ((.UEC_OK, dev.named (stringRead usbd ⟨dev.busNum, dev.devAddr⟩ w.calls)),
        { w with calls := w.calls ++ stringCalls ⟨dev.busNum, dev.devAddr⟩ dev.indices }) := by
  unfold fillDevStrings
  simp only [getDevStringValFromIdx_eq, fillConfigNames_eq, stringRead_append, List.append_assoc,
    ← stringCalls_append]
  rfl

/-! ## The temporary array -/

def HALF : UInt32 := 2

/-- `tbuf`: zeros first, then each byte of the string in an element of its own.  None
where an element is used that is not there. -/
def temporaryBuffer (strV : List UInt8) (length : UInt32) : Option (List UInt16) :=
  (List.range (length - DESCRIPTOR_VALUE_START_OFFSET).toNat).foldlM (fun tbuf i => do
    let b ← strV[i + DESCRIPTOR_VALUE_START_OFFSET.toNat]?
    if i < tbuf.length then some (tbuf.set i b.toUInt16) else none)
    (List.replicate (length + 1).toNat 0)

/-- An element of the array as characters of four bytes, the low half first. -/
def wideChar (tbuf : List UInt16) (j : Nat) : Option UInt32 := do
  let low ← tbuf[2 * j]?
  let high ← tbuf[2 * j + 1]?
  some (low.toUInt32 ||| high.toUInt32 <<< 16)

/-- The bytes as `std::string`. -/
def stringOfBytes (bytes : List UInt8) : String :=
  String.ofList (bytes.map fun b => Char.ofNat b.toNat)

/-- The string of a string descriptor by way of the array. -/
def stringByBuffer (strV : List UInt8) (length : UInt32) : Option String := do
  let tbuf ← temporaryBuffer strV length
  let wstr ← (List.range ((length - DESCRIPTOR_VALUE_START_OFFSET) / HALF).toNat).mapM
    (wideChar tbuf)
  some (stringOfBytes (wstr.map UInt32.toUInt8))

/-- `GetDevStringValFromIdx` with its array. -/
def getDevStringValByBuffer (usbd : Usbd) (busNum devAddr idx : UInt8) (w : World) :
    Option String × World :=
  if idx = 0 then (some " ", w)
  else
    let (reply, w) := w.call usbd (.GetStringDescriptor ⟨busNum, devAddr⟩ idx)
    if reply.ret ≠ .UEC_OK then (some " ", w)
    else
      let strV := reply.bufferData
      let length := UInt32.ofNat strV.length
      if length < DESCRIPTOR_VALUE_START_OFFSET ∨ strV.getD 1 0 ≠ DESCRIPTOR_TYPE_STRING then
        (some " ", w)
      else (stringByBuffer strV length, w)

section Buffer

variable {usbd : Usbd} {busNum devAddr : UInt8} {strV : List UInt8} {length : UInt32}

/-- The array after `n` passes of its loop. -/
theorem temporaryBuffer_passes (strV : List UInt8) (size : Nat) :
    ∀ n, n + 2 ≤ strV.length → n ≤ size →
      (List.range n).foldlM (fun tbuf i => do
        let b ← strV[i + DESCRIPTOR_VALUE_START_OFFSET.toNat]?
        if i < tbuf.length then some (tbuf.set i b.toUInt16) else none)
        (List.replicate size (0 : UInt16)) =
      some ((((strV.drop 2).take n).map UInt8.toUInt16) ++ List.replicate (size - n) 0) := by
  intro n
  induction n with
  | zero => exact fun _ _ => rfl
  | succ n ih =>
    intro there room
    have two : DESCRIPTOR_VALUE_START_OFFSET.toNat = 2 := rfl
    have byte : strV[n + 2]? = some strV[n + 2] := List.getElem?_eq_getElem (by omega)
    have long : n < (strV.drop 2).length := by
      rw [List.length_drop]
      omega
    have front : ((strV.drop 2).take n).length = n := by
      rw [List.length_take]
      omega
    rw [List.range_succ, List.foldlM_append, ih (by omega) (by omega)]
    simp only [Option.bind_eq_bind, Option.bind_some, List.foldlM_cons, List.foldlM_nil, two, byte]
    have inside : n < (((strV.drop 2).take n).map UInt8.toUInt16 ++
        List.replicate (size - n) 0).length := by
      simp only [List.length_append, List.length_map, front, List.length_replicate]
      omega
    obtain ⟨rest, left⟩ : ∃ rest, size - n = rest + 1 := ⟨size - n - 1, by omega⟩
    have left' : size - (n + 1) = rest := by omega
    have more : (strV.drop 2).take (n + 1) = (strV.drop 2).take n ++ [strV[n + 2]] := by
      rw [List.take_add_one, List.getElem?_drop, Nat.add_comm 2 n, byte]
      rfl
    rw [if_pos inside, List.set_append_right _ _ (by rw [List.length_map, front]),
      List.length_map, front, Nat.sub_self, left, left', List.replicate_succ, List.set_cons_zero,
      more, List.map_append, List.append_assoc]
    rfl

/-- A byte read as the low half of a character and cut to a byte again. -/
theorem toUInt8_wide (low high : UInt8) :
    (low.toUInt16.toUInt32 ||| high.toUInt16.toUInt32 <<< 16).toUInt8 = low := by
  apply UInt8.toBitVec_inj.mp
  ext i
  simp

/-- The characters read from the array are those of every second byte, and all of them
lie inside it. -/
theorem wideChar_eq {size j : Nat} (inside : 2 * j + 1 < size) (there : size + 2 ≤ strV.length)
    (zeros : List UInt16) :
    wideChar (((strV.drop 2).take size).map UInt8.toUInt16 ++ zeros) j =
      some ((strV.getD (2 * j + 2) 0).toUInt16.toUInt32 |||
        (strV.getD (2 * j + 3) 0).toUInt16.toUInt32 <<< 16) := by
  have element : ∀ k, k < size →
      (((strV.drop 2).take size).map UInt8.toUInt16 ++ zeros)[k]? =
        some (strV.getD (k + 2) 0).toUInt16 := by
    intro k below
    have front : k < ((strV.drop 2).take size).length := by
      rw [List.length_take, List.length_drop]
      omega
    rw [List.getElem?_append_left (by rwa [List.length_map]), List.getElem?_map,
      List.getElem?_take_of_lt below, List.getElem?_drop, Nat.add_comm 2 k,
      List.getElem?_eq_getElem (by omega), List.getD_eq_getElem _ _ (by omega)]
    rfl
  unfold wideChar
  rw [element (2 * j) (by omega), element (2 * j + 1) inside]
  rfl

/-- By way of the array the string is the one of `stringOfDescriptor`. -/
theorem stringByBuffer_eq (two : DESCRIPTOR_VALUE_START_OFFSET ≤ length)
    (fits : length.toNat + 1 < 4294967296) (there : length.toNat ≤ strV.length) :
    stringByBuffer strV length = some (stringOfDescriptor strV length) := by
  have offset : DESCRIPTOR_VALUE_START_OFFSET.toNat = 2 := rfl
  have half : HALF.toNat = 2 := rfl
  have long := UInt32.le_iff_toNat_le.mp two
  have payload : (length - DESCRIPTOR_VALUE_START_OFFSET).toNat = length.toNat - 2 :=
    UInt32.toNat_sub_of_le _ _ two
  have room : (length + 1).toNat = length.toNat + 1 := by
    rw [UInt32.toNat_add]
    exact Nat.mod_eq_of_lt fits
  have filled : temporaryBuffer strV length =
      some (((strV.drop 2).take (length.toNat - 2)).map UInt8.toUInt16 ++
        List.replicate (length.toNat + 1 - (length.toNat - 2)) 0) := by
    unfold temporaryBuffer
    rw [payload, room]
    exact temporaryBuffer_passes strV _ _ (by omega) (by omega)
  have each : ∀ j ∈ List.range ((length.toNat - 2) / 2),
      wideChar (((strV.drop 2).take (length.toNat - 2)).map UInt8.toUInt16 ++
        List.replicate (length.toNat + 1 - (length.toNat - 2)) 0) j =
      some ((strV.getD (2 * j + 2) 0).toUInt16.toUInt32 |||
        (strV.getD (2 * j + 3) 0).toUInt16.toUInt32 <<< 16) := by
    intro j below
    have inside := List.mem_range.mp below
    exact wideChar_eq (by omega) (by omega) _
  unfold stringByBuffer
  rw [filled, UInt32.toNat_div, payload, half]
  simp only [Option.bind_eq_bind, Option.bind_some]
  rw [Table.mapM_eq_map each, Option.bind_some]
  unfold stringOfDescriptor stringOfBytes
  simp only [payload, offset, List.map_map]
  congr 2
  apply List.map_congr_left
  intro j _
  exact congrArg (fun b : UInt8 => Char.ofNat b.toNat) (toUInt8_wide _ _)

/-- The array takes any descriptor, save one whose length is the largest there is. -/
theorem getDevStringValByBuffer_eq {reply : Reply} {idx : UInt8} {w : World}
    (known : (w.call usbd (.GetStringDescriptor ⟨busNum, devAddr⟩ idx)).1 = reply)
    (fits : (UInt32.ofNat reply.bufferData.length).toNat + 1 < 4294967296) :
    (getDevStringValByBuffer usbd busNum devAddr idx w).1 =
      some (getDevStringValFromIdx usbd busNum devAddr idx w).1 := by
  unfold getDevStringValByBuffer getDevStringValFromIdx
  by_cases zero : idx = 0
  · rw [if_pos zero, if_pos zero]
  rw [if_neg zero, if_neg zero]
  dsimp only
  rw [known]
  by_cases failed : reply.ret ≠ .UEC_OK
  · rw [if_pos failed, if_pos failed]
  rw [if_neg failed, if_neg failed]
  by_cases other : UInt32.ofNat reply.bufferData.length < DESCRIPTOR_VALUE_START_OFFSET ∨
      reply.bufferData.getD 1 0 ≠ DESCRIPTOR_TYPE_STRING
  · rw [if_pos other, if_pos other]
  · rw [if_neg other, if_neg other]
    have long := UInt32.not_lt.mp (not_or.mp other).1
    refine stringByBuffer_eq long fits ?_
    rw [UInt32.toNat_ofNat']
    exact Nat.mod_le _ _

end Buffer

/-! ## Texts -/

section Texts

variable {text : List Char} {idx : UInt8} {w : World}

theorem stringOfBytes_inj {bytes bytes' : List UInt8} :
    stringOfBytes bytes = stringOfBytes bytes' ↔ bytes = bytes' := by
  constructor
  · intro same
    have chars := String.ofList_injective same
    refine List.map_injective_iff.mpr (fun b b' same => ?_) chars
    have code := congrArg Char.toNat same
    have small := b.toNat_lt
    have small' := b'.toNat_lt
    rw [Char.toNat_ofNat, Char.toNat_ofNat, if_pos (.inl (by omega)),
      if_pos (.inl (by omega))] at code
    exact UInt8.toNat_inj.mp code
  · exact congrArg stringOfBytes

/-- usbd answers with a string descriptor for this text. -/
def Describes (usbd : Usbd) (uDev : UsbDev) (idx : UInt8) (w : World) (text : List Char) : Prop :=
  idx ≠ 0 ∧ ∃ bLength, (w.call usbd (.GetStringDescriptor uDev idx)).1.ret = .UEC_OK ∧
    (w.call usbd (.GetStringDescriptor uDev idx)).1.bufferData =
      bLength :: DESCRIPTOR_TYPE_STRING :: Unicode.utf16le text

/-- What is decoded of a string descriptor are low bytes of its units. -/
theorem stringOfDescriptor_utf16le (bLength bDescriptorType : UInt8) (text : List Char)
    (length : UInt32)
    (inside : (length - DESCRIPTOR_VALUE_START_OFFSET).toNat / 2 ≤ (Unicode.units text).length) :
    stringOfDescriptor (bLength :: bDescriptorType :: Unicode.utf16le text) length =
      stringOfBytes ((Unicode.lowBytes text).take
        ((length - DESCRIPTOR_VALUE_START_OFFSET).toNat / 2)) := by
  have offset : DESCRIPTOR_VALUE_START_OFFSET.toNat = 2 := rfl
  unfold stringOfDescriptor stringOfBytes
  dsimp only
  rw [offset]
  congr 1
  apply List.ext_getElem?
  intro j
  rw [List.getElem?_map, List.getElem?_map]
  by_cases below : j < (length - DESCRIPTOR_VALUE_START_OFFSET).toNat / 2
  · have byte : (Unicode.utf16le text)[2 * j]? = (Unicode.lowBytes text)[j]? :=
      Unicode.getElem?_flatMap_littleEndian _ j
    have there : j < (Unicode.lowBytes text).length := by
      rw [Unicode.length_lowBytes]
      omega
    have second : (bLength :: bDescriptorType :: Unicode.utf16le text).getD (2 * j + 2) 0 =
        (Unicode.lowBytes text)[j] := by
      rw [List.getD_cons_succ, List.getD_cons_succ, List.getD_eq_getElem?_getD, byte,
        List.getElem?_eq_getElem there]
      rfl
    rw [List.getElem?_range below, List.getElem?_take_of_lt below,
      List.getElem?_eq_getElem there]
    exact congrArg (fun b : UInt8 => some (Char.ofNat b.toNat)) second
  · have left : (List.range ((length - DESCRIPTOR_VALUE_START_OFFSET).toNat / 2))[j]? = none := by
      rw [List.getElem?_eq_none_iff, List.length_range]
      omega
    have right : ((Unicode.lowBytes text).take
        ((length - DESCRIPTOR_VALUE_START_OFFSET).toNat / 2))[j]? = none := by
      rw [List.getElem?_eq_none_iff, List.length_take]
      omega
    rw [left, right]
    rfl

/-- What is read of a string descriptor. -/
theorem decoded_eq (described : Describes usbd ⟨busNum, devAddr⟩ idx w text) :
    ∃ bLength, (getDevStringValFromIdx usbd busNum devAddr idx w).1 =
      if UInt32.ofNat (2 + (Unicode.utf16le text).length) < DESCRIPTOR_VALUE_START_OFFSET then " "
      else stringOfDescriptor (bLength :: DESCRIPTOR_TYPE_STRING :: Unicode.utf16le text)
        (UInt32.ofNat (2 + (Unicode.utf16le text).length)) := by
  obtain ⟨nonzero, bLength, ok, data⟩ := described
  refine ⟨bLength, ?_⟩
  have size : (bLength :: DESCRIPTOR_TYPE_STRING :: Unicode.utf16le text).length =
      2 + (Unicode.utf16le text).length := Nat.add_comm _ 2
  have right : ¬ (bLength :: DESCRIPTOR_TYPE_STRING :: Unicode.utf16le text).getD 1 0 ≠
      DESCRIPTOR_TYPE_STRING := not_not.mpr rfl
  unfold getDevStringValFromIdx
  rw [if_neg nonzero]
  dsimp only
  rw [if_neg (not_not.mpr ok), data, size]
  simp only [right, or_false]
  split <;> rfl

theorem toNat_size_utf16le (text : List Char) :
    (UInt32.ofNat (2 + (Unicode.utf16le text).length)).toNat =
      (2 + 2 * (Unicode.units text).length) % 4294967296 := by
  rw [UInt32.toNat_ofNat', Unicode.length_utf16le]

/-- A descriptor whose length does not fit in 32 bits is decoded to fewer bytes than its
text has units. -/
theorem decoded_long (described : Describes usbd ⟨busNum, devAddr⟩ idx w text)
    (long : ¬ 2 + (Unicode.utf16le text).length < 4294967296) :
    ∃ bytes, (getDevStringValFromIdx usbd busNum devAddr idx w).1 = stringOfBytes bytes ∧
      bytes.length < (Unicode.units text).length := by
  obtain ⟨bLength, decoded⟩ := decoded_eq described
  have size := toNat_size_utf16le text
  have offset : DESCRIPTOR_VALUE_START_OFFSET.toNat = 2 := rfl
  rw [Unicode.length_utf16le] at long
  rw [decoded]
  by_cases empty : UInt32.ofNat (2 + (Unicode.utf16le text).length) < DESCRIPTOR_VALUE_START_OFFSET
  · rw [if_pos empty]
    refine ⟨[32], by decide, ?_⟩
    change 1 < _
    omega
  · have two := UInt32.not_lt.mp empty
    have enough := UInt32.le_iff_toNat_le.mp two
    have payload := UInt32.toNat_sub_of_le _ _ two
    have few : (UInt32.ofNat (2 + (Unicode.utf16le text).length) -
        DESCRIPTOR_VALUE_START_OFFSET).toNat / 2 < (Unicode.units text).length := by
      rw [payload, size, offset]
      omega
    rw [if_neg empty, stringOfDescriptor_utf16le _ _ _ _ (Nat.le_of_lt few)]
    refine ⟨_, rfl, lt_of_le_of_lt ?_ few⟩
    rw [List.length_take]
    exact Nat.min_le_left _ _

/-- Any other is decoded to the low bytes of the units. -/
theorem decoded_short (described : Describes usbd ⟨busNum, devAddr⟩ idx w text)
    (short : 2 + (Unicode.utf16le text).length < 4294967296) :
    (getDevStringValFromIdx usbd busNum devAddr idx w).1 =
      stringOfBytes (Unicode.lowBytes text) := by
  obtain ⟨bLength, decoded⟩ := decoded_eq described
  have size := toNat_size_utf16le text
  have offset : DESCRIPTOR_VALUE_START_OFFSET.toNat = 2 := rfl
  rw [Unicode.length_utf16le] at short
  rw [Nat.mod_eq_of_lt short] at size
  have two : DESCRIPTOR_VALUE_START_OFFSET ≤
      UInt32.ofNat (2 + (Unicode.utf16le text).length) := by
    rw [UInt32.le_iff_toNat_le, size, offset]
    omega
  have all : (UInt32.ofNat (2 + (Unicode.utf16le text).length) -
      DESCRIPTOR_VALUE_START_OFFSET).toNat / 2 = (Unicode.units text).length := by
    rw [UInt32.toNat_sub_of_le _ _ two, size, offset]
    omega
  rw [decoded, if_neg (UInt32.not_lt.mpr two), stringOfDescriptor_utf16le _ _ _ _ (by omega), all,
    ← Unicode.length_lowBytes, List.take_length]

/-- The text is decoded exactly if all of it is ASCII and the length of its descriptor
fits in 32 bits. -/
theorem decoded_iff (described : Describes usbd ⟨busNum, devAddr⟩ idx w text) :
    (getDevStringValFromIdx usbd busNum devAddr idx w).1 = stringOfBytes (Unicode.utf8 text) ↔
      Unicode.Ascii text ∧ 2 + (Unicode.utf16le text).length < 4294967296 := by
  by_cases short : 2 + (Unicode.utf16le text).length < 4294967296
  · rw [decoded_short described short, stringOfBytes_inj, Unicode.lowBytes_eq_utf8]
    simp [short]
  · obtain ⟨bytes, decoded, fewer⟩ := decoded_long described short
    have units := (Unicode.length_units text).1
    rw [decoded, stringOfBytes_inj]
    constructor
    · intro same
      rw [same] at fewer
      omega
    · exact fun both => (short both.2).elim

/-- The size of a string descriptor is even, and so its array is large enough. -/
theorem byBuffer_of_describes (described : Describes usbd ⟨busNum, devAddr⟩ idx w text) :
    (getDevStringValByBuffer usbd busNum devAddr idx w).1 =
      some (getDevStringValFromIdx usbd busNum devAddr idx w).1 := by
  obtain ⟨_, bLength, _, data⟩ := described
  refine getDevStringValByBuffer_eq rfl ?_
  have size : (bLength :: DESCRIPTOR_TYPE_STRING :: Unicode.utf16le text).length =
      2 + (Unicode.utf16le text).length := Nat.add_comm _ 2
  rw [data, size, toNat_size_utf16le]
  omega

/-- The text is decoded, without a use of the array outside its bounds, exactly if all of
it is ASCII and the length of its descriptor fits in 32 bits. -/
theorem decodes_iff (usbd : Usbd) (busNum devAddr idx : UInt8) (w : World) (text : List Char)
    (described : Describes usbd ⟨busNum, devAddr⟩ idx w text) :
    (getDevStringValByBuffer usbd busNum devAddr idx w).1 =
        some (stringOfBytes (Unicode.utf8 text)) ↔
      Unicode.Ascii text ∧ 2 + (Unicode.utf16le text).length < 4294967296 := by
  rw [byBuffer_of_describes described, Option.some_inj]
  exact decoded_iff described

/-- A device with one string. -/
def speaking (text : List Char) : Usbd where
  answer _ call :=
    match call with
    | .GetStringDescriptor _ _ => {
        ret := .UEC_OK
        bufferData := UInt8.ofNat (2 + (Unicode.utf16le text).length) :: DESCRIPTOR_TYPE_STRING ::
          Unicode.utf16le text }
    | _ => { ret := .UEC_OK }

theorem describes_speaking (text : List Char) (uDev : UsbDev) :
    Describes (speaking text) uDev 1 {} text := ⟨by decide, _, rfl, rfl⟩

theorem decodes_iff_speaking :
    (getDevStringValByBuffer (speaking ['U', 's', 'b']) 1 2 1 {}).1 =
        some (stringOfBytes (Unicode.utf8 ['U', 's', 'b'])) ↔
      Unicode.Ascii ['U', 's', 'b'] ∧
        2 + (Unicode.utf16le ['U', 's', 'b']).length < 4294967296 :=
  decodes_iff (speaking ['U', 's', 'b']) 1 2 1 {} ['U', 's', 'b'] (describes_speaking _ _)

/-- A letter with an accent is read as the byte of its code. -/
theorem not_decodes_accent :
    ¬ ∀ usbd busNum devAddr idx w text, Describes usbd ⟨busNum, devAddr⟩ idx w text →
      (getDevStringValByBuffer usbd busNum devAddr idx w).1 =
        some (stringOfBytes (Unicode.utf8 text)) := by
  intro all
  have described := describes_speaking ['é'] ⟨1, 2⟩
  have decoded := all (speaking ['é']) 1 2 1 {} ['é'] described
  rw [byBuffer_of_describes described, Option.some_inj, decoded_iff described] at decoded
  exact absurd decoded.1 (by decide)

end Texts

end UsbService

end UsbManager

import Mathlib

/-!
# Characters in bytes

The encodings UTF-8 and UTF-16 of a text, and the characters that both encode in a
single unit.
-/

namespace Unicode

/-- The units of UTF-16. -/
def utf16 (c : Char) : List UInt16 :=
  if c.val < 0x10000 then [c.val.toUInt16]
  else
    let rest : UInt32 := c.val - 0x10000
    [(0xD800 : UInt16) + (rest >>> 10).toUInt16, (0xDC00 : UInt16) + (rest &&& 0x3FF).toUInt16]

def units (text : List Char) : List UInt16 := text.flatMap utf16

/-- A unit in two bytes, the low one first. -/
def littleEndian (unit : UInt16) : List UInt8 := [unit.toUInt8, (unit >>> 8).toUInt8]

def utf16le (text : List Char) : List UInt8 := (units text).flatMap littleEndian

def utf8 (text : List Char) : List UInt8 := text.flatMap String.utf8EncodeChar

def Ascii (text : List Char) : Prop := ∀ c ∈ text, c.val ≤ 127

instance (text : List Char) : Decidable (Ascii text) :=
  List.decidableBAll (fun c : Char => c.val ≤ 127) text

/-- The low byte of each unit. -/
def lowBytes (text : List Char) : List UInt8 := (units text).map UInt16.toUInt8

theorem length_lowBytes (text : List Char) : (lowBytes text).length = (units text).length :=
  List.length_map _

theorem length_utf16le (text : List Char) : (utf16le text).length = 2 * (units text).length := by
  unfold utf16le
  induction units text with
  | nil => rfl
  | cons unit units ih =>
    rw [List.flatMap_cons, List.length_append, ih, List.length_cons]
    change 2 + _ = _
    omega

/-- The even bytes are the low ones. -/
theorem getElem?_flatMap_littleEndian (units : List UInt16) :
    ∀ j, (units.flatMap littleEndian)[2 * j]? = (units.map UInt16.toUInt8)[j]? := by
  induction units with
  | nil => exact fun j => rfl
  | cons unit units ih =>
    intro j
    cases j with
    | zero => rfl
    | succ j => exact ih j

/-! ## One unit or more -/

theorem length_utf16_pos (c : Char) : 0 < (utf16 c).length := by
  unfold utf16
  split <;> exact Nat.succ_pos _

theorem length_units_cons (c : Char) (text : List Char) :
    (units (c :: text)).length = (utf16 c).length + (units text).length :=
  List.length_append

theorem units_append (text text' : List Char) : units (text ++ text') = units text ++ units text' :=
  List.flatMap_append

/-- UTF-16 takes no more units than UTF-8, and as many for the characters of ASCII only. -/
theorem length_utf16 (c : Char) :
    (utf16 c).length ≤ (String.utf8EncodeChar c).length ∧
      ((utf16 c).length = (String.utf8EncodeChar c).length ↔ c.val ≤ 127) := by
  rw [String.length_utf8EncodeChar, ← Char.utf8Size_eq_one_iff]
  have large := @Char.utf8Size_eq_four_iff c
  rw [UInt32.lt_iff_toNat_lt] at large
  have bound : (0xffff : UInt32).toNat = 65535 := rfl
  unfold utf16
  by_cases basic : c.val < 0x10000
  · have positive := c.utf8Size_pos
    rw [if_pos basic]
    change 1 ≤ _ ∧ (1 = _ ↔ _)
    omega
  · have four : c.utf8Size = 4 := by
      rw [large]
      have above := UInt32.not_lt.mp basic
      rw [UInt32.le_iff_toNat_le] at above
      exact above
    rw [if_neg basic, four]
    change 2 ≤ 4 ∧ (2 = 4 ↔ 4 = 1)
    omega

theorem length_units (text : List Char) :
    (units text).length ≤ (utf8 text).length ∧
      ((units text).length = (utf8 text).length ↔ Ascii text) := by
  induction text with
  | nil => exact ⟨Nat.le_refl 0, fun _ => by simp [Ascii], fun _ => rfl⟩
  | cons c text ih =>
    obtain ⟨le, same⟩ := ih
    obtain ⟨le', same'⟩ := length_utf16 c
    have front : Ascii (c :: text) ↔ c.val ≤ 127 ∧ Ascii text := List.forall_mem_cons
    have sixteen := length_units_cons c text
    have eight : (utf8 (c :: text)).length =
        (String.utf8EncodeChar c).length + (utf8 text).length := List.length_append
    rw [front, ← same, ← same', sixteen, eight]
    omega

theorem utf16_of_ascii {c : Char} (ascii : c.val ≤ 127) :
    (utf16 c).map UInt16.toUInt8 = String.utf8EncodeChar c := by
  have basic : c.val < 0x10000 := UInt32.lt_of_le_of_lt ascii (by decide : (127 : UInt32) < 0x10000)
  rw [String.utf8EncodeChar_eq_singleton (Char.utf8Size_eq_one_iff.mpr ascii), utf16, if_pos basic]
  change [c.val.toUInt16.toUInt8] = [c.val.toUInt8]
  rw [UInt32.toUInt8_toUInt16]

/-- The low bytes are the UTF-8 of a text of ASCII characters and of no other. -/
theorem lowBytes_eq_utf8 {text : List Char} : lowBytes text = utf8 text ↔ Ascii text := by
  constructor
  · intro same
    have lengths := congrArg List.length same
    rw [length_lowBytes] at lengths
    exact (length_units text).2.mp lengths
  · intro ascii
    unfold lowBytes units utf8
    rw [List.map_flatMap]
    exact List.flatMap_congr fun c inside => utf16_of_ascii (ascii c inside)

end Unicode

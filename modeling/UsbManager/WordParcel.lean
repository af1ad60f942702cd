import UsbManager.DeviceParcel
import UsbManager.Lib.Words

/-!
# A parcel of words

A parcel can be read with other types than it was written with.  `Wordwise` says
what is read then from a parcel of 32-bit words, in which a number takes one word
and a buffer as many as it needs.  `wordParcel` is such a parcel.
-/

namespace UsbManager

/-- The numbers, which take a word each. -/
def ParcelType.isNumber : ParcelType → Bool
  | uint8 => true
  | int32 => true
  | uint32 => true
  | _ => false

/-- What is assumed of a parcel of words: numbers can be read as each other, a
buffer can be read from as many words as it takes, nothing can be read from less.
Of an object, which stands in units of its own, only that it cannot be read but
from its beginning. -/
structure Wordwise {β : Type} (data : MessageParcel β)
    (units : (t : ParcelType) → t.Value → List β) (word : UInt32 → β) : Prop where
  faithful : data.Faithful units
  number : ∀ {t : ParcelType}, t.isNumber = true → ∀ v, ∃ w, units t v = [word w]
  readNumber : ∀ {t : ParcelType}, t.isNumber = true →
    ∀ w rest, ∃ v, data.read t (word w :: rest) = (some v, rest)
  noNumber : ∀ {t : ParcelType}, t.isNumber = true → (data.read t []).1 = none
  length : ∀ n, units .uint32 n = [word n]
  buffer : ∀ {n} (v : (ParcelType.buffer n).Value),
    units (.buffer n) v = (Words.wordsOf v.val).map word
  readBuffer : ∀ {n : UInt32} {words : List UInt32}, Words.wordCount n.toNat ≤ words.length →
    ∃ v, data.read (.buffer n) (words.map word) =
      (some v, (words.drop (Words.wordCount n.toNat)).map word)
  noBuffer : ∀ {n : UInt32} {words : List UInt32}, words.length < Words.wordCount n.toNat →
    (data.read (.buffer n) (words.map word)).1 = none
  readByte : ∀ {contents v rest}, data.read .uint8 contents = (some v, rest) →
    rest = contents.drop 1
  object : ∀ {t : ParcelType}, t = .remoteObject ∨ t = .ashmem →
    ∀ (v : t.Value) {n : Nat}, 0 < n → (data.read t ((units t v).drop n)).1 = none

/-! ## An example -/

/-- What stands at a place of the parcel: a word, or a text or an object as a whole. -/
inductive Cell where
  | word (w : UInt32)
  | text (v : String)
  | object (v : Nat)
  | memory (v : Nat)
  deriving DecidableEq, Repr

def cells : (t : ParcelType) → t.Value → List Cell
  | .int32, v => [.word v.toUInt32]
  | .uint32, v => [.word v]
  | .uint8, v => [.word v.toUInt32]
  | .uint16, v => [.word v.toUInt32]
  | .bool, v => [.word (if v then 1 else 0)]
  | .string, v => [.text v]
  | .interfaceToken, v => [.text v]
  | .buffer _, v => (Words.wordsOf v.val).map .word
  | .remoteObject, v => [.object v]
  | .ashmem, v => [.memory v]

/-- The first words, if there are as many. -/
def takeWords : Nat → List Cell → Option (List UInt32)
  | 0, _ => some []
  | n + 1, .word w :: contents => (takeWords n contents).map (w :: ·)
  | _, _ => none

/-- A number is read from any word, and cut to its width. -/
def wordParcel : MessageParcel Cell where
  write t v contents := (true, contents ++ cells t v)
  read
    | .int32, .word w :: rest => (some w.toInt32, rest)
    | .uint32, .word w :: rest => (some w, rest)
    | .uint8, .word w :: rest => (some w.toUInt8, rest)
    | .uint16, .word w :: rest => (some w.toUInt16, rest)
    | .bool, .word w :: rest => (some (w ≠ 0), rest)
    | .string, .text v :: rest => (some v, rest)
    | .interfaceToken, .text v :: rest => (some v, rest)
    | .buffer length, contents =>
      match takeWords (Words.wordCount length.toNat) contents with
      | none => (none, contents)
      | some words =>
        if fits : ((Words.bytesOf words).take length.toNat).length = length.toNat then
          (some ⟨_, fits⟩, contents.drop (Words.wordCount length.toNat))
        else (none, contents)
    | .remoteObject, .object v :: rest => (some v, rest)
    | .ashmem, .memory v :: rest => (some v, rest)
    | _, contents => (none, contents)

theorem takeWords_of_le : ∀ {n : Nat} {words : List UInt32}, n ≤ words.length →
    ∀ rest, takeWords n (words.map Cell.word ++ rest) = some (words.take n)
  | 0, _, _, _ => by simp [takeWords]
  | n + 1, [], less, _ => by cases less
  | n + 1, w :: words, less, rest => by
    have later := takeWords_of_le (Nat.le_of_succ_le_succ less) rest
    simp [takeWords, later]

theorem takeWords_of_lt : ∀ {n : Nat} {words : List UInt32}, words.length < n →
    takeWords n (words.map Cell.word) = none
  | 0, _, less => by cases less
  | n + 1, [], _ => rfl
  | n + 1, w :: words, less => by
    have later := takeWords_of_lt (Nat.lt_of_succ_lt_succ less)
    simp [takeWords, later]

/-- A buffer is read from the words that are there. -/
theorem read_buffer {n : UInt32} {words : List UInt32}
    (enough : Words.wordCount n.toNat ≤ words.length) (rest : List Cell) :
    ∃ v, v.val = (Words.bytesOf (words.take (Words.wordCount n.toNat))).take n.toNat ∧
      wordParcel.read (.buffer n) (words.map Cell.word ++ rest) =
        (some v, (words.map Cell.word ++ rest).drop (Words.wordCount n.toNat)) := by
  have fits : ((Words.bytesOf (words.take (Words.wordCount n.toNat))).take n.toNat).length =
      n.toNat := by
    rw [List.length_take, Words.length_bytesOf, List.length_take, Nat.min_eq_left enough]
    exact Nat.min_eq_left (Words.le_wordCount n.toNat)
  refine ⟨⟨_, fits⟩, rfl, ?_⟩
  unfold wordParcel
  dsimp only
  rw [takeWords_of_le enough]
  dsimp only
  rw [dif_pos fits]

theorem faithful_wordParcel : wordParcel.Faithful cells where
  write _ _ _ := rfl
  read t v rest := by
    cases t with
    | buffer n =>
      have width : (Words.wordsOf v.val).length = Words.wordCount n.toNat := by
        rw [Words.length_wordsOf, v.property]
      obtain ⟨v', bytes, read⟩ := read_buffer (Nat.le_of_eq width.symm) rest
      have packed := Words.bytesOf_wordsOf v.val
      rw [v.property] at packed
      have same : v' = v := by
        apply Subtype.ext
        rw [bytes, ← width, List.take_length, packed]
      change wordParcel.read (.buffer n) ((Words.wordsOf v.val).map Cell.word ++ rest) = _
      rw [read, same, ← width, ← List.length_map Cell.word, List.drop_left]
    | bool => cases v <;> rfl
    | uint8 => exact congrArg (fun b => (some b, rest)) v.toUInt8_toUInt32
    | uint16 => exact congrArg (fun b => (some b, rest)) v.toUInt16_toUInt32
    | int32 | uint32 | string | interfaceToken | remoteObject | ashmem => rfl

theorem wordwise_wordParcel : Wordwise wordParcel cells Cell.word where
  faithful := faithful_wordParcel
  number isNumber v := by
    rename_i t
    cases t with
    | int32 | uint32 | uint8 => exact ⟨_, rfl⟩
    | _ => cases isNumber
  readNumber isNumber w rest := by
    rename_i t
    cases t with
    | int32 | uint32 | uint8 => exact ⟨_, rfl⟩
    | _ => cases isNumber
  noNumber isNumber := by
    rename_i t
    cases t with
    | int32 | uint32 | uint8 => rfl
    | _ => cases isNumber
  length _ := rfl
  buffer _ := rfl
  readBuffer enough := by
    obtain ⟨v, _, read⟩ := read_buffer enough []
    rw [List.append_nil, ← List.map_drop] at read
    exact ⟨v, read⟩
  noBuffer less := by
    unfold wordParcel
    dsimp only
    rw [takeWords_of_lt less]
  readByte read := by
    rename_i contents v rest
    cases contents with
    | nil => cases read
    | cons cell contents =>
      cases cell with
      | word w =>
        cases read
        rfl
      | _ => cases read
  object isObject v n some := by
    cases n with
    | zero => cases some
    | succ n =>
      -- A single unit stands for the object, so nothing is left of it.
      rcases isObject with rfl | rfl
      · change (wordParcel.read .remoteObject ([].drop n)).1 = none
        rw [List.drop_nil]
        rfl
      · change (wordParcel.read .ashmem ([].drop n)).1 = none
        rw [List.drop_nil]
        rfl

end UsbManager

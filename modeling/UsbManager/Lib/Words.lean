import Mathlib.Algebra.Ring.Nat

/-!
# Bytes in 32-bit words

`wordsOf` packs bytes into words, the least significant byte first, and fills the
last word with zeros; `bytesOf` takes the words apart again.
-/

namespace Words

/-- The number with these digits to the base 256, the least significant first. -/
def littleEndian : List UInt8 → Nat
  | [] => 0
  | byte :: bytes => byte.toNat + 256 * littleEndian bytes

/-- The last `count` digits of a number to the base 256, the least significant first. -/
def digits : Nat → Nat → List UInt8
  | 0, _ => []
  | count + 1, value => UInt8.ofNat value :: digits count (value / 256)

def wordOf (bytes : List UInt8) : UInt32 := UInt32.ofNat (littleEndian bytes)

def wordsOf : List UInt8 → List UInt32
  | [] => []
  | [a] => [wordOf [a]]
  | [a, b] => [wordOf [a, b]]
  | [a, b, c] => [wordOf [a, b, c]]
  | a :: b :: c :: d :: bytes => wordOf [a, b, c, d] :: wordsOf bytes

def bytesOf (words : List UInt32) : List UInt8 := words.flatMap fun word => digits 4 word.toNat

/-- How many words bytes take. -/
def wordCount (bytes : Nat) : Nat := (bytes + 3) / 4

theorem littleEndian_lt (bytes : List UInt8) : littleEndian bytes < 256 ^ bytes.length := by
  induction bytes with
  | nil => decide
  | cons byte bytes ih =>
    have digit := byte.toNat_lt
    rw [List.length_cons, Nat.pow_succ]
    unfold littleEndian
    omega

theorem digits_littleEndian (bytes : List UInt8) :
    ∀ {count : Nat}, bytes.length ≤ count →
      (digits count (littleEndian bytes)).take bytes.length = bytes := by
  induction bytes with
  | nil => exact fun _ => List.take_zero
  | cons byte bytes ih =>
    intro count fits
    cases count with
    | zero => cases fits
    | succ count =>
      have digit := byte.toNat_lt
      have first : UInt8.ofNat (littleEndian (byte :: bytes)) = byte := by
        apply UInt8.toNat_inj.mp
        rw [UInt8.toNat_ofNat']
        unfold littleEndian
        omega
      have rest : littleEndian (byte :: bytes) / 256 = littleEndian bytes := by
        rw [littleEndian]
        omega
      unfold digits
      rw [first, rest, List.length_cons, List.take_succ_cons, ih (Nat.le_of_succ_le_succ fits)]

theorem length_digits (count value : Nat) : (digits count value).length = count := by
  induction count generalizing value with
  | zero => rfl
  | succ count ih => exact congrArg (· + 1) (ih _)

/-- The bytes of a word begin with those it was made of. -/
theorem digits_wordOf {bytes : List UInt8} (fits : bytes.length ≤ 4) :
    (digits 4 (wordOf bytes).toNat).take bytes.length = bytes := by
  have small : littleEndian bytes < 2 ^ 32 :=
    Nat.lt_of_lt_of_le (littleEndian_lt bytes) (Nat.pow_le_pow_right (by decide) fits)
  have value : (wordOf bytes).toNat = littleEndian bytes := UInt32.toNat_ofNat_of_lt' small
  rw [value]
  exact digits_littleEndian bytes fits

theorem bytesOf_cons (word : UInt32) (words : List UInt32) :
    bytesOf (word :: words) = digits 4 word.toNat ++ bytesOf words := rfl

theorem length_bytesOf (words : List UInt32) : (bytesOf words).length = 4 * words.length := by
  induction words with
  | nil => rfl
  | cons word words ih =>
    rw [bytesOf_cons, List.length_append, length_digits, ih, List.length_cons]
    omega

theorem le_wordCount (bytes : Nat) : bytes ≤ 4 * wordCount bytes := by
  unfold wordCount
  omega

theorem length_wordsOf (bytes : List UInt8) : (wordsOf bytes).length = wordCount bytes.length := by
  induction bytes using wordsOf.induct with
  | case1 | case2 | case3 | case4 => simp [wordsOf, wordCount]
  | case5 a b c d bytes ih =>
    unfold wordCount at ih ⊢
    rw [wordsOf, List.length_cons, ih]
    simp only [List.length_cons]
    omega

/-- Packing loses nothing. -/
theorem bytesOf_wordsOf (bytes : List UInt8) :
    (bytesOf (wordsOf bytes)).take bytes.length = bytes := by
  have one (bytes : List UInt8) (fits : bytes.length ≤ 4) :
      (bytesOf [wordOf bytes]).take bytes.length = bytes := by
    rw [bytesOf_cons]
    exact (congrArg _ (List.append_nil _)).trans (digits_wordOf fits)
  induction bytes using wordsOf.induct with
  | case1 => rfl
  | case2 a => simpa only [wordsOf] using one [a] (by simp)
  | case3 a b => simpa only [wordsOf] using one [a, b] (by simp)
  | case4 a b c => simpa only [wordsOf] using one [a, b, c] (by simp)
  | case5 a b c d bytes ih =>
    have fits : [a, b, c, d].length ≤ 4 := Nat.le_refl 4
    have all : (digits 4 (wordOf [a, b, c, d]).toNat).take 4 = [a, b, c, d] := digits_wordOf fits
    have whole : digits 4 (wordOf [a, b, c, d]).toNat = [a, b, c, d] := by
      rwa [List.take_of_length_le (Nat.le_of_eq (length_digits 4 _))] at all
    rw [wordsOf, bytesOf_cons, whole]
    simpa using ih

end Words

import UsbManager.Lib.Unicode

/-!
# The grammar of JSON texts

A text denotes a value and leaves the rest of the text.  Strings are sequences of
units of UTF-16, so that an escape may stand for half of a character.  Within a text
that is put together from pieces, a piece that is read as a string of its own units
holds nothing that a string has to escape (`plain_of_reads_self`).
-/

namespace JsonText

inductive Value where
  | null
  | bool (value : Bool)
  | number (text : List Char)
  | string (units : List UInt16)
  | array (elements : List Value)
  | object (members : List (List UInt16 × Value))

/-! ## The grammar -/

def IsSpace (c : Char) : Prop := c = ' ' ∨ c = '\t' ∨ c = '\n' ∨ c = '\r'

instance (c : Char) : Decidable (IsSpace c) := inferInstanceAs (Decidable (_ ∨ _))

/-- White space may be skipped. -/
inductive Spaces : List Char → List Char → Prop
  | done {text : List Char} : Spaces text text
  | skip {c : Char} {text rest : List Char} :
    IsSpace c → Spaces text rest → Spaces (c :: text) rest

/-- Characters that stand for themselves in a string. -/
def Plain (c : Char) : Prop := c ≠ '"' ∧ c ≠ '\\' ∧ 0x20 ≤ c.val

instance (c : Char) : Decidable (Plain c) := inferInstanceAs (Decidable (_ ∧ _))

/-- The unit that a character stands for behind a backslash. -/
def escaped (c : Char) : Option UInt16 :=
  [('"', 0x22), ('\\', 0x5C), ('/', 0x2F), ('b', 0x08), ('f', 0x0C), ('n', 0x0A), ('r', 0x0D),
    ('t', 0x09)].lookup c

def hexDigit (c : Char) : Option UInt16 :=
  if '0' ≤ c ∧ c ≤ '9' then some (UInt16.ofNat (c.toNat - 48))
  else if 'a' ≤ c ∧ c ≤ 'f' then some (UInt16.ofNat (c.toNat - 87))
  else if 'A' ≤ c ∧ c ≤ 'F' then some (UInt16.ofNat (c.toNat - 55))
  else none

def hexUnit (c₁ c₂ c₃ c₄ : Char) : Option UInt16 := do
  some (((((← hexDigit c₁) * 16 + (← hexDigit c₂)) * 16) + (← hexDigit c₃)) * 16 + (← hexDigit c₄))

/-- A string behind its opening quotation mark. -/
inductive Chars : List Char → List UInt16 → List Char → Prop
  | close {rest : List Char} : Chars ('"' :: rest) [] rest
  | plain {c : Char} {text rest : List Char} {units : List UInt16} :
    Plain c → Chars text units rest → Chars (c :: text) (Unicode.utf16 c ++ units) rest
  | escape {c : Char} {unit : UInt16} {text rest : List Char} {units : List UInt16} :
    escaped c = some unit → Chars text units rest → Chars ('\\' :: c :: text) (unit :: units) rest
  | unicode {c₁ c₂ c₃ c₄ : Char} {unit : UInt16} {text rest : List Char} {units : List UInt16} :
    hexUnit c₁ c₂ c₃ c₄ = some unit → Chars text units rest →
    Chars ('\\' :: 'u' :: c₁ :: c₂ :: c₃ :: c₄ :: text) (unit :: units) rest

def Digits (text : List Char) : Prop := text ≠ [] ∧ ∀ c ∈ text, '0' ≤ c ∧ c ≤ '9'

def Fraction (text : List Char) : Prop := text = [] ∨ ∃ digits, Digits digits ∧ text = '.' :: digits

def Exponent (text : List Char) : Prop :=
  text = [] ∨ ∃ e sign digits, (e = 'e' ∨ e = 'E') ∧ (sign = [] ∨ sign = ['+'] ∨ sign = ['-']) ∧
    Digits digits ∧ text = e :: (sign ++ digits)

/-- A sign, an integer without zeros in front, a fraction and an exponent. -/
def Number (text : List Char) : Prop :=
  ∃ sign integer fraction exponent, (sign = [] ∨ sign = ['-']) ∧ Digits integer ∧
    (integer.head? = some '0' → integer = ['0']) ∧ Fraction fraction ∧ Exponent exponent ∧
    text = sign ++ integer ++ fraction ++ exponent

mutual

/-- A value, and what the text leaves. -/
inductive Denotes : List Char → Value → List Char → Prop
  | null {rest : List Char} : Denotes ('n' :: 'u' :: 'l' :: 'l' :: rest) .null rest
  | true {rest : List Char} : Denotes ('t' :: 'r' :: 'u' :: 'e' :: rest) (.bool Bool.true) rest
  | false {rest : List Char} :
    Denotes ('f' :: 'a' :: 'l' :: 's' :: 'e' :: rest) (.bool Bool.false) rest
  | number {text rest : List Char} : Number text → Denotes (text ++ rest) (.number text) rest
  | string {text rest : List Char} {units : List UInt16} :
    Chars text units rest → Denotes ('"' :: text) (.string units) rest
  | emptyArray {text rest : List Char} :
    Spaces text (']' :: rest) → Denotes ('[' :: text) (.array []) rest
  | array {text rest : List Char} {elements : List Value} :
    Elements text elements rest → Denotes ('[' :: text) (.array elements) rest
  | emptyObject {text rest : List Char} :
    Spaces text ('}' :: rest) → Denotes ('{' :: text) (.object []) rest
  | object {text rest : List Char} {members : List (List UInt16 × Value)} :
    Members text members rest → Denotes ('{' :: text) (.object members) rest

/-- The elements of an array, up to its closing bracket. -/
inductive Elements : List Char → List Value → List Char → Prop
  | last {text first behind rest : List Char} {value : Value} :
    Spaces text first → Denotes first value behind → Spaces behind (']' :: rest) →
    Elements text [value] rest
  | more {text first behind others rest : List Char} {value : Value} {values : List Value} :
    Spaces text first → Denotes first value behind → Spaces behind (',' :: others) →
    Elements others values rest → Elements text (value :: values) rest

/-- The members of an object, up to its closing brace. -/
inductive Members : List Char → List (List UInt16 × Value) → List Char → Prop
  | last {text name colon behindColon first behind rest : List Char} {key : List UInt16}
    {value : Value} :
    Spaces text ('"' :: name) → Chars name key colon → Spaces colon (':' :: behindColon) →
    Spaces behindColon first → Denotes first value behind → Spaces behind ('}' :: rest) →
    Members text [(key, value)] rest
  | more {text name colon behindColon first behind others rest : List Char} {key : List UInt16}
    {value : Value} {members : List (List UInt16 × Value)} :
    Spaces text ('"' :: name) → Chars name key colon → Spaces colon (':' :: behindColon) →
    Spaces behindColon first → Denotes first value behind → Spaces behind (',' :: others) →
    Members others members rest → Members text ((key, value) :: members) rest

end

/-- A whole text. -/
def Text (text : List Char) (value : Value) : Prop :=
  ∃ first rest, Spaces text first ∧ Denotes first value rest ∧ Spaces rest []

/-! ## Reading the grammar backwards -/

section Inversion

variable {c : Char} {text rest : List Char} {units : List UInt16} {value : Value}

theorem Spaces.eq_of_not_space (spaces : Spaces (c :: text) rest) (not : ¬ IsSpace c) :
    rest = c :: text := by
  cases spaces with
  | done => rfl
  | skip space _ => exact (not space).elim

theorem Number.head (number : Number text) : ∃ c tail, text = c :: tail ∧ c ≠ '"' ∧ c ≠ '{' := by
  obtain ⟨sign, integer, fraction, exponent, signed, ⟨nonempty, digits⟩, _, _, _, rfl⟩ := number
  rcases signed with rfl | rfl
  · obtain ⟨c, tail, rfl⟩ := List.exists_cons_of_ne_nil nonempty
    refine ⟨c, tail ++ fraction ++ exponent, by simp, ?_, ?_⟩
    · rintro rfl
      exact absurd (digits _ List.mem_cons_self).1 (by decide)
    · rintro rfl
      exact absurd (digits _ List.mem_cons_self).2 (by decide)
  · exact ⟨'-', integer ++ fraction ++ exponent, by simp, by decide, by decide⟩

/-- What begins with a quotation mark is a string. -/
theorem Denotes.string_inv (denotes : Denotes ('"' :: text) value rest) :
    ∃ units, value = .string units ∧ Chars text units rest := by
  generalize whole : '"' :: text = s at denotes
  cases denotes with
  | @number digits rest number =>
    obtain ⟨c, tail, rfl, other, _⟩ := number.head
    exact (other (List.cons.inj whole).1.symm).elim
  | @string text' rest units chars =>
    obtain rfl := (List.cons.inj whole).2
    exact ⟨units, rfl, chars⟩
  | _ => cases (List.cons.inj whole).1

/-- What begins with a brace is an object. -/
theorem Denotes.object_inv (denotes : Denotes ('{' :: text) value rest) :
    value = .object [] ∧ Spaces text ('}' :: rest) ∨
      ∃ members, value = .object members ∧ Members text members rest := by
  generalize whole : '{' :: text = s at denotes
  cases denotes with
  | @number digits rest number =>
    obtain ⟨c, tail, rfl, _, other⟩ := number.head
    exact (other (List.cons.inj whole).1.symm).elim
  | emptyObject spaces =>
    obtain rfl := (List.cons.inj whole).2
    exact .inl ⟨rfl, spaces⟩
  | object members =>
    obtain rfl := (List.cons.inj whole).2
    exact .inr ⟨_, rfl, members⟩
  | _ => cases (List.cons.inj whole).1

/-- Plain characters up to a quotation mark are read as they are. -/
theorem chars_plain_iff {piece : List Char} (plain : ∀ c ∈ piece, Plain c) :
    ∀ {units : List UInt16}, Chars (piece ++ '"' :: text) units rest ↔
      units = Unicode.units piece ∧ rest = text := by
  induction piece with
  | nil =>
    intro units
    constructor
    · intro chars
      cases chars with
      | close => exact ⟨rfl, rfl⟩
      | plain mark _ => exact (mark.1 rfl).elim
    · rintro ⟨rfl, rfl⟩
      exact .close
  | cons c piece ih =>
    have this : Plain c := plain c List.mem_cons_self
    have tail := @ih fun c inside => plain c (List.mem_cons_of_mem _ inside)
    intro units
    rw [List.cons_append]
    generalize piece ++ '"' :: text = behind at tail
    constructor
    · intro chars
      cases chars with
      | close => exact (this.1 rfl).elim
      | plain _ chars =>
        obtain ⟨rfl, rfl⟩ := tail.mp chars
        exact ⟨rfl, rfl⟩
      | escape _ _ => exact (this.2.1 rfl).elim
      | unicode _ _ => exact (this.2.1 rfl).elim
    · rintro ⟨rfl, rfl⟩
      exact .plain this (tail.mpr ⟨rfl, rfl⟩)

theorem not_chars_nil : ¬ Chars [] units rest := by
  intro chars
  cases chars

/-- White space in front of the members says nothing. -/
theorem members_space_iff {members : List (List UInt16 × Value)} (space : IsSpace c) :
    Members (c :: text) members rest ↔ Members text members rest := by
  have skipped {name : List Char} (spaces : Spaces (c :: text) ('"' :: name)) :
      Spaces text ('"' :: name) := by
    cases spaces with
    | done => exact absurd space (by decide)
    | skip _ spaces => exact spaces
  constructor
  · intro all
    cases all with
    | last spaces chars colon value first behind =>
      exact .last (skipped spaces) chars colon value first behind
    | more spaces chars colon value first behind others =>
      exact .more (skipped spaces) chars colon value first behind others
  · intro all
    cases all with
    | last spaces chars colon value first behind =>
      exact .last (.skip space spaces) chars colon value first behind
    | more spaces chars colon value first behind others =>
      exact .more (.skip space spaces) chars colon value first behind others

section Quoted

variable {key piece others : List Char} {members : List (List UInt16 × Value)}
  (plain : ∀ c ∈ key, Plain c)

include plain

/-- A plain name and a plain string are the last member. -/
theorem Members.quoted_last (plain' : ∀ c ∈ piece, Plain c) :
    Members ('"' :: (key ++ '"' :: ':' :: '"' :: (piece ++ '"' :: '}' :: rest)))
      [(Unicode.units key, .string (Unicode.units piece))] rest :=
  .last .done ((chars_plain_iff plain).mpr ⟨rfl, rfl⟩) .done .done
    (.string ((chars_plain_iff plain').mpr ⟨rfl, rfl⟩)) .done

/-- A plain name and a plain string are a member. -/
theorem Members.quoted_more (plain' : ∀ c ∈ piece, Plain c) (more : Members others members rest) :
    Members ('"' :: (key ++ '"' :: ':' :: '"' :: (piece ++ '"' :: ',' :: others)))
      ((Unicode.units key, .string (Unicode.units piece)) :: members) rest :=
  .more .done ((chars_plain_iff plain).mpr ⟨rfl, rfl⟩) .done .done
    (.string ((chars_plain_iff plain').mpr ⟨rfl, rfl⟩)) .done more

/-- Members whose first is a plain name and a string. -/
theorem Members.quoted_inv
    (all : Members ('"' :: (key ++ '"' :: ':' :: '"' :: text)) members rest) :
    ∃ units behind members', members = (Unicode.units key, .string units) :: members' ∧
      Chars text units behind ∧
      (members' = [] ∧ Spaces behind ('}' :: rest) ∨
        ∃ others, Spaces behind (',' :: others) ∧ Members others members' rest) := by
  have named {name colon behindColon first behind : List Char} {key' : List UInt16} {value : Value}
      (spaces : Spaces ('"' :: (key ++ '"' :: ':' :: '"' :: text)) ('"' :: name))
      (chars : Chars name key' colon) (spaces' : Spaces colon (':' :: behindColon))
      (spaces'' : Spaces behindColon first) (denotes : Denotes first value behind) :
      key' = Unicode.units key ∧ ∃ units, value = .string units ∧ Chars text units behind := by
    obtain rfl := (List.cons.inj (spaces.eq_of_not_space (by decide))).2
    obtain ⟨rfl, rfl⟩ := (chars_plain_iff plain).mp chars
    obtain rfl := (List.cons.inj (spaces'.eq_of_not_space (by decide))).2
    obtain rfl := spaces''.eq_of_not_space (by decide)
    exact ⟨rfl, denotes.string_inv⟩
  cases all with
  | last spaces chars spaces' spaces'' denotes ends =>
    obtain ⟨rfl, units, rfl, chars⟩ := named spaces chars spaces' spaces'' denotes
    exact ⟨units, _, _, rfl, chars, .inl ⟨rfl, ends⟩⟩
  | more spaces chars spaces' spaces'' denotes goesOn others =>
    obtain ⟨rfl, units, rfl, chars⟩ := named spaces chars spaces' spaces'' denotes
    exact ⟨units, _, _, rfl, chars, .inr ⟨_, goesOn, others⟩⟩

end Quoted

theorem hexDigit_quote : hexDigit '"' = none := by decide

/-- A quotation mark is no hexadecimal digit. -/
theorem not_quote_of_hexUnit {c₁ c₂ c₃ c₄ : Char} {unit : UInt16}
    (hex : hexUnit c₁ c₂ c₃ c₄ = some unit) : c₁ ≠ '"' ∧ c₂ ≠ '"' ∧ c₃ ≠ '"' ∧ c₄ ≠ '"' := by
  unfold hexUnit at hex
  refine ⟨?_, ?_, ?_, ?_⟩ <;> rintro rfl <;> simp [hexDigit_quote] at hex

end Inversion

/-! ## A piece of a text -/

section Piece

variable {text rest : List Char} {units : List UInt16}

/-- A character other than the quotation mark behind a piece belongs to the piece. -/
theorem mem_piece {c : Char} {piece behind : List Char} (other : c ≠ '"')
    (whole : c :: text = piece ++ '"' :: behind) :
    ∃ piece', piece = c :: piece' ∧ text = piece' ++ '"' :: behind := by
  cases piece with
  | nil => exact (other (List.cons.inj whole).1).elim
  | cons c' piece =>
    obtain ⟨rfl, tail⟩ := List.cons.inj whole
    exact ⟨piece, rfl, tail⟩

/-- A string that begins with a piece and the quotation mark behind it ends within the
piece, where it has no more units than were read, or it takes the mark for escaped. -/
theorem Chars.ends_or_escapes (chars : Chars text units rest) :
    ∀ piece behind, text = piece ++ '"' :: behind →
      (∃ read left, piece = read ++ left ∧ units.length ≤ (Unicode.units read).length ∧
        (units.length = (Unicode.units read).length → ∀ c ∈ read, Plain c)) ∨
      ∃ front before after, piece = front ++ ['\\'] ∧ units = before ++ 0x22 :: after ∧
        Chars behind after rest := by
  induction chars with
  | close =>
    intro piece behind _
    exact .inl ⟨[], piece, rfl, Nat.le_refl 0, fun _ c inside => absurd inside List.not_mem_nil⟩
  | @plain c text rest units plain chars ih =>
    intro piece behind whole
    obtain ⟨piece, rfl, tail⟩ := mem_piece plain.1 whole
    rcases ih piece behind tail with ⟨read, left, rfl, short, same⟩ |
      ⟨front, before, after, rfl, rfl, behind⟩
    · refine .inl ⟨c :: read, left, rfl, ?_, ?_⟩ <;>
        rw [Unicode.length_units_cons, List.length_append]
      · omega
      · intro lengths
        exact List.forall_mem_cons.mpr ⟨plain, same (by omega)⟩
    · refine .inr ⟨c :: front, Unicode.utf16 c ++ before, after, rfl, ?_, behind⟩
      rw [List.append_assoc]
  | @escape c unit text rest units unit? chars ih =>
    intro piece behind whole
    obtain ⟨piece, rfl, tail⟩ := mem_piece (by decide) whole
    cases piece with
    | nil =>
      -- the mark behind the piece is what the backslash escapes
      obtain ⟨rfl, rfl⟩ := List.cons.inj tail
      obtain rfl := Option.some.inj unit?
      exact .inr ⟨[], [], units, rfl, rfl, chars⟩
    | cons c' piece =>
      obtain ⟨rfl, tail'⟩ := List.cons.inj tail
      have backslash := Unicode.length_utf16_pos '\\'
      have escaped := Unicode.length_utf16_pos c
      rcases ih piece behind tail' with ⟨read, left, rfl, short, _⟩ |
        ⟨front, before, after, rfl, rfl, behind⟩
      · refine .inl ⟨'\\' :: c :: read, left, rfl, ?_, ?_⟩ <;>
          simp only [Unicode.length_units_cons, List.length_cons] <;> omega
      · exact .inr ⟨'\\' :: c :: front, unit :: before, after, rfl, rfl, behind⟩
  | @unicode c₁ c₂ c₃ c₄ unit text rest units hex chars ih =>
    intro piece behind whole
    obtain ⟨other₁, other₂, other₃, other₄⟩ := not_quote_of_hexUnit hex
    obtain ⟨piece₀, rfl, whole₀⟩ := mem_piece (by decide) whole
    obtain ⟨piece₁, rfl, whole₁⟩ := mem_piece (by decide) whole₀
    obtain ⟨piece₂, rfl, whole₂⟩ := mem_piece other₁ whole₁
    obtain ⟨piece₃, rfl, whole₃⟩ := mem_piece other₂ whole₂
    obtain ⟨piece₄, rfl, whole₄⟩ := mem_piece other₃ whole₃
    obtain ⟨piece, rfl, tail⟩ := mem_piece other₄ whole₄
    have backslash := Unicode.length_utf16_pos '\\'
    have letter := Unicode.length_utf16_pos 'u'
    rcases ih piece behind tail with ⟨read, left, rfl, short, _⟩ |
      ⟨front, before, after, rfl, rfl, behind⟩
    · refine .inl ⟨'\\' :: 'u' :: c₁ :: c₂ :: c₃ :: c₄ :: read, left, rfl, ?_, ?_⟩ <;>
        simp only [Unicode.length_units_cons, List.length_cons] <;> omega
    · exact .inr ⟨'\\' :: 'u' :: c₁ :: c₂ :: c₃ :: c₄ :: front, unit :: before, after, rfl, rfl,
        behind⟩

/-- A piece that is read as its own units is plain, if what follows the quotation mark
behind it does not go on as a string that ends in a backslash. -/
theorem plain_of_reads_self {piece behind : List Char}
    (chars : Chars (piece ++ '"' :: behind) (Unicode.units piece) rest)
    (apart : ∀ after, Chars behind after rest → after.getLast? ≠ some 0x5C ∧ after ≠ []) :
    ∀ c ∈ piece, Plain c := by
  rcases chars.ends_or_escapes piece behind rfl with ⟨read, left, rfl, short, same⟩ |
    ⟨front, before, after, rfl, units, chars⟩
  · rw [Unicode.units_append, List.length_append] at short same
    have none : left = [] := by
      cases left with
      | nil => rfl
      | cons c left =>
        have positive := Unicode.length_utf16_pos c
        rw [Unicode.length_units_cons] at short
        omega
    subst none
    rw [List.append_nil]
    exact same rfl
  · obtain ⟨last, nonempty⟩ := apart after chars
    obtain ⟨unit, after, rfl⟩ := List.exists_cons_of_ne_nil nonempty
    have lasts := congrArg List.getLast? units
    rw [Unicode.units_append, List.getLast?_append, List.getLast?_append,
      List.getLast?_cons_cons] at lasts
    refine (last ?_).elim
    rw [List.getLast?_cons] at lasts ⊢
    exact lasts.symm

end Piece

end JsonText

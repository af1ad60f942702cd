import Mathlib
import UsbManager.DeviceManager

/-!
# Lists of functions

`ConvertFromString` cuts a string at its commas and looks every piece up.  The loop
that cuts ends at the end of the string, and so it does not see the empty item
behind a last comma (`grammar_iff`).  `ConvertToString` prints a mask of settable
functions; any other mask it prints as `none` (`roundTrip_iff`).
-/

namespace UsbManager

open UsbSrvSupport

namespace UsbDeviceManager

/-- `FUNCTION_MAPPING_N2C` -/
def FUNCTION_MAPPING_N2C : List (String × UInt32) :=
  [(FUNCTION_NAME_NONE, FUNCTION_NONE), (FUNCTION_NAME_ACM, FUNCTION_ACM),
    (FUNCTION_NAME_ECM, FUNCTION_ECM), (FUNCTION_NAME_HDC, FUNCTION_HDC),
    (FUNCTION_NAME_MTP, FUNCTION_MTP), (FUNCTION_NAME_PTP, FUNCTION_PTP)]

/-- `strFun.find(",", pos)`, none for `npos`. -/
def findComma (strFun : String) (pos : Nat) : Option Nat :=
  ((strFun.toList.drop pos).findIdx? (· = ',')).map (pos + ·)

/-- `strFun.substr(pos, count)` -/
def substr (strFun : String) (pos count : Nat) : String :=
  String.ofList ((strFun.toList.drop pos).take count)

/-- A comma is found after the pieces without one. -/
theorem findComma_some {strFun : String} {pos findPos : Nat}
    (found : findComma strFun pos = some findPos) :
    ∃ item rest, strFun.toList.drop pos = item ++ ',' :: rest ∧ ',' ∉ item ∧
      findPos = pos + item.length := by
  obtain ⟨i, index, rfl⟩ := Option.map_eq_some_iff.mp found
  obtain ⟨inside, comma, before⟩ := List.findIdx?_eq_some_iff_getElem.mp index
  refine ⟨(strFun.toList.drop pos).take i, (strFun.toList.drop pos).drop (i + 1), ?_, ?_, ?_⟩
  · have char : (strFun.toList.drop pos)[i] = ',' := by simpa using comma
    rw [← char, List.getElem_cons_drop, List.take_append_drop]
  · intro there
    obtain ⟨j, below, char⟩ := List.mem_take_iff_getElem.mp there
    exact before j (by omega) (by simp [char])
  · rw [List.length_take, Nat.min_eq_left (Nat.le_of_lt inside)]

theorem findComma_none {strFun : String} {pos : Nat} (missing : findComma strFun pos = none) :
    ',' ∉ strFun.toList.drop pos := by
  have none := List.findIdx?_eq_none_iff.mp (Option.map_eq_none_iff.mp missing)
  intro there
  simpa using none ',' there

/-- The loop of `ConvertFromString` that cuts the string. -/
def cut (strFun : String) (pos : Nat) (vModeStr : List String) : List String :=
  if pos < strFun.toList.length then
    match _found : findComma strFun pos with
    | none => vModeStr ++ [substr strFun pos (strFun.toList.length - pos)]
    | some findPos => cut strFun (findPos + 1) (vModeStr ++ [substr strFun pos (findPos - pos)])
  else vModeStr
termination_by strFun.toList.length - pos
decreasing_by
  obtain ⟨item, rest, _, _, rfl⟩ := findComma_some _found
  omega

/-- The loop of `ConvertFromString` over the pieces. -/
def combine (invalid : UInt32) : List String → UInt32 → UInt32
  | [], ret => ret
  | item :: vModeStr, ret =>
    match FUNCTION_MAPPING_N2C.lookup item with
    | some mask => combine invalid vModeStr (ret ||| mask)
    | none => invalid

/-- `ConvertFromString`; `invalid` is the number of `UEC_SERVICE_INVALID_VALUE`. -/
def convertFromString (invalid : UInt32) (strFun : String) : UInt32 :=
  if strFun = FUNCTION_NAME_NONE then FUNCTION_NONE
  else if strFun.toList.length = 0 then invalid
  else combine invalid (cut strFun 0 []) 0

/-! ## The items of a list -/

/-- The string split at every comma. -/
def items (s : String) : List String := (s.toList.splitOn ',').map String.ofList

/-- The masks of these items together; none where one of them names no function. -/
def maskOf (items : List String) : Option UInt32 :=
  items.foldr (fun item masks => do
    let mask ← FUNCTION_MAPPING_N2C.lookup item
    let masks ← masks
    some (mask ||| masks)) (some 0)

/-- What the loop has cut when it comes to a position: the items from there, but for an
empty one at the end. -/
theorem cut_eq (strFun : String) (pos : Nat) (vModeStr : List String) :
    ∃ pieces, cut strFun pos vModeStr = vModeStr ++ pieces.map String.ofList ∧
      (strFun.toList.drop pos).splitOn ',' =
        pieces ++ if (strFun.toList.drop pos).getLastD ',' = ',' then [[]] else [] := by
  induction pos, vModeStr using cut.induct strFun with
  | case1 pos vModeStr inside missing =>
    have free := findComma_none missing
    have nonempty : strFun.toList.drop pos ≠ [] := by simpa using inside
    have last : ¬ (strFun.toList.drop pos).getLastD ',' = ',' := by
      intro comma
      rw [List.getLastD_eq_getLast?, List.getLast?_eq_some_getLast nonempty] at comma
      exact free (comma ▸ List.getLast_mem nonempty)
    refine ⟨[strFun.toList.drop pos], ?_, ?_⟩
    · rw [cut, if_pos inside]
      split
      · unfold substr
        rw [List.take_of_length_le (by simp)]
        rfl
      · rename_i found
        rw [missing] at found
        cases found
    · rw [List.splitOn_eq_singleton free, if_neg last, List.append_nil]
  | case2 pos vModeStr inside findPos found ih =>
    obtain ⟨item, rest, left, free, rfl⟩ := findComma_some found
    obtain ⟨pieces, cuts, split⟩ := ih
    have behind : strFun.toList.drop (pos + item.length + 1) = rest := by
      rw [Nat.add_assoc, ← List.drop_drop, left, ← List.drop_drop]
      simp
    have last : (item ++ ',' :: rest).getLastD ',' = rest.getLastD ',' := by
      rw [List.getLastD_eq_getLast?, List.getLast?_append_of_ne_nil _ (List.cons_ne_nil _ _),
        List.getLast?_cons, Option.getD_some, List.getLastD_eq_getLast?]
    refine ⟨item :: pieces, ?_, ?_⟩
    · rw [cut, if_pos inside]
      split
      · rename_i missing
        rw [missing] at found
        cases found
      · rename_i findPos' found'
        rw [found] at found'
        obtain rfl := Option.some.inj found'
        rw [cuts]
        unfold substr
        rw [left, Nat.add_sub_cancel_left, List.take_left, List.append_assoc]
        rfl
    · rw [left, List.splitOn_append_cons_self_of_not_mem free, last, ← behind, split]
      rfl
  | case3 pos vModeStr outside =>
    have empty : strFun.toList.drop pos = [] := List.drop_eq_nil_of_le (by omega)
    refine ⟨[], ?_, ?_⟩
    · rw [cut, if_neg outside]
      simp
    · rw [empty]
      rfl

theorem maskOf_cons (item : String) (names : List String) :
    maskOf (item :: names) = (FUNCTION_MAPPING_N2C.lookup item).bind fun mask =>
      (maskOf names).bind fun masks => some (mask ||| masks) := rfl

theorem combine_eq (invalid : UInt32) (vModeStr : List String) :
    ∀ ret, combine invalid vModeStr ret =
      ((maskOf vModeStr).map (ret ||| ·)).getD invalid := by
  induction vModeStr with
  | nil => intro ret; simp [combine, maskOf]
  | cons item vModeStr ih =>
    intro ret
    rw [combine, maskOf_cons]
    cases FUNCTION_MAPPING_N2C.lookup item with
    | none => rfl
    | some mask =>
      dsimp only
      rw [ih, Option.bind_some]
      cases maskOf vModeStr with
      | none => rfl
      | some masks => exact UInt32.or_assoc _ _ _

section Grammar

variable {invalid : UInt32} {s : String}

theorem combine_zero (vModeStr : List String) :
    combine invalid vModeStr 0 = (maskOf vModeStr).getD invalid := by
  rw [combine_eq]
  cases maskOf vModeStr with
  | none => rfl
  | some mask => exact UInt32.zero_or

/-- A list that does not end in a comma is read item by item. -/
theorem convertFromString_closed (closed : s.toList.getLastD ',' ≠ ',') :
    convertFromString invalid s = (maskOf (items s)).getD invalid := by
  obtain ⟨pieces, cuts, split⟩ := cut_eq s 0 []
  rw [List.drop_zero, if_neg closed, List.append_nil] at split
  unfold convertFromString
  by_cases none : s = FUNCTION_NAME_NONE
  · rw [if_pos none, none]
    rfl
  · have nonempty : ¬ s.toList.length = 0 := by
      intro zero
      rw [List.eq_nil_of_length_eq_zero zero] at closed
      exact closed rfl
    rw [if_neg none, if_neg nonempty, cuts, List.nil_append, combine_zero, items, split]

/-- A comma at the end is as if it were not there. -/
theorem convertFromString_open (invalid : UInt32) (t : String) :
    convertFromString invalid (t ++ ",") = (maskOf (items t)).getD invalid := by
  obtain ⟨pieces, cuts, split⟩ := cut_eq (t ++ ",") 0 []
  have whole : (t ++ ",").toList = t.toList ++ [','] := String.toList_append
  have last : (t ++ ",").toList.getLastD ',' = ',' := by
    rw [whole, List.getLastD_concat]
  have pieces_eq : pieces = t.toList.splitOn ',' := by
    rw [List.drop_zero, if_pos last, whole, List.splitOn_append_cons_self] at split
    exact (List.append_left_injective _ split).symm
  have none : t ++ "," ≠ FUNCTION_NAME_NONE := by
    intro same
    rw [same] at last
    exact absurd last (by decide)
  have nonempty : ¬ (t ++ ",").toList.length = 0 := by
    rw [whole]
    simp
  unfold convertFromString
  rw [if_neg none, if_neg nonempty, cuts, List.nil_append, combine_zero, pieces_eq, items]

theorem closed_or_open (s : String) :
    s.toList.getLastD ',' ≠ ',' ∨ s = "" ∨ ∃ t, s = t ++ "," := by
  by_cases closed : s.toList.getLastD ',' = ','
  · right
    rcases List.eq_nil_or_concat s.toList with empty | ⟨front, c, whole⟩
    · exact .inl (String.toList_eq_nil_iff.mp empty)
    · rw [List.concat_eq_append] at whole
      rw [whole, List.getLastD_concat] at closed
      refine .inr ⟨String.ofList front, ?_⟩
      apply String.toList_injective
      rw [whole, closed, String.toList_append, String.toList_ofList]
      rfl
  · exact .inl closed

theorem items_open (t : String) : items (t ++ ",") = items t ++ [""] := by
  have whole : (t ++ ",").toList = t.toList ++ ',' :: [] := String.toList_append
  unfold items
  rw [whole, List.splitOn_append_cons_self, List.map_append]
  rfl

/-- An item that names no function spoils the list. -/
theorem maskOf_of_unknown {item : String} {names : List String} (there : item ∈ names)
    (unknown : FUNCTION_MAPPING_N2C.lookup item = none) : maskOf names = none := by
  induction names with
  | nil => cases there
  | cons first names ih =>
    rw [maskOf_cons]
    rcases List.mem_cons.mp there with rfl | later
    · rw [unknown]
      rfl
    · rw [ih later]
      cases FUNCTION_MAPPING_N2C.lookup first <;> rfl

theorem maskOf_items_open (t : String) : maskOf (items (t ++ ",")) = none := by
  rw [items_open]
  exact maskOf_of_unknown (List.mem_append_right _ (List.mem_singleton_self _)) (by decide)

theorem toNat_or_lt (a b : UInt32) (k : Nat) :
    (a ||| b).toNat < 2 ^ k ↔ a.toNat < 2 ^ k ∧ b.toNat < 2 ^ k := by
  rw [UInt32.toNat_or]
  constructor
  · intro small
    exact ⟨Nat.lt_of_le_of_lt Nat.left_le_or small, Nat.lt_of_le_of_lt Nat.right_le_or small⟩
  · exact fun both => Nat.or_lt_two_pow both.1 both.2

/-- The functions that are looked up. -/
theorem lookup_bits {item : String} {mask : UInt32}
    (known : FUNCTION_MAPPING_N2C.lookup item = some mask) :
    mask.toNat < 2 ^ 5 ∧ (mask.toNat < 2 ^ 3 ↔
      ¬ (item = FUNCTION_NAME_MTP ∨ item = FUNCTION_NAME_PTP)) := by
  obtain ⟨_, _, same, _⟩ := List.lookup_eq_some_iff.mp known
  have there : (item, mask) ∈ FUNCTION_MAPPING_N2C := same ▸ by simp
  simp only [FUNCTION_MAPPING_N2C, List.mem_cons, Prod.mk.injEq, List.not_mem_nil, or_false]
    at there
  rcases there with ⟨rfl, rfl⟩ | ⟨rfl, rfl⟩ | ⟨rfl, rfl⟩ | ⟨rfl, rfl⟩ | ⟨rfl, rfl⟩ | ⟨rfl, rfl⟩ <;>
    decide

/-- The masks of functions are made of the five lowest bits, of which two are those of
`mtp` and `ptp`. -/
theorem maskOf_bits {names : List String} :
    ∀ {mask : UInt32}, maskOf names = some mask →
      mask.toNat < 2 ^ 5 ∧ (mask.toNat < 2 ^ 3 ↔
        ¬ (FUNCTION_NAME_MTP ∈ names ∨ FUNCTION_NAME_PTP ∈ names)) := by
  induction names with
  | nil =>
    intro mask known
    cases known
    simp
  | cons item names ih =>
    intro mask known
    rw [maskOf_cons] at known
    obtain ⟨first, found, others⟩ := Option.bind_eq_some_iff.mp known
    obtain ⟨rest, found', same⟩ := Option.bind_eq_some_iff.mp others
    obtain rfl := Option.some.inj same
    obtain ⟨small, settable⟩ := lookup_bits found
    obtain ⟨small', settable'⟩ := ih found'
    rw [toNat_or_lt, toNat_or_lt, settable, settable', List.mem_cons, List.mem_cons,
      @eq_comm _ item, @eq_comm _ item]
    exact ⟨⟨small, small'⟩, by tauto⟩

/-- A list is read as the masks of its items together if it is not empty and each of its
items is the name of a function, and else it is invalid. -/
def Grammar (invalid : UInt32) (s : String) : Prop :=
  (∀ mask, s ≠ "" → maskOf (items s) = some mask → convertFromString invalid s = mask) ∧
    (s = "" ∨ maskOf (items s) = none → convertFromString invalid s = invalid)

theorem grammar_of_closed (closed : s.toList.getLastD ',' ≠ ',') : Grammar invalid s := by
  have read : convertFromString invalid s = (maskOf (items s)).getD invalid :=
    convertFromString_closed closed
  refine ⟨fun mask _ known => ?_, fun wrong => ?_⟩
  · rw [read, known]
    rfl
  · rcases wrong with empty | unknown
    · rw [empty] at closed
      exact (closed rfl).elim
    · rw [read, unknown]
      rfl

theorem grammar_empty : Grammar invalid "" :=
  ⟨fun _ nonempty _ => (nonempty rfl).elim, fun _ => rfl⟩

/-- A comma at the end makes no list. -/
theorem grammar_open_iff (distinct : ∀ names mask, maskOf names = some mask → mask ≠ invalid)
    (t : String) : Grammar invalid (t ++ ",") ↔ maskOf (items t) = none := by
  have unknown := maskOf_items_open t
  have read := convertFromString_open invalid t
  constructor
  · intro grammar
    have refused := grammar.2 (.inr unknown)
    rw [read] at refused
    cases known : maskOf (items t) with
    | none => rfl
    | some mask =>
      rw [known] at refused
      exact (distinct _ _ known refused).elim
  · intro none
    refine ⟨fun mask _ known => ?_, fun _ => ?_⟩
    · rw [unknown] at known
      cases known
    · rw [read, none]
      rfl

/-- A list is read as it should be unless it is a list of functions with one more comma
behind it. -/
theorem grammar_iff (invalid : UInt32)
    (distinct : ∀ names mask, maskOf names = some mask → mask ≠ invalid) (s : String) :
    Grammar invalid s ↔ ¬ ∃ t mask, maskOf (items t) = some mask ∧ s = t ++ "," := by
  have comma : ∀ t, (t ++ ",").toList.getLastD ',' = ',' := by
    intro t
    rw [String.toList_append]
    exact List.getLastD_concat
  rcases closed_or_open s with closed | rfl | ⟨t, rfl⟩
  · refine iff_of_true (grammar_of_closed closed) fun ⟨t, _, _, same⟩ => closed ?_
    rw [same]
    exact comma t
  · refine iff_of_true grammar_empty fun ⟨t, _, _, same⟩ => ?_
    have lengths := congrArg (fun s => s.toList.length) same
    simp at lengths
  · rw [grammar_open_iff distinct]
    constructor
    · intro none found
      obtain ⟨t', mask, known, same⟩ := found
      obtain rfl : t = t' := by
        have lists := congrArg String.toList same
        rw [String.toList_append, String.toList_append] at lists
        exact String.toList_injective (List.append_left_injective _ lists)
      rw [none] at known
      cases known
    · intro none
      refine Option.eq_none_iff_forall_ne_some.mpr fun mask known => none ⟨t, mask, known, rfl⟩

theorem maskOf_ne_of_large (large : 32 ≤ invalid.toNat) (names : List String) (mask : UInt32)
    (known : maskOf names = some mask) : mask ≠ invalid := by
  rintro rfl
  exact absurd (maskOf_bits known).1 (Nat.not_lt.mpr large)

theorem grammar_iff_acm :
    Grammar 4294967295 "acm" ↔
      ¬ ∃ t mask, maskOf (items t) = some mask ∧ "acm" = t ++ "," :=
  grammar_iff 4294967295 (maskOf_ne_of_large (by decide)) "acm"

/-- A comma behind the last item is accepted. -/
theorem not_grammar_acm_comma :
    ¬ ∀ invalid s, (∀ names mask, maskOf names = some mask → mask ≠ invalid) →
      Grammar invalid s := by
  intro all
  have distinct := @maskOf_ne_of_large 4294967295 (by decide)
  have none := (grammar_open_iff distinct "acm").mp (all _ "acm," distinct)
  exact absurd none (by decide)

end Grammar

/-! ## Printing and reading back -/

section RoundTrip

variable {invalid : UInt32} {s : String}

/-- A list is printed from its mask and read back. -/
def RoundTrips (invalid : UInt32) (s : String) : Prop :=
  convertFromString invalid (convertToString (convertFromString invalid s)) =
    convertFromString invalid s

/-- What is accepted is a list of functions, maybe with one more comma. -/
theorem maskOf_of_accepted (accepted : convertFromString invalid s ≠ invalid) :
    ∃ names, maskOf names = some (convertFromString invalid s) ∧
      (names = items s ∨ items s = names ++ [""]) := by
  have found : ∀ names, convertFromString invalid s = (maskOf names).getD invalid →
      maskOf names = some (convertFromString invalid s) := by
    intro names read
    cases known : maskOf names with
    | none =>
      rw [known] at read
      exact (accepted read).elim
    | some mask =>
      rw [known] at read
      rw [read]
      rfl
  rcases closed_or_open s with closed | rfl | ⟨t, rfl⟩
  · exact ⟨items s, found _ (convertFromString_closed closed), .inl rfl⟩
  · exact (accepted rfl).elim
  · exact ⟨items t, found _ (convertFromString_open invalid t), .inr (items_open t)⟩

/-- A mask of settable functions is printed as a list that is read back. -/
theorem convertFromString_settable (invalid : UInt32) {mask : UInt32} (small : mask.toNat < 2 ^ 3) :
    convertFromString invalid (convertToString mask) = mask := by
  have all : ∀ k < 8, (convertToString (UInt32.ofNat k)).toList.getLastD ',' ≠ ',' ∧
      maskOf (items (convertToString (UInt32.ofNat k))) = some (UInt32.ofNat k) := by decide
  obtain ⟨closed, known⟩ := all mask.toNat small
  rw [UInt32.ofNat_toNat] at closed known
  rw [convertFromString_closed closed, known]
  rfl

/-- Any other mask is printed as `none`. -/
theorem convertToString_of_large {mask : UInt32} (large : ¬ mask.toNat < 2 ^ 3) :
    convertToString mask = FUNCTION_NAME_NONE := by
  refine if_pos (.inr ?_)
  rw [gt_iff_lt, UInt32.lt_iff_toNat_lt]
  exact Nat.lt_of_lt_of_le (by decide) (Nat.le_of_not_lt large)

/-- A list that is accepted is printed and read back as what it is, exactly if it names
neither `mtp` nor `ptp`. -/
theorem roundTrip_iff (invalid : UInt32) (s : String)
    (accepted : convertFromString invalid s ≠ invalid) :
    RoundTrips invalid s ↔ ¬ (FUNCTION_NAME_MTP ∈ items s ∨ FUNCTION_NAME_PTP ∈ items s) := by
  obtain ⟨names, known, same⟩ := maskOf_of_accepted accepted
  have named : (FUNCTION_NAME_MTP ∈ items s ∨ FUNCTION_NAME_PTP ∈ items s) ↔
      (FUNCTION_NAME_MTP ∈ names ∨ FUNCTION_NAME_PTP ∈ names) := by
    rcases same with rfl | whole
    · exact Iff.rfl
    · have mtp : FUNCTION_NAME_MTP ≠ "" := by decide
      have ptp : FUNCTION_NAME_PTP ≠ "" := by decide
      simp [whole, mtp, ptp]
  rw [named, ← (maskOf_bits known).2]
  unfold RoundTrips
  constructor
  · intro same
    by_contra large
    rw [convertToString_of_large large] at same
    have zero : convertFromString invalid FUNCTION_NAME_NONE = 0 := rfl
    rw [zero] at same
    rw [← same] at large
    exact large (by decide)
  · exact convertFromString_settable invalid

theorem convertFromString_acm : convertFromString 4294967295 "acm" = 1 := by
  rw [convertFromString_closed (by decide)]
  decide

theorem convertFromString_mtp : convertFromString 4294967295 "mtp" = 8 := by
  rw [convertFromString_closed (by decide)]
  decide

theorem roundTrip_iff_acm :
    RoundTrips 4294967295 "acm" ↔
      ¬ (FUNCTION_NAME_MTP ∈ items "acm" ∨ FUNCTION_NAME_PTP ∈ items "acm") :=
  roundTrip_iff 4294967295 "acm" (by rw [convertFromString_acm]; decide)

/-- `mtp` is printed as `none`. -/
theorem not_roundTrips_mtp :
    ¬ ∀ invalid s, convertFromString invalid s ≠ invalid → RoundTrips invalid s := by
  intro all
  have same := all 4294967295 "mtp" (by rw [convertFromString_mtp]; decide)
  rw [RoundTrips, convertFromString_mtp, convertToString_of_large (by decide)] at same
  exact absurd same (by decide)

end RoundTrip

end UsbDeviceManager

end UsbManager

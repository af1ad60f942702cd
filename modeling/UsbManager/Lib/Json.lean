import UsbManager.Lib.Table

/-!
# JSON values

Values of a JSON library that keeps signed and unsigned integers apart.  A value
is read with an accessor that converts it, and throws where it cannot: `none`
here.  A value that was never set is null; it reads as zero, as the empty string
and as a list without elements.
-/

inductive Json where
  | null
  | int (value : Int32)
  | uint (value : UInt32)
  | bool (value : Bool)
  | string (value : String)
  | array (elements : List Json)
  | object (members : List (String × Json))

namespace Json

/-- `value[key]`; a member that is missing is null. -/
def member (key : String) : Json → Option Json
  | null => some null
  | object members => some ((members.lookup key).getD null)
  | _ => none

def asInt : Json → Option Int32
  | null => some 0
  | int value => some value
  | uint value => if value.toNat < 2 ^ 31 then some value.toInt32 else none
  | bool value => some (if value then 1 else 0)
  | _ => none

def asUInt : Json → Option UInt32
  | null => some 0
  | int value => if 0 ≤ value.toInt then some value.toUInt32 else none
  | uint value => some value
  | bool value => some (if value then 1 else 0)
  | _ => none

def asString : Json → Option String
  | null => some ""
  | int value => some (toString value)
  | uint value => some (toString value)
  | bool value => some (if value then "true" else "false")
  | string value => some value
  | _ => none

/-- `value[0]` up to `value[size() - 1]`; a value that is neither null nor an array has
no elements to index. -/
def elements : Json → Option (List Json)
  | array list => some list
  | object (_ :: _) => none
  | _ => some []

/-- A value that elements are appended to one after the other: null where there are none. -/
def ofList : List Json → Json
  | [] => null
  | list => array list

@[simp] theorem member_object (key : String) (members : List (String × Json)) :
    (object members).member key = some ((members.lookup key).getD null) := rfl

@[simp] theorem asInt_int (value : Int32) : (int value).asInt = some value := rfl

@[simp] theorem asUInt_uint (value : UInt32) : (uint value).asUInt = some value := rfl

@[simp] theorem asString_string (value : String) : (string value).asString = some value := rfl

variable {α : Type}

/-- Read every element. -/
def readList (read : Json → Option α) (value : Json) : Option (List α) := do
  let list ← value.elements
  list.mapM read

@[simp] theorem elements_ofList (list : List Json) : (ofList list).elements = some list := by
  cases list with
  | nil => rfl
  | cons first rest => rfl

/-- A list is read back element by element, also where it is empty. -/
theorem readList_ofList {write : α → Json} {read : Json → Option α} {kept : α → α}
    (each : ∀ a, read (write a) = some (kept a)) (list : List α) :
    readList read (ofList (list.map write)) = some (list.map kept) := by
  unfold readList
  rw [elements_ofList]
  change (list.map write).mapM read = _
  rw [List.mapM_map]
  exact Table.mapM_eq_map fun a _ => each a

end Json

import Mathlib.Data.List.Forall2

/-!
# Values of a JavaScript engine

The values a native module is called with and returns, and the functions of the engine
that read them.  A native function may throw a JavaScript exception and go on; whether
properties can be read while one is pending, and what is kept of a text that is too long
for the buffer it is read into, is the engine's own (`Engine`).

`Native α` is a native function: it is told whether an exception is pending and tells it,
and there is no result where it uses a value that was never set.  An exception stays
pending, which is a field of the function.  `x.Reads a` is the judgement that where none
is pending `x` returns `a` and throws none; of a sequence it holds exactly if it holds of
both parts (`Native.reads_bind`).
-/

/-- What `napi_typeof` tells apart; arrays and typed arrays are objects. -/
inductive JsType where
  | undefined
  | null
  | boolean
  | number
  | string
  | object
  | function
  | other
  deriving DecidableEq, Repr

/-- A typed array: whether its elements are `uint8_t`, how many there are, and the bytes
behind them. -/
structure TypedArray where
  uint8 : Bool
  length : Nat
  bytes : List UInt8
  covered : length ≤ bytes.length
  whole : uint8 = true → length = bytes.length

/-- A number is given by its integral part; one that is not finite is 0. -/
inductive JsValue where
  | undefined
  | null
  | boolean (value : Bool)
  | number (value : Int)
  | string (value : String)
  | object (properties : List (String × JsValue))
  | array (elements : List JsValue)
  | typedArray (value : TypedArray)
  | function (properties : List (String × JsValue))
  | other

namespace JsValue

def type : JsValue → JsType
  | undefined => .undefined
  | null => .null
  | boolean _ => .boolean
  | number _ => .number
  | string _ => .string
  | object _ => .object
  | array _ => .object
  | typedArray _ => .object
  | function _ => .function
  | other => .other

/-- A property with a name; an array has none but its elements. -/
def property (name : String) : JsValue → Option JsValue
  | object properties => properties.lookup name
  | function properties => properties.lookup name
  | _ => none

/-- `napi_get_value_int32`: the low 32 bits of a number. -/
def int32 : JsValue → Option Int32
  | number value => some (Int32.ofInt value)
  | _ => none

/-- `napi_get_value_uint32` -/
def uint32 : JsValue → Option UInt32
  | number value => some (Int32.ofInt value).toUInt32
  | _ => none

/-- The elements of an array. -/
def elements : JsValue → Option (List JsValue)
  | array elements => some elements
  | _ => none

end JsValue

/-- What engines do differently.  A text that fits its buffer is read whole. -/
structure Engine where
  text : Nat → String → String
  text_of_fits : ∀ {size : Nat} {value : String}, value.utf8ByteSize ≤ size →
    text size value = value
  readsPending : Bool

/-- A native function: what it returns and whether an exception is pending then. -/
structure Native (α : Type) where
  run : Bool → Option (α × Bool)
  stays : ∀ {a : α} {pending : Bool}, run true = some (a, pending) → pending = true

namespace Native

variable {α β : Type}

@[ext] theorem ext {x y : Native α} (same : ∀ pending, x.run pending = y.run pending) : x = y := by
  cases x
  cases y
  congr
  funext pending
  exact same pending

/-! ## Building functions -/

protected def pure (a : α) : Native α where
  run pending := some (a, pending)
  stays same := (congrArg Prod.snd (Option.some.inj same)).symm

protected def bind (x : Native α) (f : α → Native β) : Native β where
  run pending := (x.run pending).bind fun result => (f result.1).run result.2
  stays same := by
    obtain ⟨⟨a, pending⟩, first, rest⟩ := Option.bind_eq_some_iff.mp same
    obtain rfl := x.stays first
    exact (f a).stays rest

instance : Monad Native where
  pure := Native.pure
  bind := Native.bind

theorem run_bind (x : Native α) (f : α → Native β) (pending : Bool) :
    (x >>= f).run pending = (x.run pending).bind fun result => (f result.1).run result.2 := rfl

instance : LawfulMonad Native := LawfulMonad.mk' Native
  (fun x => by
    ext pending : 1
    change (x.run pending).bind (fun result => some (result.1, result.2)) = x.run pending
    cases x.run pending with
    | none => rfl
    | some result => rfl)
  (fun _ _ => rfl)
  (fun x f g => by
    ext pending : 1
    simp only [run_bind, Option.bind_assoc])

/-- `napi_throw_error` -/
def raise : Native Unit where
  run _ := some ((), true)
  stays same := (congrArg Prod.snd (Option.some.inj same)).symm

/-- Use a value that may never have been set. -/
def use (value : Option α) : Native α where
  run pending := value.map fun a => (a, pending)
  stays same := by
    obtain ⟨a, -, result⟩ := Option.map_eq_some_iff.mp same
    exact (congrArg Prod.snd result).symm

/-- What the engine finds where it can be read. -/
def read (engine : Engine) (value : Option α) : Native (Option α) where
  run pending := some (if pending && !engine.readsPending then none else value, pending)
  stays same := (congrArg Prod.snd (Option.some.inj same)).symm

/-- `napi_has_named_property` and `napi_get_named_property` -/
def named (engine : Engine) (object : JsValue) (name : String) : Native (Option JsValue) :=
  read engine (object.property name)

/-- `napi_get_element`, of one after the other. -/
def element (engine : Engine) (value : JsValue) : Native (Option JsValue) :=
  read engine (some value)

/-! ## Functions that return -/

/-- The function returns, whether an exception is pending or not. -/
def Total (x : Native α) : Prop := ∀ pending, ∃ result, x.run pending = some result

theorem total_pure (a : α) : Total (pure a) := fun pending => ⟨(a, pending), rfl⟩

theorem total_raise : Total raise := fun _ => ⟨((), true), rfl⟩

theorem total_read (engine : Engine) (value : Option α) : Total (read engine value) :=
  fun _ => ⟨_, rfl⟩

theorem Total.bind {x : Native α} {f : α → Native β} (first : x.Total)
    (rest : ∀ a, (f a).Total) : (x >>= f).Total := by
  intro pending
  obtain ⟨⟨a, pending'⟩, same⟩ := first pending
  obtain ⟨result, last⟩ := rest a pending'
  refine ⟨result, ?_⟩
  rw [run_bind, same]
  exact last

/-- What comes after a function that returns, if it does not depend on the function. -/
theorem Total.run_bind {x : Native α} {f : α → Native β} {result : Option (β × Bool)}
    (first : x.Total) (rest : ∀ a pending, (f a).run pending = result) (pending : Bool) :
    (x >>= f).run pending = result := by
  obtain ⟨⟨a, pending'⟩, same⟩ := first pending
  rw [Native.run_bind, same]
  exact rest a pending'

/-- What the function returns always has the property. -/
def Always (p : α → Prop) (x : Native α) : Prop :=
  ∀ pending a pending', x.run pending = some (a, pending') → p a

theorem always_pure {p : α → Prop} {a : α} (holds : p a) : Always p (pure a) := by
  intro pending b pending' same
  cases same
  exact holds

theorem always_bind {p : β → Prop} {x : Native α} {f : α → Native β}
    (rest : ∀ a, (f a).Always p) : (x >>= f).Always p := by
  intro pending b pending' same
  obtain ⟨⟨a, between⟩, -, last⟩ := Option.bind_eq_some_iff.mp same
  exact rest a between b pending' last

/-! ## What is read without an exception -/

/-- Where no exception is pending the function returns this and throws none. -/
def Reads (x : Native α) (a : α) : Prop := x.run false = some (a, false)

section

variable {x : Native α} {f : α → Native β} {a a' : α} {b : β} {engine : Engine}

@[simp] theorem reads_pure : Reads (pure a) a' ↔ a = a' := by
  change some (a, false) = some (a', false) ↔ _
  simp

/-- An exception that the first part throws is pending in the end. -/
@[simp] theorem reads_bind : Reads (x >>= f) b ↔ ∃ a, x.Reads a ∧ (f a).Reads b := by
  unfold Reads
  rw [run_bind]
  constructor
  · intro result
    obtain ⟨⟨a, pending⟩, first, rest⟩ := Option.bind_eq_some_iff.mp result
    cases pending with
    | false => exact ⟨a, first, rest⟩
    | true =>
      have pending := (f a).stays rest
      cases pending
  · rintro ⟨a, first, rest⟩
    rw [first]
    exact rest

/-- What goes on after an exception does not count. -/
@[simp] theorem not_reads_raise {f : Unit → Native β} : ¬ (raise >>= f).Reads b := by
  rw [reads_bind]
  rintro ⟨_, thrown, -⟩
  cases thrown

@[simp] theorem reads_use {value : Option α} : (use value).Reads a ↔ value = some a := by
  unfold Reads use
  simp

@[simp] theorem reads_read {value value' : Option α} :
    (read engine value).Reads value' ↔ value = value' := by
  unfold Reads read
  simp

theorem reads_named {object : JsValue} {name : String} {value : Option JsValue} :
    (named engine object name).Reads value ↔ object.property name = value := reads_read

theorem reads_element {value : JsValue} {value' : Option JsValue} :
    (element engine value).Reads value' ↔ some value = value' := reads_read

/-- A function that is called on each element. -/
theorem reads_mapM {f : α → Native β} {list : List α} {results : List β} :
    (list.mapM f).Reads results ↔ List.Forall₂ (fun a b => (f a).Reads b) list results := by
  induction list generalizing results with
  | nil => simp [eq_comm]
  | cons a list ih =>
    simp only [List.mapM_cons, reads_bind, reads_pure, ih]
    constructor
    · rintro ⟨b, first, rest, others, rfl⟩
      exact .cons first others
    · rintro (_ | ⟨first, others⟩)
      exact ⟨_, first, _, others, rfl⟩

end

end Native

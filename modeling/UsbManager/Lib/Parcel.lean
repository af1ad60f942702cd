import Mathlib.Data.List.ReduceOption
import Mathlib.Logic.Basic

/-!
# Actions on a parcel

A parcel carries typed values one after the other: a write appends, a read
takes from the front.  An `ParcelAction` works on a parcel and on an out-parameter,
and may stop with an error; what it did to both until then stays done.

`Appends` says what an action writes, `Consumes` what it reads and what becomes
of the out-parameter.  There is a rule for each way to put actions together, so
that a reader is matched with a writer statement by statement.
-/

/-- The operations of a parcel with contents of type `β`: whether a write
succeeded, the value of a read that succeeded, and what is in the parcel then. -/
structure Parcel {τ : Type} (Value : τ → Type) (β : Type) where
  write : (t : τ) → Value t → List β → Bool × List β
  read : (t : τ) → List β → Option (Value t) × List β

/-- No write fails, and a read returns what the write of the same type wrote. -/
structure Parcel.Faithful {τ : Type} {Value : τ → Type} {β : Type} (parcel : Parcel Value β)
    (units : (t : τ) → Value t → List β) : Prop where
  write : ∀ t v data, parcel.write t v data = (true, data ++ units t v)
  read : ∀ t v rest, parcel.read t (units t v ++ rest) = (some v, rest)

/-- An action on an out-parameter and the contents of a parcel. -/
def ParcelAction (β δ ε α : Type) : Type := δ → List β → Except ε α × δ × List β

namespace ParcelAction

variable {τ : Type} {Value : τ → Type} {β δ δ' ε α γ : Type}

instance : Monad (ParcelAction β δ ε) where
  pure a := fun out data => (.ok a, out, data)
  bind x f := fun out data =>
    match x out data with
    | (.ok a, out, data) => f a out data
    | (.error e, out, data) => (.error e, out, data)

/-- Change the out-parameter. -/
def update (f : δ → δ) : ParcelAction β δ ε Unit := fun out data => (.ok (), f out, data)

/-- Write a value, or stop. -/
def put (parcel : Parcel Value β) (e : ε) (t : τ) (v : Value t) : ParcelAction β δ ε Unit :=
  fun out data =>
    match parcel.write t v data with
    | (true, data) => (.ok (), out, data)
    | (false, data) => (.error e, out, data)

/-- Read a value, or stop. -/
def take (parcel : Parcel Value β) (e : ε) (t : τ) : ParcelAction β δ ε (Value t) :=
  fun out data =>
    match parcel.read t data with
    | (some v, data) => (.ok v, out, data)
    | (none, data) => (.error e, out, data)

/-- Read a value without a check: a variable that held `junk` holds the result. -/
def takeUnchecked (parcel : Parcel Value β) (t : τ) (junk : Value t) :
    ParcelAction β δ ε (Value t) :=
  fun out data =>
    match parcel.read t data with
    | (v, data) => (.ok (v.getD junk), out, data)

/-- Read a value that may be missing. -/
def takeOption (parcel : Parcel Value β) (t : τ) : ParcelAction β δ ε (Option (Value t)) :=
  fun out data =>
    match parcel.read t data with
    | (v, data) => (.ok v, out, data)

/-- Write a value, or stop.  The out-parameter holds the outcomes of the writes
to come: where the next one is `false` the write fails and adds nothing. -/
def attempt (parcel : Parcel Value β) (e : ε) (t : τ) (v : Value t) :
    ParcelAction β (List Bool) ε Unit :=
  fun outcomes data =>
    match outcomes with
    | false :: outcomes => (.error e, outcomes, data)
    | true :: outcomes => put parcel e t v outcomes data
    | [] => put parcel e t v [] data

/-- Stop with an error. -/
def fail (e : ε) : ParcelAction β δ ε α := fun out data => (.error e, out, data)

/-- Go on where the action stops. -/
def ignore (act : ParcelAction β δ ε α) : ParcelAction β δ ε Unit :=
  fun out data =>
    match act out data with
    | (_, out, data) => (.ok (), out, data)

/-- Stop with this error where the action stops. -/
def withError (e : ε) (act : ParcelAction β δ ε α) : ParcelAction β δ ε α :=
  fun out data =>
    match act out data with
    | (.ok a, out, data) => (.ok a, out, data)
    | (.error _, out, data) => (.error e, out, data)

/-- Run an action on an out-parameter of its own; its result is a value. -/
def nested (out' : δ') (act : ParcelAction β δ' ε α) : ParcelAction β δ ε (Except ε α × δ') :=
  fun out data =>
    match act out' data with
    | (result, out', data) => (.ok (result, out'), out, data)

/-- Run an action on an out-parameter of its own, and stop where it stops. -/
def checked (out' : δ') (act : ParcelAction β δ' ε α) : ParcelAction β δ ε δ' :=
  fun out data =>
    match act out' data with
    | (.ok _, out', data) => (.ok out', out, data)
    | (.error e, _, data) => (.error e, out, data)

/-- Run an action on a part of the out-parameter. -/
def within (get : δ → δ') (set : δ' → δ → δ) (act : ParcelAction β δ' ε α) :
    ParcelAction β δ ε α :=
  fun out data =>
    match act (get out) data with
    | (result, part, data) => (result, set part out, data)

/-- `for (i = 0; i < n; ++i)` -/
def times (body : ParcelAction β δ ε Unit) : Nat → ParcelAction β δ ε Unit
  | 0 => pure ()
  | n + 1 => do
    body
    times body n

/-- A loop over the elements of a list. -/
def forEach (body : α → ParcelAction β δ ε Unit) : List α → ParcelAction β δ ε Unit
  | [] => pure ()
  | a :: as => do
    body a
    forEach body as

/-! ## Sequencing -/

section Sequencing

variable {x : ParcelAction β δ ε α} {f : α → ParcelAction β δ ε γ} {out out' : δ}
  {data data' : List β} {a : α} {e : ε}

theorem bind_of_ok (first : x out data = (.ok a, out', data')) :
    (x >>= f) out data = f a out' data' := by
  change (match x out data with
    | (.ok a, out, data) => f a out data
    | (.error e, out, data) => (.error e, out, data)) = _
  rw [first]

theorem bind_of_error (first : x out data = (.error e, out', data')) :
    (x >>= f) out data = (.error e, out', data') := by
  change (match x out data with
    | (.ok a, out, data) => f a out data
    | (.error e, out, data) => (.error e, out, data)) = _
  rw [first]

variable {parcel : Parcel Value β} {t : τ}

theorem take_of_some {v : Value t} (read : parcel.read t data = (some v, data')) (out : δ) :
    take parcel e t out data = (.ok v, out, data') := by
  simp only [take, read]

theorem take_of_none (read : parcel.read t data = (none, data')) (out : δ) :
    take parcel e t out data = (.error e, out, data') := by
  simp only [take, read]

theorem takeUnchecked_of_some {v : Value t} (read : parcel.read t data = (some v, data'))
    (junk : Value t) (out : δ) :
    (takeUnchecked parcel t junk : ParcelAction β δ ε (Value t)) out data =
      (.ok v, out, data') := by
  simp only [takeUnchecked, read, Option.getD_some]

end Sequencing

/-! ## Writing -/

/-- The action appends `data` and ends without an error. -/
def Appends (act : ParcelAction β δ ε α) (data : List β) (a : α) : Prop :=
  ∀ out before, act out before = (.ok a, out, before ++ data)

section Writing

variable {parcel : Parcel Value β} {units : (t : τ) → Value t → List β}
  {x : ParcelAction β δ ε α} {f : α → ParcelAction β δ ε γ} {data rest : List β} {a : α} {c : γ}
  {e : ε}

theorem Appends.pure (a : α) : Appends (pure a : ParcelAction β δ ε α) [] a := by
  intro out before
  rw [List.append_nil]
  rfl

theorem Appends.bind (first : Appends x data a) (second : Appends (f a) rest c) :
    Appends (x >>= f) (data ++ rest) c := by
  intro out before
  rw [bind_of_ok (first out before), second out, List.append_assoc]

theorem Appends.put (faithful : parcel.Faithful units) (t : τ) (v : Value t) :
    Appends (put parcel e t v : ParcelAction β δ ε Unit) (units t v) () := by
  intro out before
  unfold ParcelAction.put
  rw [faithful.write]

theorem Appends.forEach {body : α → ParcelAction β δ ε Unit} {enc : α → List β} {as : List α}
    (each : ∀ a ∈ as, Appends (body a) (enc a) ()) :
    Appends (forEach body as) (as.flatMap enc) () := by
  induction as with
  | nil => exact .pure ()
  | cons a as ih =>
    rw [List.flatMap_cons]
    exact .bind (each a List.mem_cons_self)
      (ih fun b there => each b (List.mem_cons_of_mem a there))

end Writing

/-- An action appends one thing only. -/
theorem Appends.unique {act : ParcelAction β δ ε α} {data data' : List β} {a a' : α}
    (left : Appends act data a) (right : Appends act data' a') (out : δ) : data = data' := by
  have same := congrArg (fun result => result.2.2) ((left out []).symm.trans (right out []))
  simpa using same

/-! ## Writes that may fail -/

/-- A value with its type. -/
abbrev TypedValue (Value : τ → Type) := (t : τ) × Value t

/-- What values one after the other add to a parcel. -/
def unitsOf (units : (t : τ) → Value t → List β) (values : List (TypedValue Value)) : List β :=
  values.flatMap fun value => units value.1 value.2

/-- None of the next `n` writes fails. -/
def Succeed (n : Nat) (outcomes : List Bool) : Prop := ∀ outcome ∈ outcomes.take n, outcome = true

instance (n : Nat) (outcomes : List Bool) : Decidable (Succeed n outcomes) :=
  inferInstanceAs (Decidable (∀ outcome ∈ outcomes.take n, outcome = true))

theorem succeed_nil (n : Nat) : Succeed n [] := by
  intro outcome there
  rw [List.take_nil] at there
  cases there

theorem succeed_add {m n : Nat} {outcomes : List Bool} :
    Succeed (m + n) outcomes ↔ Succeed m outcomes ∧ Succeed n (outcomes.drop m) := by
  unfold Succeed
  rw [List.take_add]
  simp only [List.mem_append, or_imp, forall_and]

/-- The action writes the values in order.  At the first write that fails it stops
with one of these errors. -/
def Attempts (units : (t : τ) → Value t → List β) (error : ε → Prop)
    (act : ParcelAction β (List Bool) ε α) (values : List (TypedValue Value)) : Prop :=
  ∀ outcomes before,
    (Succeed values.length outcomes → ∃ a,
      act outcomes before =
        (.ok a, outcomes.drop values.length, before ++ unitsOf units values)) ∧
    (¬ Succeed values.length outcomes → ∃ e outcomes' after,
      error e ∧ act outcomes before = (.error e, outcomes', after))

section Attempting

variable {parcel : Parcel Value β} {units : (t : τ) → Value t → List β} {error : ε → Prop}
  {x : ParcelAction β (List Bool) ε α} {f : α → ParcelAction β (List Bool) ε γ}
  {values more : List (TypedValue Value)} {e : ε}

@[simp] theorem unitsOf_nil : unitsOf units [] = [] := rfl

@[simp] theorem unitsOf_cons (value : TypedValue Value) (values : List (TypedValue Value)) :
    unitsOf units (value :: values) = units value.1 value.2 ++ unitsOf units values := rfl

@[simp] theorem unitsOf_append (values more : List (TypedValue Value)) :
    unitsOf units (values ++ more) = unitsOf units values ++ unitsOf units more :=
  List.flatMap_append

theorem unitsOf_flatMap (as : List α) (enc : α → List (TypedValue Value)) :
    unitsOf units (as.flatMap enc) = as.flatMap fun a => unitsOf units (enc a) :=
  List.flatMap_assoc

theorem attempt_nil (faithful : parcel.Faithful units) (t : τ) (v : Value t) (before : List β) :
    attempt parcel e t v [] before = (.ok (), [], before ++ units t v) := by
  simp [attempt, put, faithful.write]

theorem attempt_true (faithful : parcel.Faithful units) (t : τ) (v : Value t)
    (outcomes : List Bool) (before : List β) :
    attempt parcel e t v (true :: outcomes) before = (.ok (), outcomes, before ++ units t v) := by
  simp [attempt, put, faithful.write]

theorem attempt_false (t : τ) (v : Value t) (outcomes : List Bool) (before : List β) :
    attempt parcel e t v (false :: outcomes) before = (.error e, outcomes, before) := rfl

theorem attempt_of_succeed (faithful : parcel.Faithful units) {outcomes : List Bool}
    (ok : Succeed 1 outcomes) (t : τ) (v : Value t) (before : List β) :
    attempt parcel e t v outcomes before = (.ok (), outcomes.drop 1, before ++ units t v) := by
  cases outcomes with
  | nil => exact attempt_nil faithful t v before
  | cons outcome outcomes =>
    obtain rfl : outcome = true := ok outcome List.mem_cons_self
    exact attempt_true faithful t v outcomes before

theorem attempt_of_not_succeed {outcomes : List Bool} (fails : ¬ Succeed 1 outcomes) (t : τ)
    (v : Value t) (before : List β) :
    attempt parcel e t v outcomes before = (.error e, outcomes.drop 1, before) := by
  cases outcomes with
  | nil => exact absurd (succeed_nil 1) fails
  | cons outcome outcomes =>
    cases outcome with
    | true => exact absurd (by simp [Succeed]) fails
    | false => rfl

theorem Attempts.pure (a : α) :
    Attempts units error (pure a : ParcelAction β (List Bool) ε α) [] := by
  intro outcomes before
  refine ⟨fun _ => ⟨a, ?_⟩, fun fails => absurd (fun _ there => nomatch there) fails⟩
  rw [unitsOf_nil, List.append_nil]
  rfl

theorem Attempts.attempt (faithful : parcel.Faithful units) (stops : error e) (t : τ)
    (v : Value t) : Attempts units error (attempt parcel e t v) [⟨t, v⟩] := by
  intro outcomes before
  rw [unitsOf_cons, unitsOf_nil, List.append_nil]
  exact ⟨fun ok => ⟨(), attempt_of_succeed faithful ok t v before⟩,
    fun fails => ⟨e, _, _, stops, attempt_of_not_succeed fails t v before⟩⟩

theorem Attempts.bind (first : Attempts units error x values)
    (second : ∀ a, Attempts units error (f a) more) :
    Attempts units error (x >>= f) (values ++ more) := by
  intro outcomes before
  rw [List.length_append, succeed_add]
  by_cases ok : Succeed values.length outcomes
  · obtain ⟨a, wrote⟩ := (first outcomes before).1 ok
    have next := second a (outcomes.drop values.length) (before ++ unitsOf units values)
    rw [bind_of_ok wrote, ← List.drop_drop, unitsOf_append, ← List.append_assoc]
    exact ⟨fun both => next.1 both.2, fun fails => next.2 fun later => fails ⟨ok, later⟩⟩
  · obtain ⟨e, outcomes', after, stops, stopped⟩ := (first outcomes before).2 ok
    rw [bind_of_error stopped]
    exact ⟨fun both => absurd both.1 ok, fun _ => ⟨e, outcomes', after, stops, rfl⟩⟩

/-- A write and what comes after it. -/
theorem Attempts.cons {value : TypedValue Value} (first : Attempts units error x [value])
    (second : ∀ a, Attempts units error (f a) values) :
    Attempts units error (x >>= f) (value :: values) :=
  first.bind second

theorem Attempts.withError (inner : Attempts units error x values) (stops : error e) :
    Attempts units error (withError e x) values := by
  intro outcomes before
  have next := inner outcomes before
  unfold ParcelAction.withError
  refine ⟨fun ok => ?_, fun fails => ?_⟩
  · obtain ⟨a, wrote⟩ := next.1 ok
    exact ⟨a, by rw [wrote]⟩
  · obtain ⟨_, outcomes', after, _, stopped⟩ := next.2 fails
    exact ⟨e, outcomes', after, stops, by rw [stopped]⟩

/-- The action always stops with one of these errors. -/
def Stops (error : ε → Prop) (act : ParcelAction β (List Bool) ε α) : Prop :=
  ∀ outcomes before, ∃ e outcomes' after,
    error e ∧ act outcomes before = (.error e, outcomes', after)

theorem Stops.fail (stops : error e) :
    Stops error (fail e : ParcelAction β (List Bool) ε α) :=
  fun outcomes before => ⟨e, outcomes, before, stops, rfl⟩

theorem Stops.bind (first : Attempts units error x values) (second : ∀ a, Stops error (f a)) :
    Stops error (x >>= f) := by
  intro outcomes before
  by_cases ok : Succeed values.length outcomes
  · obtain ⟨a, wrote⟩ := (first outcomes before).1 ok
    rw [bind_of_ok wrote]
    exact second a _ _
  · obtain ⟨e, outcomes', after, stops, stopped⟩ := (first outcomes before).2 ok
    exact ⟨e, outcomes', after, stops, bind_of_error stopped⟩

end Attempting

/-! ## Reading -/

/-- The action reads `data`, whatever follows it, returns `a` and takes the
out-parameter from `out` to `out'`. -/
def Consumes (act : ParcelAction β δ ε α) (out : δ) (data : List β) (a : α) (out' : δ) : Prop :=
  ∀ rest, act out (data ++ rest) = (.ok a, out', rest)

section Reading

variable {parcel : Parcel Value β} {units : (t : τ) → Value t → List β}
  {x : ParcelAction β δ ε α} {f : α → ParcelAction β δ ε γ} {data more : List β} {a : α} {c : γ}
  {e : ε} {out out' out'' : δ}

/-- Reading the same gives the same. -/
theorem Consumes.unique {act : ParcelAction β δ ε α} {a' : α}
    (left : Consumes act out data a out') (right : Consumes act out data a' out'') : out' = out'' :=
  congrArg (fun result => result.2.1) ((left []).symm.trans (right []))

theorem Consumes.pure (out : δ) (a : α) : Consumes (pure a : ParcelAction β δ ε α) out [] a out :=
  fun _ => rfl

theorem Consumes.bind (first : Consumes x out data a out')
    (second : Consumes (f a) out' more c out'') :
    Consumes (x >>= f) out (data ++ more) c out'' := by
  intro rest
  rw [List.append_assoc, bind_of_ok (first (more ++ rest))]
  exact second rest

theorem Consumes.update (g : δ → δ) (out : δ) :
    Consumes (update g : ParcelAction β δ ε Unit) out [] () (g out) := fun _ => rfl

theorem Consumes.take (faithful : parcel.Faithful units) (t : τ) (v : Value t) (out : δ) :
    Consumes (take parcel e t : ParcelAction β δ ε (Value t)) out (units t v) v out := by
  intro rest
  unfold ParcelAction.take
  rw [faithful.read]

theorem Consumes.takeUnchecked (faithful : parcel.Faithful units) (t : τ) (v junk : Value t)
    (out : δ) :
    Consumes (takeUnchecked parcel t junk : ParcelAction β δ ε (Value t)) out (units t v) v
      out := by
  intro rest
  unfold ParcelAction.takeUnchecked
  rw [faithful.read]
  rfl

theorem Consumes.within {get : δ → δ'} {set : δ' → δ → δ} {part : δ'}
    {act : ParcelAction β δ' ε α} (inner : Consumes act (get out) data a part) :
    Consumes (within get set act) out data a (set part out) := by
  intro rest
  unfold ParcelAction.within
  rw [inner rest]

/-- A loop whose body reads one element and appends to a list reads them all. -/
theorem Consumes.times {η : Type} {body : ParcelAction β (List η) ε Unit} {enc : α → List β}
    {dec : α → η} {as : List α}
    (each : ∀ a ∈ as, ∀ done, Consumes body done (enc a) () (done ++ [dec a])) :
    ∀ done, Consumes (times body as.length) done (as.flatMap enc) () (done ++ as.map dec) := by
  induction as with
  | nil =>
    intro done
    rw [List.map_nil, List.append_nil]
    exact .pure done ()
  | cons a as ih =>
    intro done
    rw [List.flatMap_cons, List.map_cons, List.append_cons]
    exact .bind (each a List.mem_cons_self done)
      (ih (fun b there => each b (List.mem_cons_of_mem a there)) (done ++ [dec a]))

end Reading

/-! ## Values in a parcel -/

/-- Reading these values one after the other leads from the one contents to the other. -/
inductive Decodes (parcel : Parcel Value β) :
    List (TypedValue Value) → List β → List β → Prop
  | nil {contents : List β} : Decodes parcel [] contents contents
  | cons {t : τ} {v : Value t} {more : List (TypedValue Value)} {contents contents' rest : List β}
      (read : parcel.read t contents = (some v, contents'))
      (next : Decodes parcel more contents' rest) :
      Decodes parcel (⟨t, v⟩ :: more) contents rest

/-- Wherever these values are in the parcel the action reads them, returns `a` and
takes the out-parameter from `out` to `out'`. -/
def Takes (parcel : Parcel Value β) (act : ParcelAction β δ ε α) (out : δ)
    (values : List (TypedValue Value)) (a : α) (out' : δ) : Prop :=
  ∀ contents rest, Decodes parcel values contents rest → act out contents = (.ok a, out', rest)

section Decoding

variable {parcel : Parcel Value β} {units : (t : τ) → Value t → List β}
  {x : ParcelAction β δ ε α} {f : α → ParcelAction β δ ε γ} {t : τ} {v : Value t}
  {values more : List (TypedValue Value)} {contents mid rest : List β} {a : α} {c : γ}
  {e : ε} {out out' out'' : δ}

theorem Decodes.single (read : parcel.read t contents = (some v, rest)) :
    Decodes parcel [⟨t, v⟩] contents rest :=
  .cons read .nil

theorem Decodes.append (first : Decodes parcel values contents mid)
    (second : Decodes parcel more mid rest) : Decodes parcel (values ++ more) contents rest := by
  induction first with
  | nil => exact second
  | cons read _ ih => exact .cons read (ih second)

theorem Decodes.of_append :
    ∀ {contents}, Decodes parcel (values ++ more) contents rest →
      ∃ mid, Decodes parcel values contents mid ∧ Decodes parcel more mid rest := by
  induction values with
  | nil => exact fun all => ⟨_, .nil, all⟩
  | cons value values ih =>
    intro contents all
    cases all with
    | cons read next =>
      obtain ⟨mid, first, second⟩ := ih next
      exact ⟨mid, .cons read first, second⟩

/-- What was written can be read. -/
theorem Decodes.of_faithful (faithful : parcel.Faithful units)
    (values : List (TypedValue Value)) (rest : List β) :
    Decodes parcel values (unitsOf units values ++ rest) rest := by
  induction values with
  | nil => exact .nil
  | cons value values ih =>
    rw [unitsOf_cons, List.append_assoc]
    exact .cons (faithful.read _ _ _) ih

theorem Takes.consumes (takes : Takes parcel x out values a out')
    (faithful : parcel.Faithful units) : Consumes x out (unitsOf units values) a out' :=
  fun rest => takes _ rest (.of_faithful faithful values rest)

theorem Takes.pure (out : δ) (a : α) :
    Takes parcel (pure a : ParcelAction β δ ε α) out [] a out := by
  intro contents rest all
  cases all with
  | nil => rfl

theorem Takes.bind (first : Takes parcel x out values a out')
    (second : Takes parcel (f a) out' more c out'') :
    Takes parcel (x >>= f) out (values ++ more) c out'' := by
  intro contents rest all
  obtain ⟨mid, here, there⟩ := all.of_append
  rw [bind_of_ok (first contents mid here)]
  exact second mid rest there

/-- Nothing is read after the action. -/
theorem Takes.bind_nil (first : Takes parcel x out values a out')
    (second : Takes parcel (f a) out' [] c out'') : Takes parcel (x >>= f) out values c out'' := by
  rw [← List.append_nil values]
  exact first.bind second

/-- A read and what comes after it. -/
theorem Takes.take_bind {f : Value t → ParcelAction β δ ε γ}
    (second : Takes parcel (f v) out more c out') :
    Takes parcel (take parcel e t >>= f) out (⟨t, v⟩ :: more) c out' := by
  intro contents rest all
  cases all with
  | cons read next =>
    rw [bind_of_ok (take_of_some read out)]
    exact second _ rest next

theorem Takes.takeUnchecked_bind {junk : Value t} {f : Value t → ParcelAction β δ ε γ}
    (second : Takes parcel (f v) out more c out') :
    Takes parcel (takeUnchecked parcel t junk >>= f) out (⟨t, v⟩ :: more) c out' := by
  intro contents rest all
  cases all with
  | cons read next =>
    rw [bind_of_ok (takeUnchecked_of_some read junk out)]
    exact second _ rest next

theorem Takes.update (g : δ → δ) (out : δ) :
    Takes parcel (update g : ParcelAction β δ ε Unit) out [] () (g out) := by
  intro contents rest all
  cases all with
  | nil => rfl

theorem Takes.update_bind {g : δ → δ} {f : Unit → ParcelAction β δ ε γ}
    (next : Takes parcel (f ()) (g out) values c out') :
    Takes parcel (ParcelAction.update g >>= f) out values c out' := next

theorem Takes.nested {d d' : δ'} {act : ParcelAction β δ' ε α}
    (inner : Takes parcel act d values a d') (out : δ) :
    Takes parcel (nested d act : ParcelAction β δ ε (Except ε α × δ')) out values (.ok a, d')
      out := by
  intro contents rest all
  unfold ParcelAction.nested
  rw [inner contents rest all]

theorem Takes.checked {d d' : δ'} {act : ParcelAction β δ' ε α}
    (inner : Takes parcel act d values a d') (out : δ) :
    Takes parcel (checked d act : ParcelAction β δ ε δ') out values d' out := by
  intro contents rest all
  unfold ParcelAction.checked
  rw [inner contents rest all]

/-- A loop whose body takes one element and appends to a list takes them all. -/
theorem Takes.times {η : Type} {body : ParcelAction β (List η) ε Unit}
    {enc : α → List (TypedValue Value)} {dec : α → η} {as : List α}
    (each : ∀ a ∈ as, ∀ done, Takes parcel body done (enc a) () (done ++ [dec a])) :
    ∀ done, Takes parcel (times body as.length) done (as.flatMap enc) ()
      (done ++ as.map dec) := by
  induction as with
  | nil =>
    intro done
    rw [List.map_nil, List.append_nil]
    exact .pure done ()
  | cons a as ih =>
    intro done
    rw [List.flatMap_cons, List.map_cons, List.append_cons]
    exact .bind (each a List.mem_cons_self done)
      (ih (fun b there => each b (List.mem_cons_of_mem a there)) (done ++ [dec a]))

theorem Takes.collect {body : ParcelAction β (List α) ε Unit}
    {enc : α → List (TypedValue Value)} {as : List α}
    (each : ∀ a ∈ as, ∀ done, Takes parcel body done (enc a) () (done ++ [a])) (done : List α) :
    Takes parcel (ParcelAction.times body as.length) done (as.flatMap enc) () (done ++ as) := by
  have mapped : ∀ a ∈ as, ∀ done, Takes parcel body done (enc a) () (done ++ [id a]) := each
  have all := Takes.times mapped done
  rwa [List.map_id] at all

end Decoding

end ParcelAction

/-! ## Reads that fail -/

/-- The same parcel with a note, behind what is in it, for each read that has failed. -/
def Parcel.noting {τ : Type} {Value : τ → Type} {β : Type} (parcel : Parcel Value β) :
    Parcel Value (Option β) where
  write t v contents :=
    let (ok, data) := parcel.write t v contents.reduceOption
    (ok, data.map some ++ contents.filter Option.isNone)
  read t contents :=
    match parcel.read t contents.reduceOption with
    | (some v, data) => (some v, data.map some ++ contents.filter Option.isNone)
    | (none, data) => (none, data.map some ++ none :: contents.filter Option.isNone)

namespace ParcelAction

variable {τ : Type} {Value : τ → Type} {β : Type} {parcel : Parcel Value β}

/-- Where all reads succeed nothing is noted. -/
theorem Decodes.noting {values : List (TypedValue Value)} {contents rest : List β}
    (all : Decodes parcel values contents rest) :
    Decodes parcel.noting values (contents.map some) (rest.map some) := by
  induction all with
  | nil => exact .nil
  | @cons t v more contents contents' rest read next ih =>
    have unnoted : (contents.map some).filter Option.isNone = [] :=
      List.filter_eq_nil_iff.mpr fun unit there => by
        obtain ⟨b, _, rfl⟩ := List.mem_map.mp there
        simp
    refine .cons ?_ ih
    simp only [Parcel.noting, List.reduceOption, List.filterMap_map, Function.comp_def, id,
      List.filterMap_some, read, unnoted, List.append_nil]

end ParcelAction

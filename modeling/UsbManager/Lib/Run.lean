import Mathlib.Logic.Relation

/-!
# Runs of a labelled transition system

`Run step init history s`: from `init` the system gets to `s` by steps whose
labels, oldest first, are `history`.  A property of the history and the state
that holds at the start and that every step preserves holds in every run
(`Run.invariant`).  `Guarded allowed step` is the system with the steps an
environment is trusted to take.
-/

variable {σ ℓ : Type}

/-- A run and the labels of its steps. -/
inductive Run (step : σ → ℓ → σ → Prop) (init : σ) : List ℓ → σ → Prop
  | start : Run step init [] init
  | step {history : List ℓ} {s s' : σ} {label : ℓ} :
    Run step init history s → step s label s' → Run step init (history ++ [label]) s'

/-- The steps that `allowed` permits in the state they are taken in. -/
def Guarded (allowed : σ → ℓ → Prop) (step : σ → ℓ → σ → Prop) (s : σ) (label : ℓ) (s' : σ) :
    Prop :=
  allowed s label ∧ step s label s'

namespace Run

variable {step : σ → ℓ → σ → Prop} {init s : σ} {history : List ℓ}

/-- What holds at the start and is preserved by every step holds in every run. -/
theorem invariant {property : List ℓ → σ → Prop} (base : property [] init)
    (preserved : ∀ history s label s', property history s → step s label s' →
      property (history ++ [label]) s')
    (run : Run step init history s) : property history s := by
  induction run with
  | start => exact base
  | step _ taken ih => exact preserved _ _ _ _ ih taken

/-- A guarded run is a run. -/
theorem unguarded {allowed : σ → ℓ → Prop} (run : Run (Guarded allowed step) init history s) :
    Run step init history s := by
  induction run with
  | start => exact .start
  | step _ taken ih => exact ih.step taken.2

/-- A run can go on. -/
theorem append {later : List ℓ} {s' : σ} (run : Run step init history s)
    (rest : Run step s later s') : Run step init (history ++ later) s' := by
  induction rest with
  | start => rwa [List.append_nil]
  | step _ taken ih =>
    rw [← List.append_assoc]
    exact ih.step taken

/-- Every step of a run was taken in a state the run got to. -/
theorem split {before after : List ℓ} {label : ℓ}
    (run : Run step init (before ++ label :: after) s) :
    ∃ s₁ s₂, Run step init before s₁ ∧ step s₁ label s₂ := by
  generalize whole : before ++ label :: after = history at run
  induction run generalizing after with
  | start => simp at whole
  | @step history s s' last earlier taken ih =>
    rcases after.eq_nil_or_concat with rfl | ⟨rest, final, rfl⟩
    · obtain ⟨rfl, same⟩ := List.append_inj' whole rfl
      obtain rfl : label = last := by simpa using same
      exact ⟨s, s', earlier, taken⟩
    · have same : before ++ label :: rest = history := by
        have shape : (before ++ label :: rest) ++ [final] = history ++ [last] := by
          simpa using whole
        exact (List.append_inj' shape rfl).1
      exact ih same

/-- The last step of a run. -/
theorem last {label : ℓ} (run : Run step init (history ++ [label]) s) :
    ∃ s₁, Run step init history s₁ ∧ step s₁ label s := by
  generalize whole : history ++ [label] = labels at run
  cases run with
  | start => simp at whole
  | step earlier taken =>
    obtain ⟨rfl, same⟩ := List.append_inj' whole rfl
    obtain rfl := List.singleton_inj.mp same
    exact ⟨_, earlier, taken⟩

/-- What only `sets` makes true and `clears` makes false holds exactly if it was set at a
time when it did not hold, and was not cleared since. -/
theorem since_iff {holds : σ → Prop} {sets clears : ℓ → Prop} (absent : ¬ holds init)
    (apart : ∀ label, sets label → ¬ clears label)
    (change : ∀ {history s label s'}, Run step init history s → step s label s' →
      (holds s' ↔ sets label ∨ ¬ clears label ∧ holds s))
    (run : Run step init history s) :
    holds s ↔ ∃ before label after s₁, history = before ++ label :: after ∧
      Run step init before s₁ ∧ ¬ holds s₁ ∧ sets label ∧ ∀ later ∈ after, ¬ clears later := by
  induction run with
  | start =>
    exact ⟨fun held => absurd held absent, fun ⟨_, _, _, _, whole, _⟩ => by simp at whole⟩
  | @step history s s' last earlier taken ih =>
    rw [change earlier taken]
    constructor
    · intro held
      by_cases before : holds s
      · have kept : ¬ clears last := held.elim (apart last) And.left
        obtain ⟨first, label, after, s₁, rfl, run₁, absent₁, set, stays⟩ := ih.mp before
        refine ⟨first, label, after ++ [last], s₁, by simp, run₁, absent₁, set, ?_⟩
        intro later there
        rcases List.mem_append.mp there with there | there
        · exact stays later there
        · exact List.mem_singleton.mp there ▸ kept
      · have set : sets last := held.resolve_right fun kept => before kept.2
        exact ⟨history, last, [], s, rfl, earlier, before, set, nofun⟩
    · rintro ⟨first, label, after, s₁, whole, run₁, absent₁, set, stays⟩
      rcases after.eq_nil_or_concat with rfl | ⟨rest, final, rfl⟩
      · obtain ⟨_, same⟩ := List.append_inj' whole rfl
        exact .inl (List.singleton_inj.mp same ▸ set)
      · have shape : history ++ [last] = (first ++ label :: rest) ++ [final] := by
          simpa using whole
        obtain ⟨same, ends⟩ := List.append_inj' shape rfl
        obtain rfl := List.singleton_inj.mp ends
        refine .inr ⟨stays last (by simp), ih.mpr ?_⟩
        exact ⟨first, label, rest, s₁, same, run₁, absent₁, set, fun later there =>
          stays later (by simp [there])⟩

end Run

/-! ## The most recent entry of a history -/

section LastSome

variable {α : Type}

/-- What `field` says of the last label it says anything of. -/
def lastSome (field : ℓ → Option α) (history : List ℓ) : Option α :=
  history.reverse.findSome? field

@[simp] theorem lastSome_nil (field : ℓ → Option α) : lastSome field [] = none := rfl

@[simp] theorem lastSome_concat (field : ℓ → Option α) (history : List ℓ) (label : ℓ) :
    lastSome field (history ++ [label]) = (field label).or (lastSome field history) := by
  unfold lastSome
  rw [List.reverse_append]
  cases told : field label with
  | none => simp [told]
  | some a => simp [told]

/-- Labels of which nothing is said do not matter. -/
theorem lastSome_append_of_silent {field : ℓ → Option α} (history : List ℓ) {later : List ℓ}
    (silent : ∀ label ∈ later, field label = none) :
    lastSome field (history ++ later) = lastSome field history := by
  unfold lastSome
  rw [List.reverse_append, List.findSome?_append,
    List.findSome?_eq_none_iff.mpr fun label there => silent label (List.mem_reverse.mp there)]
  rfl

end LastSome

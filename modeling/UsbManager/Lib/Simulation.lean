import UsbManager.Lib.Run

/-!
# Simulations between labelled transition systems

`Simulates rel told step step'`: each step of the first system, from related states,
is matched by a run of the second whose labels are what `told` makes of the label of
the step.  Then every run of the first system is matched by a run of the second
(`Simulates.run`), and what holds in all runs of the second holds in those of the
first.  Where two systems take the same steps in all states that have an invariant,
they have the same runs (`Run.iff_of_agree`).
-/

variable {σ τ ℓ κ : Type}

/-- Each step from related states is matched by a run to related states. -/
def Simulates (rel : σ → τ → Prop) (told : ℓ → List κ) (step : σ → ℓ → σ → Prop)
    (step' : τ → κ → τ → Prop) : Prop :=
  ∀ {s : σ} {label : ℓ} {s' : σ} {t : τ}, rel s t → step s label s' →
    ∃ t', Run step' t (told label) t' ∧ rel s' t'

namespace Run

variable {step : σ → ℓ → σ → Prop} {init s s' : σ} {label : ℓ}

/-- One step is a run. -/
theorem single (taken : step s label s') : Run step s [label] s' := start.step taken

/-- A run whose steps all preserve what holds at the start. -/
theorem preserves {property : σ → Prop} {history : List ℓ} (base : property init)
    (preserved : ∀ s label s', property s → step s label s' → property s')
    (run : Run step init history s) : property s :=
  run.invariant base fun _ => preserved

/-- A run of steps that are steps of another system where an invariant holds. -/
theorem of_agree {step' : σ → ℓ → σ → Prop} {inv : σ → Prop} {history : List ℓ}
    (base : inv init) (kept : ∀ s label s', inv s → step s label s' → inv s')
    (agree : ∀ s label s', inv s → step s label s' → step' s label s')
    (run : Run step init history s) : Run step' init history s := by
  have both : Run step' init history s ∧ inv s := by
    induction run with
    | start => exact ⟨.start, base⟩
    | step _ taken ih => exact ⟨ih.1.step (agree _ _ _ ih.2 taken), kept _ _ _ ih.2 taken⟩
  exact both.1

/-- Two systems that take the same steps where an invariant holds have the same runs. -/
theorem iff_of_agree {step' : σ → ℓ → σ → Prop} {inv : σ → Prop} {history : List ℓ}
    (base : inv init) (kept : ∀ s label s', inv s → step s label s' → inv s')
    (agree : ∀ s label s', inv s → (step s label s' ↔ step' s label s')) :
    Run step init history s ↔ Run step' init history s := by
  have kept' (s : σ) (label : ℓ) (s' : σ) (holds : inv s) (taken : step' s label s') : inv s' :=
    kept s label s' holds ((agree s label s' holds).mpr taken)
  exact ⟨of_agree base kept fun s label s' holds => (agree s label s' holds).mp,
    of_agree base kept' fun s label s' holds => (agree s label s' holds).mpr⟩

end Run

namespace Simulates

variable {rel : σ → τ → Prop} {told : ℓ → List κ} {step : σ → ℓ → σ → Prop}
  {step' : τ → κ → τ → Prop} {init s : σ} {init' : τ} {history : List ℓ}

/-- Every run is matched by a run with the labels that are told. -/
theorem run (simulates : Simulates rel told step step') (base : rel init init')
    (run : Run step init history s) :
    ∃ t, Run step' init' (history.flatMap told) t ∧ rel s t := by
  induction run with
  | start => exact ⟨init', .start, base⟩
  | @step history s label s' _ taken ih =>
    obtain ⟨t, earlier, related⟩ := ih
    obtain ⟨t', later, related'⟩ := simulates related taken
    rw [List.flatMap_append, List.flatMap_singleton]
    exact ⟨t', earlier.append later, related'⟩

end Simulates

import Mathlib.Logic.Relation

/-!
# Programs that may return, fault or run forever

`Prog ε α` is a program run on a budget of loop iterations: a budget that is
too small answers `timeout`, and a larger budget never changes an answer
already given (`stable` is a field, so no unstable program can be built).
The budget is forgotten by the three judgements `Returns`, `Faults` and
`Diverges`, of which exactly one holds (`returns_or_faults_or_diverges`).

`Prog.loop` is the only source of non-termination.  Its rules speak of the
states reached by complete passes (`Passes`): a loop returns, faults or
diverges according to what one more pass does there, and it runs forever only
by a pass that does or by an endless chain of passes.
-/

/-- What a run on a finite budget ends with. -/
inductive Outcome (ε α : Type) where
  | ok (a : α)
  | fault (e : ε)
  | timeout
  deriving DecidableEq, Repr

/-- A program: its answer for every budget, stable once it is not `timeout`. -/
structure Prog (ε α : Type) where
  exec : Nat → Outcome ε α
  stable : ∀ {m n : Nat}, m ≤ n → exec m ≠ .timeout → exec n = exec m

/-- One pass of a loop body: go round again, or leave with a result. -/
inductive Pass (σ β : Type) where
  | next (s : σ)
  | done (b : β)
  deriving DecidableEq, Repr

namespace Prog

variable {ε α β σ : Type}

/-! ## Building programs -/

/-- A program that needs no budget. -/
def const (out : Outcome ε α) : Prog ε α where
  exec _ := out
  stable _ _ := rfl

/-- Stop with a fault. -/
def throw (e : ε) : Prog ε α := const (.fault e)

/-- Continue an answer that is already known; faults and timeouts pass through. -/
def bindOutcome (out : Outcome ε α) (f : α → Prog ε β) (fuel : Nat) : Outcome ε β :=
  match out with
  | .ok a => (f a).exec fuel
  | .fault e => .fault e
  | .timeout => .timeout

def bind (x : Prog ε α) (f : α → Prog ε β) : Prog ε β where
  exec fuel := bindOutcome (x.exec fuel) f fuel
  stable {m n} le known := by
    cases first : x.exec m with
    | ok a =>
      have later : x.exec n = .ok a := by rw [x.stable le (by simp [first]), first]
      simp only [bindOutcome, first, later] at known ⊢
      exact (f a).stable le known
    | fault e =>
      have later : x.exec n = .fault e := by rw [x.stable le (by simp [first]), first]
      simp only [bindOutcome, later]
    | timeout => simp [bindOutcome, first] at known

instance : Monad (Prog ε) where
  pure a := const (.ok a)
  bind := bind

/-! ### Programs are equal when they answer alike -/

@[ext] theorem ext {x y : Prog ε α} (same : ∀ fuel, x.exec fuel = y.exec fuel) : x = y := by
  cases x
  cases y
  congr
  funext fuel
  exact same fuel

theorem bind_pure (x : Prog ε α) : id <$> x = x := by
  ext fuel
  change bindOutcome (x.exec fuel) (fun a => const (.ok a)) fuel = x.exec fuel
  cases x.exec fuel <;> rfl

theorem bind_assoc {γ : Type} (x : Prog ε α) (f : α → Prog ε β) (g : β → Prog ε γ) :
    x >>= f >>= g = x >>= fun a => f a >>= g := by
  ext fuel
  change bindOutcome (bindOutcome (x.exec fuel) f fuel) g fuel =
    bindOutcome (x.exec fuel) (fun a => f a >>= g) fuel
  cases x.exec fuel <;> rfl

instance : LawfulMonad (Prog ε) :=
  LawfulMonad.mk' (Prog ε) bind_pure (fun _ _ => rfl) bind_assoc

@[simp] theorem throw_bind (e : ε) (f : α → Prog ε β) : throw e >>= f = throw e := rfl

/-! ### Reading and repeating -/

/-- Read a value that may be missing, faulting with `e` where it is. -/
def getOr (e : ε) (value : Option α) : Prog ε α :=
  match value with
  | some a => pure a
  | none => throw e

/-- At most `passes` passes of a loop, each body on the whole budget `fuel`. -/
def loopExec (body : σ → Prog ε (Pass σ β)) (fuel : Nat) : Nat → σ → Outcome ε β
  | 0, _ => .timeout
  | passes + 1, s =>
    match (body s).exec fuel with
    | .ok (.next s') => loopExec body fuel passes s'
    | .ok (.done b) => .ok b
    | .fault e => .fault e
    | .timeout => .timeout

theorem loopExec_stable (body : σ → Prog ε (Pass σ β)) {fuel fuel' : Nat} (le : fuel ≤ fuel') :
    ∀ {passes passes' : Nat} {s : σ}, passes ≤ passes' →
      loopExec body fuel passes s ≠ .timeout →
      loopExec body fuel' passes' s = loopExec body fuel passes s
  | 0, _, _, _, known => (known rfl).elim
  | passes + 1, passes', s, lePasses, known => by
    obtain ⟨more, rfl⟩ : ∃ more, passes' = more + 1 := ⟨passes' - 1, by omega⟩
    simp only [loopExec] at known ⊢
    cases first : (body s).exec fuel with
    | timeout => simp [first] at known
    | fault e => rw [(body s).stable le (by simp [first]), first]
    | ok pass =>
      have later : (body s).exec fuel' = .ok pass := by
        rw [(body s).stable le (by simp [first]), first]
      cases pass with
      | done b => simp only [later]
      | next s' =>
        simp only [first, later] at known ⊢
        exact loopExec_stable body le (by omega) known

/-- Repeat `body` until it leaves. -/
def loop (body : σ → Prog ε (Pass σ β)) (s : σ) : Prog ε β where
  exec fuel := loopExec body fuel fuel s
  stable le known := loopExec_stable body le le known

/-! ## The three judgements -/

/-- Some budget makes `x` return `a`. -/
def Returns (x : Prog ε α) (a : α) : Prop := ∃ fuel, x.exec fuel = .ok a

/-- Some budget makes `x` fault with `e`. -/
def Faults (x : Prog ε α) (e : ε) : Prop := ∃ fuel, x.exec fuel = .fault e

/-- No budget is enough. -/
def Diverges (x : Prog ε α) : Prop := ∀ fuel, x.exec fuel = .timeout

section Judgements

variable {x : Prog ε α} {a b : α} {e : ε}

theorem exec_eq_of_known {m n : Nat} {out out' : Outcome ε α} (left : x.exec m = out)
    (right : x.exec n = out') (knownLeft : out ≠ .timeout) (knownRight : out' ≠ .timeout) :
    out = out' := by
  rcases Nat.le_total m n with le | le
  · rw [← left, ← right, x.stable le (left ▸ knownLeft)]
  · rw [← left, ← right, x.stable le (right ▸ knownRight)]

theorem Returns.unique (left : x.Returns a) (right : x.Returns b) : a = b := by
  obtain ⟨m, left⟩ := left
  obtain ⟨n, right⟩ := right
  simpa using exec_eq_of_known left right (by simp) (by simp)

theorem Returns.not_faults (returned : x.Returns a) : ¬ x.Faults e := by
  rintro ⟨n, fault⟩
  obtain ⟨m, returned⟩ := returned
  simpa using exec_eq_of_known returned fault (by simp) (by simp)

theorem Returns.not_diverges (returned : x.Returns a) : ¬ x.Diverges := by
  intro diverges
  obtain ⟨m, returned⟩ := returned
  simp [diverges m] at returned

theorem Faults.not_diverges (fault : x.Faults e) : ¬ x.Diverges := by
  intro diverges
  obtain ⟨m, fault⟩ := fault
  simp [diverges m] at fault

theorem returns_or_faults_or_diverges (x : Prog ε α) :
    (∃ a, x.Returns a) ∨ (∃ e, x.Faults e) ∨ x.Diverges := by
  by_cases stuck : ∀ fuel, x.exec fuel = .timeout
  · exact .inr (.inr stuck)
  · obtain ⟨fuel, known⟩ := Classical.not_forall.mp stuck
    cases out : x.exec fuel with
    | ok a => exact .inl ⟨a, fuel, out⟩
    | fault e => exact .inr (.inl ⟨e, fuel, out⟩)
    | timeout => exact (known out).elim

end Judgements

/-! ## Rules for the straight-line constructs -/

section Rules

variable {x y : Prog ε α} {f : α → Prog ε β} {a a' : α} {b : β} {e e' : ε}

@[simp] theorem returns_pure : (pure a : Prog ε α).Returns a' ↔ a' = a := by
  constructor
  · rintro ⟨_, returned⟩
    exact (Outcome.ok.inj returned).symm
  · rintro rfl
    exact ⟨0, rfl⟩

@[simp] theorem not_faults_pure : ¬ (pure a : Prog ε α).Faults e := fun ⟨_, fault⟩ => nomatch fault

@[simp] theorem not_diverges_pure : ¬ (pure a : Prog ε α).Diverges :=
  (returns_pure.mpr rfl).not_diverges

@[simp] theorem not_returns_throw : ¬ (throw e : Prog ε α).Returns a :=
  fun ⟨_, returned⟩ => nomatch returned

@[simp] theorem faults_throw : (throw e : Prog ε α).Faults e' ↔ e' = e := by
  constructor
  · rintro ⟨_, fault⟩
    exact (Outcome.fault.inj fault).symm
  · rintro rfl
    exact ⟨0, rfl⟩

@[simp] theorem not_diverges_throw : ¬ (throw e : Prog ε α).Diverges :=
  (faults_throw.mpr rfl).not_diverges

@[simp] theorem returns_bind :
    (x >>= f).Returns b ↔ ∃ a, x.Returns a ∧ (f a).Returns b := by
  constructor
  · rintro ⟨fuel, returned⟩
    change bindOutcome (x.exec fuel) f fuel = _ at returned
    cases first : x.exec fuel with
    | ok a =>
      simp only [bindOutcome, first] at returned
      exact ⟨a, ⟨fuel, first⟩, fuel, returned⟩
    | fault e => simp [bindOutcome, first] at returned
    | timeout => simp [bindOutcome, first] at returned
  · rintro ⟨a, ⟨m, first⟩, n, second⟩
    refine ⟨max m n, ?_⟩
    change bindOutcome (x.exec (max m n)) f (max m n) = _
    rw [x.stable (Nat.le_max_left m n) (by simp [first]), first]
    exact ((f a).stable (Nat.le_max_right m n) (by simp [second])).trans second

@[simp] theorem faults_bind :
    (x >>= f).Faults e ↔ x.Faults e ∨ ∃ a, x.Returns a ∧ (f a).Faults e := by
  constructor
  · rintro ⟨fuel, fault⟩
    change bindOutcome (x.exec fuel) f fuel = _ at fault
    cases first : x.exec fuel with
    | ok a =>
      simp only [bindOutcome, first] at fault
      exact .inr ⟨a, ⟨fuel, first⟩, fuel, fault⟩
    | fault e' =>
      simp only [bindOutcome, first, Outcome.fault.injEq] at fault
      exact .inl ⟨fuel, fault ▸ first⟩
    | timeout => simp [bindOutcome, first] at fault
  · rintro (⟨fuel, fault⟩ | ⟨a, ⟨m, first⟩, n, second⟩)
    · refine ⟨fuel, ?_⟩
      change bindOutcome (x.exec fuel) f fuel = _
      rw [fault]
      rfl
    · refine ⟨max m n, ?_⟩
      change bindOutcome (x.exec (max m n)) f (max m n) = _
      rw [x.stable (Nat.le_max_left m n) (by simp [first]), first]
      exact ((f a).stable (Nat.le_max_right m n) (by simp [second])).trans second

@[simp] theorem diverges_bind :
    (x >>= f).Diverges ↔ x.Diverges ∨ ∃ a, x.Returns a ∧ (f a).Diverges := by
  constructor
  · intro diverges
    rcases returns_or_faults_or_diverges x with ⟨a, first⟩ | ⟨e, fault⟩ | stuck
    · refine .inr ⟨a, first, ?_⟩
      rcases returns_or_faults_or_diverges (f a) with ⟨b, second⟩ | ⟨e, fault⟩ | stuck
      · exact ((returns_bind.mpr ⟨a, first, second⟩).not_diverges diverges).elim
      · exact ((faults_bind.mpr (.inr ⟨a, first, fault⟩)).not_diverges diverges).elim
      · exact stuck
    · exact ((faults_bind.mpr (.inl fault)).not_diverges diverges).elim
    · exact .inl stuck
  · rintro (stuck | ⟨a, first, stuck⟩) fuel
    · change bindOutcome (x.exec fuel) f fuel = _
      rw [stuck fuel]
      rfl
    · change bindOutcome (x.exec fuel) f fuel = _
      cases known : x.exec fuel with
      | ok a' =>
        obtain rfl := Returns.unique ⟨fuel, known⟩ first
        exact stuck fuel
      | fault e => exact (first.not_faults ⟨fuel, known⟩).elim
      | timeout => rfl

@[simp] theorem returns_getOr {value : Option α} : (getOr e value).Returns a ↔ value = some a := by
  cases value <;> simp [getOr, eq_comm]

@[simp] theorem faults_getOr {value : Option α} :
    (getOr e value).Faults e' ↔ value = none ∧ e' = e := by
  cases value <;> simp [getOr]

@[simp] theorem not_diverges_getOr {value : Option α} : ¬ (getOr e value).Diverges := by
  cases value <;> simp [getOr]

variable {p : Prop} [Decidable p]

theorem returns_ite :
    (if p then x else y).Returns a ↔ p ∧ x.Returns a ∨ ¬ p ∧ y.Returns a := by
  by_cases holds : p <;> simp [holds]

theorem faults_ite :
    (if p then x else y).Faults e ↔ p ∧ x.Faults e ∨ ¬ p ∧ y.Faults e := by
  by_cases holds : p <;> simp [holds]

theorem diverges_ite :
    (if p then x else y).Diverges ↔ p ∧ x.Diverges ∨ ¬ p ∧ y.Diverges := by
  by_cases holds : p <;> simp [holds]

end Rules

/-! ## Programs with the same answers -/

section Equiv

variable {x y z : Prog ε α} {f g : α → Prog ε β}

/-- The two programs return the same values and fault alike, whatever budget
each needs for it. -/
def Equiv (x y : Prog ε α) : Prop :=
  (∀ a, x.Returns a ↔ y.Returns a) ∧ ∀ e, x.Faults e ↔ y.Faults e

theorem Equiv.rfl : Equiv x x := ⟨fun _ => Iff.rfl, fun _ => Iff.rfl⟩

theorem Equiv.symm (same : Equiv x y) : Equiv y x :=
  ⟨fun a => (same.1 a).symm, fun e => (same.2 e).symm⟩

theorem Equiv.trans (first : Equiv x y) (second : Equiv y z) : Equiv x z :=
  ⟨fun a => (first.1 a).trans (second.1 a), fun e => (first.2 e).trans (second.2 e)⟩

theorem Equiv.not_diverges (same : Equiv x y) (ends : ¬ y.Diverges) : ¬ x.Diverges := by
  rcases returns_or_faults_or_diverges y with ⟨a, returned⟩ | ⟨e, fault⟩ | stuck
  · exact ((same.1 a).mpr returned).not_diverges
  · exact ((same.2 e).mpr fault).not_diverges
  · exact (ends stuck).elim

theorem Equiv.diverges (same : Equiv x y) : x.Diverges ↔ y.Diverges := by
  constructor
  · intro stuck
    exact Classical.not_not.mp fun ends => same.not_diverges ends stuck
  · intro stuck
    exact Classical.not_not.mp fun ends => same.symm.not_diverges ends stuck

theorem Equiv.bind (same : Equiv x y) (sameNext : ∀ a, Equiv (f a) (g a)) :
    Equiv (x >>= f) (y >>= g) := by
  constructor
  · intro b
    simp only [returns_bind, same.1, (sameNext _).1]
  · intro e
    simp only [faults_bind, same.1, same.2, (sameNext _).2]

end Equiv

/-! ## Rules for loops -/

section Loops

variable {body : σ → Prog ε (Pass σ β)} {s s' : σ} {b : β} {e : ε}

/-- `s'` is reached from `s` by complete passes of the body. -/
def Passes (body : σ → Prog ε (Pass σ β)) : σ → σ → Prop :=
  Relation.ReflTransGen fun s s' => (body s).Returns (.next s')

/-- The answer of a body whose loop answers `out` by leaving there. -/
def leaving (out : Outcome ε β) : Outcome ε (Pass σ β) :=
  match out with
  | .ok b => .ok (.done b)
  | .fault e => .fault e
  | .timeout => .timeout

/-- A bounded loop with an answer has it from a pass it got to. -/
theorem exists_passes_of_loopExec {fuel : Nat} {out : Outcome ε β} (known : out ≠ .timeout) :
    ∀ {passes : Nat} {s : σ}, loopExec body fuel passes s = out →
      ∃ last, Passes body s last ∧ (body last).exec fuel = leaving out
  | 0, _, answer => (known answer.symm).elim
  | passes + 1, s, answer => by
    simp only [loopExec] at answer
    split at answer
    · rename_i s' first
      obtain ⟨last, reached, leaves⟩ := exists_passes_of_loopExec known answer
      exact ⟨last, .head ⟨fuel, first⟩ reached, leaves⟩
    · rename_i b first
      exact ⟨s, .refl, answer ▸ first⟩
    · rename_i e first
      exact ⟨s, .refl, answer ▸ first⟩
    · exact (known answer.symm).elim

/-- Leaving at a reached state is the answer of the whole loop. -/
theorem loop_exec_of_passes {out : Outcome ε β} (known : out ≠ .timeout) {last : σ}
    (reached : Passes body s last) {fuel : Nat}
    (leaves : (body last).exec fuel = leaving out) :
    ∃ fuel', (loop body s).exec fuel' = out := by
  induction reached using Relation.ReflTransGen.head_induction_on with
  | refl =>
    have stays : leaving (σ := σ) out ≠ .timeout := by
      cases out <;> simp_all [leaving]
    have later := (body last).stable (Nat.le_succ fuel) (leaves ▸ stays)
    refine ⟨fuel + 1, ?_⟩
    cases out <;> simp_all [loop, loopExec, leaving]
  | head step _ ih =>
    obtain ⟨m, first⟩ := step
    obtain ⟨n, rest⟩ := ih
    have later := Prog.stable _ (show m ≤ max m n + 1 by omega)
      (fun timeout => nomatch first.symm.trans timeout)
    refine ⟨max m n + 1, ?_⟩
    simp only [loop, loopExec, later, first]
    rw [loopExec_stable body (show n ≤ max m n + 1 by omega) (Nat.le_max_right m n)]
    · exact rest
    · exact fun timeout => known (rest.symm.trans timeout)

/-- A loop returns what the first pass that leaves it says. -/
theorem returns_loop :
    (loop body s).Returns b ↔ ∃ last, Passes body s last ∧ (body last).Returns (.done b) := by
  constructor
  · rintro ⟨fuel, returned⟩
    obtain ⟨last, reached, leaves⟩ := exists_passes_of_loopExec (by simp) returned
    exact ⟨last, reached, fuel, leaves⟩
  · rintro ⟨last, reached, fuel, leaves⟩
    exact loop_exec_of_passes (by simp) reached leaves

/-- A loop faults exactly when some pass it gets to does. -/
theorem faults_loop :
    (loop body s).Faults e ↔ ∃ last, Passes body s last ∧ (body last).Faults e := by
  constructor
  · rintro ⟨fuel, fault⟩
    obtain ⟨last, reached, leaves⟩ := exists_passes_of_loopExec (by simp) fault
    exact ⟨last, reached, fuel, leaves⟩
  · rintro ⟨last, reached, fuel, leaves⟩
    exact loop_exec_of_passes (by simp) reached leaves

/-- What a loop does after a pass. -/
def after (body : σ → Prog ε (Pass σ β)) : Pass σ β → Prog ε β
  | .next s => loop body s
  | .done b => pure b

/-- A loop is one pass and what follows it. -/
theorem loop_equiv : Equiv (loop body s) (body s >>= after body) := by
  constructor
  · intro b
    rw [returns_loop, returns_bind]
    constructor
    · intro h
      obtain ⟨last, reached, leaves⟩ := h
      rcases reached.cases_head with rfl | ⟨s', first, rest⟩
      · exact ⟨.done b, leaves, returns_pure.mpr rfl⟩
      · exact ⟨.next s', first, returns_loop.mpr ⟨last, rest, leaves⟩⟩
    · intro h
      obtain ⟨pass, first, rest⟩ := h
      cases pass with
      | done b' =>
        obtain rfl := returns_pure.mp rest
        exact ⟨s, .refl, first⟩
      | next s' =>
        obtain ⟨last, reached, leaves⟩ := returns_loop.mp rest
        exact ⟨last, .head first reached, leaves⟩
  · intro e
    rw [faults_loop, faults_bind]
    constructor
    · intro h
      obtain ⟨last, reached, bad⟩ := h
      rcases reached.cases_head with rfl | ⟨s', first, rest⟩
      · exact .inl bad
      · exact .inr ⟨.next s', first, faults_loop.mpr ⟨last, rest, bad⟩⟩
    · intro h
      rcases h with bad | ⟨pass, first, rest⟩
      · exact ⟨s, .refl, bad⟩
      cases pass with
      | done b' => exact (not_faults_pure rest).elim
      | next s' =>
        obtain ⟨last, reached, bad⟩ := faults_loop.mp rest
        exact ⟨last, .head first reached, bad⟩

/-- A loop whose reached passes all finish, each lowering a measure, does not run forever. -/
theorem not_diverges_loop (measure : σ → Nat)
    (finishes : ∀ last, Passes body s last → ¬ (body last).Diverges)
    (lowers : ∀ last next, Passes body s last → (body last).Returns (.next next) →
      measure next < measure last) :
    ¬ (loop body s).Diverges := by
  induction size : measure s using Nat.strongRecOn generalizing s with
  | ind size ih =>
    apply loop_equiv.not_diverges
    rw [diverges_bind]
    intro h
    rcases h with stuck | ⟨pass, first, stuck⟩
    · exact finishes s .refl stuck
    cases pass with
    | done b => exact not_diverges_pure stuck
    | next s' =>
      exact ih (measure s') (size ▸ lowers s s' .refl first)
        (fun last reached => finishes last (.head first reached))
        (fun last next reached => lowers last next (.head first reached)) rfl stuck

/-- A loop that comes to a pass that does not finish runs forever. -/
theorem diverges_loop_of_passes {last : σ} (reached : Passes body s last)
    (stuck : (loop body last).Diverges) : (loop body s).Diverges := by
  induction reached using Relation.ReflTransGen.head_induction_on with
  | refl => exact stuck
  | head first _ ih =>
    rw [loop_equiv.diverges, diverges_bind]
    exact .inr ⟨_, first, ih⟩

/-- A loop that comes back to a state it was in runs forever. -/
theorem diverges_loop_of_cycle (again : (body s).Returns (.next s)) : (loop body s).Diverges := by
  have stays : ∀ last, Passes body s last → last = s := by
    intro last reached
    induction reached with
    | refl => rfl
    | tail _ step ih =>
      subst ih
      exact Pass.next.inj (step.unique again)
  rcases returns_or_faults_or_diverges (loop body s) with ⟨b, returned⟩ | ⟨e, fault⟩ | diverges
  · obtain ⟨last, reached, leaves⟩ := returns_loop.mp returned
    obtain rfl := stays last reached
    exact nomatch again.unique leaves
  · obtain ⟨last, reached, bad⟩ := faults_loop.mp fault
    obtain rfl := stays last reached
    exact (again.not_faults bad).elim
  · exact diverges

end Loops

end Prog

import UsbManager.Lib.Simulation
import UsbManager.System

/-!
# Starting and stopping the service

The system calls `OnStart` and `OnStop` of the service, in any order and any number of
times.  `Startup` is what the system answers while `OnStart` runs; both of its loops
try again after a failure.  `Protocol` says what the service may ask of the system at a
time, and it never asks anything else (`asked_of_run`): what it binds to usbd it unbinds
before it binds again, it is published once for each handler it makes, and after eleven
checks in a row that do not find the common event service it makes no more.

`phase_of_run` gives the state after any calls of the two functions.  A service whose
`Publish` was refused keeps its handler, so the next `OnStart` does not publish it and
makes it ready all the same.
-/

namespace UsbManager.Lifecycle

def COMMEVENT_REGISTER_RETRY_TIMES : Nat := 10

def SERVICE_STARTUP_MAX_TIME : Nat := 30

/-- What the service asks of the system, with the answer.  `EventRunner::Create` may give
none, and a subscriber that is bound or unbound has the number it was made with. -/
inductive SystemCall where
  | createRunner (made : Bool)
  | publish (accepted : Bool)
  | checkSystemAbility (found : Bool)
  | bindUsbdSubscriber (subscriber : Nat) (succeeded : Bool)
  | unbindUsbdSubscriber (subscriber : Option Nat)
  deriving DecidableEq, Repr

/-- What `IsCommonEventServiceAbilityExist` finds: no `SystemAbilityManager`, no
remote object of the ability, or one. -/
inductive Ability where
  | noManager
  | noService
  | remote
  deriving DecidableEq, Repr

/-- What the system answers while `OnStart` runs; where it is asked more than once, the
answer to each try. -/
structure Startup where
  runner : Bool
  publish : Bool
  ability : Nat → Ability
  subscriber : Nat → Bool
  bind : Nat → Bool
  queryPort : QueryReply

/-- A handler runs on a runner. -/
structure UsbServerEventHandler where
  runner : Option Nat
  deriving DecidableEq, Repr

/-- The members of the service that the two functions use.  Runners and subscribers are
numbered as they are made; `calls` is what the system was asked. -/
structure State where
  ready_ : Bool := false
  commEventRetryTimes_ : Nat := 0
  eventRunner_ : Option Nat := none
  handler_ : Option UsbServerEventHandler := none
  usbdSubscriber_ : Option Nat := none
  portManager : UsbPortManager := {}
  made : Nat := 0
  calls : List SystemCall := []

/-- `IsCommonEventServiceAbilityExist` -/
def isCommonEventServiceAbilityExist : Ability → Bool
  | .noManager => false
  | .noService => false
  | .remote => true

/-! ## The functions -/

section

variable (system : Startup)

/-- The first part of `Init`, which makes a runner where there is none. -/
def createRunner (s : State) : Bool × State :=
  if s.eventRunner_ = none then
    let s := { s with calls := s.calls ++ [.createRunner system.runner] }
    if system.runner then (true, { s with eventRunner_ := some s.made, made := s.made + 1 })
    else (false, s)
  else (true, s)

/-- The second part of `Init`, which makes a handler where there is none and publishes
the service then. -/
def createHandler (s : State) : Bool × State :=
  if s.handler_ = none then
    let s := { s with handler_ := some { runner := s.eventRunner_ } }
    (system.publish, { s with calls := s.calls ++ [.publish system.publish] })
  else (true, s)

/-- The `while` loop of `Init`, from the check with this number. -/
def awaitCommonEvent (check : Nat) (s : State) : State :=
  if s.commEventRetryTimes_ ≤ COMMEVENT_REGISTER_RETRY_TIMES then
    let found := isCommonEventServiceAbilityExist (system.ability check)
    let calls := s.calls ++ [.checkSystemAbility found]
    if !found then
      awaitCommonEvent (check + 1)
        { s with commEventRetryTimes_ := s.commEventRetryTimes_ + 1, calls }
    else { s with commEventRetryTimes_ := 0, calls }
  else s
termination_by COMMEVENT_REGISTER_RETRY_TIMES + 1 - s.commEventRetryTimes_
decreasing_by omega

/-- `Init` -/
def init (s : State) : Bool × State :=
  match createRunner system s with
  | (false, s) => (false, s)
  | (true, s) =>
    match createHandler system s with
    | (false, s) => (false, s)
    | (true, s) => (true, awaitCommonEvent system 0 s)

/-- `InitUsbd`, in the try with this number. -/
def initUsbd (try_ : Nat) (s : State) : Bool × State :=
  if system.subscriber try_ then
    let subscriber := s.made
    let ret := system.bind try_
    (ret, { s with
      usbdSubscriber_ := some subscriber
      made := s.made + 1
      calls := s.calls ++ [.bindUsbdSubscriber subscriber ret] })
  else (false, { s with usbdSubscriber_ := none })

/-- The `while` loop of `OnStart`; the result is `false` where the function returns in
it. -/
def awaitUsbd (retryTimes : Nat) (s : State) : Bool × State :=
  if retryTimes < SERVICE_STARTUP_MAX_TIME then
    match initUsbd system retryTimes s with
    | (true, s) => (true, s)
    | (false, s) =>
      if retryTimes + 1 = SERVICE_STARTUP_MAX_TIME then (false, s)
      else awaitUsbd (retryTimes + 1) s
  else (true, s)
termination_by SERVICE_STARTUP_MAX_TIME - retryTimes

/-- `OnStart` -/
def onStart (s : State) : State :=
  if s.ready_ then s
  else
    match init system s with
    | (false, s) => s
    | (true, s) =>
      match awaitUsbd system 0 s with
      | (false, s) => s
      | (true, s) =>
        { s with portManager := s.portManager.init system.queryPort, ready_ := true }

end

/-- `OnStop` -/
def onStop (s : State) : State :=
  if !s.ready_ then s
  else
    { s with
      eventRunner_ := none
      handler_ := none
      ready_ := false
      calls := s.calls ++ [.unbindUsbdSubscriber s.usbdSubscriber_] }

/-- The system starts or stops the service. -/
inductive Event where
  | start (system : Startup)
  | stop

inductive Step (s : State) : Event → State → Prop
  | start (system : Startup) : Step s (.start system) (onStart system s)
  | stop : Step s .stop (onStop s)

/-! ## What the system sees of the service -/

/-- Whether there is a runner, what `Publish` returned for the present handler, the
subscriber that is bound, a number all later subscribers have at least and the checks
for the common event service since one found it. -/
structure Protocol where
  runner : Bool := false
  published : Option Bool := none
  bound : Option Nat := none
  fresh : Nat := 0
  misses : Nat := 0
  deriving DecidableEq, Repr

/-- What the service may ask, and the answer. -/
inductive Protocol.Step (p : Protocol) : SystemCall → Protocol → Prop
  | createRunner (made : Bool) : p.runner = false →
    Step p (.createRunner made) { p with runner := made }
  | publish (accepted : Bool) : p.runner = true → p.published = none →
    Step p (.publish accepted) { p with published := some accepted }
  | missed : p.published.isSome = true → p.misses ≤ COMMEVENT_REGISTER_RETRY_TIMES →
    Step p (.checkSystemAbility false) { p with misses := p.misses + 1 }
  | found : p.published.isSome = true → p.misses ≤ COMMEVENT_REGISTER_RETRY_TIMES →
    Step p (.checkSystemAbility true) { p with misses := 0 }
  | bind {subscriber : Nat} (succeeded : Bool) : p.published.isSome = true → p.bound = none →
    p.fresh ≤ subscriber →
    Step p (.bindUsbdSubscriber subscriber succeeded)
      { p with bound := if succeeded then some subscriber else none, fresh := subscriber + 1 }
  | unbind {subscriber : Nat} : p.bound = some subscriber →
    Step p (.unbindUsbdSubscriber (some subscriber))
      { p with runner := false, published := none, bound := none }

/-- What the members of the service have to do with what the system saw.  `bound` is the
subscriber that is bound while `OnStart` has not returned. -/
structure Members (s : State) (p : Protocol) : Prop where
  runner : p.runner = s.eventRunner_.isSome
  published : p.published.isSome = s.handler_.isSome
  handler : ∀ handler, s.handler_ = some handler →
    handler.runner = s.eventRunner_ ∧ s.eventRunner_.isSome = true
  fresh : p.fresh ≤ s.made
  misses : p.misses = s.commEventRetryTimes_
  patient : s.commEventRetryTimes_ ≤ COMMEVENT_REGISTER_RETRY_TIMES + 1

/-- The system was asked what the protocol allows, and the members say so. -/
structure Follows (s : State) (p : Protocol) : Prop extends Members s p where
  asked : Run Protocol.Step {} s.calls p

/-- While the service is ready it has a handler and its subscriber is bound; else
nothing is bound. -/
structure Settled (s : State) (p : Protocol) : Prop where
  runner : s.handler_ = none → s.eventRunner_ = none
  handler : s.ready_ = true → s.handler_.isSome = true
  subscriber : s.ready_ = true → s.usbdSubscriber_.isSome = true
  bound : p.bound = if s.ready_ then s.usbdSubscriber_ else none

/-! ## The phases of the service -/

/-- The service has no handler, or its `Publish` was refused, or accepted but usbd was not
there, or it is ready. -/
inductive Phase where
  | idle
  | refused
  | waiting
  | ready (published : Bool)
  deriving DecidableEq, Repr

/-- In this try a subscriber is made and bound. -/
def Startup.binds (system : Startup) (try_ : Nat) : Bool :=
  system.subscriber try_ && system.bind try_

/-- One of the tries succeeds. -/
def Startup.usbd (system : Startup) : Bool :=
  (List.range SERVICE_STARTUP_MAX_TIME).any system.binds

/-- The phase after `OnStart` or `OnStop`. -/
def Phase.next : Phase → Event → Phase
  | idle, .start system =>
    if !system.runner then idle
    else if !system.publish then refused
    else if system.usbd then ready true
    else waiting
  | refused, .start system => if system.usbd then ready false else refused
  | waiting, .start system => if system.usbd then ready true else waiting
  | ready published, .start _ => ready published
  | ready _, .stop => idle
  | phase, .stop => phase

/-- What `Publish` returned. -/
def SystemCall.published? : SystemCall → Option Bool
  | publish accepted => some accepted
  | _ => none

/-- The phase: the answer of the last `Publish` was to the present handler. -/
def State.phase (s : State) : Phase :=
  if s.handler_ = none then .idle
  else
    let published := lastSome SystemCall.published? s.calls = some true
    if s.ready_ then .ready published
    else if published then .waiting
    else .refused

/-- The phase in the terms of the protocol. -/
def Protocol.phase (ready_ : Bool) (p : Protocol) : Phase :=
  match p.published with
  | none => .idle
  | some published =>
    if ready_ then .ready published
    else if published then .waiting
    else .refused

/-! ## What starting leaves as it is -/

/-- Neither `ready_` nor the ports have changed. -/
structure Kept (s s' : State) : Prop where
  ready : s'.ready_ = s.ready_
  ports : s'.portManager = s.portManager

section

variable {system : Startup} {s s' : State}

theorem Kept.trans {s'' : State} (first : Kept s s') (second : Kept s' s'') : Kept s s'' :=
  ⟨second.ready.trans first.ready, second.ports.trans first.ports⟩

theorem kept_createRunner : Kept s (createRunner system s).2 := by
  unfold createRunner
  split_ifs
  · exact ⟨rfl, rfl⟩
  · exact ⟨rfl, rfl⟩
  · exact ⟨rfl, rfl⟩

theorem kept_createHandler : Kept s (createHandler system s).2 := by
  unfold createHandler
  split_ifs
  · exact ⟨rfl, rfl⟩
  · exact ⟨rfl, rfl⟩

theorem kept_awaitCommonEvent (check : Nat) : Kept s (awaitCommonEvent system check s) := by
  fun_induction awaitCommonEvent system check s with
  | case1 =>
    rename_i again
    exact ⟨again.ready, again.ports⟩
  | case2 => exact ⟨rfl, rfl⟩
  | case3 => exact ⟨rfl, rfl⟩

theorem kept_init : Kept s (init system s).2 := by
  have first := @kept_createRunner system s
  unfold init
  generalize createRunner system s = result at *
  obtain ⟨_ | _, s₁⟩ := result
  · exact first
  · have second := @kept_createHandler system s₁
    dsimp only
    generalize createHandler system s₁ = result at *
    obtain ⟨_ | _, s₂⟩ := result
    · exact first.trans second
    · exact first.trans (second.trans (kept_awaitCommonEvent 0))

theorem kept_initUsbd (try_ : Nat) : Kept s (initUsbd system try_ s).2 := by
  unfold initUsbd
  split_ifs
  · exact ⟨rfl, rfl⟩
  · exact ⟨rfl, rfl⟩

/-- A pass of the loop that is not over. -/
theorem awaitUsbd_of_lt {retryTimes : Nat} (early : retryTimes < SERVICE_STARTUP_MAX_TIME) :
    awaitUsbd system retryTimes s =
      if (initUsbd system retryTimes s).1 then initUsbd system retryTimes s
      else if retryTimes + 1 = SERVICE_STARTUP_MAX_TIME then initUsbd system retryTimes s
      else awaitUsbd system (retryTimes + 1) (initUsbd system retryTimes s).2 := by
  rw [awaitUsbd, if_pos early]
  rcases initUsbd system retryTimes s with ⟨_ | _, s₁⟩
  · rfl
  · rfl

theorem kept_awaitUsbd (retryTimes : Nat) : Kept s (awaitUsbd system retryTimes s).2 := by
  induction left : SERVICE_STARTUP_MAX_TIME - retryTimes generalizing retryTimes s with
  | zero =>
    rw [awaitUsbd, if_neg (by omega)]
    exact ⟨rfl, rfl⟩
  | succ left again =>
    rw [awaitUsbd_of_lt (by omega)]
    split_ifs
    · exact kept_initUsbd retryTimes
    · exact kept_initUsbd retryTimes
    · exact (kept_initUsbd retryTimes).trans (again (retryTimes + 1) (by omega))

end

/-! ## The functions follow the protocol -/

section

variable {system : Startup} {s : State} {p : Protocol}

theorem Follows.createRunner (follows : Follows s p) :
    ∃ p', Follows (createRunner system s).2 p' ∧ p'.bound = p.bound ∧
      p'.published = p.published ∧
      (createRunner system s).1 = (s.eventRunner_.isSome || system.runner) ∧
      (createRunner system s).2.eventRunner_.isSome = (createRunner system s).1 := by
  unfold Lifecycle.createRunner
  by_cases absent : s.eventRunner_ = none
  · rw [if_pos absent]
    have free : p.runner = false := by rw [follows.runner, absent]; rfl
    have unhandled : s.handler_ = none := by
      refine Option.eq_none_iff_forall_ne_some.mpr fun handler there => ?_
      have runner := (follows.handler handler there).2
      rw [absent] at runner
      cases runner
    have handler (handler' : UsbServerEventHandler) (there : s.handler_ = some handler') :
        False := by
      rw [unhandled] at there
      cases there
    cases made : system.runner with
    | false =>
      refine ⟨{ p with runner := false }, ⟨⟨?_, follows.published, fun h there =>
        (handler h there).elim, follows.fresh, follows.misses, follows.patient⟩,
        follows.asked.step (.createRunner false free)⟩, rfl, rfl, ?_, ?_⟩
      · rw [absent]; rfl
      · rw [absent]; rfl
      · rw [absent]; rfl
    | true =>
      have fresh : p.fresh ≤ s.made + 1 := Nat.le_succ_of_le follows.fresh
      refine ⟨{ p with runner := true }, ⟨⟨rfl, follows.published, fun h there =>
        (handler h there).elim, fresh, follows.misses, follows.patient⟩,
        follows.asked.step (.createRunner true free)⟩, rfl, rfl, ?_, rfl⟩
      rw [absent]; rfl
  · rw [if_neg absent]
    have present : s.eventRunner_.isSome = true := Option.isSome_iff_ne_none.mpr absent
    exact ⟨p, follows, rfl, rfl, by rw [present]; rfl, present⟩

theorem Follows.createHandler (follows : Follows s p) (runner : s.eventRunner_.isSome = true) :
    ∃ p', Follows (createHandler system s).2 p' ∧ p'.bound = p.bound ∧
      p'.published = some (p.published.getD system.publish) ∧
      (createHandler system s).1 = (p.published.isSome || system.publish) := by
  unfold Lifecycle.createHandler
  by_cases absent : s.handler_ = none
  · rw [if_pos absent]
    have unpublished : p.published = none := by
      have none := follows.published
      rw [absent] at none
      exact Option.isSome_eq_false_iff.mp none |> Option.isNone_iff_eq_none.mp
    have handler (h : UsbServerEventHandler)
        (there : some { runner := s.eventRunner_ } = some h) :
        h.runner = s.eventRunner_ ∧ s.eventRunner_.isSome = true := by
      cases there
      exact ⟨rfl, runner⟩
    refine ⟨{ p with published := some system.publish }, ⟨⟨follows.runner, rfl, handler,
      follows.fresh, follows.misses, follows.patient⟩,
      follows.asked.step (.publish _ (follows.runner.trans runner) unpublished)⟩, rfl, ?_, ?_⟩
    · rw [unpublished]; rfl
    · rw [unpublished]; rfl
  · rw [if_neg absent]
    have present : s.handler_.isSome = true := Option.isSome_iff_ne_none.mpr absent
    obtain ⟨accepted, published⟩ := Option.isSome_iff_exists.mp (follows.published.trans present)
    refine ⟨p, follows, rfl, ?_, ?_⟩
    · rw [published]; rfl
    · rw [published]; rfl

/-- The checks for the common event service change the count of them only. -/
theorem Follows.awaitCommonEvent (check : Nat) (follows : Follows s p)
    (published : p.published.isSome = true) :
    ∃ p', Follows (awaitCommonEvent system check s) p' ∧ p'.bound = p.bound ∧
      p'.published = p.published := by
  fun_induction Lifecycle.awaitCommonEvent system check s generalizing p with
  | case1 check s few found calls missing =>
    rename_i again
    have counted : p.misses ≤ COMMEVENT_REGISTER_RETRY_TIMES := follows.misses ▸ few
    have none : found = false := by simpa using missing
    have step : Protocol.Step p (.checkSystemAbility found) { p with misses := p.misses + 1 } := by
      rw [none]
      exact .missed published counted
    exact @again { p with misses := p.misses + 1 } ⟨⟨follows.runner, follows.published,
      follows.handler, follows.fresh, congrArg Nat.succ follows.misses, Nat.succ_le_succ few⟩,
      follows.asked.step step⟩ published
  | case2 check s few found calls =>
    rename_i there
    have counted : p.misses ≤ COMMEVENT_REGISTER_RETRY_TIMES := follows.misses ▸ few
    have some : found = true := by simpa using there
    have step : Protocol.Step p (.checkSystemAbility found) { p with misses := 0 } := by
      rw [some]
      exact .found published counted
    exact ⟨{ p with misses := 0 }, ⟨⟨follows.runner, follows.published, follows.handler,
      follows.fresh, rfl, Nat.zero_le _⟩, follows.asked.step step⟩, rfl, rfl⟩
  | case3 check s many => exact ⟨p, follows, rfl, rfl⟩

/-- What trying to bind a subscriber leaves. -/
structure Tried (p : Protocol) (result : Bool × State) (p' : Protocol) : Prop where
  follows : Follows result.2 p'
  published : p'.published = p.published
  subscriber : result.1 = true → result.2.usbdSubscriber_.isSome = true
  bound : p'.bound = if result.1 then result.2.usbdSubscriber_ else none

theorem fst_initUsbd (try_ : Nat) : (initUsbd system try_ s).1 = system.binds try_ := by
  unfold initUsbd Startup.binds
  cases system.subscriber try_ with
  | false => rfl
  | true => rfl

theorem Follows.initUsbd (try_ : Nat) (follows : Follows s p)
    (published : p.published.isSome = true) (free : p.bound = none) :
    ∃ p', Tried p (initUsbd system try_ s) p' := by
  unfold Lifecycle.initUsbd
  cases system.subscriber try_ with
  | false =>
    exact ⟨p, ⟨⟨follows.runner, follows.published, follows.handler, follows.fresh,
      follows.misses, follows.patient⟩, follows.asked⟩, rfl, nofun, free⟩
  | true =>
    let p' : Protocol := { p with
      bound := if system.bind try_ then some s.made else none
      fresh := s.made + 1 }
    have step : Protocol.Step p (.bindUsbdSubscriber s.made (system.bind try_)) p' :=
      .bind _ published free follows.fresh
    exact ⟨p', ⟨⟨follows.runner, follows.published, follows.handler, Nat.le_refl _,
      follows.misses, follows.patient⟩, follows.asked.step step⟩, rfl, fun _ => rfl, rfl⟩

/-- The service gets bound if one of the tries from this one on binds it. -/
theorem fst_awaitUsbd (retryTimes : Nat) (early : retryTimes < SERVICE_STARTUP_MAX_TIME) :
    (awaitUsbd system retryTimes s).1 = true ↔ ∃ try_, retryTimes ≤ try_ ∧
      try_ < SERVICE_STARTUP_MAX_TIME ∧ system.binds try_ = true := by
  induction left : SERVICE_STARTUP_MAX_TIME - retryTimes generalizing retryTimes s with
  | zero => omega
  | succ left again =>
    rw [awaitUsbd_of_lt early, fst_initUsbd]
    by_cases binds : system.binds retryTimes = true
    · rw [if_pos binds, fst_initUsbd]
      exact iff_of_true binds ⟨retryTimes, Nat.le_refl _, early, binds⟩
    rw [if_neg binds]
    have later (try_ : Nat) (le : retryTimes ≤ try_) (bound : system.binds try_ = true) :
        retryTimes + 1 ≤ try_ :=
      Nat.lt_of_le_of_ne le fun same => binds (same ▸ bound)
    by_cases last : retryTimes + 1 = SERVICE_STARTUP_MAX_TIME
    · rw [if_pos last, fst_initUsbd]
      refine iff_of_false binds ?_
      rintro ⟨try_, le, lt, bound⟩
      have after := later try_ le bound
      omega
    · rw [if_neg last, again (retryTimes + 1) (by omega) (by omega)]
      constructor
      · rintro ⟨try_, le, lt, bound⟩
        exact ⟨try_, by omega, lt, bound⟩
      · rintro ⟨try_, le, lt, bound⟩
        exact ⟨try_, later try_ le bound, lt, bound⟩

theorem Follows.awaitUsbd (retryTimes : Nat) (early : retryTimes < SERVICE_STARTUP_MAX_TIME)
    (follows : Follows s p) (published : p.published.isSome = true) (free : p.bound = none) :
    ∃ p', Tried p (awaitUsbd system retryTimes s) p' := by
  induction left : SERVICE_STARTUP_MAX_TIME - retryTimes generalizing retryTimes s p with
  | zero => omega
  | succ left again =>
    obtain ⟨p₁, tried⟩ := @Follows.initUsbd system s p retryTimes follows published free
    rw [awaitUsbd_of_lt early]
    by_cases binds : (Lifecycle.initUsbd system retryTimes s).1 = true
    · rw [if_pos binds]
      exact ⟨p₁, tried⟩
    rw [if_neg binds]
    by_cases last : retryTimes + 1 = SERVICE_STARTUP_MAX_TIME
    · rw [if_pos last]
      exact ⟨p₁, tried⟩
    · rw [if_neg last]
      have free₁ : p₁.bound = none := by rw [tried.bound, if_neg binds]
      have published₁ : p₁.published.isSome = true := by rw [tried.published]; exact published
      obtain ⟨p₂, more⟩ := again (retryTimes + 1) (by omega) tried.follows published₁ free₁
        (by omega)
      exact ⟨p₂, more.follows, more.published.trans tried.published, more.subscriber, more.bound⟩

/-! ## Whole runs -/

/-- Between calls there is a runner if there is a handler. -/
theorem Settled.runner_iff (settled : Settled s p) (follows : Follows s p) :
    s.eventRunner_.isSome = p.published.isSome := by
  rw [follows.published]
  cases handler : s.handler_ with
  | none =>
    rw [settled.runner handler]
    rfl
  | some h => exact (follows.handler h handler).2

/-- What `Init` leaves: the answer of `Publish` if there was no handler and is a runner. -/
theorem Follows.init (follows : Follows s p) (settled : Settled s p) :
    ∃ p', Follows (init system s).2 p' ∧ p'.bound = p.bound ∧
      p'.published = p.published.or (if system.runner then some system.publish else none) ∧
      (init system s).1 = (p.published.isSome || (system.runner && system.publish)) ∧
      ((init system s).2.handler_ = none → (init system s).2.eventRunner_ = none) := by
  obtain ⟨p₁, follows₁, bound₁, published₁, made, runner⟩ :=
    @Follows.createRunner system s p follows
  rw [settled.runner_iff follows] at made
  unfold Lifecycle.init
  generalize Lifecycle.createRunner system s = result at *
  obtain ⟨ret, s₁⟩ := result
  cases ret with
  | false =>
    obtain ⟨unpublished, unmade⟩ := Bool.or_eq_false_iff.mp made.symm
    have none := Option.isNone_iff_eq_none.mp (Option.isSome_eq_false_iff.mp unpublished)
    refine ⟨p₁, follows₁, bound₁, ?_, ?_, fun _ => ?_⟩
    · rw [published₁, none, unmade]
      rfl
    · rw [none, unmade]
      rfl
    · exact Option.isNone_iff_eq_none.mp (Option.isSome_eq_false_iff.mp runner)
  | true =>
    obtain ⟨p₂, follows₂, bound₂, published₂, accepted⟩ :=
      @Follows.createHandler system s₁ p₁ follows₁ runner
    have published : p₂.published =
        p.published.or (if system.runner then some system.publish else none) := by
      rw [published₂, published₁]
      cases already : p.published with
      | some b => rfl
      | none =>
        rw [already] at made
        have runner : system.runner = true := made.symm
        rw [runner]
        rfl
    have handled : p₂.published.isSome = true := by rw [published₂]; rfl
    dsimp only
    rw [published₁] at accepted
    generalize Lifecycle.createHandler system s₁ = result at *
    obtain ⟨ret, s₂⟩ := result
    have result : ret = (p.published.isSome || (system.runner && system.publish)) := by
      refine accepted.trans ?_
      cases already : p.published with
      | some b => rfl
      | none =>
        rw [already] at made
        have runner : system.runner = true := made.symm
        rw [runner]
        rfl
    cases ret with
    | false =>
      refine ⟨p₂, follows₂, bound₂.trans bound₁, published, result, fun absent => ?_⟩
      rw [follows₂.published, absent] at handled
      cases handled
    | true =>
      obtain ⟨p₃, follows₃, bound₃, published₃⟩ :=
        @Follows.awaitCommonEvent system s₂ p₂ 0 follows₂ handled
      refine ⟨p₃, follows₃, bound₃.trans (bound₂.trans bound₁), published₃.trans published, result,
        fun absent => ?_⟩
      rw [← published₃, follows₃.published, absent] at handled
      cases handled

/-- A phase in which the service is not ready and has no subscriber bound. -/
theorem Settled.of_not_ready {s' : State} {p' : Protocol} (idle : s'.ready_ = false)
    (runner : s'.handler_ = none → s'.eventRunner_ = none) (free : p'.bound = none) :
    Settled s' p' := by
  refine ⟨runner, fun ready => ?_, fun ready => ?_, ?_⟩
  · rw [idle] at ready
    cases ready
  · rw [idle] at ready
    cases ready
  · rw [idle]
    exact free

theorem awaitUsbd_eq_usbd : (awaitUsbd system 0 s).1 = system.usbd := by
  refine Bool.eq_iff_iff.mpr ((fst_awaitUsbd 0 (by decide)).trans ?_)
  unfold Startup.usbd
  rw [List.any_eq_true]
  constructor
  · rintro ⟨try_, -, lt, binds⟩
    exact ⟨try_, List.mem_range.mpr lt, binds⟩
  · rintro ⟨try_, there, binds⟩
    exact ⟨try_, Nat.zero_le _, List.mem_range.mp there, binds⟩

/-- The next phase of a service that is not ready and whose `Init` succeeds. -/
theorem Phase.next_of_init {published : Bool}
    (accepted : p.published = some published ∨ p.published = none ∧ system.runner = true ∧
      system.publish = true ∧ published = true) :
    (p.phase false).next (.start system) =
      if system.usbd then .ready published
      else if published then .waiting
      else .refused := by
  unfold Protocol.phase
  rcases accepted with present | ⟨none, runner, publish, rfl⟩
  · rw [present]
    cases published with
    | true => rfl
    | false => rfl
  · rw [none]
    simp [Phase.next, runner, publish]

/-- `OnStart` does what the phase says. -/
theorem Follows.onStart (follows : Follows s p) (settled : Settled s p) (system : Startup) :
    ∃ p', Follows (onStart system s) p' ∧ Settled (onStart system s) p' ∧
      p'.phase (onStart system s).ready_ = (p.phase s.ready_).next (.start system) := by
  unfold Lifecycle.onStart
  cases ready : s.ready_ with
  | true =>
    have handled := follows.published.trans (settled.handler ready)
    obtain ⟨b, published⟩ := Option.isSome_iff_exists.mp handled
    refine ⟨p, follows, settled, ?_⟩
    unfold Protocol.phase
    rw [if_pos rfl, published, ready]
    rfl
  | false =>
    have free : p.bound = none := by
      have bound := settled.bound
      rw [ready] at bound
      exact bound
    obtain ⟨p₁, follows₁, bound₁, published₁, ok, runner₁⟩ :=
      @Follows.init system s p follows settled
    have ready₁ := (@kept_init system s).ready
    rw [if_neg nofun]
    generalize Lifecycle.init system s = result at *
    obtain ⟨ret, s₁⟩ := result
    cases ret with
    | false =>
      refine ⟨p₁, follows₁, .of_not_ready (ready₁.trans ready) runner₁ (bound₁.trans free), ?_⟩
      obtain ⟨unpublished, refused⟩ := Bool.or_eq_false_iff.mp ok.symm
      have none := Option.isNone_iff_eq_none.mp (Option.isSome_eq_false_iff.mp unpublished)
      dsimp only at ready₁ ⊢
      unfold Protocol.phase
      rw [published₁, none, ready₁, ready]
      cases made : system.runner with
      | false => simp [Phase.next, made]
      | true =>
        have refused : system.publish = false := by simpa [made] using refused
        simp [Phase.next, made, refused]
    | true =>
      have accepted : ∃ b, p₁.published = some b ∧ (p.published = some b ∨ p.published = none ∧
          system.runner = true ∧ system.publish = true ∧ b = true) := by
        cases already : p.published with
        | some b => exact ⟨b, by rw [published₁, already]; rfl, .inl rfl⟩
        | none =>
          rw [already] at ok published₁
          obtain ⟨runner, publish⟩ := Bool.and_eq_true_iff.mp ok.symm
          rw [runner, publish] at published₁
          exact ⟨true, published₁, .inr ⟨rfl, runner, publish, rfl⟩⟩
      obtain ⟨b, published₁, accepted⟩ := accepted
      obtain ⟨p₂, tried⟩ := @Follows.awaitUsbd system s₁ p₁ 0 (by decide) follows₁
        (by rw [published₁]; rfl) (bound₁.trans free)
      have usbd := @awaitUsbd_eq_usbd system s₁
      have kept := @kept_awaitUsbd system s₁ 0
      have published₂ := tried.published.trans published₁
      have handled := tried.follows.published.symm.trans (congrArg Option.isSome published₂)
      rw [Phase.next_of_init accepted, ← usbd]
      dsimp only at tried handled ⊢
      generalize Lifecycle.awaitUsbd system 0 s₁ = result at *
      obtain ⟨ret, s₂⟩ := result
      have ready₂ : s₂.ready_ = false := kept.ready.trans (ready₁.trans ready)
      have runner (absent : s₂.handler_ = none) : s₂.eventRunner_ = none := by
        rw [absent] at handled
        cases handled
      cases ret with
      | false =>
        refine ⟨p₂, tried.follows, .of_not_ready ready₂ runner tried.bound, ?_⟩
        dsimp only
        unfold Protocol.phase
        rw [published₂, ready₂]
      | true =>
        obtain ⟨members, asked⟩ := tried.follows
        refine ⟨p₂, ⟨⟨members.runner, members.published, members.handler, members.fresh,
          members.misses, members.patient⟩, asked⟩, ⟨runner, fun _ => handled,
          fun _ => tried.subscriber rfl, tried.bound⟩, ?_⟩
        unfold Protocol.phase
        rw [published₂]

/-- `OnStop` does what the phase says. -/
theorem Follows.onStop (follows : Follows s p) (settled : Settled s p) :
    ∃ p', Follows (onStop s) p' ∧ Settled (onStop s) p' ∧
      p'.phase (onStop s).ready_ = (p.phase s.ready_).next .stop := by
  cases ready : s.ready_ with
  | false =>
    have nothing : Lifecycle.onStop s = s := by
      unfold Lifecycle.onStop
      rw [ready]
      rfl
    rw [nothing, ready]
    refine ⟨p, follows, settled, ?_⟩
    unfold Protocol.phase
    rcases p.published with _ | _ | _
    · rfl
    · rfl
    · rfl
  | true =>
    obtain ⟨subscriber, made⟩ := Option.isSome_iff_exists.mp (settled.subscriber ready)
    have bound : p.bound = some subscriber := by
      rw [settled.bound, if_pos ready]
      exact made
    have handled := follows.published.trans (settled.handler ready)
    obtain ⟨b, published⟩ := Option.isSome_iff_exists.mp handled
    unfold Lifecycle.onStop
    rw [ready, made]
    let p' : Protocol := { p with runner := false, published := none, bound := none }
    have step : Protocol.Step p (.unbindUsbdSubscriber (some subscriber)) p' := .unbind bound
    refine ⟨p', ⟨⟨rfl, rfl, nofun, follows.fresh, follows.misses, follows.patient⟩,
      follows.asked.step step⟩, .of_not_ready rfl (fun _ => rfl) rfl, ?_⟩
    unfold Protocol.phase
    rw [published]
    rfl

end

/-- In every run of starts and stops the service asks the system only what the protocol
allows, and is in the phase the events lead to. -/
theorem follows_run {history : List Event} {s : State} (run : Run Step {} history s) :
    ∃ p, Follows s p ∧ Settled s p ∧ p.phase s.ready_ = history.foldl Phase.next .idle := by
  induction run with
  | start =>
    exact ⟨{}, ⟨⟨rfl, rfl, nofun, Nat.le_refl _, rfl, Nat.zero_le _⟩, .start⟩,
      ⟨fun _ => rfl, nofun, nofun, rfl⟩, rfl⟩
  | @step history s s' event _ taken ih =>
    obtain ⟨p, follows, settled, phase⟩ := ih
    rw [List.foldl_append, List.foldl_cons, List.foldl_nil, ← phase]
    cases taken with
    | start system => exact follows.onStart settled system
    | stop => exact follows.onStop settled


/-! ## What the system was asked -/

/-- `Publish` is refused, and everything else is there. -/
def refusing : Startup where
  runner := true
  publish := false
  ability _ := .remote
  subscriber _ := true
  bind _ := true
  queryPort := allowing.queryPort

/-- In every run of starts and stops, whatever the system answers, the service asks only
what the protocol allows.  While it is ready its subscriber is the one that is bound, and
its handler is on its runner; else nothing is bound. -/
theorem asked_of_run {history : List Event} {s : State} (run : Run Step {} history s) :
    ∃ p, Run Protocol.Step {} s.calls p ∧ p.misses = s.commEventRetryTimes_ ∧
      (s.ready_ = false → p.bound = none) ∧
      (s.ready_ = true → p.bound = s.usbdSubscriber_ ∧ p.bound.isSome = true ∧
        ∃ runner, s.eventRunner_ = some runner ∧ s.handler_ = some { runner := some runner }) := by
  obtain ⟨p, follows, settled, -⟩ := follows_run run
  refine ⟨p, follows.asked, follows.misses, fun idle => ?_, fun ready => ?_⟩
  · rw [settled.bound, idle]
    rfl
  · have bound : p.bound = s.usbdSubscriber_ := by
      rw [settled.bound, ready]
      rfl
    obtain ⟨handler, handled⟩ := Option.isSome_iff_exists.mp (settled.handler ready)
    obtain ⟨same, there⟩ := follows.handler handler handled
    obtain ⟨runner, made⟩ := Option.isSome_iff_exists.mp there
    refine ⟨bound, bound ▸ settled.subscriber ready, runner, made, ?_⟩
    rw [handled, ← made, ← same]

theorem Protocol.ready_of_phase {p : Protocol} {ready_ published : Bool}
    (phase : p.phase ready_ = .ready published) : ready_ = true := by
  unfold Protocol.phase at phase
  split at phase
  · cases phase
  · split_ifs at phase with ready
    exact ready

theorem onStop_ready (s : State) : (onStop s).ready_ = false := by
  unfold onStop
  split_ifs with idle
  · exact (Bool.not_eq_true' _).mp idle
  · rfl

/-- A first start whose `Publish` is refused, a second that makes the service ready, and
a stop. -/
theorem asked_refusing :
    let s := onStart refusing (onStart refusing {})
    ∃ p p', Run Protocol.Step {} s.calls p ∧ p.bound.isSome = true ∧
      Run Protocol.Step {} (onStop s).calls p' ∧ p'.bound = none := by
  intro s
  have run : Run Step {} [.start refusing, .start refusing] s :=
    .step (.step .start (.start refusing)) (.start refusing)
  obtain ⟨_, _, _, phase⟩ := follows_run run
  have computed : [Event.start refusing, .start refusing].foldl Phase.next .idle =
      .ready false := by decide
  have ready : s.ready_ = true := Protocol.ready_of_phase (phase.trans computed)
  obtain ⟨p, asked, _, _, bound⟩ := asked_of_run run
  obtain ⟨p', asked', _, unbound, _⟩ := asked_of_run (run.step .stop)
  exact ⟨p, p', asked, (bound ready).2.1, asked', unbound (onStop_ready s)⟩

/-- The last answer of `Publish` was to the present handler. -/
theorem Protocol.published_eq {calls : List SystemCall} {p : Protocol}
    (asked : Run Protocol.Step {} calls p) {b : Bool} (published : p.published = some b) :
    lastSome SystemCall.published? calls = some b := by
  induction asked generalizing b with
  | start => cases published
  | step _ taken ih =>
    rw [lastSome_concat]
    cases taken with
    | publish accepted _ _ => exact published
    | createRunner _ _ => exact ih published
    | missed _ _ => exact ih published
    | found _ _ => exact ih published
    | bind _ _ _ _ => exact ih published
    | unbind _ => cases published

/-- The phase that the members and the calls say is that of the protocol. -/
theorem Follows.phase_eq {s : State} {p : Protocol} (follows : Follows s p) :
    s.phase = p.phase s.ready_ := by
  unfold State.phase Protocol.phase
  have handled := follows.published
  cases published : p.published with
  | none =>
    rw [published] at handled
    rw [if_pos (Option.isNone_iff_eq_none.mp (Option.isSome_eq_false_iff.mp handled.symm))]
  | some b =>
    rw [published] at handled
    rw [if_neg (Option.isSome_iff_ne_none.mp handled.symm),
      Protocol.published_eq follows.asked published]
    cases b with
    | false => simp
    | true => simp

/-- After any starts and stops, whatever the system answered, the service is in the phase
they lead to. -/
theorem phase_of_run {history : List Event} {s : State} (run : Run Step {} history s) :
    s.phase = history.foldl Phase.next .idle := by
  obtain ⟨p, follows, -, phase⟩ := follows_run run
  exact follows.phase_eq.trans phase

/-- The second start makes a service ready that is not published. -/
theorem phase_refusing : (onStart refusing (onStart refusing {})).phase = .ready false :=
  (phase_of_run (.step (.step .start (.start refusing)) (.start refusing))).trans (by decide)

/-- The next phase of a state that a run gets to. -/
theorem Phase.of_step {history : List Event} {s s' : State} {event : Event}
    (run : Run Step {} history s) (taken : Step s event s') : s'.phase = s.phase.next event := by
  rw [phase_of_run (run.step taken), phase_of_run run, List.foldl_append, List.foldl_cons,
    List.foldl_nil]

theorem State.ready_of_phase {s : State} {published : Bool} (phase : s.phase = .ready published) :
    s.ready_ = true := by
  refine Bool.of_not_eq_false fun idle => ?_
  unfold State.phase at phase
  simp only [idle, Bool.false_eq_true, if_false] at phase
  split_ifs at phase

/-- A service whose `Publish` was refused stays unpublished, ready or not, until it is
stopped when it is ready. -/
theorem unpublished_until_stopped {history later : List Event} {s s' : State}
    (run : Run Step {} history s) (refused : s.phase = .refused) (more : Run Step s later s') :
    s'.phase = .refused ∨ s'.phase = .ready false ∨
      ∃ before after s₁, later = before ++ .stop :: after ∧ Run Step s before s₁ ∧
        s₁.ready_ = true := by
  induction more with
  | start => exact .inl refused
  | @step later s₁ s₂ event earlier taken ih =>
    rcases ih with phase | phase | ⟨before, after, s₃, rfl, first, ready⟩
    · rw [Phase.of_step (run.append earlier) taken, phase]
      cases event with
      | stop => exact .inl rfl
      | start system =>
        cases usbd : system.usbd with
        | false => exact .inl (by simp [Phase.next, usbd])
        | true => exact .inr (.inl (by simp [Phase.next, usbd]))
    · cases event with
      | start system =>
        rw [Phase.of_step (run.append earlier) taken, phase]
        exact .inr (.inl rfl)
      | stop =>
        have ready := State.ready_of_phase phase
        exact .inr (.inr ⟨later, [], s₁, rfl, earlier, ready⟩)
    · exact .inr (.inr ⟨before, after ++ [event], s₃, by simp, first, ready⟩)

/-! ## The ports of a service that is ready -/

section

variable {system : Startup}

/-- `OnStart` asks usbd for its ports if it makes the service ready. -/
theorem portManager_onStart {s : State} (idle : s.ready_ = false) :
    (onStart system s).ready_ = false ∧ (onStart system s).portManager = s.portManager ∨
      (onStart system s).ready_ = true ∧
        (onStart system s).portManager = s.portManager.init system.queryPort := by
  have first := @kept_init system s
  unfold onStart
  rw [idle, if_neg nofun]
  generalize init system s = result at *
  obtain ⟨_ | _, s₁⟩ := result
  · exact .inl ⟨first.ready.trans idle, first.ports⟩
  · have kept := first.trans (@kept_awaitUsbd system s₁ 0)
    dsimp only at kept ⊢
    generalize awaitUsbd system 0 s₁ = result at *
    obtain ⟨_ | _, s₂⟩ := result
    · exact .inl ⟨kept.ready.trans idle, kept.ports⟩
    · exact .inr ⟨rfl, congrArg (UsbPortManager.init system.queryPort) kept.ports⟩

/-- A service that its first start makes ready is the one whose runs are those of
`ServiceStep`. -/
theorem started_of_onStart (ready : (onStart system {}).ready_ = true) :
    (onStart system {}).portManager = (ServiceState.started system.queryPort).2.portManager := by
  rcases @portManager_onStart system {} rfl with ⟨idle, _⟩ | ⟨_, ports⟩
  · rw [idle] at ready
    cases ready
  · exact ports

end

end UsbManager.Lifecycle

import UsbManager.Client
import UsbManager.Lib.Run

/-!
# Restarts of the service

An instance of the service is registered until it dies, and a new one may be
started then.  The client keeps the proxy of the instance it has connected to.
`ResetProxy` would drop it when the death notice comes, but notices come only for
remote objects that a death recipient was added to, and `Connect` adds none: a
proxy of a dead instance is kept for ever (`stale_persists`).
-/

namespace UsbManager.Restarts

open UsbSrvClient

/-- Instances are numbered as they are started, and stand for their remote
objects.  `sent` are the requests the client has sent, with their receivers. -/
structure State where
  started : Nat
  registered : Option Nat
  proxy_ : Option Nat
  watched : List Nat
  sent : List (Nat × SrvCall)
  deriving DecidableEq, Repr

/-- An instance is started or dies, a death notice reaches the client, or a method of
the client is called. -/
inductive Event where
  | start
  | die
  | notice (remote : Nat)
  | operation (call : ClientCall) (vars : ClientReply)
  deriving DecidableEq, Repr

/-- What `Connect` finds in this state. -/
def State.found (s : State) : Found Nat :=
  match s.registered with
  | none => .noService
  | some i => .service (some i)

/-- The instance was started and is not registered any more. -/
def State.Dead (s : State) (i : Nat) : Prop := i < s.started ∧ s.registered ≠ some i

/-- `ResetProxy` -/
def resetProxy (remote : Nat) (s : State) : State :=
  match s.proxy_ with
  | none => s
  | some serviceRemote =>
    if serviceRemote = remote then
      { s with watched := s.watched.erase serviceRemote, proxy_ := none }
    else s

section

variable (answer : Nat → SrvCall → SrvReply → SrvReply)

/-- A request is sent to the remote object of the proxy. -/
def invoke (proxy : Nat) (request : SrvCall) (vars : SrvReply) (sent : List (Nat × SrvCall)) :
    SrvReply × List (Nat × SrvCall) :=
  (answer proxy request vars, sent ++ [(proxy, request)])

/-- The state after a method of the client. -/
def operate (call : ClientCall) (vars : ClientReply) (s : State) : State :=
  let (_, proxy_, sent) := call.method.run s.found (invoke answer) vars s.proxy_ s.sent
  { s with proxy_, sent }

/-- The events that can happen in a state, and the state after them. -/
inductive Step : State → Event → State → Prop
  | start {s : State} (free : s.registered = none) :
    Step s .start { s with started := s.started + 1, registered := some s.started }
  | die {s : State} {i : Nat} (alive : s.registered = some i) :
    Step s .die { s with registered := none }
  -- The handler runs only for a remote object the recipient was added to.
  | notice {s : State} {remote : Nat} (watched : remote ∈ s.watched)
    (dead : s.registered ≠ some remote) : Step s (.notice remote) (resetProxy remote s)
  | operation {s : State} (call : ClientCall) (vars : ClientReply) :
    Step s (.operation call vars) (operate answer call vars s)

/-- The state in which the constructor of the client leaves it. -/
def initial (running : Bool) : State :=
  let registered := if running then some 0 else none
  { started := if running then 1 else 0
    registered
    proxy_ := (connect (State.found ⟨0, registered, none, [], []⟩) none).2
    watched := []
    sent := [] }

/-- A method that is called while an instance is registered is sent to that instance,
and nowhere else. -/
def Reaches (s : State) (call : ClientCall) (vars : ClientReply) : Prop :=
  ∀ i, s.registered = some i → ∃ request, call.method.request = .ok request ∧
    (operate answer call vars s).sent = s.sent ++ [(i, request)]

/-- While an instance is registered the method is called with a proxy of an instance
that has not died, or without a proxy if it calls `Connect`. -/
def Fresh (s : State) (call : ClientCall) : Prop :=
  s.registered ≠ none →
    (∃ p, s.proxy_ = some p ∧ ¬ s.Dead p) ∨ (s.proxy_ = none ∧ call.method.guard = .connect)

/-- What holds of every method called in a run, in the state it is called in. -/
def EveryOperation (init : State) (history : List Event)
    (property : State → ClientCall → ClientReply → Prop) : Prop :=
  ∀ before call vars after s, history = before ++ .operation call vars :: after →
    Run (Step answer) init before s → property s call vars

variable {answer}

/-! ## What the client keeps -/

/-- Every instance was started, and the death recipient was never added. -/
structure Invariant (s : State) : Prop where
  registered : ∀ i, s.registered = some i → i < s.started
  proxy : ∀ p, s.proxy_ = some p → p < s.started
  unwatched : s.watched = []

theorem invariant_initial (running : Bool) : Invariant (initial running) := by
  cases running with
  | false => exact ⟨fun _ h => (by cases h), fun _ h => (by cases h), rfl⟩
  | true =>
    refine ⟨fun i h => ?_, fun p h => ?_, rfl⟩
    · cases h
      exact Nat.one_pos
    · cases h
      exact Nat.one_pos

/-- The test of the connection leaves a proxy that was there, and fetches only the
one of the registered instance. -/
theorem check_proxy (guard : Guard) (s : State) :
    (guard.check s.found s.proxy_).2 = s.proxy_ ∨
      (s.proxy_ = none ∧ (guard.check s.found s.proxy_).2 = s.registered) := by
  cases guard with
  | proxy => exact Or.inl rfl
  | connect =>
    rcases s with ⟨started, registered, _ | p, watched, sent⟩
    · cases registered with
      | none => exact Or.inl rfl
      | some i => exact Or.inr ⟨rfl, rfl⟩
    · exact Or.inl rfl

/-- A method leaves the proxy its test of the connection has left. -/
theorem operate_proxy (call : ClientCall) (vars : ClientReply) (s : State) :
    (operate answer call vars s).proxy_ = (call.method.guard.check s.found s.proxy_).2 := by
  unfold operate Method.run
  rcases call.method.guard.check s.found s.proxy_ with ⟨passed, proxy_⟩
  cases passed with
  | false => rfl
  | true =>
    cases call.method.request with
    | error ret => rfl
    | ok request =>
      cases proxy_ with
      | none => rfl
      | some proxy => rfl

theorem Invariant.step {s s' : State} {event : Event} (inv : Invariant s)
    (taken : Step answer s event s') : Invariant s' := by
  cases taken with
  | start free =>
    refine ⟨fun i h => ?_, fun p h => Nat.lt_succ_of_lt (inv.proxy p h), inv.unwatched⟩
    cases h
    exact Nat.lt_succ_self _
  | die alive => exact ⟨fun _ h => (by cases h), inv.proxy, inv.unwatched⟩
  | notice watched dead =>
    rw [inv.unwatched] at watched
    cases watched
  | operation call vars =>
    refine ⟨inv.registered, fun p h => ?_, inv.unwatched⟩
    rw [operate_proxy] at h
    rcases check_proxy call.method.guard s with same | ⟨_, same⟩
    · rw [same] at h
      exact inv.proxy p h
    · rw [same] at h
      exact inv.registered p h

theorem Invariant.run {running : Bool} {history : List Event} {s : State}
    (run : Run (Step answer) (initial running) history s) : Invariant s :=
  have step : ∀ (_ : List Event) s event s', Invariant s → Step answer s event s' →
      Invariant s' := fun _ _ _ _ inv taken => inv.step taken
  run.invariant (invariant_initial running) step

/-- A proxy of an instance that has died is never dropped. -/
theorem stale_persists {running : Bool} {history : List Event} {s s' : State} {event : Event}
    {p : Nat} (run : Run (Step answer) (initial running) history s) (kept : s.proxy_ = some p)
    (dead : s.Dead p) (taken : Step answer s event s') : s'.proxy_ = some p ∧ s'.Dead p := by
  have inv := Invariant.run run
  cases taken with
  | start free =>
    refine ⟨kept, Nat.lt_succ_of_lt dead.1, fun same => ?_⟩
    have newest : s.started = p := Option.some.inj same
    have older := dead.1
    omega
  | die alive => exact ⟨kept, dead.1, fun same => (by cases same)⟩
  | notice watched _ =>
    rw [inv.unwatched] at watched
    cases watched
  | operation call vars =>
    refine ⟨?_, dead⟩
    rw [operate_proxy]
    rcases check_proxy call.method.guard s with same | ⟨noProxy, _⟩
    · rw [same, kept]
    · rw [noProxy] at kept
      cases kept

/-! ## Where a request goes -/

theorem getDirection_cases (endpoint : USBEndpoint) :
    endpoint.getDirection = USB_ENDPOINT_DIR_IN ∨ endpoint.getDirection = USB_ENDPOINT_DIR_OUT := by
  have value : endpoint.getDirection.toNat = (endpoint.address.toNat.testBit 7).toNat * 2 ^ 7 :=
    (UInt32.toNat_and _ _).trans (Nat.and_two_pow _ 7)
  cases bit : endpoint.address.toNat.testBit 7 with
  | true =>
    rw [bit] at value
    exact Or.inl (UInt32.toNat_inj.mp value)
  | false =>
    rw [bit] at value
    exact Or.inr (UInt32.toNat_inj.mp value)

/-- Every method has something to ask: an endpoint is an input or an output. -/
theorem asks (call : ClientCall) : ∃ request, call.method.request = .ok request := by
  cases call with
  | bulkTransfer pipe endpoint bufferData timeOut =>
    unfold ClientCall.method bulkTransfer
    dsimp only
    rcases getDirection_cases endpoint with input | output
    · rw [if_pos input.symm]
      exact ⟨_, rfl⟩
    · rw [output, if_neg (by decide), if_pos rfl]
      exact ⟨_, rfl⟩
  | _ => exact ⟨_, rfl⟩

/-- Where the test of the connection leaves a proxy the request is sent to it. -/
theorem operate_sent_of_proxy {s : State} {call : ClientCall} {p : Nat} {request : SrvCall}
    (checked : call.method.guard.check s.found s.proxy_ = (true, some p))
    (asked : call.method.request = .ok request) (vars : ClientReply) :
    (operate answer call vars s).sent = s.sent ++ [(p, request)] := by
  unfold operate Method.run
  rw [checked, asked]
  rfl

/-- Where the test of the connection fails nothing is sent. -/
theorem operate_sent_of_failed {s : State} {call : ClientCall} {p : Option Nat}
    (checked : call.method.guard.check s.found s.proxy_ = (false, p)) (vars : ClientReply) :
    (operate answer call vars s).sent = s.sent := by
  unfold operate Method.run
  rw [checked]

theorem check_of_proxy {guard : Guard} {s : State} {p : Nat} (kept : s.proxy_ = some p) :
    guard.check s.found s.proxy_ = (true, some p) := by
  rw [kept]
  cases guard with
  | connect | proxy => rfl

/-- A method reaches the registered instance exactly where the client's proxy is not
stale, or there is none and the method connects. -/
theorem reaches_iff {s : State} (inv : Invariant s) (call : ClientCall) (vars : ClientReply) :
    Reaches answer s call vars ↔ Fresh s call := by
  obtain ⟨request, asked⟩ := asks call
  unfold Reaches Fresh
  cases registered : s.registered with
  | none =>
    refine ⟨fun _ some => absurd rfl some, fun _ i same => ?_⟩
    cases same
  | some i =>
    cases kept : s.proxy_ with
    | some p =>
      have sent := @operate_sent_of_proxy answer _ _ _ _ (check_of_proxy kept) asked vars
      refine ⟨fun reaches _ => Or.inl ⟨p, rfl, fun dead => ?_⟩, fun fresh j same => ?_⟩
      · obtain ⟨request', _, there⟩ := reaches i rfl
        rw [sent] at there
        have receiver : p = i := by
          have last := congrArg List.getLast? there
          simp only [List.getLast?_append, List.getLast?_singleton, Option.some_or,
            Option.some.injEq, Prod.mk.injEq] at last
          exact last.1
        exact dead.2 (receiver ▸ registered)
      · cases same
        rcases fresh nofun with ⟨p', same, alive⟩ | ⟨none, _⟩
        · cases same
          have receiver : s.registered = some p :=
            Classical.byContradiction fun other => alive ⟨inv.proxy p kept, other⟩
          rw [registered] at receiver
          cases receiver
          exact ⟨request, asked, sent⟩
        · cases none
    | none =>
      cases guard : call.method.guard with
      | connect =>
        have checked : call.method.guard.check s.found s.proxy_ = (true, some i) := by
          rw [guard, kept]
          unfold Guard.check connect State.found
          rw [registered]
          rfl
        refine ⟨fun _ _ => Or.inr ⟨rfl, rfl⟩, fun _ j same => ?_⟩
        cases same
        exact ⟨request, asked, operate_sent_of_proxy checked asked vars⟩
      | proxy =>
        have checked : call.method.guard.check s.found s.proxy_ = (false, none) := by
          rw [guard, kept]
          rfl
        refine ⟨fun reaches => ?_, fun fresh => ?_⟩
        · obtain ⟨request', _, there⟩ := reaches i rfl
          rw [operate_sent_of_failed checked vars] at there
          simp at there
        · rcases fresh nofun with ⟨p, some, _⟩ | ⟨_, connects⟩
          · cases some
          · cases connects

/-- In a run every method called while an instance is registered is sent to that
instance, exactly if each is called with a proxy of an instance that has not died, or
without a proxy if it calls `Connect`. -/
theorem recovers_iff (running : Bool) (history : List Event) :
    EveryOperation answer (initial running) history (Reaches answer) ↔
      EveryOperation answer (initial running) history fun s call _ => Fresh s call := by
  refine ⟨fun all before call vars after s₁ here run => ?_,
    fun all before call vars after s₁ here run => ?_⟩
  · exact (reaches_iff (.run run) call vars).mp (all before call vars after s₁ here run)
  · exact (reaches_iff (.run run) call vars).mpr (all before call vars after s₁ here run)

end

/-- A service that leaves the variables as they are. -/
def silent (_ : Nat) (_ : SrvCall) (vars : SrvReply) : SrvReply := vars

def someVars : ClientReply := ⟨{}, ⟨1, 2⟩, ⟨⟨1, 2⟩, {}, [], []⟩⟩

/-- The client connects to instance 0, the service is restarted, and the next
request goes to instance 0 again. -/
theorem not_recovers_restarted :
    ¬ EveryOperation silent (initial false)
      [.start, .operation .getDevices someVars, .die, .start, .operation .getDevices someVars]
      (Reaches silent) := by
  intro all
  have started : Run (Step silent) (initial false) [.start] _ := .step .start (.start rfl)
  have connected := started.step (.operation .getDevices someVars)
  have restarted := (connected.step (.die rfl)).step (.start rfl)
  obtain ⟨request, asked, there⟩ := all _ _ _ [] _ rfl restarted 1 rfl
  cases asked
  exact absurd there (by decide)

end UsbManager.Restarts

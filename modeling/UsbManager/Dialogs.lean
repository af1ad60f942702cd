import UsbManager.Lib.Run
import UsbManager.RightsTable

/-!
# Consent under concurrent requests

A `RequestRight` blocks in the service while others run.  Its steps are the
rights check, the check that no dialog is showing, the showing of the dialog,
the answer of the user, and the grant.  The second and the third are two steps
on one `dialogId_`, so that two requests can both pass the check and show two
dialogs; and two requests for one pair can both be allowed, of which the second
then fails.  Where a request passes the check only while it is alone, neither
happens (`consented_of_alone`).
-/

namespace UsbManager

/-! ## The steps of `RequestRight` -/

namespace RightManager

/-- `ShowDialog` stores the id of the dialog. -/
def showDialog (m : RightManager) (dialogId : Int32) : RightManager := { m with dialogId }

/-- The callback of the dialog, but for the answer. -/
def closeDialog (m : RightManager) : RightManager := { m with dialogId := -1 }

/-- What follows `GetUserAgreementByDiag`. -/
def grant (m : RightManager) (deviceName bundleName : String) (isAgree : Bool) :
    Uec × RightManager :=
  if ¬ isAgree then (.UEC_SERVICE_PERMISSION_DENIED, m)
  else
    let (added, m) := m.addDeviceRight deviceName bundleName
    if ¬ added then (.UEC_SERVICE_INVALID_VALUE, m)
    else if m.hasRight deviceName bundleName then (.UEC_OK, m)
    else (.UEC_SERVICE_INVALID_VALUE, m)

variable {m : RightManager} {name bundle : String}

/-- The steps up to the dialog are those of `RequestRight`. -/
theorem requestRight_eq_steps (dialogId : Int32) :
    m.requestRight name bundle dialogId =
      if m.hasRight name bundle then (some .UEC_OK, m)
      else if m.dialogId ≥ 0 then (some .UEC_SERVICE_PERMISSION_DENIED, m)
      else (none, m.showDialog dialogId) := rfl

/-- The steps from the answer on are the rest of it. -/
theorem requestRightAnswered_eq_steps (event : String) :
    m.requestRightAnswered name bundle event =
      m.closeDialog.grant name bundle (event = "EVENT_ALLOW") := by
  unfold requestRightAnswered grant
  by_cases allowed : event = "EVENT_ALLOW"
  · simp only [allowed, decide_true]
    rfl
  · simp only [allowed, decide_false]
    rfl

/-- A right that is not there yet is granted. -/
theorem grant_of_fresh (fresh : m.hasRight name bundle = false) :
    m.grant name bundle true = (.UEC_OK, (m.addDeviceRight name bundle).2) := by
  have granted : (m.addDeviceRight name bundle).2.hasRight name bundle = true :=
    (m.hasRight_addDeviceRight name bundle).mpr (.inr ⟨rfl, rfl⟩)
  have added : (m.addDeviceRight name bundle).1 = true := by
    rw [addDeviceRight_fst, fresh]
    rfl
  simp [grant, added, granted]

/-- Only the pair that was agreed to is added. -/
theorem hasRight_of_grant {isAgree : Bool} {name' bundle' : String}
    (right : (m.grant name bundle isAgree).2.hasRight name' bundle' = true) :
    m.hasRight name' bundle' = true ∨ isAgree = true ∧ name' = name ∧ bundle' = bundle := by
  cases isAgree with
  | false => exact .inl right
  | true =>
    have stored : (m.grant name bundle true).2 = (m.addDeviceRight name bundle).2 := by
      unfold grant
      rw [if_neg (by decide)]
      dsimp only
      split
      · rfl
      · split <;> rfl
    rw [stored] at right
    rcases (m.hasRight_addDeviceRight name bundle).mp right with there | ⟨same, same'⟩
    · exact .inl there
    · exact .inr ⟨rfl, same, same'⟩

end RightManager

/-! ## Requests in progress -/

/-- Where a request stands: not begun, without the right, past the showing
check, waiting for the user, answered, or at its end. -/
inductive Phase where
  | called
  | checked
  | passed
  | showing
  | answered (isAgree : Bool)
  | returned (ret : Uec)
  deriving DecidableEq, Repr

/-- The rights and the requests, which are numbered. -/
structure Consent where
  rightManager : RightManager := {}
  phase : Nat → Phase := fun _ => .called

namespace Consent

def move (s : Consent) (i : Nat) (phase : Phase) : Consent :=
  { s with phase := Function.update s.phase i phase }

inductive Label where
  | checkRight (i : Nat)
  | checkDialog (i : Nat)
  | showDialog (i : Nat)
  | answer (i : Nat) (event : String)
  | grant (i : Nat) (ret : Uec)
  deriving DecidableEq, Repr

/-- A step of one request.  `asks` is the name of the device and the bundle of
each request. -/
inductive Step (asks : Nat → String × String) : Consent → Label → Consent → Prop
  | hasRight {s : Consent} {i : Nat} :
    s.phase i = .called → s.rightManager.hasRight (asks i).1 (asks i).2 = true →
    Step asks s (.checkRight i) (s.move i (.returned .UEC_OK))
  | noRight {s : Consent} {i : Nat} :
    s.phase i = .called → s.rightManager.hasRight (asks i).1 (asks i).2 = false →
    Step asks s (.checkRight i) (s.move i .checked)
  | dialogShowing {s : Consent} {i : Nat} :
    s.phase i = .checked → s.rightManager.dialogId ≥ 0 →
    Step asks s (.checkDialog i) (s.move i (.returned .UEC_SERVICE_PERMISSION_DENIED))
  | noDialog {s : Consent} {i : Nat} :
    s.phase i = .checked → ¬ s.rightManager.dialogId ≥ 0 →
    Step asks s (.checkDialog i) (s.move i .passed)
  | showDialog {s : Consent} {i : Nat} {dialogId : Int32} :
    s.phase i = .passed →
    Step asks s (.showDialog i)
      { s.move i .showing with rightManager := s.rightManager.showDialog dialogId }
  | answer {s : Consent} {i : Nat} {event : String} :
    s.phase i = .showing →
    Step asks s (.answer i event)
      { s.move i (.answered (event = "EVENT_ALLOW")) with
        rightManager := s.rightManager.closeDialog }
  | grant {s : Consent} {i : Nat} {isAgree : Bool} {ret : Uec} {m : RightManager} :
    s.phase i = .answered isAgree →
    s.rightManager.grant (asks i).1 (asks i).2 isAgree = (ret, m) →
    Step asks s (.grant i ret) { s.move i (.returned ret) with rightManager := m }

/-- The dialog of the request was shown, and the user allowed it afterwards. -/
def ShownThenAllowed (history : List Label) (i : Nat) : Prop :=
  ∃ before between after,
    history = before ++ .showDialog i :: between ++ .answer i "EVENT_ALLOW" :: after

/-- One dialog at a time; rights only after consent to the same pair; and a
request that was allowed has returned `UEC_OK`, or does so with the step it has left. -/
structure Consented (asks : Nat → String × String) (history : List Label) (s : Consent) : Prop where
  oneDialog : ∀ i j, s.phase i = .showing → s.phase j = .showing → i = j
  allowed : ∀ name bundle, s.rightManager.hasRight name bundle = true →
    ∃ i, asks i = (name, bundle) ∧ ShownThenAllowed history i
  granted : ∀ i, .answer i "EVENT_ALLOW" ∈ history →
    s.phase i = .returned .UEC_OK ∨
      s.phase i = .answered true ∧
        (s.rightManager.grant (asks i).1 (asks i).2 true).1 = .UEC_OK

/-! ## Every run -/

variable {asks : Nat → String × String} {history : List Label} {s s' : Consent} {label : Label}
  {i j : Nat}

@[simp] theorem move_self (s : Consent) (i : Nat) (phase : Phase) :
    (s.move i phase).phase i = phase := Function.update_self ..

@[simp] theorem move_other (s : Consent) {i j : Nat} (phase : Phase) (other : j ≠ i) :
    (s.move i phase).phase j = s.phase j := Function.update_of_ne other ..

@[simp] theorem move_rightManager (s : Consent) (i : Nat) (phase : Phase) :
    (s.move i phase).rightManager = s.rightManager := rfl

theorem ShownThenAllowed.append (shown : ShownThenAllowed history i) (label : Label) :
    ShownThenAllowed (history ++ [label]) i := by
  obtain ⟨before, between, after, rfl⟩ := shown
  exact ⟨before, between, after ++ [label], by simp⟩

/-- Consent is asked for and given in this order. -/
structure Asked (asks : Nat → String × String) (history : List Label) (s : Consent) : Prop where
  shown : ∀ i, s.phase i = .showing → .showDialog i ∈ history
  answered : ∀ i, s.phase i = .answered true → ShownThenAllowed history i
  allowed : ∀ name bundle, s.rightManager.hasRight name bundle = true →
    ∃ i, asks i = (name, bundle) ∧ ShownThenAllowed history i

theorem Asked.start : Asked asks [] {} := by
  refine ⟨fun _ => nofun, fun _ => nofun, ?_⟩
  intro name bundle right
  simp [RightManager.hasRight] at right

/-- A step without a grant that brings a request to no dialog and no consent. -/
theorem Asked.frame (asked : Asked asks history s)
    (rights : s'.rightManager.rightMap = s.rightManager.rightMap)
    (shown : ∀ i, s'.phase i = .showing → s.phase i = .showing ∨ label = .showDialog i)
    (answered : ∀ i, s'.phase i = .answered true →
      s.phase i = .answered true ∨ s.phase i = .showing ∧ label = .answer i "EVENT_ALLOW") :
    Asked asks (history ++ [label]) s' := by
  refine ⟨?_, ?_, ?_⟩
  · intro i showing
    rcases shown i showing with before | rfl
    · exact List.mem_append_left _ (asked.shown i before)
    · exact List.mem_append_right _ (List.mem_singleton.mpr rfl)
  · intro i agreed
    rcases answered i agreed with before | ⟨before, rfl⟩
    · exact (asked.answered i before).append label
    · obtain ⟨first, rest, rfl⟩ := List.append_of_mem (asked.shown i before)
      exact ⟨first, rest, [], by simp⟩
  · intro name bundle right
    rw [RightManager.hasRight_congr rights] at right
    obtain ⟨i, same, there⟩ := asked.allowed name bundle right
    exact ⟨i, same, there.append label⟩

/-- Where a request is after one of them moved. -/
theorem move_phase_eq {phase phase' : Phase} :
    (s.move i phase).phase j = phase' ↔ j = i ∧ phase = phase' ∨ j ≠ i ∧ s.phase j = phase' := by
  by_cases same : j = i
  · subst same
    simp
  · simp [same]

/-- What every step preserves. -/
theorem Asked.step (asked : Asked asks history s) (step : Step asks s label s') :
    Asked asks (history ++ [label]) s' := by
  -- A request that moves to a phase other than these two has nothing to show.
  have quiet : ∀ {i : Nat} {phase : Phase} {label : Label}, phase ≠ .showing →
      phase ≠ .answered true → Asked asks (history ++ [label]) (s.move i phase) := by
    intro i phase label notShowing notAgreed
    refine asked.frame rfl ?_ ?_
    · intro j showing
      rcases move_phase_eq.mp showing with ⟨_, same⟩ | ⟨_, before⟩
      · exact (notShowing same).elim
      · exact .inl before
    · intro j agreed
      rcases move_phase_eq.mp agreed with ⟨_, same⟩ | ⟨_, before⟩
      · exact (notAgreed same).elim
      · exact .inl before
  cases step with
  | hasRight => exact quiet nofun nofun
  | noRight => exact quiet nofun nofun
  | dialogShowing => exact quiet nofun nofun
  | noDialog => exact quiet nofun nofun
  | @showDialog i dialogId passed =>
    refine asked.frame rfl ?_ ?_
    · intro j showing
      rcases move_phase_eq.mp showing with ⟨rfl, _⟩ | ⟨_, before⟩
      · exact .inr rfl
      · exact .inl before
    · intro j agreed
      rcases move_phase_eq.mp agreed with ⟨_, same⟩ | ⟨_, before⟩
      · cases same
      · exact .inl before
  | @answer i event showing =>
    refine asked.frame rfl ?_ ?_
    · intro j showing
      rcases move_phase_eq.mp showing with ⟨_, same⟩ | ⟨_, before⟩
      · cases same
      · exact .inl before
    · intro j agreed
      rcases move_phase_eq.mp agreed with ⟨rfl, same⟩ | ⟨_, before⟩
      · have allowed : event = "EVENT_ALLOW" := of_decide_eq_true (Phase.answered.inj same)
        exact .inr ⟨showing, by rw [allowed]⟩
      · exact .inl before
  | @grant i isAgree ret m answered result =>
    have silent := @quiet i (.returned ret) (.grant i ret) nofun nofun
    refine ⟨silent.shown, silent.answered, ?_⟩
    intro name bundle right
    obtain rfl : (s.rightManager.grant (asks i).1 (asks i).2 isAgree).2 = m :=
      congrArg Prod.snd result
    rcases RightManager.hasRight_of_grant right with before | ⟨rfl, rfl, rfl⟩
    · exact silent.allowed name bundle before
    · exact ⟨i, rfl, (asked.answered i answered).append _⟩

/-- Rights follow consent, however the requests interleave. -/
theorem asked (run : Run (Step asks) {} history s) : Asked asks history s :=
  run.invariant .start fun _ _ _ _ asked step => asked.step step

/-! ## Runs in which requests pass the check alone -/

/-- A request passes the showing check only while no other is between its own
check and its answer, and while the right it wants is neither there nor allowed
to another request for it. -/
def Alone (asks : Nat → String × String) (s : Consent) : Label → Prop
  | .checkDialog i => ¬ s.rightManager.dialogId ≥ 0 →
    (∀ j, s.phase j ≠ .passed ∧ s.phase j ≠ .showing) ∧
      s.rightManager.hasRight (asks i).1 (asks i).2 = false ∧
      ∀ j, asks j = asks i → s.phase j ≠ .answered true
  | _ => True

/-- Past the showing check, before the answer. -/
def InDialog (phase : Phase) : Prop := phase = .passed ∨ phase = .showing

/-- Past the showing check, and not refused. -/
def Hopeful (phase : Phase) : Prop := InDialog phase ∨ phase = .answered true

/-- One request at a time has a dialog, and those that may be granted a right
want rights that are not there, each another. -/
structure Orderly (asks : Nat → String × String) (history : List Label) (s : Consent) : Prop where
  one : ∀ i j, InDialog (s.phase i) → InDialog (s.phase j) → i = j
  fresh : ∀ i, Hopeful (s.phase i) → s.rightManager.hasRight (asks i).1 (asks i).2 = false
  apart : ∀ i j, Hopeful (s.phase i) → Hopeful (s.phase j) → asks i = asks j → i = j
  granted : ∀ i, .answer i "EVENT_ALLOW" ∈ history →
    s.phase i = .returned .UEC_OK ∨ s.phase i = .answered true

theorem Orderly.start : Orderly asks [] {} := by
  have calm : ∀ i, ¬ Hopeful (({} : Consent).phase i) := by
    intro i hopeful
    rcases hopeful with (passed | showing) | agreed
    · cases passed
    · cases showing
    · cases agreed
  refine ⟨?_, ?_, ?_, ?_⟩
  · exact fun i _ there _ => (calm i (.inl there)).elim
  · exact fun i there => (calm i there).elim
  · exact fun i _ there _ _ => (calm i there).elim
  · exact fun _ there => nomatch there

/-- A step that grants nothing and brings no request into a dialog or nearer to a right. -/
theorem Orderly.frame (orderly : Orderly asks history s)
    (rights : s'.rightManager.rightMap = s.rightManager.rightMap)
    (inDialog : ∀ j, InDialog (s'.phase j) → InDialog (s.phase j))
    (hopeful : ∀ j, Hopeful (s'.phase j) → Hopeful (s.phase j))
    (granted : ∀ j, .answer j "EVENT_ALLOW" ∈ history ++ [label] →
      s'.phase j = .returned .UEC_OK ∨ s'.phase j = .answered true) :
    Orderly asks (history ++ [label]) s' := by
  refine ⟨?_, ?_, ?_, granted⟩
  · exact fun j k there there' => orderly.one j k (inDialog j there) (inDialog k there')
  · intro j there
    rw [RightManager.hasRight_congr rights]
    exact orderly.fresh j (hopeful j there)
  · exact fun j k there there' => orderly.apart j k (hopeful j there) (hopeful k there')

/-- The requests that were allowed are not the one that moves. -/
theorem Orderly.granted_move (orderly : Orderly asks history s)
    (quiet : ∀ j, label ≠ .answer j "EVENT_ALLOW") (open_ : s.phase i ≠ .returned .UEC_OK)
    (unanswered : s.phase i ≠ .answered true) (phase : Phase) :
    ∀ j, .answer j "EVENT_ALLOW" ∈ history ++ [label] →
      (s.move i phase).phase j = .returned .UEC_OK ∨ (s.move i phase).phase j = .answered true := by
  intro j there
  rcases List.mem_append.mp there with before | now
  · have other : j ≠ i := by
      intro same
      subst same
      rcases orderly.granted j before with done | agreed
      · exact open_ done
      · exact unanswered agreed
    rw [move_other s phase other]
    exact orderly.granted j before
  · exact (quiet j (List.mem_singleton.mp now).symm).elim

theorem not_inDialog_returned (ret : Uec) : ¬ InDialog (.returned ret) := by
  intro there
  rcases there with same | same <;> cases same

theorem not_hopeful_returned (ret : Uec) : ¬ Hopeful (.returned ret) := by
  intro there
  rcases there with there | same
  · exact not_inDialog_returned ret there
  · cases same

theorem not_inDialog_answered (isAgree : Bool) : ¬ InDialog (.answered isAgree) := by
  intro there
  rcases there with same | same <;> cases same

theorem not_hopeful_checked : ¬ Hopeful .checked := by
  intro there
  rcases there with (same | same) | same <;> cases same

/-- What is true of every phase of the moved state that the move did not bring about. -/
theorem of_move {property : Phase → Prop} {phase : Phase} (not : ¬ property phase)
    (there : property ((s.move i phase).phase j)) : j ≠ i ∧ property (s.phase j) := by
  by_cases same : j = i
  · subst same
    rw [move_self] at there
    exact (not there).elim
  · rw [move_other s phase same] at there
    exact ⟨same, there⟩

/-- A request leaves its place for one outside of every dialog. -/
theorem Orderly.leave (orderly : Orderly asks history s) {phase : Phase}
    (quiet : ∀ j, label ≠ .answer j "EVENT_ALLOW") (open_ : s.phase i ≠ .returned .UEC_OK)
    (unanswered : s.phase i ≠ .answered true) (outside : ¬ Hopeful phase) :
    Orderly asks (history ++ [label]) (s.move i phase) := by
  refine orderly.frame rfl ?_ ?_ (orderly.granted_move quiet open_ unanswered phase)
  · exact fun j there => (of_move (fun inside => outside (.inl inside)) there).2
  · exact fun j there => (of_move outside there).2

/-- What a step taken alone preserves. -/
theorem Orderly.step (orderly : Orderly asks history s) (alone : s.Alone asks label)
    (step : Step asks s label s') : Orderly asks (history ++ [label]) s' := by
  cases step with
  | @hasRight i called _ =>
    exact orderly.leave nofun (by simp [called]) (by simp [called]) (not_hopeful_returned _)
  | @noRight i called _ =>
    exact orderly.leave nofun (by simp [called]) (by simp [called]) not_hopeful_checked
  | @dialogShowing i checked _ =>
    exact orderly.leave nofun (by simp [checked]) (by simp [checked]) (not_hopeful_returned _)
  | @noDialog i checked closed =>
    obtain ⟨nobody, fresh, unclaimed⟩ := alone closed
    have nobodyElse : ∀ j, ¬ InDialog (s.phase j) := by
      intro j there
      rcases there with passed | showing
      · exact (nobody j).1 passed
      · exact (nobody j).2 showing
    have noRival : ∀ j, asks j = asks i → ¬ Hopeful (s.phase j) := by
      intro j same there
      rcases there with there | agreed
      · exact nobodyElse j there
      · exact unclaimed j same agreed
    refine ⟨?_, ?_, ?_, ?_⟩
    · intro j k there there'
      by_cases here : j = i
      · by_cases here' : k = i
        · exact here.trans here'.symm
        · rw [move_other s _ here'] at there'
          exact (nobodyElse k there').elim
      · rw [move_other s _ here] at there
        exact (nobodyElse j there).elim
    · intro j there
      by_cases here : j = i
      · exact here ▸ fresh
      · rw [move_other s _ here] at there
        exact orderly.fresh j there
    · intro j k there there' same
      by_cases here : j = i
      · by_cases here' : k = i
        · exact here.trans here'.symm
        · rw [move_other s _ here'] at there'
          exact (noRival k (here ▸ same.symm) there').elim
      · rw [move_other s _ here] at there
        by_cases here' : k = i
        · exact (noRival j (here' ▸ same) there).elim
        · rw [move_other s _ here'] at there'
          exact orderly.apart j k there there' same
    · exact orderly.granted_move (by simp) (by simp [checked]) (by simp [checked]) _
  | @showDialog i dialogId passed =>
    -- The request was in its dialog before, and is so now.
    refine orderly.frame rfl ?_ ?_
      (orderly.granted_move (by simp) (by simp [passed]) (by simp [passed]) _)
    · intro j there
      by_cases here : j = i
      · exact here ▸ .inl passed
      · exact move_other s .showing here ▸ there
    · intro j there
      by_cases here : j = i
      · exact here ▸ .inl (.inl passed)
      · exact move_other s .showing here ▸ there
  | @answer i event showing =>
    refine orderly.frame rfl ?_ ?_ ?_
    · exact fun j there => (of_move (not_inDialog_answered _) there).2
    · intro j there
      by_cases here : j = i
      · exact here ▸ .inl (.inr showing)
      · exact move_other s (.answered (event = "EVENT_ALLOW")) here ▸ there
    · intro j there
      rcases List.mem_append.mp there with before | now
      · have other : j ≠ i := by
          intro same
          subst same
          have done := orderly.granted j before
          simp [showing] at done
        change (s.move i _).phase j = _ ∨ (s.move i _).phase j = _
        rw [move_other s _ other]
        exact orderly.granted j before
      · obtain ⟨rfl, rfl⟩ := Label.answer.inj (List.mem_singleton.mp now)
        exact .inr (by simp)
  | @grant i isAgree ret m answered result =>
    have gone : ∀ j, Hopeful ((s.move i (.returned ret)).phase j) → j ≠ i ∧ Hopeful (s.phase j) :=
      fun j there => of_move (not_hopeful_returned ret) there
    have stored : m = (s.rightManager.grant (asks i).1 (asks i).2 isAgree).2 :=
      (congrArg Prod.snd result).symm
    refine ⟨?_, ?_, ?_, ?_⟩
    · intro j k there there'
      exact orderly.one j k (of_move (not_inDialog_returned ret) there).2
        (of_move (not_inDialog_returned ret) there').2
    · intro j there
      obtain ⟨other, before⟩ := gone j there
      have fresh := orderly.fresh j before
      refine Bool.eq_false_iff.mpr fun right => ?_
      change m.hasRight (asks j).1 (asks j).2 = true at right
      rw [stored] at right
      rcases RightManager.hasRight_of_grant right with there | ⟨rfl, name, bundle⟩
      · rw [fresh] at there
        cases there
      · exact other (orderly.apart j i before (.inr answered) (Prod.ext name bundle))
    · exact fun j k there there' => orderly.apart j k (gone j there).2 (gone k there').2
    · intro j there
      rcases List.mem_append.mp there with before | now
      · by_cases here : j = i
        · subst here
          rcases orderly.granted j before with done | agreed
          · rw [answered] at done
            cases done
          · obtain rfl : isAgree = true := Phase.answered.inj (answered.symm.trans agreed)
            have granted := RightManager.grant_of_fresh (orderly.fresh j (.inr answered))
            rw [granted] at result
            obtain ⟨rfl, rfl⟩ := Prod.mk.inj result
            exact .inl (by simp)
        · change (s.move i _).phase j = _ ∨ (s.move i _).phase j = _
          rw [move_other s _ here]
          exact orderly.granted j before
      · cases List.mem_singleton.mp now

theorem orderly (run : Run (Guarded (Alone asks) (Step asks)) {} history s) :
    Orderly asks history s :=
  run.invariant .start fun _ _ _ _ orderly taken => orderly.step taken.1 taken.2

/-- In every run whose requests pass the showing check alone, consent is asked
for one at a time, precedes its right, and is honoured. -/
theorem consented_of_alone (run : Run (Guarded (Alone asks) (Step asks)) {} history s) :
    Consented asks history s := by
  have orderly := orderly run
  refine ⟨?_, (asked run.unguarded).allowed, ?_⟩
  · exact fun i j showing showing' => orderly.one i j (.inr showing) (.inr showing')
  · intro i allowed
    rcases orderly.granted i allowed with done | agreed
    · exact .inl done
    · refine .inr ⟨agreed, ?_⟩
      rw [RightManager.grant_of_fresh (orderly.fresh i (.inr agreed))]

/-! ### Two runs -/

/-- Everybody asks for the right of one bundle on one device. -/
def samePair : Nat → String × String := fun _ => ("1-2", "com.usb.right")

/-- Request 0 has passed the showing check. -/
def onePassed : Consent := (({} : Consent).move 0 .checked).move 0 .passed

theorem run_onePassed :
    Run (Guarded (Alone samePair) (Step samePair)) {} [.checkRight 0, .checkDialog 0]
      onePassed := by
  have fresh : (({} : Consent).rightManager.hasRight "1-2" "com.usb.right") = false := by
    decide +kernel
  have alone : Alone samePair (({} : Consent).move 0 .checked) (.checkDialog 0) := by
    intro _
    refine ⟨?_, fresh, ?_⟩
    · intro j
      by_cases here : j = 0 <;> simp [here]
    · intro j _
      by_cases here : j = 0 <;> simp [here]
  exact (Run.start.step ⟨trivial, .noRight rfl fresh⟩).step ⟨alone, .noDialog rfl (by decide)⟩

/-- The user is asked, -/
def oneShown : Consent :=
  { onePassed.move 0 .showing with rightManager := onePassed.rightManager.showDialog 1 }

/-- and allows it. -/
def oneAllowed : Consent :=
  { oneShown.move 0 (.answered ("EVENT_ALLOW" = "EVENT_ALLOW")) with
    rightManager := oneShown.rightManager.closeDialog }

theorem run_oneShown :
    Run (Guarded (Alone samePair) (Step samePair)) {}
      ([.checkRight 0, .checkDialog 0] ++ [.showDialog 0]) oneShown :=
  run_onePassed.step ⟨trivial, .showDialog rfl⟩

theorem run_oneAllowed :
    Run (Guarded (Alone samePair) (Step samePair)) {}
      ([.checkRight 0, .checkDialog 0] ++ [.showDialog 0] ++ [.answer 0 "EVENT_ALLOW"])
      oneAllowed :=
  run_oneShown.step ⟨trivial, .answer rfl⟩

theorem consented_oneAllowed :
    Consented samePair
      ([.checkRight 0, .checkDialog 0] ++ [.showDialog 0] ++ [.answer 0 "EVENT_ALLOW"])
      oneAllowed :=
  consented_of_alone run_oneAllowed

/-- Two requests pass the showing check before either shows its dialog. -/
theorem not_consented_twoDialogs :
    ¬ ∀ asks history s, Run (Step asks) {} history s → Consented asks history s := by
  intro all
  have passed := run_onePassed.unguarded
  have both := ((passed.step (.noRight rfl (by decide +kernel) : Step samePair onePassed
    (.checkRight 1) _)).step (.noDialog rfl (by decide))).step (.showDialog rfl : Step samePair _
      (.showDialog 0) { (onePassed.move 1 .checked).move 1 .passed |>.move 0 .showing with
        rightManager := onePassed.rightManager.showDialog 1 })
  have shown := both.step (.showDialog rfl : Step samePair _ (.showDialog 1)
    { (((onePassed.move 1 .checked).move 1 .passed).move 0 .showing).move 1 .showing with
      rightManager := (onePassed.rightManager.showDialog 1).showDialog 2 })
  exact absurd ((all _ _ _ shown).oneDialog 0 1 rfl rfl) (by decide)

end Consent

end UsbManager

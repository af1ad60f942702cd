import Mathlib
import UsbManager.Functions
import UsbManager.Lib.Prog

/-!
# What a `USB_STATE` broadcast carries

`HandleEvent` shifts a bit through the mask of the current functions and sets a
parameter under what `ConvertToString` prints for each bit it finds.  The loop ends
for every mask (`returns_bitLoop`).  For a bit that is not settable the parameter is
`none`, so that a broadcast is right if the mask has settable bits only, or no bit of
a function at all (`broadcastsRight_iff`).
-/

namespace UsbManager

open UsbSrvSupport

namespace UsbDeviceManager

/-- The variables of the loop of `HandleEvent`, and the parameters it has set. -/
structure BitLoop where
  remainderFunc : UInt32
  bit : UInt32
  params : List String
  deriving DecidableEq, Repr

/-- One pass of the loop. -/
def bitPass (st : BitLoop) : Prog Empty (Pass BitLoop (List String)) :=
  if st.remainderFunc ≠ 0 then
    if st.remainderFunc &&& st.bit ≠ 0 then
      pure (.next {
        remainderFunc := st.remainderFunc &&& ~~~st.bit
        bit := st.bit <<< 1
        params := st.params ++ [convertToString st.bit] })
    else pure (.next { st with bit := st.bit <<< 1 })
  else pure (.done st.params)

/-- `HandleEvent` with its loop, where usbd answers `GetCurrentFunctions` with `ret` and
this mask. -/
def handleEventByLoop (status : DeviceAct) (ret : Uec) (reported : Int32) (m : UsbDeviceManager) :
    Prog Empty UsbDeviceManager :=
  let publish (m : UsbDeviceManager) : Prog Empty UsbDeviceManager := do
    let functions ← Prog.loop bitPass
      { remainderFunc := m.currentFunctions.toUInt32, bit := 1, params := [] }
    pure { m with broadcasts := m.broadcasts ++ [⟨m.connected, functions⟩] }
  match status with
  | .ACT_UPDEVICE =>
    publish { m with
      connected := true
      currentFunctions := if ret = .UEC_OK then reported else m.currentFunctions }
  | .ACT_DOWNDEVICE => publish { m with connected := false }
  | _ => pure m

/-! ## The loop -/

/-- The bit with this number. -/
def hasBit (funcs : UInt32) (i : Nat) : Bool := funcs.toBitVec.getLsbD i

def bitAt (i : Nat) : UInt32 := 1 <<< i.toUInt32

/-- What is printed for the bits below a number. -/
def namesBelow (funcs : UInt32) (i : Nat) : List String :=
  ((List.range i).filter fun k => hasBit funcs k).map fun k => convertToString (bitAt k)

/-- The loop has come to the bit with this number. -/
structure AtBit (funcs : UInt32) (i : Nat) (st : BitLoop) : Prop where
  remainderFunc : ∀ k, hasBit st.remainderFunc k = (decide (i ≤ k) && hasBit funcs k)
  bit : ∀ k, k < 32 → hasBit st.bit k = decide (k = i)
  params : st.params = namesBelow funcs i

theorem hasBit_of_le {funcs : UInt32} {k : Nat} (le : 32 ≤ k) : hasBit funcs k = false :=
  BitVec.getLsbD_of_ge _ _ le

theorem eq_zero_iff {funcs : UInt32} : funcs = 0 ↔ ∀ k, k < 32 → hasBit funcs k = false := by
  rw [← UInt32.toBitVec_inj]
  constructor
  · intro zero k _
    rw [hasBit, zero]
    simp
  · intro clear
    ext k below
    have here := clear k below
    rw [hasBit, BitVec.getLsbD_eq_getElem below] at here
    simpa using here

theorem hasBit_bitAt {i k : Nat} (small : i < 32) (below : k < 32) :
    hasBit (bitAt i) k = decide (k = i) := by
  have all : ∀ i < 32, ∀ k < 32, hasBit (bitAt i) k = decide (k = i) := by decide
  exact all i small k below

theorem hasBit_bitAt_shift {i : Nat} (small : i < 32) :
    ∀ k, k < 32 → hasBit (bitAt i <<< 1) k = decide (k = i + 1) := by
  have all : ∀ i < 32, ∀ k < 32, hasBit (bitAt i <<< 1) k = decide (k = i + 1) := by decide
  exact all i small

theorem eq_bitAt {bit : UInt32} {i : Nat} (small : i < 32)
    (same : ∀ k, k < 32 → hasBit bit k = decide (k = i)) : bit = bitAt i := by
  rw [← UInt32.toBitVec_inj]
  ext k below
  exact (same k below).trans (hasBit_bitAt small below).symm

/-- A mask has a bit if the word with that bit meets it. -/
theorem and_ne_zero_iff {funcs bit : UInt32} {i : Nat} (small : i < 32)
    (same : ∀ k, k < 32 → hasBit bit k = decide (k = i)) :
    funcs &&& bit ≠ 0 ↔ hasBit funcs i = true := by
  have each : ∀ k, k < 32 → hasBit (funcs &&& bit) k = (hasBit funcs k && decide (k = i)) := by
    intro k below
    rw [← same k below]
    exact BitVec.getLsbD_and
  rw [Ne, eq_zero_iff]
  constructor
  · intro some
    by_contra clear
    refine some fun k below => ?_
    rw [each k below]
    by_cases own : k = i
    · subst own
      simp [clear]
    · simp [own]
  · intro set clear
    have here := clear i small
    rw [each i small, set] at here
    simp at here

theorem namesBelow_succ (funcs : UInt32) (i : Nat) :
    namesBelow funcs (i + 1) =
      namesBelow funcs i ++ if hasBit funcs i then [convertToString (bitAt i)] else [] := by
  unfold namesBelow
  rw [List.range_succ, List.filter_append, List.map_append]
  congr 1
  cases set : hasBit funcs i <;> simp [set]

section Loop

variable {funcs : UInt32} {i : Nat} {st : BitLoop}

/-- One pass goes to the next bit. -/
theorem AtBit.next (at_i : AtBit funcs i st) (small : i < 32) (left : st.remainderFunc ≠ 0) :
    ∃ st', bitPass st = pure (.next st') ∧ AtBit funcs (i + 1) st' := by
  have found : st.remainderFunc &&& st.bit ≠ 0 ↔ hasBit funcs i = true := by
    rw [and_ne_zero_iff small at_i.bit, at_i.remainderFunc i]
    simp
  have shifted : ∀ k, k < 32 → hasBit (st.bit <<< 1) k = decide (k = i + 1) := by
    rw [eq_bitAt small at_i.bit]
    exact hasBit_bitAt_shift small
  by_cases set : hasBit funcs i = true
  · refine ⟨⟨st.remainderFunc &&& ~~~st.bit, st.bit <<< 1, st.params ++ [convertToString st.bit]⟩,
      ?_, ⟨?_, shifted, ?_⟩⟩
    · rw [bitPass, if_pos left, if_pos (found.mpr set)]
    · intro k
      have cleared : hasBit (st.remainderFunc &&& ~~~st.bit) k =
          (hasBit st.remainderFunc k && (decide (k < 32) && !hasBit st.bit k)) :=
        BitVec.getLsbD_and.trans (congrArg _ BitVec.getLsbD_not)
      rw [cleared, at_i.remainderFunc]
      by_cases below : k < 32
      · rw [at_i.bit k below]
        by_cases own : k = i
        · simp [own]
        · have later : i ≤ k ↔ i + 1 ≤ k := by omega
          simp [own, below, later]
      · simp [hasBit_of_le (Nat.le_of_not_lt below)]
    · rw [namesBelow_succ, if_pos set, ← at_i.params, ← eq_bitAt small at_i.bit]
  · refine ⟨{ st with bit := st.bit <<< 1 }, ?_, ⟨?_, shifted, ?_⟩⟩
    · rw [bitPass, if_pos left, if_neg (found.not.mpr set)]
    · intro k
      dsimp only
      rw [at_i.remainderFunc]
      by_cases own : k = i
      · simp [own, set]
      · have later : i ≤ k ↔ i + 1 ≤ k := by omega
        simp [later]
    · rw [namesBelow_succ, if_neg set, List.append_nil]
      exact at_i.params

/-- Without further bits there are no further parameters. -/
theorem namesBelow_add (clear : ∀ k, i ≤ k → hasBit funcs k = false) (more : Nat) :
    namesBelow funcs (i + more) = namesBelow funcs i := by
  induction more with
  | zero => rfl
  | succ more ih =>
    rw [← Nat.add_assoc, namesBelow_succ, clear (i + more) (Nat.le_add_right i more), ih]
    exact List.append_nil _

/-- The loop ends where nothing remains, and then no bit follows. -/
theorem AtBit.done (at_i : AtBit funcs i st) (none : st.remainderFunc = 0) (le : i ≤ 32) :
    st.params = namesBelow funcs 32 := by
  have clear : ∀ k, i ≤ k → hasBit funcs k = false := by
    intro k later
    have here := at_i.remainderFunc k
    rw [none, decide_eq_true later, Bool.true_and] at here
    rw [← here]
    by_cases below : k < 32
    · exact eq_zero_iff.mp rfl k below
    · exact hasBit_of_le (Nat.le_of_not_lt below)
  obtain ⟨more, whole⟩ := Nat.exists_eq_add_of_le le
  rw [at_i.params, whole, namesBelow_add clear]

/-- From any bit the loop comes to its end. -/
theorem AtBit.returns (at_i : AtBit funcs i st) (le : i ≤ 32) :
    (Prog.loop bitPass st).Returns (namesBelow funcs 32) := by
  obtain ⟨more, whole⟩ := Nat.exists_eq_add_of_le le
  induction more generalizing i st with
  | zero =>
    have none : st.remainderFunc = 0 := by
      rw [eq_zero_iff]
      intro k below
      have early : ¬ i ≤ k := by omega
      rw [at_i.remainderFunc, decide_eq_false early, Bool.false_and]
    refine (Prog.loop_equiv.1 _).mpr ?_
    rw [bitPass, if_neg (not_not.mpr none)]
    exact Prog.returns_bind.mpr ⟨_, Prog.returns_pure.mpr rfl,
      Prog.returns_pure.mpr (at_i.done none le).symm⟩
  | succ more ih =>
    refine (Prog.loop_equiv.1 _).mpr ?_
    by_cases left : st.remainderFunc ≠ 0
    · obtain ⟨st', pass, next⟩ := at_i.next (by omega) left
      rw [pass]
      exact Prog.returns_bind.mpr ⟨_, Prog.returns_pure.mpr rfl,
        ih next (by omega) (by omega)⟩
    · rw [bitPass, if_neg left]
      exact Prog.returns_bind.mpr ⟨_, Prog.returns_pure.mpr rfl,
        Prog.returns_pure.mpr (at_i.done (not_not.mp left) le).symm⟩

/-- The loop ends for every mask, with the parameters for its bits. -/
theorem returns_bitLoop (funcs : UInt32) :
    (Prog.loop bitPass { remainderFunc := funcs, bit := 1, params := [] }).Returns
      (namesBelow funcs 32) := by
  have start : AtBit funcs 0 { remainderFunc := funcs, bit := 1, params := [] } := by
    refine ⟨fun k => ?_, fun k below => ?_, rfl⟩
    · rw [decide_eq_true (Nat.zero_le k), Bool.true_and]
    · exact hasBit_bitAt (by decide : 0 < 32) below
  exact start.returns (Nat.zero_le 32)

theorem namesBelow_eq_functionNames (funcs : Int32) :
    namesBelow funcs.toUInt32 32 = functionNames funcs := by
  have upTo : ∀ n, n ≤ 32 → namesBelow funcs.toUInt32 n =
      ((List.range n).map bitAt).filterMap fun bit =>
        if funcs.toUInt32 &&& bit ≠ 0 then some (convertToString bit) else none := by
    intro n
    induction n with
    | zero => exact fun _ => rfl
    | succ n ih =>
      intro le
      have found : funcs.toUInt32 &&& bitAt n ≠ 0 ↔ hasBit funcs.toUInt32 n = true :=
        and_ne_zero_iff le fun k below => hasBit_bitAt le below
      rw [namesBelow_succ, ih (by omega), List.range_succ, List.map_append, List.filterMap_append]
      congr 1
      by_cases set : hasBit funcs.toUInt32 n = true
      · rw [if_pos set]
        simp only [List.map_cons, List.map_nil, List.filterMap_cons, if_pos (found.mpr set)]
        rfl
      · rw [if_neg set]
        simp only [List.map_cons, List.map_nil, List.filterMap_cons, if_neg (found.not.mpr set)]
        rfl
  exact upTo 32 (Nat.le_refl 32)

end Loop

/-! ## The broadcasts of a run -/

/-- `HandleEvent` returns with what the bits of the mask say. -/
theorem returns_handleEventByLoop (status : DeviceAct) (ret : Uec) (reported : Int32)
    (m : UsbDeviceManager) :
    (m.handleEventByLoop status ret reported).Returns (m.handleEvent status ret reported) := by
  have published : ∀ m' : UsbDeviceManager,
      ((Prog.loop bitPass { remainderFunc := m'.currentFunctions.toUInt32, bit := 1, params := [] }) >>=
        fun functions => pure { m' with broadcasts := m'.broadcasts ++ [⟨m'.connected, functions⟩] } :
          Prog Empty UsbDeviceManager).Returns
        { m' with broadcasts := m'.broadcasts ++ [m'.stateEvent] } := by
    intro m'
    have ended := returns_bitLoop m'.currentFunctions.toUInt32
    rw [namesBelow_eq_functionNames] at ended
    exact Prog.returns_bind.mpr ⟨_, ended, Prog.returns_pure.mpr rfl⟩
  cases status with
  | ACT_UPDEVICE => exact published _
  | ACT_DOWNDEVICE => exact published _
  | _ => exact Prog.returns_pure.mpr rfl

/-- The steps of a run with the loop. -/
def runByLoop (history : List Event) : Prog Empty UsbDeviceManager :=
  history.foldlM (fun m event =>
    match event with
    | .set functions ret => pure (UsbService.setCurrentFunctions functions ret m).2
    | .handle status ret reported => m.handleEventByLoop status ret reported) {}

theorem returns_runByLoop (history : List Event) : (runByLoop history).Returns (run history) := by
  induction history using List.reverseRecOn with
  | nil => exact Prog.returns_pure.mpr rfl
  | append_singleton history event ih =>
    rw [runByLoop, List.foldlM_append, run_concat]
    refine Prog.returns_bind.mpr ⟨_, ih, ?_⟩
    rw [List.foldlM_cons]
    refine Prog.returns_bind.mpr ⟨_, ?_, Prog.returns_pure.mpr rfl⟩
    cases event with
    | set functions ret => exact Prog.returns_pure.mpr rfl
    | handle status ret reported => exact returns_handleEventByLoop status ret reported _

/-- The statuses that `HandleEvent` takes for valid. -/
def Valid (status : DeviceAct) : Prop := status = .ACT_UPDEVICE ∨ status = .ACT_DOWNDEVICE

instance (status : DeviceAct) : Decidable (Valid status) := inferInstanceAs (Decidable (_ ∨ _))

/-- The latest valid status. -/
def latestStatus (history : List Event) : Option DeviceAct :=
  lastSome (fun event =>
    match event with
    | .set _ _ => none
    | .handle status _ _ => if Valid status then some status else none) history

/-- The mask after `HandleEvent`. -/
def currentMask (m : UsbDeviceManager) (status : DeviceAct) (ret : Uec) (reported : Int32) :
    Int32 :=
  if status = .ACT_UPDEVICE ∧ ret = .UEC_OK then reported else m.currentFunctions

/-- A broadcast that tells this state: `connected` after the latest status, each function
whose bit is set and no other, and `none` only where no bit of a function is. -/
structure Tells (latest : Option DeviceAct) (mask : Int32) (event : UsbStateEvent) : Prop where
  connected : event.connected = true ↔ latest = some .ACT_UPDEVICE
  carries : ∀ entry ∈ FUNCTION_MAPPING_N2C, entry.2 ≠ 0 →
    (entry.1 ∈ event.functions ↔ mask.toUInt32 &&& entry.2 ≠ 0)
  none : (∃ entry ∈ FUNCTION_MAPPING_N2C, mask.toUInt32 &&& entry.2 ≠ 0) →
    FUNCTION_NAME_NONE ∉ event.functions

/-- Every `HandleEvent` of the run returns.  For a valid status it publishes one event,
which tells the state, and for any other status none. -/
def BroadcastsRight (history : List Event) : Prop :=
  ∀ before status ret reported after, history = before ++ .handle status ret reported :: after →
    ∃ m m', (runByLoop before).Returns m ∧ (m.handleEventByLoop status ret reported).Returns m' ∧
      if Valid status then
        ∃ event, m'.broadcasts = m.broadcasts ++ [event] ∧
          Tells (latestStatus (before ++ [.handle status ret reported])) m'.currentFunctions event
      else m'.broadcasts = m.broadcasts

/-- The mask has settable bits only, or no bit of a function. -/
def Printable (mask : Int32) : Prop :=
  mask.toUInt32 ≤ FUNCTION_SETTABLE ∨
    ∀ entry ∈ FUNCTION_MAPPING_N2C, mask.toUInt32 &&& entry.2 = 0

section Tells

variable {latest : Option DeviceAct} {mask : Int32} {event : UsbStateEvent}

theorem mem_functionNames {name : String} :
    name ∈ functionNames mask ↔
      ∃ i < 32, hasBit mask.toUInt32 i = true ∧ name = convertToString (bitAt i) := by
  rw [← namesBelow_eq_functionNames, namesBelow, List.mem_map]
  simp only [List.mem_filter, List.mem_range, and_assoc, eq_comm]

/-- What the single bits are printed as. -/
theorem convertToString_bitAt :
    ∀ i < 32, convertToString (bitAt i) =
      if i = 0 then FUNCTION_NAME_ACM else if i = 1 then FUNCTION_NAME_ECM
      else if i = 2 then FUNCTION_NAME_HDC else FUNCTION_NAME_NONE := by decide

/-- A parameter stands for one of three bits, or is `none` for all the others. -/
theorem mem_functionNames_cases {name : String} :
    name ∈ functionNames mask ↔
      hasBit mask.toUInt32 0 = true ∧ name = FUNCTION_NAME_ACM ∨
        hasBit mask.toUInt32 1 = true ∧ name = FUNCTION_NAME_ECM ∨
        hasBit mask.toUInt32 2 = true ∧ name = FUNCTION_NAME_HDC ∨
        (∃ i, 3 ≤ i ∧ hasBit mask.toUInt32 i = true) ∧ name = FUNCTION_NAME_NONE := by
  rw [mem_functionNames]
  constructor
  · intro there
    obtain ⟨i, below, set, rfl⟩ := there
    rw [convertToString_bitAt i below]
    by_cases acm : i = 0
    · subst acm
      exact .inl ⟨set, rfl⟩
    by_cases ecm : i = 1
    · subst ecm
      exact .inr (.inl ⟨set, rfl⟩)
    by_cases hdc : i = 2
    · subst hdc
      exact .inr (.inr (.inl ⟨set, rfl⟩))
    · refine .inr (.inr (.inr ⟨⟨i, by omega, set⟩, ?_⟩))
      rw [if_neg acm, if_neg ecm, if_neg hdc]
  · intro cases
    rcases cases with ⟨set, rfl⟩ | ⟨set, rfl⟩ | ⟨set, rfl⟩ | ⟨⟨i, other, set⟩, rfl⟩
    · exact ⟨0, by decide, set, by decide⟩
    · exact ⟨1, by decide, set, by decide⟩
    · exact ⟨2, by decide, set, by decide⟩
    · have below : i < 32 := by
        by_contra large
        rw [hasBit_of_le (Nat.le_of_not_lt large)] at set
        cases set
      refine ⟨i, below, set, ?_⟩
      rw [convertToString_bitAt i below, if_neg (by omega), if_neg (by omega), if_neg (by omega)]

theorem le_settable_iff {funcs : UInt32} :
    funcs ≤ FUNCTION_SETTABLE ↔ ∀ i, 3 ≤ i → hasBit funcs i = false := by
  have settable : FUNCTION_SETTABLE.toNat = 7 := rfl
  rw [UInt32.le_iff_toNat_le, settable]
  constructor
  · intro small i high
    refine Nat.testBit_lt_two_pow (Nat.lt_of_lt_of_le (Nat.lt_succ_of_le small) ?_)
    exact Nat.pow_le_pow_right Nat.two_pos high
  · exact fun clear => Nat.le_of_lt_succ (Nat.lt_pow_two_of_testBit _ clear)

/-- The functions with a bit of their own, and its number. -/
theorem mem_mapping_iff {entry : String × UInt32} :
    entry ∈ FUNCTION_MAPPING_N2C ↔ entry = (FUNCTION_NAME_NONE, 0) ∨
      entry = (FUNCTION_NAME_ACM, bitAt 0) ∨ entry = (FUNCTION_NAME_ECM, bitAt 1) ∨
      entry = (FUNCTION_NAME_HDC, bitAt 2) ∨ entry = (FUNCTION_NAME_MTP, bitAt 3) ∨
      entry = (FUNCTION_NAME_PTP, bitAt 4) := by
  change entry ∈ [(FUNCTION_NAME_NONE, 0), (FUNCTION_NAME_ACM, bitAt 0),
    (FUNCTION_NAME_ECM, bitAt 1), (FUNCTION_NAME_HDC, bitAt 2), (FUNCTION_NAME_MTP, bitAt 3),
    (FUNCTION_NAME_PTP, bitAt 4)] ↔ _
  simp only [List.mem_cons, List.not_mem_nil, or_false]

theorem and_bitAt_ne_zero {funcs : UInt32} {i : Nat} (small : i < 32) :
    funcs &&& bitAt i ≠ 0 ↔ hasBit funcs i = true :=
  and_ne_zero_iff small fun _ below => hasBit_bitAt small below

/-- A mask meets an entry in one of five bits. -/
theorem exists_entry_iff {funcs : UInt32} :
    (∃ entry ∈ FUNCTION_MAPPING_N2C, funcs &&& entry.2 ≠ 0) ↔
      ∃ i < 5, hasBit funcs i = true := by
  constructor
  · intro meets
    obtain ⟨entry, known, met⟩ := meets
    rcases mem_mapping_iff.mp known with rfl | rfl | rfl | rfl | rfl | rfl
    · exact (met UInt32.and_zero).elim
    · exact ⟨0, by decide, (and_bitAt_ne_zero (by decide)).mp met⟩
    · exact ⟨1, by decide, (and_bitAt_ne_zero (by decide)).mp met⟩
    · exact ⟨2, by decide, (and_bitAt_ne_zero (by decide)).mp met⟩
    · exact ⟨3, by decide, (and_bitAt_ne_zero (by decide)).mp met⟩
    · exact ⟨4, by decide, (and_bitAt_ne_zero (by decide)).mp met⟩
  · intro set
    obtain ⟨i, small, set⟩ := set
    have met := (and_bitAt_ne_zero (by omega)).mpr set
    have known : ∃ name, (name, bitAt i) ∈ FUNCTION_MAPPING_N2C := by
      have all : ∀ i < 5, ∃ entry ∈ FUNCTION_MAPPING_N2C, entry.2 = bitAt i := by decide
      obtain ⟨entry, known, same⟩ := all i small
      exact ⟨entry.1, same ▸ known⟩
    obtain ⟨name, known⟩ := known
    exact ⟨_, known, met⟩

theorem printable_iff :
    Printable mask ↔ (∀ i, 3 ≤ i → hasBit mask.toUInt32 i = false) ∨
      ∀ i < 5, hasBit mask.toUInt32 i = false := by
  have clear := not_congr (@exists_entry_iff mask.toUInt32)
  push Not at clear
  simp only [Bool.not_eq_true] at clear
  rw [Printable, le_settable_iff, clear]

/-- The event with the parameters of the bits tells the state exactly if the mask is
printable. -/
theorem tells_iff {connected : Bool}
    (state : connected = true ↔ latest = some .ACT_UPDEVICE) :
    Tells latest mask ⟨connected, functionNames mask⟩ ↔ Printable mask := by
  rw [printable_iff]
  constructor
  · intro tells
    by_cases some : ∃ i < 5, hasBit mask.toUInt32 i = true
    · left
      have none := tells.none (exists_entry_iff.mpr some)
      intro i high
      by_contra set
      refine none (mem_functionNames_cases.mpr (.inr (.inr (.inr ⟨⟨i, high, ?_⟩, rfl⟩))))
      exact Bool.not_eq_false _ ▸ set
    · right
      intro i small
      by_contra set
      exact some ⟨i, small, by simpa using set⟩
  · intro printable
    refine ⟨state, ?_, ?_⟩
    · intro entry known nonzero
      have unset : ∀ i, 3 ≤ i → i < 5 → hasBit mask.toUInt32 i = false := by
        intro i high small
        rcases printable with clear | clear
        · exact clear i high
        · exact clear i small
      dsimp only
      rw [mem_functionNames_cases]
      rcases mem_mapping_iff.mp known with rfl | rfl | rfl | rfl | rfl | rfl
      · exact (nonzero rfl).elim
      · rw [and_bitAt_ne_zero (by decide)]
        simp [FUNCTION_NAME_ACM, FUNCTION_NAME_ECM, FUNCTION_NAME_HDC, FUNCTION_NAME_NONE]
      · rw [and_bitAt_ne_zero (by decide)]
        simp [FUNCTION_NAME_ACM, FUNCTION_NAME_ECM, FUNCTION_NAME_HDC, FUNCTION_NAME_NONE]
      · rw [and_bitAt_ne_zero (by decide)]
        simp [FUNCTION_NAME_ACM, FUNCTION_NAME_ECM, FUNCTION_NAME_HDC, FUNCTION_NAME_NONE]
      · rw [and_bitAt_ne_zero (by decide), unset 3 (by decide) (by decide)]
        simp [FUNCTION_NAME_ACM, FUNCTION_NAME_ECM, FUNCTION_NAME_HDC, FUNCTION_NAME_NONE,
          FUNCTION_NAME_MTP]
      · rw [and_bitAt_ne_zero (by decide), unset 4 (by decide) (by decide)]
        simp [FUNCTION_NAME_ACM, FUNCTION_NAME_ECM, FUNCTION_NAME_HDC, FUNCTION_NAME_NONE,
          FUNCTION_NAME_PTP]
    · intro meets
      obtain ⟨i, small, set⟩ := exists_entry_iff.mp meets
      rcases printable with clear | clear
      · intro there
        rcases mem_functionNames_cases.mp there with ⟨_, same⟩ | ⟨_, same⟩ | ⟨_, same⟩ |
          ⟨⟨k, high, set'⟩, _⟩
        · exact absurd same (by decide)
        · exact absurd same (by decide)
        · exact absurd same (by decide)
        · rw [clear k high] at set'
          cases set'
      · rw [clear i small] at set
        cases set

end Tells

/-- What `HandleEvent` publishes for a valid status, and the mask it leaves. -/
theorem handleEvent_valid {status : DeviceAct} (valid : Valid status) (ret : Uec)
    (reported : Int32) (m : UsbDeviceManager) :
    (m.handleEvent status ret reported).broadcasts = m.broadcasts ++
        [⟨decide (status = .ACT_UPDEVICE), functionNames (currentMask m status ret reported)⟩] ∧
      (m.handleEvent status ret reported).currentFunctions =
        currentMask m status ret reported := by
  rcases valid with rfl | rfl
  · by_cases ok : ret = .UEC_OK
    · subst ok
      exact ⟨rfl, rfl⟩
    · simp [handleEvent, currentMask, stateEvent, ok]
  · exact ⟨rfl, rfl⟩

theorem handleEvent_invalid {status : DeviceAct} (invalid : ¬ Valid status) (ret : Uec)
    (reported : Int32) (m : UsbDeviceManager) : m.handleEvent status ret reported = m := by
  cases status with
  | ACT_UPDEVICE => exact (invalid (.inl rfl)).elim
  | ACT_DOWNDEVICE => exact (invalid (.inr rfl)).elim
  | _ => rfl

theorem latestStatus_concat {status : DeviceAct} (valid : Valid status) (before : List Event)
    (ret : Uec) (reported : Int32) :
    latestStatus (before ++ [.handle status ret reported]) = some status := by
  unfold latestStatus
  rw [lastSome_concat]
  dsimp only
  rw [if_pos valid]
  rfl

/-- Of one `HandleEvent` after a run. -/
theorem handled_iff (before : List Event) (status : DeviceAct) (ret : Uec) (reported : Int32) :
    (∃ m m', (runByLoop before).Returns m ∧ (m.handleEventByLoop status ret reported).Returns m' ∧
      if Valid status then
        ∃ event, m'.broadcasts = m.broadcasts ++ [event] ∧
          Tells (latestStatus (before ++ [.handle status ret reported])) m'.currentFunctions event
      else m'.broadcasts = m.broadcasts) ↔
      (Valid status → Printable (currentMask (run before) status ret reported)) := by
  have ran := returns_runByLoop before
  have handled := returns_handleEventByLoop status ret reported (run before)
  by_cases valid : Valid status
  · obtain ⟨published, mask⟩ := handleEvent_valid valid ret reported (run before)
    have latest := latestStatus_concat valid before ret reported
    have state : decide (status = .ACT_UPDEVICE) = true ↔ some status = some .ACT_UPDEVICE := by
      simp
    simp only [if_pos valid, latest]
    constructor
    · intro right _
      obtain ⟨m, m', ran', handled', event, published', tells⟩ := right
      obtain rfl := ran'.unique ran
      obtain rfl := handled'.unique handled
      obtain rfl := List.singleton_inj.mp (List.append_cancel_left (published.symm.trans published'))
      rw [mask] at tells
      exact (tells_iff state).mp tells
    · intro printable
      refine ⟨_, _, ran, handled, _, published, ?_⟩
      rw [mask]
      exact (tells_iff state).mpr (printable valid)
  · simp only [if_neg valid]
    refine iff_of_true ⟨_, _, ran, handled, ?_⟩ fun there => (valid there).elim
    rw [handleEvent_invalid valid]

/-- In a run every broadcast is right exactly if at each of them the current mask is
printable. -/
theorem broadcastsRight_iff (history : List Event) :
    BroadcastsRight history ↔
      ∀ before status ret reported after,
        history = before ++ .handle status ret reported :: after → Valid status →
        Printable (currentMask (run before) status ret reported) := by
  unfold BroadcastsRight
  simp only [handled_iff]

/-- The function `mtp` is told as `none`. -/
theorem not_broadcastsRight_mtp : ¬ ∀ history, BroadcastsRight history := by
  intro all
  have right := all [.handle .ACT_UPDEVICE .UEC_OK 8] [] .ACT_UPDEVICE .UEC_OK 8 [] rfl
  have printable := (handled_iff [] .ACT_UPDEVICE .UEC_OK 8).mp right (.inl rfl)
  rcases printable_iff.mp printable with clear | clear
  · exact absurd (clear 3 (by decide)) (by decide)
  · exact absurd (clear 3 (by decide)) (by decide)

end UsbDeviceManager

end UsbManager

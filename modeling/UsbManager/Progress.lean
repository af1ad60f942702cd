import UsbManager.Config

/-!
# Termination of the parser

When `ParseConfigDescriptor` and `GetConfigDescriptor` return by consuming bytes: every
iteration of a skip loop leaves it or moves its cursor forward, and so does every pass
of the interface loop.  Behind the buffer there may be anything, so that a parse that
reads there cannot be relied on to end.
-/

namespace UsbManager

open UsbDescriptorParser Search

/-! ## Cursors -/

/-- A 32-bit cursor moves forward unless it stays or wraps. -/
theorem not_lt_add {s k : UInt32} : ¬ s < s + k ↔ k = 0 ∨ 2 ^ 32 ≤ s.toNat + k.toNat := by
  have cursor := s.toNat_lt
  have consumed := k.toNat_lt
  rw [UInt32.lt_iff_toNat_lt, UInt32.toNat_add, ← UInt32.toNat_inj, UInt32.toNat_zero]
  omega

theorem room_pos {s length : UInt32} (inside : s < length) : 0 < length - s := by
  have less := UInt32.lt_iff_toNat_lt.mp inside
  rw [UInt32.lt_iff_toNat_lt, UInt32.toNat_sub_of_le _ _ (UInt32.le_of_lt inside),
    UInt32.toNat_zero]
  omega

theorem ne_zero_of_pos {a : UInt32} (positive : 0 < a) : a ≠ 0 :=
  fun zero => absurd (zero ▸ positive) (by decide)

/-! ## Searches that stand still -/

namespace Search

variable {δ : Type} (kind : Kind δ) (start : Ptr) (room : UInt32)

/-- The search steps over a descriptor that does not bring it forward: its
`bLength` is zero, or the 32-bit cursor wraps. -/
def StandsStill : Prop :=
  ∃ c h, Visits kind start room c ∧ c < room ∧ sizeofUsbdDescriptorHeader < room ∧
    headerAt start c = some h ∧ h.bLength.toUInt32 ≤ room ∧ h.bDescriptorType ≠ kind.goal ∧
    (h.bLength = 0 ∨ 2 ^ 32 ≤ c.toNat + h.bLength.toNat)

/-- The search gives up where it begins: two bytes or fewer are left, or the
first descriptor is longer than what is left, or it is of the type looked for
and its `bLength` is wrong. -/
def Blocked : Prop :=
  room ≤ sizeofUsbdDescriptorHeader ∨
    ∃ h, headerAt start 0 = some h ∧
      (room < h.bLength.toUInt32 ∨
        h.bDescriptorType = kind.goal ∧
          ∃ d, kind.layout start = some d ∧ (kind.bLength d).toUInt32 ≠ kind.size)

variable {kind start room}

/-- Stepping over a descriptor moves the cursor forward unless its length is
zero or the sum wraps. -/
theorem not_lt_add_bLength {c : UInt32} {b : UInt8} :
    ¬ c < c + b.toUInt32 ↔ b = 0 ∨ 2 ^ 32 ≤ c.toNat + b.toNat := by
  have zero : b.toUInt32 = 0 ↔ b = 0 := by
    rw [← UInt32.toNat_inj, ← UInt8.toNat_inj, UInt8.toNat_toUInt32]
    rfl
  rw [not_lt_add, zero, UInt8.toNat_toUInt32]

theorem standsStill_iff :
    StandsStill kind start room ↔
      ∃ c c', Visits kind start room c ∧ Steps kind start room c c' ∧ ¬ c < c' := by
  constructor
  · intro h
    obtain ⟨c, h, visits, inside, long, header, fits, other, still⟩ := h
    exact ⟨c, _, visits, ⟨inside, long, h, header, fits, other, rfl⟩, not_lt_add_bLength.mpr still⟩
  · intro h
    obtain ⟨c, _, visits, ⟨inside, long, h, header, fits, other, rfl⟩, still⟩ := h
    exact ⟨c, h, visits, inside, long, header, fits, other, not_lt_add_bLength.mp still⟩

theorem blocked_of_ends {c : UInt32} (ends : Ends kind start room c none) (left : 0 < room)
    (zero : c = 0) : Blocked kind start room := by
  cases ends with
  | empty empty => exact (ne_zero_of_pos left empty).elim
  | refused _ _ refuses =>
    subst zero
    rcases refuses.2 with short | ⟨_, h, header, long⟩
    · exact .inl short
    · exact .inr ⟨h, header, .inl long⟩
  | malformed _ _ arrives layout wrong =>
    subst zero
    rw [UInt32.toNat_zero, Ptr.add_zero] at layout
    rcases arrives with past | ⟨_, _, h, header, _, same⟩
    · exact (UInt32.not_le.mpr left past).elim
    · exact .inr ⟨h, header, .inr ⟨same, _, layout, wrong⟩⟩

theorem ends_of_blocked (blocked : Blocked kind start room) (left : 0 < room) :
    Ends kind start room 0 none := by
  have nonzero := ne_zero_of_pos left
  by_cases short : room ≤ sizeofUsbdDescriptorHeader
  · exact .refused nonzero .refl ⟨left, .inl short⟩
  have long := UInt32.not_le.mp short
  rcases blocked with bad | ⟨h, header, longer | ⟨same, d, layout, wrong⟩⟩
  · exact (short bad).elim
  · exact .refused nonzero .refl ⟨left, .inr ⟨long, h, header, longer⟩⟩
  · by_cases fits : h.bLength.toUInt32 ≤ room
    · refine .malformed nonzero .refl (.inr ⟨left, long, h, header, fits, same⟩) ?_ wrong
      rw [UInt32.toNat_zero, Ptr.add_zero]
      exact layout
    · exact .refused nonzero .refl ⟨left, .inr ⟨long, h, header, UInt32.not_le.mp fits⟩⟩

end Search

/-! ## Walks that stall -/

namespace Walk

section

variable (p : Ptr) (length : UInt32) (count : Nat)

/-- The pass of the interface loop that begins at `s` ends `k` bytes later
without moving the 32-bit cursor forward. -/
def StaysBehind (s k : UInt32) : Prop := k = 0 ∨ 2 ^ 32 ≤ s.toNat + k.toNat

/-- The walk does not get forward here: a search stands still, or a pass of the
interface loop consumes nothing. -/
def Stalls : Walk → Prop
  | .interfaces listed s =>
    Begins length count (.interfaces listed s) ∧
      (StandsStill interfaceKind (p.add s.toNat) (length - s) ∨
        Blocked interfaceKind (p.add s.toNat) (length - s) ∨
        ∃ c, InterfaceSearch p length s c none ∧ 2 ^ 32 ≤ s.toNat + c.toNat)
  | .endpoints listed current k =>
    Begins length count (.endpoints listed current k) ∧
        StandsStill endpointKind (p.add (current.start.toNat + k.toNat))
          (length - current.start - k) ∨
      ¬ Begins length count (.endpoints listed current k) ∧ StaysBehind current.start k

end

/-- No position the walk reaches stalls. -/
def NeverStalls (p : Ptr) (length : UInt32) : Prop :=
  ∀ cfg, Announces p length cfg →
    ∀ walk, Reached false p length cfg.bNumInterfaces.toNat walk →
      ¬ Stalls p length cfg.bNumInterfaces.toNat walk

end Walk

/-! ## Progress of the code -/

namespace UsbDescriptorParser

/-- Every iteration of the skip loop leaves it or moves its cursor forward. -/
def SkipProgresses (goal : UInt8) (start : Ptr) (room : UInt32) : Prop :=
  ∀ c c', Prog.Passes (skipPass goal start room) 0 c →
    (skipPass goal start room c).Returns (.next c') → c < c'

/-- The interface loop of a parse comes to a pass with the variables `st`, and
goes on. -/
def InterfaceLoopAt (buffer : Ptr) (length : UInt32) (cfg : UsbdConfigDescriptor)
    (st : InterfaceLoop) : Prop :=
  Announces buffer length cfg ∧
    Prog.Passes (interfacePass false buffer length cfg)
      { i := 0, cursor := sizeofUsbdConfigDescriptor, interfaces := [] } st ∧
    st.i < cfg.bNumInterfaces.toNat ∧ st.cursor < length

/-- In a pass of the interface loop at `start` with `room` bytes left, the
endpoint loop for `d` comes to a pass with the variables `st`, and goes on. -/
def EndpointLoopAt (start : Ptr) (room : UInt32) (d : UsbdInterfaceDescriptor)
    (st : EndpointLoop) : Prop :=
  ∃ c, (skipTo DESCRIPTOR_TYPE_INTERFACE start room 0).Returns (.reached c) ∧
    (start.add c.toNat).interfaceDescriptor = some d ∧
    d.bLength.toUInt32 = sizeofUsbdInterfaceDescriptor ∧
    Prog.Passes (endpointPass false start room d)
      { j := 0, cursor := c + d.bLength.toUInt32, eps := [] } st ∧
    st.j < d.bNumEndpoints.toNat

/-- `ParseConfigDescriptor` returns, by consuming bytes in every iteration.  A read of a
byte that is not in the buffer is not a way to return. -/
structure Progresses (buffer : Ptr) (length : UInt32) : Prop where
  returns : ∃ result, (parseConfigDescriptor false (some buffer) length 0 {}).Returns result
  interfaceSkips : ∀ cfg st, InterfaceLoopAt buffer length cfg st →
    SkipProgresses DESCRIPTOR_TYPE_INTERFACE (buffer.add st.cursor.toNat) (length - st.cursor)
  endpointSkips : ∀ cfg st d st', InterfaceLoopAt buffer length cfg st →
    EndpointLoopAt (buffer.add st.cursor.toNat) (length - st.cursor) d st' →
    SkipProgresses DESCRIPTOR_TYPE_ENDPOINT ((buffer.add st.cursor.toNat).add st'.cursor.toNat)
      (length - st.cursor - st'.cursor)
  consumes : ∀ cfg st st', InterfaceLoopAt buffer length cfg st →
    (interfacePass false buffer length cfg st).Returns (.next st') → st.cursor < st'.cursor

section

variable {δ : Type} {kind : Kind δ} {p start : Ptr} {length room : UInt32}
  {cfg : UsbdConfigDescriptor}

theorem skipProgresses_iff (kind : Kind δ) :
    SkipProgresses kind.goal start room ↔ ¬ StandsStill kind start room := by
  unfold SkipProgresses
  simp only [standsStill_iff, passes_skipPass, returns_skipPass_next]
  constructor
  · intro forward h
    obtain ⟨c, c', visits, steps, still⟩ := h
    exact still (forward c c' visits steps)
  · intro forward c c' visits steps
    exact Decidable.not_not.mp fun still => forward ⟨c, c', visits, steps, still⟩

/-- A skip loop that moves forward ends: its cursor is a 32-bit number. -/
theorem not_diverges_skipTo (forward : ¬ StandsStill kind start room) :
    ¬ (skipTo kind.goal start room 0).Diverges := by
  refine Prog.not_diverges_loop (fun c => 2 ^ 32 - c.toNat) (fun _ _ => not_diverges_skipPass) ?_
  intro c c' passes next
  have progresses := (skipProgresses_iff kind).mpr forward c c' passes next
  have increase := UInt32.lt_iff_toNat_lt.mp progresses
  have cursor := c'.toNat_lt
  omega

/-- The interface loop is where the walk is. -/
theorem interfaceLoopAt_iff {st : InterfaceLoop} :
    InterfaceLoopAt p length cfg st ↔
      Announces p length cfg ∧ ∃ listed s, st = Walk.interfaceLoop listed s ∧
        Walk.Reached false p length cfg.bNumInterfaces.toNat (.interfaces listed s) ∧
        Walk.Begins length cfg.bNumInterfaces.toNat (.interfaces listed s) := by
  constructor
  · intro h
    obtain ⟨announces, passes, begins⟩ := h
    obtain ⟨listed, s, rfl, reached⟩ := Walk.reached_of_passes passes
    exact ⟨announces, listed, s, rfl, reached, Walk.interfaceLoop_begins.mp begins⟩
  · intro h
    obtain ⟨announces, listed, s, rfl, reached, begins⟩ := h
    exact ⟨announces, Walk.inCode_of_reached reached, Walk.interfaceLoop_begins.mpr begins⟩

/-- A search that found an INTERFACE descriptor stopped at it. -/
theorem interfaceSearch_some {s c : UInt32} {d : UsbdInterfaceDescriptor} :
    Walk.InterfaceSearch p length s c (some d) ↔
      length - s ≠ 0 ∧
        ∃ c', (skipTo DESCRIPTOR_TYPE_INTERFACE (p.add s.toNat) (length - s) 0).Returns
          (.reached c') ∧
        ((p.add s.toNat).add c'.toNat).interfaceDescriptor = some d ∧
        d.bLength.toUInt32 = sizeofUsbdInterfaceDescriptor ∧ c = c' + d.bLength.toUInt32 := by
  constructor
  · intro ends
    cases ends with
    | @found c' _ nonempty visits arrives layout right =>
      have stops : (skipTo interfaceKind.goal (p.add s.toNat) (length - s) 0).Returns
          (.reached c') :=
        returns_skipTo_reached.mpr ⟨visits, arrives⟩
      exact ⟨nonempty, c', stops, layout, right, rfl⟩
  · intro h
    obtain ⟨nonempty, c', stops, layout, right, rfl⟩ := h
    change (skipTo interfaceKind.goal (p.add s.toNat) (length - s) 0).Returns (.reached c') at stops
    obtain ⟨visits, arrives⟩ := returns_skipTo_reached.mp stops
    exact .found nonempty visits arrives layout right

/-- The endpoint loop is where the walk is. -/
theorem endpointLoopAt_iff {listed : List InterfaceSource} {s : UInt32} {st : EndpointLoop}
    {d : UsbdInterfaceDescriptor}
    (reached : Walk.Reached false p length cfg.bNumInterfaces.toNat (.interfaces listed s))
    (begins : Walk.Begins length cfg.bNumInterfaces.toNat (.interfaces listed s)) :
    EndpointLoopAt (p.add s.toNat) (length - s) d st →
      ∃ current k, st = Walk.endpointLoop current k ∧ current.start = s ∧
        Walk.Reached false p length cfg.bNumInterfaces.toNat (.endpoints listed current k) ∧
        Walk.Begins length cfg.bNumInterfaces.toNat (.endpoints listed current k) := by
  intro h
  obtain ⟨c, stops, layout, right, passes, more⟩ := h
  have left := ne_zero_of_pos (room_pos begins.2)
  have search := interfaceSearch_some.mpr ⟨left, c, stops, layout, right, rfl⟩
  have opened := reached.tail (.opened begins search)
  obtain ⟨sources, k, rfl, reached'⟩ := Walk.reached_of_passes_endpointPass opened passes
  exact ⟨_, k, rfl, rfl, reached', (Walk.endpointLoop_begins _ _).mp more⟩

theorem endpointLoopAt_of_reached {listed : List InterfaceSource} {current : InterfaceSource}
    {k : UInt32}
    (reached : Walk.Reached false p length cfg.bNumInterfaces.toNat (.endpoints listed current k))
    (begins : Walk.Begins length cfg.bNumInterfaces.toNat (.endpoints listed current k)) :
    EndpointLoopAt (p.add current.start.toNat) (length - current.start) current.descriptor
      (Walk.endpointLoop current k) := by
  obtain ⟨_, _, opened, passes⟩ := Walk.inCode_of_reached reached
  obtain ⟨_, c, stops, layout, right, consumed⟩ := interfaceSearch_some.mp opened
  rw [consumed] at passes
  exact ⟨c, stops, layout, right, passes, (Walk.endpointLoop_begins _ _).mpr begins⟩

/-! ### Both ways -/

/-- Progress in every iteration means that the walk stalls nowhere. -/
theorem neverStalls_of_progresses (progresses : Progresses p length) :
    Walk.NeverStalls p length := by
  intro cfg announces walk reached stalls
  have there := Walk.inCode_of_reached reached
  cases walk with
  | interfaces listed s =>
    obtain ⟨begins, why⟩ := stalls
    have here : InterfaceLoopAt p length cfg (Walk.interfaceLoop listed s) :=
      interfaceLoopAt_iff.mpr ⟨announces, listed, s, rfl, reached, begins⟩
    have forward : ∀ c, Walk.InterfaceSearch p length s c none → s < s + c := by
      intro c search
      exact progresses.consumes cfg _ _ here
        (Walk.returns_interfacePass_next.mpr ⟨begins, .inl ⟨c, search, rfl⟩⟩)
    rcases why with still | blocked | ⟨c, search, wraps⟩
    · exact (skipProgresses_iff interfaceKind).mp (progresses.interfaceSkips cfg _ here) still
    · exact not_lt_add.mpr (.inl rfl) (forward 0 (ends_of_blocked blocked (room_pos begins.2)))
    · exact not_lt_add.mpr (.inr wraps) (forward c search)
  | endpoints listed current k =>
    have inside := there.2.1
    have here : InterfaceLoopAt p length cfg (Walk.interfaceLoop listed current.start) :=
      ⟨announces, Walk.inCode_of_endpoints there, Walk.interfaceLoop_begins.mpr inside⟩
    rcases stalls with ⟨begins, still⟩ | ⟨ended, behind⟩
    · have skips := progresses.endpointSkips cfg _ _ _ here
        (endpointLoopAt_of_reached reached begins)
      rw [Ptr.add_add] at skips
      exact (skipProgresses_iff endpointKind).mp skips still
    · have next := Walk.returns_interfacePass_of_inCode reached there ended
      exact not_lt_add.mpr behind (progresses.consumes cfg _ _ here next)

/-- An endpoint loop ends: it counts up to `bNumEndpoints`. -/
theorem not_diverges_endpointLoop {trap : Bool} {count : Nat} {listed : List InterfaceSource}
    {current : InterfaceSource} {k : UInt32}
    (reached : Walk.Reached trap p length count (.endpoints listed current k))
    (forward : ∀ sources k',
      Walk.Reached trap p length count
        (.endpoints listed { current with endpoints := sources } k') →
      Walk.Begins length count (.endpoints listed { current with endpoints := sources } k') →
        ¬ StandsStill endpointKind (p.add (current.start.toNat + k'.toNat))
          (length - current.start - k')) :
    ¬ (Prog.loop (Walk.endpointBody trap p length current)
      (Walk.endpointLoop current k)).Diverges := by
  refine Prog.not_diverges_loop
    (fun st => (current.descriptor.bNumEndpoints.toNat - st.j).toNat) ?_ ?_
  · intro last passes
    obtain ⟨sources, k', rfl, reached'⟩ := Walk.reached_of_passes_endpointPass reached passes
    by_cases begins :
      Walk.Begins length count (.endpoints listed { current with endpoints := sources } k')
    · have more := (Walk.endpointLoop_begins _ k').mpr begins
      rw [Walk.endpointBody, endpointPass_eq more, Prog.diverges_bind, Ptr.add_add]
      intro h
      rcases h with stuck | ⟨rest, returned, stuck⟩
      · exact not_diverges_sub stuck
      obtain ⟨_, rfl⟩ := returns_sub.mp returned
      refine not_diverges_search ?_ ?_ ?_ stuck
      · exact not_diverges_skipTo (forward sources k' reached' begins)
      · exact fun _ _ => Prog.not_diverges_pure
      · exact fun _ _ _ => Prog.not_diverges_pure
    · have ended := mt (Walk.endpointLoop_begins _ k').mp begins
      rw [Walk.endpointBody, endpointPass_done ended]
      exact Prog.not_diverges_pure
  · intro last next passes returned
    obtain ⟨sources, k', rfl, reached'⟩ := Walk.reached_of_passes_endpointPass reached passes
    obtain ⟨begins, _, _, _, _, rfl⟩ := (Walk.returns_endpointPass_next
      { current with endpoints := sources } k').mp returned
    have more : sources.length < current.descriptor.bNumEndpoints.toNat := begins
    simp only [Walk.endpointLoop, InterfaceSource.more, List.length_append, List.length_singleton]
    omega

/-- A pass of the interface loop ends where no search stands still. -/
theorem not_diverges_interfacePass
    (forward : ∀ walk, Walk.Reached false p length cfg.bNumInterfaces.toNat walk →
      ¬ Walk.Stalls p length cfg.bNumInterfaces.toNat walk)
    {listed : List InterfaceSource} {s : UInt32}
    (reached : Walk.Reached false p length cfg.bNumInterfaces.toNat (.interfaces listed s)) :
    ¬ (interfacePass false p length cfg (Walk.interfaceLoop listed s)).Diverges := by
  by_cases begins : Walk.Begins length cfg.bNumInterfaces.toNat (.interfaces listed s)
  · have more := Walk.interfaceLoop_begins.mpr begins
    rw [interfacePass_eq more.1 more.2]
    refine not_diverges_search ?_ ?_ ?_
    · exact not_diverges_skipTo fun still => forward _ reached ⟨begins, .inl still⟩
    · exact fun _ _ => Prog.not_diverges_pure
    · intro c d search
      rw [Prog.diverges_bind]
      intro h
      rcases h with stuck | ⟨_, _, stuck⟩
      · refine not_diverges_endpointLoop (reached.tail (.opened begins search)) ?_ stuck
        exact fun sources k' reached' begins' still => forward _ reached' (.inl ⟨begins', still⟩)
      · exact Prog.not_diverges_pure stuck
  · rw [interfacePass_done (mt Walk.interfaceLoop_begins.mp begins)]
    exact Prog.not_diverges_pure

/-- A parse that returns has stayed inside. -/
theorem staysInside_of_progresses (progresses : Progresses p length) : StaysInside p length := by
  obtain ⟨result, returned⟩ := progresses.returns
  exact staysInside_iff.mpr fun _ => returned.not_faults

/-- A walk that stalls nowhere and stays inside makes progress in every iteration. -/
theorem progresses_of_neverStalls (forward : Walk.NeverStalls p length)
    (inside : StaysInside p length) : Progresses p length := by
  have consumes : ∀ cfg st st', InterfaceLoopAt p length cfg st →
      (interfacePass false p length cfg st).Returns (.next st') → st.cursor < st'.cursor := by
    intro cfg st st' here next
    obtain ⟨announces, listed, s, rfl, reached, begins⟩ := interfaceLoopAt_iff.mp here
    obtain ⟨_, ⟨c, search, rfl⟩ | ⟨c, d, rest, search, returned, rfl⟩⟩ :=
      Walk.returns_interfacePass_next.mp next
    · have fine := forward cfg announces _ reached
      refine Decidable.not_not.mp fun behind => fine ⟨begins, .inr ?_⟩
      rcases not_lt_add.mp behind with rfl | wraps
      · exact .inl (blocked_of_ends search (room_pos begins.2) rfl)
      · exact .inr ⟨c, search, wraps⟩
    · have opened := reached.tail (.opened begins search)
      obtain ⟨sources, k, rfl, reached', ended⟩ :=
        Walk.reached_of_returns_endpointLoop opened returned
      have fine := forward cfg announces _ reached'
      have same := Walk.listInterface_of_ended reached' ended
      refine Decidable.not_not.mp fun behind => fine (.inr ⟨ended, ?_⟩)
      rw [same] at behind
      exact not_lt_add.mp behind
  have interfaceSkips : ∀ cfg st, InterfaceLoopAt p length cfg st →
      ¬ StandsStill interfaceKind (p.add st.cursor.toNat) (length - st.cursor) := by
    intro cfg st here still
    obtain ⟨announces, listed, s, rfl, reached, begins⟩ := interfaceLoopAt_iff.mp here
    exact forward cfg announces _ reached ⟨begins, .inl still⟩
  have ends : ¬ (parseConfigDescriptor false (some p) length 0 {}).Diverges := by
    rw [diverges_parseConfigDescriptor]
    intro h
    obtain ⟨cfg, announces, stuck⟩ := h
    refine Prog.not_diverges_loop (fun st => 2 ^ 32 - st.cursor.toNat) ?_ ?_ stuck
    · intro last passes
      obtain ⟨listed, s, rfl, reached⟩ := Walk.reached_of_passes passes
      exact not_diverges_interfacePass (forward cfg announces) reached
    · intro last next passes returned
      obtain ⟨listed, s, rfl, reached⟩ := Walk.reached_of_passes passes
      have begins := (Walk.returns_interfacePass_next.mp returned).1
      have here := interfaceLoopAt_iff.mpr ⟨announces, listed, s, rfl, reached, begins⟩
      have increase := UInt32.lt_iff_toNat_lt.mp (consumes cfg _ next here returned)
      have cursor := next.cursor.toNat_lt
      omega
  constructor
  · rcases Prog.returns_or_faults_or_diverges
      (parseConfigDescriptor false (some p) length 0 {}) with returned | ⟨e, fault⟩ | stuck
    · exact returned
    · exact (staysInside_iff.mp inside e fault).elim
    · exact (ends stuck).elim
  · exact fun cfg st here => (skipProgresses_iff interfaceKind).mpr (interfaceSkips cfg st here)
  · intro cfg st d st' here there
    obtain ⟨announces, listed, s, rfl, reached, begins⟩ := interfaceLoopAt_iff.mp here
    obtain ⟨current, k, rfl, rfl, reached', begins'⟩ := endpointLoopAt_iff reached begins there
    refine (skipProgresses_iff endpointKind).mpr fun still => ?_
    rw [Ptr.add_add] at still
    exact forward cfg announces _ reached' (.inl ⟨begins', still⟩)
  · exact consumes

end

/-- A configuration that announces an interface and is followed by one stray
byte: the search for the interface is refused with nothing consumed, and the
interface loop tries again for ever. -/
def strayByte : List UInt8 := [9, 2, 10, 0, 1, 1, 0, 128, 50, 0]

theorem diverges_strayByte :
    (parseConfigDescriptor false (some (Ptr.ofList strayByte)) 10 0 {}).Diverges := by
  rw [diverges_parseConfigDescriptor]
  refine ⟨⟨9, 2, 10, 1, 1, 0, 128, 50⟩, ⟨by decide, by decide, by decide⟩, ?_⟩
  apply Prog.diverges_loop_of_cycle
  exact ⟨2, by decide⟩

end UsbDescriptorParser

namespace UsbService

/-- `GetConfigDescriptor` returns, by a parse that does so by consuming bytes in every
iteration. -/
structure Progresses (usbd : Usbd) (dev : UsbDevice) (descriptor : List UInt8) (w : World) :
    Prop where
  returns : ∃ result, (getConfigDescriptor usbd false dev descriptor w).Returns result
  parse : ParsesBlock dev descriptor →
    UsbDescriptorParser.Progresses (block descriptor) (blockLength descriptor)

variable {usbd : Usbd} {dev : UsbDevice} {descriptor : List UInt8} {w : World}

/-- It returns if the parse of its block, where it has one, does. -/
theorem returns_getConfigDescriptor_of_parse
    (parse : ParsesBlock dev descriptor →
      ∃ result, (parseConfigDescriptor false (some (block descriptor)) (blockLength descriptor) 0
        {}).Returns result) :
    ∃ result, (getConfigDescriptor usbd false dev descriptor w).Returns result := by
  by_cases one : ParsesBlock dev descriptor
  · obtain ⟨⟨ret, cursor, config⟩, parsed⟩ := parse one
    by_cases rejected : ret ≠ .UEC_OK
    · exact ⟨_, getConfigDescriptor_of_rejected one rejected parsed⟩
    · obtain rfl := not_not.mp rejected
      exact ⟨_, getConfigDescriptor_of_parsed one parsed⟩
  · exact ⟨_, ((getConfigDescriptor_none one).1 _).mpr (Prog.returns_pure.mpr rfl)⟩

end UsbService

/-- Returning by consuming bytes is the same as stalling nowhere and staying inside. -/
theorem progresses_iff (buffer : Ptr) (length : UInt32) :
    Progresses buffer length ↔ Walk.NeverStalls buffer length ∧ StaysInside buffer length :=
  ⟨fun progresses => ⟨neverStalls_of_progresses progresses, staysInside_of_progresses progresses⟩,
    fun both => progresses_of_neverStalls both.1 both.2⟩

/-- The parser returns by consuming bytes exactly on the blocks whose walk stalls nowhere
and needs no byte outside. -/
theorem progresses_iff_neverStalls (buffer : Ptr) (length : UInt32) (usbd : Usbd)
    (dev : UsbDevice) (descriptor : List UInt8) (w : World) :
    (Progresses buffer length ↔
        Walk.NeverStalls buffer length ∧ StaysInside buffer length) ∧
      (UsbService.Progresses usbd dev descriptor w ↔
        (UsbService.ParsesBlock dev descriptor →
          Walk.NeverStalls (UsbService.block descriptor) (UsbService.blockLength descriptor) ∧
            StaysInside (UsbService.block descriptor) (UsbService.blockLength descriptor))) := by
  refine ⟨progresses_iff buffer length, ?_⟩
  constructor
  · exact fun progresses one => (progresses_iff _ _).mp (progresses.parse one)
  · intro forward
    have progresses := fun one => (progresses_iff _ _).mpr (forward one)
    exact ⟨UsbService.returns_getConfigDescriptor_of_parse fun one => (progresses one).returns,
      progresses⟩

/-- The parser does not terminate on every buffer. -/
theorem not_progresses_strayByte : ¬ ∀ buffer length, Progresses buffer length := by
  intro all
  obtain ⟨result, returned⟩ := (all (Ptr.ofList strayByte) 10).returns
  exact returned.not_diverges diverges_strayByte

end UsbManager

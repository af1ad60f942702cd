import UsbManager.Search

/-!
# The walk over one configuration block

`ParseConfigDescriptor` is a sequence of searches: one for an INTERFACE
descriptor, then one for each endpoint that descriptor announces, then again
one for an INTERFACE descriptor, until as many interfaces with endpoints as the
configuration announces are listed or the end of the block is reached.

`Walk.Step` is this sequence as a transition system over the bytes of the
block.  Its positions also record where each listed interface and endpoint came
from, so that the result of the parse is a function of the last one.  The
theorems at the end prove that the two nested loops of the code go through
exactly the positions the walk reaches (`reached_of_passes`, `inCode_of_reached`).
-/

namespace UsbManager

open UsbDescriptorParser Search

/-- The search that filled one endpoint of the result.  `start` bytes of the
pass of the interface loop were consumed when it began. -/
structure EndpointSource where
  start : UInt32
  consumed : UInt32
  found : Option UsbdEndpointDescriptor
  deriving DecidableEq, Repr

/-- The INTERFACE descriptor of one pass of the interface loop, which began at
offset `start` of the block and ended the descriptor `consumed` bytes later,
and the endpoint searches made for it. -/
structure InterfaceSource where
  start : UInt32
  consumed : UInt32
  descriptor : UsbdInterfaceDescriptor
  endpoints : List EndpointSource := []
  deriving DecidableEq, Repr

/-- The endpoint the code stores: default values where nothing was found. -/
def EndpointSource.endpoint (d : UsbdInterfaceDescriptor) (source : EndpointSource) : USBEndpoint :=
  { source.found.elim {} (setEndpoint {}) with interfaceId := d.bInterfaceNumber }

/-- The interface the code stores. -/
def InterfaceSource.interface (source : InterfaceSource) : UsbInterface :=
  { setInterface {} source.descriptor with
    endpoints := source.endpoints.map (EndpointSource.endpoint source.descriptor) }

/-- One more endpoint search. -/
def InterfaceSource.more (current : InterfaceSource) (source : EndpointSource) : InterfaceSource :=
  { current with endpoints := current.endpoints ++ [source] }

/-- An interface without endpoints is not listed. -/
def InterfaceSource.list (current : InterfaceSource) (listed : List InterfaceSource) :
    List InterfaceSource :=
  if current.endpoints = [] then listed else listed ++ [current]

/-- The descriptor announces more endpoints than were searched for. -/
def InterfaceSource.Unfinished (current : InterfaceSource) : Prop :=
  current.endpoints.length < current.descriptor.bNumEndpoints.toNat

/-- A position of the walk: before a pass of the interface loop, at offset `s`
of the block, or before a pass of the endpoint loop, with `k` bytes of the pass
for `current` consumed. -/
inductive Walk where
  | interfaces (listed : List InterfaceSource) (s : UInt32)
  | endpoints (listed : List InterfaceSource) (current : InterfaceSource) (k : UInt32)
  deriving DecidableEq, Repr

namespace Walk

section

variable (trap : Bool) (p : Ptr) (length : UInt32) (count : Nat)

/-- How the search for an INTERFACE descriptor from offset `s` ends. -/
def InterfaceSearch (s c : UInt32) (found : Option UsbdInterfaceDescriptor) : Prop :=
  Ends interfaceKind (p.add s.toNat) (length - s) c found

/-- How the search for an ENDPOINT descriptor from offset `s + k` ends. -/
def EndpointSearch (s k e : UInt32) (found : Option UsbdEndpointDescriptor) : Prop :=
  Ends endpointKind (p.add (s.toNat + k.toNat)) (length - s - k) e found

/-- An endpoint search begins past the end of the block, so that the
subtraction that computes its room wraps. -/
def Wraps (s k : UInt32) : Prop := length - s < k

/-- The walk goes on with another search. -/
def Begins : Walk → Prop
  | .interfaces listed s => listed.length < count ∧ s < length
  | .endpoints _ current _ => current.Unfinished

/-- One step of the walk over the block at `p` of `length` bytes whose
configuration descriptor announces `count` interfaces.  With `trap`, the walk
stops where a subtraction would wrap. -/
inductive Step : Walk → Walk → Prop
  | skip {listed : List InterfaceSource} {s c : UInt32} :
    Begins length count (.interfaces listed s) → InterfaceSearch p length s c none →
    Step (.interfaces listed s) (.interfaces listed (s + c))
  | opened {listed : List InterfaceSource} {s c : UInt32} {d : UsbdInterfaceDescriptor} :
    Begins length count (.interfaces listed s) → InterfaceSearch p length s c (some d) →
    Step (.interfaces listed s) (.endpoints listed { start := s, consumed := c, descriptor := d } c)
  | endpoint {listed : List InterfaceSource} {current : InterfaceSource} {k e : UInt32}
    {found : Option UsbdEndpointDescriptor} :
    Begins length count (.endpoints listed current k) →
    ¬ (trap = true ∧ Wraps length current.start k) →
    EndpointSearch p length current.start k e found →
    Step (.endpoints listed current k)
      (.endpoints listed (current.more { start := k, consumed := e, found }) (k + e))
  | closed {listed : List InterfaceSource} {current : InterfaceSource} {k : UInt32} :
    ¬ Begins length count (.endpoints listed current k) →
    Step (.endpoints listed current k) (.interfaces (current.list listed) (current.start + k))

/-- The walk gets to a position. -/
def Reached : Walk → Prop :=
  Relation.ReflTransGen (Step trap p length count) (.interfaces [] sizeofUsbdConfigDescriptor)

/-- The search that begins here needs a byte that cannot be read. -/
def Overruns : Walk → Prop
  | .interfaces _ s => Search.Overruns interfaceKind (p.add s.toNat) (length - s)
  | .endpoints _ current k =>
    Search.Overruns endpointKind (p.add (current.start.toNat + k.toNat))
      (length - current.start - k)

end

section

variable {trap : Bool} {p : Ptr} {length : UInt32} {count : Nat}

/-- No interface has more endpoint searches than its descriptor announces. -/
def Counted : Walk → Prop
  | .interfaces _ _ => True
  | .endpoints _ current _ => current.endpoints.length ≤ current.descriptor.bNumEndpoints.toNat

theorem Step.counted {w w' : Walk} (step : Step trap p length count w w') (before : w.Counted) :
    w'.Counted := by
  cases step with
  | skip => trivial
  | opened => exact Nat.zero_le _
  | endpoint begins =>
    have less := begins
    simp only [Begins, InterfaceSource.Unfinished] at less
    simp only [Counted, InterfaceSource.more, List.length_append, List.length_singleton]
    omega
  | closed => trivial

theorem Reached.counted {w : Walk} (reached : Reached trap p length count w) : w.Counted := by
  induction reached with
  | refl => trivial
  | tail _ step ih => exact step.counted ih

/-- The walk has no choice. -/
theorem step_rightUnique : Relator.RightUnique (Step trap p length count) := by
  intro w left right first second
  cases first with
  | skip begins search =>
    cases second with
    | skip _ search' =>
      obtain ⟨rfl, -⟩ := search.unique search'
      rfl
    | opened _ search' => exact nomatch (search.unique search').2
  | opened begins search =>
    cases second with
    | skip _ search' => exact nomatch (search.unique search').2
    | opened _ search' =>
      obtain ⟨rfl, same⟩ := search.unique search'
      rw [Option.some.inj same]
  | endpoint begins _ search =>
    cases second with
    | endpoint _ _ search' =>
      obtain ⟨rfl, rfl⟩ := search.unique search'
      rfl
    | closed ended => exact (ended begins).elim
  | closed ended =>
    cases second with
    | endpoint begins => exact (ended begins).elim
    | closed => rfl

/-- A pass that is over has as many endpoints as its descriptor announces. -/
theorem Reached.length_endpoints {listed : List InterfaceSource} {current : InterfaceSource}
    {k : UInt32} (reached : Reached trap p length count (.endpoints listed current k))
    (ended : ¬ Begins length count (.endpoints listed current k)) :
    current.endpoints.length = current.descriptor.bNumEndpoints.toNat := by
  have most : current.endpoints.length ≤ current.descriptor.bNumEndpoints.toNat :=
    reached.counted
  have least : ¬ current.endpoints.length < current.descriptor.bNumEndpoints.toNat := ended
  omega

end

end Walk

/-! ## One pass of each loop -/

namespace UsbDescriptorParser

variable {trap : Bool} {p q : Ptr} {length room : UInt32} {d : UsbdInterfaceDescriptor}
  {cfg : UsbdConfigDescriptor} {e : Fault}

@[simp] theorem sub_zero (trap : Bool) (a : UInt32) : sub trap a 0 = pure a := by
  simp [sub]

theorem sub_of_le (trap : Bool) {a b : UInt32} (le : b ≤ a) : sub trap a b = pure (a - b) := by
  simp [sub, UInt32.not_lt.mpr le]

theorem returns_sub {trap : Bool} {a b c : UInt32} :
    (sub trap a b).Returns c ↔ ¬ (trap = true ∧ a < b) ∧ c = a - b := by
  by_cases wraps : trap = true ∧ a < b <;> simp [sub, wraps]

theorem faults_sub {trap : Bool} {a b : UInt32} :
    (sub trap a b).Faults e ↔ (trap = true ∧ a < b) ∧ e = .wrapped := by
  by_cases wraps : trap = true ∧ a < b <;> simp [sub, wraps]

theorem not_diverges_sub {trap : Bool} {a b : UInt32} : ¬ (sub trap a b).Diverges := by
  by_cases wraps : trap = true ∧ a < b <;> simp [sub, wraps]

/-- A pass of the endpoint loop is one subtraction and one search. -/
theorem endpointPass_eq {st : EndpointLoop} (more : st.j < d.bNumEndpoints.toNat) :
    endpointPass trap q room d st = (do
      let rest ← sub trap room st.cursor
      search endpointKind (q.add st.cursor.toNat) rest
        (fun c => pure (.next {
          j := st.j + 1, cursor := st.cursor + c,
          eps := st.eps ++ [EndpointSource.endpoint d ⟨st.cursor, c, none⟩] }))
        (fun c found => pure (.next {
          j := st.j + 1, cursor := st.cursor + c,
          eps := st.eps ++ [EndpointSource.endpoint d ⟨st.cursor, c, some found⟩] }))) := by
  unfold endpointPass
  rw [if_pos more]
  refine bind_congr fun rest => ?_
  simp only [sub_zero, pure_bind, UInt32.toNat_zero, Ptr.add_zero, parseEndpointDescriptor_eq,
    search_bind]
  rfl

theorem endpointPass_done {st : EndpointLoop} (ended : ¬ st.j < d.bNumEndpoints.toNat) :
    endpointPass trap q room d st = pure (.done st) := by
  unfold endpointPass
  rw [if_neg ended]

/-- The interface loop after an interface with these endpoints. -/
def listInterface (st : InterfaceLoop) (d : UsbdInterfaceDescriptor) (rest : EndpointLoop) :
    InterfaceLoop :=
  if ({ setInterface {} d with endpoints := rest.eps } : UsbInterface).getEndpointCount > 0 then
    { i := st.i + 1
      cursor := st.cursor + rest.cursor
      interfaces := st.interfaces ++ [{ setInterface {} d with endpoints := rest.eps }] }
  else { st with cursor := st.cursor + rest.cursor }

/-- A pass of the interface loop is one search, followed by the endpoint loop
where it found an INTERFACE descriptor. -/
theorem interfacePass_eq {st : InterfaceLoop} (more : st.i < cfg.bNumInterfaces.toNat)
    (inside : st.cursor < length) :
    interfacePass trap p length cfg st =
      search interfaceKind (p.add st.cursor.toNat) (length - st.cursor)
        (fun c => pure (.next { st with cursor := st.cursor + c }))
        (fun c d => do
          let rest ← Prog.loop
            (endpointPass trap (p.add st.cursor.toNat) (length - st.cursor) d)
            { j := 0, cursor := c, eps := [] }
          pure (.next (listInterface st d rest))) := by
  have same : st.i - 1 + 1 = st.i := by omega
  unfold interfacePass
  rw [if_pos ⟨more, inside⟩]
  simp only [sub_of_le trap (UInt32.le_of_lt inside), sub_zero, pure_bind, UInt32.toNat_zero,
    Ptr.add_zero, parseInterfaceDescriptor_eq, search_bind, same]
  congr
  funext c d
  rw [bind_assoc]
  congr
  funext rest
  simp only [pure_bind, listInterface]
  split <;> rfl

theorem interfacePass_done {st : InterfaceLoop}
    (ended : ¬ (st.i < cfg.bNumInterfaces.toNat ∧ st.cursor < length)) :
    interfacePass trap p length cfg st = pure (.done st) := by
  unfold interfacePass
  rw [if_neg ended]

end UsbDescriptorParser

/-! ## The loops go through the walk -/

namespace Walk

/-- The variables of the interface loop at a position. -/
def interfaceLoop (listed : List InterfaceSource) (s : UInt32) : InterfaceLoop :=
  { i := listed.length, cursor := s, interfaces := listed.map InterfaceSource.interface }

/-- The variables of the endpoint loop at a position. -/
def endpointLoop (current : InterfaceSource) (k : UInt32) : EndpointLoop where
  j := current.endpoints.length
  cursor := k
  eps := current.endpoints.map (EndpointSource.endpoint current.descriptor)

theorem endpointLoop_more (current : InterfaceSource) (source : EndpointSource) (k k' : UInt32) :
    endpointLoop (current.more source) k' =
      { j := (endpointLoop current k).j + 1, cursor := k',
        eps := (endpointLoop current k).eps ++ [source.endpoint current.descriptor] } := by
  simp [endpointLoop, InterfaceSource.more]

/-- The endpoint count test of the code lists exactly the interfaces with endpoints. -/
theorem listInterface_eq {listed : List InterfaceSource} {current : InterfaceSource} {k : UInt32}
    (fits : current.endpoints.length < 256) :
    listInterface (interfaceLoop listed current.start) current.descriptor
        (endpointLoop current k) =
      interfaceLoop (current.list listed) (current.start + k) := by
  have fits' : current.interface.endpoints.length < 256 := by
    simpa [InterfaceSource.interface] using fits
  change (if current.interface.getEndpointCount > 0 then _ else _) = _
  by_cases none : current.endpoints = []
  · have stays : ¬ current.interface.getEndpointCount > 0 := by
      rw [gt_iff_lt, UsbInterface.getEndpointCount_pos fits']
      simp [InterfaceSource.interface, none]
    rw [if_neg stays]
    simp [interfaceLoop, endpointLoop, InterfaceSource.list, none]
  · have grows : current.interface.getEndpointCount > 0 := by
      rw [gt_iff_lt, UsbInterface.getEndpointCount_pos fits']
      simp [InterfaceSource.interface, none]
    rw [if_pos grows]
    simp [interfaceLoop, endpointLoop, InterfaceSource.list, none, InterfaceSource.interface]

variable {trap : Bool} {p : Ptr} {length : UInt32} {cfg : UsbdConfigDescriptor}

section EndpointLoop

variable (current : InterfaceSource) (k : UInt32)

/-- The body of the endpoint loop in the pass for `current`. -/
abbrev endpointBody (trap : Bool) (p : Ptr) (length : UInt32) (current : InterfaceSource) :
    EndpointLoop → Prog Fault (Pass EndpointLoop EndpointLoop) :=
  endpointPass trap (p.add current.start.toNat) (length - current.start) current.descriptor

theorem endpointLoop_begins :
    (endpointLoop current k).j < current.descriptor.bNumEndpoints.toNat ↔
      current.Unfinished := by
  simp [endpointLoop, InterfaceSource.Unfinished]

theorem returns_endpointPass_next {st : EndpointLoop} :
    (endpointBody trap p length current (endpointLoop current k)).Returns (.next st) ↔
      current.Unfinished ∧
        ¬ (trap = true ∧ Wraps length current.start k) ∧
          ∃ e found, EndpointSearch p length current.start k e found ∧
            st = endpointLoop (current.more { start := k, consumed := e, found }) (k + e) := by
  by_cases begins : current.Unfinished
  · rw [endpointBody, endpointPass_eq ((endpointLoop_begins current k).mpr begins)]
    simp only [Prog.returns_bind, returns_sub, returns_search, Prog.returns_pure, Pass.next.injEq,
      Ptr.add_add]
    simp only [endpointLoop_more _ _ k]
    constructor
    · intro h
      obtain ⟨_, ⟨safe, rfl⟩, ⟨e, ends, same⟩ | ⟨e, found, ends, same⟩⟩ := h
      · exact ⟨begins, safe, e, none, ends, same⟩
      · exact ⟨begins, safe, e, some found, ends, same⟩
    · intro h
      obtain ⟨_, safe, e, found, ends, same⟩ := h
      refine ⟨_, ⟨safe, rfl⟩, ?_⟩
      cases found with
      | none => exact .inl ⟨e, ends, same⟩
      | some found => exact .inr ⟨e, found, ends, same⟩
  · rw [endpointBody, endpointPass_done (mt (endpointLoop_begins current k).mp begins)]
    simp [begins]

theorem returns_endpointPass_done {st : EndpointLoop} :
    (endpointBody trap p length current (endpointLoop current k)).Returns (.done st) ↔
      ¬ current.Unfinished ∧ st = endpointLoop current k := by
  by_cases begins : current.Unfinished
  · rw [endpointBody, endpointPass_eq ((endpointLoop_begins current k).mpr begins)]
    simp [returns_search, begins]
  · rw [endpointBody, endpointPass_done (mt (endpointLoop_begins current k).mp begins)]
    simp [begins]

theorem faults_endpointPass (listed : List InterfaceSource) {e : Fault} :
    (endpointBody trap p length current (endpointLoop current k)).Faults e ↔
      current.Unfinished ∧
        ((trap = true ∧ Wraps length current.start k) ∧ e = .wrapped ∨
          ¬ (trap = true ∧ Wraps length current.start k) ∧
            Overruns p length (.endpoints listed current k) ∧ e = .outOfBounds) := by
  by_cases begins : current.Unfinished
  · rw [endpointBody, endpointPass_eq ((endpointLoop_begins current k).mpr begins)]
    simp only [Prog.faults_bind, faults_sub, returns_sub, faults_search, Prog.not_faults_pure,
      Ptr.add_add]
    constructor
    · intro h
      refine ⟨begins, ?_⟩
      rcases h with wraps | ⟨_, ⟨safe, rfl⟩, overruns | ⟨_, _, stop⟩ | ⟨_, _, _, stop⟩⟩
      · exact .inl wraps
      · exact .inr ⟨safe, overruns⟩
      · exact stop.elim
      · exact stop.elim
    · intro h
      rcases h with ⟨_, wraps | ⟨safe, overruns⟩⟩
      · exact .inl wraps
      · exact .inr ⟨_, ⟨safe, rfl⟩, .inl overruns⟩
  · rw [endpointBody, endpointPass_done (mt (endpointLoop_begins current k).mp begins)]
    simp [begins]

end EndpointLoop

section InterfaceLoop

variable {listed : List InterfaceSource} {s : UInt32}

theorem interfaceLoop_begins :
    ((interfaceLoop listed s).i < cfg.bNumInterfaces.toNat ∧
        (interfaceLoop listed s).cursor < length) ↔
      Begins length cfg.bNumInterfaces.toNat (.interfaces listed s) := by
  simp [interfaceLoop, Begins]

theorem returns_interfacePass_next {st : InterfaceLoop} :
    (interfacePass trap p length cfg (interfaceLoop listed s)).Returns (.next st) ↔
      Begins length cfg.bNumInterfaces.toNat (.interfaces listed s) ∧
        ((∃ c, InterfaceSearch p length s c none ∧ st = interfaceLoop listed (s + c)) ∨
          ∃ c d rest, InterfaceSearch p length s c (some d) ∧
            (Prog.loop (endpointBody trap p length { start := s, consumed := c, descriptor := d })
              (endpointLoop { start := s, consumed := c, descriptor := d } c)).Returns rest ∧
            st = listInterface (interfaceLoop listed s) d rest) := by
  by_cases begins : Begins length cfg.bNumInterfaces.toNat (.interfaces listed s)
  · have more := interfaceLoop_begins.mpr begins
    rw [interfacePass_eq more.1 more.2]
    simp only [returns_search, Prog.returns_bind, Prog.returns_pure, Pass.next.injEq]
    constructor
    · intro h
      refine ⟨begins, ?_⟩
      rcases h with ⟨c, ends, same⟩ | ⟨c, d, ends, rest, loop, same⟩
      · exact .inl ⟨c, ends, same⟩
      · exact .inr ⟨c, d, rest, ends, loop, same⟩
    · intro h
      rcases h with ⟨_, ⟨c, ends, same⟩ | ⟨c, d, rest, ends, loop, same⟩⟩
      · exact .inl ⟨c, ends, same⟩
      · exact .inr ⟨c, d, ends, rest, loop, same⟩
  · rw [interfacePass_done (mt interfaceLoop_begins.mp begins)]
    simp [begins]

theorem returns_interfacePass_done {st : InterfaceLoop} :
    (interfacePass trap p length cfg (interfaceLoop listed s)).Returns (.done st) ↔
      ¬ Begins length cfg.bNumInterfaces.toNat (.interfaces listed s) ∧
        st = interfaceLoop listed s := by
  by_cases begins : Begins length cfg.bNumInterfaces.toNat (.interfaces listed s)
  · have more := interfaceLoop_begins.mpr begins
    rw [interfacePass_eq more.1 more.2]
    simp only [returns_search, Prog.returns_bind, Prog.returns_pure]
    simp [begins]
  · rw [interfacePass_done (mt interfaceLoop_begins.mp begins)]
    simp [begins]

theorem faults_interfacePass {e : Fault} :
    (interfacePass trap p length cfg (interfaceLoop listed s)).Faults e ↔
      Begins length cfg.bNumInterfaces.toNat (.interfaces listed s) ∧
        (Overruns p length (.interfaces listed s) ∧ e = .outOfBounds ∨
          ∃ c d, InterfaceSearch p length s c (some d) ∧
            (Prog.loop (endpointBody trap p length { start := s, consumed := c, descriptor := d })
              (endpointLoop { start := s, consumed := c, descriptor := d } c)).Faults e) := by
  by_cases begins : Begins length cfg.bNumInterfaces.toNat (.interfaces listed s)
  · have more := interfaceLoop_begins.mpr begins
    rw [interfacePass_eq more.1 more.2]
    simp only [faults_search, Prog.faults_bind, Prog.not_faults_pure, and_false, exists_false,
      or_false, false_or]
    constructor
    · exact fun h => ⟨begins, h⟩
    · exact fun h => h.2
  · rw [interfacePass_done (mt interfaceLoop_begins.mp begins)]
    simp [begins]

end InterfaceLoop

/-! ### Every state of the loops is a position of the walk -/

section Reached

variable {listed : List InterfaceSource} {current : InterfaceSource} {s k : UInt32}

theorem reached_of_passes_endpointPass {count : Nat} {st : EndpointLoop}
    (reached : Reached trap p length count (.endpoints listed current k))
    (passes : Prog.Passes (endpointBody trap p length current) (endpointLoop current k) st) :
    ∃ sources k', st = endpointLoop { current with endpoints := sources } k' ∧
      Reached trap p length count (.endpoints listed { current with endpoints := sources } k') := by
  induction passes with
  | refl => exact ⟨current.endpoints, k, rfl, reached⟩
  | tail _ pass ih =>
    obtain ⟨sources, k', rfl, reached⟩ := ih
    have next := (returns_endpointPass_next { current with endpoints := sources } k').mp pass
    obtain ⟨begins, safe, e, found, search, rfl⟩ := next
    exact ⟨_, _, rfl, reached.tail (.endpoint begins safe search)⟩

/-- An endpoint loop returns at a position whose pass is over. -/
theorem reached_of_returns_endpointLoop {count : Nat} {st : EndpointLoop}
    (reached : Reached trap p length count (.endpoints listed current k))
    (returned : (Prog.loop (endpointBody trap p length current)
      (endpointLoop current k)).Returns st) :
    ∃ sources k', st = endpointLoop { current with endpoints := sources } k' ∧
      Reached trap p length count (.endpoints listed { current with endpoints := sources } k') ∧
      ¬ Begins length count (.endpoints listed { current with endpoints := sources } k') := by
  obtain ⟨last, passes, leaves⟩ := Prog.returns_loop.mp returned
  obtain ⟨sources, k', rfl, reached'⟩ := reached_of_passes_endpointPass reached passes
  obtain ⟨ended, rfl⟩ :=
    (returns_endpointPass_done { current with endpoints := sources } k').mp leaves
  exact ⟨sources, k', rfl, reached', ended⟩

/-- A pass that is over puts the loop variables where the walk goes. -/
theorem listInterface_of_ended {count : Nat}
    (reached : Reached trap p length count (.endpoints listed current k))
    (ended : ¬ Begins length count (.endpoints listed current k)) :
    listInterface (interfaceLoop listed current.start) current.descriptor
        (endpointLoop current k) =
      interfaceLoop (current.list listed) (current.start + k) := by
  apply listInterface_eq
  rw [reached.length_endpoints ended]
  exact current.descriptor.bNumEndpoints.toNat_lt

theorem reached_of_passes {st : InterfaceLoop}
    (passes : Prog.Passes (interfacePass trap p length cfg)
      (interfaceLoop [] sizeofUsbdConfigDescriptor) st) :
    ∃ listed s, st = interfaceLoop listed s ∧
      Reached trap p length cfg.bNumInterfaces.toNat (.interfaces listed s) := by
  induction passes with
  | refl => exact ⟨[], _, rfl, .refl⟩
  | tail _ pass ih =>
    obtain ⟨listed, s, rfl, reached⟩ := ih
    obtain ⟨begins, rest⟩ := returns_interfacePass_next.mp pass
    rcases rest with ⟨c, search, rfl⟩ | ⟨c, d, st, search, returned, rfl⟩
    · exact ⟨listed, s + c, rfl, reached.tail (.skip begins search)⟩
    · have opened := reached.tail (.opened begins search)
      obtain ⟨sources, k', rfl, reached', ended⟩ := reached_of_returns_endpointLoop opened returned
      exact ⟨_, _, listInterface_of_ended reached' ended, reached'.tail (.closed ended)⟩

end Reached

/-! ### Every position of the walk is a state of the loops -/

/-- The interface loop of the code gets to a pass. -/
def InInterfaceLoop (trap : Bool) (p : Ptr) (length : UInt32) (cfg : UsbdConfigDescriptor)
    (listed : List InterfaceSource) (s : UInt32) : Prop :=
  Prog.Passes (interfacePass trap p length cfg) (interfaceLoop [] sizeofUsbdConfigDescriptor)
    (interfaceLoop listed s)

/-- The loops of the code get to a position. -/
def InCode (trap : Bool) (p : Ptr) (length : UInt32) (cfg : UsbdConfigDescriptor) : Walk → Prop
  | .interfaces listed s => InInterfaceLoop trap p length cfg listed s
  | .endpoints listed current k =>
    InInterfaceLoop trap p length cfg listed current.start ∧
      Begins length cfg.bNumInterfaces.toNat (.interfaces listed current.start) ∧
      InterfaceSearch p length current.start current.consumed (some current.descriptor) ∧
      Prog.Passes (endpointBody trap p length current)
        (endpointLoop { current with endpoints := [] } current.consumed) (endpointLoop current k)

theorem inCode_of_endpoints {listed : List InterfaceSource} {current : InterfaceSource} {k : UInt32}
    (there : InCode trap p length cfg (.endpoints listed current k)) :
    InCode trap p length cfg (.interfaces listed current.start) := there.1

/-- The pass of the interface loop that an ended endpoint loop completes. -/
theorem returns_interfacePass_of_inCode {listed : List InterfaceSource}
    {current : InterfaceSource} {k : UInt32}
    (reached : Reached trap p length cfg.bNumInterfaces.toNat (.endpoints listed current k))
    (there : InCode trap p length cfg (.endpoints listed current k))
    (ended : ¬ Begins length cfg.bNumInterfaces.toNat (.endpoints listed current k)) :
    (interfacePass trap p length cfg (interfaceLoop listed current.start)).Returns
      (.next (interfaceLoop (current.list listed) (current.start + k))) := by
  obtain ⟨_, inside, opened, passes⟩ := there
  refine returns_interfacePass_next.mpr ⟨inside, .inr ?_⟩
  refine ⟨_, _, endpointLoop current k, opened, Prog.returns_loop.mpr ⟨_, passes, ?_⟩,
    (listInterface_of_ended reached ended).symm⟩
  exact (returns_endpointPass_done current k).mpr ⟨ended, rfl⟩

theorem inCode_of_reached {w : Walk} (reached : Reached trap p length cfg.bNumInterfaces.toNat w) :
    InCode trap p length cfg w := by
  induction reached with
  | refl => exact Relation.ReflTransGen.refl
  | tail before step ih =>
    cases step with
    | skip begins search =>
      exact Relation.ReflTransGen.tail ih
        (returns_interfacePass_next.mpr ⟨begins, .inl ⟨_, search, rfl⟩⟩)
    | opened begins search => exact ⟨ih, begins, search, .refl⟩
    | @endpoint listed current k e found begins safe search =>
      obtain ⟨there, inside, opened, passes⟩ := ih
      refine ⟨there, inside, opened, passes.tail ?_⟩
      exact (returns_endpointPass_next current k).mpr
        ⟨begins, safe, e, found, search, rfl⟩
    | @closed listed current k ended =>
      have there := inCode_of_endpoints ih
      exact Relation.ReflTransGen.tail there (returns_interfacePass_of_inCode before ih ended)

/-! ### The three judgements of the whole loop -/

/-- What the interface loop returns is where the walk ends. -/
theorem returns_interfaceLoop {st : InterfaceLoop} :
    (Prog.loop (interfacePass trap p length cfg)
        (interfaceLoop [] sizeofUsbdConfigDescriptor)).Returns st ↔
      ∃ listed s, Reached trap p length cfg.bNumInterfaces.toNat (.interfaces listed s) ∧
        ¬ Begins length cfg.bNumInterfaces.toNat (.interfaces listed s) ∧
        st = interfaceLoop listed s := by
  rw [Prog.returns_loop]
  constructor
  · intro h
    obtain ⟨last, passes, leaves⟩ := h
    obtain ⟨listed, s, rfl, reached⟩ := reached_of_passes passes
    obtain ⟨ended, rfl⟩ := returns_interfacePass_done.mp leaves
    exact ⟨listed, s, reached, ended, rfl⟩
  · intro h
    obtain ⟨listed, s, reached, ended, rfl⟩ := h
    exact ⟨_, inCode_of_reached reached, returns_interfacePass_done.mpr ⟨ended, rfl⟩⟩

/-- Why the code stops at a position with the fault `e`. -/
def Stops (trap : Bool) (p : Ptr) (length : UInt32) (e : Fault) : Walk → Prop
  | .interfaces listed s => Overruns p length (.interfaces listed s) ∧ e = .outOfBounds
  | .endpoints listed current k =>
    (trap = true ∧ Wraps length current.start k) ∧ e = .wrapped ∨
      ¬ (trap = true ∧ Wraps length current.start k) ∧
        Overruns p length (.endpoints listed current k) ∧ e = .outOfBounds

/-- Without `trap` only a search that needs a byte outside stops the code. -/
theorem stops_untrapped {e : Fault} {walk : Walk} :
    Stops false p length e walk ↔ Overruns p length walk ∧ e = .outOfBounds := by
  cases walk with
  | interfaces listed s => rfl
  | endpoints listed current k => simp [Stops]

/-- The interface loop faults exactly at a search of the walk that does. -/
theorem faults_interfaceLoop {e : Fault} :
    (Prog.loop (interfacePass trap p length cfg)
        (interfaceLoop [] sizeofUsbdConfigDescriptor)).Faults e ↔
      ∃ w, Reached trap p length cfg.bNumInterfaces.toNat w ∧
        Begins length cfg.bNumInterfaces.toNat w ∧ Stops trap p length e w := by
  rw [Prog.faults_loop]
  constructor
  · intro h
    obtain ⟨last, passes, bad⟩ := h
    obtain ⟨listed, s, rfl, reached⟩ := reached_of_passes passes
    obtain ⟨begins, bad⟩ := faults_interfacePass.mp bad
    rcases bad with overruns | ⟨c, d, search, bad⟩
    · exact ⟨_, reached, begins, overruns⟩
    · have opened := reached.tail (.opened begins search)
      obtain ⟨st, passes, bad⟩ := Prog.faults_loop.mp bad
      obtain ⟨sources, k, rfl, reached'⟩ := reached_of_passes_endpointPass opened passes
      have stops := (faults_endpointPass
        { start := s, consumed := c, descriptor := d, endpoints := sources } k listed).mp bad
      exact ⟨_, reached', stops.1, stops.2⟩
  · intro h
    obtain ⟨w, reached, begins, stops⟩ := h
    have there := inCode_of_reached reached
    cases w with
    | interfaces listed s =>
      exact ⟨_, there, faults_interfacePass.mpr ⟨begins, .inl stops⟩⟩
    | endpoints listed current k =>
      obtain ⟨there, inside, opened, passes⟩ := there
      refine ⟨_, there, faults_interfacePass.mpr ⟨inside, .inr ⟨_, _, opened, ?_⟩⟩⟩
      refine Prog.faults_loop.mpr ⟨_, passes, ?_⟩
      exact (faults_endpointPass current k listed).mpr ⟨begins, stops⟩

end Walk

end UsbManager

import UsbManager.DescriptorParser

/-!
# Descriptor searches

`ParseInterfaceDescriptor` and `ParseEndpointDescriptor` both look for the next
descriptor of one type: from a start address, with `room` bytes believed to be
left, they step over every other descriptor by its `bLength`.  This module
states what such a search does in terms of the bytes alone, for both kinds at
once (`Kind`), and proves that the code does that.

* `Steps`, `Visits`: the cursor positions a search goes through.
* `Refuses`, `Arrives`, `Cut`: what happens at a position where it stops.
* `Ends`: the bytes consumed and the descriptor found, if any.
* `Overruns`: the search needs a byte that cannot be read.
-/

namespace UsbManager

/-- What a search looks for: a descriptor type, its structure and its size. -/
structure Kind (δ : Type) where
  goal : UInt8
  layout : Ptr → Option δ
  bLength : δ → UInt8
  size : UInt32
  missing : ∀ bytes k, layout ((Ptr.ofList bytes).add k) = none ↔ bytes.length < k + size.toNat

def interfaceKind : Kind UsbdInterfaceDescriptor where
  goal := DESCRIPTOR_TYPE_INTERFACE
  layout := Ptr.interfaceDescriptor
  bLength := UsbdInterfaceDescriptor.bLength
  size := sizeofUsbdInterfaceDescriptor
  missing := Ptr.interfaceDescriptor_eq_none

def endpointKind : Kind UsbdEndpointDescriptor where
  goal := DESCRIPTOR_TYPE_ENDPOINT
  layout := Ptr.endpointDescriptor
  bLength := UsbdEndpointDescriptor.bLength
  size := sizeofUsbdEndpointDescriptor
  missing := Ptr.endpointDescriptor_eq_none

@[simp] theorem Ptr.add_zero (p : Ptr) : p.add 0 = p := by
  ext i : 2
  simp [Ptr.add]

@[simp] theorem Ptr.add_add (p : Ptr) (a b : Nat) : (p.add a).add b = p.add (a + b) := by
  ext i : 2
  simp [Ptr.add, Nat.add_assoc]

namespace Search

variable {δ : Type} (kind : Kind δ) (start : Ptr) (room : UInt32)

/-- The header at a position. -/
def headerAt (c : UInt32) : Option UsbdDescriptorHeader := (start.add c.toNat).header

/-- A descriptor of another type, not longer than `room`, is stepped over. -/
def Steps (c c' : UInt32) : Prop :=
  c < room ∧ sizeofUsbdDescriptorHeader < room ∧
    ∃ h, headerAt start c = some h ∧ h.bLength.toUInt32 ≤ room ∧
      h.bDescriptorType ≠ kind.goal ∧ c' = c + h.bLength.toUInt32

/-- The search gets to position `c`. -/
def Visits (c : UInt32) : Prop := Relation.ReflTransGen (Steps kind start room) 0 c

/-- The search gives up at `c`: two bytes or fewer were left when it began, or
the descriptor at `c` is longer than all that was left then. -/
def Refuses (c : UInt32) : Prop :=
  c < room ∧ (room ≤ sizeofUsbdDescriptorHeader ∨
    sizeofUsbdDescriptorHeader < room ∧
      ∃ h, headerAt start c = some h ∧ room < h.bLength.toUInt32)

/-- The search stops at `c`, at a descriptor of the type it looks for or past
the end; it reads that structure at `c` in both cases. -/
def Arrives (c : UInt32) : Prop :=
  room ≤ c ∨ c < room ∧ sizeofUsbdDescriptorHeader < room ∧
    ∃ h, headerAt start c = some h ∧ h.bLength.toUInt32 ≤ room ∧ h.bDescriptorType = kind.goal

/-- The header at `c` does not lie inside. -/
def Cut (c : UInt32) : Prop :=
  c < room ∧ sizeofUsbdDescriptorHeader < room ∧ headerAt start c = none

/-- How a search ends: the bytes consumed, and the descriptor taken unless the
search was refused, had no room or met a descriptor of the wrong length. -/
inductive Ends : UInt32 → Option δ → Prop
  | empty : room = 0 → Ends 0 none
  | refused {c : UInt32} :
    room ≠ 0 → Visits kind start room c → Refuses start room c → Ends c none
  | malformed {c : UInt32} {d : δ} :
    room ≠ 0 → Visits kind start room c → Arrives kind start room c →
    kind.layout (start.add c.toNat) = some d → (kind.bLength d).toUInt32 ≠ kind.size →
    Ends c none
  | found {c : UInt32} {d : δ} :
    room ≠ 0 → Visits kind start room c → Arrives kind start room c →
    kind.layout (start.add c.toNat) = some d → (kind.bLength d).toUInt32 = kind.size →
    Ends (c + (kind.bLength d).toUInt32) (some d)

/-- The search needs a byte outside: of the header at a position it visits, or
of the descriptor where it stops. -/
def Overruns : Prop :=
  room ≠ 0 ∧ ∃ c, Visits kind start room c ∧
    (Cut start room c ∨
      Arrives kind start room c ∧ kind.layout (start.add c.toNat) = none)

end Search

/-! ## The skip loop is a search -/

namespace UsbDescriptorParser

open Search

variable {δ : Type} {kind : Kind δ} {start : Ptr} {room c c' : UInt32} {e : Fault}

theorem returns_skipPass_next :
    (skipPass kind.goal start room c).Returns (.next c') ↔ Steps kind start room c c' := by
  unfold skipPass Steps headerAt read
  by_cases inside : c < room
  · by_cases short : room ≤ sizeofUsbdDescriptorHeader
    · simp [inside, short, UInt32.not_lt.mpr short]
    · simp [inside, short, UInt32.not_le.mp short, Prog.returns_ite]
  · simp [inside]

theorem returns_skipPass_refused :
    (skipPass kind.goal start room c).Returns (.done (.refused c')) ↔
      Refuses start room c ∧ c' = c := by
  unfold skipPass Refuses headerAt read
  by_cases inside : c < room
  · by_cases short : room ≤ sizeofUsbdDescriptorHeader
    · simp [inside, short]
    · simp [inside, short, UInt32.not_le.mp short, Prog.returns_ite]
      grind
  · simp [inside]

theorem returns_skipPass_reached :
    (skipPass kind.goal start room c).Returns (.done (.reached c')) ↔
      Arrives kind start room c ∧ c' = c := by
  unfold skipPass Arrives headerAt read
  by_cases inside : c < room
  · have within := UInt32.not_le.mpr inside
    by_cases short : room ≤ sizeofUsbdDescriptorHeader
    · simp [inside, within, short, UInt32.not_lt.mpr short]
    · simp [inside, within, short, UInt32.not_le.mp short, Prog.returns_ite]
      grind
  · simp [inside, UInt32.not_lt.mp inside]

theorem faults_skipPass :
    (skipPass kind.goal start room c).Faults e ↔ Cut start room c ∧ e = .outOfBounds := by
  unfold skipPass Cut headerAt read
  by_cases inside : c < room
  · by_cases short : room ≤ sizeofUsbdDescriptorHeader
    · simp [inside, short, UInt32.not_lt.mpr short]
    · simp [inside, short, UInt32.not_le.mp short, Prog.faults_ite]
  · simp [inside]

theorem not_diverges_skipPass : ¬ (skipPass kind.goal start room c).Diverges := by
  unfold skipPass read
  simp [Prog.diverges_ite]

/-! ### The whole loop -/

theorem passes_skipPass :
    Prog.Passes (skipPass kind.goal start room) =
      Relation.ReflTransGen (Steps kind start room) := by
  unfold Prog.Passes
  congr
  funext c c'
  exact propext returns_skipPass_next

theorem returns_skipTo_refused :
    (skipTo kind.goal start room 0).Returns (.refused c) ↔
      Visits kind start room c ∧ Refuses start room c := by
  unfold skipTo
  rw [Prog.returns_loop, passes_skipPass]
  constructor
  · rintro ⟨last, reached, leaves⟩
    obtain ⟨refuses, rfl⟩ := returns_skipPass_refused.mp leaves
    exact ⟨reached, refuses⟩
  · rintro ⟨reached, refuses⟩
    exact ⟨c, reached, returns_skipPass_refused.mpr ⟨refuses, rfl⟩⟩

theorem returns_skipTo_reached :
    (skipTo kind.goal start room 0).Returns (.reached c) ↔
      Visits kind start room c ∧ Arrives kind start room c := by
  unfold skipTo
  rw [Prog.returns_loop, passes_skipPass]
  constructor
  · rintro ⟨last, reached, leaves⟩
    obtain ⟨arrives, rfl⟩ := returns_skipPass_reached.mp leaves
    exact ⟨reached, arrives⟩
  · rintro ⟨reached, arrives⟩
    exact ⟨c, reached, returns_skipPass_reached.mpr ⟨arrives, rfl⟩⟩

theorem faults_skipTo :
    (skipTo kind.goal start room 0).Faults e ↔
      (∃ c, Visits kind start room c ∧ Cut start room c) ∧ e = .outOfBounds := by
  unfold skipTo
  rw [Prog.faults_loop, passes_skipPass]
  constructor
  · rintro ⟨last, reached, bad⟩
    obtain ⟨cut, rfl⟩ := faults_skipPass.mp bad
    exact ⟨⟨last, reached, cut⟩, rfl⟩
  · rintro ⟨⟨last, reached, cut⟩, rfl⟩
    exact ⟨last, reached, faults_skipPass.mpr ⟨cut, rfl⟩⟩

/-! ## The two parsers in terms of their searches -/

/-- The shape both parsers share: search, read the structure, check its
length, and go on in one of two ways. -/
def search {α : Type} (kind : Kind δ) (buffer : Ptr) (length : UInt32)
    (failed : UInt32 → Prog Fault α) (found : UInt32 → δ → Prog Fault α) : Prog Fault α :=
  if length = 0 then failed 0
  else do
    match ← skipTo kind.goal buffer length 0 with
    | .refused cursor => failed cursor
    | .reached cursor =>
      let d ← read (kind.layout (buffer.add cursor.toNat))
      if (kind.bLength d).toUInt32 ≠ kind.size then failed cursor
      else found (cursor + (kind.bLength d).toUInt32) d

/-- What follows a search moves into its two continuations. -/
theorem search_bind {α β : Type} (kind : Kind δ) (buffer : Ptr) (length : UInt32)
    (failed : UInt32 → Prog Fault α) (found : UInt32 → δ → Prog Fault α)
    (f : α → Prog Fault β) :
    search kind buffer length failed found >>= f =
      search kind buffer length (fun c => failed c >>= f) (fun c d => found c d >>= f) := by
  unfold search
  by_cases empty : length = 0
  · rw [if_pos empty, if_pos empty]
  rw [if_neg empty, if_neg empty, bind_assoc]
  congr
  funext stop
  cases stop with
  | refused cursor => rfl
  | reached cursor =>
    rw [bind_assoc]
    congr
    funext d
    by_cases wrong : (kind.bLength d).toUInt32 ≠ kind.size
    · rw [if_pos wrong, if_pos wrong]
    · rw [if_neg wrong, if_neg wrong]

section SearchRules

variable {α : Type} {failed : UInt32 → Prog Fault α} {found : UInt32 → δ → Prog Fault α} {a : α}

theorem returns_search :
    (search kind start room failed found).Returns a ↔
      (∃ c, Ends kind start room c none ∧ (failed c).Returns a) ∨
        ∃ c d, Ends kind start room c (some d) ∧ (found c d).Returns a := by
  unfold search read
  by_cases empty : room = 0
  · rw [if_pos empty]
    constructor
    · exact fun rest => .inl ⟨0, .empty empty, rest⟩
    · rintro (⟨c, ends, rest⟩ | ⟨c, d, ends, rest⟩)
      · cases ends with
        | empty _ => exact rest
        | refused nonempty => exact (nonempty empty).elim
        | malformed nonempty => exact (nonempty empty).elim
      · cases ends with
        | found nonempty => exact (nonempty empty).elim
  · rw [if_neg empty, Prog.returns_bind]
    constructor
    · rintro ⟨stop, stops, rest⟩
      cases stop with
      | refused c =>
        obtain ⟨visits, refuses⟩ := returns_skipTo_refused.mp stops
        exact .inl ⟨c, .refused empty visits refuses, rest⟩
      | reached c =>
        obtain ⟨visits, arrives⟩ := returns_skipTo_reached.mp stops
        obtain ⟨d, layout, rest⟩ := Prog.returns_bind.mp rest
        rw [Prog.returns_getOr] at layout
        rcases Prog.returns_ite.mp rest with ⟨wrong, rest⟩ | ⟨right, rest⟩
        · exact .inl ⟨c, .malformed empty visits arrives layout wrong, rest⟩
        · exact .inr ⟨_, d, .found empty visits arrives layout (Decidable.not_not.mp right), rest⟩
    · rintro (⟨c, ends, rest⟩ | ⟨c, d, ends, rest⟩)
      · cases ends with
        | empty zero => exact (empty zero).elim
        | refused _ visits refuses =>
          exact ⟨.refused c, returns_skipTo_refused.mpr ⟨visits, refuses⟩, rest⟩
        | @malformed _ d _ visits arrives layout wrong =>
          refine ⟨.reached c, returns_skipTo_reached.mpr ⟨visits, arrives⟩, ?_⟩
          refine Prog.returns_bind.mpr ⟨d, Prog.returns_getOr.mpr layout, ?_⟩
          exact Prog.returns_ite.mpr (.inl ⟨wrong, rest⟩)
      · cases ends with
        | @found c _ _ visits arrives layout right =>
          refine ⟨.reached c, returns_skipTo_reached.mpr ⟨visits, arrives⟩, ?_⟩
          refine Prog.returns_bind.mpr ⟨d, Prog.returns_getOr.mpr layout, ?_⟩
          exact Prog.returns_ite.mpr (.inr ⟨Decidable.not_not.mpr right, rest⟩)

theorem faults_search :
    (search kind start room failed found).Faults e ↔
      (Overruns kind start room ∧ e = .outOfBounds) ∨
        (∃ c, Ends kind start room c none ∧ (failed c).Faults e) ∨
          ∃ c d, Ends kind start room c (some d) ∧ (found c d).Faults e := by
  unfold search read
  by_cases empty : room = 0
  · rw [if_pos empty]
    constructor
    · exact fun rest => .inr (.inl ⟨0, .empty empty, rest⟩)
    · rintro (⟨⟨nonempty, _⟩, _⟩ | ⟨c, ends, rest⟩ | ⟨c, d, ends, rest⟩)
      · exact (nonempty empty).elim
      · cases ends with
        | empty _ => exact rest
        | refused nonempty => exact (nonempty empty).elim
        | malformed nonempty => exact (nonempty empty).elim
      · cases ends with
        | found nonempty => exact (nonempty empty).elim
  · rw [if_neg empty, Prog.faults_bind]
    constructor
    · rintro (bad | ⟨stop, stops, rest⟩)
      · obtain ⟨⟨c, visits, cut⟩, rfl⟩ := faults_skipTo.mp bad
        exact .inl ⟨⟨empty, c, visits, .inl cut⟩, rfl⟩
      cases stop with
      | refused c =>
        obtain ⟨visits, refuses⟩ := returns_skipTo_refused.mp stops
        exact .inr (.inl ⟨c, .refused empty visits refuses, rest⟩)
      | reached c =>
        obtain ⟨visits, arrives⟩ := returns_skipTo_reached.mp stops
        rcases Prog.faults_bind.mp rest with unread | ⟨d, layout, rest⟩
        · obtain ⟨missing, rfl⟩ := Prog.faults_getOr.mp unread
          exact .inl ⟨⟨empty, c, visits, .inr ⟨arrives, missing⟩⟩, rfl⟩
        rw [Prog.returns_getOr] at layout
        rcases Prog.faults_ite.mp rest with ⟨wrong, rest⟩ | ⟨right, rest⟩
        · exact .inr (.inl ⟨c, .malformed empty visits arrives layout wrong, rest⟩)
        · exact .inr (.inr ⟨_, d,
            .found empty visits arrives layout (Decidable.not_not.mp right), rest⟩)
    · rintro (⟨⟨_, c, visits, cut | ⟨arrives, missing⟩⟩, rfl⟩ | ⟨c, ends, rest⟩ |
        ⟨c, d, ends, rest⟩)
      · exact .inl (faults_skipTo.mpr ⟨⟨c, visits, cut⟩, rfl⟩)
      · refine .inr ⟨.reached c, returns_skipTo_reached.mpr ⟨visits, arrives⟩, ?_⟩
        exact Prog.faults_bind.mpr (.inl (Prog.faults_getOr.mpr ⟨missing, rfl⟩))
      · cases ends with
        | empty zero => exact (empty zero).elim
        | refused _ visits refuses =>
          exact .inr ⟨.refused c, returns_skipTo_refused.mpr ⟨visits, refuses⟩, rest⟩
        | @malformed _ d _ visits arrives layout wrong =>
          refine .inr ⟨.reached c, returns_skipTo_reached.mpr ⟨visits, arrives⟩, ?_⟩
          refine Prog.faults_bind.mpr (.inr ⟨d, Prog.returns_getOr.mpr layout, ?_⟩)
          exact Prog.faults_ite.mpr (.inl ⟨wrong, rest⟩)
      · cases ends with
        | @found c _ _ visits arrives layout right =>
          refine .inr ⟨.reached c, returns_skipTo_reached.mpr ⟨visits, arrives⟩, ?_⟩
          refine Prog.faults_bind.mpr (.inr ⟨d, Prog.returns_getOr.mpr layout, ?_⟩)
          exact Prog.faults_ite.mpr (.inr ⟨Decidable.not_not.mpr right, rest⟩)

/-- With a search that ends and continuations that end, the whole ends. -/
theorem not_diverges_search (ends : ¬ (skipTo kind.goal start room 0).Diverges)
    (failedEnds : ∀ c, Ends kind start room c none → ¬ (failed c).Diverges)
    (foundEnds : ∀ c d, Ends kind start room c (some d) → ¬ (found c d).Diverges) :
    ¬ (search kind start room failed found).Diverges := by
  intro diverges
  unfold search read at diverges
  by_cases empty : room = 0
  · rw [if_pos empty] at diverges
    exact failedEnds 0 (.empty empty) diverges
  · rw [if_neg empty, Prog.diverges_bind] at diverges
    rcases diverges with stuck | ⟨stop, stops, rest⟩
    · exact ends stuck
    cases stop with
    | refused c =>
      obtain ⟨visits, refuses⟩ := returns_skipTo_refused.mp stops
      exact failedEnds c (.refused empty visits refuses) rest
    | reached c =>
      obtain ⟨visits, arrives⟩ := returns_skipTo_reached.mp stops
      rcases Prog.diverges_bind.mp rest with unread | ⟨d, layout, rest⟩
      · exact Prog.not_diverges_getOr unread
      rw [Prog.returns_getOr] at layout
      rcases Prog.diverges_ite.mp rest with ⟨wrong, rest⟩ | ⟨right, rest⟩
      · exact failedEnds c (.malformed empty visits arrives layout wrong) rest
      · exact foundEnds _ d
          (.found empty visits arrives layout (Decidable.not_not.mp right)) rest

end SearchRules

theorem parseEndpointDescriptor_eq (start : Ptr) (room : UInt32) (ep : USBEndpoint) :
    parseEndpointDescriptor (some start) room 0 ep =
      search endpointKind start room
        (fun c => pure (.UEC_SERVICE_INVALID_VALUE, c, ep))
        (fun c d => pure (.UEC_OK, c, setEndpoint ep d)) := rfl

theorem parseInterfaceDescriptor_eq (trap : Bool) (start : Ptr) (room : UInt32)
    (interface : UsbInterface) :
    parseInterfaceDescriptor trap (some start) room 0 interface =
      search interfaceKind start room
        (fun c => pure (.UEC_SERVICE_INVALID_VALUE, c, interface))
        (fun c d => do
          let st ← Prog.loop (endpointPass trap start room d) { j := 0, cursor := c, eps := [] }
          pure (.UEC_OK, st.cursor, { setInterface interface d with endpoints := st.eps })) := rfl

end UsbDescriptorParser

namespace Search

variable {δ : Type} {kind : Kind δ} {start : Ptr} {room : UInt32}

/-- A search ends in one way. -/
theorem Ends.unique {c c' : UInt32} {d d' : Option δ} (left : Ends kind start room c d)
    (right : Ends kind start room c' d') : c = c' ∧ d = d' := by
  have returns : ∀ c d, Ends kind start room c d →
      (UsbDescriptorParser.search kind start room (fun c => pure (c, none))
        (fun c d => pure (c, some d))).Returns (c, d) := by
    intro c d ends
    rw [UsbDescriptorParser.returns_search]
    cases d with
    | none => exact .inl ⟨c, ends, Prog.returns_pure.mpr rfl⟩
    | some d => exact .inr ⟨c, d, ends, Prog.returns_pure.mpr rfl⟩
  exact Prod.mk.inj ((returns c d left).unique (returns c' d' right))

end Search

end UsbManager

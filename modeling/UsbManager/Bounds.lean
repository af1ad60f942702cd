import UsbManager.Config

/-!
# In-bounds parsing

When every read of `GetConfigDescriptor` lies inside the byte vector it was
given, and no subtraction of cursors wraps.
-/

namespace UsbManager

open UsbDescriptorParser Search

namespace Search

variable {δ : Type} (kind : Kind δ) (start : Ptr) (room : UInt32)

/-- The search gets to a position with too few bytes behind it, of the `left`
that follow its start: fewer than a header at a position it is to step over, or
fewer than the structure where it stops. -/
def FallsShort (left : Nat) : Prop :=
  room ≠ 0 ∧ ∃ c, Visits kind start room c ∧
    (c < room ∧ sizeofUsbdDescriptorHeader < room ∧ left < c.toNat + 2 ∨
      Arrives kind start room c ∧ left < c.toNat + kind.size.toNat)

theorem overruns_iff_fallsShort {bytes : List UInt8} {k : Nat} (positive : 0 < kind.size.toNat) :
    Overruns kind ((Ptr.ofList bytes).add k) room ↔
      FallsShort kind ((Ptr.ofList bytes).add k) room (bytes.length - k) := by
  have header : ∀ c : UInt32, headerAt ((Ptr.ofList bytes).add k) c = none ↔
      bytes.length - k < c.toNat + 2 := by
    intro c
    rw [headerAt, Ptr.add_add, Ptr.header_eq_none]
    omega
  have layout : ∀ c : UInt32, kind.layout (((Ptr.ofList bytes).add k).add c.toNat) = none ↔
      bytes.length - k < c.toNat + kind.size.toNat := by
    intro c
    rw [Ptr.add_add, kind.missing]
    omega
  unfold Overruns FallsShort Cut
  simp only [header, layout]

end Search

namespace Walk

/-- The search that begins here falls short of the vector's end. -/
def FallsShort (descriptor : List UInt8) : Walk → Prop
  | .interfaces _ s =>
    Search.FallsShort interfaceKind ((UsbService.block descriptor).add s.toNat)
      (UsbService.blockLength descriptor - s)
      (descriptor.length - (UsbService.CURSOR_INIT.toNat + s.toNat))
  | .endpoints _ current k =>
    Search.FallsShort endpointKind
      ((UsbService.block descriptor).add (current.start.toNat + k.toNat))
      (UsbService.blockLength descriptor - current.start - k)
      (descriptor.length - (UsbService.CURSOR_INIT.toNat + (current.start.toNat + k.toNat)))

/-- The search begins past the end of the block. -/
def BeginsPastEnd (length : UInt32) : Walk → Prop
  | .interfaces _ _ => False
  | .endpoints _ current k => Wraps length current.start k

theorem overruns_iff_fallsShort {descriptor : List UInt8} (walk : Walk) :
    Overruns (UsbService.block descriptor) (UsbService.blockLength descriptor) walk ↔
      walk.FallsShort descriptor := by
  cases walk with
  | interfaces listed s =>
    simp only [Overruns, FallsShort, UsbService.block, Ptr.add_add]
    exact Search.overruns_iff_fallsShort interfaceKind _ (by decide)
  | endpoints listed current k =>
    simp only [Overruns, FallsShort, UsbService.block, Ptr.add_add]
    exact Search.overruns_iff_fallsShort endpointKind _ (by decide)

/-- The instrumented code stops where a search falls short or begins past the end. -/
theorem exists_stops {descriptor : List UInt8} (walk : Walk) :
    (∃ e, Stops true (UsbService.block descriptor) (UsbService.blockLength descriptor) e walk) ↔
      walk.FallsShort descriptor ∨ BeginsPastEnd (UsbService.blockLength descriptor) walk := by
  rw [← overruns_iff_fallsShort]
  cases walk with
  | interfaces listed s =>
    simp [Stops, BeginsPastEnd]
  | endpoints listed current k =>
    simp only [Stops, BeginsPastEnd]
    constructor
    · intro h
      obtain ⟨e, ⟨wraps, _⟩ | ⟨_, overruns, _⟩⟩ := h
      · exact .inr wraps.2
      · exact .inl overruns
    · intro h
      by_cases wraps : Wraps (UsbService.blockLength descriptor) current.start k
      · exact ⟨.wrapped, .inl ⟨⟨trivial, wraps⟩, rfl⟩⟩
      · rcases h with overruns | wraps'
        · exact ⟨_, .inr ⟨fun bad => wraps bad.2, overruns, rfl⟩⟩
        · exact (wraps wraps').elim

end Walk

namespace UsbService

variable {usbd : Usbd} {dev : UsbDevice} {descriptor : List UInt8} {w : World}

/-- A vector that has a block to parse has its first nine bytes. -/
theorem configDescriptor_block (room : sizeofUsbdConfigDescriptor ≤ blockLength descriptor)
    (one : ParsesBlock dev descriptor) : (block descriptor).configDescriptor ≠ none := by
  rw [block, Ne, Ptr.configDescriptor_eq_none]
  have long := UInt32.le_iff_toNat_le.mp room
  have start := UInt32.lt_iff_toNat_lt.mp one.2
  have whole : (size descriptor).toNat ≤ descriptor.length := by
    rw [size, UInt32.toNat_ofNat']
    exact Nat.mod_le _ _
  rw [blockLength, UInt32.toNat_sub_of_le _ _ (UInt32.le_of_lt one.2)] at long
  have nine : sizeofUsbdConfigDescriptor.toNat = 9 := rfl
  omega

/-- Every read of `GetConfigDescriptor` and of the parsers it calls lies inside
the vector, and no subtraction of theirs wraps. -/
def InBounds (usbd : Usbd) (dev : UsbDevice) (descriptor : List UInt8) (w : World) : Prop :=
  ∀ e, ¬ (getConfigDescriptor usbd true dev descriptor w).Faults e

/-- Reading stays in bounds exactly when there is no block to parse, or its
configuration descriptor is refused, or none of the searches the walk over it
begins falls short or begins past the end. -/
theorem inBounds_iff (usbd : Usbd) (dev : UsbDevice) (descriptor : List UInt8) (w : World) :
    InBounds usbd dev descriptor w ↔
      (ParsesBlock dev descriptor →
        ∀ cfg, Announces (block descriptor) (blockLength descriptor) cfg →
          ∀ walk, Walk.Reached true (block descriptor) (blockLength descriptor)
              cfg.bNumInterfaces.toNat walk →
            Walk.Begins (blockLength descriptor) cfg.bNumInterfaces.toNat walk →
              ¬ walk.FallsShort descriptor ∧
                ¬ Walk.BeginsPastEnd (blockLength descriptor) walk) := by
  unfold InBounds
  simp only [faults_getConfigDescriptor, faults_parseConfigDescriptor]
  constructor
  · intro safe one cfg announces walk reached begins
    have stopless : ¬ ∃ e, Walk.Stops true (block descriptor) (blockLength descriptor) e walk := by
      intro h
      obtain ⟨e, stops⟩ := h
      exact safe e ⟨one, .inr ⟨cfg, walk, announces, reached, begins, stops⟩⟩
    rw [Walk.exists_stops] at stopless
    exact ⟨fun short => stopless (.inl short), fun past => stopless (.inr past)⟩
  · intro safe e h
    obtain ⟨one, ⟨room, missing, _⟩ | ⟨cfg, walk, announces, reached, begins, stops⟩⟩ := h
    · exact configDescriptor_block room one missing
    · have clear := safe one cfg announces walk reached begins
      rcases (Walk.exists_stops walk).mp ⟨e, stops⟩ with short | past
      · exact clear.1 short
      · exact clear.2 past

/-- A raw descriptor whose only interface announces an endpoint and is followed
by one class-specific descriptor: the endpoint search steps to the end of the
vector and reads seven bytes there. -/
def endpointless : List UInt8 :=
  [18, 1, 0, 2, 0, 0, 0, 64, 52, 18, 1, 0, 0, 1, 0, 0, 0, 1] ++
    [9, 2, 23, 0, 1, 1, 0, 128, 50] ++ [9, 4, 0, 0, 1, 3, 0, 0, 0] ++ [5, 36, 0, 1, 2]

theorem not_inBounds_endpointless :
    ¬ ∀ usbd dev descriptor w, InBounds usbd dev descriptor w := by
  intro all
  refine all ⟨fun _ _ => { ret := .UEC_OK }⟩ { descConfigCount := 1 } endpointless {}
    .outOfBounds ?_
  rw [faults_getConfigDescriptor]
  exact ⟨by decide, 9, by decide +kernel⟩

end UsbService

end UsbManager

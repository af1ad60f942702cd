import UsbManager.Config

/-!
# Where the walk finds its descriptors

Over a byte vector the walk never leaves the vector, and what it records of its
searches gives the offsets of the descriptors it found.  `Follows` is the row
of descriptors that each `bLength` leads through, up to an INTERFACE
descriptor; an endpoint search that goes `Straight` stays in that row.
-/

namespace UsbManager

open Search

/-! ## Descriptors in a row -/

/-- The descriptor at offset `n` is no INTERFACE descriptor, and ends at `n'`. -/
def Follows (p : Ptr) (n n' : Nat) : Prop :=
  ∃ h, (p.add n).header = some h ∧ h.bDescriptorType ≠ DESCRIPTOR_TYPE_INTERFACE ∧
    n' = n + h.bLength.toNat

section

variable {p : Ptr} {n n' : Nat}

theorem follows_rightUnique (p : Ptr) : Relator.RightUnique (Follows p) := by
  intro n left right first second
  obtain ⟨h, header, _, rfl⟩ := first
  obtain ⟨h', header', _, rfl⟩ := second
  rw [Option.some.inj (header.symm.trans header')]

theorem le_of_follows (run : Relation.ReflTransGen (Follows p) n n') : n ≤ n' := by
  induction run with
  | refl => exact Nat.le_refl n
  | tail _ step ih =>
    obtain ⟨h, _, _, rfl⟩ := step
    omega

/-- Two offsets of one row are in its order. -/
theorem follows_of_lt {m : Nat} (left : Relation.ReflTransGen (Follows p) m n)
    (right : Relation.ReflTransGen (Follows p) m n') (less : n < n') :
    Relation.ReflTransGen (Follows p) n n' := by
  rcases Relation.ReflTransGen.total_of_right_unique (follows_rightUnique p) left right with
    forth | back
  · exact forth
  · have order := le_of_follows back
    omega

/-- A row that goes on goes over the descriptor at hand. -/
theorem follows_head (run : Relation.ReflTransGen (Follows p) n n') (ne : n ≠ n')
    {h : UsbdDescriptorHeader} (header : (p.add n).header = some h) :
    h.bDescriptorType ≠ DESCRIPTOR_TYPE_INTERFACE ∧
      Relation.ReflTransGen (Follows p) (n + h.bLength.toNat) n' := by
  rcases run.cases_head with same | ⟨m, ⟨h', header', other, rfl⟩, rest⟩
  · exact (ne same).elim
  · obtain rfl := Option.some.inj (header.symm.trans header')
    exact ⟨other, rest⟩

end

theorem Ptr.header_of_endpointDescriptor {p : Ptr} {d : UsbdEndpointDescriptor}
    (layout : p.endpointDescriptor = some d) : p.header = some ⟨d.bLength, d.bDescriptorType⟩ := by
  obtain ⟨first, at0, layout⟩ := Option.bind_eq_some_iff.mp layout
  obtain ⟨second, at1, layout⟩ := Option.bind_eq_some_iff.mp layout
  iterate 4 obtain ⟨_, _, layout⟩ := Option.bind_eq_some_iff.mp layout
  cases layout
  simp [Ptr.header, at0, at1]

theorem Ptr.header_of_interfaceDescriptor {p : Ptr} {d : UsbdInterfaceDescriptor}
    (layout : p.interfaceDescriptor = some d) : p.header = some ⟨d.bLength, d.bDescriptorType⟩ := by
  obtain ⟨first, at0, layout⟩ := Option.bind_eq_some_iff.mp layout
  obtain ⟨second, at1, layout⟩ := Option.bind_eq_some_iff.mp layout
  iterate 7 obtain ⟨_, _, layout⟩ := Option.bind_eq_some_iff.mp layout
  cases layout
  simp [Ptr.header, at0, at1]

/-! ## Searches over a byte vector -/

namespace Search

section

variable {δ : Type} {kind : Kind δ} {bytes : List UInt8} {n : Nat} {room c : UInt32}

/-- A structure that was read lies inside. -/
theorem le_of_layout {d : δ}
    (layout : kind.layout (((Ptr.ofList bytes).add n).add c.toNat) = some d) :
    n + c.toNat + kind.size.toNat ≤ bytes.length := by
  rw [Ptr.add_add] at layout
  have readable := (kind.missing bytes (n + c.toNat)).not.mp (by rw [layout]; exact nofun)
  omega

/-- A search that ends consumed no more than its room. -/
theorem Ends.le_room {found : Option δ} (ends : Ends kind ((Ptr.ofList bytes).add n) room c found)
    (whole : n + room.toNat = bytes.length) : c.toNat ≤ room.toNat := by
  cases ends with
  | empty _ => exact Nat.zero_le _
  | refused _ _ refuses => exact Nat.le_of_lt (UInt32.lt_iff_toNat_lt.mp refuses.1)
  | malformed _ _ _ layout =>
    have inside := le_of_layout layout
    omega
  | @found c d _ _ _ layout size =>
    have inside := le_of_layout layout
    rw [size, UInt32.toNat_add]
    have less := room.toNat_lt
    omega

/-- What a search found is a descriptor of the type looked for, just before the
end of what it consumed. -/
theorem Ends.found_at {d : δ} (ends : Ends kind ((Ptr.ofList bytes).add n) room c (some d))
    (whole : n + room.toNat = bytes.length) (sized : 0 < kind.size.toNat) :
    ∃ c₀ : UInt32, c.toNat = c₀.toNat + kind.size.toNat ∧
      Visits kind ((Ptr.ofList bytes).add n) room c₀ ∧
      kind.layout ((Ptr.ofList bytes).add (n + c₀.toNat)) = some d ∧
      (kind.bLength d).toUInt32 = kind.size ∧
      ∃ h, ((Ptr.ofList bytes).add (n + c₀.toNat)).header = some h ∧
        h.bDescriptorType = kind.goal := by
  cases ends with
  | @found c₀ _ _ visits arrives layout size =>
    have inside := le_of_layout layout
    have less := room.toNat_lt
    rw [Ptr.add_add] at layout
    refine ⟨c₀, ?_, visits, layout, size, ?_⟩
    · rw [size, UInt32.toNat_add]
      omega
    · rcases arrives with past | ⟨_, _, h, header, _, goal⟩
      · have behind := UInt32.le_iff_toNat_le.mp past
        omega
      · rw [headerAt, Ptr.add_add] at header
        exact ⟨h, header, goal⟩

end

/-! ### Endpoint searches in a row -/

section

variable {p : Ptr} {n m : Nat} {room c : UInt32}

/-- An endpoint search steps over no INTERFACE descriptor, and its 32-bit
cursor does not wrap. -/
def Straight (start : Ptr) (room : UInt32) : Prop :=
  ∀ c c', Visits endpointKind start room c → Steps endpointKind start room c c' →
    c ≤ c' ∧ ∀ h, headerAt start c = some h → h.bDescriptorType ≠ DESCRIPTOR_TYPE_INTERFACE

/-- A straight search visits the descriptors of the row it begins in. -/
theorem follows_of_visits (straight : Straight (p.add n) room)
    (visits : Visits endpointKind (p.add n) room c) :
    Relation.ReflTransGen (Follows p) n (n + c.toNat) := by
  induction visits with
  | refl => exact .refl
  | @tail c c' visits step ih =>
    obtain ⟨forward, other⟩ := straight c c' visits step
    obtain ⟨_, _, h, header, _, _, rfl⟩ := step
    have less := UInt32.le_iff_toNat_le.mp forward
    rw [UInt32.toNat_add, UInt8.toNat_toUInt32] at less ⊢
    refine ih.tail ⟨h, ?_, other h header, ?_⟩
    · rw [← Ptr.add_add]
      exact header
    · have small := h.bLength.toNat_lt
      have cursor := c.toNat_lt
      omega

/-- A search that begins in the row of an ENDPOINT descriptor does not leave
the row before it comes there. -/
theorem visits_follows (row : Relation.ReflTransGen (Follows p) n m)
    {h : UsbdDescriptorHeader} (header : (p.add m).header = some h)
    (goal : h.bDescriptorType = DESCRIPTOR_TYPE_ENDPOINT) (small : m < 4294967296)
    (visits : Visits endpointKind (p.add n) room c) :
    Relation.ReflTransGen (Follows p) (n + c.toNat) m := by
  induction visits with
  | refl => exact row
  | @tail c c' visits step ih =>
    obtain ⟨_, _, h', header', _, other, rfl⟩ := step
    rw [headerAt, Ptr.add_add] at header'
    have before : n + c.toNat ≠ m := by
      intro same
      rw [same] at header'
      obtain rfl := Option.some.inj (header.symm.trans header')
      exact other goal
    have rest := (follows_head ih before header').2
    have order := le_of_follows rest
    rwa [UInt32.toNat_add, UInt8.toNat_toUInt32, Nat.mod_eq_of_lt (by omega), ← Nat.add_assoc]

/-- Such a search goes straight. -/
theorem straight_of_follows (row : Relation.ReflTransGen (Follows p) n m)
    {h : UsbdDescriptorHeader} (header : (p.add m).header = some h)
    (goal : h.bDescriptorType = DESCRIPTOR_TYPE_ENDPOINT) (small : m < 4294967296) :
    Straight (p.add n) room := by
  intro c c' visits step
  have here := visits_follows row header goal small visits
  have there := le_of_follows (visits_follows row header goal small (visits.tail step))
  obtain ⟨_, _, h', header', _, other, rfl⟩ := step
  rw [headerAt, Ptr.add_add] at header'
  have before : n + c.toNat ≠ m := by
    intro same
    rw [same] at header'
    obtain rfl := Option.some.inj (header.symm.trans header')
    exact other goal
  obtain ⟨kind, rest⟩ := follows_head here before header'
  have order := le_of_follows rest
  refine ⟨?_, ?_⟩
  · rw [UInt32.le_iff_toNat_le, UInt32.toNat_add, UInt8.toNat_toUInt32,
      Nat.mod_eq_of_lt (by omega)]
    omega
  · intro h'' header''
    rw [headerAt, Ptr.add_add] at header''
    rwa [← Option.some.inj (header'.symm.trans header'')]

end

end Search

/-! ## The record of a walk -/

namespace Walk

section

variable {bytes : List UInt8} {length : UInt32} {count : Nat}

/-- The room of an endpoint search is what the vector has behind its start. -/
theorem whole_room (exact : length.toNat = bytes.length) {start k : UInt32}
    (inside : start.toNat + k.toNat ≤ length.toNat) :
    start.toNat + k.toNat + (length - start - k).toNat = bytes.length := by
  have first : (length - start).toNat = length.toNat - start.toNat :=
    UInt32.toNat_sub_of_le _ _ (UInt32.le_iff_toNat_le.mpr (by omega))
  rw [UInt32.toNat_sub_of_le _ _ (UInt32.le_iff_toNat_le.mpr (by omega)), first]
  omega

/-- An endpoint search that found a descriptor consumed it. -/
theorem endpointSearch_found (exact : length.toNat = bytes.length) {start k e : UInt32}
    {d : UsbdEndpointDescriptor} (inside : start.toNat + k.toNat ≤ length.toNat)
    (search : EndpointSearch (Ptr.ofList bytes) length start k e (some d)) :
    ∃ c₀ : UInt32, start.toNat + (k + e).toNat = start.toNat + k.toNat + c₀.toNat + 7 ∧
      Visits endpointKind ((Ptr.ofList bytes).add (start.toNat + k.toNat)) (length - start - k) c₀ ∧
      ((Ptr.ofList bytes).add (start.toNat + k.toNat + c₀.toNat)).endpointDescriptor = some d ∧
      d.bLength = 7 ∧ d.bDescriptorType = DESCRIPTOR_TYPE_ENDPOINT := by
  have whole := whole_room exact inside
  have most := search.le_room whole
  have length32 := length.toNat_lt
  obtain ⟨c₀, consumed, visits, layout, seven, h, header, goal⟩ := search.found_at whole (by decide)
  have size : endpointKind.size.toNat = 7 := rfl
  have same := Option.some.inj (header.symm.trans (Ptr.header_of_endpointDescriptor layout))
  refine ⟨c₀, ?_, visits, layout, ?_, ?_⟩
  · rw [UInt32.toNat_add]
    omega
  · rw [← UInt8.toNat_inj, ← UInt8.toNat_toUInt32]
    exact congrArg UInt32.toNat seven
  · rw [same] at goal
    exact goal

/-- The endpoint searches of a pass, from `k` to `k'` bytes behind its start. -/
def Searched (p : Ptr) (length start : UInt32) : UInt32 → List EndpointSource → UInt32 → Prop
  | k, [], k' => k = k'
  | k, source :: sources, k' =>
    source.start = k ∧ EndpointSearch p length start k source.consumed source.found ∧
      Searched p length start (k + source.consumed) sources k'

theorem Searched.append {p : Ptr} {start e : UInt32} {found : Option UsbdEndpointDescriptor}
    {sources : List EndpointSource} :
    ∀ {k k' : UInt32}, Searched p length start k sources k' →
      EndpointSearch p length start k' e found →
      Searched p length start k (sources ++ [{ start := k', consumed := e, found }]) (k' + e) := by
  induction sources with
  | nil =>
    intro k k' searched search
    obtain rfl : k = k' := searched
    exact ⟨rfl, search, rfl⟩
  | cons source sources ih =>
    intro k k' searched search
    exact ⟨searched.1, searched.2.1, ih searched.2.2 search⟩

/-- The search that opened a pass, and the searches for its endpoints. -/
def Opened (p : Ptr) (length : UInt32) (source : InterfaceSource) (k : UInt32) : Prop :=
  source.start.toNat < length.toNat ∧
    InterfaceSearch p length source.start source.consumed (some source.descriptor) ∧
    Searched p length source.start source.consumed source.endpoints k

/-- The walk is inside the block, and recorded its searches. -/
def Traced (p : Ptr) (length : UInt32) : Walk → Prop
  | .interfaces listed s =>
    s.toNat ≤ length.toNat ∧ ∀ source ∈ listed, ∃ k, Opened p length source k
  | .endpoints listed current k =>
    current.start.toNat + k.toNat ≤ length.toNat ∧ Opened p length current k ∧
      ∀ source ∈ listed, ∃ k, Opened p length source k

/-- Each step of a walk over a whole byte vector is recorded. -/
theorem Step.traced (exact : length.toNat = bytes.length) {w w' : Walk}
    (step : Step false (Ptr.ofList bytes) length count w w')
    (before : w.Traced (Ptr.ofList bytes) length) : w'.Traced (Ptr.ofList bytes) length := by
  have length32 := length.toNat_lt
  cases step with
  | @skip listed s c begins search =>
    obtain ⟨inside, earlier⟩ := before
    have room := UInt32.toNat_sub_of_le length s (UInt32.le_iff_toNat_le.mpr inside)
    have most := search.le_room (by omega)
    refine ⟨?_, earlier⟩
    rw [UInt32.toNat_add]
    omega
  | @opened listed s c d begins search =>
    obtain ⟨inside, earlier⟩ := before
    have room := UInt32.toNat_sub_of_le length s (UInt32.le_iff_toNat_le.mpr inside)
    have most := search.le_room (by omega)
    exact ⟨by dsimp only; omega,
      ⟨UInt32.lt_iff_toNat_lt.mp begins.2, search, rfl⟩, earlier⟩
  | @endpoint listed current k e found begins _ search =>
    obtain ⟨inside, ⟨start, opened, searched⟩, earlier⟩ := before
    have whole := whole_room exact inside
    have most := search.le_room whole
    refine ⟨?_, ⟨start, opened, searched.append search⟩, earlier⟩
    simp only [InterfaceSource.more]
    rw [UInt32.toNat_add]
    omega
  | @closed listed current k ended =>
    obtain ⟨inside, opened, earlier⟩ := before
    refine ⟨?_, ?_⟩
    · rw [UInt32.toNat_add]
      omega
    · intro source there
      unfold InterfaceSource.list at there
      split at there
      · exact earlier source there
      · rcases List.mem_append.mp there with old | new
        · exact earlier source old
        · rw [List.mem_singleton.mp new]
          exact ⟨k, opened⟩

theorem Reached.traced (exact : length.toNat = bytes.length) (enough : 9 ≤ length.toNat) {w : Walk}
    (reached : Reached false (Ptr.ofList bytes) length count w) :
    w.Traced (Ptr.ofList bytes) length := by
  induction reached with
  | refl => exact ⟨enough, fun _ there => nomatch there⟩
  | tail _ step ih => exact step.traced exact ih

end

end Walk

end UsbManager

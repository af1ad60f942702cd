import UsbManager.Trace

/-!
# Where the endpoints of a configuration come from

`ParseInterfaceDescriptor` stores one endpoint for each announced one whatever
`ParseEndpointDescriptor` answers, and its searches go over INTERFACE
descriptors.  Every endpoint therefore stands for an ENDPOINT descriptor behind
its INTERFACE descriptor and before the next one exactly when every endpoint
search ends at a descriptor and stays before the next INTERFACE descriptor
(`attributed_iff`).
-/

namespace UsbManager

open UsbDescriptorParser Search

/-! ## Attribution -/

/-- At offset `n` an ENDPOINT descriptor of 7 bytes holds the endpoint's values. -/
def Describes (p : Ptr) (n : Nat) (ep : USBEndpoint) : Prop :=
  ∃ d, (p.add n).endpointDescriptor = some d ∧ d.bLength = 7 ∧
    d.bDescriptorType = DESCRIPTOR_TYPE_ENDPOINT ∧
    ep.address = d.bEndpointAddress.toUInt32 ∧ ep.attributes = d.bmAttributes.toUInt32 ∧
    ep.interval = int32OfByte d.bInterval ∧ ep.maxPacketSize = int32OfWord d.wMaxPacketSize

/-- The offset behind the INTERFACE descriptor of an interface. -/
def InterfaceSource.behind (source : InterfaceSource) : Nat :=
  source.start.toNat + source.consumed.toNat

/-- The endpoints of an interface come from offsets behind its INTERFACE
descriptor and before the next one. -/
structure Located (p : Ptr) (source : InterfaceSource) (offsets : List Nat) : Prop where
  interface : ∃ n, source.behind = n + 9 ∧ (p.add n).interfaceDescriptor = some source.descriptor ∧
    source.descriptor.bLength = 9 ∧ source.descriptor.bDescriptorType = DESCRIPTOR_TYPE_INTERFACE
  endpoints : List.Forall₂ (Describes p) offsets source.interface.endpoints
  between : ∀ n ∈ offsets, Relation.ReflTransGen (Follows p) source.behind n

/-- Every endpoint of the configuration comes from an ENDPOINT descriptor under
its interface, and their offsets increase. -/
def Attributed (p : Ptr) (length cursor : UInt32) (config : USBConfig) : Prop :=
  ∃ cfg listed, Announces p length cfg ∧
    Walk.Reached false p length cfg.bNumInterfaces.toNat (.interfaces listed cursor) ∧
    ¬ Walk.Begins length cfg.bNumInterfaces.toNat (.interfaces listed cursor) ∧
    config = configuration cfg listed ∧
    ∃ offsets : List (List Nat), offsets.flatten.Pairwise (· < ·) ∧
      List.Forall₂ (Located p) listed offsets

/-- Every endpoint search of the walk ends at a descriptor, and goes straight there. -/
def Walk.FindsEach (p : Ptr) (length : UInt32) (count : Nat) : Prop :=
  ∀ listed current k, Reached false p length count (.endpoints listed current k) →
    Begins length count (.endpoints listed current k) →
    (∀ e, ¬ EndpointSearch p length current.start k e none) ∧
      Straight (p.add (current.start.toNat + k.toNat)) (length - current.start - k)

/-! ## Attributed endpoints were found -/

section

variable {bytes : List UInt8} {length : UInt32} {count : Nat} {d : UsbdInterfaceDescriptor}

/-- An endpoint with the values of a descriptor was found by its search. -/
theorem found_of_describes {p : Ptr} {n : Nat} {source : EndpointSource}
    (describes : Describes p n (source.endpoint d)) : ∃ found, source.found = some found := by
  rw [← Option.ne_none_iff_exists']
  intro none
  obtain ⟨d', _, _, _, _, _, interval, _⟩ := describes
  rw [EndpointSource.endpoint, none] at interval
  exact int32OfByte_ne_invalid d'.bInterval interval.symm

theorem lt_of_describes {n : Nat} {ep : USBEndpoint}
    (describes : Describes (Ptr.ofList bytes) n ep) : n + 7 ≤ bytes.length := by
  obtain ⟨d', layout, _⟩ := describes
  have readable := (Ptr.endpointDescriptor_eq_none bytes n).not.mp (by rw [layout]; exact nofun)
  omega

/-- Searches whose endpoints have descriptors in the row they begin in found
some, and went straight. -/
theorem finds_of_searched (exact : length.toNat = bytes.length) {start : UInt32}
    {sources : List EndpointSource} :
    ∀ {k k' : UInt32} {offsets : List Nat}, start.toNat + k.toNat ≤ length.toNat →
      Walk.Searched (Ptr.ofList bytes) length start k sources k' →
      List.Forall₂ (Describes (Ptr.ofList bytes)) offsets
        (sources.map (EndpointSource.endpoint d)) →
      offsets.Pairwise (· < ·) →
      (∀ n ∈ offsets,
        Relation.ReflTransGen (Follows (Ptr.ofList bytes)) (start.toNat + k.toNat) n) →
      ∀ source ∈ sources, source.found ≠ none ∧
        Straight ((Ptr.ofList bytes).add (start.toNat + source.start.toNat))
          (length - start - source.start) := by
  have length32 := length.toNat_lt
  induction sources with
  | nil => exact fun _ _ _ _ _ _ there => nomatch there
  | cons source sources ih =>
    intro k k' offsets inside searched each increasing rows
    obtain ⟨rfl, search, rest⟩ := searched
    obtain ⟨n, offsets, describes, others, rfl⟩ := List.forall₂_cons_right_iff.mp each
    obtain ⟨least, increasing⟩ := List.pairwise_cons.mp increasing
    obtain ⟨found, same⟩ := found_of_describes describes
    have small := lt_of_describes describes
    obtain ⟨d', layout, _, goal, _⟩ := describes
    have header := Ptr.header_of_endpointDescriptor layout
    have row := rows n List.mem_cons_self
    have straight : Straight _ (length - start - source.start) :=
      straight_of_follows row header goal (by omega)
    -- The search stops at or before the descriptor of the endpoint.
    rw [same] at search
    obtain ⟨c₀, next, visits, layout', seven, _⟩ := Walk.endpointSearch_found exact inside search
    have onward := visits_follows row header goal (by omega) visits
    have early := le_of_follows onward
    intro source' there
    rcases List.mem_cons.mp there with rfl | there
    · rw [same]
      exact ⟨nofun, straight⟩
    · refine ih (by omega) rest others increasing ?_ source' there
      intro n' there'
      have later := least n' there'
      have run := onward.trans (follows_of_lt row (rows n' (List.mem_cons_of_mem _ there')) later)
      have behind := (follows_head run (by omega) (Ptr.header_of_endpointDescriptor layout')).2
      rw [seven] at behind
      rwa [next]

/-! ### What is recorded stays recorded -/

/-- A search made in the pass that began at `start` is in the record. -/
def Walk.Records (start : UInt32) (source : EndpointSource) : Walk → Prop
  | .interfaces listed _ => ∃ i ∈ listed, i.start = start ∧ source ∈ i.endpoints
  | .endpoints listed current _ =>
    (∃ i ∈ listed, i.start = start ∧ source ∈ i.endpoints) ∨
      current.start = start ∧ source ∈ current.endpoints

theorem Walk.Step.records {trap : Bool} {p : Ptr} {w w' : Walk}
    (step : Step trap p length count w w') {start : UInt32} {source : EndpointSource}
    (before : w.Records start source) : w'.Records start source := by
  cases step with
  | skip => exact before
  | opened => exact .inl before
  | endpoint =>
    rcases before with old | ⟨rfl, there⟩
    · exact .inl old
    · exact .inr ⟨rfl, List.mem_append_left _ there⟩
  | @closed listed current k ended =>
    rcases before with ⟨i, there, rest⟩ | ⟨rfl, there⟩
    · refine ⟨i, ?_, rest⟩
      unfold InterfaceSource.list
      split
      · exact there
      · exact List.mem_append_left _ there
    · refine ⟨current, ?_, rfl, there⟩
      rw [InterfaceSource.list, if_neg (List.ne_nil_of_mem there)]
      exact List.mem_append_right _ (List.mem_singleton_self current)

theorem Walk.records_of_steps {trap : Bool} {p : Ptr} {w w' : Walk}
    (run : Relation.ReflTransGen (Step trap p length count) w w') {start : UInt32}
    {source : EndpointSource} (before : w.Records start source) : w'.Records start source := by
  induction run with
  | refl => exact before
  | tail _ step ih => exact step.records ih

/-- Each search a walk makes is in the record of its end. -/
theorem Walk.recorded_of_ended {p : Ptr} {listed listed' : List InterfaceSource} {s k : UInt32}
    {current : InterfaceSource}
    (final : Reached false p length count (.interfaces listed s))
    (ended : ¬ Begins length count (.interfaces listed s))
    (reached : Reached false p length count (.endpoints listed' current k))
    (begins : Begins length count (.endpoints listed' current k)) :
    ∃ e found, EndpointSearch p length current.start k e found ∧
      ∃ i ∈ listed, i.start = current.start ∧
        { start := k, consumed := e, found } ∈ i.endpoints := by
  have onward : Relation.ReflTransGen (Step false p length count) (.endpoints listed' current k)
      (.interfaces listed s) := by
    rcases Relation.ReflTransGen.total_of_right_unique step_rightUnique reached final with
      forth | back
    · exact forth
    · rcases back.cases_head with same | ⟨_, step, _⟩
      · exact nomatch same
      · cases step with
        | skip goesOn => exact (ended goesOn).elim
        | opened goesOn => exact (ended goesOn).elim
  rcases onward.cases_head with same | ⟨w, step, rest⟩
  · exact nomatch same
  cases step with
  | @endpoint _ _ _ e found _ _ search =>
    refine ⟨e, found, search, records_of_steps rest (.inr ⟨rfl, ?_⟩)⟩
    exact List.mem_append_right _ (List.mem_singleton_self _)
  | closed complete => exact (complete begins).elim

/-- Attributed endpoints were found by searches that went straight. -/
theorem findsEach_of_attributed (exact : length.toNat = bytes.length) {cursor : UInt32}
    {config : USBConfig} (attributed : Attributed (Ptr.ofList bytes) length cursor config)
    {cfg : UsbdConfigDescriptor} (announces : Announces (Ptr.ofList bytes) length cfg) :
    Walk.FindsEach (Ptr.ofList bytes) length cfg.bNumInterfaces.toNat := by
  obtain ⟨cfg', listed, announces', final, ended, _, offsets, increasing, located⟩ := attributed
  obtain rfl := Option.some.inj (announces.2.1.symm.trans announces'.2.1)
  have enough : 9 ≤ length.toNat := UInt32.le_iff_toNat_le.mp announces.1
  obtain ⟨_, traced⟩ := final.traced exact enough
  intro listed' current k reached begins
  obtain ⟨e, found, search, i, there, same, recorded⟩ :=
    Walk.recorded_of_ended final ended reached begins
  obtain ⟨k', start, opened, searched⟩ := traced i there
  obtain ⟨m, small, rfl⟩ := List.getElem_of_mem there
  have locates := located.get small (located.length_eq ▸ small)
  simp only [List.get_eq_getElem] at locates
  have sorted := (List.pairwise_flatten.mp increasing).1 _
    (List.getElem_mem (located.length_eq ▸ small))
  have room : (length - listed[m].start).toNat = length.toNat - listed[m].start.toNat :=
    UInt32.toNat_sub_of_le _ _ (UInt32.le_iff_toNat_le.mpr (Nat.le_of_lt start))
  have most := opened.le_room (by omega)
  obtain ⟨some, straight⟩ := finds_of_searched exact (by omega) searched locates.endpoints sorted
    locates.between _ recorded
  rw [same] at straight
  refine ⟨?_, straight⟩
  intro e' none
  exact some (search.unique none).2

/-! ## Found endpoints are attributed -/

/-- The offsets of what the walk found so far, in order. -/
def Walk.Offsets (p : Ptr) : Walk → Prop
  | .interfaces listed s => ∃ offsets : List (List Nat), offsets.flatten.Pairwise (· < ·) ∧
      (∀ n ∈ offsets.flatten, n < s.toNat) ∧ List.Forall₂ (Located p) listed offsets
  | .endpoints listed current k => ∃ (offsets : List (List Nat)) (own : List Nat),
      (offsets ++ [own]).flatten.Pairwise (· < ·) ∧
      (∀ n ∈ (offsets ++ [own]).flatten, n < current.start.toNat + k.toNat) ∧
      List.Forall₂ (Located p) listed offsets ∧ Located p current own ∧
      Relation.ReflTransGen (Follows p) current.behind (current.start.toNat + k.toNat)

/-- An INTERFACE descriptor that was found opens an interface without endpoints. -/
theorem located_of_search {s c : UInt32} (inside : s.toNat ≤ length.toNat)
    (exact : length.toNat = bytes.length)
    (search : Walk.InterfaceSearch (Ptr.ofList bytes) length s c (some d)) :
    Located (Ptr.ofList bytes) { start := s, consumed := c, descriptor := d } [] := by
  have room := UInt32.toNat_sub_of_le length s (UInt32.le_iff_toNat_le.mpr inside)
  obtain ⟨c₀, consumed, _, layout, nine, h, header, goal⟩ :=
    Ends.found_at search (by omega) (by decide)
  have same := Option.some.inj (header.symm.trans (Ptr.header_of_interfaceDescriptor layout))
  refine
    { interface := ⟨s.toNat + c₀.toNat, ?_, layout, ?_, ?_⟩, endpoints := .nil, between := nofun }
  · rw [InterfaceSource.behind, consumed]
    rfl
  · rw [← UInt8.toNat_inj, ← UInt8.toNat_toUInt32]
    exact congrArg UInt32.toNat nine
  · rw [same] at goal
    exact goal

theorem Walk.Step.offsets (exact : length.toNat = bytes.length)
    (finds : FindsEach (Ptr.ofList bytes) length count) {w w' : Walk}
    (reached : Reached false (Ptr.ofList bytes) length count w)
    (traced : w.Traced (Ptr.ofList bytes) length)
    (step : Step false (Ptr.ofList bytes) length count w w')
    (before : w.Offsets (Ptr.ofList bytes)) : w'.Offsets (Ptr.ofList bytes) := by
  have length32 := length.toNat_lt
  cases step with
  | @skip listed s c begins search =>
    obtain ⟨offsets, increasing, below, located⟩ := before
    have room := UInt32.toNat_sub_of_le length s (UInt32.le_iff_toNat_le.mpr traced.1)
    have inside := traced.1
    have most := search.le_room (by omega)
    refine ⟨offsets, increasing, ?_, located⟩
    intro n there
    have less := below n there
    rw [UInt32.toNat_add]
    omega
  | @opened listed s c d begins search =>
    obtain ⟨offsets, increasing, below, located⟩ := before
    refine ⟨offsets, [], ?_, ?_, located, located_of_search traced.1 exact search, .refl⟩
    · simpa using increasing
    · intro n there
      have less := below n (by simpa using there)
      dsimp only
      omega
  | @endpoint listed current k e found begins _ search =>
    obtain ⟨offsets, own, increasing, below, located, locates, row⟩ := before
    obtain ⟨never, straight⟩ := finds listed current k reached begins
    obtain ⟨found, rfl⟩ : ∃ d, found = some d := by
      rw [← Option.ne_none_iff_exists']
      intro none
      exact never e (none ▸ search)
    obtain ⟨c₀, next, visits, layout, seven, goal⟩ := endpointSearch_found exact traced.1 search
    have run := row.trans (follows_of_visits straight visits)
    have header := Ptr.header_of_endpointDescriptor layout
    have here : Describes (Ptr.ofList bytes) (current.start.toNat + k.toNat + c₀.toNat)
        (EndpointSource.endpoint current.descriptor ⟨k, e, some found⟩) :=
      ⟨found, layout, seven, goal, rfl, rfl, rfl, rfl⟩
    refine ⟨offsets, own ++ [current.start.toNat + k.toNat + c₀.toNat], ?_, ?_, located,
      { interface := locates.interface, endpoints := ?_, between := ?_ }, ?_⟩
    · rw [List.flatten_append, List.flatten_singleton] at increasing below ⊢
      rw [← List.append_assoc, List.pairwise_append]
      refine ⟨increasing, List.pairwise_singleton _ _, ?_⟩
      intro n there n' last
      rw [List.mem_singleton.mp last]
      have less := below n there
      omega
    · rw [List.flatten_append, List.flatten_singleton] at below ⊢
      rw [← List.append_assoc]
      intro n there
      simp only [InterfaceSource.more, next]
      rcases List.mem_append.mp there with old | new
      · have less := below n old
        omega
      · rw [List.mem_singleton.mp new]
        omega
    · simp only [InterfaceSource.interface, InterfaceSource.more, List.map_append,
        List.map_singleton]
      exact List.rel_append locates.endpoints (.cons here .nil)
    · intro n there
      rcases List.mem_append.mp there with old | new
      · exact locates.between n old
      · rw [List.mem_singleton.mp new]
        exact run
    · simp only [InterfaceSource.more, next]
      rw [seven, goal] at header
      exact run.tail ⟨_, header, (by decide : DESCRIPTOR_TYPE_ENDPOINT ≠ _), rfl⟩
  | @closed listed current k ended =>
    obtain ⟨offsets, own, increasing, below, located, locates, row⟩ := before
    have inside := traced.1
    have same : (current.start + k).toNat = current.start.toNat + k.toNat := by
      rw [UInt32.toNat_add]
      omega
    by_cases none : current.endpoints = []
    · have empty : own = [] := by
        have lengths := locates.endpoints.length_eq
        rw [InterfaceSource.interface, none] at lengths
        exact List.length_eq_zero_iff.mp lengths
      rw [empty, List.flatten_append] at increasing below
      rw [InterfaceSource.list, if_pos none]
      refine ⟨offsets, by simpa using increasing, ?_, located⟩
      rw [same]
      simpa using below
    · rw [InterfaceSource.list, if_neg none]
      refine ⟨offsets ++ [own], increasing, ?_, List.rel_append located (.cons locates .nil)⟩
      rw [same]
      exact below

theorem Walk.Reached.offsets (exact : length.toNat = bytes.length) (enough : 9 ≤ length.toNat)
    (finds : FindsEach (Ptr.ofList bytes) length count) {w : Walk}
    (reached : Reached false (Ptr.ofList bytes) length count w) : w.Offsets (Ptr.ofList bytes) := by
  induction reached with
  | refl => exact ⟨[], .nil, nofun, .nil⟩
  | tail before step ih =>
    exact step.offsets exact finds before (Reached.traced exact enough before) ih

/-- A configuration is attributed exactly when every endpoint search of its
walk ends at a descriptor, without stepping over an INTERFACE descriptor and
without its cursor wrapping. -/
theorem attributed_iff (bytes : List UInt8) (length : UInt32)
    (exact : length.toNat = bytes.length) (cursor : UInt32) (config : USBConfig)
    (parsed : (parseConfigDescriptor false (some (Ptr.ofList bytes)) length 0 {}).Returns
      (.UEC_OK, cursor, config)) :
    Attributed (Ptr.ofList bytes) length cursor config ↔
      ∀ cfg, Announces (Ptr.ofList bytes) length cfg →
        Walk.FindsEach (Ptr.ofList bytes) length cfg.bNumInterfaces.toNat := by
  constructor
  · exact fun attributed _ announces => findsEach_of_attributed exact attributed announces
  · intro finds
    obtain ⟨cfg, listed, announces, reached, ended, rfl⟩ :=
      returns_parseConfigDescriptor_ok.mp parsed
    have enough : 9 ≤ length.toNat := UInt32.le_iff_toNat_le.mp announces.1
    obtain ⟨offsets, increasing, _, located⟩ := reached.offsets exact enough (finds cfg announces)
    exact ⟨cfg, listed, announces, reached, ended, rfl, offsets, increasing, located⟩

end

/-- An interface with one endpoint. -/
def oneEndpoint : List UInt8 :=
  [9, 2, 25, 0, 1, 1, 0, 128, 50, 9, 4, 0, 0, 1, 8, 6, 80, 0, 7, 5, 129, 2, 0, 2, 0]

theorem attributed_oneEndpoint :
    Attributed (Ptr.ofList oneEndpoint) 25 25
        { id := 1, attributes := 128, maxPower := 50, iConfiguration := 0,
          interfaces := [
            { id := 0, alternateSetting := 0, klass := 8, subClass := 6, protocol := 80,
              iInterface := 0,
              endpoints := [
                { address := 129, attributes := 2, interval := 0, maxPacketSize := 512,
                  interfaceId := 0 }] }] } ↔
      ∀ cfg, Announces (Ptr.ofList oneEndpoint) 25 cfg →
        Walk.FindsEach (Ptr.ofList oneEndpoint) 25 cfg.bNumInterfaces.toNat :=
  attributed_iff oneEndpoint 25 rfl 25 _ ⟨4, by decide⟩

/-- An endpoint of an attributed configuration has the interval of a descriptor. -/
theorem Attributed.interval_ne {p : Ptr} {length cursor : UInt32} {config : USBConfig}
    (attributed : Attributed p length cursor config) :
    ∀ interface ∈ config.interfaces, ∀ ep ∈ interface.endpoints,
      ep.interval ≠ INVALID_USB_INT_VALUE := by
  obtain ⟨cfg, listed, _, _, _, rfl, offsets, _, located⟩ := attributed
  intro interface there ep own
  obtain ⟨source, member, rfl⟩ := List.mem_map.mp there
  obtain ⟨m, small, rfl⟩ := List.getElem_of_mem member
  have locates := located.get small (located.length_eq ▸ small)
  obtain ⟨i, small', rfl⟩ := List.getElem_of_mem own
  have describes := locates.endpoints.get (locates.endpoints.length_eq ▸ small') small'
  obtain ⟨d, _, _, _, _, _, interval, _⟩ := describes
  simp only [List.get_eq_getElem] at interval
  rw [interval]
  exact int32OfByte_ne_invalid d.bInterval

/-- An interface that announces an endpoint and is followed by nothing. -/
def noEndpoint : List UInt8 :=
  [9, 2, 18, 0, 1, 1, 0, 128, 50, 9, 4, 0, 0, 1, 8, 6, 80, 0]

/-- The endpoint of such an interface is made up. -/
theorem not_attributed_noEndpoint :
    ∃ config,
      (parseConfigDescriptor false (some (Ptr.ofList noEndpoint)) 18 0 {}).Returns
        (.UEC_OK, 18, config) ∧
      ¬ Attributed (Ptr.ofList noEndpoint) 18 18 config := by
  refine ⟨{ id := 1, attributes := 128, maxPower := 50, iConfiguration := 0,
            interfaces := [
              { id := 0, alternateSetting := 0, klass := 8, subClass := 6, protocol := 80,
                iInterface := 0, endpoints := [{ interfaceId := 0 }] }] }, ⟨4, by decide⟩, ?_⟩
  intro attributed
  exact attributed.interval_ne _ (List.mem_singleton_self _) _ (List.mem_singleton_self _) rfl

end UsbManager

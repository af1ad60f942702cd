import UsbManager.Hostile
import UsbManager.Transparency
import UsbManager.WordParcel

/-!
# Requests with shifted arguments

Where `SetDeviceMessage` fails and its result is ignored, the request is sent
without the device or without its address, and every later argument stands in
the place of another.  Whether the stub can still read the request depends on how
values stand in a parcel: of a parcel of words (`Wordwise`) a request without
buffers and objects is too short, but one with buffers may be read to the end
(`unshifted_iff`).
-/

namespace UsbManager

/-! ## What can be read from words -/

/-- The words begin with this many buffers, each with its length in front of it. -/
def readsBuffers : Nat → List UInt32 → Bool
  | 0, _ => true
  | _ + 1, [] => false
  | m + 1, n :: words =>
    Words.wordCount n.toNat ≤ words.length && readsBuffers m (words.drop (Words.wordCount n.toNat))

/-- This many 8-bit numbers can be read. -/
def readsBytes {β : Type} (data : MessageParcel β) : Nat → List β → Bool
  | 0, _ => true
  | n + 1, contents =>
    match data.read .uint8 contents with
    | (none, _) => false
    | (some _, rest) => readsBytes data n rest

/-- The words a buffer is sent as. -/
def bufferWords (bufferData : List UInt8) : List UInt32 :=
  bufferLength bufferData :: Words.wordsOf (sentBuffer bufferData).val

/-! ## What a shifted request can be read as -/

namespace DeviceRequest

def buffers : DeviceRequest → List (List UInt8)
  | bulkTransferWrite _ _ bufferData _ => [bufferData]
  | controlTransfer _ _ bufferData => [bufferData]
  | requestQueue _ _ clientData bufferData => [clientData, bufferData]
  | _ => []

def object : DeviceRequest → List Argument
  | regBulkCallback _ _ cb => objectArguments .remoteObject cb
  | bulkRead _ _ ashmem => objectArguments .ashmem ashmem
  | bulkWrite _ _ ashmem => objectArguments .ashmem ashmem
  | _ => []

/-- The numbers after the device. -/
def numbers : DeviceRequest → List Argument
  | bulkTransferWrite _ pipe _ timeOut => pipeArguments pipe ++ [⟨.int32, timeOut⟩]
  | controlTransfer _ ctrl _ =>
    [⟨.int32, ctrl.requestType⟩, ⟨.int32, ctrl.requestCmd⟩, ⟨.int32, ctrl.value⟩,
      ⟨.int32, ctrl.index⟩, ⟨.int32, ctrl.timeout⟩]
  | requestQueue _ pipe _ _ => pipeArguments pipe
  | regBulkCallback _ pipe _ => pipeArguments pipe
  | bulkRead _ pipe _ => pipeArguments pipe
  | bulkWrite _ pipe _ => pipeArguments pipe
  | request => request.arguments

/-- Without so many bytes of the device the request can be read as one of the same
method: what is sent for its buffers reads as buffers without as many of its first
words, or that many 8-bit numbers can be read from its object. -/
def Misread {β : Type} (data : MessageParcel β) (units : (t : ParcelType) → t.Value → List β)
    (missing : Nat) (request : DeviceRequest) : Prop :=
  (request.buffers ≠ [] ∧ readsBuffers request.buffers.length
    ((request.buffers.flatMap bufferWords).drop missing) = true) ∨
  ∃ object ∈ request.object, readsBytes data missing (units object.1 object.2) = true

theorem arguments_eq (request : DeviceRequest) :
    request.arguments =
      request.numbers ++ (request.buffers.flatMap bufferArguments ++ request.object) := by
  cases request <;> simp [arguments, numbers, buffers, object]

/-- The fields of a request without null pointers. -/
theorem fields_eq {request : DeviceRequest} (complete : request.complete = true)
    (dispatched : request.code.dispatched = true) :
    request.code.fields =
      ((deviceArguments request.dev ++ request.numbers).map Sigma.fst).map .value ++
        (List.replicate request.buffers.length .buffer ++
          request.object.map fun object => .object object.1) := by
  cases request with
  | regBulkCallback _ _ object | bulkRead _ _ object | bulkWrite _ _ object =>
    obtain ⟨object, rfl⟩ := Option.isSome_iff_exists.mp complete
    rfl
  | getActiveConfig => cases dispatched
  | _ => rfl

end DeviceRequest

/-! ## Reading words -/

namespace Wordwise

variable {β : Type} {data : MessageParcel β} {units : (t : ParcelType) → t.Value → List β}
  {word : UInt32 → β} (wordwise : Wordwise data units word)

include wordwise

theorem readLength (n : UInt32) (rest : List β) :
    data.read .uint32 (word n :: rest) = (some n, rest) := by
  have read := wordwise.faithful.read .uint32 n rest
  rwa [wordwise.length] at read

/-- Numbers are sent as a word each. -/
theorem unitsOf_numbers {arguments : List Argument}
    (numbers : ∀ argument ∈ arguments, argument.1.isNumber = true) :
    ∃ words : List UInt32, words.length = arguments.length ∧
      ParcelAction.unitsOf units arguments = words.map word := by
  induction arguments with
  | nil => exact ⟨[], rfl, rfl⟩
  | cons argument arguments ih =>
    obtain ⟨w, first⟩ := wordwise.number (numbers argument List.mem_cons_self) argument.2
    obtain ⟨words, length, rest⟩ := ih fun a there => numbers a (List.mem_cons_of_mem _ there)
    refine ⟨w :: words, congrArg (· + 1) length, ?_⟩
    rw [ParcelAction.unitsOf_cons, first, rest]
    rfl

theorem unitsOf_buffer (bufferData : List UInt8) :
    ParcelAction.unitsOf units (bufferArguments bufferData) =
      (bufferWords bufferData).map word := by
  unfold bufferArguments bufferWords
  rw [ParcelAction.unitsOf_cons, wordwise.length]
  by_cases some : bufferLength bufferData > 0
  · rw [if_pos some, ParcelAction.unitsOf_cons, ParcelAction.unitsOf_nil, List.append_nil,
      wordwise.buffer]
    rfl
  · have empty : (sentBuffer bufferData).val = [] := by
      apply List.length_eq_zero_iff.mp
      rw [(sentBuffer bufferData).property, show bufferLength bufferData = 0 by simpa using some]
      rfl
    rw [if_neg some, empty]
    rfl

theorem unitsOf_buffers (buffers : List (List UInt8)) :
    ParcelAction.unitsOf units (buffers.flatMap bufferArguments) =
      (buffers.flatMap bufferWords).map word := by
  induction buffers with
  | nil => rfl
  | cons bufferData buffers ih =>
    rw [List.flatMap_cons, List.flatMap_cons, ParcelAction.unitsOf_append, unitsOf_buffer wordwise,
      ih, List.map_append]

/-- A field that is a number takes a word, and needs one. -/
theorem scan_number {t : ParcelType} (number : t.isNumber = true) (fields : List Field) :
    (scan data (.value t :: fields) []).isSome = false ∧
    ∀ w contents, (scan data (.value t :: fields) (word w :: contents)).isSome =
      (scan data fields contents).isSome := by
  refine ⟨?_, fun w contents => ?_⟩
  · have none := wordwise.noNumber number
    rcases read : data.read t [] with ⟨v, rest⟩
    rw [read] at none
    obtain rfl : v = Option.none := none
    simp [scan, scanField, read]
  · obtain ⟨v, read⟩ := wordwise.readNumber number w contents
    simp [scan, scanField, read]

/-- Numbers are read from as many words. -/
theorem scan_numbers {types : List ParcelType} (numbers : ∀ t ∈ types, t.isNumber = true)
    (fields : List Field) :
    ∀ words : List UInt32, (scan data (types.map .value ++ fields) (words.map word)).isSome =
      (decide (types.length ≤ words.length) &&
        (scan data fields ((words.drop types.length).map word)).isSome) := by
  induction types with
  | nil => simp
  | cons t types ih =>
    intro words
    have number := numbers t List.mem_cons_self
    have later := ih fun t there => numbers t (List.mem_cons_of_mem _ there)
    cases words with
    | nil =>
      rw [List.map_nil, List.map_cons, List.cons_append, (scan_number wordwise number _).1]
      rfl
    | cons w words =>
      rw [List.map_cons, List.map_cons, List.cons_append, (scan_number wordwise number _).2, later]
      simp

theorem scanBuffer_nil : scanBuffer data [] = none := by
  have none : (data.read .uint32 []).1 = none := wordwise.noNumber rfl
  rcases read : data.read .uint32 [] with ⟨n, rest⟩
  rw [read] at none
  obtain rfl : n = Option.none := none
  simp [scanBuffer, read]

/-- A buffer is read where there are a length and as many words as it takes. -/
theorem scanBuffer_words (n : UInt32) (words : List UInt32) :
    (Words.wordCount n.toNat ≤ words.length → ∃ bufferData,
      scanBuffer data (word n :: words.map word) =
        some (bufferData, (words.drop (Words.wordCount n.toNat)).map word)) ∧
    (words.length < Words.wordCount n.toNat →
      scanBuffer data (word n :: words.map word) = none) := by
  unfold scanBuffer
  rw [readLength wordwise]
  dsimp only
  by_cases empty : n = 0
  · subst empty
    exact ⟨fun _ => ⟨[], rfl⟩, fun less => absurd less (Nat.not_lt_zero _)⟩
  rw [if_neg empty]
  refine ⟨fun fits => ?_, fun less => ?_⟩
  · obtain ⟨v, read⟩ := wordwise.readBuffer fits
    rw [read]
    exact ⟨v.val, rfl⟩
  · have none := wordwise.noBuffer less
    rcases read : data.read (.buffer n) (words.map word) with ⟨v, rest⟩
    rw [read] at none
    obtain rfl : v = Option.none := none
    rfl

/-- Buffers are read where there are buffers. -/
theorem scan_buffers (m : Nat) :
    ∀ words : List UInt32, (scan data (List.replicate m .buffer) (words.map word)).isSome =
      readsBuffers m words := by
  induction m with
  | zero => exact fun _ => rfl
  | succ m ih =>
    intro words
    rw [List.replicate_succ]
    cases words with
    | nil => simp [scan, scanField, scanBuffer_nil wordwise, readsBuffers]
    | cons n words =>
      have reads := scanBuffer_words wordwise n words
      unfold readsBuffers
      by_cases fits : Words.wordCount n.toNat ≤ words.length
      · obtain ⟨bufferData, read⟩ := reads.1 fits
        simp [scan, scanField, read, fits, ← ih, -List.map_drop]
      · have read := reads.2 (Nat.lt_of_not_le fits)
        simp [scan, scanField, read, fits]

/-- Numbers and buffers are read where there are enough words. -/
theorem scan_words {types : List ParcelType} (numbers : ∀ t ∈ types, t.isNumber = true) (m : Nat)
    (words : List UInt32) :
    (scan data (types.map .value ++ List.replicate m .buffer) (words.map word)).isSome =
      (decide (types.length ≤ words.length) && readsBuffers m (words.drop types.length)) := by
  rw [scan_numbers wordwise numbers, scan_buffers wordwise]

/-- Numbers in front of other contents. -/
theorem scan_numbers_append {types : List ParcelType} (numbers : ∀ t ∈ types, t.isNumber = true)
    (fields : List Field) (contents : List β) :
    ∀ {words : List UInt32}, words.length = types.length → ∃ first : List Argument,
      first.length = types.length ∧
      scan data (types.map .value ++ fields) (words.map word ++ contents) =
        (scan data fields contents).map fun result => (first ++ result.1, result.2) := by
  induction types with
  | nil =>
    intro words length
    obtain rfl := List.length_eq_zero_iff.mp length
    exact ⟨[], rfl, by simp⟩
  | cons t types ih =>
    intro words length
    cases words with
    | nil => cases length
    | cons w words =>
      obtain ⟨v, read⟩ := wordwise.readNumber (numbers t List.mem_cons_self) w
        (words.map word ++ contents)
      obtain ⟨first, firstLength, later⟩ := ih
        (fun t there => numbers t (List.mem_cons_of_mem _ there)) (Nat.succ.inj length)
      refine ⟨⟨t, v⟩ :: first, congrArg (· + 1) firstLength, ?_⟩
      rw [List.map_cons, List.map_cons, List.cons_append, List.cons_append, scan]
      simp only [scanField, read, later, Option.map_map]
      rfl

omit wordwise in
/-- Where bytes and an object are read, the bytes decide whether all is read. -/
theorem scan_bytes (t : ParcelType) (n : Nat) :
    ∀ contents : List β,
      (scan data (List.replicate n (.value .uint8) ++ [.object t]) contents).isSome =
        readsBytes data n contents := by
  induction n with
  | zero => exact fun _ => rfl
  | succ n ih =>
    intro contents
    rw [List.replicate_succ, List.cons_append, scan, readsBytes]
    rcases read : data.read .uint8 contents with ⟨v, rest⟩
    cases v with
    | none => simp [scanField, read]
    | some v => simp [scanField, read, ← ih]

/-- The object is read as many units later. -/
theorem length_of_scan_bytes (t : ParcelType) (n : Nat) :
    ∀ {contents arguments rest},
      scan data (List.replicate n (.value .uint8) ++ [.object t]) contents =
        some (arguments, rest) →
      arguments.length = n + (objectArguments t (data.read t (contents.drop n)).1).length := by
  induction n with
  | zero =>
    intro contents arguments rest scanned
    obtain ⟨first, mid, more, here, done, rfl⟩ := scan_cons_iff.mp scanned
    obtain ⟨rfl, rfl⟩ := Prod.mk.inj (Option.some.inj done)
    obtain ⟨rfl, rfl⟩ := Prod.mk.inj (Option.some.inj here)
    simp
  | succ n ih =>
    intro contents arguments rest scanned
    rw [List.replicate_succ, List.cons_append] at scanned
    obtain ⟨first, mid, more, here, there, rfl⟩ := scan_cons_iff.mp scanned
    obtain ⟨v, rfl, read⟩ := decodes_value here
    obtain rfl := wordwise.readByte read
    rw [List.singleton_append, List.length_cons, ih there, List.drop_drop, Nat.add_comm 1 n]
    omega

/-- Numbers and buffers that were read take no more words than there are. -/
theorem length_of_decodes {arguments : List Argument} {contents rest : List β}
    (decodes : ParcelAction.Decodes data arguments contents rest)
    (plain : ∀ argument ∈ arguments, argument.1.isNumber = true ∨ ∃ n, argument.1 = .buffer n) :
    ∀ words : List UInt32, contents = words.map word →
      (ParcelAction.unitsOf units arguments).length ≤ words.length := by
  induction decodes with
  | nil => exact fun _ _ => Nat.zero_le _
  | @cons t v more contents contents' rest read next ih =>
    intro words same
    subst same
    have later := ih fun argument there => plain argument (List.mem_cons_of_mem _ there)
    rw [ParcelAction.unitsOf_cons, List.length_append]
    rcases plain ⟨t, v⟩ List.mem_cons_self with number | ⟨n, buffer⟩
    · change t.isNumber = true at number
      obtain ⟨w, unit⟩ := wordwise.number number v
      rw [unit]
      cases words with
      | nil =>
        rw [List.map_nil] at read
        have none := wordwise.noNumber number
        rw [read] at none
        cases none
      | cons w' words =>
        obtain ⟨v', read'⟩ := wordwise.readNumber number w' (words.map word)
        have left : contents' = words.map word :=
          congrArg Prod.snd (read.symm.trans read')
        have rest := later _ left
        simp only [List.length_cons, List.length_nil]
        omega
    · obtain rfl : t = .buffer n := buffer
      have width : (units (.buffer n) v).length = Words.wordCount n.toNat := by
        rw [wordwise.buffer, List.length_map, Words.length_wordsOf, v.property]
      rw [width]
      by_cases fits : Words.wordCount n.toNat ≤ words.length
      · obtain ⟨v', read'⟩ := wordwise.readBuffer fits
        have left : contents' = (words.drop (Words.wordCount n.toNat)).map word :=
          congrArg Prod.snd (read.symm.trans read')
        have rest := later _ left
        rw [List.length_drop] at rest
        omega
      · have none := wordwise.noBuffer (Nat.lt_of_not_le fits)
        rw [read] at none
        cases none

end Wordwise

/-! ## Shifted requests -/

theorem UsbDev.isNumber (dev : UsbDev) :
    ∀ argument ∈ deviceArguments dev, argument.1.isNumber = true := by
  simp [deviceArguments, ParcelType.isNumber]

theorem isNumber_or_buffer {bufferData : List UInt8} :
    ∀ argument ∈ bufferArguments bufferData,
      argument.1.isNumber = true ∨ ∃ n, argument.1 = .buffer n := by
  intro argument there
  unfold bufferArguments at there
  rcases List.mem_cons.mp there with rfl | there
  · exact .inl rfl
  · by_cases some : bufferLength bufferData > 0
    · rw [if_pos some] at there
      obtain rfl := List.mem_singleton.mp there
      exact .inr ⟨_, rfl⟩
    · rw [if_neg some] at there
      cases there

namespace DeviceRequest

theorem isNumber_numbers (request : DeviceRequest) :
    ∀ argument ∈ request.numbers, argument.1.isNumber = true := by
  cases request <;> simp [numbers, arguments, pipeArguments, ParcelType.isNumber]

/-- A request has no object, or has the device, the pipe and an object. -/
theorem object_cases {request : DeviceRequest} (complete : request.complete = true) :
    request.object = [] ∨ ∃ (pipe : UsbPipe) (t : ParcelType) (object : t.Value),
      request.numbers = pipeArguments pipe ∧ request.buffers = [] ∧
      request.object = [⟨t, object⟩] ∧ (t = .remoteObject ∨ t = .ashmem) := by
  cases request with
  | regBulkCallback dev pipe object =>
    obtain ⟨object, rfl⟩ := Option.isSome_iff_exists.mp complete
    exact .inr ⟨pipe, .remoteObject, object, rfl, rfl, rfl, .inl rfl⟩
  | bulkRead dev pipe object | bulkWrite dev pipe object =>
    obtain ⟨object, rfl⟩ := Option.isSome_iff_exists.mp complete
    exact .inr ⟨pipe, .ashmem, object, rfl, rfl, rfl, .inr rfl⟩
  | _ => exact .inl rfl

end DeviceRequest

section

variable {β : Type} {data : MessageParcel β} {units : (t : ParcelType) → t.Value → List β}
  {word : UInt32 → β} (wordwise : Wordwise data units word) {request : DeviceRequest}
  (complete : request.complete = true) (dispatched : request.code.dispatched = true)
  {missing : Nat} (some : 0 < missing) (most : missing ≤ 2)

/-- What is sent without so many bytes of the device. -/
def shifted (units : (t : ParcelType) → t.Value → List β) (request : DeviceRequest)
    (missing : Nat) : List β :=
  ParcelAction.unitsOf units
    ((deviceArguments request.dev).take (2 - missing) ++ request.arguments)

include wordwise complete dispatched some most

/-- Without an object the shifted request is a list of words. -/
theorem scan_shifted_words (none : request.object = []) :
    ∃ words : List UInt32, shifted units request missing = words.map word ∧
      words.length + missing = 2 + request.numbers.length +
        (request.buffers.flatMap bufferWords).length ∧
      ((scan data request.code.fields (shifted units request missing)).isSome = true ↔
        request.Misread data units missing) := by
  have numbers : ∀ argument ∈ (deviceArguments request.dev).take (2 - missing) ++ request.numbers,
      argument.1.isNumber = true := by
    intro argument there
    rcases List.mem_append.mp there with there | there
    · exact request.dev.isNumber argument (List.mem_of_mem_take there)
    · exact request.isNumber_numbers argument there
  obtain ⟨heads, length, headUnits⟩ := wordwise.unitsOf_numbers numbers
  have whole : shifted units request missing =
      (heads ++ request.buffers.flatMap bufferWords).map word := by
    unfold shifted
    rw [request.arguments_eq, none, List.append_nil, ← List.append_assoc,
      ParcelAction.unitsOf_append, headUnits, wordwise.unitsOf_buffers, ← List.map_append]
  have count : heads.length + missing = 2 + request.numbers.length := by
    rw [length, List.length_append, List.length_take]
    simp only [deviceArguments, List.length_cons, List.length_nil]
    omega
  refine ⟨_, whole, by rw [List.length_append]; omega, ?_⟩
  have types : ∀ t ∈ (deviceArguments request.dev ++ request.numbers).map Sigma.fst,
      t.isNumber = true := by
    intro t there
    obtain ⟨argument, listed, rfl⟩ := List.mem_map.mp there
    rcases List.mem_append.mp listed with there | there
    · exact request.dev.isNumber argument there
    · exact request.isNumber_numbers argument there
  have width : ((deviceArguments request.dev ++ request.numbers).map Sigma.fst).length =
      heads.length + missing := by
    rw [count, List.length_map, List.length_append]
    rfl
  rw [whole, DeviceRequest.fields_eq complete dispatched, none, List.map_nil, List.append_nil,
    wordwise.scan_words types, width, ← List.drop_drop, List.drop_left, List.length_append]
  unfold DeviceRequest.Misread
  rw [none]
  rcases buffers : request.buffers with _ | ⟨first, others⟩
  · have short : ¬ missing ≤ 0 := Nat.not_le_of_lt some
    simp [short]
  · by_cases enough : missing ≤ ((first :: others).flatMap bufferWords).length
    · rw [decide_eq_true (Nat.add_le_add_left enough _), Bool.true_and]
      refine ⟨fun reads => .inl ⟨List.cons_ne_nil _ _, reads⟩, fun misread => ?_⟩
      rcases misread with ⟨_, reads⟩ | ⟨_, there, _⟩
      · exact reads
      · cases there
    · rw [List.drop_eq_nil_of_le (Nat.le_of_not_le enough)]
      simp [readsBuffers, -List.flatMap_cons]

omit some in
/-- With an object the rest of the device and the pipe are read from it. -/
theorem scan_shifted_object {pipe : UsbPipe} {t : ParcelType} {object : t.Value}
    (numbers : request.numbers = pipeArguments pipe) (none : request.buffers = [])
    (one : request.object = [⟨t, object⟩]) :
    ∃ first : List Argument, first.length + missing = 4 ∧
      scan data request.code.fields (shifted units request missing) =
        (scan data (List.replicate missing (.value .uint8) ++ [.object t]) (units t object)).map
          fun result => (first ++ result.1, result.2) := by
  have heads : ∀ argument ∈ (deviceArguments request.dev).take (2 - missing) ++ request.numbers,
      argument.1.isNumber = true := by
    intro argument there
    rcases List.mem_append.mp there with there | there
    · exact request.dev.isNumber argument (List.mem_of_mem_take there)
    · exact request.isNumber_numbers argument there
  obtain ⟨words, length, headUnits⟩ := wordwise.unitsOf_numbers heads
  have width : words.length = (List.replicate (4 - missing) ParcelType.uint8).length := by
    rw [length, numbers, List.length_replicate, List.length_append, List.length_take]
    simp only [deviceArguments, pipeArguments, List.length_cons, List.length_nil]
    omega
  have whole : shifted units request missing = words.map word ++ units t object := by
    unfold shifted
    rw [request.arguments_eq, none, one, List.flatMap_nil, List.nil_append, ← List.append_assoc,
      ParcelAction.unitsOf_append, headUnits, ParcelAction.unitsOf_cons, ParcelAction.unitsOf_nil,
      List.append_nil]
  have fields : request.code.fields =
      (List.replicate (4 - missing) ParcelType.uint8).map .value ++
        (List.replicate missing (.value .uint8) ++ [.object t]) := by
    rw [List.map_replicate, ← List.append_assoc, List.replicate_append_replicate,
      Nat.sub_add_cancel (most.trans (by decide)), DeviceRequest.fields_eq complete dispatched,
      numbers, none, one]
    rfl
  have bytes : ∀ t ∈ List.replicate (4 - missing) ParcelType.uint8, t.isNumber = true := by
    intro t there
    rw [List.eq_of_mem_replicate there]
    rfl
  obtain ⟨first, firstLength, scanned⟩ := wordwise.scan_numbers_append bytes
    (List.replicate missing (.value .uint8) ++ [.object t]) (units t object) width
  rw [List.length_replicate] at firstLength
  refine ⟨first, by omega, ?_⟩
  rw [fields, whole, scanned]

/-- A shifted request is read to the end exactly if it can be misread. -/
theorem scan_shifted :
    (scan data request.code.fields (shifted units request missing)).isSome = true ↔
      request.Misread data units missing := by
  rcases DeviceRequest.object_cases complete with none | ⟨pipe, t, object, numbers, none, one, _⟩
  · obtain ⟨_, _, _, reads⟩ := scan_shifted_words wordwise complete dispatched some most none
    exact reads
  · obtain ⟨first, _, scanned⟩ :=
      scan_shifted_object wordwise complete dispatched most numbers none one
    rw [scanned, Option.isSome_map, Wordwise.scan_bytes]
    unfold DeviceRequest.Misread
    rw [none, one]
    simp

omit complete dispatched some most in
/-- Without an object the arguments of a request are sent as words. -/
theorem length_unitsOf (none : request.object = []) :
    (ParcelAction.unitsOf units (deviceArguments request.dev ++ request.arguments)).length =
      2 + request.numbers.length + (request.buffers.flatMap bufferWords).length := by
  have numbers : ∀ argument ∈ deviceArguments request.dev ++ request.numbers,
      argument.1.isNumber = true := by
    intro argument there
    rcases List.mem_append.mp there with there | there
    · exact request.dev.isNumber argument there
    · exact request.isNumber_numbers argument there
  obtain ⟨words, length, numberUnits⟩ := wordwise.unitsOf_numbers numbers
  rw [request.arguments_eq, none, List.append_nil, ← List.append_assoc,
    ParcelAction.unitsOf_append, numberUnits, wordwise.unitsOf_buffers, ← List.map_append,
    List.length_map, List.length_append, length, List.length_append]
  rfl

/-- What is read from it are not the arguments that were passed. -/
theorem ne_of_shifted {arguments : List Argument} {rest : List β}
    (scanned : scan data request.code.fields (shifted units request missing) =
      Option.some (arguments, rest)) :
    arguments ≠ deviceArguments request.dev ++ request.arguments := by
  intro same
  subst same
  rcases DeviceRequest.object_cases complete with
    none | ⟨pipe, t, object, numbers, none, one, isObject⟩
  · obtain ⟨words, whole, count, _⟩ :=
      scan_shifted_words wordwise complete dispatched some most none
    have values : ∀ t, Field.object t ∉ request.code.fields := by
      rw [DeviceRequest.fields_eq complete dispatched, none]
      simp
    have plain : ∀ argument ∈ deviceArguments request.dev ++ request.arguments,
        argument.1.isNumber = true ∨ ∃ n, argument.1 = .buffer n := by
      intro argument there
      rw [request.arguments_eq, none, List.append_nil] at there
      rcases List.mem_append.mp there with there | there
      · exact .inl (request.dev.isNumber argument there)
      rcases List.mem_append.mp there with there | there
      · exact .inl (request.isNumber_numbers argument there)
      · obtain ⟨bufferData, _, there⟩ := List.mem_flatMap.mp there
        exact isNumber_or_buffer argument there
    have short := wordwise.length_of_decodes (decodes_of_scan values scanned) plain words whole
    rw [length_unitsOf wordwise none] at short
    omega
  · obtain ⟨first, count, read⟩ :=
      scan_shifted_object wordwise complete dispatched most numbers none one
    rw [scanned] at read
    obtain ⟨⟨more, rest'⟩, last, same⟩ := Option.map_eq_some_iff.mp read.symm
    have length := wordwise.length_of_scan_bytes t missing last
    rw [wordwise.object isObject object some] at length
    have lengths := congrArg (fun result => result.1.length) same
    rw [request.arguments_eq, numbers, none, one] at lengths
    simp [deviceArguments, pipeArguments, objectArguments] at lengths length
    omega

end

/-! ## Every method -/

/-- How many of the two bytes of the device are missing in the request. -/
def SrvCall.missing (outcomes : List Bool) : SrvCall → Nat
  | onDevice (.openDevice _ _) => 0
  | onDevice _ => 2 - headerWritten (outcomes.drop 1)
  | _ => 0

/-- The request can be read as one of the same method without so many bytes of the device. -/
def SrvCall.Misread {β : Type} (data : MessageParcel β)
    (units : (t : ParcelType) → t.Value → List β) (missing : Nat) : SrvCall → Prop
  | onDevice request => request.Misread data units missing
  | _ => False

/-- Whatever the service is, where the writes have these outcomes, the caller gets an
error and no request is sent, or the stub makes no call but this one. -/
def Unshifted {β : Type} (data : MessageParcel β) (call : SrvCall) (outcomes : List Bool) : Prop :=
  ∀ {σ : Type} (service : IUsbSrv σ) (base : IPCObjectStub β) (junk : UsbServerProxy.Uninitialised)
    (vars : SrvReply) (far : Far β σ) (result : SrvReply) (far' : Far β σ),
    UsbServerProxy.perform data junk (some (UsbServerStub.sendRequest data service base)) outcomes
      call vars far = (result, far') →
    far'.requests = far.requests ∧ call.Failed result ∨
      far'.calls = far.calls ∨ far'.calls = far.calls ++ [call]

theorem headerWritten_le (outcomes : List Bool) : headerWritten outcomes ≤ 2 := by
  unfold headerWritten
  split <;> decide

/-- What is sent is complete, or a request for a device without a part of it. -/
theorem SrvCall.written_cases {call : SrvCall} {outcomes : List Bool} {arguments : List Argument}
    (written : call.written outcomes = some arguments) :
    call.missing outcomes = 0 ∧ arguments = call.arguments ∨
      ∃ request, call = onDevice request ∧ request.complete = true ∧
        0 < call.missing outcomes ∧ call.missing outcomes ≤ 2 ∧
        arguments = (deviceArguments request.dev).take (2 - call.missing outcomes) ++
          request.arguments := by
  cases call with
  | onDevice request =>
    by_cases ignores : request.code = .USB_FUN_OPEN_DEVICE
    · cases request with
      | openDevice =>
        obtain ⟨_, same⟩ := Option.ite_some_none_eq_some.mp written
        exact .inl ⟨rfl, same.symm⟩
      | _ => cases ignores
    · rw [SrvCall.written_of_ignored ignores] at written
      obtain ⟨⟨complete, _⟩, same⟩ := Option.ite_some_none_eq_some.mp written
      have most := headerWritten_le (outcomes.drop 1)
      have missing : (onDevice request).missing outcomes =
          2 - headerWritten (outcomes.drop 1) := by
        cases request with
        | openDevice => exact absurd rfl ignores
        | _ => rfl
      by_cases all : headerWritten (outcomes.drop 1) = 2
      · refine .inl ⟨by rw [missing, all], ?_⟩
        rw [← same, all]
        rfl
      · refine .inr ⟨request, rfl, complete, by omega, by omega, ?_⟩
        rw [← same, missing, Nat.sub_sub_self most]
  | _ =>
    obtain ⟨_, same⟩ := Option.ite_some_none_eq_some.mp written
    exact .inl ⟨rfl, same.symm⟩

section

variable {β : Type} {data : MessageParcel β} {units : (t : ParcelType) → t.Value → List β}
  {word : UInt32 → β} (wordwise : Wordwise data units word) {call : SrvCall}
  {outcomes : List Bool} {arguments : List Argument}

include wordwise

theorem unshifted_of_not_written (unwritten : call.written outcomes = none) :
    Unshifted data call outcomes := by
  intro σ service base junk vars far result far' performed
  have unsent : (UsbServerProxy.perform data junk
        (some (UsbServerStub.sendRequest data service base)) outcomes call vars far).2 = far ∧
      call.Failed (UsbServerProxy.perform data junk
        (some (UsbServerStub.sendRequest data service base)) outcomes call vars far).1 :=
    UsbServerProxy.perform_of_not_written wordwise.faithful unwritten _ vars far
  rw [performed] at unsent
  exact .inl ⟨congrArg Far.requests unsent.1, unsent.2⟩

/-- A request that cannot be read leads to no call. -/
theorem unshifted_of_unread (written : call.written outcomes = some arguments)
    (unread : call.code.dispatched = true →
      scan data call.code.fields (ParcelAction.unitsOf units arguments) = none) :
    Unshifted data call outcomes := by
  intro σ service base junk vars far result far' performed
  have calls : (UsbServerProxy.perform data junk
      (some (UsbServerStub.sendRequest data service base)) outcomes call vars far).2.calls =
      far.calls := by
    rw [UsbServerProxy.perform_of_written wordwise.faithful written,
      sendRequest_requestUnits wordwise.faithful]
    cases dispatched : call.code.dispatched with
    | true =>
      exact congrArg Serving.calls
        ((UsbServerStub.handler_calls dispatched call.code.ofCode_code _ _).1 (unread dispatched))
    | false =>
      exact (UsbServerStub.handler_calls_nothing (SrvCall.unknown_of_undispatched dispatched) _
        _).2
  rw [performed] at calls
  exact .inr (.inl calls)

/-- A request that can be read leads to a call with what is read. -/
theorem calls_of_read {σ : Type} (service : IUsbSrv σ) (base : IPCObjectStub β)
    (junk : UsbServerProxy.Uninitialised) (vars : SrvReply) (far : Far β σ)
    (written : call.written outcomes = some arguments) (dispatched : call.code.dispatched = true)
    {read : List Argument} {rest : List β}
    (scanned : scan data call.code.fields (ParcelAction.unitsOf units arguments) =
      some (read, rest)) :
    ∃ call' : SrvCall, call'.code = call.code ∧ call'.arguments = read ∧ call'.Fits ∧
      (UsbServerProxy.perform data junk (some (UsbServerStub.sendRequest data service base))
        outcomes call vars far).2.calls = far.calls ++ [call'] := by
  rw [UsbServerProxy.perform_of_written wordwise.faithful written,
    sendRequest_requestUnits wordwise.faithful]
  obtain ⟨call', code, same, fits, _, calls⟩ :=
    (UsbServerStub.handler_calls dispatched call.code.ofCode_code
      { state := far.state, calls := far.calls } _).2 _ _ scanned
  exact ⟨call', code, same, fits, calls⟩

/-- A request that is read as it was meant leads to this call. -/
theorem unshifted_of_read (written : call.written outcomes = some arguments)
    (dispatched : call.code.dispatched = true) (fits : call.Fits) {rest : List β}
    (scanned : scan data call.code.fields (ParcelAction.unitsOf units arguments) =
      some (call.arguments, rest)) : Unshifted data call outcomes := by
  intro σ service base junk vars far result far' performed
  obtain ⟨call', code, same, fits', calls⟩ :=
    calls_of_read wordwise service base junk vars far written dispatched scanned
  rw [performed, SrvCall.eq_of_arguments code same fits' fits] at calls
  exact .inr (.inr calls)

/-- What is read is what was passed, where that is asked. -/
theorem arguments_of_unshifted (unshifted : Unshifted data call outcomes)
    (written : call.written outcomes = some arguments) (dispatched : call.code.dispatched = true)
    {read : List Argument} {rest : List β}
    (scanned : scan data call.code.fields (ParcelAction.unitsOf units arguments) =
      some (read, rest)) : call.arguments = read ∧ call.Fits := by
  let service : IUsbSrv Unit := fun _ s => ({}, s)
  let base : IPCObjectStub β := fun _ _ reply => (.UEC_OK, reply)
  let far : Far β Unit := { state := () }
  obtain ⟨call', _, same, fits, calls⟩ : ∃ call' : SrvCall, call'.code = call.code ∧
      call'.arguments = read ∧ call'.Fits ∧
      (UsbServerProxy.perform data ⟨0, 0⟩ (some (UsbServerStub.sendRequest data service base))
        outcomes call {} far).2.calls = far.calls ++ [call'] :=
    calls_of_read wordwise service base ⟨0, 0⟩ {} far written dispatched scanned
  have sent : (UsbServerProxy.perform data ⟨0, 0⟩
      (some (UsbServerStub.sendRequest data service base)) outcomes call {} far).2.requests =
      far.requests ++ [(call.code.code, requestUnits units arguments)] := by
    rw [UsbServerProxy.perform_of_written wordwise.faithful written]
    rfl
  rcases performed : UsbServerProxy.perform data ⟨0, 0⟩
    (some (UsbServerStub.sendRequest data service base)) outcomes call {} far with ⟨result, far'⟩
  rw [performed] at calls sent
  dsimp only at calls sent
  rcases unshifted service base ⟨0, 0⟩ {} far result far' performed with
    ⟨unsent, _⟩ | nothing | once
  · rw [sent] at unsent
    cases unsent
  · rw [calls] at nothing
    cases nothing
  · rw [calls] at once
    obtain rfl : call' = call := List.singleton_inj.mp (List.append_cancel_left once)
    exact ⟨same, fits⟩

omit wordwise in
/-- Where a request is sent no object is missing. -/
theorem SrvCall.complete_of_written (written : call.written outcomes = some arguments) :
    call.complete = true := by
  cases complete : call.complete with
  | true => rfl
  | false =>
    rw [SrvCall.written_of_incomplete complete] at written
    cases written

omit wordwise in
theorem SrvCall.fits_of_undispatched (unknown : call.code.dispatched = false) : call.Fits := by
  cases call with
  | onDevice request =>
    cases request with
    | getActiveConfig => trivial
    | _ => cases unknown
  | _ => trivial

omit wordwise in
theorem DeviceRequest.not_misread_of_undispatched {request : DeviceRequest} {missing : Nat}
    (unknown : request.code.dispatched = false) : ¬ request.Misread data units missing := by
  cases request with
  | getActiveConfig => simp [Misread, buffers, object]
  | _ => cases unknown

/-- Exactly when a request is not executed with other arguments: it is not sent; or
it is sent with the device, and its buffers fit; or without a part of the device,
and cannot be misread. -/
theorem unshifted_iff (call : SrvCall) (outcomes : List Bool) :
    Unshifted data call outcomes ↔
      call.written outcomes = none ∨ call.missing outcomes = 0 ∧ call.Fits ∨
        0 < call.missing outcomes ∧ ¬ call.Misread data units (call.missing outcomes) := by
  rcases written : call.written outcomes with _ | arguments
  · exact ⟨fun _ => .inl rfl, fun _ => unshifted_of_not_written wordwise written⟩
  have complete := SrvCall.complete_of_written written
  rcases SrvCall.written_cases written with ⟨whole, same⟩ | ⟨request, rfl, _, some, most, rest⟩
  · subst same
    cases dispatched : call.code.dispatched with
    | false =>
      exact ⟨fun _ => .inr (.inl ⟨whole, SrvCall.fits_of_undispatched dispatched⟩),
        fun _ => unshifted_of_unread wordwise written fun known => by
          rw [dispatched] at known
          cases known⟩
    | true =>
      have scanned := scans_arguments wordwise.faithful complete dispatched []
      rw [List.append_nil] at scanned
      refine ⟨fun unshifted => ?_, fun condition => ?_⟩
      · exact .inr (.inl ⟨whole,
          (arguments_of_unshifted wordwise unshifted written dispatched scanned).2⟩)
      · rcases condition with unwritten | ⟨_, fits⟩ | ⟨part, _⟩
        · cases unwritten
        · exact unshifted_of_read wordwise written dispatched fits scanned
        · omega
  · have shape : ParcelAction.unitsOf units arguments =
        shifted units request ((SrvCall.onDevice request).missing outcomes) := by
      rw [rest]
      rfl
    refine ⟨fun unshifted => .inr (.inr ⟨some, fun misread => ?_⟩), fun condition => ?_⟩
    · cases dispatched : request.code.dispatched with
      | false => exact DeviceRequest.not_misread_of_undispatched dispatched misread
      | true =>
        obtain ⟨⟨read, rest'⟩, scanned⟩ := Option.isSome_iff_exists.mp
          ((scan_shifted wordwise complete dispatched some most).mpr misread)
        have other := ne_of_shifted wordwise complete dispatched some most scanned
        rw [← shape] at scanned
        exact other (arguments_of_unshifted wordwise unshifted written dispatched scanned).1.symm
    · rcases condition with unwritten | ⟨all, _⟩ | ⟨_, safe⟩
      · cases unwritten
      · omega
      · refine unshifted_of_unread wordwise written fun dispatched => ?_
        rw [shape]
        exact Option.not_isSome_iff_eq_none.mp fun reads =>
          safe ((scan_shifted wordwise complete dispatched some most).mp reads)

end

/-- Three bytes are written, and the bus number is not: what is sent is too short. -/
theorem unshifted_threeBytes :
    Unshifted wordParcel (.onDevice (.bulkTransferWrite ⟨1, 2⟩ ⟨0, 1⟩ [1, 2, 3] 500))
      [true, false] := by
  refine (unshifted_iff wordwise_wordParcel _ _).mpr (.inr (.inr ⟨by decide, fun misread => ?_⟩))
  rcases misread with ⟨_, reads⟩ | ⟨_, there, _⟩
  · revert reads
    decide
  · cases there

/-- A service that does nothing, on the other side of a parcel of words. -/
def idleRemote : Remote Cell (Far Cell Unit) :=
  UsbServerStub.sendRequest wordParcel (fun _ s => ({}, s)) fun _ _ reply => (.UEC_OK, reply)

/-- Eight zero bytes are written, and the bus number is not: the stub reads the
second half of the buffer as the length of an empty one. -/
theorem not_unshifted_eightBytes :
    ¬ Unshifted wordParcel
      (.onDevice (.bulkTransferWrite ⟨1, 2⟩ ⟨0, 1⟩ [0, 0, 0, 0, 0, 0, 0, 0] 500))
      [true, false] := by
  intro unshifted
  have sent : (UsbServerProxy.perform wordParcel ⟨0, 0⟩ (some idleRemote) [true, false]
      (.onDevice (.bulkTransferWrite ⟨1, 2⟩ ⟨0, 1⟩ [0, 0, 0, 0, 0, 0, 0, 0] 500)) {}
      { state := () }).2.requests ≠ [] := by decide +kernel
  have calls : (UsbServerProxy.perform wordParcel ⟨0, 0⟩ (some idleRemote) [true, false]
      (.onDevice (.bulkTransferWrite ⟨1, 2⟩ ⟨0, 1⟩ [0, 0, 0, 0, 0, 0, 0, 0] 500)) {}
      { state := () }).2.calls = [.onDevice (.bulkTransferWrite ⟨0, 1⟩ ⟨244, 8⟩ [] 0)] := by
    decide +kernel
  rcases performed : UsbServerProxy.perform wordParcel ⟨0, 0⟩ (some idleRemote) [true, false]
    (.onDevice (.bulkTransferWrite ⟨1, 2⟩ ⟨0, 1⟩ [0, 0, 0, 0, 0, 0, 0, 0] 500)) {}
    { state := () } with ⟨result, far'⟩
  rw [performed] at sent calls
  rcases unshifted _ _ _ _ _ _ _ performed with ⟨unsent, _⟩ | nothing | once
  · exact sent unsent
  · cases calls.symm.trans nothing
  · cases calls.symm.trans once

end UsbManager

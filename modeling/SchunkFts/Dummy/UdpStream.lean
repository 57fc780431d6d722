import SchunkFts.Dummy.OutputRate
import SchunkFts.Library.Packet

/-! The UDP stream of the dummy sensor and its round trip through the client's decoder, which keeps
every word but those of signalling NaNs. Pacing and the sine waves are left out: a run says which
words each packet carries and which rate requests arrived before it. -/

namespace SchunkFts.Dummy.UdpStream
open SchunkFts.Foundation.Struct SchunkFts.Library.Packet OutputRate

/-- The words one sample writes. `put_samples` itself writes the status word 1 and six sines. -/
structure SampleWords where
  statusBits : BitVec 32 := 1
  wrench : Wrench

def SampleWords.values (words : SampleWords) : Values sampleFormat :=
  (words.statusBits, words.wrench.fx, words.wrench.fy, words.wrench.fz,
    words.wrench.tx, words.wrench.ty, words.wrench.tz, ())

/-- The sample that the client's decoder reads. -/
def SampleWords.asRead (words : SampleWords) : SampleWords :=
  { words with wrench := words.wrench.asRead }

def payloadLen (mode : OutputRateMode) : BitVec 16 :=
  BitVec.ofNat 16 (1 + mode.samplesPerPacket * 28)

def putSamples (buf : Bytes) (mode : OutputRateMode) (words : Nat → SampleWords) : Bytes :=
  (List.range mode.samplesPerPacket).foldl
    (fun buf sampleIndex => buf ++ pack sampleFormat (words sampleIndex).values) buf

structure StreamState where
  counter : BitVec 16 := 0
  packetId : Byte := 0
  deriving DecidableEq, Repr

/-- One datagram as the loop body writes it. -/
def datagram (state : StreamState) (mode : OutputRateMode) (words : Nat → SampleWords) : Bytes :=
  let sync : BitVec 16 := 0xFFFF
  let buf := pack [.H, .H, .H] (sync, state.counter, payloadLen mode, ())
  let buf := buf ++ pack [.B] (state.packetId, ())
  putSamples buf mode words

/-- `wrapping_add` on both counts. -/
def StreamState.next (state : StreamState) : StreamState where
  counter := state.counter + 1
  packetId := state.packetId + 1

/-- What happens up to one packet: the rate requests served since the last, and its words. -/
structure Tick where
  rateRequests : List Byte
  words : Nat → SampleWords

def setAll (rate : OutputRateState) (values : List Byte) : OutputRateState :=
  values.foldl (fun rate value => (rate.setEnum value).1) rate

/-- A packet with the mode in force and the words it was given. -/
structure Emitted where
  mode : OutputRateMode
  words : Nat → SampleWords
  data : Bytes

def streamFtData (state : StreamState) (rate : OutputRateState) : List Tick → List Emitted
  | [] => []
  | tick :: later =>
      let rate := setAll rate tick.rateRequests
      ⟨rate.get, tick.words, datagram state rate.get tick.words⟩ ::
        streamFtData state.next rate later

/-! ### The layout -/

/-- Sync mark, counter, payload length, packet id and samples, in this order. -/
def layout (sync : Bytes) (counter payload : BitVec 16) (id : Byte)
    (samples : List (Values sampleFormat)) : Bytes :=
  sync ++ (pack [.H, .H, .B] (counter, payload, id, ()) ++ samples.flatMap (pack sampleFormat))

theorem samples_length (samples : List (Values sampleFormat)) :
    (samples.flatMap (pack sampleFormat)).length = 28 * samples.length := by
  induction samples with
  | nil => rfl
  | cons values rest ih =>
    have size : calcsize sampleFormat = 28 := rfl
    rw [List.flatMap_cons, List.length_append, pack_length, ih, size, List.length_cons]
    omega

section Layout
variable (sync : Bytes) (two : sync.length = 2) (counter payload : BitVec 16) (id : Byte)
  (samples : List (Values sampleFormat))

include two

theorem layout_length :
    (layout sync counter payload id samples).length = 7 + 28 * samples.length := by
  have size : calcsize [.H, .H, .B] = 5 := rfl
  rw [layout, List.length_append, List.length_append, pack_length, samples_length, two, size]
  omega

theorem layout_sync : slice (layout sync counter payload id samples) 0 2 = sync := by
  rw [slice, List.drop_zero, layout, List.take_left' two]

theorem layout_record :
    parse [.H, .H, .B] ((layout sync counter payload id samples).drop 2) =
      (counter, payload, id, ()) := by
  rw [layout, List.drop_left' two, parse_pack]
  rfl

theorem layout_counter : counterField (layout sync counter payload id samples) = counter := by
  have record := congrArg Prod.fst (layout_record sync two counter payload id samples)
  rw [parse_cons] at record
  rw [counterField, ← take_drop_slice _ 2 2]
  exact record

theorem layout_payload : payloadField (layout sync counter payload id samples) = payload := by
  have record := congrArg (fun fields => fields.2.1)
    (layout_record sync two counter payload id samples)
  rw [parse_cons, parse_cons, List.drop_drop] at record
  rw [payloadField, ← take_drop_slice _ 4 2]
  exact record

theorem layout_id : (layout sync counter payload id samples).getD 6 0 = id := by
  have record := congrArg (fun fields => fields.2.2.1)
    (layout_record sync two counter payload id samples)
  rw [parse_cons, parse_cons, parse_cons, List.drop_drop, List.drop_drop] at record
  rw [← byte_at _ 6 (by rw [layout_length sync two]; omega)]
  exact record

theorem layout_words (index : Nat) (inside : index < samples.length) :
    wordsAt (layout sync counter payload id samples) index = samples[index] := by
  have head : (sync ++ pack [.H, .H, .B] (counter, payload, id, ())).length = 7 := by
    rw [List.length_append, pack_length, two]
    rfl
  have before : ((samples.take index).flatMap (pack sampleFormat)).length = 28 * index := by
    rw [samples_length, List.length_take, Nat.min_eq_left inside.le]
  have split : samples = samples.take index ++ samples[index] :: samples.drop (index + 1) := by
    rw [← List.drop_eq_getElem_cons inside, List.take_append_drop]
  have whole : samples.flatMap (pack sampleFormat) =
      (samples.take index).flatMap (pack sampleFormat) ++ (pack sampleFormat samples[index] ++
        (samples.drop (index + 1)).flatMap (pack sampleFormat)) := by
    conv_lhs => rw [split]
    rw [List.flatMap_append, List.flatMap_cons]
  rw [wordsAt, layout, whole, ← List.append_assoc, ← List.drop_drop, List.drop_left' head,
    List.drop_left' before, fields_pack]

theorem layout_sample (index : Nat) (inside : index < samples.length) :
    sampleAt (layout sync counter payload id samples) index =
      readValues sampleFormat samples[index] :=
  congrArg (readValues sampleFormat)
    (layout_words sync two counter payload id samples index inside)

end Layout

theorem putSamples_eq (buf : Bytes) (mode : OutputRateMode) (words : Nat → SampleWords) :
    putSamples buf mode words = buf ++ ((List.range mode.samplesPerPacket).map
      (fun index => (words index).values)).flatMap (pack sampleFormat) := by
  rw [putSamples]
  generalize List.range mode.samplesPerPacket = indices
  induction indices generalizing buf with
  | nil => simp
  | cons index rest ih =>
    rw [List.foldl_cons, ih, List.map_cons, List.flatMap_cons, List.append_assoc]

theorem datagram_layout (state : StreamState) (mode : OutputRateMode)
    (words : Nat → SampleWords) :
    datagram state mode words = layout [0xff, 0xff] state.counter (payloadLen mode) state.packetId
      ((List.range mode.samplesPerPacket).map (fun index => (words index).values)) := by
  simp only [datagram, putSamples_eq, layout, pack, List.append_assoc, List.nil_append]
  rfl

/-! ### Decoding what the stream emits -/

theorem payloadLen_toNat (rate : OutputRateState) :
    (payloadLen rate.get).toNat = 1 + 28 * rate.get.samplesPerPacket := by
  rw [payloadLen, BitVec.toNat_ofNat]
  rcases rate.samplesPerPacket with one | sixteen <;> omega

theorem payloadLen_packaged (rate : OutputRateState) :
    payloadLen rate.get = 449 ↔ rate.get.samplesPerPacket = 16 := by
  rw [← BitVec.toNat_inj, payloadLen_toNat]
  change _ = 449 ↔ _
  omega

theorem values_statusOf (words : SampleWords) : statusOf words.values = words.statusBits := rfl

theorem values_wrenchOf (words : SampleWords) : wrenchOf words.values = words.wrench := rfl

theorem values_asRead (words : SampleWords) :
    readValues sampleFormat words.values = words.asRead.values := rfl

/-- A datagram decodes to the counts and the mode it was written for, and to these words. -/
def Carries (data : Bytes) (number : Nat) (mode : OutputRateMode) (words : Nat → SampleWords) :
    Prop :=
  ∃ records, decodePacket data = .ok records ∧ records.length = mode.samplesPerPacket ∧
    ∀ index record, records[index]? = some record →
      record.sync = [0xff, 0xff] ∧ record.counter.toNat = number % 65536 ∧
      record.id.toNat = number % 256 ∧ record.payload.toNat = data.length - 6 ∧
      record.statusBits = (words index).statusBits ∧ record.wrench = (words index).wrench

theorem datagram_carries (state : StreamState) (number : Nat) (rate : OutputRateState)
    (words : Nat → SampleWords) (counter : state.counter = BitVec.ofNat 16 number)
    (packetId : state.packetId = BitVec.ofNat 8 number) :
    Carries (datagram state rate.get words) number rate.get (fun index => (words index).asRead) := by
  let samples := (List.range rate.get.samplesPerPacket).map (fun index => (words index).values)
  have size : samples.length = rate.get.samplesPerPacket := by
    rw [List.length_map, List.length_range]
  have two : ([0xff, 0xff] : Bytes).length = 2 := rfl
  have form : datagram state rate.get words =
      layout [0xff, 0xff] state.counter (payloadLen rate.get) state.packetId samples :=
    datagram_layout state rate.get words
  have length := layout_length _ two state.counter (payloadLen rate.get) state.packetId samples
  have payload := layout_payload _ two state.counter (payloadLen rate.get) state.packetId samples
  rw [← form] at length payload
  rw [size] at length
  have packaged := payloadLen_packaged rate
  have count : sampleCount (datagram state rate.get words) = rate.get.samplesPerPacket := by
    rw [sampleCount, payload]
    rcases rate.samplesPerPacket with one | sixteen
    · have single : payloadLen rate.get ≠ 449 := fun same => by have := packaged.mp same; omega
      rw [if_neg single, one]
    · rw [if_pos (packaged.mpr sixteen), sixteen]
  have accepted : Accepts (datagram state rate.get words) := by
    simp only [Accepts, payload, length, ne_eq, packaged]
    rcases rate.samplesPerPacket with one | sixteen <;> omega
  refine ⟨_, decodePacket_ok _ accepted, by rw [List.length_map, List.length_range, count], ?_⟩
  intro index record found
  rw [count, List.getElem?_map, Option.map_eq_some_iff] at found
  obtain ⟨position, inRange, rfl⟩ := found
  obtain ⟨inside, rfl⟩ := List.getElem?_eq_some_iff.mp inRange
  rw [List.length_range] at inside
  have sample : sampleAt (datagram state rate.get words) index = (words index).asRead.values := by
    rw [form, layout_sample _ two _ _ _ samples index (by rw [size]; exact inside)]
    simp only [samples, List.getElem_map, List.getElem_range, values_asRead]
  simp only [packetData, List.getElem_range, sample, values_statusOf, values_wrenchOf, payload]
  rw [payloadLen_toNat, length, form]
  rw [layout_sync _ two, layout_counter _ two, layout_id _ two, counter, packetId]
  refine ⟨rfl, BitVec.toNat_ofNat _ _, BitVec.toNat_ofNat _ _, by omega, trivial, trivial⟩

/-- The packet at position `n` of a run that starts with count `start`. -/
theorem stream_emits (ticks : List Tick) (state : StreamState) (start : Nat)
    (rate : OutputRateState) (counter : state.counter = BitVec.ofNat 16 start)
    (packetId : state.packetId = BitVec.ofNat 8 start) (n : Nat) (tick : Tick)
    (present : ticks[n]? = some tick) :
    let mode := (setAll rate ((ticks.take (n + 1)).flatMap Tick.rateRequests)).get
    ∃ data, (streamFtData state rate ticks)[n]? = some ⟨mode, tick.words, data⟩ ∧
      Carries data (start + n) mode (fun index => (tick.words index).asRead) := by
  induction ticks generalizing state start rate n with
  | nil => simp at present
  | cons first later ih =>
    cases n with
    | zero =>
      obtain rfl : first = tick := Option.some.inj present
      refine ⟨_, ?_, datagram_carries state start _ first.words counter packetId⟩
      simp only [streamFtData, List.getElem?_cons_zero, List.take_succ_cons, List.take_zero,
        List.flatMap_cons, List.flatMap_nil, List.append_nil]
    | succ n =>
      have nextCounter : state.next.counter = BitVec.ofNat 16 (start + 1) := by
        rw [StreamState.next, counter, BitVec.ofNat_add]
        rfl
      have nextId : state.next.packetId = BitVec.ofNat 8 (start + 1) := by
        rw [StreamState.next, packetId, BitVec.ofNat_add]
        rfl
      obtain ⟨data, emitted, carries⟩ := ih state.next (start + 1)
        (setAll rate first.rateRequests) nextCounter nextId n present
      have requests : setAll rate (((first :: later).take (n + 1 + 1)).flatMap Tick.rateRequests) =
          setAll (setAll rate first.rateRequests)
            ((later.take (n + 1)).flatMap Tick.rateRequests) := by
        rw [List.take_succ_cons, List.flatMap_cons, setAll, List.foldl_append]
        rfl
      rw [requests]
      refine ⟨data, ?_, ?_⟩
      · simpa only [streamFtData, List.getElem?_cons_succ] using emitted
      · rwa [Nat.add_assoc, Nat.add_comm 1 n] at carries

/-! ### Encoding what the decoder reads -/

def FTData.values (data : FTData) : Values sampleFormat :=
  SampleWords.values ⟨data.statusBits, data.wrench⟩

/-- Decoded samples written back in the layout of the stream, the header once. -/
def encodePacket : List FTData → Bytes
  | [] => []
  | first :: rest =>
      layout first.sync first.counter first.payload first.id ((first :: rest).map FTData.values)

/-- The header of a packet, and its samples as they are read. -/
def reread (data : Bytes) : Bytes :=
  data.take 7 ++ (List.range (sampleCount data)).flatMap (fun index =>
    pack sampleFormat (sampleAt data index))

/-- A packet of the length that its payload field announces. -/
def Exact (data : Bytes) : Prop :=
  (payloadField data = 29 ∧ data.length = 35) ∨ (payloadField data = 449 ∧ data.length = 455)

theorem Exact.accepted {data : Bytes} (exact : Exact data) : Accepts data := by
  rcases exact with ⟨plain, length⟩ | ⟨packaged, length⟩
  · exact .inl ⟨length, by rw [plain]; decide⟩
  · exact .inr ⟨packaged, length.ge⟩

theorem Exact.length {data : Bytes} (exact : Exact data) :
    data.length = 7 + 28 * sampleCount data := by
  rcases exact with ⟨plain, length⟩ | ⟨packaged, length⟩
  · rw [length, sampleCount, if_neg (by rw [plain]; decide)]
  · rw [length, sampleCount, if_pos packaged]

theorem packetData_values (data : Bytes) (index : Nat) :
    FTData.values (packetData data index) = sampleAt data index := rfl

/-- A whole number of records is the words found in it, packed again. -/
theorem repack_samples (count : Nat) (data : Bytes) (exact : data.length = 28 * count) :
    (List.range count).flatMap (fun index =>
      pack sampleFormat (fields sampleFormat (data.drop (28 * index)))) = data := by
  induction count generalizing data with
  | zero => exact (List.length_eq_zero_iff.mp exact).symm
  | succ count ih =>
    have size : calcsize sampleFormat = 28 := rfl
    have first : pack sampleFormat (fields sampleFormat data) = data.take 28 := by
      rw [← fields_take sampleFormat data 28 (by rw [size]),
        pack_fields _ _ (by rw [List.length_take, size]; omega)]
    have rest := ih (data.drop 28) (by rw [List.length_drop]; omega)
    have shifted : ∀ index, (data.drop 28).drop (28 * index) = data.drop (28 * (index + 1)) := by
      intro index
      rw [List.drop_drop]
      congr 1
      omega
    simp only [shifted] at rest
    rw [List.range_succ_eq_map, List.flatMap_cons, List.flatMap_map, Nat.mul_zero, List.drop_zero,
      first]
    refine (congrArg (data.take 28 ++ ·) rest).trans ?_
    rw [List.take_append_drop]

/-- The header read and written again. -/
theorem rewrite_header (data : Bytes) (long : 7 ≤ data.length) :
    slice data 0 2 ++ pack [.H, .H, .B] (counterField data, payloadField data, data.getD 6 0, ()) =
      data.take 7 := by
  have found : fields [.H, .H, .B] ((data.drop 2).take 5) =
      (counterField data, payloadField data, data.getD 6 0, ()) := by
    have record : parse (.H :: .H :: .B :: sampleFormat) (data.drop 2) =
        (counterField data, payloadField data, data.getD 6 0, sampleAt data 0) :=
      parse_record data (by omega)
    rw [fields_take _ _ _ (by decide)]
    simp only [parse_cons, Prod.mk.injEq] at record
    simp only [fields, record.1, record.2.1, record.2.2.1]
  have width : ((data.drop 2).take 5).length = calcsize [.H, .H, .B] := by
    change _ = 5
    rw [List.length_take, List.length_drop]
    omega
  have front : data.take 7 = data.take 2 ++ (data.drop 2).take 5 := by
    rw [← List.take_add]
  rw [← found, pack_fields _ _ width, front, slice, List.drop_zero]

theorem encode_decoded (data : Bytes) (records : List FTData)
    (decoded : decodePacket data = .ok records) (exact : Exact data) :
    encodePacket records = layout (slice data 0 2) (counterField data) (payloadField data)
      (data.getD 6 0) ((List.range (sampleCount data)).map (sampleAt data)) := by
  rw [decodePacket_ok data exact.accepted] at decoded
  cases decoded
  obtain ⟨count, positive⟩ := Nat.exists_eq_succ_of_ne_zero (sampleCount_pos data).ne'
  rw [positive, Nat.succ_eq_add_one, List.range_succ_eq_map]
  simp only [List.map_cons, encodePacket, packetData_values, List.map_map]
  rfl

theorem encode_reread (data : Bytes) (records : List FTData)
    (decoded : decodePacket data = .ok records) (exact : Exact data) :
    encodePacket records = reread data := by
  have long := exact.accepted.length_le
  rw [encode_decoded data records decoded exact, layout, ← List.append_assoc,
    rewrite_header data (by omega), List.flatMap_map, reread]

/-- Nothing changes exactly if there is no signalling NaN to be made quiet. -/
theorem encode_same_iff (data : Bytes) (records : List FTData)
    (decoded : decodePacket data = .ok records) (exact : Exact data) :
    encodePacket records = data ↔
      ∀ index < sampleCount data, ∀ word ∈ (wrenchOf (wordsAt data index)).words,
        ¬Signalling word := by
  simp only [← sampleAt_eq_iff]
  have long := exact.accepted.length_le
  constructor
  · intro same index inside
    have two : (slice data 0 2).length = 2 := by
      rw [slice_length]
      omega
    have found := layout_words _ two (counterField data) (payloadField data) (data.getD 6 0)
      ((List.range (sampleCount data)).map (sampleAt data)) index
      (by rwa [List.length_map, List.length_range])
    rw [← encode_decoded data records decoded exact, same] at found
    simpa only [List.getElem_map, List.getElem_range] using found.symm
  · intro kept
    have samples := repack_samples (sampleCount data) (data.drop 7)
      (by rw [List.length_drop, exact.length]; omega)
    simp only [List.drop_drop] at samples
    have words : (List.range (sampleCount data)).flatMap (fun index =>
        pack sampleFormat (sampleAt data index)) = data.drop 7 := by
      rw [← samples]
      simp only [List.flatMap_def]
      congr 1
      apply List.map_congr_left
      intro index inside
      rw [kept index (List.mem_range.mp inside), wordsAt]
    rw [encode_reread data records decoded exact, reread, words, List.take_append_drop]

/-- A packet has one content. -/
theorem carries_wrench (data : Bytes) (number : Nat) (mode : OutputRateMode)
    (words other : Nat → SampleWords) (first : Carries data number mode words)
    (second : Carries data number mode other) (index : Nat) (inside : index < mode.samplesPerPacket) :
    (words index).wrench = (other index).wrench := by
  obtain ⟨records, decoded, length, holds⟩ := first
  obtain ⟨again, decodedAgain, _, holdsAgain⟩ := second
  obtain rfl : records = again := Except.ok.inj (decoded.symm.trans decodedAgain)
  have found := List.getElem?_eq_getElem (length ▸ inside : index < records.length)
  obtain ⟨_, _, _, _, _, one⟩ := holds index _ found
  obtain ⟨_, _, _, _, _, two⟩ := holdsAgain index _ found
  exact one.symm.trans two

/-- The stream and the decoder are inverse to each other up to signalling NaNs: packet `n` of any
run decodes to the counts, the mode and the words it was written for, a signalling NaN as a quiet
one; and a decoded packet of exact length encodes back, if none of its words is one. -/
theorem stream_round_trip :
    (∀ (ticks : List Tick) (n : Nat) (tick : Tick), ticks[n]? = some tick →
      ∃ data, (streamFtData {} .new ticks)[n]? =
          some ⟨(setAll .new ((ticks.take (n + 1)).flatMap Tick.rateRequests)).get,
            tick.words, data⟩ ∧
        Carries data n (setAll .new ((ticks.take (n + 1)).flatMap Tick.rateRequests)).get
          (fun index => (tick.words index).asRead)) ∧
    ∀ (data : Bytes) (records : List FTData), decodePacket data = .ok records → Exact data →
      encodePacket records = reread data ∧
        (encodePacket records = data ↔
          ∀ index < sampleCount data, ∀ word ∈ (wrenchOf (wordsAt data index)).words,
            ¬Signalling word) := by
  refine ⟨?_, fun data records decoded exact => ?_⟩
  · intro ticks n tick present
    simpa only [Nat.zero_add] using stream_emits ticks {} 0 .new rfl rfl n tick present
  · exact ⟨encode_reread data records decoded exact, encode_same_iff data records decoded exact⟩

/-- A force of `0x7f800001`. -/
def signallingTick : Tick where
  rateRequests := []
  words := fun _ => { wrench := ⟨0x7f800001, 0, 0, 0, 0, 0⟩ }

/-- The packet made from it. -/
def signallingPacket : Bytes :=
  [0xff, 0xff, 0, 0, 29, 0, 0, 1, 0, 0, 0, 0x01, 0x00, 0x80, 0x7f] ++ List.replicate 20 0

/-- Neither the words nor the bytes of its packet come back. -/
theorem signalling_word_changes :
    (¬∀ (ticks : List Tick) (n : Nat) (tick : Tick), ticks[n]? = some tick →
      ∃ data, (streamFtData {} .new ticks)[n]? =
          some ⟨(setAll .new ((ticks.take (n + 1)).flatMap Tick.rateRequests)).get,
            tick.words, data⟩ ∧
        Carries data n (setAll .new ((ticks.take (n + 1)).flatMap Tick.rateRequests)).get
          tick.words) ∧
    ¬∀ (data : Bytes) (records : List FTData), decodePacket data = .ok records → Exact data →
      encodePacket records = data := by
  constructor
  · intro all
    obtain ⟨data, emitted, carries⟩ := all [signallingTick] 0 signallingTick rfl
    obtain ⟨again, emittedAgain, quieted⟩ :=
      stream_emits [signallingTick] {} 0 .new rfl rfl 0 signallingTick rfl
    have same : data = again :=
      congrArg Emitted.data (Option.some.inj (emitted.symm.trans emittedAgain))
    rw [← same] at quieted
    have wrench := carries_wrench data 0 _ _ _ carries quieted 0 (by decide)
    exact absurd wrench (by decide)
  · intro all
    have exact : Exact signallingPacket := by
      left
      decide
    have decoded := decodePacket_ok signallingPacket exact.accepted
    have kept := (encode_same_iff _ _ decoded exact).mp (all _ _ decoded exact)
    exact kept 0 (by decide) 0x7f800001 (by decide) (by decide)

end SchunkFts.Dummy.UdpStream

import SchunkFts.Foundation.Struct

/-! UDP packets of the sensor and the two decoders of `FTDataBuffer`. A packet is a two-byte sync
mark, a counter, a payload length, a packet id and one or sixteen 28-byte samples. -/

namespace SchunkFts.Library.Packet
open SchunkFts.Foundation.Struct

/-- Forces and torques, each the bit pattern of its 32-bit float. -/
structure Wrench where
  fx : BitVec 32
  fy : BitVec 32
  fz : BitVec 32
  tx : BitVec 32
  ty : BitVec 32
  tz : BitVec 32
  deriving DecidableEq, Repr

def Wrench.words (wrench : Wrench) : List (BitVec 32) :=
  [wrench.fx, wrench.fy, wrench.fz, wrench.tx, wrench.ty, wrench.tz]

/-- The wrench as `unpack` returns it for these words. -/
def Wrench.asRead (wrench : Wrench) : Wrench :=
  ⟨quiet wrench.fx, quiet wrench.fy, quiet wrench.fz,
    quiet wrench.tx, quiet wrench.ty, quiet wrench.tz⟩

theorem Wrench.asRead_eq_iff (wrench : Wrench) :
    wrench.asRead = wrench ↔ ∀ word ∈ wrench.words, ¬Signalling word := by
  obtain ⟨fx, fy, fz, tx, ty, tz⟩ := wrench
  simp [asRead, words, quiet_eq_iff]

/-- The two last keys are absent in single-sample packets. -/
structure FTData where
  sync : Bytes
  counter : BitVec 16
  payload : BitVec 16
  id : Byte
  statusBits : BitVec 32
  wrench : Wrench
  sampleIndex : Option Nat := none
  samplesPerPacket : Option Nat := none
  deriving DecidableEq, Repr

structure FTSample where
  counter : BitVec 16
  packetId : Byte
  sampleIndex : Nat
  samplesPerPacket : Nat
  statusBits : BitVec 32
  wrench : Wrench
  deriving DecidableEq, Repr

/-- `"<I ffffff"` -/
abbrev sampleFormat : Format := [.I, .f, .f, .f, .f, .f, .f]

def statusOf (values : Values sampleFormat) : BitVec 32 := values.1

def wrenchOf : Values sampleFormat → Wrench
  | (_, fx, fy, fz, tx, ty, tz, _) => ⟨fx, fy, fz, tx, ty, tz⟩

/-- The loop over a packaged packet, which both decoders run: one record at each offset,
`sampleSize` bytes further every time. -/
def unpackSamples {α : Type} (record : Nat → Values sampleFormat → α) (sampleSize : Nat)
    (data : Bytes) : (count sampleIndex offset : Nat) → Result (List α)
  | 0, _, _ => .ok []
  | count + 1, sampleIndex, offset => do
      let values ← unpackFrom sampleFormat data offset
      let rest ← unpackSamples record sampleSize data count (sampleIndex + 1) (offset + sampleSize)
      return record sampleIndex values :: rest

def decodePacket (data : Bytes) : Result (List FTData) := do
  let (counter, payloadLen, _) ← unpack [.H, .H] (slice data 2 6)
  if payloadLen = 29 then
    let (id, values) ← unpack (.B :: sampleFormat) (data.drop 6)
    return [{
      sync := slice data 0 2, counter := counter, payload := payloadLen, id := id,
      statusBits := statusOf values, wrench := wrenchOf values }]
  else if payloadLen = 449 then
    let packetId ← item data 6
    unpackSamples (fun sampleIndex values => {
      sync := slice data 0 2, counter := counter, payload := payloadLen, id := packetId,
      statusBits := statusOf values, wrench := wrenchOf values,
      sampleIndex := some sampleIndex, samplesPerPacket := some 16 })
      (calcsize sampleFormat) data 16 0 7
  else
    let (counter, payload, id, values) ← unpack (.H :: .H :: .B :: sampleFormat) (data.drop 2)
    return [{
      sync := slice data 0 2, counter := counter, payload := payload, id := id,
      statusBits := statusOf values, wrench := wrenchOf values }]

def decodeSampleBatch (data : Bytes) : Result (List FTSample) := do
  let (counter, payloadLen, _) ← unpack [.H, .H] (slice data 2 6)
  if payloadLen = 449 then
    let packetId ← item data 6
    unpackSamples (fun sampleIndex values => {
      counter := counter, packetId := packetId, sampleIndex := sampleIndex,
      samplesPerPacket := 16, statusBits := statusOf values, wrench := wrenchOf values })
      28 data 16 0 7
  else if payloadLen = 29 then
    let (packetId, values) ← unpack (.B :: sampleFormat) (data.drop 6)
    return [{
      counter := counter, packetId := packetId, sampleIndex := 0, samplesPerPacket := 1,
      statusBits := statusOf values, wrench := wrenchOf values }]
  else
    let (counter, _, packetId, values) ← unpack (.H :: .H :: .B :: sampleFormat) (data.drop 2)
    return [{
      counter := counter, packetId := packetId, sampleIndex := 0, samplesPerPacket := 1,
      statusBits := statusOf values, wrench := wrenchOf values }]

/-- A decoded `FTData` as the tuple of the other decoder, its absent keys defaulted. -/
def FTData.toSample (data : FTData) : FTSample where
  counter := data.counter
  packetId := data.id
  sampleIndex := data.sampleIndex.getD 0
  samplesPerPacket := data.samplesPerPacket.getD 1
  statusBits := data.statusBits
  wrench := data.wrench

/-! ### The sample loop -/

theorem unpackSamples_map {α β : Type} (record : Nat → Values sampleFormat → α) (f : α → β)
    (sampleSize : Nat) (data : Bytes) (count sampleIndex offset : Nat) :
    (unpackSamples record sampleSize data count sampleIndex offset).map (List.map f) =
      unpackSamples (fun index values => f (record index values)) sampleSize data count sampleIndex
        offset := by
  induction count generalizing sampleIndex offset with
  | zero => rfl
  | succ count ih =>
    simp only [unpackSamples, ← ih]
    cases unpackFrom sampleFormat data offset with
    | error e => rfl
    | ok values =>
      cases unpackSamples record sampleSize data count (sampleIndex + 1) (offset + sampleSize) <;>
        rfl

/-- The words of the sample at `index` of a packet. -/
def wordsAt (data : Bytes) (index : Nat) : Values sampleFormat :=
  fields sampleFormat (data.drop (7 + 28 * index))

/-- The same sample as it is read. -/
def sampleAt (data : Bytes) (index : Nat) : Values sampleFormat :=
  parse sampleFormat (data.drop (7 + 28 * index))

theorem sampleAt_eq_iff (data : Bytes) (index : Nat) :
    sampleAt data index = wordsAt data index ↔
      ∀ word ∈ (wrenchOf (wordsAt data index)).words, ¬Signalling word := by
  have read : sampleAt data index = readValues sampleFormat (wordsAt data index) := rfl
  rw [read, ← Wrench.asRead_eq_iff]
  rcases wordsAt data index with ⟨statusBits, fx, fy, fz, tx, ty, tz, _⟩
  simp [readValues, wrenchOf, Wrench.asRead]

theorem unpackSamples_ok {α : Type} (record : Nat → Values sampleFormat → α) (data : Bytes)
    (count index : Nat) (room : 7 + 28 * (index + count) ≤ data.length) :
    unpackSamples record 28 data count index (7 + 28 * index) =
      .ok ((List.range' index count).map (fun i => record i (sampleAt data i))) := by
  induction count generalizing index with
  | zero => rfl
  | succ count ih =>
    have size : calcsize sampleFormat = 28 := rfl
    have next : 7 + 28 * index + 28 = 7 + 28 * (index + 1) := by omega
    have first := unpackFrom_of_le sampleFormat data (7 + 28 * index) (by rw [size]; omega)
    simp only [unpackSamples, first, next, ih (index + 1) (by omega)]
    rfl

theorem unpackSamples_error {α : Type} (record : Nat → Values sampleFormat → α) (data : Bytes)
    (count index : Nat) (short : data.length < 7 + 28 * (index + count)) (some : 0 < count) :
    unpackSamples record 28 data count index (7 + 28 * index) = .error .structError := by
  induction count generalizing index with
  | zero => omega
  | succ count ih =>
    have size : calcsize sampleFormat = 28 := rfl
    have next : 7 + 28 * index + 28 = 7 + 28 * (index + 1) := by omega
    by_cases fits : 7 + 28 * index + 28 ≤ data.length
    · have first := unpackFrom_of_le sampleFormat data (7 + 28 * index) (by rw [size]; exact fits)
      simp only [unpackSamples, first, next]
      rw [ih (index + 1) (by omega) (by omega)]
      rfl
    · have first := unpackFrom_of_lt sampleFormat data (7 + 28 * index) (by rw [size]; omega)
      simp only [unpackSamples, first]
      rfl

/-! ### What a packet holds -/

/-- The little-endian field at bytes 2 and 3. -/
def counterField (data : Bytes) : BitVec 16 := BitVec.ofNat 16 (ofLE (slice data 2 4))

/-- The little-endian field at bytes 4 and 5. -/
def payloadField (data : Bytes) : BitVec 16 := BitVec.ofNat 16 (ofLE (slice data 4 6))

/-- A single-sample packet of exactly 35 bytes, or a packaged one of at least 455. -/
def Accepts (data : Bytes) : Prop :=
  (data.length = 35 ∧ payloadField data ≠ 449) ∨ (payloadField data = 449 ∧ 455 ≤ data.length)

instance (data : Bytes) : Decidable (Accepts data) := inferInstanceAs (Decidable (_ ∨ _))

def sampleCount (data : Bytes) : Nat := if payloadField data = 449 then 16 else 1

/-- The status bits of a packet's first sample. -/
def firstStatus (data : Bytes) : BitVec 32 := statusOf (sampleAt data 0)

/-- The sample at `index`, read at its place in the packet whatever the format. -/
def packetData (data : Bytes) (index : Nat) : FTData where
  sync := slice data 0 2
  counter := counterField data
  payload := payloadField data
  id := data.getD 6 0
  statusBits := statusOf (sampleAt data index)
  wrench := wrenchOf (sampleAt data index)
  sampleIndex := if payloadField data = 449 then some index else none
  samplesPerPacket := if payloadField data = 449 then some 16 else none

theorem Accepts.length_le {data : Bytes} (accepted : Accepts data) : 35 ≤ data.length := by
  rcases accepted with ⟨exact, _⟩ | ⟨_, long⟩ <;> omega

theorem take_drop_slice (data : Bytes) (start width : Nat) :
    (data.drop start).take width = slice data start (start + width) := by
  rw [slice, List.take_drop]

theorem getD_of_lt (data : Bytes) (index : Nat) (inside : index < data.length) :
    data.getD index 0 = data[index] := by
  rw [List.getD_eq_getElem?_getD, List.getElem?_eq_getElem inside, Option.getD_some]

theorem byte_at (data : Bytes) (index : Nat) (inside : index < data.length) :
    BitVec.ofNat 8 (ofLE ((data.drop index).take 1)) = data.getD index 0 := by
  rw [getD_of_lt data index inside, List.drop_eq_getElem_cons inside, List.take_succ_cons,
    List.take_zero]
  simp only [ofLE, Nat.mul_zero, Nat.add_zero, BitVec.ofNat_toNat, BitVec.setWidth_eq]

/-- The payload of a single-sample packet, read after its header. -/
theorem parse_payload (data : Bytes) (inside : 6 < data.length) :
    parse (.B :: sampleFormat) (data.drop 6) = (data.getD 6 0, sampleAt data 0) := by
  rw [parse_cons, ← byte_at data 6 inside, List.drop_drop]
  rfl

/-- The same packet read from its counter on. -/
theorem parse_record (data : Bytes) (inside : 6 < data.length) :
    parse (.H :: .H :: .B :: sampleFormat) (data.drop 2) =
      (counterField data, payloadField data, data.getD 6 0, sampleAt data 0) := by
  rw [parse_cons, parse_cons, parse_cons, ← byte_at data 6 inside]
  simp only [Code.size, List.drop_drop, Nat.reduceAdd, take_drop_slice]
  rfl

theorem header_unpack (data : Bytes) (long : 6 ≤ data.length) :
    unpack [.H, .H] (slice data 2 6) = .ok (counterField data, payloadField data, ()) := by
  have exact : (slice data 2 6).length = calcsize [.H, .H] := by
    rw [slice_length, Nat.min_eq_left long]
    rfl
  have whole : slice data 2 6 = (data.drop 2).take 4 := (take_drop_slice data 2 4).symm
  rw [unpack_of_length _ _ exact, whole]
  simp only [parse, fields, List.take_take, List.drop_take, List.drop_drop]
  rw [take_drop_slice, take_drop_slice]
  rfl

theorem header_short (data : Bytes) (short : data.length < 6) :
    unpack [.H, .H] (slice data 2 6) = .error .structError := by
  have different : (slice data 2 6).length ≠ calcsize [.H, .H] := by
    rw [slice_length]
    change _ ≠ 4
    omega
  exact unpack_of_length_ne _ _ different

theorem decodePacket_ok (data : Bytes) (accepted : Accepts data) :
    decodePacket data = .ok ((List.range (sampleCount data)).map (packetData data)) := by
  have long := accepted.length_le
  simp only [decodePacket, header_unpack data (by omega), bind, Except.bind, pure, Except.pure]
  rcases accepted with ⟨exact, single⟩ | ⟨packaged, room⟩
  · have one : sampleCount data = 1 := if_neg single
    have only : (List.range 1).map (packetData data) = [{
        sync := slice data 0 2, counter := counterField data, payload := payloadField data,
        id := data.getD 6 0, statusBits := statusOf (sampleAt data 0),
        wrench := wrenchOf (sampleAt data 0) }] := by
      simp only [List.range_one, List.map_cons, List.map_nil, packetData, if_neg single]
    rw [one, only]
    by_cases plain : payloadField data = 29
    · have size : (data.drop 6).length = calcsize (.B :: sampleFormat) := by
        rw [List.length_drop, exact]
        rfl
      rw [if_pos plain, unpack_of_length _ _ size, parse_payload data (by omega)]
    · have size : (data.drop 2).length = calcsize (.H :: .H :: .B :: sampleFormat) := by
        rw [List.length_drop, exact]
        rfl
      rw [if_neg plain, if_neg single, unpack_of_length _ _ size, parse_record data (by omega)]
  · have sixteen : sampleCount data = 16 := if_pos packaged
    have id : item data 6 = .ok (data.getD 6 0) := by
      rw [item_of_lt data 6 (by omega), getD_of_lt data 6 (by omega)]
    have records := unpackSamples_ok (fun sampleIndex values => ({
      sync := slice data 0 2, counter := counterField data, payload := payloadField data,
      id := data.getD 6 0, statusBits := statusOf values, wrench := wrenchOf values,
      sampleIndex := some sampleIndex, samplesPerPacket := some 16 } : FTData)) data 16 0 (by omega)
    rw [if_neg (by rw [packaged]; decide), if_pos packaged, id, sixteen, List.range_eq_range']
    refine records.trans (congrArg Except.ok (List.map_congr_left ?_))
    intro index _
    simp only [packetData, if_pos packaged]

theorem decodePacket_error (data : Bytes) (rejected : ¬Accepts data) :
    ∃ error, decodePacket data = .error error := by
  simp only [Accepts, not_or, not_and, not_not, not_le] at rejected
  obtain ⟨notSingle, notPackaged⟩ := rejected
  simp only [decodePacket, bind, Except.bind, pure, Except.pure]
  by_cases long : 6 ≤ data.length
  · simp only [header_unpack data long]
    by_cases packaged : payloadField data = 449
    · rw [if_neg (by rw [packaged]; decide), if_pos packaged]
      cases id : item data 6 with
      | error e => exact ⟨e, rfl⟩
      | ok byte =>
        have short := notPackaged packaged
        exact ⟨_, unpackSamples_error _ data 16 0 (by omega) (by decide)⟩
    · have length : data.length ≠ 35 := fun exact => packaged (notSingle exact)
      rw [if_neg packaged]
      by_cases plain : payloadField data = 29
      · rw [if_pos plain, unpack_of_length_ne _ _ (by
          rw [List.length_drop]
          change _ ≠ 29
          omega)]
        exact ⟨_, rfl⟩
      · rw [if_neg plain, unpack_of_length_ne _ _ (by
          rw [List.length_drop]
          change _ ≠ 33
          omega)]
        exact ⟨_, rfl⟩
  · rw [header_short data (by omega)]
    exact ⟨_, rfl⟩

/-- The second decoder is the first with each record read as a tuple, errors included. -/
theorem decodeSampleBatch_eq (data : Bytes) :
    decodeSampleBatch data = (decodePacket data).map (List.map FTData.toSample) := by
  simp only [decodeSampleBatch, decodePacket, bind, Except.bind, pure, Except.pure]
  by_cases long : 6 ≤ data.length
  · simp only [header_unpack data long]
    by_cases packaged : payloadField data = 449
    · rw [if_pos packaged, if_neg (by rw [packaged]; decide), if_pos packaged]
      cases item data 6 with
      | error e => rfl
      | ok byte => simp only [unpackSamples_map]; rfl
    · simp only [if_neg packaged]
      by_cases plain : payloadField data = 29
      · simp only [if_pos plain]
        cases unpack (.B :: sampleFormat) (data.drop 6) <;> rfl
      · simp only [if_neg plain]
        cases unpack (.H :: .H :: .B :: sampleFormat) (data.drop 2) <;> rfl
  · rw [header_short data (by omega)]
    rfl

theorem decodeSampleBatch_ok (data : Bytes) (accepted : Accepts data) :
    decodeSampleBatch data =
      .ok ((List.range (sampleCount data)).map (fun index => (packetData data index).toSample)) := by
  rw [decodeSampleBatch_eq, decodePacket_ok data accepted]
  simp [Except.map]

theorem decodeSampleBatch_error (data : Bytes) (rejected : ¬Accepts data) :
    ∃ error, decodeSampleBatch data = .error error := by
  obtain ⟨error, failed⟩ := decodePacket_error data rejected
  exact ⟨error, by rw [decodeSampleBatch_eq, failed]; rfl⟩

theorem sampleCount_pos (data : Bytes) : 0 < sampleCount data := by
  unfold sampleCount
  split_ifs <;> decide

theorem sampleCount_le (data : Bytes) : sampleCount data ≤ 16 := by
  unfold sampleCount
  split_ifs <;> decide

/-- The fields of a decoded sample that its place in the packet decides. -/
theorem toSample_place (data : Bytes) (index : Nat) (inside : index < sampleCount data) :
    (packetData data index).toSample.sampleIndex = index ∧
      (packetData data index).toSample.samplesPerPacket = sampleCount data := by
  unfold sampleCount at inside ⊢
  by_cases packaged : payloadField data = 449
  · simp only [FTData.toSample, packetData, if_pos packaged]
    exact ⟨rfl, rfl⟩
  · rw [if_neg packaged] at inside
    simp only [FTData.toSample, packetData, if_neg packaged]
    constructor
    · show 0 = index
      omega
    · rfl

/-- A decoded batch is never empty. -/
theorem decodeSampleBatch_cons (data : Bytes) (accepted : Accepts data) :
    ∃ first rest, decodeSampleBatch data = .ok (first :: rest) ∧
      first = (packetData data 0).toSample ∧
      first :: rest =
        (List.range (sampleCount data)).map (fun index => (packetData data index).toSample) := by
  obtain ⟨count, positive⟩ := Nat.exists_eq_succ_of_ne_zero (sampleCount_pos data).ne'
  have decoded := decodeSampleBatch_ok data accepted
  rw [positive, List.range_succ_eq_map, List.map_cons] at decoded ⊢
  exact ⟨_, _, decoded, rfl, rfl⟩

end SchunkFts.Library.Packet

import SchunkFts.Library.Packet

/-! The two decoders of `FTDataBuffer` accept the same byte strings and read the same samples. -/

namespace SchunkFts.Library.PacketAgreement
open SchunkFts.Foundation.Struct Packet

/-- A record and a tuple carry the same sample, absent keys counting as 0 and 1. -/
structure Agrees (data : FTData) (sample : FTSample) : Prop where
  counter : data.counter = sample.counter
  id : data.id = sample.packetId
  statusBits : data.statusBits = sample.statusBits
  wrench : data.wrench = sample.wrench
  sampleIndex : data.sampleIndex.getD 0 = sample.sampleIndex
  samplesPerPacket : data.samplesPerPacket.getD 1 = sample.samplesPerPacket

theorem agrees_toSample (data : FTData) : Agrees data data.toSample :=
  ⟨rfl, rfl, rfl, rfl, rfl, rfl⟩

theorem forall_agrees (records : List FTData) :
    List.Forall₂ Agrees records (records.map FTData.toSample) := by
  induction records with
  | nil => exact .nil
  | cons data rest ih => exact .cons (agrees_toSample data) ih

theorem decodePacket_ok_iff (data : Bytes) :
    (∃ records, decodePacket data = .ok records) ↔ Accepts data := by
  constructor
  · rintro ⟨records, decoded⟩
    by_contra rejected
    obtain ⟨error, failed⟩ := decodePacket_error data rejected
    rw [failed] at decoded
    cases decoded
  · intro accepted
    exact ⟨_, decodePacket_ok data accepted⟩

theorem decodeSampleBatch_ok_iff (data : Bytes) :
    (∃ samples, decodeSampleBatch data = .ok samples) ↔ Accepts data := by
  rw [← decodePacket_ok_iff, decodeSampleBatch_eq]
  cases decodePacket data <;> simp [Except.map]

theorem decoded_length (data : Bytes) (records : List FTData)
    (decoded : decodePacket data = .ok records) : records.length = 1 ∨ records.length = 16 := by
  have accepted := (decodePacket_ok_iff data).mp ⟨records, decoded⟩
  rw [decodePacket_ok data accepted] at decoded
  cases decoded
  rw [List.length_map, List.length_range, sampleCount]
  split_ifs
  · exact .inr rfl
  · exact .inl rfl

/-- Both decoders return on the same byte strings, and then sample for sample the same. -/
theorem decoders_agree (data : Bytes) :
    ((∃ records, decodePacket data = .ok records) ↔
      (data.length = 35 ∧ payloadField data ≠ 449) ∨
        (payloadField data = 449 ∧ 455 ≤ data.length)) ∧
    ((∃ samples, decodeSampleBatch data = .ok samples) ↔
      (data.length = 35 ∧ payloadField data ≠ 449) ∨
        (payloadField data = 449 ∧ 455 ≤ data.length)) ∧
    ∀ records samples, decodePacket data = .ok records → decodeSampleBatch data = .ok samples →
      records.length = samples.length ∧ (records.length = 1 ∨ records.length = 16) ∧
        List.Forall₂ Agrees records samples := by
  refine ⟨decodePacket_ok_iff data, decodeSampleBatch_ok_iff data, ?_⟩
  intro records samples first second
  rw [decodeSampleBatch_eq, first] at second
  cases second
  exact ⟨(List.length_map _).symm, decoded_length data records first, forall_agrees records⟩

end SchunkFts.Library.PacketAgreement

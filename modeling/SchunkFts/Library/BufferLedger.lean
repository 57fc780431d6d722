import SchunkFts.Library.DataBuffer
import Mathlib.Data.List.Sigma

/-! What becomes of every sample that goes through an `FTDataBuffer`. The ledger numbers the
accepted packets and says of each of their samples where it is; the buffer refines it. -/

namespace SchunkFts.Library.BufferLedger
open SchunkFts.Foundation.Struct SchunkFts.Foundation.Queue Packet DataBuffer

inductive Call where
  | put (packet : Bytes)
  | get (now : Int)
  | getSampleBatch (now : Int)
  | clear (now : Int)

inductive Returned where
  | nothing
  | data (data : FTData)
  | batch (samples : List FTSample)

def call (buffer : FTDataBuffer) : Call → FTDataBuffer × Result Returned
  | .put packet => (buffer.put packet, .ok .nothing)
  | .get now =>
      ((buffer.get now).1, (buffer.get now).2.map (fun answer => answer.elim .nothing .data))
  | .getSampleBatch now =>
      ((buffer.getSampleBatch now).1,
        (buffer.getSampleBatch now).2.map (fun answer => answer.elim .nothing .batch))
  | .clear now => (buffer.clear now, .ok .nothing)

/-- A buffer and what its calls have come to. -/
structure Recorded where
  buffer : FTDataBuffer
  outcomes : List (Result Returned)

def Recorded.step (recorded : Recorded) (next : Call) : Recorded where
  buffer := (call recorded.buffer next).1
  outcomes := recorded.outcomes ++ [(call recorded.buffer next).2]

def record (maxsize : Nat) (now : Int) (calls : List Call) : Recorded :=
  calls.foldl Recorded.step ⟨.new maxsize now, []⟩

/-! ### The ledger -/

/-- A sample of the accepted packet of that number. -/
structure Token where
  packet : Nat
  data : FTData
  deriving DecidableEq

/-- The samples of a numbered packet, none if it cannot be decoded. -/
def samplesOf (entry : Bytes × Nat) : List Token :=
  match decodePacket entry.1 with
  | .ok samples => samples.map (Token.mk entry.2)
  | .error _ => []

/-- The samples of the packets from number `taken` on. -/
def unread (accepted : List Bytes) (taken : Nat) : List Token :=
  (accepted.zipIdx.drop taken).flatMap samplesOf

inductive Answer where
  | nothing
  | empty
  | raised
  | sample (token : Token)
  | batch (tokens : List Token)

def Answer.tokens : Answer → List Token
  | nothing => []
  | empty => []
  | raised => []
  | sample token => [token]
  | batch tokens => tokens

structure Ledger where
  accepted : List Bytes := []
  refused : Nat := 0
  taken : Nat := 0
  pending : List Token := []
  discarded : List Token := []
  answers : List Answer := []

namespace Ledger

def all (ledger : Ledger) : List Token := unread ledger.accepted 0

def queued (ledger : Ledger) : List Token := unread ledger.accepted ledger.taken

def returned (ledger : Ledger) : List Token := ledger.answers.flatMap Answer.tokens

/-- A packet whose samples are to be read, with what is left in the queue. -/
def take (ledger : Ledger) : Ledger := { ledger with taken := ledger.taken + 1 }

def serve (maxsize : Nat) (ledger : Ledger) : Call → Ledger × Answer
  | .put packet =>
      if ledger.accepted.length - ledger.taken = maxsize then
        ({ ledger with refused := ledger.refused + 1 }, .nothing)
      else ({ ledger with accepted := ledger.accepted ++ [packet] }, .nothing)
  | .get _ =>
      match ledger.pending with
      | token :: rest => ({ ledger with pending := rest }, .sample token)
      | [] =>
          match ledger.accepted[ledger.taken]? with
          | none => (ledger, .empty)
          | some packet =>
              match samplesOf (packet, ledger.taken) with
              | [] => (ledger.take, .raised)
              | token :: rest => ({ ledger.take with pending := rest }, .sample token)
  | .getSampleBatch _ =>
      match ledger.accepted[ledger.taken]? with
      | none => (ledger, .empty)
      | some packet =>
          match samplesOf (packet, ledger.taken) with
          | [] => (ledger.take, .raised)
          | token :: rest => (ledger.take, .batch (token :: rest))
  | .clear _ =>
      ({ ledger with
          discarded := ledger.discarded ++ (ledger.pending ++ ledger.queued)
          pending := []
          taken := ledger.accepted.length }, .nothing)

def step (maxsize : Nat) (ledger : Ledger) (next : Call) : Ledger :=
  { (ledger.serve maxsize next).1 with
    answers := ledger.answers ++ [(ledger.serve maxsize next).2] }

end Ledger

def ledgerOf (maxsize : Nat) (calls : List Call) : Ledger := calls.foldl (Ledger.step maxsize) {}

/-- The outcome of a call is the one the ledger answers with. -/
def Shows : Answer → Result Returned → Prop
  | .nothing, .ok .nothing => True
  | .empty, .ok .nothing => True
  | .empty, .ok (.data data) => data = noSignal
  | .empty, .ok (.batch samples) => samples = [noSignalSample]
  | .raised, .error _ => True
  | .sample token, .ok (.data data) => data = token.data
  | .batch tokens, .ok (.batch samples) => samples = tokens.map (fun token => token.data.toSample)
  | _, _ => False

/-! ### Samples of numbered packets -/

theorem samplesOf_accepted (packet : Bytes) (number : Nat) (accepted : Accepts packet) :
    samplesOf (packet, number) =
      (List.range (sampleCount packet)).map (fun index => ⟨number, packetData packet index⟩) := by
  simp only [samplesOf, decodePacket_ok packet accepted, List.map_map]
  rfl

theorem samplesOf_rejected (packet : Bytes) (number : Nat) (rejected : ¬Accepts packet) :
    samplesOf (packet, number) = [] := by
  obtain ⟨error, failed⟩ := decodePacket_error packet rejected
  simp only [samplesOf, failed]

theorem unread_append (accepted : List Bytes) (packet : Bytes) (taken : Nat)
    (within : taken ≤ accepted.length) :
    unread (accepted ++ [packet]) taken =
      unread accepted taken ++ samplesOf (packet, accepted.length) := by
  have entries : (accepted ++ [packet]).zipIdx = accepted.zipIdx ++ [(packet, accepted.length)] := by
    rw [List.zipIdx_append, Nat.zero_add]
    rfl
  rw [unread, entries, List.drop_append_of_le_length (by rwa [List.length_zipIdx]),
    List.flatMap_append, List.flatMap_singleton]
  rfl

theorem unread_front (accepted : List Bytes) (packet : Bytes) (taken : Nat)
    (front : accepted[taken]? = some packet) :
    unread accepted taken = samplesOf (packet, taken) ++ unread accepted (taken + 1) := by
  obtain ⟨inside, value⟩ := List.getElem?_eq_some_iff.mp front
  have within : taken < accepted.zipIdx.length := by rwa [List.length_zipIdx]
  have entry : accepted.zipIdx[taken] = (packet, taken) := by
    rw [List.getElem_zipIdx, value, Nat.zero_add]
  rw [unread, List.drop_eq_getElem_cons within, entry, List.flatMap_cons]
  rfl

theorem unread_end (accepted : List Bytes) : unread accepted accepted.length = [] := by
  rw [unread, List.drop_eq_nil_of_le (by rw [List.length_zipIdx])]
  rfl

theorem samplesOf_number (entry : Bytes × Nat) (token : Token) (member : token ∈ samplesOf entry) :
    token.packet = entry.2 := by
  unfold samplesOf at member
  split at member
  next samples decoded =>
    obtain ⟨data, _, rfl⟩ := List.mem_map.mp member
    rfl
  next => cases member

theorem samplesOf_nodup (entry : Bytes × Nat) : (samplesOf entry).Nodup := by
  obtain ⟨packet, number⟩ := entry
  by_cases accepted : Accepts packet
  · rw [samplesOf_accepted packet number accepted]
    by_cases packaged : payloadField packet = 449
    · apply List.Nodup.map_on _ List.nodup_range
      intro first _ second _ same
      have index := congrArg (fun token : Token => token.data.sampleIndex) same
      simpa only [packetData, if_pos packaged, Option.some_inj] using index
    · rw [sampleCount, if_neg packaged]
      exact List.nodup_singleton _
  · rw [samplesOf_rejected packet number accepted]
    exact List.nodup_nil

theorem unread_nodup (accepted : List Bytes) : (unread accepted 0).Nodup := by
  rw [unread, List.drop_zero, List.nodup_flatMap]
  refine ⟨fun entry _ => samplesOf_nodup entry, ?_⟩
  have numbers := List.nodup_zipIdx_map_snd accepted
  rw [List.Nodup, List.pairwise_map] at numbers
  apply numbers.imp
  intro first second different token inFirst inSecond
  exact different ((samplesOf_number first token inFirst).symm.trans
    (samplesOf_number second token inSecond))

/-! ### The ledger keeps its books -/

/-- The pending samples are a proper tail of one packet, whose other samples are among `given`. -/
def Ledger.Begun (ledger : Ledger) (given : List Token) : Prop :=
  ledger.pending = [] ∨ ∃ number packet done, ledger.accepted[number]? = some packet ∧ done ≠ [] ∧
    samplesOf (packet, number) = done ++ ledger.pending ∧ ∀ token ∈ done, token ∈ given

/-- Every sample of an accepted packet is in one place, `given` being those returned. -/
structure Ledger.Balanced (ledger : Ledger) (given : List Token) : Prop where
  within : ledger.taken ≤ ledger.accepted.length
  conserved : ∀ token, given.count token + ledger.discarded.count token +
    (ledger.pending.count token + ledger.queued.count token) = ledger.all.count token
  begun : ledger.Begun given

theorem getElem?_append_some (accepted : List Bytes) (packet other : Bytes) (number : Nat)
    (found : accepted[number]? = some packet) :
    (accepted ++ [other])[number]? = some packet := by
  obtain ⟨inside, _⟩ := List.getElem?_eq_some_iff.mp found
  rw [List.getElem?_append_left inside, found]

theorem balanced_put (maxsize : Nat) (ledger : Ledger) (given : List Token)
    (balanced : ledger.Balanced given) (packet : Bytes) :
    (ledger.serve maxsize (.put packet)).1.Balanced given := by
  unfold Ledger.serve
  split_ifs with full
  · exact ⟨balanced.within, balanced.conserved, balanced.begun⟩
  · have within := balanced.within
    refine ⟨?_, ?_, ?_⟩
    · show ledger.taken ≤ (ledger.accepted ++ [packet]).length
      rw [List.length_append]
      omega
    · intro token
      have before := balanced.conserved token
      simp only [Ledger.queued, Ledger.all] at before ⊢
      rw [unread_append _ _ _ within, unread_append _ _ _ (Nat.zero_le _)]
      simp only [List.count_append]
      omega
    · rcases balanced.begun with none | ⟨number, begun, done, found, some, split, all⟩
      · exact .inl none
      · exact .inr ⟨number, begun, done, getElem?_append_some _ _ _ _ found, some, split, all⟩

theorem balanced_clear (maxsize : Nat) (ledger : Ledger) (given : List Token)
    (balanced : ledger.Balanced given) (now : Int) :
    (ledger.serve maxsize (.clear now)).1.Balanced given := by
  refine ⟨Nat.le_refl _, ?_, .inl rfl⟩
  intro token
  have before := balanced.conserved token
  have left := unread_end ledger.accepted
  simp only [Ledger.serve, Ledger.queued, Ledger.all, left, List.count_append,
    List.count_nil] at before ⊢
  omega

/-- Reading the next packet moves its samples out of the queue. -/
theorem balanced_take (ledger : Ledger) (given : List Token) (balanced : ledger.Balanced given)
    (packet : Bytes) (front : ledger.accepted[ledger.taken]? = some packet)
    (read left : List Token) (split : samplesOf (packet, ledger.taken) = read ++ left)
    (pending : List Token) (same : ∀ token, pending.count token = ledger.pending.count token +
      left.count token) (begun : Ledger.Begun { ledger.take with pending := pending } (given ++ read)) :
    Ledger.Balanced { ledger.take with pending := pending } (given ++ read) := by
  refine ⟨?_, ?_, begun⟩
  · obtain ⟨inside, _⟩ := List.getElem?_eq_some_iff.mp front
    exact inside
  · intro token
    have before := balanced.conserved token
    have moved := same token
    have queued : ledger.queued = read ++ left ++ ledger.take.queued := by
      rw [← split]
      exact unread_front _ _ _ front
    rw [queued] at before
    simp only [List.count_append] at before ⊢
    show _ + ledger.discarded.count token + (pending.count token + ledger.take.queued.count token) =
      ledger.all.count token
    omega

theorem Ledger.Begun.mono (ledger : Ledger) (given more : List Token) (begun : ledger.Begun given) :
    ledger.take.Begun (given ++ more) := by
  rcases begun with none | ⟨number, packet, done, found, some, split, all⟩
  · exact .inl none
  · refine .inr ⟨number, packet, done, found, some, split, ?_⟩
    intro token member
    exact List.mem_append_left _ (all token member)

theorem balanced_get (maxsize : Nat) (ledger : Ledger) (given : List Token)
    (balanced : ledger.Balanced given) (now : Int) :
    (ledger.serve maxsize (.get now)).1.Balanced
      (given ++ (ledger.serve maxsize (.get now)).2.tokens) := by
  simp only [Ledger.serve]
  split
  next token rest held =>
    refine ⟨balanced.within, ?_, ?_⟩
    · intro other
      have before := balanced.conserved other
      rw [held, ← List.singleton_append, List.count_append] at before
      simp only [Answer.tokens, List.count_append]
      show _ + (rest.count other + ledger.queued.count other) = ledger.all.count other
      omega
    · rcases balanced.begun with none | ⟨number, packet, done, found, some, split, all⟩
      · rw [held] at none
        cases none
      · refine .inr ⟨number, packet, done ++ [token], found, by simp, ?_, ?_⟩
        · rw [split, held, List.append_assoc]
          rfl
        · intro other member
          rcases List.mem_append.mp member with earlier | last
          · exact List.mem_append_left _ (all other earlier)
          · exact List.mem_append_right _ last
  next held =>
    split
    next absent =>
      simp only [Answer.tokens, List.append_nil]
      exact balanced
    next packet front =>
      split
      next undecodable =>
        simp only [Answer.tokens]
        exact balanced_take ledger given balanced packet front [] [] undecodable ledger.pending
          (fun _ => rfl) (.inl held)
      next token rest decoded =>
        simp only [Answer.tokens]
        apply balanced_take ledger given balanced packet front [token] rest decoded rest
        · intro other
          rw [held, List.count_nil, Nat.zero_add]
        · refine .inr ⟨ledger.taken, packet, [token], front, by simp, decoded, ?_⟩
          intro other member
          exact List.mem_append_right _ member

theorem balanced_getSampleBatch (maxsize : Nat) (ledger : Ledger) (given : List Token)
    (balanced : ledger.Balanced given) (now : Int) :
    (ledger.serve maxsize (.getSampleBatch now)).1.Balanced
      (given ++ (ledger.serve maxsize (.getSampleBatch now)).2.tokens) := by
  simp only [Ledger.serve]
  split
  next absent =>
    simp only [Answer.tokens, List.append_nil]
    exact balanced
  next packet front =>
    split
    next undecodable =>
      exact balanced_take ledger given balanced packet front [] [] undecodable ledger.pending
        (fun _ => rfl) (balanced.begun.mono ledger given [])
    next token rest decoded =>
      apply balanced_take ledger given balanced packet front (token :: rest) []
        (by rw [decoded, List.append_nil]) ledger.pending (fun _ => rfl)
      exact balanced.begun.mono ledger given (token :: rest)

/-- The ledger's invariant. -/
def Ledger.Sound (ledger : Ledger) : Prop := ledger.Balanced ledger.returned

theorem sound_step (maxsize : Nat) (ledger : Ledger) (sound : ledger.Sound) (next : Call) :
    (ledger.step maxsize next).Sound := by
  have served : (ledger.serve maxsize next).1.Balanced
      (ledger.returned ++ (ledger.serve maxsize next).2.tokens) := by
    cases next with
    | put packet =>
      have put := balanced_put maxsize ledger ledger.returned sound packet
      simp only [Ledger.serve] at put ⊢
      split_ifs at put ⊢ <;> simpa only [Answer.tokens, List.append_nil] using put
    | get now => exact balanced_get maxsize ledger ledger.returned sound now
    | getSampleBatch now => exact balanced_getSampleBatch maxsize ledger ledger.returned sound now
    | clear now =>
      have cleared := balanced_clear maxsize ledger ledger.returned sound now
      simpa only [Ledger.serve, Answer.tokens, List.append_nil] using cleared
  have returned : (ledger.step maxsize next).returned =
      ledger.returned ++ (ledger.serve maxsize next).2.tokens := by
    simp only [Ledger.returned, Ledger.step, List.flatMap_append, List.flatMap_singleton]
  rw [Ledger.Sound, returned]
  exact ⟨served.within, served.conserved, served.begun⟩

/-! ### The buffer does what the ledger says -/

structure Refines (maxsize : Nat) (buffer : FTDataBuffer) (ledger : Ledger) : Prop where
  sized : buffer.queue.maxsize = maxsize
  stored : buffer.queue.History ledger.accepted ledger.taken
  pending : buffer.pendingSamples = ledger.pending.map Token.data
  dropped : buffer.droppedPacketCount = ledger.refused

theorem refines_put (maxsize : Nat) (positive : 0 < maxsize) (buffer : FTDataBuffer)
    (ledger : Ledger) (refines : Refines maxsize buffer ledger) (packet : Bytes) :
    Refines maxsize (buffer.put packet) (ledger.serve maxsize (.put packet)).1 := by
  have size : buffer.queue.items.length = ledger.accepted.length - ledger.taken := by
    rw [refines.stored.items, List.length_drop]
  have fullness := buffer.queue.full_iff (by rw [refines.sized]; exact positive)
  rw [refines.sized, size] at fullness
  simp only [Ledger.serve]
  by_cases full : buffer.queue.Full
  · rw [if_pos (fullness.mp full), buffer.put_full packet full]
    refine ⟨refines.sized, refines.stored, refines.pending, ?_⟩
    show buffer.droppedPacketCount + 1 = ledger.refused + 1
    rw [refines.dropped]
  · obtain ⟨queue, items, sized, put⟩ := buffer.put_room packet full
    rw [if_neg (fun same => full (fullness.mpr same)), put]
    exact ⟨sized.trans refines.sized, refines.stored.put packet items, refines.pending,
      refines.dropped⟩

theorem onEmpty_refines {α : Type} (maxsize : Nat) (buffer : FTDataBuffer) (ledger : Ledger)
    (refines : Refines maxsize buffer ledger) (now : Int) (placeholder : α) :
    Refines maxsize (buffer.onEmpty now placeholder).1 ledger := by
  obtain ⟨printed, same⟩ := buffer.onEmpty_state now placeholder
  rw [same]
  exact ⟨refines.sized, refines.stored, refines.pending, refines.dropped⟩

theorem refines_get (maxsize : Nat) (buffer : FTDataBuffer) (ledger : Ledger)
    (refines : Refines maxsize buffer ledger) (now : Int) :
    Refines maxsize (call buffer (.get now)).1 (ledger.serve maxsize (.get now)).1 ∧
      Shows (ledger.serve maxsize (.get now)).2 (call buffer (.get now)).2 := by
  have pending := refines.pending
  cases held : ledger.pending with
  | cons token rest =>
    rw [held, List.map_cons] at pending
    simp only [call, Ledger.serve, held, buffer.get_pending now token.data _ pending]
    exact ⟨⟨refines.sized, refines.stored, rfl, refines.dropped⟩, rfl⟩
  | nil =>
    rw [held, List.map_nil] at pending
    cases content : buffer.queue.items with
    | nil =>
      have absent := refines.stored.empty_iff.mp content
      simp only [call, Ledger.serve, held, absent, buffer.get_empty now pending content]
      refine ⟨onEmpty_refines maxsize buffer ledger refines now noSignal, ?_⟩
      unfold FTDataBuffer.onEmpty
      split_ifs
      · exact rfl
      · exact trivial
    | cons packet others =>
      obtain ⟨queue, items, sized, got⟩ := buffer.get_packet now packet others pending content
      have front := refines.stored.front packet others content
      have stored := refines.stored.get packet others content items
      have fits := sized.trans refines.sized
      by_cases accepted : Accepts packet
      · obtain ⟨count, positive⟩ := Nat.exists_eq_succ_of_ne_zero (sampleCount_pos packet).ne'
        have samples := samplesOf_accepted packet ledger.taken accepted
        have decoded := decodePacket_ok packet accepted
        rw [positive, List.range_succ_eq_map, List.map_cons] at samples decoded
        simp only [decoded] at got
        simp only [call, Ledger.serve, held, front, samples, got]
        refine ⟨⟨fits, stored, ?_, refines.dropped⟩, rfl⟩
        simp only [List.map_map]
        rfl
      · obtain ⟨error, failed⟩ := decodePacket_error packet accepted
        have samples := samplesOf_rejected packet ledger.taken accepted
        simp only [failed] at got
        simp only [call, Ledger.serve, held, front, samples, got]
        exact ⟨⟨fits, stored, refines.pending, refines.dropped⟩, trivial⟩

theorem refines_getSampleBatch (maxsize : Nat) (buffer : FTDataBuffer) (ledger : Ledger)
    (refines : Refines maxsize buffer ledger) (now : Int) :
    Refines maxsize (call buffer (.getSampleBatch now)).1
        (ledger.serve maxsize (.getSampleBatch now)).1 ∧
      Shows (ledger.serve maxsize (.getSampleBatch now)).2
        (call buffer (.getSampleBatch now)).2 := by
  cases content : buffer.queue.items with
  | nil =>
    have absent := refines.stored.empty_iff.mp content
    simp only [call, Ledger.serve, absent, buffer.getSampleBatch_empty now content]
    refine ⟨onEmpty_refines maxsize buffer ledger refines now [noSignalSample], ?_⟩
    unfold FTDataBuffer.onEmpty
    split_ifs
    · exact rfl
    · exact trivial
  | cons packet others =>
    obtain ⟨queue, items, sized, got⟩ := buffer.getSampleBatch_packet now packet others content
    have front := refines.stored.front packet others content
    have stored := refines.stored.get packet others content items
    have fits := sized.trans refines.sized
    by_cases accepted : Accepts packet
    · obtain ⟨count, positive⟩ := Nat.exists_eq_succ_of_ne_zero (sampleCount_pos packet).ne'
      have samples := samplesOf_accepted packet ledger.taken accepted
      have decoded := decodeSampleBatch_ok packet accepted
      rw [positive, List.range_succ_eq_map, List.map_cons] at samples decoded
      simp only [call, Ledger.serve, front, samples, got, decoded]
      refine ⟨⟨fits, stored, refines.pending, refines.dropped⟩, ?_⟩
      show _ = List.map _ _
      simp only [List.map_cons, List.map_map]
      rfl
    · obtain ⟨error, failed⟩ := decodeSampleBatch_error packet accepted
      have samples := samplesOf_rejected packet ledger.taken accepted
      simp only [call, Ledger.serve, front, samples, got, failed]
      exact ⟨⟨fits, stored, refines.pending, refines.dropped⟩, trivial⟩

theorem refines_call (maxsize : Nat) (positive : 0 < maxsize) (buffer : FTDataBuffer)
    (ledger : Ledger) (refines : Refines maxsize buffer ledger) (next : Call) :
    Refines maxsize (call buffer next).1 (ledger.serve maxsize next).1 ∧
      Shows (ledger.serve maxsize next).2 (call buffer next).2 := by
  cases next with
  | put packet =>
    refine ⟨refines_put maxsize positive buffer ledger refines packet, ?_⟩
    simp only [Ledger.serve]
    split_ifs <;> exact trivial
  | get now => exact refines_get maxsize buffer ledger refines now
  | getSampleBatch now => exact refines_getSampleBatch maxsize buffer ledger refines now
  | clear now => exact ⟨⟨refines.sized, refines.stored.clear, rfl, refines.dropped⟩, trivial⟩

/-! ### Failing calls -/

theorem samplesOf_eq_nil (packet : Bytes) (number : Nat) :
    samplesOf (packet, number) = [] ↔ ¬Accepts packet := by
  constructor
  · intro none accepted
    have positive := sampleCount_pos packet
    rw [samplesOf_accepted packet number accepted, List.map_eq_nil_iff, List.range_eq_nil] at none
    omega
  · exact samplesOf_rejected packet number

/-- The calls that take the packet at the front of the queue. -/
def Takes (buffer : FTDataBuffer) : Call → Prop
  | .get _ => buffer.pendingSamples = []
  | .getSampleBatch _ => True
  | _ => False

theorem shows_raised (answer : Answer) (outcome : Result Returned) (shows_it : Shows answer outcome) :
    answer = .raised ↔ ∃ error, outcome = .error error := by
  cases answer <;> rcases outcome with error | returned <;> try cases returned
  all_goals simp_all [Shows]

theorem serve_raised (maxsize : Nat) (buffer : FTDataBuffer) (ledger : Ledger)
    (refines : Refines maxsize buffer ledger) (next : Call) :
    (ledger.serve maxsize next).2 = .raised ↔
      Takes buffer next ∧ ∃ packet, ledger.accepted[ledger.taken]? = some packet ∧
        ¬Accepts packet := by
  have pending := refines.pending
  simp only [← samplesOf_eq_nil _ ledger.taken]
  cases next with
  | put packet =>
    simp only [Ledger.serve, Takes, false_and, iff_false]
    split_ifs <;> nofun
  | clear now => simp [Ledger.serve, Takes]
  | get now =>
    cases held : ledger.pending with
    | cons token rest => simp [Ledger.serve, Takes, held, pending]
    | nil =>
      cases front : ledger.accepted[ledger.taken]? with
      | none => simp [Ledger.serve, held, front]
      | some packet =>
        cases samples : samplesOf (packet, ledger.taken) <;>
          simp [Ledger.serve, Takes, held, front, samples, pending]
  | getSampleBatch now =>
    cases front : ledger.accepted[ledger.taken]? with
    | none => simp [Ledger.serve, front]
    | some packet =>
      cases samples : samplesOf (packet, ledger.taken) <;>
        simp [Ledger.serve, Takes, front, samples]

/-- A call fails on an undecodable packet in front and on nothing else. -/
theorem call_error_iff (maxsize : Nat) (positive : 0 < maxsize) (buffer : FTDataBuffer)
    (ledger : Ledger) (refines : Refines maxsize buffer ledger) (next : Call) :
    (∃ error, (call buffer next).2 = .error error) ↔
      Takes buffer next ∧ ∃ packet rest, buffer.queue.items = packet :: rest ∧ ¬Accepts packet := by
  have shown := (refines_call maxsize positive buffer ledger refines next).2
  have front (packet : Bytes) : ledger.accepted[ledger.taken]? = some packet ↔
      ∃ rest, buffer.queue.items = packet :: rest := by
    rw [refines.stored.items, ← List.head?_drop, List.head?_eq_some_iff]
  rw [← shows_raised _ _ shown, serve_raised maxsize buffer ledger refines]
  simp only [front, exists_and_right]

/-- A call that fails removes the packet it fails on and touches nothing else. -/
theorem call_error_removes (buffer : FTDataBuffer) (next : Call) (error : PyError)
    (failed : (call buffer next).2 = .error error) :
    ∃ packet, buffer.queue.items = packet :: (call buffer next).1.queue.items ∧
      (call buffer next).1.pendingSamples = buffer.pendingSamples ∧
      (call buffer next).1.droppedPacketCount = buffer.droppedPacketCount := by
  have answers {α : Type} (now : Int) (placeholder : α) (wrap : Option α → Returned) :
      (buffer.onEmpty now placeholder).2.map wrap ≠ .error error := by
    unfold FTDataBuffer.onEmpty
    split_ifs <;> nofun
  cases next with
  | put packet => cases failed
  | clear now => cases failed
  | get now =>
    cases held : buffer.pendingSamples with
    | cons sample rest =>
      simp only [call, buffer.get_pending now sample rest held] at failed
      cases failed
    | nil =>
      cases content : buffer.queue.items with
      | nil =>
        simp only [call, buffer.get_empty now held content] at failed
        exact absurd failed (answers now noSignal _)
      | cons packet rest =>
        obtain ⟨queue, items, _, got⟩ := buffer.get_packet now packet rest held content
        refine ⟨packet, ?_⟩
        simp only [call, got] at failed ⊢
        split at failed
        next raised decoded => exact ⟨by rw [items], held, rfl⟩
        next decoded => exact ⟨by rw [items], held, rfl⟩
        next first others decoded => cases failed
  | getSampleBatch now =>
    cases content : buffer.queue.items with
    | nil =>
      simp only [call, buffer.getSampleBatch_empty now content] at failed
      exact absurd failed (answers now [noSignalSample] _)
    | cons packet rest =>
      obtain ⟨queue, items, _, got⟩ := buffer.getSampleBatch_packet now packet rest content
      refine ⟨packet, ?_, ?_, ?_⟩
      · simp only [call, got, items]
      · simp only [call, got]
      · simp only [call, got]

/-- Pending samples are at most fifteen, of consecutive indices up to the last of a packet. -/
theorem pending_indices (ledger : Ledger) (given : List Token) (begun : ledger.Begun given) :
    ledger.pending.length ≤ 15 ∧
      ledger.pending.map (fun token => token.data.sampleIndex) =
        (List.range' (16 - ledger.pending.length) ledger.pending.length).map some := by
  rcases begun with none | ⟨number, packet, done, _, some_done, split, _⟩
  · rw [none]
    exact ⟨Nat.zero_le 15, rfl⟩
  · have accepted : Accepts packet := by
      by_contra rejected
      rw [samplesOf_rejected packet number rejected] at split
      exact some_done (List.append_eq_nil_iff.mp split.symm).1
    have begun : 0 < done.length := List.length_pos_iff.mpr some_done
    rw [samplesOf_accepted packet number accepted] at split
    have total := congrArg List.length split
    rw [List.length_map, List.length_range, List.length_append] at total
    have most := sampleCount_le packet
    refine ⟨by omega, ?_⟩
    by_cases packaged : payloadField packet = 449
    · have sixteen : sampleCount packet = 16 := if_pos packaged
      rw [sixteen] at split total
      have last : 16 - ledger.pending.length = done.length := by omega
      have rest := congrArg (List.drop done.length) split
      rw [List.drop_left] at rest
      rw [last, ← rest, List.map_drop, List.map_map, List.length_drop, List.length_map,
        List.length_range]
      have indices : (List.range 16).map ((fun token : Token => token.data.sampleIndex) ∘
          fun index => ⟨number, packetData packet index⟩) = (List.range 16).map some := by
        apply List.map_congr_left
        intro index _
        simp only [Function.comp_apply, packetData, if_pos packaged]
      rw [indices, ← List.map_drop, List.range_eq_range', List.drop_range', Nat.mul_one,
        Nat.zero_add]
    · have one : sampleCount packet = 1 := if_neg packaged
      have empty : ledger.pending = [] := List.length_eq_zero_iff.mp (by omega)
      rw [empty]
      rfl

/-! ### Any sequence of calls -/

/-- The buffer and the ledger after the same calls. -/
structure InStep (maxsize : Nat) (recorded : Recorded) (ledger : Ledger) : Prop where
  refines : Refines maxsize recorded.buffer ledger
  sound : ledger.Sound
  shown : List.Forall₂ Shows ledger.answers recorded.outcomes

theorem inStep_next (maxsize : Nat) (positive : 0 < maxsize) (recorded : Recorded)
    (ledger : Ledger) (inStep : InStep maxsize recorded ledger) (next : Call) :
    InStep maxsize (recorded.step next) (ledger.step maxsize next) := by
  obtain ⟨refines, shown⟩ := refines_call maxsize positive recorded.buffer ledger inStep.refines next
  refine ⟨?_, sound_step maxsize ledger inStep.sound next, ?_⟩
  · exact ⟨refines.sized, refines.stored, refines.pending, refines.dropped⟩
  · exact List.rel_append inStep.shown (.cons shown .nil)

theorem inStep_run (maxsize : Nat) (positive : 0 < maxsize) (now : Int) (calls : List Call) :
    InStep maxsize (record maxsize now calls) (ledgerOf maxsize calls) := by
  apply List.foldl_rel
  · refine ⟨⟨rfl, BoundedQueue.history_new maxsize, rfl, rfl⟩, ⟨Nat.le_refl 0, ?_, .inl rfl⟩, .nil⟩
    intro token
    rfl
  · intro next _ recorded ledger inStep
    exact inStep_next maxsize positive recorded ledger inStep next

/-- The state of a buffer, where everything it has accepted is accounted for. -/
structure Accounts (maxsize : Nat) (recorded : Recorded) (ledger : Ledger) : Prop where
  bounded : recorded.buffer.queue.items.length ≤ maxsize
  stored : recorded.buffer.queue.items = ledger.accepted.drop ledger.taken
  held : recorded.buffer.pendingSamples = ledger.pending.map Token.data
  dropped : recorded.buffer.droppedPacketCount = ledger.refused
  shown : List.Forall₂ Shows ledger.answers recorded.outcomes
  once : ∀ token, ledger.returned.count token + ledger.discarded.count token +
    (ledger.pending.count token + ledger.queued.count token) = if token ∈ ledger.all then 1 else 0
  tail : ledger.Begun ledger.returned
  indices : recorded.buffer.pendingSamples.length ≤ 15 ∧
    recorded.buffer.pendingSamples.map FTData.sampleIndex =
      (List.range' (16 - recorded.buffer.pendingSamples.length)
        recorded.buffer.pendingSamples.length).map some

/-- What the next call does to that state. -/
structure Continues (maxsize : Nat) (buffer : FTDataBuffer) (ledger : Ledger) : Prop where
  refuses : ∀ packet, buffer.queue.items.length = maxsize →
    buffer.put packet = { buffer with droppedPacketCount := buffer.droppedPacketCount + 1 }
  accepts : ∀ packet, buffer.queue.items.length ≠ maxsize →
    (buffer.put packet).queue.items = buffer.queue.items ++ [packet] ∧
    (buffer.put packet).pendingSamples = buffer.pendingSamples ∧
    (buffer.put packet).droppedPacketCount = buffer.droppedPacketCount
  shows_it : ∀ next, Shows (ledger.serve maxsize next).2 (call buffer next).2
  placeholder : ∀ next, (ledger.serve maxsize next).2 = .empty → buffer.queue.items = []
  raises : ∀ next, (∃ error, (call buffer next).2 = .error error) ↔
    Takes buffer next ∧ ∃ packet rest, buffer.queue.items = packet :: rest ∧ ¬Accepts packet
  removes : ∀ next error, (call buffer next).2 = .error error →
    ∃ packet, buffer.queue.items = packet :: (call buffer next).1.queue.items ∧
      (call buffer next).1.pendingSamples = buffer.pendingSamples ∧
      (call buffer next).1.droppedPacketCount = buffer.droppedPacketCount

theorem serve_empty (maxsize : Nat) (ledger : Ledger) (next : Call)
    (empty : (ledger.serve maxsize next).2 = .empty) : ledger.accepted[ledger.taken]? = none := by
  cases next with
  | put packet =>
    simp only [Ledger.serve] at empty
    split_ifs at empty
  | clear now => cases empty
  | get now =>
    simp only [Ledger.serve] at empty
    split at empty
    next => cases empty
    next =>
      split at empty
      next absent => exact absent
      next => split at empty <;> cases empty
  | getSampleBatch now =>
    simp only [Ledger.serve] at empty
    split at empty
    next absent => exact absent
    next => split at empty <;> cases empty

theorem accounts_of_inStep (maxsize : Nat) (positive : 0 < maxsize) (recorded : Recorded)
    (ledger : Ledger) (inStep : InStep maxsize recorded ledger) :
    Accounts maxsize recorded ledger := by
  obtain ⟨refines, sound, shown⟩ := inStep
  have indices := pending_indices ledger ledger.returned sound.begun
  refine ⟨?_, refines.stored.items, refines.pending, refines.dropped, shown, ?_, sound.begun, ?_⟩
  · have bound := recorded.buffer.queue.bounded (by rw [refines.sized]; exact positive)
    rwa [refines.sized] at bound
  · intro token
    rw [sound.conserved token]
    split_ifs with member
    · exact List.count_eq_one_of_mem (unread_nodup ledger.accepted) member
    · exact List.count_eq_zero_of_not_mem member
  · rw [refines.pending, List.length_map, List.map_map]
    exact indices

theorem continues_of_refines (maxsize : Nat) (positive : 0 < maxsize) (buffer : FTDataBuffer)
    (ledger : Ledger) (refines : Refines maxsize buffer ledger) :
    Continues maxsize buffer ledger := by
  have fullness := buffer.queue.full_iff (by rw [refines.sized]; exact positive)
  rw [refines.sized] at fullness
  refine ⟨?_, ?_, ?_, ?_, ?_, ?_⟩
  · intro packet full
    exact buffer.put_full packet (fullness.mpr full)
  · intro packet room
    obtain ⟨queue, items, _, put⟩ := buffer.put_room packet (fun full => room (fullness.mp full))
    rw [put]
    exact ⟨items, rfl, rfl⟩
  · intro next
    exact (refines_call maxsize positive buffer ledger refines next).2
  · intro next empty
    exact refines.stored.empty_iff.mpr (serve_empty maxsize ledger next empty)
  · exact call_error_iff maxsize positive buffer ledger refines
  · exact call_error_removes buffer

/-- After any calls the buffer accounts for every sample, and so it will after the next one. -/
theorem buffer_accounts (maxsize : Nat) (positive : 0 < maxsize) (now : Int) (calls : List Call) :
    Accounts maxsize (record maxsize now calls) (ledgerOf maxsize calls) ∧
      Continues maxsize (record maxsize now calls).buffer (ledgerOf maxsize calls) := by
  have inStep := inStep_run maxsize positive now calls
  exact ⟨accounts_of_inStep maxsize positive _ _ inStep,
    continues_of_refines maxsize positive _ _ inStep.refines⟩

/-- A buffer of one packet that is given two and asked once. -/
theorem buffer_accounts_overflow :
    let calls : List Call := [.put [0xff], .put [], .getSampleBatch 5]
    Accounts 1 (record 1 0 calls) (ledgerOf 1 calls) ∧
      Continues 1 (record 1 0 calls).buffer (ledgerOf 1 calls) :=
  buffer_accounts 1 (by decide) 0 _

end SchunkFts.Library.BufferLedger

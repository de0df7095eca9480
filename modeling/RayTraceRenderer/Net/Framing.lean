import RayTraceRenderer.Net.Events

/-! Messages out of a stream of bytes.

The network keeps the order of the bytes and nothing else: what one read returns is
some piece of the stream. Every read is unpacked by itself, as though it were one
message, and what does not unpack is lost with its exception.
-/

set_option autoImplicit false

namespace RayTraceRenderer.Net

open LittleEndian

/-- The results of reading a stream to its end. -/
structure Cut (stream : List UInt8) (reads : List (List UInt8)) : Prop where
  nonempty : ∀ read ∈ reads, read ≠ []
  whole : reads.flatten = stream

def encoded (msgs : List MsgBase) : List UInt8 := msgs.flatMap MsgBase.frame

/-- What OnDataReceived gets out of the reads, one after the other. -/
def decoded (reads : List (List UInt8)) : List MsgBase :=
  reads.filterMap fun data => (MessageUnpacker.unpack data).toOption

/-- The messages of a session that the handler got so far. -/
def ServerState.decodedOf (s : ServerState) (sid : Nat) : List MsgBase :=
  decoded ((s.calls.filter fun event => event.sid = sid).filterMap EventData.data)

/-- The read begins with an id and what follows the id of a message, not with a length. -/
def Begins (read : List UInt8) (msg : MsgBase) : Prop :=
  ∃ rest, read = ofInt32 msg.id.toInt32 ++ msg.body ++ rest

/-- The reads that begin with an id and a body, taken alone, are these messages. -/
inductive Spells : List (List UInt8) → List MsgBase → Prop where
  | nil : Spells [] []
  | pass {read reads msgs} (other : ∀ msg, ¬ Begins read msg) (rest : Spells reads msgs) :
      Spells (read :: reads) msgs
  | take {read reads msg msgs} (begins : Begins read msg) (rest : Spells reads msgs) :
      Spells (read :: reads) (msg :: msgs)

/-! ## One read -/

theorem readInt32_eq_ok {reader : MemoryStream} {value : Int32} {reader' : MemoryStream}
    (read : reader.readInt32 = .ok (value, reader')) :
    ∃ rest, reader.remaining = ofInt32 value ++ rest ∧ reader'.remaining = rest := by
  unfold MemoryStream.readInt32 at read
  simp only at read
  split at read
  · rename_i four
    obtain ⟨rfl, rfl⟩ := Prod.mk.inj (Except.ok.inj read)
    refine ⟨reader.remaining.drop 4, ?_, ?_⟩
    · rw [ofInt32_toInt32 four, List.take_append_drop]
    · unfold MemoryStream.remaining
      rw [List.drop_drop]
      rfl
  · cases read

theorem MessageFactory.create_eq_some {msgID : MsgID} {msg : MsgBase} (created : create msgID = some msg) :
    msg.id = msgID := by
  cases msgID with
  | Test =>
    cases created
    rfl
  | Num => cases created
  | unnamed value other => cases created

theorem MsgID.toInt32_ofInt32 (value : Int32) : (MsgID.ofInt32 value).toInt32 = value := by
  unfold MsgID.ofInt32
  split
  · exact Eq.symm ‹_›
  · split
    · exact Eq.symm ‹_›
    · rfl

theorem MsgBase.unpack_eq_ok {blank msg : MsgBase} {reader reader' : MemoryStream}
    (unpacked : blank.unpack reader = .ok (msg, reader')) :
    msg.id = blank.id ∧ ∃ rest, reader.remaining = msg.body ++ rest := by
  cases blank with
  | test _ =>
    obtain ⟨⟨fields, behind⟩, read, same⟩ := bind_eq_ok.mp unpacked
    obtain ⟨⟨width, next⟩, first, read⟩ := bind_eq_ok.mp read
    obtain ⟨⟨height, last⟩, second, made⟩ := bind_eq_ok.mp read
    cases made
    cases same
    obtain ⟨rest, start, middle⟩ := readInt32_eq_ok first
    obtain ⟨rest', middle', -⟩ := readInt32_eq_ok second
    refine ⟨rfl, rest', ?_⟩
    rw [start, ← middle, middle']
    exact (List.append_assoc _ _ _).symm

theorem unpack_eq_ok_iff (read : List UInt8) (msg : MsgBase) :
    MessageUnpacker.unpack read = .ok msg ↔ Begins read msg := by
  constructor
  · intro unpacked
    obtain ⟨⟨msgID, reader⟩, id, unpacked⟩ := bind_eq_ok.mp unpacked
    obtain ⟨rest, start, behind⟩ := readInt32_eq_ok id
    rw [MemoryStream.ofBytes_remaining] at start
    cases created : MessageFactory.create (.ofInt32 msgID) with
    | none =>
      simp only [created] at unpacked
      cases unpacked
    | some blank =>
      simp only [created] at unpacked
      obtain ⟨⟨found, reader'⟩, fields, same⟩ := bind_eq_ok.mp unpacked
      cases same
      obtain ⟨kept, rest', body⟩ := MsgBase.unpack_eq_ok fields
      have number : found.id.toInt32 = msgID := by
        rw [kept, MessageFactory.create_eq_some created, MsgID.toInt32_ofInt32]
      exact ⟨rest', by rw [start, ← behind, body, number, List.append_assoc]⟩
  · rintro ⟨rest, rfl⟩
    exact MessageUnpacker.unpack_body msg rest

/-! ## A session -/

theorem decoded_eq_iff (reads : List (List UInt8)) (msgs : List MsgBase) :
    decoded reads = msgs ↔ Spells reads msgs := by
  constructor
  · rintro rfl
    induction reads with
    | nil => exact .nil
    | cons read reads ih =>
      cases unpacked : MessageUnpacker.unpack read with
      | error why =>
        have none : decoded (read :: reads) = decoded reads := by simp [decoded, unpacked, Except.toOption]
        rw [none]
        refine .pass (fun msg begins => ?_) ih
        rw [(unpack_eq_ok_iff read msg).mpr begins] at unpacked
        cases unpacked
      | ok msg =>
        have one : decoded (read :: reads) = msg :: decoded reads := by simp [decoded, unpacked, Except.toOption]
        rw [one]
        exact .take ((unpack_eq_ok_iff read msg).mp unpacked) ih
  · intro spells
    induction spells with
    | nil => rfl
    | @pass read reads msgs other _ ih =>
      cases unpacked : MessageUnpacker.unpack read with
      | error why => simpa [decoded, unpacked, Except.toOption] using ih
      | ok msg => exact absurd ((unpack_eq_ok_iff read msg).mp unpacked) (other msg)
    | @take read reads msg msgs begins _ ih =>
      have unpacked := (unpack_eq_ok_iff read msg).mpr begins
      simpa [decoded, unpacked, Except.toOption] using ih

-- Once the queue is empty, and no callback is about to fill it, the handler has had every read.
theorem ServerOk.decodedOf_eq {s : ServerState} (ok : ServerOk s) {sid : Nat} (drained : s.dataQueue = [])
    (idle : ∀ data, (s.sessions sid).phase ≠ .received data) :
    s.decodedOf sid = decoded (s.sessions sid).reads := by
  have told : s.calls.filter (fun event => event.sid = sid) = (s.sessions sid).events sid := by
    rw [← (ok sid).events, ServerState.eventsOf, drained, List.append_nil]
  have data : ∀ reads : List (List UInt8),
      (reads.map (EventData.received sid)).filterMap EventData.data = reads := by
    intro reads
    rw [List.filterMap_map]
    exact List.filterMap_some
  have reads : ((s.sessions sid).events sid).filterMap EventData.data = (s.sessions sid).reads := by
    have consistent := (ok sid).consistent
    cases phase : (s.sessions sid).phase with
    | received bytes => exact absurd phase (idle bytes)
    | fresh | accepted | entered | connected | reading | arrived _ | queued | ended | reported | removed | dead =>
      simp only [Session.Consistent, phase] at consistent
      simp [Session.events, phase, EventData.connect, EventData.disconnect, data, consistent]
  unfold ServerState.decodedOf
  rw [told, reads]

-- Byte by byte, and no read is long enough for an id.
theorem cut_singletons (stream : List UInt8) : Cut stream (stream.map fun byte => [byte]) := by
  constructor
  · intro read member
    obtain ⟨byte, -, rfl⟩ := List.mem_map.mp member
    exact List.cons_ne_nil _ _
  · induction stream with
    | nil => rfl
    | cons byte rest ih => rw [List.map_cons, List.flatten_cons, ih, List.singleton_append]

theorem decoded_singletons (stream : List UInt8) : decoded (stream.map fun byte => [byte]) = [] := by
  rw [decoded_eq_iff]
  induction stream with
  | nil => exact .nil
  | cons byte rest ih =>
    refine .pass (fun msg begins => ?_) ih
    obtain ⟨rest, same⟩ := begins
    have length := congrArg List.length same
    simp only [List.length_append, List.length_singleton, ofInt32_length] at length
    omega

/-- The messages survive any two cuts of their stream exactly where the reads of both that
begin with an id and a body spell them; they survive all cuts exactly where there are none. -/
theorem framing_independent_iff (msgs : List MsgBase) :
    (∀ reads reads', decoded reads = decoded reads' ∧ decoded reads = msgs ↔
      Spells reads msgs ∧ Spells reads' msgs) ∧
    ((∀ reads reads', Cut (encoded msgs) reads → Cut (encoded msgs) reads' →
      decoded reads = decoded reads' ∧ decoded reads = msgs) ↔ msgs = []) := by
  constructor
  · intro reads reads'
    rw [← decoded_eq_iff, ← decoded_eq_iff]
    constructor
    · rintro ⟨same, all⟩
      exact ⟨all, same.symm.trans all⟩
    · rintro ⟨all, all'⟩
      exact ⟨all.trans all'.symm, all⟩
  · constructor
    · intro independent
      have cut := cut_singletons (encoded msgs)
      rw [← (independent _ _ cut cut).2]
      exact decoded_singletons _
    · rintro rfl reads reads' cut cut'
      have nothing : ∀ reads, Cut (encoded []) reads → reads = [] := by
        intro reads cut
        cases reads with
        | nil => rfl
        | cons read reads =>
          have empty : read ++ reads.flatten = [] := cut.whole
          exact absurd (List.append_eq_nil_iff.mp empty).1 (cut.nonempty read List.mem_cons_self)
      rw [nothing reads cut, nothing reads' cut']
      exact ⟨rfl, rfl⟩

/-- The frame of a message arrives whole, or with its length in a read of its own. -/
theorem whole_frame_lost :
    let msg := MsgBase.test ⟨640, 480⟩
    Cut (encoded [msg]) [msg.frame] ∧ decoded [msg.frame] = [] ∧
      Cut (encoded [msg]) [msg.frame.take 4, msg.frame.drop 4] ∧
      decoded [msg.frame.take 4, msg.frame.drop 4] = [msg] := by
  refine ⟨⟨?_, ?_⟩, ?_, ⟨?_, ?_⟩, ?_⟩ <;> decide +kernel

end RayTraceRenderer.Net

import RayTraceRenderer.Foundation.MemoryStream

/-! Messages as bytes.

The packer puts the number of the bytes that follow in front of the id, into the first
four bytes. The unpacker starts with the id.
-/

set_option autoImplicit false

namespace RayTraceRenderer.Net

open LittleEndian

/-- A cast from int may give a value that has no name. -/
inductive MsgID where
  | Test
  | Num
  | unnamed (value : Int32) (other : value ≠ 0 ∧ value ≠ 1)
  deriving DecidableEq

def MsgID.toInt32 : MsgID → Int32
  | .Test => 0
  | .Num => 1
  | .unnamed value _ => value

def MsgID.ofInt32 (value : Int32) : MsgID :=
  if test : value = 0 then .Test
  else if num : value = 1 then .Num
  else .unnamed value ⟨test, num⟩

/-! ## Messages -/

structure MsgTest where
  width : Int32
  height : Int32
  deriving DecidableEq

namespace MsgTest

def pack (msg : MsgTest) (writer : MemoryStream) : MemoryStream :=
  (writer.writeInt32 msg.width).writeInt32 msg.height

def unpack (reader : MemoryStream) : Except Exn (MsgTest × MemoryStream) := do
  let (width, reader) ← reader.readInt32
  let (height, reader) ← reader.readInt32
  return ({ width, height }, reader)

end MsgTest

/-- One constructor for each class derived from MsgBase. -/
inductive MsgBase where
  | test (msg : MsgTest)
  deriving DecidableEq

namespace MsgBase

def id : MsgBase → MsgID
  | .test _ => .Test

def pack : MsgBase → MemoryStream → MemoryStream
  | .test msg => msg.pack

/-- The fields are overwritten, whatever they were. -/
def unpack : MsgBase → MemoryStream → Except Exn (MsgBase × MemoryStream)
  | .test _, reader => do
    let (msg, reader) ← MsgTest.unpack reader
    return (.test msg, reader)

end MsgBase

def MessageFactory.create : MsgID → Option MsgBase
  | .Test => some (.test ⟨0, 0⟩)
  | _ => none

/-- The bytes handed out, and the static stream afterwards. -/
def MessagePacker.pack (msg : MsgBase) (stream : MemoryStream) : List UInt8 × MemoryStream :=
  let stream := stream.setLength 0
  let writer := stream.seek 4
  let writer := writer.writeInt32 msg.id.toInt32
  let writer := msg.pack writer
  let writer := writer.seek 0
  let writer := writer.writeInt32 (Int32.ofNat writer.length - 4)
  (writer.buffer, writer)

def MessageUnpacker.unpack (data : List UInt8) : Except Exn MsgBase := do
  let reader := MemoryStream.ofBytes data
  let (msgID, reader) ← reader.readInt32
  match MessageFactory.create (.ofInt32 msgID) with
  | none => throw .nullReference
  | some msg => return (← msg.unpack reader).1

/-! ## What is packed -/

def MsgBase.body : MsgBase → List UInt8
  | .test msg => ofInt32 msg.width ++ ofInt32 msg.height

/-- The length of the id and the body, the id, and the body. -/
def MsgBase.frame (msg : MsgBase) : List UInt8 :=
  ofInt32 (Int32.ofNat (4 + msg.body.length)) ++ ofInt32 msg.id.toInt32 ++ msg.body

theorem MsgBase.pack_contents (msg : MsgBase) {writer : MemoryStream} (atEnd : writer.position = writer.length) :
    (msg.pack writer).contents = writer.contents ++ msg.body := by
  cases msg with
  | test msg =>
    have next := MemoryStream.write_atEnd atEnd.ge (ofInt32 msg.width)
    unfold pack MsgTest.pack MemoryStream.writeInt32 body
    rw [MemoryStream.write_contents_atEnd next, MemoryStream.write_contents_atEnd atEnd, List.append_assoc]

theorem MessagePacker.pack_contents (msg : MsgBase) (stream : MemoryStream) :
    (pack msg stream).2.contents = msg.frame := by
  let blank := (stream.setLength 0).seek 4
  let headed := blank.writeInt32 msg.id.toInt32
  let packed := msg.pack headed
  let length := Int32.ofNat packed.length - 4
  have gap : headed.contents = List.replicate 4 0 ++ ofInt32 msg.id.toInt32 :=
    blank.write_contents (ofInt32 msg.id.toInt32)
  have atEnd : headed.position = headed.length := by
    apply MemoryStream.write_atEnd
    exact Nat.zero_le 4
  have whole : packed.contents = List.replicate 4 0 ++ (ofInt32 msg.id.toInt32 ++ msg.body) := by
    rw [msg.pack_contents atEnd, gap, List.append_assoc]
  have count : length = Int32.ofNat (4 + msg.body.length) := by
    have total : packed.length = 4 + msg.body.length + 4 := by
      rw [← packed.contents_length, whole]
      simp only [List.length_append, List.length_replicate, ofInt32_length]
      omega
    show Int32.ofNat packed.length - 4 = _
    rw [total, Int32.ofNat_add]
    exact Int32.add_sub_cancel _ _
  calc (pack msg stream).2.contents
      = splice packed.contents 0 (ofInt32 length) := (packed.seek 0).write_contents _
    _ = msg.frame := by
      rw [whole, count, splice_start (by simp)]
      simp [MsgBase.frame]

-- The array goes on behind the frame.
theorem MessagePacker.pack_data (msg : MsgBase) (stream : MemoryStream) :
    ∃ rest, (pack msg stream).1 = msg.frame ++ rest := by
  refine ⟨(pack msg stream).1.drop (pack msg stream).2.length, ?_⟩
  rw [← pack_contents msg stream]
  exact (List.take_append_drop _ _).symm

/-! ## What is unpacked -/

theorem MsgTest.unpack_body (msg : MsgTest) {reader : MemoryStream} {rest : List UInt8}
    (next : reader.remaining = ofInt32 msg.width ++ (ofInt32 msg.height ++ rest)) :
    ∃ reader', unpack reader = .ok (msg, reader') := by
  obtain ⟨width, behind⟩ := MemoryStream.readInt32_remaining next
  obtain ⟨height, -⟩ := MemoryStream.readInt32_remaining behind
  exact ⟨_, bind_eq_ok.mpr ⟨_, width, bind_eq_ok.mpr ⟨_, height, rfl⟩⟩⟩

theorem MessageUnpacker.unpack_body (msg : MsgBase) (rest : List UInt8) :
    unpack (ofInt32 msg.id.toInt32 ++ msg.body ++ rest) = .ok msg := by
  cases msg with
  | test msg =>
    have start : (MemoryStream.ofBytes (ofInt32 MsgID.Test.toInt32 ++ (MsgBase.test msg).body ++ rest)).remaining =
        ofInt32 MsgID.Test.toInt32 ++ (ofInt32 msg.width ++ (ofInt32 msg.height ++ rest)) := by
      rw [MemoryStream.ofBytes_remaining]
      simp only [MsgBase.body, List.append_assoc]
    obtain ⟨id, behind⟩ := MemoryStream.readInt32_remaining start
    obtain ⟨reader', fields⟩ := msg.unpack_body behind
    have read : MsgBase.unpack (.test ⟨0, 0⟩) _ = .ok (MsgBase.test msg, reader') :=
      bind_eq_ok.mpr ⟨_, fields, rfl⟩
    exact bind_eq_ok.mpr ⟨_, id, bind_eq_ok.mpr ⟨_, read, rfl⟩⟩

-- With the length in front, that length is taken for the id.
theorem MessageUnpacker.unpack_frame (msg : MsgBase) (rest : List UInt8) :
    unpack (msg.frame ++ rest) = .error .nullReference := by
  cases msg with
  | test msg =>
    have start : (MemoryStream.ofBytes ((MsgBase.test msg).frame ++ rest)).remaining =
        ofInt32 12 ++ (ofInt32 MsgID.Test.toInt32 ++ ((MsgBase.test msg).body ++ rest)) := by
      rw [MemoryStream.ofBytes_remaining]
      simp only [MsgBase.frame, List.append_assoc]
      rfl
    obtain ⟨length, -⟩ := MemoryStream.readInt32_remaining start
    unfold unpack
    simp only [length]
    rfl

-- The four bytes of the length are all that the two sides disagree about.
theorem MessageUnpacker.unpack_behind_length (msg : MsgBase) (stream : MemoryStream) :
    unpack ((MessagePacker.pack msg stream).1.drop 4) = .ok msg := by
  obtain ⟨rest, data⟩ := MessagePacker.pack_data msg stream
  have behind : (msg.frame ++ rest).drop 4 = ofInt32 msg.id.toInt32 ++ msg.body ++ rest := by
    unfold MsgBase.frame
    simp only [List.append_assoc]
    exact List.drop_left' (ofInt32_length _)
  rw [data, behind, unpack_body]

/-- What the server sends is what the other side reads, where it arrives whole. -/
def RoundTrips (stream : MemoryStream) (msg : MsgBase) : Prop :=
  MessageUnpacker.unpack (MessagePacker.pack msg stream).1 = .ok msg

instance (stream : MemoryStream) (msg : MsgBase) : Decidable (RoundTrips stream msg) :=
  inferInstanceAs (Decidable (MessageUnpacker.unpack (MessagePacker.pack msg stream).1 = .ok msg))

/-- No message, after no history of the packer's stream. -/
theorem not_roundTrips (stream : MemoryStream) (msg : MsgBase) : ¬ RoundTrips stream msg := by
  obtain ⟨rest, data⟩ := MessagePacker.pack_data msg stream
  unfold RoundTrips
  rw [data, MessageUnpacker.unpack_frame]
  intro same
  cases same

theorem first_message_lost :
    MessageUnpacker.unpack (MessagePacker.pack (.test ⟨640, 480⟩) .new).1 = .error .nullReference ∧
      ¬ RoundTrips .new (.test ⟨640, 480⟩) := by
  decide +kernel

end RayTraceRenderer.Net

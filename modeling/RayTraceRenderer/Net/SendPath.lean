import RayTraceRenderer.Foundation.Transition
import RayTraceRenderer.Net.MsgProtocol
import Mathlib.Logic.Function.Basic

/-! Messages on their way out.

All messages are packed into one stream, and what BeginWrite gets is the array of that
stream, as long as it is and not as long as the message. The network takes its bytes
out of the array until the write is complete, while the next message may be packed.
-/

set_option autoImplicit false

namespace RayTraceRenderer.Net

open LittleEndian Transition

/-! ## Packing, call by call -/

/-- What a class derived from MsgBase gives to the writer, one field after the other. A
stream of 2^31 bytes is refused. -/
structure Outgoing where
  id : Int32
  fields : List (List UInt8)
  fits : 8 + fields.flatten.length < 2 ^ 31
  deriving DecidableEq

namespace Outgoing

def body (msg : Outgoing) : List UInt8 := msg.fields.flatten

def frame (msg : Outgoing) : List UInt8 :=
  ofInt32 (Int32.ofNat (4 + msg.body.length)) ++ ofInt32 msg.id ++ msg.body

end Outgoing

inductive StreamOp where
  | setLength (value : Nat)
  | seek (position : Nat)
  | write (bytes : List UInt8)
  | writeLength
  deriving DecidableEq

def StreamOp.apply : StreamOp → MemoryStream → MemoryStream
  | .setLength value, stream => stream.setLength value
  | .seek position, stream => stream.seek position
  | .write bytes, stream => stream.write bytes
  | .writeLength, stream => stream.writeInt32 (Int32.ofNat stream.length - 4)

/-- It writes, and finds room in the array that the stream has. -/
def StreamOp.InPlace (stream : MemoryStream) : StreamOp → Prop
  | .setLength value => stream.length < value ∧ value ≤ stream.buffer.length
  | .seek _ => False
  | .write bytes => stream.position + bytes.length ≤ stream.buffer.length
  | .writeLength => stream.position + 4 ≤ stream.buffer.length

def applyAll (ops : List StreamOp) (stream : MemoryStream) : MemoryStream :=
  ops.foldl (fun stream op => op.apply stream) stream

def Outgoing.packOps (msg : Outgoing) : List StreamOp :=
  .setLength 0 :: .seek 4 :: .write (ofInt32 msg.id) :: (msg.fields.map .write ++ [.seek 0, .writeLength])

theorem MsgTest.outgoing_fits (msg : MsgTest) :
    8 + [ofInt32 msg.width, ofInt32 msg.height].flatten.length < 2 ^ 31 := by
  simp

def MsgBase.outgoing : MsgBase → Outgoing
  | .test msg => ⟨MsgID.Test.toInt32, [ofInt32 msg.width, ofInt32 msg.height], msg.outgoing_fits⟩

theorem MsgBase.outgoing_packs (msg : MsgBase) (stream : MemoryStream) :
    applyAll msg.outgoing.packOps stream = (MessagePacker.pack msg stream).2 ∧ msg.outgoing.frame = msg.frame := by
  cases msg with
  | test msg =>
    constructor
    · rfl
    · simp [Outgoing.frame, Outgoing.body, MsgBase.outgoing, MsgBase.frame, MsgBase.body, MsgBase.id]

theorem writes_contents (fields : List (List UInt8)) {stream : MemoryStream}
    (atEnd : stream.position = stream.length) :
    (applyAll (fields.map .write) stream).contents = stream.contents ++ fields.flatten := by
  induction fields generalizing stream with
  | nil => exact (List.append_nil _).symm
  | cons field rest ih =>
    have next := MemoryStream.write_atEnd atEnd.ge field
    calc (applyAll (rest.map .write) (stream.write field)).contents
        = (stream.write field).contents ++ rest.flatten := ih next
      _ = stream.contents ++ (field :: rest).flatten := by
        rw [MemoryStream.write_contents_atEnd atEnd, List.append_assoc, List.flatten_cons]

theorem packed_contents (msg : Outgoing) (stream : MemoryStream) :
    (applyAll msg.packOps stream).contents = msg.frame := by
  let blank := (stream.setLength 0).seek 4
  let headed := blank.writeInt32 msg.id
  let packed := applyAll (msg.fields.map .write) headed
  let length := Int32.ofNat packed.length - 4
  have whole : packed.contents = List.replicate 4 0 ++ (ofInt32 msg.id ++ msg.body) := by
    have gap : headed.contents = List.replicate 4 0 ++ ofInt32 msg.id := blank.write_contents (ofInt32 msg.id)
    have atEnd : headed.position = headed.length := MemoryStream.write_atEnd (Nat.zero_le 4) _
    rw [writes_contents msg.fields atEnd, gap, List.append_assoc, Outgoing.body]
  have count : length = Int32.ofNat (4 + msg.body.length) := by
    have total : packed.length = 4 + msg.body.length + 4 := by
      rw [← packed.contents_length, whole]
      simp only [List.length_append, List.length_replicate, ofInt32_length]
      omega
    show Int32.ofNat packed.length - 4 = _
    rw [total, Int32.ofNat_add]
    exact Int32.add_sub_cancel _ _
  have last : applyAll msg.packOps stream = (packed.seek 0).writeInt32 length := by
    simp only [Outgoing.packOps, applyAll, List.foldl_cons, List.foldl_append]
    rfl
  calc (applyAll msg.packOps stream).contents
      = splice packed.contents 0 (ofInt32 length) := by rw [last]; exact (packed.seek 0).write_contents _
    _ = msg.frame := by
      rw [whole, count, splice_start (by simp)]
      simp [Outgoing.frame]

/-! ## Sending -/

/-- The bytes of the array that the network has taken are kept to speak about. -/
structure PendingWrite where
  sid : Nat
  array : Nat
  msg : Outgoing
  sent : List UInt8

structure Sending where
  sid : Nat
  msg : Outgoing
  rest : List StreamOp

structure Written where
  sid : Nat
  msg : Outgoing
  bytes : List UInt8

/-- The arrays that the stream has had are numbered. Where it grows it takes a new one. -/
structure SendState where
  stream : MemoryStream
  array : Nat
  retired : Nat → List UInt8
  sending : Option Sending
  pending : List PendingWrite
  wire : List Written

namespace SendState

def initial : SendState := ⟨.new, 0, fun _ => [], none, [], []⟩

variable (s : SendState)

def arrayOf (array : Nat) : List UInt8 := if array = s.array then s.stream.buffer else s.retired array

/-- An array keeps its length, so another length is another array. -/
def withStream (stream : MemoryStream) : SendState :=
  if stream.buffer.length = s.stream.buffer.length then { s with stream }
  else
    { s with stream, array := s.array + 1, retired := Function.update s.retired s.array s.stream.buffer }

end SendState

inductive SendAction where
  | send (sid : Nat) (msg : Outgoing)
  | packStep
  | handOver (found : Bool)
  | transmit (index count : Nat)
  | complete (index : Nat)
  | fail (index : Nat)
  deriving DecidableEq

/-- BeginWrite gets the array with `datagram.Length`, where the session is found and open. -/
def sendStep : SendAction → SendState → Option SendState
  | .send sid msg, s => if s.sending.isNone then some { s with sending := some ⟨sid, msg, msg.packOps⟩ } else none
  | .packStep, s =>
    match s.sending with
    | some ⟨sid, msg, op :: rest⟩ => some { s.withStream (op.apply s.stream) with sending := some ⟨sid, msg, rest⟩ }
    | _ => none
  | .handOver found, s =>
    match s.sending with
    | some ⟨sid, msg, []⟩ =>
      let pending := if found then s.pending ++ [⟨sid, s.array, msg, []⟩] else s.pending
      some { s with sending := none, pending }
    | _ => none
  | .transmit index count, s =>
    (s.pending[index]?).map fun write =>
      let sent := write.sent ++ ((s.arrayOf write.array).drop write.sent.length).take count
      { s with pending := s.pending.set index { write with sent } }
  | .complete index, s =>
    (s.pending[index]?).bind fun write =>
      if write.sent.length = (s.arrayOf write.array).length then
        some { s with
          pending := s.pending.eraseIdx index, wire := s.wire ++ [⟨write.sid, write.msg, write.sent⟩] }
      else none
  | .fail index, s => (s.pending[index]?).map fun _ => { s with pending := s.pending.eraseIdx index }

/-- A write's array holds the frame and nothing else for as long as it is pending, and the
frame is what was written once it is complete. -/
structure FrameKept (s : SendState) : Prop where
  pending : ∀ write ∈ s.pending, s.arrayOf write.array = write.msg.frame ∧ write.sent <+: write.msg.frame
  written : ∀ write ∈ s.wire, write.bytes = write.msg.frame

/-- Pack writes into no array that a write holds, and the frame fills the array it is in. -/
def Unshared (s : SendState) : SendAction → Prop
  | .packStep => ∀ sending op rest, s.sending = some sending → sending.rest = op :: rest →
      op.InPlace s.stream → ∀ write ∈ s.pending, write.array ≠ s.array
  | .handOver found => found = true → ∀ sending, s.sending = some sending →
      sending.msg.frame.length = s.stream.buffer.length
  | _ => True

/-! ## What a step does -/

section
variable {s s' : SendState}

theorem send_cases {sid : Nat} {msg : Outgoing} (stepped : sendStep (.send sid msg) s = some s') :
    s.sending = none ∧ s' = { s with sending := some ⟨sid, msg, msg.packOps⟩ } := by
  simp only [sendStep] at stepped
  split at stepped
  · exact ⟨Option.isNone_iff_eq_none.mp ‹_›, (Option.some.inj stepped).symm⟩
  · cases stepped

theorem packStep_cases (stepped : sendStep .packStep s = some s') :
    ∃ sid msg op rest, s.sending = some ⟨sid, msg, op :: rest⟩ ∧
      s' = { s.withStream (op.apply s.stream) with sending := some ⟨sid, msg, rest⟩ } := by
  simp only [sendStep] at stepped
  split at stepped
  · exact ⟨_, _, _, _, ‹_›, (Option.some.inj stepped).symm⟩
  · cases stepped

theorem handOver_cases {found : Bool} (stepped : sendStep (.handOver found) s = some s') :
    ∃ sid msg, s.sending = some ⟨sid, msg, []⟩ ∧
      s' = { s with
        sending := none, pending := if found then s.pending ++ [⟨sid, s.array, msg, []⟩] else s.pending } := by
  simp only [sendStep] at stepped
  split at stepped
  · exact ⟨_, _, ‹_›, (Option.some.inj stepped).symm⟩
  · cases stepped

theorem transmit_cases {index count : Nat} (stepped : sendStep (.transmit index count) s = some s') :
    ∃ write ∈ s.pending, s' = { s with pending := s.pending.set index { write with
      sent := write.sent ++ ((s.arrayOf write.array).drop write.sent.length).take count } } := by
  obtain ⟨write, found, same⟩ := Option.map_eq_some_iff.mp stepped
  exact ⟨write, List.mem_of_getElem? found, same.symm⟩

theorem complete_cases {index : Nat} (stepped : sendStep (.complete index) s = some s') :
    ∃ write ∈ s.pending, write.sent.length = (s.arrayOf write.array).length ∧
      s' = { s with
        pending := s.pending.eraseIdx index, wire := s.wire ++ [⟨write.sid, write.msg, write.sent⟩] } := by
  obtain ⟨write, found, stepped⟩ := Option.bind_eq_some_iff.mp stepped
  split at stepped
  · exact ⟨write, List.mem_of_getElem? found, ‹_›, (Option.some.inj stepped).symm⟩
  · cases stepped

theorem fail_cases {index : Nat} (stepped : sendStep (.fail index) s = some s') :
    s' = { s with pending := s.pending.eraseIdx index } := by
  obtain ⟨_, -, same⟩ := Option.map_eq_some_iff.mp stepped
  exact same.symm

def SendAction.IsTransfer : SendAction → Prop
  | .transmit _ _ | .complete _ | .fail _ => True
  | _ => False

-- The network changes nothing of the stream, and a write keeps its array.
theorem transfer_cases {action : SendAction} (stepped : sendStep action s = some s') (transfer : action.IsTransfer) :
    (s'.sending = s.sending ∧ s'.stream = s.stream ∧ s'.array = s.array) ∧
      ∀ write ∈ s'.pending, ∃ earlier ∈ s.pending, earlier.array = write.array := by
  cases action with
  | transmit index count =>
    obtain ⟨write, pending, rfl⟩ := transmit_cases stepped
    refine ⟨⟨rfl, rfl, rfl⟩, fun other member => ?_⟩
    rcases List.mem_or_eq_of_mem_set member with before | rfl
    · exact ⟨other, before, rfl⟩
    · exact ⟨write, pending, rfl⟩
  | complete index =>
    obtain ⟨-, -, -, rfl⟩ := complete_cases stepped
    exact ⟨⟨rfl, rfl, rfl⟩, fun write member => ⟨write, List.mem_of_mem_eraseIdx member, rfl⟩⟩
  | fail index =>
    rw [fail_cases stepped]
    exact ⟨⟨rfl, rfl, rfl⟩, fun write member => ⟨write, List.mem_of_mem_eraseIdx member, rfl⟩⟩
  | send | packStep | handOver => exact transfer.elim

end

/-! ## The stream's array -/

-- A call that does not write in place takes a new array, or leaves the array as it is and
-- is no write.
theorem StreamOp.apply_cases (op : StreamOp) (stream : MemoryStream) :
    op.InPlace stream ∨ (op.apply stream).buffer.length ≠ stream.buffer.length ∨
      (op.apply stream).buffer = stream.buffer ∧ ∀ bytes, op ≠ .write bytes := by
  cases op with
  | setLength value =>
    rcases Nat.lt_or_ge stream.buffer.length value with full | fits
    · have longer := MemoryStream.lt_grown_length full
      have size : (stream.setLength value).buffer.length = (stream.grown value).length :=
        stream.cleared_length le_rfl
      exact .inr (.inl (by rw [apply, size]; exact longer.ne'))
    · rcases Nat.lt_or_ge stream.length value with longer | shorter
      · exact .inl ⟨longer, fits⟩
      · have same : (stream.setLength value).buffer = stream.buffer := by
          rw [← MemoryStream.grown_of_fits fits]
          exact stream.cleared_inside shorter
        exact .inr (.inr ⟨same, by simp⟩)
  | seek position => exact .inr (.inr ⟨rfl, by simp⟩)
  | write bytes =>
    rcases Nat.lt_or_ge stream.buffer.length (stream.position + bytes.length) with full | fits
    · exact .inr (.inl (by rw [apply, stream.write_buffer_length]; exact (MemoryStream.lt_grown_length full).ne'))
    · exact .inl fits
  | writeLength =>
    rcases Nat.lt_or_ge stream.buffer.length (stream.position + 4) with full | fits
    · refine .inr (.inl ?_)
      rw [apply, MemoryStream.writeInt32, stream.write_buffer_length, ofInt32_length]
      exact (MemoryStream.lt_grown_length full).ne'
    · exact .inl fits

theorem SendState.withStream_arrayOf {s : SendState} {stream : MemoryStream} {array : Nat}
    (known : array ≤ s.array)
    (kept : array ≠ s.array ∨ stream.buffer.length ≠ s.stream.buffer.length ∨ stream.buffer = s.stream.buffer) :
    (s.withStream stream).arrayOf array = s.arrayOf array := by
  unfold withStream
  split
  · rename_i length
    have kept : array ≠ s.array ∨ stream.buffer = s.stream.buffer := by
      rcases kept with other | changed | same
      · exact .inl other
      · exact absurd length changed
      · exact .inr same
    unfold arrayOf
    by_cases current : array = s.array
    · simp only [if_pos current]
      exact kept.resolve_left (not_not.mpr current)
    · simp only [if_neg current]
  · have older : array ≠ s.array + 1 := (Nat.lt_succ_of_le known).ne
    unfold arrayOf
    simp only [if_neg older]
    by_cases current : array = s.array
    · rw [if_pos current, current, Function.update_self]
    · rw [if_neg current, Function.update_of_ne current]

theorem SendState.withStream_current {s : SendState} {stream : MemoryStream}
    (length : stream.buffer.length = s.stream.buffer.length) :
    (s.withStream stream).arrayOf s.array = stream.buffer := by
  rw [withStream, if_pos length]
  exact if_pos rfl

theorem SendState.le_withStream_array (s : SendState) (stream : MemoryStream) :
    s.array ≤ (s.withStream stream).array := by
  unfold withStream
  split
  · exact le_rfl
  · exact Nat.le_succ _

/-! ## Every run -/

/-- What is left of a Pack is its end, and the stream is what its beginning made of it. -/
structure PackOk (s : SendState) : Prop where
  progress : ∀ sending, s.sending = some sending → ∃ done stream,
    done ++ sending.rest = sending.msg.packOps ∧ s.stream = applyAll done stream
  known : ∀ write ∈ s.pending, write.array ≤ s.array

section
variable {s s' : SendState}

theorem applyAll_concat (ops : List StreamOp) (op : StreamOp) (stream : MemoryStream) :
    applyAll (ops ++ [op]) stream = op.apply (applyAll ops stream) := List.foldl_concat _ _ _ _

theorem withStream_stream (s : SendState) (stream : MemoryStream) : (s.withStream stream).stream = stream := by
  unfold SendState.withStream
  split <;> rfl

theorem withStream_frame (s : SendState) (stream : MemoryStream) :
    (s.withStream stream).pending = s.pending ∧ (s.withStream stream).wire = s.wire := by
  unfold SendState.withStream
  split <;> exact ⟨rfl, rfl⟩

theorem packOk_step (ok : PackOk s) {action : SendAction} (stepped : sendStep action s = some s') : PackOk s' := by
  cases action with
  | send sid msg =>
    obtain ⟨-, rfl⟩ := send_cases stepped
    refine ⟨?_, ok.known⟩
    rintro sending same
    rw [← Option.some.inj same]
    exact ⟨[], s.stream, rfl, rfl⟩
  | packStep =>
    obtain ⟨sid, msg, op, rest, packing, rfl⟩ := packStep_cases stepped
    constructor
    · rintro sending same
      rw [← Option.some.inj same]
      obtain ⟨done, stream, whole, made⟩ := ok.progress _ packing
      refine ⟨done ++ [op], stream, by rw [← whole, List.append_assoc]; rfl, ?_⟩
      rw [applyAll_concat, ← made]
      exact withStream_stream s _
    · intro write member
      have member : write ∈ s.pending := (withStream_frame s _).1 ▸ member
      exact (ok.known write member).trans (s.le_withStream_array _)
  | handOver found =>
    obtain ⟨sid, msg, -, rfl⟩ := handOver_cases stepped
    constructor
    · rintro sending same
      cases same
    · intro write member
      cases found with
      | false => exact ok.known write member
      | true =>
        rcases List.mem_append.mp member with before | new
        · exact ok.known write before
        · rw [List.mem_singleton.mp new]
  | transmit index count | complete index | fail index =>
    obtain ⟨⟨sending, stream, array⟩, held⟩ := transfer_cases stepped trivial
    constructor
    · rw [sending, stream]
      exact ok.progress
    · intro write member
      obtain ⟨earlier, pending, same⟩ := held write member
      rw [array, ← same]
      exact ok.known earlier pending

theorem packOk_initial : PackOk .initial := by
  constructor
  · intro sending none
    cases none
  · intro write none
    cases none

-- At its end Pack has made the stream hold the frame.
theorem PackOk.packed (ok : PackOk s) {sid : Nat} {msg : Outgoing} (packed : s.sending = some ⟨sid, msg, []⟩) :
    s.stream.contents = msg.frame := by
  obtain ⟨done, stream, whole, made⟩ := ok.progress _ packed
  rw [List.append_nil] at whole
  rw [made, whole, packed_contents]

/-- Once Pack has written the id, no write holds the array it is working in. -/
def Apart (s : SendState) : Prop :=
  ∀ sending, s.sending = some sending → sending.rest.length + 2 < sending.msg.packOps.length →
    ∀ write ∈ s.pending, write.array ≠ s.array

theorem transmit_isPrefix {msg : Outgoing} {sent : List UInt8} (begun : sent <+: msg.frame) (count : Nat) :
    sent ++ (msg.frame.drop sent.length).take count <+: msg.frame := by
  obtain ⟨rest, whole⟩ := begun
  rw [← whole, List.drop_left]
  exact (List.prefix_append_right_inj _).mpr (List.take_prefix _ _)

theorem frameKept_packStep (ok : PackOk s) (kept : FrameKept s) (admitted : Unshared s .packStep)
    (stepped : sendStep .packStep s = some s') : FrameKept s' := by
  obtain ⟨sid, msg, op, rest, packing, rfl⟩ := packStep_cases stepped
  have frame := withStream_frame s (op.apply s.stream)
  constructor
  · intro write member
    have member : write ∈ s.pending := frame.1 ▸ member
    have same : (s.withStream (op.apply s.stream)).arrayOf write.array = s.arrayOf write.array := by
      apply SendState.withStream_arrayOf (ok.known write member)
      rcases op.apply_cases s.stream with inPlace | changed | ⟨same, -⟩
      · exact .inl (admitted _ op rest packing rfl inPlace write member)
      · exact .inr (.inl changed)
      · exact .inr (.inr same)
    exact ⟨same.trans (kept.pending write member).1, (kept.pending write member).2⟩
  · intro write member
    exact kept.written write (frame.2 ▸ member)

theorem frameKept_step (ok : PackOk s) (kept : FrameKept s) {action : SendAction} (admitted : Unshared s action)
    (stepped : sendStep action s = some s') : FrameKept s' := by
  cases action with
  | send sid msg =>
    obtain ⟨-, rfl⟩ := send_cases stepped
    exact ⟨kept.pending, kept.written⟩
  | packStep => exact frameKept_packStep ok kept admitted stepped
  | handOver found =>
    obtain ⟨sid, msg, packed, rfl⟩ := handOver_cases stepped
    cases found with
    | false => exact ⟨kept.pending, kept.written⟩
    | true =>
      refine ⟨fun write member => ?_, kept.written⟩
      rcases List.mem_append.mp member with before | new
      · exact kept.pending write before
      · rw [List.mem_singleton.mp new]
        have contents := ok.packed packed
        have full : s.stream.length = s.stream.buffer.length := by
          have filled := admitted rfl _ packed
          rw [← s.stream.contents_length, contents]
          exact filled
        have whole : s.arrayOf s.array = msg.frame := by
          rw [SendState.arrayOf, if_pos rfl, ← contents, MemoryStream.contents, full, List.take_length]
        exact ⟨whole, List.nil_prefix⟩
  | transmit index count =>
    obtain ⟨write, member, rfl⟩ := transmit_cases stepped
    refine ⟨fun other found => ?_, kept.written⟩
    rcases List.mem_or_eq_of_mem_set found with before | rfl
    · exact kept.pending other before
    · obtain ⟨holds, begun⟩ := kept.pending write member
      refine ⟨holds, ?_⟩
      rw [holds]
      exact transmit_isPrefix begun count
  | complete index =>
    obtain ⟨write, member, all, rfl⟩ := complete_cases stepped
    refine ⟨fun other found => kept.pending other (List.mem_of_mem_eraseIdx found), fun written found => ?_⟩
    rcases List.mem_append.mp found with before | new
    · exact kept.written written before
    · rw [List.mem_singleton.mp new]
      obtain ⟨holds, begun⟩ := kept.pending write member
      rw [holds] at all
      exact begun.eq_of_length all
  | fail index =>
    rw [fail_cases stepped]
    exact ⟨fun write member => kept.pending write (List.mem_of_mem_eraseIdx member), kept.written⟩

-- Before the id is written the stream's end is put to its start, which writes nothing.
theorem PackOk.early_eq (ok : PackOk s) {sid : Nat} {msg : Outgoing} {op : StreamOp} {rest : List StreamOp}
    (packing : s.sending = some ⟨sid, msg, op :: rest⟩) (early : msg.packOps.length ≤ rest.length + 3) :
    (msg.packOps.length < rest.length + 3 ∧ ¬ op.InPlace s.stream) ∨
      (op = .write (ofInt32 msg.id) ∧ ∃ stream : MemoryStream, s.stream = (stream.setLength 0).seek 4) := by
  obtain ⟨done, stream, whole, made⟩ := ok.progress _ packing
  have count := congrArg List.length whole
  simp only [List.length_append, List.length_cons] at count
  rcases done with _ | ⟨first, _ | ⟨second, _ | ⟨third, more⟩⟩⟩
  · simp only [Outgoing.packOps, List.nil_append, List.cons.injEq] at whole
    rw [whole.1]
    simp only [List.length_nil] at count
    exact .inl ⟨by omega, fun inPlace => absurd inPlace.1 (Nat.not_lt_zero _)⟩
  · simp only [Outgoing.packOps, List.cons_append, List.nil_append, List.cons.injEq] at whole
    rw [whole.2.1]
    simp only [List.length_cons, List.length_nil] at count
    exact .inl ⟨by omega, id⟩
  · simp only [Outgoing.packOps, List.cons_append, List.nil_append, List.cons.injEq] at whole
    obtain ⟨cleared, behind, writes, -⟩ := whole
    rw [cleared, behind] at made
    exact .inr ⟨writes, stream, made⟩
  · simp only [List.length_cons] at count
    omega

theorem apart_step (ok : PackOk s) (apart : Apart s) {action : SendAction} (admitted : Unshared s action)
    (stepped : sendStep action s = some s') : Apart s' := by
  cases action with
  | send sid msg =>
    obtain ⟨-, rfl⟩ := send_cases stepped
    intro sending same short
    rw [← Option.some.inj same] at short
    exact absurd short (by simp)
  | packStep =>
    obtain ⟨sid, msg, op, rest, packing, rfl⟩ := packStep_cases stepped
    rintro sending same behind write member
    rw [← Option.some.inj same] at behind
    have member : write ∈ s.pending := (withStream_frame s _).1 ▸ member
    have known := ok.known write member
    have fresh : (op.apply s.stream).buffer.length ≠ s.stream.buffer.length →
        write.array ≠ (s.withStream (op.apply s.stream)).array := by
      intro changed
      rw [SendState.withStream, if_neg changed]
      exact (Nat.lt_succ_of_le known).ne
    have stays : write.array ≠ s.array → write.array ≠ (s.withStream (op.apply s.stream)).array := by
      intro other
      exact ((lt_of_le_of_ne known other).trans_le (s.le_withStream_array _)).ne
    rcases op.apply_cases s.stream with inPlace | changed | ⟨-, noWrite⟩
    · exact stays (admitted _ op rest packing rfl inPlace write member)
    · exact fresh changed
    · apply stays
      have later : rest.length + 3 < msg.packOps.length := by
        have behind : rest.length + 2 < msg.packOps.length := behind
        by_contra early
        rcases ok.early_eq packing (not_lt.mp early) with ⟨earlier, -⟩ | ⟨writes, -⟩
        · omega
        · exact noWrite _ writes
      exact apart _ packing later write member
  | handOver found =>
    obtain ⟨sid, msg, -, rfl⟩ := handOver_cases stepped
    rintro sending same
    cases same
  | transmit index count | complete index | fail index =>
    obtain ⟨⟨unchanged, -, array⟩, held⟩ := transfer_cases stepped trivial
    intro sending same behind write member
    obtain ⟨earlier, pending, holds⟩ := held write member
    rw [unchanged] at same
    rw [array, ← holds]
    exact apart sending same behind earlier pending

-- The first write of a Pack goes behind a gap of four bytes, which is cleared.
theorem idWrite_clears {stream : MemoryStream} (id : Int32)
    (fits : ((stream.setLength 0).seek 4).position + 4 ≤ ((stream.setLength 0).seek 4).buffer.length) :
    let written := ((stream.setLength 0).seek 4).write (ofInt32 id)
    written.buffer.length = ((stream.setLength 0).seek 4).buffer.length ∧
      written.buffer.take 4 = List.replicate 4 0 := by
  let blank := (stream.setLength 0).seek 4
  have gap : (blank.cleared 8 4).take 4 = List.replicate 4 0 := blank.cleared_take 8 4
  constructor
  · rw [MemoryStream.write_buffer_length, ofInt32_length, MemoryStream.grown_of_fits fits]
  · calc (blank.write (ofInt32 id)).buffer.take 4
        = (overwrite (blank.cleared 8 4) 4 (ofInt32 id)).take 4 := rfl
      _ = (blank.cleared 8 4).take 4 := by
        have before : ((blank.cleared 8 4).take 4).length = 4 := by rw [gap]; rfl
        rw [overwrite, List.append_assoc]
        exact List.take_left' before
      _ = List.replicate 4 0 := gap

-- A frame begins with its length, which is not zero.
theorem Outgoing.frame_take_ne (msg : Outgoing) : msg.frame.take 4 ≠ List.replicate 4 0 := by
  intro same
  have front : msg.frame.take 4 = ofInt32 (Int32.ofNat (4 + msg.body.length)) := by
    rw [frame, List.append_assoc]
    exact List.take_left' (ofInt32_length _)
  have zero : toInt32 (List.replicate 4 0) = 0 := by decide
  have length : Int32.ofNat (4 + msg.body.length) = 0 := by
    rw [← toInt32_ofInt32 (Int32.ofNat _), ← front, same, zero]
  have fits : 8 + msg.body.length < 2 ^ 31 := msg.fits
  have number := congrArg Int32.toInt length
  rw [Int32.toInt_ofNat_of_lt (by omega)] at number
  simp at number
  omega

theorem unshared_of_kept (ok : PackOk s) (apart : Apart s) {action : SendAction}
    (stepped : sendStep action s = some s') (kept : FrameKept s') : Unshared s action := by
  cases action with
  | packStep =>
    obtain ⟨sid, msg, op, rest, packing, rfl⟩ := packStep_cases stepped
    rintro sending op' rest' same next inPlace write member current
    rw [packing] at same
    rw [← Option.some.inj same] at next
    obtain ⟨rfl, rfl⟩ := List.cons.inj next
    have early : msg.packOps.length ≤ rest.length + 3 := by
      by_contra later
      exact apart _ packing (not_le.mp later) write member current
    rcases ok.early_eq packing early with ⟨-, nothing⟩ | ⟨writes, stream, begun⟩
    · exact nothing inPlace
    · rw [writes, begun] at inPlace
      rw [writes] at kept
      obtain ⟨length, cleared⟩ := idWrite_clears msg.id inPlace
      have holds := (kept.pending write ((withStream_frame s _).1 ▸ member)).1
      apply write.msg.frame_take_ne
      have there : (s.withStream (s.stream.write (ofInt32 msg.id))).arrayOf write.array =
          (s.stream.write (ofInt32 msg.id)).buffer := by
        rw [current]
        apply SendState.withStream_current
        rw [begun, length]
      rw [← holds, ← cleared, ← begun]
      exact congrArg (List.take 4) there
  | handOver found =>
    obtain ⟨sid, msg, packed, rfl⟩ := handOver_cases stepped
    rintro rfl sending same
    rw [packed] at same
    rw [← Option.some.inj same]
    have holds := (kept.pending ⟨sid, s.array, msg, []⟩ (List.mem_append_right _ List.mem_cons_self)).1
    have array : s.stream.buffer = msg.frame := by
      rw [← holds, SendState.arrayOf, if_pos rfl]
    exact (congrArg List.length array).symm
  | _ => trivial

end

structure SendInv (s : SendState) : Prop where
  kept : FrameKept s
  apart : Apart s

/-- Every message goes out as its frame throughout a run exactly where Pack writes into no
array that a write holds and every frame handed over fills its array. -/
theorem frameKept_iff (actions : List SendAction) :
    Always sendStep FrameKept actions .initial ↔ Within sendStep Unshared actions .initial := by
  have start : SendInv .initial := by
    refine ⟨⟨?_, ?_⟩, ?_⟩
    · intro write none
      cases none
    · intro write none
      cases none
    · intro sending none
      cases none
  have keepsOk : ∀ s action s', PackOk s → sendStep action s = some s' → PackOk s' :=
    fun s action s' ok stepped => packOk_step ok stepped
  refine always_iff_within keepsOk ?_ ?_ ?_ packOk_initial start
  · rintro s action s' ok ⟨kept, apart⟩ admitted stepped
    exact ⟨frameKept_step ok kept admitted stepped, apart_step ok apart admitted stepped⟩
  · rintro s - ⟨kept, -⟩
    exact kept
  · rintro s action s' ok ⟨-, apart⟩ stepped kept
    exact unshared_of_kept ok apart stepped kept

def firstSend : List SendAction :=
  .send 1 (MsgBase.outgoing (.test ⟨640, 480⟩)) :: List.replicate 7 .packStep ++ [.handOver true]

theorem fullArray_fits : 8 + [List.replicate 248 (1 : UInt8)].flatten.length < 2 ^ 31 := by
  decide +kernel

/-- A message that fills the array, and a second one for another client while it is sent. -/
def secondSend : List SendAction :=
  .send 1 ⟨0, [List.replicate 248 1], fullArray_fits⟩ :: List.replicate 6 .packStep ++ .handOver true ::
    .send 2 (MsgBase.outgoing (.test ⟨640, 480⟩)) :: List.replicate 3 .packStep

/-- The array of the first has 256 bytes and its frame 16. The second clears the array of
the message before. -/
theorem sends_break_frames :
    (∃ s write, run sendStep firstSend .initial = some s ∧ write ∈ s.pending ∧
      (s.arrayOf write.array).length = 256 ∧ write.msg.frame.length = 16 ∧ ¬ FrameKept s) ∧
    ∃ s write, run sendStep secondSend .initial = some s ∧ write ∈ s.pending ∧ write.sid = 1 ∧
      (s.arrayOf write.array).take 4 = [0, 0, 0, 0] ∧ write.msg.frame.take 4 = [252, 0, 0, 0] ∧ ¬ FrameKept s := by
  constructor
  · have facts : (run sendStep firstSend .initial).map
        (fun s => s.pending.map fun write => ((s.arrayOf write.array).length, write.msg.frame.length)) =
        some [(256, 16)] := by decide +kernel
    obtain ⟨s, ran, all⟩ := Option.map_eq_some_iff.mp facts
    obtain ⟨write, member, same⟩ := List.mem_map.mp (all ▸ List.mem_cons_self)
    obtain ⟨array, frame⟩ := Prod.mk.inj same
    refine ⟨s, write, ran, member, array, frame, fun kept => ?_⟩
    have holds := congrArg List.length (kept.pending write member).1
    rw [array, frame] at holds
    cases holds
  · have facts : (run sendStep secondSend .initial).map
        (fun s => s.pending.map fun write =>
          (write.sid, (s.arrayOf write.array).take 4, write.msg.frame.take 4)) =
        some [(1, [0, 0, 0, 0], [252, 0, 0, 0])] := by decide +kernel
    obtain ⟨s, ran, all⟩ := Option.map_eq_some_iff.mp facts
    obtain ⟨write, member, same⟩ := List.mem_map.mp (all ▸ List.mem_cons_self)
    simp only [Prod.mk.injEq] at same
    obtain ⟨sid, array, frame⟩ := same
    refine ⟨s, write, ran, member, sid, array, frame, fun kept => ?_⟩
    have holds := congrArg (List.take 4) (kept.pending write member).1
    rw [array, frame] at holds
    cases holds

end RayTraceRenderer.Net

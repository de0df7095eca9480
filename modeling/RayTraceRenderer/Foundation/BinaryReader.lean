import RayTraceRenderer.Foundation.LittleEndian
import Mathlib.Data.List.TakeDrop

/-! A reader that can be put anywhere in a stream of bytes.

A computation reads a string as a value when it returns that value and stands behind the
string, whatever comes after it. Strings that are read one after another are read as one.
-/

set_option autoImplicit false

namespace RayTraceRenderer

class ReadFault (ε : Type) where
  endOfStream : ε
  argumentOutOfRange : ε
  io : ε

/-- The position may lie behind the end. -/
structure BinaryReader where
  bytes : List UInt8
  position : Nat
  deriving DecidableEq, Repr

abbrev Reading (ε α : Type) := StateT BinaryReader (Except ε) α

namespace BinaryReader

def ofBytes (bytes : List UInt8) : BinaryReader := ⟨bytes, 0⟩

def ahead (r : BinaryReader) : List UInt8 := r.bytes.drop r.position

def advance (r : BinaryReader) (count : Nat) : BinaryReader := { r with position := r.position + count }

theorem advance_advance (r : BinaryReader) (first second : Nat) :
    (r.advance first).advance second = r.advance (first + second) := by
  simp [advance, Nat.add_assoc]

theorem advance_ahead (r : BinaryReader) (count : Nat) : (r.advance count).ahead = r.ahead.drop count := by
  unfold ahead
  rw [List.drop_drop]
  rfl

theorem ahead_behind {r : BinaryReader} {front rest : List UInt8} (next : r.ahead = front ++ rest) :
    (r.advance front.length).ahead = rest := by
  rw [advance_ahead, next, List.drop_left]

end BinaryReader

namespace Reading

variable {ε α β : Type}

theorem bind_apply (m : Reading ε α) (f : α → Reading ε β) (r : BinaryReader) :
    (m >>= f) r = (m r).bind fun result => f result.1 result.2 := rfl

theorem pure_apply (a : α) (r : BinaryReader) : (pure a : Reading ε α) r = .ok (a, r) := rfl

theorem bind_ok {m : Reading ε α} {f : α → Reading ε β} {r r' : BinaryReader} {a : α} (first : m r = .ok (a, r')) :
    (m >>= f) r = f a r' := by
  rw [bind_apply, first]
  rfl

theorem map_ok {m : Reading ε α} {f : α → β} {r r' : BinaryReader} {a : α} (first : m r = .ok (a, r')) :
    (f <$> m) r = .ok (f a, r') := by
  rw [map_eq_pure_bind, bind_ok first]
  rfl

theorem bind_eq_ok_iff {m : Reading ε α} {f : α → Reading ε β} {r r' : BinaryReader} {b : β} :
    (m >>= f) r = .ok (b, r') ↔ ∃ a mid, m r = .ok (a, mid) ∧ f a mid = .ok (b, r') := by
  rw [bind_apply]
  cases m r with
  | error fault => simp [Except.bind]
  | ok result => simp [Except.bind, Prod.ext_iff]

section
variable [ReadFault ε]

def readByte : Reading ε UInt8 := fun r =>
  match r.ahead with
  | [] => .error ReadFault.endOfStream
  | byte :: _ => .ok (byte, r.advance 1)

/-- At the end of the stream there are fewer bytes than were asked for. -/
def readBytes (count : Int) : Reading ε (List UInt8) := fun r =>
  if count < 0 then .error ReadFault.argumentOutOfRange
  else
    let front := r.ahead.take count.toNat
    .ok (front, r.advance front.length)

def readExactly (count : Nat) : Reading ε (List UInt8) := fun r =>
  let front := r.ahead.take count
  if front.length = count then .ok (front, r.advance count) else .error ReadFault.endOfStream

def readInt16 : Reading ε Int16 := LittleEndian.toInt16 <$> readExactly 2

def readInt32 : Reading ε Int32 := LittleEndian.toInt32 <$> readExactly 4

def seekTo (position : Int) : Reading ε Unit := fun r =>
  if position < 0 then .error ReadFault.io else .ok ((), { r with position := position.toNat })

/-- `Seek(offset, SeekOrigin.Begin)` -/
def seekBegin (offset : Int) : Reading ε Unit := seekTo offset

/-- `Seek(offset, SeekOrigin.End)` -/
def seekEnd (offset : Int) : Reading ε Unit := fun r => seekTo (r.bytes.length + offset) r

end

/-! ## The stream -/

def KeepsBytes (m : Reading ε α) : Prop := ∀ r a r', m r = .ok (a, r') → r'.bytes = r.bytes

theorem KeepsBytes.pure (a : α) : KeepsBytes (pure a : Reading ε α) := by
  intro r b r' returned
  cases returned
  rfl

theorem KeepsBytes.bind {m : Reading ε α} {f : α → Reading ε β} (first : KeepsBytes m)
    (second : ∀ a, KeepsBytes (f a)) : KeepsBytes (m >>= f) := by
  intro r b r' returned
  obtain ⟨a, mid, begun, ended⟩ := bind_eq_ok_iff.mp returned
  rw [second a mid b r' ended, first r a mid begun]

theorem KeepsBytes.mapM {γ : Type} {f : γ → Reading ε α} (each : ∀ x, KeepsBytes (f x)) (xs : List γ) :
    KeepsBytes (xs.mapM f) := by
  induction xs with
  | nil => exact .pure []
  | cons x rest ih =>
    rw [List.mapM_cons]
    exact (each x).bind fun a => ih.bind fun others => .pure _

section
variable [ReadFault ε]

theorem KeepsBytes.readByte : KeepsBytes (readByte : Reading ε UInt8) := by
  intro r a r' returned
  unfold Reading.readByte at returned
  split at returned
  · cases returned
  · cases returned
    rfl

theorem KeepsBytes.readBytes (count : Int) : KeepsBytes (readBytes count : Reading ε (List UInt8)) := by
  intro r a r' returned
  unfold Reading.readBytes at returned
  split at returned
  · cases returned
  · cases returned
    rfl

end

/-! ## What lies ahead -/

/-- What was returned, with the bytes that lie ahead then. -/
def outcome (result : Except ε (α × BinaryReader)) : Except ε (α × List UInt8) :=
  result.map fun returned => (returned.1, returned.2.ahead)

/-- A computation that reads nothing but what lies ahead. -/
def AheadOnly (m : Reading ε α) : Prop :=
  ∀ r r' : BinaryReader, r.ahead = r'.ahead → outcome (m r) = outcome (m r')

theorem AheadOnly.pure (a : α) : AheadOnly (pure a : Reading ε α) := by
  intro r r' same
  rw [pure_apply, pure_apply, outcome, outcome, Except.map, Except.map, same]

theorem AheadOnly.fail (fault : ε) : AheadOnly (fun _ => .error fault : Reading ε α) := fun _ _ _ => rfl

theorem AheadOnly.bind {m : Reading ε α} {f : α → Reading ε β} (first : AheadOnly m)
    (second : ∀ a, AheadOnly (f a)) : AheadOnly (m >>= f) := by
  intro r r' same
  have begun := first r r' same
  rw [bind_apply, bind_apply]
  cases left : m r with
  | error fault =>
    cases right : m r' with
    | error fault' =>
      rw [left, right] at begun
      cases begun
      rfl
    | ok result' =>
      rw [left, right] at begun
      cases begun
  | ok result =>
    cases right : m r' with
    | error fault' =>
      rw [left, right] at begun
      cases begun
    | ok result' =>
      rw [left, right] at begun
      obtain ⟨value, ahead⟩ := Prod.mk.inj (Except.ok.inj begun)
      change outcome (f result.1 result.2) = outcome (f result'.1 result'.2)
      rw [← value]
      exact second result.1 _ _ ahead

theorem AheadOnly.foldlM {γ : Type} {f : β → γ → Reading ε β} (step : ∀ acc x, AheadOnly (f acc x)) (xs : List γ)
    (acc : β) : AheadOnly (xs.foldlM f acc) := by
  induction xs generalizing acc with
  | nil => exact .pure acc
  | cons x rest ih =>
    rw [List.foldlM_cons]
    exact (step acc x).bind ih

theorem AheadOnly.mapM {γ : Type} {f : γ → Reading ε α} (each : ∀ x, AheadOnly (f x)) (xs : List γ) :
    AheadOnly (xs.mapM f) := by
  induction xs with
  | nil => exact .pure []
  | cons x rest ih =>
    rw [List.mapM_cons]
    exact (each x).bind fun a => ih.bind fun others => .pure _

section
variable [ReadFault ε]

theorem AheadOnly.readByte : AheadOnly (readByte : Reading ε UInt8) := by
  intro r r' same
  unfold Reading.readByte
  rw [← same]
  cases r.ahead with
  | nil => rfl
  | cons byte rest =>
    rw [outcome, outcome, Except.map, Except.map, BinaryReader.advance_ahead, BinaryReader.advance_ahead, same]

theorem AheadOnly.readBytes (count : Int) : AheadOnly (readBytes count : Reading ε (List UInt8)) := by
  intro r r' same
  unfold Reading.readBytes
  split
  · rfl
  · rw [outcome, outcome, Except.map, Except.map, BinaryReader.advance_ahead, BinaryReader.advance_ahead, same]

end

/-! ## Strings that are read -/

def Reads (m : Reading ε α) (front : List UInt8) (a : α) : Prop :=
  ∀ (r : BinaryReader) (rest : List UInt8), r.ahead = front ++ rest → m r = .ok (a, r.advance front.length)

theorem Reads.pure (a : α) : Reads (pure a : Reading ε α) [] a :=
  fun r _ _ => pure_apply a r

theorem Reads.bind {m : Reading ε α} {f : α → Reading ε β} {front after : List UInt8} {a : α} {b : β}
    (first : Reads m front a) (second : Reads (f a) after b) : Reads (m >>= f) (front ++ after) b := by
  intro r rest next
  rw [List.append_assoc] at next
  rw [bind_ok (first r _ next), second _ rest (BinaryReader.ahead_behind next), BinaryReader.advance_advance,
    List.length_append]

theorem Reads.map {m : Reading ε α} {f : α → β} {front : List UInt8} {a : α} (first : Reads m front a) :
    Reads (f <$> m) front (f a) :=
  fun r rest next => map_ok (first r rest next)

theorem Reads.bind_pure {m : Reading ε α} {f : α → Reading ε β} {front : List UInt8} {a : α} {b : β}
    (first : Reads m front a) (second : Reads (f a) [] b) : Reads (m >>= f) front b := by
  have both := first.bind second
  rwa [List.append_nil] at both

/-- Behind a string a computation goes on as another one does. -/
def Continues (m : Reading ε α) (front : List UInt8) (later : Reading ε α) : Prop :=
  ∀ (r : BinaryReader) (rest : List UInt8), r.ahead = front ++ rest → m r = later (r.advance front.length)

theorem Reads.continues {m : Reading ε α} {front : List UInt8} {a : α} (reads : Reads m front a)
    (f : α → Reading ε β) : Continues (m >>= f) front (f a) :=
  fun r rest next => bind_ok (reads r rest next)

theorem Continues.trans {m later last : Reading ε α} {front after : List UInt8} (first : Continues m front later)
    (second : Continues later after last) : Continues m (front ++ after) last := by
  intro r rest next
  rw [List.append_assoc] at next
  rw [first r _ next, second _ rest (BinaryReader.ahead_behind next), BinaryReader.advance_advance, List.length_append]

theorem Reads.repeated {γ : Type} {m : Reading ε α} (xs : List γ) (parts : List (List UInt8 × α))
    (count : xs.length = parts.length) (each : ∀ part ∈ parts, Reads m part.1 part.2) :
    Reads (xs.mapM fun _ => m) (parts.flatMap Prod.fst) (parts.map Prod.snd) := by
  induction xs generalizing parts with
  | nil =>
    rw [List.eq_nil_of_length_eq_zero count.symm]
    exact Reads.pure []
  | cons x rest ih =>
    cases parts with
    | nil => cases count
    | cons part parts =>
      have later := ih parts (Nat.succ.inj count) fun other member => each other (List.mem_cons_of_mem part member)
      rw [List.mapM_cons, List.flatMap_cons, List.map_cons]
      apply (each part List.mem_cons_self).bind
      apply later.bind_pure
      exact Reads.pure _

section
variable [ReadFault ε]

theorem readByte_reads (byte : UInt8) : Reads (readByte : Reading ε UInt8) [byte] byte := by
  intro r rest next
  unfold readByte
  rw [next]
  rfl

theorem readBytes_reads (front : List UInt8) : Reads (readBytes front.length : Reading ε (List UInt8)) front front := by
  intro r rest next
  unfold readBytes
  rw [if_neg (Int.not_lt.mpr (Int.natCast_nonneg _)), Int.toNat_natCast, next, List.take_left]

theorem readExactly_reads (front : List UInt8) :
    Reads (readExactly front.length : Reading ε (List UInt8)) front front := by
  intro r rest next
  unfold readExactly
  rw [next, List.take_left]
  exact if_pos rfl

theorem readInt16_reads (value : Int16) : Reads (readInt16 : Reading ε Int16) (LittleEndian.ofInt16 value) value := by
  have read := (readExactly_reads (ε := ε) (LittleEndian.ofInt16 value)).map (f := LittleEndian.toInt16)
  rwa [LittleEndian.ofInt16_length, LittleEndian.toInt16_ofInt16] at read

theorem readInt32_reads (value : Int32) : Reads (readInt32 : Reading ε Int32) (LittleEndian.ofInt32 value) value := by
  have read := (readExactly_reads (ε := ε) (LittleEndian.ofInt32 value)).map (f := LittleEndian.toInt32)
  rwa [LittleEndian.ofInt32_length, LittleEndian.toInt32_ofInt32] at read

theorem readInt32_of_length {four : List UInt8} (length : four.length = 4) :
    Reads (readInt32 : Reading ε Int32) four (LittleEndian.toInt32 four) := by
  have read := readInt32_reads (ε := ε) (LittleEndian.toInt32 four)
  rwa [LittleEndian.ofInt32_toInt32 length] at read

theorem readBytes_of_length {front : List UInt8} {count : Nat} (length : front.length = count) :
    Reads (readBytes count : Reading ε (List UInt8)) front front := by
  rw [← length]
  exact readBytes_reads front

theorem readBytes_apply (count : Nat) (r : BinaryReader) :
    (readBytes count : Reading ε (List UInt8)) r = .ok (r.ahead.take count, r.advance (r.ahead.take count).length) := by
  unfold readBytes
  rw [if_neg (Int.not_lt.mpr (Int.natCast_nonneg _)), Int.toNat_natCast]

theorem seekEnd_apply {r : BinaryReader} {count : Nat} (inside : count ≤ r.bytes.length) :
    (seekEnd (-count) : Reading ε Unit) r = .ok ((), ⟨r.bytes, r.bytes.length - count⟩) := by
  have place : ((r.bytes.length : Int) + -count).toNat = r.bytes.length - count := by omega
  unfold seekEnd seekTo
  rw [if_neg (by omega), place]

theorem seekBegin_apply (offset : Nat) (r : BinaryReader) :
    (seekBegin offset : Reading ε Unit) r = .ok ((), ⟨r.bytes, offset⟩) := by
  unfold seekBegin seekTo
  rw [if_neg (Int.not_lt.mpr (Int.natCast_nonneg _)), Int.toNat_natCast]

end

end Reading

end RayTraceRenderer

import RayTraceRenderer.Net.Framing

/-! One call of Tick.

The queue is emptied event by event, and the handlers run in between. What a handler throws goes
through the loop and out of Tick: the event is gone, and those behind it stay in the queue.
-/

set_option autoImplicit false

namespace RayTraceRenderer.Net

open LittleEndian Transition

namespace ServerState

/-- The loop of Tick over the events that are queued, and the exception that ended it. -/
def dispatch : List EventData → ServerState → ServerState × Option Exn
  | [], s => ({ s with ticking := false }, none)
  | event :: rest, s =>
    let s' := { s with dataQueue := rest, calls := s.calls ++ [event] }
    match s.handle event with
    | .ok serverClients => dispatch rest { s' with serverClients }
    | .error why => ({ s' with ticking := false }, some why)

/-- `NetServer.Tick`, where nobody else has the lock of the queue. -/
def tick (s : ServerState) : ServerState × Option Exn := dispatch s.dataQueue { s with ticking := true }

end ServerState

/-- The bytes begin with the id of a message that the factory knows, and are long enough for its fields. -/
def WellFormed (data : List UInt8) : Prop := 12 ≤ data.length ∧ data.take 4 = [0, 0, 0, 0]

instance (data : List UInt8) : Decidable (WellFormed data) := inferInstanceAs (Decidable (_ ∧ _))

/-- The handler of the event does not throw. -/
def Harmless (event : EventData) : Prop := event.type = .Data → WellFormed (event.data.getD [])

instance (event : EventData) : Decidable (Harmless event) := inferInstanceAs (Decidable (_ → _))

theorem exists_unpack_iff (data : List UInt8) : (∃ msg, MessageUnpacker.unpack data = .ok msg) ↔ WellFormed data := by
  have id : ofInt32 MsgID.Test.toInt32 = [0, 0, 0, 0] := by decide
  simp only [unpack_eq_ok_iff]
  constructor
  · rintro ⟨⟨fields⟩, rest, rfl⟩
    constructor
    · simp only [MsgBase.body, List.length_append, ofInt32_length]
      omega
    · rw [List.append_assoc]
      exact (List.take_left' (ofInt32_length _)).trans id
  · rintro ⟨long, front⟩
    have width := List.length_take_of_le (show 4 ≤ (data.drop 4).length by rw [List.length_drop]; omega)
    have height := List.length_take_of_le (show 4 ≤ (data.drop 8).length by rw [List.length_drop]; omega)
    refine ⟨.test ⟨toInt32 ((data.drop 4).take 4), toInt32 ((data.drop 8).take 4)⟩, data.drop 12, ?_⟩
    have second := List.take_append_drop 4 (data.drop 4)
    have third := List.take_append_drop 4 (data.drop 8)
    rw [List.drop_drop] at second third
    simp only [MsgBase.id, MsgBase.body, ofInt32_toInt32 width, ofInt32_toInt32 height, id, ← front, List.append_assoc]
    rw [third, second, List.take_append_drop]

namespace ServerState

variable {s : ServerState}

theorem exists_handle_iff (event : EventData) : (∃ serverClients, s.handle event = .ok serverClients) ↔ Harmless event := by
  unfold Harmless
  rw [← exists_unpack_iff]
  cases kind : event.type with
  | Connect => simp [handle, kind]
  | Disconnect => simp [handle, kind]
  | Data =>
    simp only [handle, kind, bind_eq_ok, forall_const]
    constructor
    · rintro ⟨_, msg, unpacked, -⟩
      exact ⟨msg, unpacked⟩
    · rintro ⟨msg, unpacked⟩
      exact ⟨_, msg, unpacked, rfl⟩

-- The loop comes to its end with the last event, or with the first whose handler throws.
theorem dispatch_eq_none_iff (queue : List EventData) : (dispatch queue s).2 = none ↔ ∀ event ∈ queue, Harmless event := by
  induction queue generalizing s with
  | nil => simp [dispatch]
  | cons event rest ih =>
    have handled := exists_handle_iff (s := s) event
    unfold dispatch
    cases called : s.handle event with
    | ok serverClients =>
      have harmless := handled.mp ⟨serverClients, called⟩
      simp only [List.forall_mem_cons, harmless, true_and]
      exact ih
    | error why =>
      have harmful : ¬ Harmless event := fun harmless => by
        rcases handled.mpr harmless with ⟨serverClients, same⟩
        rw [called] at same
        cases same
      simp only [List.forall_mem_cons, harmful, false_and, reduceCtorEq]

-- What the loop leaves and what it has handled, together, are what was queued.
theorem dispatch_calls {queue : List EventData} (synced : s.dataQueue = queue) :
    (dispatch queue s).1.calls ++ (dispatch queue s).1.dataQueue = s.calls ++ queue ∧
      ((dispatch queue s).2 = none → (dispatch queue s).1.dataQueue = []) := by
  induction queue generalizing s with
  | nil => exact ⟨by simp [dispatch, synced], fun _ => synced⟩
  | cons event rest ih =>
    unfold dispatch
    cases called : s.handle event with
    | ok serverClients =>
      obtain ⟨calls, drained⟩ := ih (s := { s with dataQueue := rest, calls := s.calls ++ [event], serverClients }) rfl
      exact ⟨by simpa using calls, drained⟩
    | error why => exact ⟨by simp, fun none => by cases none⟩

-- The loop is a run of the turns of Tick, the last of which may be cut short.
theorem dispatch_runs {queue : List EventData} (synced : s.dataQueue = queue) (locked : s.ticking = true) :
    ∃ actions, (∀ action ∈ actions, action = .tickTurn ∨ action = .tickEnd) ∧
      run serverStep actions s = some (dispatch queue s).1 := by
  induction queue generalizing s with
  | nil =>
    refine ⟨[.tickEnd], by simp, ?_⟩
    simp [run, serverStep, tickEnd, dispatch, synced, locked]
  | cons event rest ih =>
    unfold dispatch
    cases called : s.handle event with
    | ok serverClients =>
      obtain ⟨actions, turns, ran⟩ :=
        ih (s := { s with dataQueue := rest, calls := s.calls ++ [event], serverClients }) rfl locked
      refine ⟨.tickTurn :: actions, by simpa using turns, ?_⟩
      simpa [run, serverStep, tickTurn, synced, locked, called] using ran
    | error why =>
      refine ⟨[.tickTurn], by simp, ?_⟩
      simp [run, serverStep, tickTurn, synced, locked, called]

theorem tick_runs (idle : s.ticking = false) : ∃ turns, (∀ action ∈ turns, action = .tickTurn ∨ action = .tickEnd) ∧
    run serverStep (.tickBegin :: turns) s = some s.tick.1 := by
  obtain ⟨turns, all, ran⟩ := dispatch_runs (s := { s with ticking := true }) rfl rfl
  refine ⟨turns, all, ?_⟩
  simpa [run, serverStep, tickBegin, idle, tick] using ran

end ServerState

/-- A call of Tick returns, with an empty queue and every queued event handled, exactly where no Data event
carries bytes that are no message. -/
theorem tick_handles_iff (s : ServerState) :
    s.tick.2 = none ∧ s.tick.1.dataQueue = [] ∧ s.tick.1.calls = s.calls ++ s.dataQueue ↔
      ∀ event ∈ s.dataQueue, event.type = .Data → WellFormed (event.data.getD []) := by
  have returns := ServerState.dispatch_eq_none_iff (s := { s with ticking := true }) s.dataQueue
  obtain ⟨calls, drained⟩ := ServerState.dispatch_calls (s := { s with ticking := true }) rfl
  constructor
  · rintro ⟨returned, -, -⟩
    exact returns.mp returned
  · intro wellFormed
    have returned := returns.mpr wellFormed
    have empty := drained returned
    rw [empty, List.append_nil] at calls
    exact ⟨returned, empty, calls⟩

/-- One byte from one client, and the message of another stays in the queue. -/
theorem tick_disturbed :
    let message := EventData.received 2 (ofInt32 0 ++ ofInt32 640 ++ ofInt32 480)
    let tick := { ServerState.initial with dataQueue := [.received 1 [7], message] }.tick
    tick.2 = some .endOfStream ∧ tick.1.dataQueue = [message] ∧ tick.1.calls = [.received 1 [7]] := by
  decide +kernel

end RayTraceRenderer.Net

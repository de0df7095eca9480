import RayTraceRenderer.Net.AsyncTcpServer

/-! What the handlers are told: each session's events, once each and in order.

A session raises its events in its own callbacks, one after the other. The queue is
shared, but what is delivered and what still waits in it together are, for one
session, what its callbacks have raised so far.
-/

set_option autoImplicit false

namespace RayTraceRenderer.Net

open Transition

/-- The events that the callbacks of a session have queued. -/
def Session.events (session : Session) (sid : Nat) : List EventData :=
  match session.phase with
  | .fresh | .accepted | .entered => []
  | .received _ => .connect sid :: session.reads.dropLast.map (.received sid)
  | .reported | .removed => .connect sid :: session.reads.map (.received sid) ++ [.disconnect sid]
  | _ => .connect sid :: session.reads.map (.received sid)

def Phase.Listed : Phase → Prop
  | .fresh | .accepted | .removed => False
  | _ => True

def Phase.Served : Phase → Prop
  | .accepted | .entered | .connected => True
  | _ => False

/-- What was read is what the callback copies out of the buffer. -/
def Session.Consistent (session : Session) : Prop :=
  match session.phase with
  | .fresh | .accepted | .entered | .connected => session.reads = []
  | .arrived bytes => session.buffer.take bytes.length = bytes
  | .received data => ∃ front, session.reads = front ++ [data]
  | _ => True

namespace ServerState

def eventsOf (s : ServerState) (sid : Nat) : List EventData :=
  (s.calls ++ s.dataQueue).filter fun event => event.sid = sid

end ServerState

structure SessionOk (s : ServerState) (sid : Nat) : Prop where
  events : s.eventsOf sid = (s.sessions sid).events sid
  listed : sid ∈ s.clients ↔ (s.sessions sid).phase.Listed
  served : s.accept = .serving sid ↔ (s.sessions sid).phase.Served
  consistent : (s.sessions sid).Consistent
  known : s.lastSid < sid → (s.sessions sid).phase = .fresh

def ServerOk (s : ServerState) : Prop := ∀ sid, SessionOk s sid

theorem serverOk_initial : ServerOk .initial := by
  intro sid
  constructor
  · rfl
  · simp [ServerState.initial, Session.fresh, Phase.Listed]
  · simp [ServerState.initial, Session.fresh, Phase.Served]
  · rfl
  · intro _
    rfl

section
variable {s s' : ServerState} {sid : Nat}

-- A step that touches one session only, and queues events of that session only.
theorem ServerOk.change (ok : ServerOk s) {session : Session} {raised : List EventData}
    (sessions : s'.sessions = Function.update s.sessions sid session)
    (queue : s'.calls ++ s'.dataQueue = s.calls ++ s.dataQueue ++ raised)
    (own : ∀ event ∈ raised, event.sid = sid)
    (clients : ∀ other, other ≠ sid → (other ∈ s'.clients ↔ other ∈ s.clients))
    (accept : ∀ other, other ≠ sid → (s'.accept = .serving other ↔ s.accept = .serving other))
    (later : s.lastSid ≤ s'.lastSid) (known : sid ≤ s'.lastSid)
    (events : session.events sid = (s.sessions sid).events sid ++ raised)
    (listed : sid ∈ s'.clients ↔ session.phase.Listed)
    (served : s'.accept = .serving sid ↔ session.phase.Served)
    (consistent : session.Consistent) : ServerOk s' := by
  intro other
  have split : s'.eventsOf other = s.eventsOf other ++ raised.filter fun event => event.sid = other := by
    unfold ServerState.eventsOf
    rw [queue, List.filter_append]
  by_cases same : other = sid
  · subst other
    have here : s'.sessions sid = session := by rw [sessions, Function.update_self]
    have all : (raised.filter fun event => event.sid = sid) = raised :=
      List.filter_eq_self.mpr fun event member => decide_eq_true (own event member)
    constructor
    · rw [split, all, here, events, (ok sid).events]
    · rw [here, listed]
    · rw [here, served]
    · rw [here]
      exact consistent
    · intro unknown
      exact absurd unknown (Nat.not_lt.mpr known)
  · have there : s'.sessions other = s.sessions other := by rw [sessions, Function.update_of_ne same]
    have none : (raised.filter fun event => event.sid = other) = [] := by
      apply List.filter_eq_nil_iff.mpr
      intro event member
      rw [own event member]
      simpa using Ne.symm same
    constructor
    · rw [split, none, List.append_nil, there, (ok other).events]
    · rw [there, clients other same, (ok other).listed]
    · rw [there, accept other same, (ok other).served]
    · rw [there]
      exact (ok other).consistent
    · intro unknown
      rw [there]
      exact (ok other).known (lt_of_le_of_lt later unknown)

theorem ServerOk.keep (ok : ServerOk s) (sessions : s'.sessions = s.sessions)
    (queue : s'.calls ++ s'.dataQueue = s.calls ++ s.dataQueue) (clients : s'.clients = s.clients)
    (accept : ∀ sid, s'.accept = .serving sid ↔ s.accept = .serving sid)
    (lastSid : s'.lastSid = s.lastSid) : ServerOk s' := by
  intro sid
  constructor
  · rw [sessions, ← (ok sid).events]
    unfold ServerState.eventsOf
    rw [queue]
  · rw [clients, sessions, (ok sid).listed]
  · rw [accept, sessions, (ok sid).served]
  · rw [sessions]
    exact (ok sid).consistent
  · rw [lastSid, sessions]
    exact (ok sid).known

theorem ServerOk.le_lastSid (ok : ServerOk s) (begun : (s.sessions sid).phase ≠ .fresh) : sid ≤ s.lastSid := by
  by_contra unknown
  exact begun ((ok sid).known (not_le.mp unknown))

-- Only the session whose phase is that of an accepted connection is served.
theorem ServerOk.not_serving (ok : ServerOk s) (away : ¬ (s.sessions sid).phase.Served) :
    s.accept ≠ .serving sid := fun serving => away ((ok sid).served.mp serving)

theorem not_serving_of_ne {other : Nat} (serving : s.accept = .serving sid) (ne : other ≠ sid) :
    s.accept ≠ .serving other := by
  intro same
  exact ne (AcceptPhase.serving.inj (same.symm.trans serving))

/-! ## One step -/

-- A callback of a session that is neither served before nor afterwards, and stays in the table.
theorem ServerOk.advance (ok : ServerOk s) {session : Session} {raised : List EventData}
    (sessions : s'.sessions = Function.update s.sessions sid session)
    (queue : s'.calls ++ s'.dataQueue = s.calls ++ s.dataQueue ++ raised)
    (clients : s'.clients = s.clients) (accept : s'.accept = s.accept) (lastSid : s'.lastSid = s.lastSid)
    (own : ∀ event ∈ raised, event.sid = sid)
    (away : ¬ (s.sessions sid).phase.Served ∧ ¬ session.phase.Served)
    (listed : (s.sessions sid).phase.Listed ∧ session.phase.Listed)
    (events : session.events sid = (s.sessions sid).events sid ++ raised)
    (consistent : session.Consistent) : ServerOk s' := by
  have begun : (s.sessions sid).phase ≠ .fresh := by
    intro fresh
    have listed := listed.1
    rw [fresh] at listed
    exact listed
  refine ok.change sessions queue own ?_ ?_ lastSid.ge ?_ events ?_ ?_ consistent
  · intro other _
    rw [clients]
  · intro other _
    rw [accept]
  · rw [lastSid]
    exact ok.le_lastSid begun
  · rw [clients]
    exact iff_of_true ((ok sid).listed.mpr listed.1) listed.2
  · rw [accept]
    exact iff_of_false (ok.not_serving away.1) away.2

theorem acceptTcpClient_ok (ok : ServerOk s) {receiveBufferSize : Nat}
    (stepped : s.acceptTcpClient receiveBufferSize = some s') : ServerOk s' := by
  obtain ⟨pending, rfl | ⟨-, rfl⟩⟩ := ServerState.acceptTcpClient_cases stepped
  · have fresh : (s.sessions s.getNewSid).phase = .fresh := (ok _).known (Nat.lt_succ_self _)
    have unlisted : s.getNewSid ∉ s.clients := by
      rw [(ok _).listed, fresh]
      exact id
    refine ok.change rfl (List.append_nil _).symm (by simp) (fun _ _ => Iff.rfl) ?_ (Nat.le_succ _) le_rfl
      ?_ (iff_of_false unlisted id) (iff_of_true rfl trivial) rfl
    · intro other ne
      apply iff_of_false
      · intro same
        exact ne (AcceptPhase.serving.inj same).symm
      · simp [pending]
    · simp [Session.events, fresh]
  · refine ok.keep rfl rfl rfl ?_ rfl
    simp [pending]

theorem enterClient_ok (ok : ServerOk s) (stepped : s.enterClient = some s') : ServerOk s' := by
  obtain ⟨sid, serving, phase, rfl⟩ := ServerState.enterClient_cases stepped
  have unread : (s.sessions sid).reads = [] := by simpa [Session.Consistent, phase] using (ok sid).consistent
  refine ok.change rfl (List.append_nil _).symm (by simp) ?_ (fun _ _ => Iff.rfl) le_rfl
    (ok.le_lastSid (by simp [phase])) ?_ (iff_of_true (Finset.mem_insert_self _ _) trivial)
    (iff_of_true serving trivial) unread
  · intro other ne
    exact Finset.mem_insert.trans (or_iff_right ne)
  · simp [Session.events, phase]

theorem queueConnect_ok (ok : ServerOk s) (stepped : s.queueConnect = some s') : ServerOk s' := by
  obtain ⟨sid, serving, phase, rfl⟩ := ServerState.queueConnect_cases stepped
  have unread : (s.sessions sid).reads = [] := by simpa [Session.Consistent, phase] using (ok sid).consistent
  have listed : sid ∈ s.clients := (ok sid).listed.mpr (by simp [phase, Phase.Listed])
  refine ok.change rfl (List.append_assoc _ _ _).symm (by simp [EventData.connect]) (fun _ _ => Iff.rfl)
    (fun _ _ => Iff.rfl) le_rfl (ok.le_lastSid (by simp [phase])) ?_ (iff_of_true listed trivial)
    (iff_of_true serving trivial) unread
  simp [Session.events, phase, unread]

theorem firstRead_ok (ok : ServerOk s) (stepped : s.firstRead = some s') : ServerOk s' := by
  obtain ⟨sid, serving, phase, outcome⟩ := ServerState.firstRead_cases stepped
  have listed : sid ∈ s.clients := (ok sid).listed.mpr (by simp [phase, Phase.Listed])
  -- Nothing is served afterwards, whether the calls threw or not.
  have change : ∀ after phase', s' = { s.setPhase sid phase' with accept := after } →
      (∀ other, after ≠ .serving other) → phase'.Listed → ¬ phase'.Served →
      (Session.events { s.sessions sid with phase := phase' } sid = (s.sessions sid).events sid) →
      Session.Consistent { s.sessions sid with phase := phase' } → ServerOk s' := by
    intro after phase' same nobody listed' away' events consistent
    subst same
    refine ok.change rfl (List.append_nil _).symm (by simp) (fun _ _ => Iff.rfl) ?_ le_rfl
      (ok.le_lastSid (by simp [phase])) ?_ (iff_of_true listed listed') (iff_of_false (nobody sid) away')
      consistent
    · intro other ne
      exact iff_of_false (nobody other) (not_serving_of_ne serving ne)
    · rw [events, List.append_nil]
  rcases outcome with ⟨-, same⟩ | ⟨-, same⟩
  · exact change .ended .dead same (by simp) trivial id (by simp [Session.events, phase]) trivial
  · exact change .rearming .reading same (by simp) trivial id (by simp [Session.events, phase]) trivial

theorem nextAccept_ok (ok : ServerOk s) (stepped : s.nextAccept = some s') : ServerOk s' := by
  obtain ⟨rearming, rfl⟩ := ServerState.nextAccept_cases stepped
  refine ok.keep rfl rfl rfl ?_ rfl
  intro sid
  apply iff_of_false
  · simp only
    split <;> simp
  · simp [rearming]

theorem completeRead_ok (ok : ServerOk s) {bytes : List UInt8} (stepped : s.completeRead sid bytes = some s') :
    ServerOk s' := by
  obtain ⟨phase, -, rfl⟩ := ServerState.completeRead_cases stepped
  refine ok.advance rfl (List.append_nil _).symm rfl rfl rfl (by simp) ?_ ?_ ?_ ?_
  · simp [phase, Phase.Served]
  · simp [phase, Phase.Listed]
  · simp [Session.events, phase]
  · simp [Session.Consistent, overwrite]

theorem handleDatagramReceived_ok (ok : ServerOk s) (stepped : s.handleDatagramReceived sid = some s') :
    ServerOk s' := by
  obtain ⟨bytes, phase, outcome⟩ := ServerState.handleDatagramReceived_cases stepped
  rcases outcome with ⟨-, rfl⟩ | ⟨-, rfl | rfl⟩
  · refine ok.advance rfl (List.append_nil _).symm rfl rfl rfl (by simp) ?_ ?_ ?_ trivial
    · simp [phase, Phase.Served]
    · simp [phase, Phase.Listed]
    · simp [Session.events, phase]
  · refine ok.advance rfl (List.append_nil _).symm rfl rfl rfl (by simp) ?_ ?_ ?_ trivial
    · simp [phase, Phase.Served]
    · simp [phase, Phase.Listed]
    · simp [Session.events, phase]
  · have copied : (s.sessions sid).buffer.take bytes.length = bytes := by
      simpa [Session.Consistent, phase] using (ok sid).consistent
    refine ok.advance rfl (List.append_nil _).symm rfl rfl rfl (by simp) ?_ ?_ ?_ ?_
    · simp [phase, Phase.Served]
    · simp [phase, Phase.Listed]
    · simp [Session.events, phase]
    · exact ⟨_, by rw [copied]⟩

theorem queueData_ok (ok : ServerOk s) (stepped : s.queueData sid = some s') : ServerOk s' := by
  obtain ⟨data, phase, rfl⟩ := ServerState.queueData_cases stepped
  obtain ⟨front, reads⟩ : ∃ front, (s.sessions sid).reads = front ++ [data] := by
    simpa [Session.Consistent, phase] using (ok sid).consistent
  refine ok.advance rfl (List.append_assoc _ _ _).symm rfl rfl rfl (by simp [EventData.received]) ?_ ?_ ?_
    trivial
  · simp [phase, Phase.Served]
  · simp [phase, Phase.Listed]
  · simp [Session.events, phase, reads]

theorem nextRead_ok (ok : ServerOk s) (stepped : s.nextRead sid = some s') : ServerOk s' := by
  obtain ⟨phase, outcome⟩ := ServerState.nextRead_cases stepped
  rcases outcome with ⟨-, rfl⟩ | ⟨-, rfl⟩
  · refine ok.advance rfl (List.append_nil _).symm rfl rfl rfl (by simp) ?_ ?_ ?_ trivial
    · simp [phase, Phase.Served]
    · simp [phase, Phase.Listed]
    · simp [Session.events, phase]
  · refine ok.advance rfl (List.append_nil _).symm rfl rfl rfl (by simp) ?_ ?_ ?_ trivial
    · simp [phase, Phase.Served]
    · simp [phase, Phase.Listed]
    · simp [Session.events, phase]

theorem queueDisconnect_ok (ok : ServerOk s) (stepped : s.queueDisconnect sid = some s') : ServerOk s' := by
  obtain ⟨phase, rfl⟩ := ServerState.queueDisconnect_cases stepped
  refine ok.advance rfl (List.append_assoc _ _ _).symm rfl rfl rfl (by simp [EventData.disconnect]) ?_ ?_ ?_
    trivial
  · simp [phase, Phase.Served]
  · simp [phase, Phase.Listed]
  · simp [Session.events, phase]

theorem removeClient_ok (ok : ServerOk s) (stepped : s.removeClient sid = some s') : ServerOk s' := by
  obtain ⟨phase, rfl⟩ := ServerState.removeClient_cases stepped
  have away : s.accept ≠ .serving sid := ok.not_serving (by simp [phase, Phase.Served])
  refine ok.change rfl (List.append_nil _).symm (by simp) ?_ (fun _ _ => Iff.rfl) le_rfl
    (ok.le_lastSid (by simp [phase])) ?_ (iff_of_false (Finset.notMem_erase _ _) id) (iff_of_false away id)
    trivial
  · intro other ne
    exact Finset.mem_erase.trans (and_iff_right ne)
  · simp [Session.events, phase]

theorem closeConnection_ok (ok : ServerOk s) (known : sid ≤ s.lastSid) : ServerOk (s.closeConnection sid) := by
  refine ok.change rfl (List.append_nil _).symm (by simp) (fun _ _ => Iff.rfl) (fun _ _ => Iff.rfl) le_rfl
    known ?_ (ok sid).listed (ok sid).served (ok sid).consistent
  simp [Session.events]

theorem tickTurn_ok (ok : ServerOk s) (stepped : s.tickTurn = some s') : ServerOk s' := by
  obtain ⟨event, rest, queue, same, -⟩ := ServerState.tickTurn_cases stepped
  rw [same]
  refine ok.keep rfl ?_ rfl (fun _ => Iff.rfl) rfl
  rw [queue]
  exact List.append_assoc _ _ _

theorem serverStep_ok (ok : ServerOk s) {action : Action} (stepped : serverStep action s = some s') :
    ServerOk s' := by
  cases action with
  | acceptTcpClient receiveBufferSize => exact acceptTcpClient_ok ok stepped
  | acceptFails =>
    obtain ⟨pending, rfl⟩ := ServerState.acceptFails_cases stepped
    refine ok.keep rfl rfl rfl ?_ rfl
    simp [pending]
  | enterClient => exact enterClient_ok ok stepped
  | queueConnect => exact queueConnect_ok ok stepped
  | firstRead => exact firstRead_ok ok stepped
  | nextAccept => exact nextAccept_ok ok stepped
  | completeRead sid bytes => exact completeRead_ok ok stepped
  | handleDatagramReceived sid => exact handleDatagramReceived_ok ok stepped
  | queueData sid => exact queueData_ok ok stepped
  | nextRead sid => exact nextRead_ok ok stepped
  | queueDisconnect sid => exact queueDisconnect_ok ok stepped
  | removeClient sid => exact removeClient_ok ok stepped
  | reset sid =>
    obtain ⟨-, accepted, rfl⟩ := ServerState.reset_cases stepped
    exact closeConnection_ok ok accepted
  | stop =>
    rw [ServerState.stop_cases stepped]
    exact ok.keep rfl rfl rfl (fun _ => Iff.rfl) rfl
  | send sid data =>
    rcases ServerState.send_cases stepped with rfl | rfl
    · exact ok.keep rfl rfl rfl (fun _ => Iff.rfl) rfl
    · exact ok
  | disconnect sid =>
    rcases ServerState.disconnect_cases stepped with ⟨present, rfl⟩ | rfl
    · apply closeConnection_ok ok
      apply ok.le_lastSid
      intro fresh
      have listed := (ok sid).listed.mp present
      rw [fresh] at listed
      exact listed
    · exact ok
  | tickBegin =>
    rw [ServerState.tickBegin_cases stepped]
    exact ok.keep rfl rfl rfl (fun _ => Iff.rfl) rfl
  | tickTurn => exact tickTurn_ok ok stepped
  | tickEnd =>
    rw [ServerState.tickEnd_cases stepped]
    exact ok.keep rfl rfl rfl (fun _ => Iff.rfl) rfl

theorem serverOk_of_reachable (reachable : Reachable serverStep .initial s) : ServerOk s :=
  reachable.invariant serverOk_initial fun _ _ _ ok stepped => serverStep_ok ok stepped

end

/-! ## What is delivered -/

/-- All that a session can raise: Connect, what was read, Disconnect. -/
def Session.script (session : Session) (sid : Nat) : List EventData :=
  .connect sid :: session.reads.map (.received sid) ++ [.disconnect sid]

theorem Session.events_isPrefix (session : Session) (sid : Nat) : session.events sid <+: session.script sid := by
  have upToReads : .connect sid :: session.reads.map (.received sid) <+: session.script sid :=
    List.prefix_append _ _
  unfold Session.events
  split
  · exact List.nil_prefix
  · exact List.nil_prefix
  · exact List.nil_prefix
  · apply List.IsPrefix.trans _ upToReads
    rw [List.cons_prefix_cons]
    exact ⟨rfl, (List.dropLast_prefix _).map _⟩
  · exact List.prefix_refl _
  · exact List.prefix_refl _
  · exact upToReads

section
variable {session : Session} {sid : Nat} {front : List EventData}

-- Nothing of a session is delivered before its Connect.
theorem connect_once (raised : front ++ [.connect sid] <+: session.script sid) : front = [] := by
  cases front with
  | nil => rfl
  | cons first front =>
    have later := (List.cons_prefix_cons.mp raised).2.subset (List.mem_append_right front List.mem_cons_self)
    simp [EventData.connect, EventData.received, EventData.disconnect] at later

end

/-- The list that Server keeps agrees with what it was told. -/
structure Told (s : ServerState) : Prop where
  nodup : s.serverClients.Nodup
  mem : ∀ sid, sid ∈ s.serverClients ↔ .connect sid ∈ s.calls ∧ .disconnect sid ∉ s.calls

section
variable {s s' : ServerState}

-- An event is one that its session raised, after those delivered before.
theorem ServerOk.raised (ok : ServerOk s) {event : EventData} {rest : List EventData}
    (queue : s.dataQueue = event :: rest) :
    (s.calls.filter fun e => e.sid = event.sid) ++ [event] <+: (s.sessions event.sid).script event.sid := by
  apply List.IsPrefix.trans _ ((s.sessions event.sid).events_isPrefix event.sid)
  rw [← (ok event.sid).events, ServerState.eventsOf, queue, List.filter_append, List.filter_cons,
    if_pos (by simp)]
  exact ⟨rest.filter fun e => e.sid = event.sid, by simp⟩

theorem ServerOk.form (ok : ServerOk s) {event : EventData} {rest : List EventData}
    (queue : s.dataQueue = event :: rest) :
    event = .connect event.sid ∨ event = .disconnect event.sid ∨ event.type = .Data := by
  have member := (ok.raised queue).subset (List.mem_append_right _ List.mem_cons_self)
  unfold Session.script at member
  rcases List.mem_append.mp member with front | last
  · rcases List.mem_cons.mp front with connect | data
    · exact .inl connect
    · obtain ⟨bytes, -, same⟩ := List.mem_map.mp data
      rw [← same]
      exact .inr (.inr rfl)
  · exact .inr (.inl (List.mem_singleton.mp last))

theorem Told.connect (told : Told s) {sid : Nat} (calls : s'.calls = s.calls ++ [.connect sid])
    (clients : s'.serverClients = s.serverClients ++ [sid]) (unknown : sid ∉ s.serverClients)
    (silent : .disconnect sid ∉ s.calls) : Told s' := by
  constructor
  · rw [clients, List.nodup_append]
    refine ⟨told.nodup, List.nodup_singleton _, ?_⟩
    rintro a member b last rfl
    rw [List.mem_singleton.mp last] at member
    exact unknown member
  · intro other
    rw [clients, calls]
    by_cases here : other = sid
    · subst here
      simpa [EventData.connect, EventData.disconnect] using silent
    · simp [here, told.mem, EventData.connect, EventData.disconnect]

theorem Told.disconnect (told : Told s) {sid : Nat} (calls : s'.calls = s.calls ++ [.disconnect sid])
    (clients : s'.serverClients = s.serverClients.erase sid) : Told s' := by
  constructor
  · rw [clients]
    exact told.nodup.erase sid
  · intro other
    rw [clients, calls, told.nodup.mem_erase_iff]
    by_cases here : other = sid
    · subst here
      simp [EventData.connect, EventData.disconnect]
    · simp [here, told.mem, EventData.connect, EventData.disconnect]

theorem Told.data (told : Told s) {event : EventData} (data : event.type = .Data)
    (calls : s'.calls = s.calls ++ [event]) (clients : s'.serverClients = s.serverClients) : Told s' := by
  have others : ∀ sid, event ≠ .connect sid ∧ event ≠ .disconnect sid := by
    intro sid
    constructor
    · rintro rfl
      cases data
    · rintro rfl
      cases data
  constructor
  · rw [clients]
    exact told.nodup
  · intro sid
    rw [clients, calls, told.mem]
    simp [(others sid).1.symm, (others sid).2.symm]

theorem tickTurn_told (ok : ServerOk s) (told : Told s) (stepped : s.tickTurn = some s') : Told s' := by
  obtain ⟨event, rest, queue, same, clients⟩ := ServerState.tickTurn_cases stepped
  have calls : s'.calls = s.calls ++ [event] := by rw [same]
  have own : ∀ e : EventData, e.sid = event.sid →
      (e ∈ s.calls ↔ e ∈ s.calls.filter fun e => e.sid = event.sid) := by
    intro e sid
    simp [List.mem_filter, sid]
  have raised := ok.raised queue
  rcases ok.form queue with connect | disconnect | data
  · rw [connect] at calls clients raised
    have nothing : (s.calls.filter fun e => e.sid = event.sid) = [] := connect_once raised
    apply told.connect calls clients
    · rw [told.mem, own (.connect event.sid) rfl, nothing]
      simp
    · rw [own (.disconnect event.sid) rfl, nothing]
      simp
  · rw [disconnect] at calls clients
    exact told.disconnect calls clients
  · rw [data] at clients
    exact told.data data calls clients

theorem told_of_reachable (reachable : Reachable serverStep .initial s) : Told s := by
  have both : ServerOk s ∧ Told s := by
    apply reachable.invariant ⟨serverOk_initial, List.nodup_nil, by simp [ServerState.initial]⟩
    rintro s action s' ⟨ok, told⟩ stepped
    refine ⟨serverStep_ok ok stepped, ?_⟩
    rcases serverStep_calls stepped with rfl | ⟨calls, clients⟩
    · exact tickTurn_told ok told stepped
    · constructor
      · rw [clients]
        exact told.nodup
      · rw [clients, calls]
        exact told.mem
  exact both.2

/-- For every session: what is delivered and what waits in the queue are the events its
callbacks raised, in order; the handlers were called with the first of Connect, the byte
arrays as they were read, and Disconnect. Server's list holds each client once that is
connected as far as Server was told. -/
theorem handler_calls (reachable : Reachable serverStep .initial s) :
    (∀ sid, (s.calls.filter fun event => event.sid = sid) ++ (s.dataQueue.filter fun event => event.sid = sid) =
        (s.sessions sid).events sid ∧
      (s.calls.filter fun event => event.sid = sid) <+:
        .connect sid :: (s.sessions sid).reads.map (.received sid) ++ [.disconnect sid]) ∧
    s.serverClients.Nodup ∧
      ∀ sid, sid ∈ s.serverClients ↔ .connect sid ∈ s.calls ∧ .disconnect sid ∉ s.calls := by
  have ok := serverOk_of_reachable reachable
  have told := told_of_reachable reachable
  refine ⟨fun sid => ?_, told.nodup, told.mem⟩
  have raised : (s.calls.filter fun event => event.sid = sid) ++
      (s.dataQueue.filter fun event => event.sid = sid) = (s.sessions sid).events sid := by
    rw [← List.filter_append]
    exact (ok sid).events
  refine ⟨raised, List.IsPrefix.trans ?_ ((s.sessions sid).events_isPrefix sid)⟩
  rw [← raised]
  exact List.prefix_append _ _

end

def twoClients : List Action :=
  [.acceptTcpClient 64, .enterClient, .queueConnect, .firstRead, .completeRead 1 [7, 8], .nextAccept,
    .acceptTcpClient 64, .handleDatagramReceived 1, .enterClient, .queueData 1, .tickBegin, .tickTurn, .nextRead 1,
    .tickTurn, .completeRead 1 [], .tickBegin, .tickEnd, .queueConnect, .handleDatagramReceived 1, .queueDisconnect 1,
    .tickBegin, .tickTurn]

theorem handler_calls_twoClients :
    ∃ s, run serverStep twoClients .initial = some s ∧
      s.calls = [.connect 1, .received 1 [7, 8], .connect 2] ∧ s.dataQueue = [.disconnect 1] ∧
      s.serverClients.Nodup ∧ 1 ∈ s.serverClients := by
  have calls : (run serverStep twoClients .initial).map (fun s => (s.calls, s.dataQueue)) =
      some ([.connect 1, .received 1 [7, 8], .connect 2], [.disconnect 1]) := by decide +kernel
  obtain ⟨s, ran, both⟩ := Option.map_eq_some_iff.mp calls
  obtain ⟨called, waiting⟩ := Prod.ext_iff.mp both
  obtain ⟨-, nodup, listed⟩ := handler_calls ⟨twoClients, ran⟩
  refine ⟨s, ran, called, waiting, nodup, (listed 1).mpr ?_⟩
  rw [show s.calls = _ from called]
  decide

end RayTraceRenderer.Net

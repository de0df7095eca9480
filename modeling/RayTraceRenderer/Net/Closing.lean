import RayTraceRenderer.Net.ClientTable

/-! What becomes of a client that the application disconnects.

Disconnect and Close end the connection, and the callback of its pending read throws on GetStream before it
could report the end. Only the peer's own end takes a client off the lists.
-/

set_option autoImplicit false

namespace RayTraceRenderer.Net

open Transition

namespace ServerState

/-- `NetServer.Close` over the table in its order. A client that is not connected any more makes it throw. -/
def close : List Nat → ServerState → Option ServerState
  | [], s => some s
  | sid :: rest, s => if (s.sessions sid).closed then none else close rest (s.closeConnection sid)

end ServerState

section
variable {s s' : ServerState} {sid : Nat}

theorem close_eq_disconnects {order : List Nat} (present : ∀ sid ∈ order, sid ∈ s.clients)
    (returned : ServerState.close order s = some s') : run serverStep (order.map .disconnect) s = some s' := by
  induction order generalizing s with
  | nil => exact returned
  | cons sid rest ih =>
    have first : s.disconnect sid = s.closeConnection sid := if_pos (present sid List.mem_cons_self)
    unfold ServerState.close at returned
    split at returned
    · cases returned
    · rw [List.map_cons, run, serverStep, first, Option.bind_some]
      exact ih (fun other member => present other (List.mem_cons_of_mem _ member)) returned

theorem close_session {order : List Nat} (returned : ServerState.close order s = some s') :
    s'.sessions sid = if sid ∈ order then { s.sessions sid with closed := true } else s.sessions sid := by
  induction order generalizing s with
  | nil =>
    rw [← Option.some.inj returned]
    rfl
  | cons first rest ih =>
    unfold ServerState.close at returned
    split at returned
    · cases returned
    · rw [ih returned]
      by_cases same : sid = first
      · subst same
        simp [ServerState.closeConnection, ServerState.setSession]
      · simp [same, ServerState.closeConnection, ServerState.setSession]

/-- The connection is closed, and no callback has noticed its end. -/
structure Session.Abandoned (session : Session) : Prop where
  closed : session.closed = true
  listed : session.phase.Listed
  unnoticed : ¬ session.phase.Disconnecting

theorem abandoned_of_update {other : Nat} {session : Session} (abandoned : (s.sessions sid).Abandoned)
    (own : other = sid → session.Abandoned) : (Function.update s.sessions other session sid).Abandoned := by
  by_cases same : sid = other
  · subst same
    rw [Function.update_self]
    exact own rfl
  · rw [Function.update_of_ne same]
    exact abandoned

-- A callback that goes on leaves the connection as it is.
theorem Session.Abandoned.setPhase (abandoned : (s.sessions sid).Abandoned) {other : Nat} {phase : Phase}
    (listed : phase.Listed) (unnoticed : ¬ phase.Disconnecting) : ((s.setPhase other phase).sessions sid).Abandoned :=
  abandoned_of_update abandoned fun same => ⟨same ▸ abandoned.closed, listed, unnoticed⟩

theorem Session.Abandoned.other_of_noticed (abandoned : (s.sessions sid).Abandoned) {other : Nat}
    (noticed : (s.sessions other).phase.Disconnecting) : other ≠ sid := by
  rintro rfl
  exact abandoned.unnoticed noticed

theorem acceptTcpClient_abandoned (ok : ServerOk s) (abandoned : (s.sessions sid).Abandoned) {receiveBufferSize : Nat}
    (stepped : s.acceptTcpClient receiveBufferSize = some s') : (s'.sessions sid).Abandoned := by
  obtain ⟨-, rfl | ⟨-, rfl⟩⟩ := ServerState.acceptTcpClient_cases stepped
  · refine abandoned_of_update abandoned fun same => ?_
    have new := (ok s.getNewSid).known (Nat.lt_succ_self _)
    have listed := abandoned.listed
    rw [← same, new] at listed
    exact listed.elim
  · exact abandoned

theorem firstRead_abandoned (abandoned : (s.sessions sid).Abandoned) (stepped : s.firstRead = some s') :
    (s'.sessions sid).Abandoned := by
  obtain ⟨other, -, -, ⟨-, rfl⟩ | ⟨-, rfl⟩⟩ := ServerState.firstRead_cases stepped
  · exact abandoned.setPhase trivial id
  · exact abandoned.setPhase trivial id

theorem handleDatagramReceived_abandoned (abandoned : (s.sessions sid).Abandoned) {other : Nat}
    (stepped : s.handleDatagramReceived other = some s') : (s'.sessions sid).Abandoned := by
  obtain ⟨bytes, -, ⟨-, rfl⟩ | ⟨opened, rfl | rfl⟩⟩ := ServerState.handleDatagramReceived_cases stepped
  · exact abandoned.setPhase trivial id
  · -- GetStream threw, so that the end of the stream is not seen
    refine abandoned_of_update abandoned fun same => ?_
    rw [same, abandoned.closed] at opened
    cases opened
  · exact abandoned_of_update abandoned fun same => ⟨same ▸ abandoned.closed, trivial, id⟩

theorem nextRead_abandoned (abandoned : (s.sessions sid).Abandoned) {other : Nat}
    (stepped : s.nextRead other = some s') : (s'.sessions sid).Abandoned := by
  obtain ⟨-, ⟨-, rfl⟩ | ⟨-, rfl⟩⟩ := ServerState.nextRead_cases stepped
  · exact abandoned.setPhase trivial id
  · exact abandoned.setPhase trivial id

theorem closeConnection_abandoned (abandoned : (s.sessions sid).Abandoned) (other : Nat) :
    ((s.closeConnection other).sessions sid).Abandoned :=
  abandoned_of_update abandoned fun same => ⟨rfl, same ▸ abandoned.listed, same ▸ abandoned.unnoticed⟩

-- No application opens a connection again.
theorem application_abandoned (abandoned : (s.sessions sid).Abandoned) {action : Action}
    (stepped : serverStep action s = some s') (application : action.IsApplication) : (s'.sessions sid).Abandoned := by
  cases action with
  | reset other =>
    obtain ⟨-, -, rfl⟩ := ServerState.reset_cases stepped
    exact closeConnection_abandoned abandoned other
  | disconnect other =>
    rcases ServerState.disconnect_cases stepped with ⟨-, rfl⟩ | rfl
    · exact closeConnection_abandoned abandoned other
    · exact abandoned
  | stop =>
    rw [ServerState.stop_cases stepped]
    exact abandoned
  | send other data =>
    rcases ServerState.send_cases stepped with rfl | rfl
    · exact abandoned
    · exact abandoned
  | tickBegin =>
    rw [ServerState.tickBegin_cases stepped]
    exact abandoned
  | tickTurn =>
    obtain ⟨event, rest, -, same, -⟩ := ServerState.tickTurn_cases stepped
    rw [same]
    exact abandoned
  | tickEnd =>
    rw [ServerState.tickEnd_cases stepped]
    exact abandoned
  | _ => exact application.elim

theorem abandoned_step (ok : ServerOk s) (abandoned : (s.sessions sid).Abandoned) {action : Action}
    (stepped : serverStep action s = some s') : (s'.sessions sid).Abandoned := by
  cases action with
  | acceptTcpClient receiveBufferSize => exact acceptTcpClient_abandoned ok abandoned stepped
  | acceptFails =>
    obtain ⟨-, rfl⟩ := ServerState.acceptFails_cases stepped
    exact abandoned
  | enterClient =>
    obtain ⟨other, -, -, rfl⟩ := ServerState.enterClient_cases stepped
    exact abandoned.setPhase trivial id
  | queueConnect =>
    obtain ⟨other, -, -, rfl⟩ := ServerState.queueConnect_cases stepped
    exact abandoned.setPhase trivial id
  | firstRead => exact firstRead_abandoned abandoned stepped
  | nextAccept =>
    obtain ⟨-, rfl⟩ := ServerState.nextAccept_cases stepped
    exact abandoned
  | completeRead other bytes =>
    obtain ⟨-, -, rfl⟩ := ServerState.completeRead_cases stepped
    exact abandoned_of_update abandoned fun same => ⟨same ▸ abandoned.closed, trivial, id⟩
  | handleDatagramReceived other => exact handleDatagramReceived_abandoned abandoned stepped
  | queueData other =>
    obtain ⟨data, -, rfl⟩ := ServerState.queueData_cases stepped
    exact abandoned.setPhase trivial id
  | nextRead other => exact nextRead_abandoned abandoned stepped
  | queueDisconnect other =>
    obtain ⟨phase, rfl⟩ := ServerState.queueDisconnect_cases stepped
    exact abandoned_of_update abandoned fun same => (abandoned.other_of_noticed (phase ▸ trivial) same).elim
  | removeClient other =>
    obtain ⟨phase, rfl⟩ := ServerState.removeClient_cases stepped
    exact abandoned_of_update abandoned fun same => (abandoned.other_of_noticed (phase ▸ trivial) same).elim
  | reset | disconnect | stop | send | tickBegin | tickTurn | tickEnd =>
    exact application_abandoned abandoned stepped trivial

theorem disconnect_reachable (reachable : Reachable serverStep .initial s) (sid : Nat) :
    Reachable serverStep .initial (s.disconnect sid) :=
  reachable.run (rfl : run serverStep [.disconnect sid] s = some (s.disconnect sid))

theorem abandoned_stays (reachable : Reachable serverStep .initial s) (abandoned : (s.sessions sid).Abandoned)
    {actions : List Action} (ran : run serverStep actions s = some s') :
    sid ∈ s'.clients ∧ .disconnect sid ∉ s'.calls ++ s'.dataQueue ∧
      (.connect sid ∈ s'.calls → sid ∈ s'.serverClients) := by
  have start : ServerOk s ∧ (s.sessions sid).Abandoned := ⟨serverOk_of_reachable reachable, abandoned⟩
  have keeps : ∀ s action s', (ServerOk s ∧ (s.sessions sid).Abandoned) → serverStep action s = some s' →
      ServerOk s' ∧ (s'.sessions sid).Abandoned := by
    rintro s action s' ⟨ok, abandoned⟩ stepped
    exact ⟨serverStep_ok ok stepped, abandoned_step ok abandoned stepped⟩
  obtain ⟨ok, later⟩ := run_invariant keeps start ran
  have silent : .disconnect sid ∉ s'.calls ++ s'.dataQueue := by
    intro told
    have raised : (s'.sessions sid).phase = .reported ∨ (s'.sessions sid).phase = .removed :=
      disconnect_mem_events (ok.mem_events told)
    apply later.unnoticed
    rcases raised with reported | removed
    · rw [reported]
      trivial
    · rw [removed]
      trivial
  refine ⟨(ok sid).listed.mpr later.listed, silent, fun told => ?_⟩
  rw [(told_of_reachable (reachable.run ran)).mem]
  exact ⟨told, fun delivered => silent (List.mem_append_left _ delivered)⟩

/-- A client that the application disconnects, or that was there when it closed the server, stays: whatever
happens afterwards, the client is in the table, its Disconnect is never raised, and Server never takes it off
its list. Only where a callback had noticed the end before does the client leave. -/
theorem closed_stays (reachable : Reachable serverStep .initial s) (present : sid ∈ s.clients)
    (unnoticed : ¬ (s.sessions sid).phase.Disconnecting) {after : ServerState}
    (closed : after = s.disconnect sid ∨
      ∃ order, sid ∈ order ∧ (∀ other ∈ order, other ∈ s.clients) ∧ ServerState.close order s = some after)
    {actions : List Action} (ran : run serverStep actions after = some s') :
    sid ∈ s'.clients ∧ .disconnect sid ∉ s'.calls ++ s'.dataQueue ∧
      (.connect sid ∈ s'.calls → sid ∈ s'.serverClients) := by
  have listed := (serverOk_of_reachable reachable sid).listed.mp present
  rcases closed with rfl | ⟨order, member, table, returned⟩
  · have own : (s.disconnect sid).sessions sid = { s.sessions sid with closed := true } := by
      rw [show s.disconnect sid = s.closeConnection sid from if_pos present]
      exact Function.update_self sid _ s.sessions
    refine abandoned_stays (disconnect_reachable reachable sid) ?_ ran
    rw [own]
    exact ⟨rfl, listed, unnoticed⟩
  · have own : after.sessions sid = { s.sessions sid with closed := true } := (close_session returned).trans (if_pos member)
    refine abandoned_stays (reachable.run (close_eq_disconnects table returned)) ?_ ran
    rw [own]
    exact ⟨rfl, listed, unnoticed⟩

end

def oneClient : List Action :=
  [.acceptTcpClient 64, .enterClient, .queueConnect, .firstRead, .nextAccept, .tickBegin, .tickTurn, .tickEnd]

/-- Its pending read ends without a byte, and that is the last that is heard of it. -/
theorem closed_stays_one :
    ∃ s after s', run serverStep oneClient .initial = some s ∧ ServerState.close [1] s = some after ∧
      run serverStep [.completeRead 1 [], .handleDatagramReceived 1, .tickBegin, .tickEnd] after = some s' ∧
      1 ∈ s'.clients ∧ .disconnect 1 ∉ s'.calls ++ s'.dataQueue ∧ 1 ∈ s'.serverClients := by
  have facts : (run serverStep oneClient .initial).map
      (fun s => (s.clients, (s.sessions 1).phase, ((ServerState.close [1] s).map fun after => (run serverStep
        [.completeRead 1 [], .handleDatagramReceived 1, .tickBegin, .tickEnd] after).map fun s' => s'.calls))) =
      some ({1}, .reading, some (some [.connect 1])) := by decide +kernel
  obtain ⟨s, ran, all⟩ := Option.map_eq_some_iff.mp facts
  simp only [Prod.mk.injEq] at all
  obtain ⟨clients, phase, later⟩ := all
  obtain ⟨after, returned, later⟩ := Option.map_eq_some_iff.mp later
  obtain ⟨s', ran', calls⟩ := Option.map_eq_some_iff.mp later
  have unnoticed : ¬ (s.sessions 1).phase.Disconnecting := by
    rw [phase]
    exact id
  obtain ⟨present, silent, told⟩ := closed_stays ⟨oneClient, ran⟩ (by simp [clients]) unnoticed
    (.inr ⟨[1], by simp, by simp [clients], returned⟩) ran'
  exact ⟨s, after, s', ran, returned, ran', present, silent, told (by simp [calls])⟩

end RayTraceRenderer.Net

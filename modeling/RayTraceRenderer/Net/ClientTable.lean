import RayTraceRenderer.Net.Events

/-! The table of clients and what the application was told.

MT_OnClientConnected fills the table before it queues its event, so that a client the
application knows is in the table. MT_OnClientDisconnected queues its event first: Tick
can deliver it while the client is still there.
-/

set_option autoImplicit false

namespace RayTraceRenderer.Net

open Transition

/-- OnClientDisconnected was called for the connection. -/
def Phase.Disconnecting : Phase → Prop
  | .ended | .reported | .removed => True
  | _ => False

structure TableAgrees (s : ServerState) : Prop where
  present : ∀ sid, .connect sid ∈ s.calls → ¬ (s.sessions sid).phase.Disconnecting → sid ∈ s.clients
  absent : ∀ sid, .disconnect sid ∈ s.calls →
    sid ∉ s.clients ∧ (∀ data, s.send sid data = s) ∧ s.disconnect sid = s

/-- Tick does not deliver a Disconnect between the two halves of the callback that queued it. -/
def NotBetween (s : ServerState) (action : Action) : Prop :=
  action = .tickTurn → ∀ sid rest, s.dataQueue = .disconnect sid :: rest → (s.sessions sid).phase ≠ .reported

section
variable {session : Session} {sid : Nat}

theorem disconnect_notMem_reads (reads : List (List UInt8)) :
    .disconnect sid ∉ EventData.connect sid :: reads.map (EventData.received sid) := by
  simp [EventData.disconnect, EventData.connect, EventData.received]

theorem disconnect_mem_events (member : .disconnect sid ∈ session.events sid) :
    session.phase = .reported ∨ session.phase = .removed := by
  unfold Session.events at member
  split at member
  case h_4 => exact absurd member (disconnect_notMem_reads _)
  case h_5 phase => exact .inl phase
  case h_6 phase => exact .inr phase
  case h_7 => exact absurd member (disconnect_notMem_reads _)
  all_goals cases member

theorem listed_of_connect (member : .connect sid ∈ session.events sid)
    (connected : ¬ session.phase.Disconnecting) : session.phase.Listed := by
  cases phase : session.phase with
  | fresh | accepted | entered => simp [Session.events, phase] at member
  | removed =>
    rw [phase] at connected
    exact connected trivial
  | connected | reading | arrived _ | received _ | queued | ended | reported | dead => trivial

end

section
variable {s s' : ServerState} {sid : Nat}

theorem ServerOk.mem_events (ok : ServerOk s) {event : EventData}
    (told : event ∈ s.calls ++ s.dataQueue) : event ∈ (s.sessions event.sid).events event.sid := by
  rw [← (ok event.sid).events]
  exact List.mem_filter.mpr ⟨told, by simp⟩

-- After a session's last callback nothing moves it.
theorem removed_stays (ok : ServerOk s) {action : Action} (stepped : serverStep action s = some s')
    (removed : (s.sessions sid).phase = .removed) : (s'.sessions sid).phase = .removed := by
  by_cases application : action.IsApplication
  · exact ((application_cases stepped application).2.2.2 sid).trans removed
  · have known : sid ≤ s.lastSid := ok.le_lastSid (by simp [removed])
    exact (callback_frame stepped application).2.2.2.2 sid known removed

/-- Whose Disconnect was delivered, its callback is over. -/
def DeliveredLast (s : ServerState) : Prop :=
  ∀ sid, .disconnect sid ∈ s.calls → (s.sessions sid).phase = .removed

theorem deliveredLast_step (ok : ServerOk s) (before : DeliveredLast s) {action : Action}
    (admitted : NotBetween s action) (stepped : serverStep action s = some s') : DeliveredLast s' := by
  intro sid delivered
  rcases serverStep_calls stepped with rfl | ⟨calls, -⟩
  · obtain ⟨event, rest, queue, same, -⟩ := ServerState.tickTurn_cases stepped
    have calls : s'.calls = s.calls ++ [event] := by rw [same]
    have sessions : s'.sessions = s.sessions := by rw [same]
    rw [sessions]
    rw [calls] at delivered
    rcases List.mem_append.mp delivered with earlier | now
    · exact before sid earlier
    · have head : s.dataQueue = .disconnect sid :: rest := by rw [queue, ← List.mem_singleton.mp now]
      have raised := ok.mem_events (List.mem_append_right s.calls (head ▸ List.mem_cons_self))
      rcases disconnect_mem_events raised with reported | removed
      · exact absurd reported (admitted rfl sid rest head)
      · exact removed
  · rw [calls] at delivered
    exact removed_stays ok stepped (before sid delivered)

theorem tableAgrees_of_deliveredLast (ok : ServerOk s) (last : DeliveredLast s) : TableAgrees s := by
  constructor
  · intro sid told connected
    apply (ok sid).listed.mpr
    exact listed_of_connect (ok.mem_events (List.mem_append_left _ told)) connected
  · intro sid told
    have gone : sid ∉ s.clients := by
      rw [(ok sid).listed, last sid told]
      exact id
    refine ⟨gone, fun data => ?_, ?_⟩
    · exact if_neg fun possible => gone possible.1
    · exact if_neg gone

-- Delivered between the two halves, the client is still in the table.
theorem notBetween_of_agrees (ok : ServerOk s) {action : Action} (stepped : serverStep action s = some s')
    (agrees : TableAgrees s') : NotBetween s action := by
  rintro rfl sid rest queue reported
  obtain ⟨event, rest', queue', same, -⟩ := ServerState.tickTurn_cases stepped
  have event_eq : event = .disconnect sid := (List.cons.inj (queue'.symm.trans queue)).1
  have calls : s'.calls = s.calls ++ [event] := by rw [same]
  have clients : s'.clients = s.clients := by rw [same]
  have present : sid ∈ s'.clients := by
    rw [clients, (ok sid).listed, reported]
    trivial
  apply (agrees.absent sid _).1 present
  rw [calls, event_eq]
  exact List.mem_append_right _ List.mem_cons_self

end

/-- The table agrees with the deliveries throughout a run exactly where Tick delivers no
Disconnect between the two halves of its callback. -/
theorem tableAgrees_iff (actions : List Action) :
    Always serverStep TableAgrees actions .initial ↔ Within serverStep NotBetween actions .initial := by
  have start : DeliveredLast .initial := by
    intro sid delivered
    cases delivered
  refine always_iff_within (fun s action s' ok stepped => serverStep_ok ok stepped) ?_ ?_ ?_ serverOk_initial start
  · intro s action s' ok before admitted stepped
    exact deliveredLast_step ok before admitted stepped
  · intro s ok last
    exact tableAgrees_of_deliveredLast ok last
  · intro s action s' ok _ stepped agrees
    exact notBetween_of_agrees ok stepped agrees

def earlyTick : List Action :=
  [.acceptTcpClient 64, .enterClient, .queueConnect, .firstRead, .completeRead 1 [], .handleDatagramReceived 1,
    .queueDisconnect 1, .tickBegin, .tickTurn, .tickTurn]

theorem earlyTick_disagrees :
    ∃ s, run serverStep earlyTick .initial = some s ∧ .disconnect 1 ∈ s.calls ∧ 1 ∈ s.clients ∧
      (s.send 1 [0]).writes = [(1, [0])] ∧ ¬ TableAgrees s := by
  have facts : (run serverStep earlyTick .initial).map
      (fun s => (s.calls, s.clients, (s.send 1 [0]).writes)) =
      some ([.connect 1, .disconnect 1], {1}, [(1, [0])]) := by decide +kernel
  obtain ⟨s, ran, all⟩ := Option.map_eq_some_iff.mp facts
  simp only [Prod.mk.injEq] at all
  obtain ⟨calls, clients, writes⟩ := all
  have told : EventData.disconnect 1 ∈ s.calls := by simp [calls]
  have present : 1 ∈ s.clients := by simp [clients]
  exact ⟨s, ran, told, present, writes, fun agrees => (agrees.absent 1 told).1 present⟩

end RayTraceRenderer.Net

import RayTraceRenderer.Net.Events
import Mathlib.Algebra.BigOperators.Group.Finset.Basic

/-! Where the callbacks lead when nothing comes in from outside.

Every callback, and every turn of Tick, uses up something that a connection or the network brought:
they end, and where none of them can go on nothing is held and both lists of clients agree.
-/

set_option autoImplicit false

namespace RayTraceRenderer.Net

open Transition

/-- The callbacks and the loop of Tick, once the network or the application has set them off. -/
def Action.IsInternal : Action → Prop
  | .enterClient | .queueConnect | .firstRead | .nextAccept | .handleDatagramReceived _ | .queueData _ | .nextRead _
  | .queueDisconnect _ | .removeClient _ | .tickTurn | .tickEnd => True
  | _ => False

/-! ## They end -/

/-- The internal steps a connection can still take, an event that it queues counted twice. -/
def Phase.effort : Phase → Nat
  | .accepted => 3
  | .entered => 2
  | .arrived _ => 4
  | .received _ => 3
  | .queued => 1
  | .ended => 3
  | .reported => 1
  | _ => 0

def AcceptPhase.effort : AcceptPhase → Nat
  | .serving _ => 2
  | .rearming => 1
  | _ => 0

namespace ServerState

def effort (s : ServerState) : Nat :=
  ∑ sid ∈ Finset.range (s.lastSid + 1), (s.sessions sid).phase.effort +
    (s.accept.effort + s.dataQueue.length + s.ticking.toNat)

end ServerState

section
variable {s s' : ServerState} {sid : Nat}

-- A step that moves one connection lowers the sum by what that connection spends.
theorem effort_lt_of_session {session : Session} {accept : AcceptPhase} {queue : List EventData} (known : sid ≤ s.lastSid)
    (sessions : s'.sessions = Function.update s.sessions sid session) (lastSid : s'.lastSid = s.lastSid)
    (accepts : s'.accept = accept) (queues : s'.dataQueue = queue) (ticks : s'.ticking = s.ticking)
    (spent : session.phase.effort + accept.effort + queue.length <
      (s.sessions sid).phase.effort + s.accept.effort + s.dataQueue.length) : s'.effort < s.effort := by
  have member : sid ∈ Finset.range (s.lastSid + 1) := Finset.mem_range_succ_iff.mpr known
  have others : ∑ other ∈ (Finset.range (s.lastSid + 1)).erase sid, (s'.sessions other).phase.effort =
      ∑ other ∈ (Finset.range (s.lastSid + 1)).erase sid, (s.sessions other).phase.effort := by
    apply Finset.sum_congr rfl
    intro other moved
    rw [sessions, Function.update_of_ne (Finset.ne_of_mem_erase moved)]
  have here : (s'.sessions sid).phase = session.phase := by rw [sessions, Function.update_self]
  unfold ServerState.effort
  rw [lastSid, accepts, queues, ticks, ← Finset.add_sum_erase _ _ member, ← Finset.add_sum_erase _ _ member, others, here]
  omega

-- Most callbacks leave the rest alone, or queue one event.
theorem effort_lt_of_own {session : Session} (known : sid ≤ s.lastSid)
    (spent : session.phase.effort < (s.sessions sid).phase.effort) (clients : Finset Nat) :
    ({ s.setSession sid session with clients } : ServerState).effort < s.effort := by
  refine effort_lt_of_session known rfl rfl (rfl : _ = s.accept) (rfl : _ = s.dataQueue) rfl ?_
  omega

theorem effort_lt_of_raised {session : Session} (event : EventData) (known : sid ≤ s.lastSid)
    (spent : session.phase.effort + 1 < (s.sessions sid).phase.effort) :
    ({ s.setSession sid session with dataQueue := s.dataQueue ++ [event] } : ServerState).effort < s.effort := by
  refine effort_lt_of_session known rfl rfl (rfl : _ = s.accept) (rfl : _ = s.dataQueue ++ [event]) rfl ?_
  rw [List.length_append, List.length_singleton]
  omega

theorem effort_lt_of_shared (sessions : s'.sessions = s.sessions) (lastSid : s'.lastSid = s.lastSid)
    (spent : s'.accept.effort + s'.dataQueue.length + s'.ticking.toNat <
      s.accept.effort + s.dataQueue.length + s.ticking.toNat) : s'.effort < s.effort := by
  unfold ServerState.effort
  rw [sessions, lastSid]
  omega

theorem ticking_of_turn (stepped : s.tickTurn = some s') : s.ticking = true := by
  unfold ServerState.tickTurn at stepped
  by_contra idle
  rw [if_neg idle] at stepped
  cases stepped

theorem ticking_of_end (stepped : s.tickEnd = some s') : s.ticking = true := by
  unfold ServerState.tickEnd at stepped
  by_contra idle
  rw [if_neg fun both => idle both.1] at stepped
  cases stepped

theorem internal_lowers (ok : ServerOk s) {action : Action} (internal : action.IsInternal)
    (stepped : serverStep action s = some s') : s'.effort < s.effort := by
  have known : ∀ {sid}, (s.sessions sid).phase ≠ .fresh → sid ≤ s.lastSid := fun begun => ok.le_lastSid begun
  cases action with
  | enterClient =>
    obtain ⟨sid, -, phase, rfl⟩ := ServerState.enterClient_cases stepped
    exact effort_lt_of_own (known (by simp [phase])) (by simp [phase, Phase.effort]) _
  | queueConnect =>
    obtain ⟨sid, -, phase, rfl⟩ := ServerState.queueConnect_cases stepped
    exact effort_lt_of_raised _ (known (by simp [phase])) (by simp [phase, Phase.effort])
  | firstRead =>
    obtain ⟨sid, serving, phase, outcome⟩ := ServerState.firstRead_cases stepped
    rcases outcome with ⟨-, rfl⟩ | ⟨-, rfl⟩
    · exact effort_lt_of_session (known (by simp [phase])) rfl rfl (rfl : _ = AcceptPhase.ended) (rfl : _ = s.dataQueue) rfl
        (by simp [phase, serving, Phase.effort, AcceptPhase.effort])
    · exact effort_lt_of_session (known (by simp [phase])) rfl rfl (rfl : _ = AcceptPhase.rearming) (rfl : _ = s.dataQueue) rfl
        (by simp [phase, serving, Phase.effort, AcceptPhase.effort])
  | nextAccept =>
    obtain ⟨rearming, rfl⟩ := ServerState.nextAccept_cases stepped
    have idle : (if s.isRunning then AcceptPhase.pending else .ended).effort = 0 := by
      cases s.isRunning with
      | true => rfl
      | false => rfl
    have one : s.accept.effort = 1 := by rw [rearming]; rfl
    refine effort_lt_of_shared rfl rfl ?_
    simp only [idle, one]
    omega
  | handleDatagramReceived sid =>
    obtain ⟨bytes, phase, outcome⟩ := ServerState.handleDatagramReceived_cases stepped
    rcases outcome with ⟨-, rfl⟩ | ⟨-, rfl | rfl⟩
    · exact effort_lt_of_own (known (by simp [phase])) (by simp [phase, Phase.effort]) _
    · exact effort_lt_of_own (known (by simp [phase])) (by simp [phase, Phase.effort]) _
    · exact effort_lt_of_own (known (by simp [phase])) (by simp [phase, Phase.effort]) _
  | queueData sid =>
    obtain ⟨data, phase, rfl⟩ := ServerState.queueData_cases stepped
    exact effort_lt_of_raised _ (known (by simp [phase])) (by simp [phase, Phase.effort])
  | nextRead sid =>
    obtain ⟨phase, outcome⟩ := ServerState.nextRead_cases stepped
    rcases outcome with ⟨-, rfl⟩ | ⟨-, rfl⟩
    · exact effort_lt_of_own (known (by simp [phase])) (by simp [phase, Phase.effort]) _
    · exact effort_lt_of_own (known (by simp [phase])) (by simp [phase, Phase.effort]) _
  | queueDisconnect sid =>
    obtain ⟨phase, rfl⟩ := ServerState.queueDisconnect_cases stepped
    exact effort_lt_of_raised _ (known (by simp [phase])) (by simp [phase, Phase.effort])
  | removeClient sid =>
    obtain ⟨phase, rfl⟩ := ServerState.removeClient_cases stepped
    exact effort_lt_of_own (known (by simp [phase])) (by simp [phase, Phase.effort]) _
  | tickTurn =>
    have ticking := ticking_of_turn stepped
    obtain ⟨event, rest, queue, same, -⟩ := ServerState.tickTurn_cases stepped
    have shorter : s'.dataQueue = rest := by rw [same]
    have accepts : s'.accept = s.accept := by rw [same]
    refine effort_lt_of_shared (by rw [same]) (by rw [same]) ?_
    rw [accepts, shorter, queue, ticking, List.length_cons, Bool.toNat_true]
    have atMost := Bool.toNat_le s'.ticking
    omega
  | tickEnd =>
    have ticking := ticking_of_end stepped
    rw [ServerState.tickEnd_cases stepped]
    exact effort_lt_of_shared rfl rfl (by simp [ticking])
  | acceptTcpClient | acceptFails | completeRead | reset | stop | send | disconnect | tickBegin => exact internal.elim

/-! ## Where none is possible -/

def AtRest (s : ServerState) : Prop := ∀ action, action.IsInternal → serverStep action s = none

theorem AtRest.idle (rest : AtRest s) : s.ticking = false := by
  by_contra ticking
  have ticking : s.ticking = true := by simpa using ticking
  have turn := rest .tickTurn trivial
  have last := rest .tickEnd trivial
  simp only [serverStep, ServerState.tickTurn, ServerState.tickEnd, ticking, if_true, true_and] at turn last
  cases queue : s.dataQueue with
  | nil => simp [queue] at last
  | cons event later =>
    simp only [queue] at turn
    split at turn
    · cases turn
    · cases turn

theorem AtRest.accept (ok : ServerOk s) (rest : AtRest s) : s.accept = .pending ∨ s.accept = .ended := by
  cases accept : s.accept with
  | pending => exact .inl rfl
  | ended => exact .inr rfl
  | rearming =>
    have next := rest .nextAccept trivial
    simp [serverStep, ServerState.nextAccept, accept] at next
  | serving sid =>
    have served := (ok sid).served.mp accept
    have enters := rest .enterClient trivial
    have queues := rest .queueConnect trivial
    have reads := rest .firstRead trivial
    simp only [serverStep, ServerState.enterClient, ServerState.queueConnect, ServerState.firstRead, accept,
      ServerState.enqueue] at enters queues reads
    cases phase : (s.sessions sid).phase with
    | accepted => simp [phase] at enters
    | entered => simp [phase, ServerState.setPhase, ServerState.setSession, rest.idle] at queues
    | connected =>
      simp only [phase, if_true] at reads
      split at reads
      · cases reads
      · cases reads
    | _ =>
      rw [phase] at served
      exact served.elim

theorem AtRest.phase (ok : ServerOk s) (rest : AtRest s) (sid : Nat) :
    (s.sessions sid).phase = .fresh ∨ (s.sessions sid).phase = .reading ∨ (s.sessions sid).phase = .removed ∨
      (s.sessions sid).phase = .dead := by
  have unserved : ¬ (s.sessions sid).phase.Served := by
    intro served
    have serving := (ok sid).served.mpr served
    rcases rest.accept ok with pending | ended
    · rw [pending] at serving
      cases serving
    · rw [ended] at serving
      cases serving
  cases phase : (s.sessions sid).phase with
  | fresh => exact .inl rfl
  | reading => exact .inr (.inl rfl)
  | removed => exact .inr (.inr (.inl rfl))
  | dead => exact .inr (.inr (.inr rfl))
  | accepted | entered | connected =>
    rw [phase] at unserved
    exact (unserved trivial).elim
  | arrived bytes =>
    have next := rest (.handleDatagramReceived sid) trivial
    simp only [serverStep, ServerState.handleDatagramReceived, phase] at next
    repeat' split at next
    all_goals cases next
  | received data =>
    have next := rest (.queueData sid) trivial
    simp [serverStep, ServerState.queueData, ServerState.enqueue, ServerState.setPhase, ServerState.setSession, phase,
      rest.idle] at next
  | queued =>
    have next := rest (.nextRead sid) trivial
    simp [serverStep, ServerState.nextRead, phase] at next
  | ended =>
    have next := rest (.queueDisconnect sid) trivial
    simp [serverStep, ServerState.queueDisconnect, ServerState.enqueue, ServerState.setPhase, ServerState.setSession,
      phase, rest.idle] at next
  | reported =>
    have next := rest (.removeClient sid) trivial
    simp [serverStep, ServerState.removeClient, phase] at next

/-- Tick holds no lock, every client in the table waits for data or has lost its callback, and the
table holds the clients that Server was told of or is about to be told of. -/
structure Idle (s : ServerState) : Prop where
  unlocked : s.ticking = false
  accept : s.accept = .pending ∨ s.accept = .ended
  clients : ∀ sid, sid ∈ s.clients ↔ (s.sessions sid).phase = .reading ∨ (s.sessions sid).phase = .dead
  told : ∀ sid, sid ∈ s.clients ↔
    .connect sid ∈ s.calls ++ s.dataQueue ∧ .disconnect sid ∉ s.calls ++ s.dataQueue
  agree : s.dataQueue = [] → ∀ sid, sid ∈ s.clients ↔ sid ∈ s.serverClients

theorem ServerOk.told_iff (ok : ServerOk s) (event : EventData) :
    event ∈ s.calls ++ s.dataQueue ↔ event ∈ (s.sessions event.sid).events event.sid := by
  rw [← (ok event.sid).events, ServerState.eventsOf, List.mem_filter]
  simp

theorem AtRest.toIdle (rest : AtRest s) (ok : ServerOk s) (told : Told s) : Idle s := by
  have listed : ∀ sid, sid ∈ s.clients ↔ (s.sessions sid).phase = .reading ∨ (s.sessions sid).phase = .dead := by
    intro sid
    rw [(ok sid).listed]
    rcases rest.phase ok sid with phase | phase | phase | phase
    · simp [phase, Phase.Listed]
    · simp [phase, Phase.Listed]
    · simp [phase, Phase.Listed]
    · simp [phase, Phase.Listed]
  have raised : ∀ sid, sid ∈ s.clients ↔
      .connect sid ∈ s.calls ++ s.dataQueue ∧ .disconnect sid ∉ s.calls ++ s.dataQueue := by
    intro sid
    rw [listed, ok.told_iff, ok.told_iff]
    simp only [EventData.connect, EventData.disconnect, Session.events]
    rcases rest.phase ok sid with phase | phase | phase | phase
    · simp [phase]
    · simp [phase, EventData.received]
    · simp [phase]
    · simp [phase, EventData.received]
  refine ⟨rest.idle, rest.accept ok, listed, raised, ?_⟩
  intro delivered sid
  rw [told.mem, raised, delivered, List.append_nil]

/-- Left to themselves the callbacks and Tick take a bounded number of steps. They are never stuck: where
none of them can go on, the server is idle, and once every event is delivered both lists hold the same
clients. -/
theorem settles (reachable : Reachable serverStep .initial s) :
    (∀ actions s', (∀ action ∈ actions, action.IsInternal) → run serverStep actions s = some s' →
      actions.length ≤ s.effort ∧ (AtRest s' → Idle s')) ∧
    ∃ actions s', (∀ action ∈ actions, action.IsInternal) ∧ run serverStep actions s = some s' ∧ AtRest s' := by
  have keeps : ∀ s action s', ServerOk s → serverStep action s = some s' → ServerOk s' :=
    fun _ _ _ ok stepped => serverStep_ok ok stepped
  have lowers : ∀ s (action : Action) s', ServerOk s → action.IsInternal → serverStep action s = some s' →
      s'.effort < s.effort := fun _ _ _ ok internal stepped => internal_lowers ok internal stepped
  have start := serverOk_of_reachable reachable
  constructor
  · intro actions s' internal ran
    have spent := length_le_effort keeps lowers start internal ran
    refine ⟨by omega, fun rest => ?_⟩
    have later := reachable.run ran
    exact rest.toIdle (serverOk_of_reachable later) (told_of_reachable later)
  · exact exists_run_stuck keeps lowers start

end

theorem settles_twoClients :
    ∃ s, run serverStep twoClients .initial = some s ∧ ∃ actions s', actions.length ≤ s.effort ∧
      run serverStep actions s = some s' ∧ AtRest s' ∧ Idle s' := by
  have possible : (run serverStep twoClients .initial).isSome = true := by decide +kernel
  obtain ⟨s, ran⟩ := Option.isSome_iff_exists.mp possible
  obtain ⟨bounded, actions, s', internal, ran', rest⟩ := settles ⟨twoClients, ran⟩
  obtain ⟨short, idle⟩ := bounded actions s' internal ran'
  exact ⟨s, ran, actions, s', short, ran', rest, idle rest⟩

end RayTraceRenderer.Net

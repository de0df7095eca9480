import RayTraceRenderer.Net.Events

/-! Whether the callbacks keep themselves going.

Each callback begins the next operation at its end, behind calls that throw on a
connection that is closed. Where one throws, nothing begins the next operation: not
the next read of the connection, and for a new connection not the next accept either.
-/

set_option autoImplicit false

namespace RayTraceRenderer.Net

open Transition

def AcceptPhase.Executing : AcceptPhase → Prop
  | .serving _ | .rearming => True
  | _ => False

def Phase.ReadPending : Phase → Prop
  | .reading | .arrived _ => True
  | _ => False

def Phase.Executing : Phase → Prop
  | .accepted | .entered | .connected | .received _ | .queued | .ended | .reported => True
  | _ => False

/-- The server can take another client, and notices what the clients in the table do. -/
structure Rearmed (s : ServerState) : Prop where
  accepting : s.accept = .pending ∨ s.accept.Executing
  reading : ∀ sid ∈ s.clients,
    (s.sessions sid).phase.ReadPending ∨ (s.sessions sid).phase.Executing ∨ .disconnect sid ∈ s.dataQueue

def RearmedWhileRunning (s : ServerState) : Prop := s.isRunning → Rearmed s

/-- No call throws: the connection that a callback turns to is open. -/
def NoThrow (s : ServerState) (action : Action) : Prop :=
  s.isRunning → match action with
    | .acceptFails => False
    | .firstRead => ∀ sid, s.accept = .serving sid → (s.sessions sid).closed = false
    | .handleDatagramReceived sid | .nextRead sid => (s.sessions sid).closed = false
    | _ => True

/-- No callback ended early. -/
structure Alive (s : ServerState) : Prop where
  accept : s.accept ≠ .ended
  phase : ∀ sid, (s.sessions sid).phase ≠ .dead

def AliveWhileRunning (s : ServerState) : Prop := s.isRunning → Alive s

section
variable {s s' : ServerState}

theorem Alive.update (alive : Alive s) {sid : Nat} {session : Session} (phase : session.phase ≠ .dead)
    (other : Nat) : (Function.update s.sessions sid session other).phase ≠ .dead := by
  by_cases same : other = sid
  · rw [same, Function.update_self]
    exact phase
  · rw [Function.update_of_ne same]
    exact alive.phase other

theorem rearmed_of_alive (ok : ServerOk s) (alive : Alive s) : Rearmed s := by
  constructor
  · cases accept : s.accept with
    | pending => exact .inl rfl
    | serving sid => exact .inr trivial
    | rearming => exact .inr trivial
    | ended => exact absurd accept alive.accept
  · intro sid present
    have listed := (ok sid).listed.mp present
    cases phase : (s.sessions sid).phase with
    | reading | arrived _ => exact .inl trivial
    | entered | connected | received _ | queued | ended | reported => exact .inr (.inl trivial)
    | fresh | accepted | removed =>
      rw [phase] at listed
      exact listed.elim
    | dead => exact absurd phase (alive.phase sid)

-- A client whose callback threw stays in the table without a read and without an event.
theorem not_rearmed_of_dead (ok : ServerOk s) {sid : Nat} (dead : (s.sessions sid).phase = .dead) :
    ¬ Rearmed s := by
  intro rearmed
  have present : sid ∈ s.clients := by
    rw [(ok sid).listed, dead]
    trivial
  rcases rearmed.reading sid present with pending | executing | queued
  · rw [dead] at pending
    exact pending
  · rw [dead] at executing
    exact executing
  · have raised : EventData.disconnect sid ∈ s.eventsOf sid :=
      List.mem_filter.mpr ⟨List.mem_append_right _ queued, by simp [EventData.disconnect]⟩
    rw [(ok sid).events] at raised
    simp [Session.events, dead, EventData.connect, EventData.received, EventData.disconnect] at raised

theorem not_rearmed_of_ended (ended : s.accept = .ended) : ¬ Rearmed s := by
  intro rearmed
  rcases rearmed.accepting with pending | executing
  · rw [ended] at pending
    cases pending
  · rw [ended] at executing
    exact executing

theorem alive_step (before : AliveWhileRunning s) {action : Action} (admitted : NoThrow s action)
    (stepped : serverStep action s = some s') : AliveWhileRunning s' := by
  intro running
  cases action with
  | acceptTcpClient receiveBufferSize =>
    obtain ⟨-, rfl | ⟨stopped, rfl⟩⟩ := ServerState.acceptTcpClient_cases stepped
    · exact ⟨by simp [ServerState.setSession], (before running).update (by simp)⟩
    · exact absurd running (by simp [stopped])
  | acceptFails =>
    obtain ⟨-, rfl⟩ := ServerState.acceptFails_cases stepped
    exact (admitted running).elim
  | enterClient =>
    obtain ⟨_, -, -, rfl⟩ := ServerState.enterClient_cases stepped
    exact ⟨(before running).accept, (before running).update (by simp)⟩
  | queueConnect =>
    obtain ⟨_, -, -, rfl⟩ := ServerState.queueConnect_cases stepped
    exact ⟨(before running).accept, (before running).update (by simp)⟩
  | firstRead =>
    obtain ⟨sid, serving, -, ⟨closed, rfl⟩ | ⟨-, rfl⟩⟩ := ServerState.firstRead_cases stepped
    · rw [admitted running sid serving] at closed
      cases closed
    · exact ⟨by simp, (before running).update (by simp)⟩
  | nextAccept =>
    obtain ⟨-, rfl⟩ := ServerState.nextAccept_cases stepped
    have running : s.isRunning = true := running
    exact ⟨by simp [running], (before running).phase⟩
  | completeRead sid bytes =>
    obtain ⟨-, -, rfl⟩ := ServerState.completeRead_cases stepped
    exact ⟨(before running).accept, (before running).update (by simp)⟩
  | handleDatagramReceived sid =>
    obtain ⟨_, -, ⟨broken, rfl⟩ | ⟨-, rfl | rfl⟩⟩ := ServerState.handleDatagramReceived_cases stepped
    · have running : s.isRunning = true := running
      have isOpen : (s.sessions sid).closed = false := admitted running
      simp [running, isOpen] at broken
    · exact ⟨(before running).accept, (before running).update (by simp)⟩
    · exact ⟨(before running).accept, (before running).update (by simp)⟩
  | queueData sid =>
    obtain ⟨_, -, rfl⟩ := ServerState.queueData_cases stepped
    exact ⟨(before running).accept, (before running).update (by simp)⟩
  | nextRead sid =>
    obtain ⟨-, ⟨closed, rfl⟩ | ⟨-, rfl⟩⟩ := ServerState.nextRead_cases stepped
    · have isOpen : (s.sessions sid).closed = false := admitted running
      rw [isOpen] at closed
      cases closed
    · exact ⟨(before running).accept, (before running).update (by simp)⟩
  | queueDisconnect sid =>
    obtain ⟨-, rfl⟩ := ServerState.queueDisconnect_cases stepped
    exact ⟨(before running).accept, (before running).update (by simp)⟩
  | removeClient sid =>
    obtain ⟨-, rfl⟩ := ServerState.removeClient_cases stepped
    exact ⟨(before running).accept, (before running).update (by simp)⟩
  | reset | stop | send | disconnect | tickBegin | tickTurn | tickEnd =>
    obtain ⟨accept, -, ran, phase⟩ := application_cases stepped trivial
    have alive := before (ran running)
    refine ⟨?_, fun sid => ?_⟩
    · rw [accept]
      exact alive.accept
    · rw [phase sid]
      exact alive.phase sid

-- A call that throws leaves the server without what its callback would have begun.
theorem noThrow_of_rearmed (ok' : ServerOk s') {action : Action} (stepped : serverStep action s = some s')
    (rearmed : RearmedWhileRunning s') : NoThrow s action := by
  intro running
  cases action with
  | acceptFails =>
    obtain ⟨-, rfl⟩ := ServerState.acceptFails_cases stepped
    exact not_rearmed_of_ended rfl (rearmed running)
  | firstRead =>
    intro sid serving
    obtain ⟨sid', serving', -, ⟨-, rfl⟩ | ⟨isOpen, -⟩⟩ := ServerState.firstRead_cases stepped
    · exact absurd (rearmed running) (not_rearmed_of_ended rfl)
    · rw [AcceptPhase.serving.inj (serving.symm.trans serving')]
      exact isOpen
  | handleDatagramReceived sid =>
    obtain ⟨_, -, ⟨-, rfl⟩ | ⟨isOpen, -⟩⟩ := ServerState.handleDatagramReceived_cases stepped
    · have dead : ((s.setPhase sid .dead).sessions sid).phase = .dead := by
        simp [ServerState.setPhase, ServerState.setSession]
      exact absurd (rearmed running) (not_rearmed_of_dead ok' dead)
    · exact isOpen
  | nextRead sid =>
    obtain ⟨-, ⟨-, rfl⟩ | ⟨isOpen, -⟩⟩ := ServerState.nextRead_cases stepped
    · have dead : ((s.setPhase sid .dead).sessions sid).phase = .dead := by
        simp [ServerState.setPhase, ServerState.setSession]
      exact absurd (rearmed running) (not_rearmed_of_dead ok' dead)
    · exact isOpen
  | _ => trivial

end

/-- A running server stays ready throughout a run exactly where no call of a callback throws. -/
theorem rearmed_iff (actions : List Action) :
    Always serverStep RearmedWhileRunning actions .initial ↔ Within serverStep NoThrow actions .initial := by
  have start : AliveWhileRunning .initial := by
    intro _
    constructor
    · simp [ServerState.initial]
    · simp [ServerState.initial, Session.fresh]
  have keepsOk : ∀ s action s', ServerOk s → serverStep action s = some s' → ServerOk s' :=
    fun s action s' ok stepped => serverStep_ok ok stepped
  refine always_iff_within keepsOk ?_ ?_ ?_ serverOk_initial start
  · intro s action s' _ before admitted stepped
    exact alive_step before admitted stepped
  · intro s ok alive running
    exact rearmed_of_alive ok (alive running)
  · intro s action s' ok _ stepped rearmed
    exact noThrow_of_rearmed (serverStep_ok ok stepped) stepped rearmed

def earlyDisconnect : List Action :=
  [.acceptTcpClient 64, .enterClient, .queueConnect, .tickBegin, .tickTurn, .disconnect 1, .firstRead]

theorem earlyDisconnect_ends_accepting :
    ∃ s, run serverStep earlyDisconnect .initial = some s ∧ s.isRunning = true ∧ s.accept = .ended ∧
      1 ∈ s.clients ∧ (s.sessions 1).phase = .dead ∧ s.dataQueue = [] ∧ ¬ Rearmed s := by
  have facts : (run serverStep earlyDisconnect .initial).map
      (fun s => (s.isRunning, s.accept, s.clients, (s.sessions 1).phase, s.dataQueue)) =
      some (true, .ended, {1}, .dead, []) := by decide +kernel
  obtain ⟨s, ran, all⟩ := Option.map_eq_some_iff.mp facts
  simp only [Prod.mk.injEq] at all
  obtain ⟨running, accept, clients, phase, queue⟩ := all
  refine ⟨s, ran, running, accept, by simp [clients], phase, queue, ?_⟩
  exact not_rearmed_of_ended accept

end RayTraceRenderer.Net

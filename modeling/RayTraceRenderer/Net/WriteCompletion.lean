import RayTraceRenderer.Net.AsyncTcpServer

/-! The completion of writes.

What a callback knows of its operation is the state object handed to the runtime, which is
untyped. Send hands over the client's TcpClientState, as BeginRead does, and HandleDatagramWritten
takes the object for the TcpClient inside it.
-/

set_option autoImplicit false

namespace RayTraceRenderer.Net

open Transition

/-- The objects that `IAsyncResult.AsyncState` stands for, those of a client with its id. -/
inductive AsyncState where
  | tcpListener
  | tcpClientState (sid : Nat)
  | tcpClient (sid : Nat)
  deriving DecidableEq

inductive WriteExn where
  | invalidCast
  | invalidOperation
  | io
  deriving DecidableEq

/-- `(TcpClient)ar.AsyncState` -/
def AsyncState.toTcpClient : AsyncState → Except WriteExn Nat
  | .tcpClient sid => .ok sid
  | .tcpListener | .tcpClientState _ => .error .invalidCast

/-- A write that Send has begun: the client whose stream it is on, and the state object. -/
structure AsyncWrite where
  stream : Nat
  asyncState : AsyncState
  deriving DecidableEq

def AsyncWrite.ofSend (write : Nat × List UInt8) : AsyncWrite := ⟨write.1, .tcpClientState write.1⟩

/-- The server, and what became of its writes, each of which is known by its place in the list of
them: those whose callback ran, the calls of EndWrite with the client whose stream they were on,
and the callbacks that threw. -/
structure WriteState where
  server : ServerState
  completed : List Nat
  ended : List (Nat × Nat)
  failures : List (Nat × WriteExn)

namespace WriteState

def initial : WriteState := ⟨.initial, [], [], []⟩

variable (s : WriteState)

def begun : List AsyncWrite := s.server.writes.map .ofSend

/-- `TcpClient.GetStream` throws on a closed connection. -/
def getStream (tcpClient : Nat) : Except WriteExn Nat :=
  if (s.server.sessions tcpClient).closed then .error .invalidOperation else .ok tcpClient

/-- EndWrite throws where the network has failed. -/
def endWrite (number stream : Nat) (written : Bool) : WriteState :=
  { s with
    ended := s.ended ++ [(number, stream)]
    failures := if written then s.failures else s.failures ++ [(number, .io)] }

/-- The callback of a write that is begun, which runs once. -/
def handleDatagramWritten (number : Nat) (written : Bool) : Option WriteState :=
  if number ∈ s.completed then none
  else
    match s.begun[number]? with
    | none => none
    | some ar =>
      let s' := { s with completed := s.completed ++ [number] }
      match ar.asyncState.toTcpClient >>= s.getStream with
      | .ok stream => some (s'.endWrite number stream written)
      | .error why => some { s' with failures := s.failures ++ [(number, why)] }

end WriteState

inductive WriteAction where
  | server (action : Action)
  | handleDatagramWritten (number : Nat) (written : Bool)

def writeStep : WriteAction → WriteState → Option WriteState
  | .server action, s => (serverStep action s.server).map fun server => { s with server }
  | .handleDatagramWritten number written, s => s.handleDatagramWritten number written

structure Matched (s : WriteState) : Prop where
  failures : s.failures = []
  completed : ∀ number write, s.begun[number]? = some write → number ∈ s.completed →
    s.ended.filter (·.1 = number) = [(number, write.stream)]
  pending : ∀ number, number ∉ s.completed → s.ended.filter (·.1 = number) = []

def Settled (s : WriteState) : Prop := ∀ number < s.server.writes.length, number ∈ s.completed

def NoCompletion (_ : WriteState) : WriteAction → Prop
  | .server _ => True
  | .handleDatagramWritten _ _ => False

/-! ## What a callback does -/

section
variable {s s' : WriteState}

theorem server_cases {action : Action} (stepped : writeStep (.server action) s = some s') :
    ∃ server, serverStep action s.server = some server ∧ s' = { s with server } := by
  unfold writeStep at stepped
  obtain ⟨server, inner, same⟩ := Option.map_eq_some_iff.mp stepped
  exact ⟨server, inner, same.symm⟩

-- The state object of a write that Send began is never the one that the callback casts to.
theorem handleDatagramWritten_cases {number : Nat} {written : Bool}
    (stepped : writeStep (.handleDatagramWritten number written) s = some s') :
    number < s.server.writes.length ∧ number ∉ s.completed ∧
      s' = { s with completed := s.completed ++ [number], failures := s.failures ++ [(number, .invalidCast)] } := by
  simp only [writeStep, WriteState.handleDatagramWritten] at stepped
  split at stepped
  · cases stepped
  · refine ⟨?_, ‹_›, ?_⟩
    · by_contra beyond
      have none : s.begun[number]? = none := by
        rw [WriteState.begun, List.getElem?_map, List.getElem?_eq_none (not_lt.mp beyond)]
        rfl
      rw [none] at stepped
      cases stepped
    · cases begun : s.begun[number]? with
      | none =>
        rw [begun] at stepped
        cases stepped
      | some ar =>
        rw [WriteState.begun, List.getElem?_map] at begun
        obtain ⟨write, -, same⟩ := Option.map_eq_some_iff.mp begun
        rw [WriteState.begun, List.getElem?_map, begun, ← same] at stepped
        exact (Option.some.inj stepped).symm

/-- Every callback that ran was one of a write, and has failed before it came to EndWrite. -/
structure AllFailed (s : WriteState) : Prop where
  begun : ∀ number ∈ s.completed, number < s.server.writes.length
  ended : s.ended = []
  failures : s.failures = s.completed.map (·, .invalidCast)

theorem allFailed_step (before : AllFailed s) {action : WriteAction} (stepped : writeStep action s = some s') :
    AllFailed s' := by
  cases action with
  | server action =>
    obtain ⟨server, inner, rfl⟩ := server_cases stepped
    have longer := (serverStep_writes inner).length_le
    exact ⟨fun number ran => (before.begun number ran).trans_le longer, before.ended, before.failures⟩
  | handleDatagramWritten number written =>
    obtain ⟨bound, -, rfl⟩ := handleDatagramWritten_cases stepped
    refine ⟨fun other ran => ?_, before.ended, by simp [before.failures]⟩
    rcases List.mem_append.mp ran with earlier | now
    · exact before.begun other earlier
    · rw [List.mem_singleton.mp now]
      exact bound

theorem allFailed_initial : AllFailed .initial := by
  refine ⟨fun number ran => ?_, rfl, rfl⟩
  cases ran

-- So what is matched are the states in which no callback ran.
theorem AllFailed.matched_iff (all : AllFailed s) : Matched s ↔ s.completed = [] := by
  constructor
  · intro good
    have none := good.failures
    rw [all.failures] at none
    exact List.map_eq_nil_iff.mp none
  · intro none
    constructor
    · rw [all.failures, none]
      rfl
    · intro number write _ ran
      rw [none] at ran
      cases ran
    · intro number _
      rw [all.ended]
      rfl

theorem AllFailed.completed_iff (all : AllFailed s) (settled : Settled s) :
    s.completed = [] ↔ s.server.writes = [] := by
  constructor
  · intro none
    apply List.eq_nil_of_length_eq_zero
    by_contra some
    have ran := settled 0 (Nat.pos_of_ne_zero some)
    rw [none] at ran
    cases ran
  · intro none
    apply List.eq_nil_iff_forall_not_mem.mpr
    intro number ran
    have bound := all.begun number ran
    rw [none] at bound
    exact Nat.not_lt_zero number bound

theorem matched_step (all : AllFailed s) (good : Matched s) {action : WriteAction} (admitted : NoCompletion s action)
    (stepped : writeStep action s = some s') : Matched s' := by
  apply (allFailed_step all stepped).matched_iff.mpr
  cases action with
  | server action =>
    obtain ⟨server, -, rfl⟩ := server_cases stepped
    exact all.matched_iff.mp good
  | handleDatagramWritten number written => exact admitted.elim

theorem noCompletion_of_matched (all : AllFailed s) {action : WriteAction}
    (stepped : writeStep action s = some s') (good : Matched s') : NoCompletion s action := by
  cases action with
  | server action => trivial
  | handleDatagramWritten number written =>
    have none := (allFailed_step all stepped).matched_iff.mp good
    obtain ⟨-, -, rfl⟩ := handleDatagramWritten_cases stepped
    exact absurd none (by simp)

end

/-- Every write is matched throughout a run exactly where no write completes in it, and at the end of
a run that leaves no write open exactly where Send has begun none. -/
theorem writes_matched_iff (actions : List WriteAction) :
    (Always writeStep Matched actions .initial ↔ Within writeStep NoCompletion actions .initial) ∧
      ∀ s, run writeStep actions .initial = some s → Settled s → (Matched s ↔ s.server.writes = []) := by
  have keeps : ∀ s action s', AllFailed s → writeStep action s = some s' → AllFailed s' :=
    fun s action s' before stepped => allFailed_step before stepped
  constructor
  · have start : Matched .initial := allFailed_initial.matched_iff.mpr rfl
    refine always_iff_within keeps ?_ ?_ ?_ allFailed_initial start
    · intro s action s' all good admitted stepped
      exact matched_step all good admitted stepped
    · intro s _ good
      exact good
    · intro s action s' all _ stepped good
      exact noCompletion_of_matched all stepped good
  · intro s ran settled
    have all := run_invariant keeps allFailed_initial ran
    exact all.matched_iff.trans (all.completed_iff settled)

def oneWrite : List WriteAction :=
  [.acceptTcpClient 64, .enterClient, .queueConnect, .firstRead, .send 1 [0]].map .server ++
    [.handleDatagramWritten 0 true]

theorem oneWrite_unmatched :
    ∃ s, run writeStep oneWrite .initial = some s ∧ s.server.writes = [(1, [0])] ∧ s.ended = [] ∧
      s.failures = [(0, .invalidCast)] ∧ Settled s ∧ ¬ Matched s := by
  have facts : (run writeStep oneWrite .initial).map (fun s => (s.server.writes, s.completed, s.ended, s.failures)) =
      some ([(1, [0])], [0], [], [(0, .invalidCast)]) := rfl
  obtain ⟨s, ran, all⟩ := Option.map_eq_some_iff.mp facts
  simp only [Prod.mk.injEq] at all
  obtain ⟨writes, completed, ended, failures⟩ := all
  refine ⟨s, ran, writes, ended, failures, ?_, fun good => ?_⟩
  · intro number bound
    rw [writes, List.length_singleton, Nat.lt_one_iff] at bound
    rw [completed, bound]
    exact List.mem_singleton_self 0
  · have none := good.failures
    rw [failures] at none
    cases none

end RayTraceRenderer.Net

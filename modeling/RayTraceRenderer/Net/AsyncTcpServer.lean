import RayTraceRenderer.Foundation.Transition
import RayTraceRenderer.Net.MsgProtocol
import Mathlib.Data.Finset.Insert
import Mathlib.Logic.Function.Basic

/-! The server: callbacks of the network, an event queue, and the thread that polls it.

AsyncTcpServer runs its callbacks on threads of the pool, NetServer turns them into
events, and Server handles the events when its Tick runs. A step below is what one
thread does between two accesses to something another thread can see, so that a run
is any interleaving of the callbacks with the thread of the application.
-/

set_option autoImplicit false

namespace RayTraceRenderer.Net

/-! ## State -/

inductive EventType where
  | Connect
  | Disconnect
  | Data
  deriving DecidableEq

/-- Without data but for the type Data. -/
structure EventData where
  type : EventType
  sid : Nat
  data : Option (List UInt8)
  deriving DecidableEq

def EventData.connect (sid : Nat) : EventData := ⟨.Connect, sid, none⟩

def EventData.disconnect (sid : Nat) : EventData := ⟨.Disconnect, sid, none⟩

def EventData.received (sid : Nat) (data : List UInt8) : EventData := ⟨.Data, sid, some data⟩

inductive Phase where
  | fresh
  /-- HandleTcpClientAccepted has given the connection its id. -/
  | accepted
  /-- It is in the table of clients. -/
  | entered
  /-- Its Connect event is queued. -/
  | connected
  | reading
  | arrived (bytes : List UInt8)
  /-- HandleDatagramReceived has copied what was read. -/
  | received (data : List UInt8)
  | queued
  | ended
  /-- The Disconnect event is queued, the client is still in the table. -/
  | reported
  | removed
  /-- A callback threw, or found the server stopped. -/
  | dead
  deriving DecidableEq

/-- A TcpClientState with its TcpClient. The reads so far are kept to speak about. -/
structure Session where
  phase : Phase
  closed : Bool
  buffer : List UInt8
  reads : List (List UInt8)

def Session.fresh : Session := ⟨.fresh, false, [], []⟩

inductive AcceptPhase where
  | pending
  | serving (sid : Nat)
  | rearming
  | ended
  deriving DecidableEq

/-- AsyncTcpServer, NetServer and Server together. The keys stand for the table of clients,
since the value at a key is the session with that id. `lastSid` is a long in the source, which runs
out after 2^63 - 1 connections. The calls of handlers and of BeginWrite are kept to speak about. -/
structure ServerState where
  isRunning : Bool
  lastSid : Nat
  accept : AcceptPhase
  sessions : Nat → Session
  clients : Finset Nat
  dataQueue : List EventData
  ticking : Bool
  serverClients : List Nat
  calls : List EventData
  writes : List (Nat × List UInt8)

namespace ServerState

def initial : ServerState where
  isRunning := true
  lastSid := 0
  accept := .pending
  sessions := fun _ => .fresh
  clients := ∅
  dataQueue := []
  ticking := false
  serverClients := []
  calls := []
  writes := []

variable (s : ServerState)

def setSession (sid : Nat) (session : Session) : ServerState :=
  { s with sessions := Function.update s.sessions sid session }

def setPhase (sid : Nat) (phase : Phase) : ServerState :=
  s.setSession sid { s.sessions sid with phase }

/-- Tick holds the lock of the queue for as long as it runs. -/
def enqueue (event : EventData) : Option ServerState :=
  if s.ticking then none else some { s with dataQueue := s.dataQueue ++ [event] }

/-! ## HandleTcpClientAccepted -/

def getNewSid : Nat := s.lastSid + 1

def acceptTcpClient (receiveBufferSize : Nat) : Option ServerState :=
  if s.accept = .pending then
    if s.isRunning then
      let sid := s.getNewSid
      let buffer := List.replicate receiveBufferSize 0
      some ({ s with lastSid := sid, accept := .serving sid }.setSession sid ⟨.accepted, false, buffer, []⟩)
    else some { s with accept := .ended }
  else none

def acceptFails : Option ServerState :=
  if s.accept = .pending then some { s with accept := .ended } else none

def enterClient : Option ServerState :=
  match s.accept with
  | .serving sid =>
    if (s.sessions sid).phase = .accepted then
      some { s.setPhase sid .entered with clients := insert sid s.clients }
    else none
  | _ => none

def queueConnect : Option ServerState :=
  match s.accept with
  | .serving sid =>
    if (s.sessions sid).phase = .entered then (s.setPhase sid .connected).enqueue (.connect sid) else none
  | _ => none

/-- GetStream and BeginRead, which throw on a closed connection. -/
def firstRead : Option ServerState :=
  match s.accept with
  | .serving sid =>
    if (s.sessions sid).phase = .connected then
      if (s.sessions sid).closed then some { s.setPhase sid .dead with accept := .ended }
      else some { s.setPhase sid .reading with accept := .rearming }
    else none
  | _ => none

/-- BeginAcceptTcpClient, which throws on a stopped listener. -/
def nextAccept : Option ServerState :=
  if s.accept = .rearming then some { s with accept := if s.isRunning then .pending else .ended } else none

/-! ## HandleDatagramReceived -/

/-- The network fills the buffer; without bytes the read is at its end or in error. -/
def completeRead (sid : Nat) (bytes : List UInt8) : Option ServerState :=
  let session := s.sessions sid
  if session.phase = .reading ∧ bytes.length ≤ session.buffer.length then
    some (s.setSession sid
      { session with phase := .arrived bytes, buffer := overwrite session.buffer 0 bytes })
  else none

def handleDatagramReceived (sid : Nat) : Option ServerState :=
  let session := s.sessions sid
  match session.phase with
  | .arrived bytes =>
    if s.isRunning then
      if session.closed then some (s.setPhase sid .dead)
      else
        let numberOfReadBytes := bytes.length
        if numberOfReadBytes = 0 then some (s.setPhase sid .ended)
        else
          let receivedBytes := session.buffer.take numberOfReadBytes
          some (s.setSession sid
            { session with phase := .received receivedBytes, reads := session.reads ++ [bytes] })
    else some (s.setPhase sid .dead)
  | _ => none

def queueData (sid : Nat) : Option ServerState :=
  match (s.sessions sid).phase with
  | .received data => (s.setPhase sid .queued).enqueue (.received sid data)
  | _ => none

def nextRead (sid : Nat) : Option ServerState :=
  if (s.sessions sid).phase = .queued then
    some (s.setPhase sid (if (s.sessions sid).closed then .dead else .reading))
  else none

def queueDisconnect (sid : Nat) : Option ServerState :=
  if (s.sessions sid).phase = .ended then (s.setPhase sid .reported).enqueue (.disconnect sid) else none

def removeClient (sid : Nat) : Option ServerState :=
  if (s.sessions sid).phase = .reported then
    some { s.setPhase sid .removed with clients := s.clients.erase sid }
  else none

/-! ## The application -/

def closeConnection (sid : Nat) : ServerState := s.setSession sid { s.sessions sid with closed := true }

def stop : ServerState := { s with isRunning := false }

/-- `NetServer.Send`: GetStream throws on a closed connection, and a stopped server throws. -/
def send (sid : Nat) (data : List UInt8) : ServerState :=
  if sid ∈ s.clients ∧ s.isRunning ∧ (s.sessions sid).closed = false then
    { s with writes := s.writes ++ [(sid, data)] }
  else s

/-- `NetServer.Disconnect`. Close does the same for one client after the other. -/
def disconnect (sid : Nat) : ServerState := if sid ∈ s.clients then s.closeConnection sid else s

/-- The handlers of Server. Only OnDataReceived can throw. -/
def handle (event : EventData) : Except Exn (List Nat) :=
  match event.type with
  | .Connect => .ok (s.serverClients ++ [event.sid])
  | .Disconnect => .ok (s.serverClients.erase event.sid)
  | .Data => do
    let _msg ← MessageUnpacker.unpack (event.data.getD [])
    return s.serverClients

def tickBegin : Option ServerState := if s.ticking then none else some { s with ticking := true }

/-- One turn of the loop in Tick. An exception of the handler leaves Tick. -/
def tickTurn : Option ServerState :=
  if s.ticking then
    match s.dataQueue with
    | [] => none
    | event :: rest =>
      let s' := { s with dataQueue := rest, calls := s.calls ++ [event] }
      match s.handle event with
      | .ok serverClients => some { s' with serverClients }
      | .error _ => some { s' with ticking := false }
  else none

def tickEnd : Option ServerState :=
  if s.ticking ∧ s.dataQueue = [] then some { s with ticking := false } else none

end ServerState

/-! ## Steps -/

inductive Action where
  | acceptTcpClient (receiveBufferSize : Nat)
  | acceptFails
  | enterClient
  | queueConnect
  | firstRead
  | nextAccept
  | completeRead (sid : Nat) (bytes : List UInt8)
  | handleDatagramReceived (sid : Nat)
  | queueData (sid : Nat)
  | nextRead (sid : Nat)
  | queueDisconnect (sid : Nat)
  | removeClient (sid : Nat)
  | reset (sid : Nat)
  | stop
  | send (sid : Nat) (data : List UInt8)
  | disconnect (sid : Nat)
  | tickBegin
  | tickTurn
  | tickEnd

/-- A peer can reset any connection that was made. -/
def serverStep : Action → ServerState → Option ServerState
  | .acceptTcpClient receiveBufferSize, s => s.acceptTcpClient receiveBufferSize
  | .acceptFails, s => s.acceptFails
  | .enterClient, s => s.enterClient
  | .queueConnect, s => s.queueConnect
  | .firstRead, s => s.firstRead
  | .nextAccept, s => s.nextAccept
  | .completeRead sid bytes, s => s.completeRead sid bytes
  | .handleDatagramReceived sid, s => s.handleDatagramReceived sid
  | .queueData sid, s => s.queueData sid
  | .nextRead sid, s => s.nextRead sid
  | .queueDisconnect sid, s => s.queueDisconnect sid
  | .removeClient sid, s => s.removeClient sid
  | .reset sid, s => if 0 < sid ∧ sid ≤ s.lastSid then some (s.closeConnection sid) else none
  | .stop, s => some s.stop
  | .send sid data, s => some (s.send sid data)
  | .disconnect sid, s => some (s.disconnect sid)
  | .tickBegin, s => s.tickBegin
  | .tickTurn, s => s.tickTurn
  | .tickEnd, s => s.tickEnd

/-! ## What a step does -/

namespace ServerState

variable {s s' : ServerState} {sid : Nat}

theorem enqueue_cases {event : EventData} (stepped : s.enqueue event = some s') :
    s' = { s with dataQueue := s.dataQueue ++ [event] } := by
  unfold enqueue at stepped
  split at stepped
  · cases stepped
  · exact (Option.some.inj stepped).symm

theorem acceptTcpClient_cases {receiveBufferSize : Nat}
    (stepped : s.acceptTcpClient receiveBufferSize = some s') :
    s.accept = .pending ∧
      (s' = { s with lastSid := s.getNewSid, accept := .serving s.getNewSid }.setSession s.getNewSid
          ⟨.accepted, false, List.replicate receiveBufferSize 0, []⟩ ∨
        s.isRunning = false ∧ s' = { s with accept := .ended }) := by
  unfold acceptTcpClient at stepped
  split at stepped
  · refine ⟨‹_›, ?_⟩
    split at stepped
    · exact .inl (Option.some.inj stepped).symm
    · exact .inr ⟨Bool.eq_false_iff.mpr ‹_›, (Option.some.inj stepped).symm⟩
  · cases stepped

theorem acceptFails_cases (stepped : s.acceptFails = some s') :
    s.accept = .pending ∧ s' = { s with accept := .ended } := by
  unfold acceptFails at stepped
  split at stepped
  · exact ⟨‹_›, (Option.some.inj stepped).symm⟩
  · cases stepped

theorem enterClient_cases (stepped : s.enterClient = some s') :
    ∃ sid, s.accept = .serving sid ∧ (s.sessions sid).phase = .accepted ∧
      s' = { s.setPhase sid .entered with clients := insert sid s.clients } := by
  unfold enterClient at stepped
  split at stepped
  · split at stepped
    · exact ⟨_, ‹_›, ‹_›, (Option.some.inj stepped).symm⟩
    · cases stepped
  · cases stepped

theorem queueConnect_cases (stepped : s.queueConnect = some s') :
    ∃ sid, s.accept = .serving sid ∧ (s.sessions sid).phase = .entered ∧
      s' = { s.setPhase sid .connected with dataQueue := s.dataQueue ++ [.connect sid] } := by
  unfold queueConnect at stepped
  split at stepped
  · split at stepped
    · exact ⟨_, ‹_›, ‹_›, enqueue_cases stepped⟩
    · cases stepped
  · cases stepped

theorem firstRead_cases (stepped : s.firstRead = some s') :
    ∃ sid, s.accept = .serving sid ∧ (s.sessions sid).phase = .connected ∧
      ((s.sessions sid).closed = true ∧ s' = { s.setPhase sid .dead with accept := .ended } ∨
        (s.sessions sid).closed = false ∧ s' = { s.setPhase sid .reading with accept := .rearming }) := by
  unfold firstRead at stepped
  split at stepped
  · split at stepped
    · refine ⟨_, ‹_›, ‹_›, ?_⟩
      split at stepped
      · exact .inl ⟨‹_›, (Option.some.inj stepped).symm⟩
      · exact .inr ⟨Bool.eq_false_iff.mpr ‹_›, (Option.some.inj stepped).symm⟩
    · cases stepped
  · cases stepped

theorem nextAccept_cases (stepped : s.nextAccept = some s') :
    s.accept = .rearming ∧ s' = { s with accept := if s.isRunning then .pending else .ended } := by
  unfold nextAccept at stepped
  split at stepped
  · exact ⟨‹_›, (Option.some.inj stepped).symm⟩
  · cases stepped

theorem completeRead_cases {bytes : List UInt8} (stepped : s.completeRead sid bytes = some s') :
    (s.sessions sid).phase = .reading ∧ bytes.length ≤ (s.sessions sid).buffer.length ∧
      s' = s.setSession sid { s.sessions sid with
        phase := .arrived bytes, buffer := overwrite (s.sessions sid).buffer 0 bytes } := by
  unfold completeRead at stepped
  simp only at stepped
  split at stepped
  · rename_i possible
    exact ⟨possible.1, possible.2, (Option.some.inj stepped).symm⟩
  · cases stepped

theorem handleDatagramReceived_cases (stepped : s.handleDatagramReceived sid = some s') :
    ∃ bytes, (s.sessions sid).phase = .arrived bytes ∧
      ((s.isRunning = false ∨ (s.sessions sid).closed = true) ∧ s' = s.setPhase sid .dead ∨
        (s.sessions sid).closed = false ∧
          (s' = s.setPhase sid .ended ∨
            s' = s.setSession sid { s.sessions sid with
              phase := .received ((s.sessions sid).buffer.take bytes.length)
              reads := (s.sessions sid).reads ++ [bytes] })) := by
  unfold handleDatagramReceived at stepped
  simp only at stepped
  split at stepped
  · refine ⟨_, ‹_›, ?_⟩
    split at stepped
    · split at stepped
      · exact .inl ⟨.inr ‹_›, (Option.some.inj stepped).symm⟩
      · refine .inr ⟨Bool.eq_false_iff.mpr ‹_›, ?_⟩
        split at stepped
        · exact .inl (Option.some.inj stepped).symm
        · exact .inr (Option.some.inj stepped).symm
    · exact .inl ⟨.inl (Bool.eq_false_iff.mpr ‹_›), (Option.some.inj stepped).symm⟩
  · cases stepped

theorem queueData_cases (stepped : s.queueData sid = some s') :
    ∃ data, (s.sessions sid).phase = .received data ∧
      s' = { s.setPhase sid .queued with dataQueue := s.dataQueue ++ [.received sid data] } := by
  unfold queueData at stepped
  split at stepped
  · exact ⟨_, ‹_›, enqueue_cases stepped⟩
  · cases stepped

theorem nextRead_cases (stepped : s.nextRead sid = some s') :
    (s.sessions sid).phase = .queued ∧
      ((s.sessions sid).closed = true ∧ s' = s.setPhase sid .dead ∨
        (s.sessions sid).closed = false ∧ s' = s.setPhase sid .reading) := by
  unfold nextRead at stepped
  split at stepped
  · refine ⟨‹_›, ?_⟩
    have same := (Option.some.inj stepped).symm
    split at same
    · exact .inl ⟨‹_›, same⟩
    · exact .inr ⟨Bool.eq_false_iff.mpr ‹_›, same⟩
  · cases stepped

theorem queueDisconnect_cases (stepped : s.queueDisconnect sid = some s') :
    (s.sessions sid).phase = .ended ∧
      s' = { s.setPhase sid .reported with dataQueue := s.dataQueue ++ [.disconnect sid] } := by
  unfold queueDisconnect at stepped
  split at stepped
  · exact ⟨‹_›, enqueue_cases stepped⟩
  · cases stepped

theorem removeClient_cases (stepped : s.removeClient sid = some s') :
    (s.sessions sid).phase = .reported ∧
      s' = { s.setPhase sid .removed with clients := s.clients.erase sid } := by
  unfold removeClient at stepped
  split at stepped
  · exact ⟨‹_›, (Option.some.inj stepped).symm⟩
  · cases stepped

theorem tickBegin_cases (stepped : s.tickBegin = some s') : s' = { s with ticking := true } := by
  unfold tickBegin at stepped
  split at stepped
  · cases stepped
  · exact (Option.some.inj stepped).symm

theorem tickTurn_cases (stepped : s.tickTurn = some s') :
    ∃ event rest, s.dataQueue = event :: rest ∧
      s' = { s with
        dataQueue := rest, calls := s.calls ++ [event], ticking := s'.ticking, serverClients := s'.serverClients } ∧
      s'.serverClients = match event.type with
        | .Connect => s.serverClients ++ [event.sid]
        | .Disconnect => s.serverClients.erase event.sid
        | .Data => s.serverClients := by
  unfold tickTurn at stepped
  split at stepped
  · rename_i locked
    cases queue : s.dataQueue with
    | nil =>
      rw [queue] at stepped
      cases stepped
    | cons event rest =>
      refine ⟨event, rest, rfl, ?_⟩
      rw [queue] at stepped
      cases kind : event.type with
      | Connect =>
        simp only [handle, kind] at stepped
        cases stepped
        exact ⟨rfl, rfl⟩
      | Disconnect =>
        simp only [handle, kind] at stepped
        cases stepped
        exact ⟨rfl, rfl⟩
      | Data =>
        cases unpacked : MessageUnpacker.unpack (event.data.getD []) with
        | error why =>
          simp only [handle, kind, unpacked, bind, Except.bind] at stepped
          cases stepped
          exact ⟨rfl, rfl⟩
        | ok msg =>
          simp only [handle, kind, unpacked, bind, Except.bind, pure, Except.pure] at stepped
          cases stepped
          exact ⟨rfl, rfl⟩
  · cases stepped

theorem tickEnd_cases (stepped : s.tickEnd = some s') : s' = { s with ticking := false } := by
  unfold tickEnd at stepped
  split at stepped
  · exact (Option.some.inj stepped).symm
  · cases stepped

theorem reset_cases (stepped : serverStep (.reset sid) s = some s') :
    0 < sid ∧ sid ≤ s.lastSid ∧ s' = s.closeConnection sid := by
  simp only [serverStep] at stepped
  split at stepped
  · rename_i accepted
    exact ⟨accepted.1, accepted.2, (Option.some.inj stepped).symm⟩
  · cases stepped

theorem stop_cases (stepped : serverStep .stop s = some s') : s' = { s with isRunning := false } :=
  (Option.some.inj stepped).symm

theorem send_cases {data : List UInt8} (stepped : serverStep (.send sid data) s = some s') :
    s' = { s with writes := s.writes ++ [(sid, data)] } ∨ s' = s := by
  rw [← Option.some.inj stepped]
  unfold send
  split
  · exact .inl rfl
  · exact .inr rfl

theorem disconnect_cases (stepped : serverStep (.disconnect sid) s = some s') :
    sid ∈ s.clients ∧ s' = s.closeConnection sid ∨ s' = s := by
  rw [← Option.some.inj stepped]
  unfold disconnect
  split
  · rename_i present
    exact .inl ⟨present, rfl⟩
  · exact .inr rfl

end ServerState

/-- The steps of the application and the peer, in which no callback goes on. -/
def Action.IsApplication : Action → Prop
  | .reset _ | .stop | .send _ _ | .disconnect _ | .tickBegin | .tickTurn | .tickEnd => True
  | _ => False

-- A session is not moved by the callbacks of the others.
theorem removed_of_update {s : ServerState} {sid other : Nat} {session : Session}
    (moving : (s.sessions other).phase ≠ .removed) (removed : (s.sessions sid).phase = .removed) :
    (Function.update s.sessions other session sid).phase = .removed := by
  have ne : sid ≠ other := by
    rintro rfl
    exact moving removed
  rw [Function.update_of_ne ne, removed]

-- The callbacks of the network call no handler, begin no write, give out one id at most and leave alone the
-- sessions that are over.
theorem callback_frame {s s' : ServerState} {action : Action} (stepped : serverStep action s = some s')
    (callback : ¬ action.IsApplication) :
    s'.calls = s.calls ∧ s'.serverClients = s.serverClients ∧ s'.writes = s.writes ∧ s'.lastSid ≤ s.lastSid + 1 ∧
      ∀ sid ≤ s.lastSid, (s.sessions sid).phase = .removed → (s'.sessions sid).phase = .removed := by
  cases action with
  | acceptTcpClient receiveBufferSize =>
    obtain ⟨-, rfl | ⟨-, rfl⟩⟩ := ServerState.acceptTcpClient_cases stepped
    · refine ⟨rfl, rfl, rfl, le_rfl, fun sid known removed => ?_⟩
      have older : sid ≠ s.getNewSid := Nat.ne_of_lt (Nat.lt_succ_of_le known)
      simpa [ServerState.setSession, Function.update_of_ne older] using removed
    · exact ⟨rfl, rfl, rfl, Nat.le_succ _, fun _ _ => id⟩
  | acceptFails =>
    obtain ⟨-, rfl⟩ := ServerState.acceptFails_cases stepped
    exact ⟨rfl, rfl, rfl, Nat.le_succ _, fun _ _ => id⟩
  | enterClient =>
    obtain ⟨_, -, phase, rfl⟩ := ServerState.enterClient_cases stepped
    exact ⟨rfl, rfl, rfl, Nat.le_succ _, fun _ _ => removed_of_update (by simp [phase])⟩
  | queueConnect =>
    obtain ⟨_, -, phase, rfl⟩ := ServerState.queueConnect_cases stepped
    exact ⟨rfl, rfl, rfl, Nat.le_succ _, fun _ _ => removed_of_update (by simp [phase])⟩
  | firstRead =>
    obtain ⟨_, -, phase, ⟨-, rfl⟩ | ⟨-, rfl⟩⟩ := ServerState.firstRead_cases stepped <;>
      exact ⟨rfl, rfl, rfl, Nat.le_succ _, fun _ _ => removed_of_update (by simp [phase])⟩
  | nextAccept =>
    obtain ⟨-, rfl⟩ := ServerState.nextAccept_cases stepped
    exact ⟨rfl, rfl, rfl, Nat.le_succ _, fun _ _ => id⟩
  | completeRead sid bytes =>
    obtain ⟨phase, -, rfl⟩ := ServerState.completeRead_cases stepped
    exact ⟨rfl, rfl, rfl, Nat.le_succ _, fun _ _ => removed_of_update (by simp [phase])⟩
  | handleDatagramReceived sid =>
    obtain ⟨_, phase, ⟨-, rfl⟩ | ⟨-, rfl | rfl⟩⟩ := ServerState.handleDatagramReceived_cases stepped <;>
      exact ⟨rfl, rfl, rfl, Nat.le_succ _, fun _ _ => removed_of_update (by simp [phase])⟩
  | queueData sid =>
    obtain ⟨_, phase, rfl⟩ := ServerState.queueData_cases stepped
    exact ⟨rfl, rfl, rfl, Nat.le_succ _, fun _ _ => removed_of_update (by simp [phase])⟩
  | nextRead sid =>
    obtain ⟨phase, ⟨-, rfl⟩ | ⟨-, rfl⟩⟩ := ServerState.nextRead_cases stepped <;>
      exact ⟨rfl, rfl, rfl, Nat.le_succ _, fun _ _ => removed_of_update (by simp [phase])⟩
  | queueDisconnect sid =>
    obtain ⟨phase, rfl⟩ := ServerState.queueDisconnect_cases stepped
    exact ⟨rfl, rfl, rfl, Nat.le_succ _, fun _ _ => removed_of_update (by simp [phase])⟩
  | removeClient sid =>
    obtain ⟨phase, rfl⟩ := ServerState.removeClient_cases stepped
    exact ⟨rfl, rfl, rfl, Nat.le_succ _, fun _ _ => removed_of_update (by simp [phase])⟩
  | reset | stop | send | disconnect | tickBegin | tickTurn | tickEnd => exact absurd trivial callback

theorem serverStep_calls {s s' : ServerState} {action : Action} (stepped : serverStep action s = some s') :
    action = .tickTurn ∨ s'.calls = s.calls ∧ s'.serverClients = s.serverClients := by
  cases action with
  | reset sid =>
    obtain ⟨-, -, rfl⟩ := ServerState.reset_cases stepped
    exact .inr ⟨rfl, rfl⟩
  | stop =>
    rw [ServerState.stop_cases stepped]
    exact .inr ⟨rfl, rfl⟩
  | send sid data =>
    rcases ServerState.send_cases stepped with rfl | rfl <;> exact .inr ⟨rfl, rfl⟩
  | disconnect sid =>
    rcases ServerState.disconnect_cases stepped with ⟨-, rfl⟩ | rfl <;> exact .inr ⟨rfl, rfl⟩
  | tickBegin =>
    rw [ServerState.tickBegin_cases stepped]
    exact .inr ⟨rfl, rfl⟩
  | tickTurn => exact .inl rfl
  | tickEnd =>
    rw [ServerState.tickEnd_cases stepped]
    exact .inr ⟨rfl, rfl⟩
  | _ =>
    obtain ⟨calls, serverClients, -⟩ := callback_frame stepped id
    exact .inr ⟨calls, serverClients⟩

theorem serverStep_writes {s s' : ServerState} {action : Action} (stepped : serverStep action s = some s') :
    s.writes <+: s'.writes := by
  cases action with
  | reset sid =>
    obtain ⟨-, -, rfl⟩ := ServerState.reset_cases stepped
    exact List.prefix_rfl
  | stop =>
    rw [ServerState.stop_cases stepped]
  | send sid data =>
    rcases ServerState.send_cases stepped with rfl | rfl
    · exact List.prefix_append s.writes [(sid, data)]
    · exact List.prefix_rfl
  | disconnect sid =>
    rcases ServerState.disconnect_cases stepped with ⟨-, rfl⟩ | rfl <;> exact List.prefix_rfl
  | tickBegin =>
    rw [ServerState.tickBegin_cases stepped]
  | tickTurn =>
    obtain ⟨_, _, -, same, -⟩ := ServerState.tickTurn_cases stepped
    rw [same]
  | tickEnd =>
    rw [ServerState.tickEnd_cases stepped]
  | _ =>
    obtain ⟨-, -, writes, -⟩ := callback_frame stepped id
    rw [writes]

theorem closeConnection_phase {s : ServerState} {sid : Nat} (other : Nat) :
    ((s.closeConnection other).sessions sid).phase = (s.sessions sid).phase := by
  by_cases same : sid = other
  · subst same
    simp [ServerState.closeConnection, ServerState.setSession]
  · simp [ServerState.closeConnection, ServerState.setSession, Function.update_of_ne same]

theorem application_cases {s s' : ServerState} {action : Action} (stepped : serverStep action s = some s')
    (application : action.IsApplication) :
    s'.accept = s.accept ∧ s'.lastSid = s.lastSid ∧ (s'.isRunning = true → s.isRunning = true) ∧
      ∀ sid, (s'.sessions sid).phase = (s.sessions sid).phase := by
  cases action with
  | reset other =>
    obtain ⟨-, -, rfl⟩ := ServerState.reset_cases stepped
    exact ⟨rfl, rfl, id, fun sid => closeConnection_phase other⟩
  | stop =>
    rw [ServerState.stop_cases stepped]
    exact ⟨rfl, rfl, fun running => Bool.noConfusion running, fun sid => rfl⟩
  | send other data =>
    rcases ServerState.send_cases stepped with rfl | rfl
    · exact ⟨rfl, rfl, id, fun sid => rfl⟩
    · exact ⟨rfl, rfl, id, fun sid => rfl⟩
  | disconnect other =>
    rcases ServerState.disconnect_cases stepped with ⟨-, rfl⟩ | rfl
    · exact ⟨rfl, rfl, id, fun sid => closeConnection_phase other⟩
    · exact ⟨rfl, rfl, id, fun sid => rfl⟩
  | tickBegin =>
    rw [ServerState.tickBegin_cases stepped]
    exact ⟨rfl, rfl, id, fun sid => rfl⟩
  | tickTurn =>
    obtain ⟨_, _, -, same, -⟩ := ServerState.tickTurn_cases stepped
    rw [same]
    exact ⟨rfl, rfl, id, fun sid => rfl⟩
  | tickEnd =>
    rw [ServerState.tickEnd_cases stepped]
    exact ⟨rfl, rfl, id, fun sid => rfl⟩
  | _ => exact application.elim

theorem serverStep_lastSid {s s' : ServerState} {action : Action} (stepped : serverStep action s = some s') :
    s'.lastSid ≤ s.lastSid + 1 := by
  by_cases application : action.IsApplication
  · obtain ⟨-, same, -⟩ := application_cases stepped application
    rw [same]
    exact Nat.le_succ _
  · obtain ⟨-, -, -, grown, -⟩ := callback_frame stepped application
    exact grown

/-- A run of fewer than 2^63 steps gives out no id that is not a long. -/
theorem lastSid_fits {actions : List Action} (few : actions.length < 2 ^ 63) {s : ServerState}
    (ran : Transition.run serverStep actions .initial = some s) : (Int64.ofNat s.lastSid).toInt = s.lastSid := by
  have counted : ∀ (actions : List Action) (s s' : ServerState), Transition.run serverStep actions s = some s' →
      s'.lastSid ≤ s.lastSid + actions.length := by
    intro actions
    induction actions with
    | nil =>
      intro s s' ran
      cases ran
      exact le_rfl
    | cons action rest ih =>
      intro s s' ran
      obtain ⟨mid, first, ran⟩ := Option.bind_eq_some_iff.mp ran
      have one := serverStep_lastSid first
      have more := ih mid s' ran
      rw [List.length_cons]
      omega
  have bound := counted actions .initial s ran
  have none : ServerState.initial.lastSid = 0 := rfl
  exact Int64.toInt_ofNat_of_lt (by omega)

end RayTraceRenderer.Net

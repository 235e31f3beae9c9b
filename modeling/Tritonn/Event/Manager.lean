import Tritonn.Shared.Common
import Tritonn.Shared.TcpClass

/-!
The event server: `src/tritonn/event/manager.cpp` over `rTCPClass`.

* `EventRecord` is `rEvent`, and `EventQueue` the lists of `rEventManager`; `EventQueue.add` is
  `rEventManager::add`, up to the log and the file of the day;
* `EventClient` is a client with what it was sent; `newClient` is `NewClient`;
* `EventManager.cycle` is one turn of `rEventManager::Proccesing`. The two sections under
  `m_mutexList`, in `NewClient` and at the end of the turn, are whole, and events are added before
  the first, or before the second.

Every event has the number of its addition, which the code does not keep.  A `Send` to a client that
is connected is whole.
-/

namespace Tritonn

/-- `rEvent`: its number, with the type in the two highest bits, and its parameters. -/
structure EventRecord where
  eid : EID
  data : List UInt8
  deriving DecidableEq

/-- `rEvent::getType`. -/
def EventRecord.getType (e : EventRecord) : UInt32 := (e.eid >>> 30) &&& 0x0003

/-- `EMT_ERROR`. -/
def emtError : UInt32 := 3

namespace EventManager

/-- `MAX_EVENT`. -/
def maxEvent : ℕ := 100

/-- `MAX_ALARM`. -/
def maxAlarm : UInt32 := 3

/-- `ClientCount::MAX`. -/
def maxClient : ℕ := 2

end EventManager

/-- The lists of `rEventManager`: the archive, what is to be sent, with the numbers of the events,
and the alarms; and all events that were ever added. -/
structure EventQueue where
  archive : List EventRecord := []
  list : List (EventRecord × ℕ) := []
  alarm : UInt32 := 0
  added : List EventRecord := []

/-- `rEventClient`: the number of events at the time of its connection, and what it was sent. -/
structure EventClient where
  since : ℕ
  received : List (EventRecord × ℕ)
deriving DecidableEq

namespace EventQueue

open EventManager

/-- `rEventManager::add`: an event without a number is refused. -/
def add (q : EventQueue) (e : EventRecord) : EventQueue :=
  if e.eid = 0 then q
  else
    { archive := q.archive.drop (q.archive.length - maxEvent) ++ [e]
      list := q.list ++ [(e, q.added.length)]
      alarm := if e.getType = emtError ∧ q.alarm < maxAlarm then q.alarm + 1 else q.alarm
      added := q.added ++ [e] }

/-- Events that are added one after the other. -/
def addAll (q : EventQueue) (l : List EventRecord) : EventQueue := l.foldl add q

/-- `rEventManager::NewClient`: what is to be sent is sent to the new client at once. -/
def newClient (q : EventQueue) : EventClient := ⟨q.added.length, q.list⟩

end EventQueue

/-- `rEventManager`. -/
abbrev EventManager := TcpClass EventClient EventQueue

/-- What happens in a turn of `Proccesing`: the events that are added before the section of
`NewClient` and between it and the one that sends, the connection that is accepted, and what
`select` reports for the clients that were there. -/
structure EventInput where
  before : List EventRecord := []
  accept : Option Accept := none
  between : List EventRecord := []
  ready : ℕ → Ready := fun _ => .idle

namespace EventManager

/-- `rEventManager::ClientRecv`, whose result makes `rTCPClass` drop the client. -/
def clientRecv (_ : ℕ) (k : EventClient) (q : EventQueue) (_ : List UInt8) :
    EventClient × EventQueue × ℕ := (k, q, 0)

/-- The connection that is accepted becomes a client and stays one. -/
def joins (s : EventManager) (i : EventInput) : Bool :=
  i.accept.any fun a => a.white && (decide (maxClient ≤ s.client.length) || a.nodelay)

/-- What `select` reports for the clients behind `accept`: the socket of a new one, which is the
last, is in none of its sets. -/
def report (s : EventManager) (i : EventInput) (n ii : ℕ) : Ready :=
  if s.joins i ∧ ii + 1 = n then .idle else i.ready ii

/-- `rTCPClass::Proccesing`. -/
def connect (s : EventManager) (i : EventInput) : EventManager :=
  let n := ((i.accept.map (s.accept s.shared.newClient maxClient)).getD s).client.length
  s.proccesing clientRecv s.shared.newClient maxClient i.accept (s.report i n)

/-- Events are added. -/
def addAll (s : EventManager) (l : List EventRecord) : EventManager :=
  { s with shared := s.shared.addAll l }

/-- The section of `Proccesing` that sends the list to all clients. -/
def sendAll (s : EventManager) : EventManager :=
  if s.client.length = 0 then s
  else
    { s with
      client := s.client.map fun c =>
        (c.1, { c.2 with received := c.2.received ++ s.shared.list })
      shared := { s.shared with list := [] } }

/-- One turn of `rEventManager::Proccesing`. -/
def cycle (s : EventManager) (i : EventInput) : EventManager :=
  (((s.addAll i.before).connect i).addAll i.between).sendAll

/-- The server at its start. -/
def start : EventManager := ⟨[], 0, {}⟩

/-- Turns in a row. -/
def run (l : List EventInput) : EventManager := l.foldl cycle start

end EventManager

end Tritonn

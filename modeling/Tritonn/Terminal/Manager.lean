import Tritonn.Shared.TcpClass
import Tritonn.Shared.Users
import Tritonn.Store.Text
import Tritonn.Terminal.Packet

/-!
The terminal server: `src/tritonn/term_manager.cpp` over `rTCPClass`.

* `LoginMsg` and `DataMsg` are the messages, and `Messages` the code that reads them, which is
  generated from their description and is not part of the sources;
* `Work` is what the handlers of a connection work on, with the account of all that was done:
  `packetLogin` and `packetData` are the handlers, and every use of the variables that they make
  goes through `Work.setVars` and `Work.getVars`, which write it down;
* `TermManager` is the server: `cycle` is `rTCPClass::Proccesing` with `ClientRecv`, and `step` a
  cycle or what another thread does in the meantime.
-/

namespace Tritonn

/-! ### The messages -/

/-- `TT::LoginMsg`: the texts of the hashes. -/
structure LoginMsg where
  user : List UInt8
  pwd : List UInt8

/-- `TT::DataMsg`, as the functions that look at it see it: the variables to write, with the texts
of their values, the variables to read, and what else is asked for. -/
structure DataMsg where
  userdata : Option (List UInt8)
  isWrite : Bool
  write : List (String × Option (List UInt8))
  isRead : Bool
  read : List String
  isNeedConfigInfo : Bool
  isNeedVersion : Bool
  isNeedDateTime : Bool

/-- `deserialize_LoginMsg` and `deserialize_DataMsg`, with `none` for a message that is not
correct, the conversions of texts, and what the memory of a new item holds. -/
structure Messages where
  deserializeLogin : List UInt8 → Option LoginMsg
  deserializeData : List UInt8 → Option DataMsg
  text : TextNumbers
  raw : SnapshotItem

/-- A variable in an answer: its name, the status of its item and the text of its value. -/
structure AnswerItem where
  name : String
  result : ItemStatus
  value : String

/-- What is sent to a terminal: the result and the access of a login, or the data of a message,
which always has the state with it. -/
inductive TermAnswer where
  | login (result : LoginResult) (access : UInt32)
  | data (userdata : Option (List UInt8)) (write read : List AnswerItem)
      (confinfo version datetime : Bool)

/-! ### The account of a server -/

/-- What happens on a connection: a login, with the user and the result of `rUser::LoginHash`, a
write or a read of the variables of a snapshot, or an answer. -/
inductive Deed where
  | login (user : Option User) (result : LoginResult)
  | write (snapshot : Snapshot)
  | read (snapshot : Snapshot)
  | send (answer : TermAnswer)

/-- What all connections share: the users, the variables, and the account of what was done, with
the number of the connection. -/
structure World where
  listUser : List User
  store : VarStore
  account : List (ℕ × Deed)

/-- What the handlers of a connection work on: `m_user` and the world. -/
structure Work where
  user : Option User
  world : World

namespace Work

variable (ext : Messages) (id : ℕ)

/-- A deed of the connection is written down. -/
def note (w : Work) (deed : Deed) : Work :=
  { w with world := { w.world with account := w.world.account ++ [(id, deed)] } }

/-- `ss.set()`. -/
def setVars (w : Work) (s : Snapshot) : Work × Snapshot :=
  let (store, s') := w.world.store.toStore.set s
  ({ w with world := { w.world with store := { w.world.store with toStore := store } } }.note id
    (.write s), s')

/-- `ss.get()`. -/
def getVars (w : Work) (s : Snapshot) : Work × Snapshot :=
  (w.note id (.read s), w.world.store.get s)

/-- The answers for the items of a snapshot. -/
def answers (w : Work) (names : List String) (s : Snapshot) : List AnswerItem :=
  names.zipWith (fun name item => ⟨name, item.status, item.getValueString ext.text w.world.store⟩)
    s.list

/-- `rTermManager::sendDefaultMessage`. -/
def sendDefaultMessage (w : Work) : Work := w.note id (.send (.data none [] [] true true false))

/-- `rTermManager::packetLogin`. -/
def packetLogin (w : Work) (data : List UInt8) : Work × Bool :=
  if w.user.isSome then (w, false)
  else
    match ext.deserializeLogin data with
    | none => (w, false)
    | some msg =>
        let userHash := (stringToBuffer msg.user (List.replicate maxHashSize 0)).2
        let pwdHash := (stringToBuffer msg.pwd (List.replicate maxHashSize 0)).2
        let (user, result) := User.loginHash w.world.listUser userHash pwdHash
        let w := { w with user }.note id (.login user result)
        match user with
        | none => (w, false)
        | some user =>
            if result ≠ .success ∧ result ≠ .changepwd then (w, false)
            else if user.getAccess false &&& accessSA ≠ 0 ∨
                user.getAccess false &&& accessAdmin ≠ 0 then
              ((w.note id (.send (.login result (user.getAccess false)))).sendDefaultMessage id,
                true)
            else (w, false)

/-- The part of `packetData` that writes variables. -/
def writePart (w : Work) (access : UInt32) (msg : DataMsg) : Work × List AnswerItem :=
  if msg.isWrite then
    let items := msg.write.map fun item =>
      SnapshotItem.ofString ext.text ext.raw (w.world.store.findVar item.1) (item.2.getD [])
    let (w, s) := w.setVars id ⟨items, access⟩
    (w, w.answers ext (msg.write.map Prod.fst) s)
  else (w, [])

/-- The part of `packetData` that reads variables. -/
def readPart (w : Work) (access : UInt32) (msg : DataMsg) : Work × List AnswerItem :=
  if msg.isRead then
    let items := msg.read.map fun name =>
      SnapshotItem.ofVar ext.raw (w.world.store.findVar name)
    let (w, s) := w.getVars id ⟨items, access⟩
    (w, w.answers ext msg.read s)
  else (w, [])

/-- `rTermManager::packetData`. -/
def packetData (w : Work) (data : List UInt8) : Work × Bool :=
  match w.user with
  | none => (w, false)
  | some user =>
      match ext.deserializeData data with
      | none => (w, false)
      | some msg =>
          let (w, write) := w.writePart ext id (user.getAccess false) msg
          let (w, read) := w.readPart ext id (user.getAccess false) msg
          (w.note id (.send (.data msg.userdata write read msg.isNeedConfigInfo msg.isNeedVersion
            msg.isNeedDateTime)), true)

/-- The `switch` of `ClientRecv`. -/
def packet (magic : Magic) (w : Work) (m : UInt32) (data : List UInt8) : Work × Bool :=
  if m = magic.login then w.packetLogin ext id data
  else if m = magic.data then w.packetData ext id data
  else (w, false)

end Work

/-! ### The server -/

/-- `rTermClient`. -/
structure TermClient where
  packet : PacketClient
  user : Option User

/-- `rTermClient(socket, addr)`. The header is cleared, and the buffer is empty. -/
def TermClient.new : TermClient := ⟨⟨[], ⟨0, 0, 0, 0, 0, 0⟩⟩, none⟩

/-- `rTermManager`. -/
abbrev TermManager := TcpClass TermClient World

namespace TermManager

/-- The number of clients that `rTermManager` gives to `rTCPClass`. -/
def maxClient : ℕ := 1

variable (ext : Messages) (magic : Magic)

/-- `rTermManager::ClientRecv`. -/
def clientRecv (id : ℕ) (k : TermClient) (w : World) (chunk : List UInt8) :
    TermClient × World × ℕ :=
  let (t, result) := Terminal.clientRecv magic (Work.packet ext id magic)
    ⟨k.packet, ⟨k.user, w⟩, []⟩ chunk
  (⟨t.client, t.session.user⟩, t.session.world, result)

/-- A cycle of `rTermManager::Proccesing`. -/
def cycle (s : TermManager) (a : Option Accept) (ready : ℕ → Ready) : TermManager :=
  s.proccesing (clientRecv ext magic) .new maxClient a ready

/-- What can happen to a server: a cycle, a change of the variables by other threads, a user that
is added, and the end of the thread, which drops all clients. -/
inductive Event where
  | cycle (a : Option Accept) (ready : ℕ → Ready)
  | others (store : VarStore)
  | addUser (user : User)
  | destroy

/-- One event. -/
def step (s : TermManager) : Event → TermManager
  | .cycle a ready => cycle ext magic s a ready
  | .others store => { s with shared := { s.shared with store } }
  | .addUser user =>
      { s with shared := { s.shared with listUser := User.add s.shared.listUser user } }
  | .destroy => { s with client := [] }

/-- The events of a run. -/
def run (s : TermManager) (l : List Event) : TermManager := l.foldl (step ext magic) s

/-- A server that was just started. -/
def start (listUser : List User) (store : VarStore) : TermManager := ⟨[], 0, ⟨listUser, store, []⟩⟩

end TermManager

end Tritonn

import Tritonn.Shared.Users
import Tritonn.Store.Text

/-!
The sessions of the JSON server: the requests of `src/tritonn/json_manager.cpp` that open, use and
close them, and their expiry.

* `Activity` is `rActivity`, a session, and `JsonManager.getActivity` finds the one with a token;
* `packetLogin`, `packetLogout`, `packetCheck`, `packetDataSet` and `packetRestart` are the
  requests, with the fields that they take from the text and what they answer;
* `cleanup` is the part of `rJSONManager::Proccesing` that drops sessions, and `JsonManager.step`
  one event of the server.
-/

namespace Tritonn

/-- `MAX_JSON_CLIENT`. -/
def maxJsonClient : ℕ := 8

/-- `MAX_JSON_IDLE`, in seconds. -/
def maxJsonIdle : UInt32 := 30

/-- `MAX_JSON_SESSION`, in seconds. -/
def maxJsonSession : UInt32 := 10 * 60

/-- `ACCESS_REBOOT`. -/
def accessReboot : UInt32 := 0x00080000

/-- `Live`. -/
inductive Live where
  | undef
  | starting
  | rebootCold
  | dumpTotals
  | dumpVars
  | running
  | halt
  deriving DecidableEq, Repr

/-- The errors of `JSON_ERROR` that the requests answer. -/
inductive JsonError where
  | accessdenied
  | badparam
  | loginFault
  | loginBlocked
  | tokenFault
  | notcoldstart
  | confisempty
  deriving DecidableEq, Repr

/-- A variable in the answer to `data.set`: its name, the text of the value, whether it was written
and the status of its item. -/
structure SetReply where
  id : String
  value : List UInt8
  success : Bool
  result : ItemStatus

/-- What is answered: an error, the token of a session with the access and the result of the login,
the guest after a logout, the user of a session, the variables of a `data.set`, or whether the
restart was accepted. -/
inductive JsonReply where
  | error (err : JsonError)
  | login (token : Int32) (access : UInt32) (result : LoginResult)
  | guest
  | user (name : String) (access : UInt32)
  | data (items : List SetReply)
  | restart (success : Bool)

/-- `rActivity`, with the number of the login that made it. -/
structure Activity where
  login : ℕ
  token : Int32
  session : UInt32
  idle : UInt32
  user : User
  deriving DecidableEq

/-- What the server uses of the libraries: the first number of `rand` after `srand` of a seed,
`GetStrHash`, the conversions of texts, and what the memory of a new item holds. -/
structure JsonEnv where
  rand : UInt32 → Int32
  strHash : List UInt8 → List UInt8
  text : TextNumbers
  raw : SnapshotItem

/-- `rJSONManager`: the sessions, the number of logins so far, the users, the variables, the status
of the system and the restarts that were asked for. -/
structure JsonManager where
  activity : List Activity
  count : ℕ
  listUser : List User
  store : VarStore
  live : Live
  restarts : List (UInt8 × List UInt8)

namespace JsonManager

variable (env : JsonEnv)

/-- `GetActivity`. -/
def getActivity (s : JsonManager) (token : Int32) : Option Activity :=
  s.activity.find? fun a => a.token = token

/-- `DeleteActivity`: the first session with the token. -/
def deleteActivity (s : JsonManager) (token : Int32) : JsonManager :=
  { s with activity := s.activity.eraseP fun a => a.token = token }

/-- `UpdateIdle` of the session that `GetActivity` finds for the token. -/
def updateIdle (s : JsonManager) (token : Int32) (time : UInt32) : JsonManager :=
  { s with activity := go s.activity }
where
  go : List Activity → List Activity
    | [] => []
    | a :: activity =>
        if a.token = token then { a with idle := time } :: activity else a :: go activity

/-- The user that `Packet_Login` lets in, with the result of the login. `pwd` is what the memory
of the buffer held. -/
def loginUser (s : JsonManager) (pwd juser jpwd : List UInt8) : Option User × LoginResult :=
  User.login env.strHash s.listUser juser (stringToBuffer jpwd pwd).2

/-- `Packet_Login`. The activity is made first: `seed` is the time for `srand`, and `time` the one
at which the session begins. -/
def packetLogin (s : JsonManager) (seed time : UInt32) (pwd : List UInt8)
    (juser jpwd : Option (List UInt8)) : JsonManager × JsonReply :=
  match juser, jpwd with
  | some juser, some jpwd =>
      match s.loginUser env pwd juser jpwd with
      | (none, result) =>
          (s, .error (if result = .blocked then .loginBlocked else .loginFault))
      | (some user, result) =>
          if user.getAccess false &&& accessWeb = 0 then (s, .error .loginFault)
          else
            let act : Activity := ⟨s.count, env.rand seed, time, time, user⟩
            ({ s with activity := s.activity ++ [act], count := s.count + 1 },
              .login act.token (user.getAccess false) result)
  | _, _ => (s, .error .badparam)

/-- `Packet_Logout`. -/
def packetLogout (s : JsonManager) (jtoken : Option Int32) : JsonManager × JsonReply :=
  match jtoken with
  | none => (s, .error .badparam)
  | some token => (s.deleteActivity token, .guest)

/-- `Packet_Check`. -/
def packetCheck (s : JsonManager) (time : UInt32) (jtoken : Option Int32) :
    JsonManager × JsonReply :=
  match jtoken with
  | none => (s, .error .badparam)
  | some token =>
      match s.getActivity token with
      | none => (s, .error .tokenFault)
      | some act => (s.updateIdle token time, .user act.user.name (act.user.getAccess false))

/-- The `local` of a `data.set`, which stands for true if it is missing. -/
def isLocal (jlocal : Option Int32) : Bool := jlocal.elim true (· ≠ 0)

/-- The part of `Packet_DataSet` that is carried out for a user. -/
def setFor (s : JsonManager) (user : User) (ids : List (String × List UInt8))
    (jlocal : Option Int32) : JsonManager × JsonReply :=
  let items := ids.map fun item =>
    SnapshotItem.ofString env.text env.raw (s.store.findVar item.1) item.2
  let (store, ss) := s.store.toStore.set ⟨items, user.getAccess (isLocal jlocal)⟩
  ({ s with store := { s.store with toStore := store } },
    .data (ids.zipWith (fun jvar item => ⟨jvar.1, jvar.2, item.status = .writed, item.status⟩)
      ss.list))

/-- `Packet_DataSet`. -/
def packetDataSet (s : JsonManager) (jtoken : Option Int32)
    (jids : Option (List (String × List UInt8))) (jlocal : Option Int32) :
    JsonManager × JsonReply :=
  match jids, jtoken with
  | some ids, some token =>
      match s.getActivity token with
      | none => (s, .error .tokenFault)
      | some act => s.setFor env act.user ids jlocal
  | _, _ => (s, .error .badparam)

/-- `rDataManager::Restart`: what it returns. -/
def restartResult (live : Live) (restart : UInt8) : ℕ :=
  if restart ≠ 1 ∧ restart ≠ 2 ∧ restart ≠ 3 then 1 else if live = .undef then 2 else 0

/-- The call of `rDataManager::Restart`. -/
def doRestart (s : JsonManager) (restart : UInt8) (conf : List UInt8) : JsonManager × JsonReply :=
  ({ s with restarts := s.restarts ++ [(restart, conf)] },
    .restart (restartResult s.live restart = 0))

/-- `Packet_Restart`. -/
def packetRestart (s : JsonManager) (time : UInt32) (jtoken jrestart jlocal : Option Int32)
    (jconf : Option (List UInt8)) : JsonManager × JsonReply :=
  match jtoken, jrestart, jlocal with
  | some token, some restart, some jlocal =>
      let conf := jconf.getD []
      let restart := restart.toUInt32.toUInt8
      if s.live ≠ .rebootCold then
        match s.getActivity token with
        | none => (s, .error .tokenFault)
        | some act =>
            let s := s.updateIdle token time
            if act.user.getAccess (jlocal ≠ 0) &&& accessReboot = 0 then (s, .error .accessdenied)
            else if conf ≠ [] then (s, .error .notcoldstart)
            else s.doRestart restart conf
      else if conf = [] then (s, .error .confisempty)
      else s.doRestart restart conf
  | _, _, _ => (s, .error .badparam)

/-- A session has expired. -/
def Expired (curtime : UInt32) (a : Activity) : Prop :=
  maxJsonIdle < curtime - a.idle ∨ maxJsonSession < curtime - a.session

instance (curtime : UInt32) (a : Activity) : Decidable (Expired curtime a) :=
  inferInstanceAs (Decidable (_ ∨ _))

/-- The part of `rJSONManager::Proccesing` that drops the sessions that have expired, and the first
ones when there are too many. -/
def cleanup (s : JsonManager) (curtime : UInt32) : JsonManager :=
  let activity := s.activity.filter fun a => ¬ Expired curtime a
  { s with activity := activity.drop (activity.length - maxJsonClient) }

/-- What can happen to the server: a request, with the readings of the clock and what the memory of
the password held, the end of a cycle of `Proccesing`, or a change of the variables, the status or
the users from outside. -/
inductive Event where
  | login (seed time : UInt32) (pwd : List UInt8) (juser jpwd : Option (List UInt8))
  | logout (jtoken : Option Int32)
  | check (time : UInt32) (jtoken : Option Int32)
  | dataSet (jtoken : Option Int32) (jids : Option (List (String × List UInt8)))
      (jlocal : Option Int32)
  | restart (time : UInt32) (jtoken jrestart jlocal : Option Int32) (jconf : Option (List UInt8))
  | cleanup (curtime : UInt32)
  | others (store : VarStore) (live : Live)
  | addUser (user : User)

/-- One event. -/
def step (s : JsonManager) : Event → JsonManager
  | .login seed time pwd juser jpwd => (s.packetLogin env seed time pwd juser jpwd).1
  | .logout jtoken => (s.packetLogout jtoken).1
  | .check time jtoken => (s.packetCheck time jtoken).1
  | .dataSet jtoken jids jlocal => (s.packetDataSet env jtoken jids jlocal).1
  | .restart time jtoken jrestart jlocal jconf =>
      (s.packetRestart time jtoken jrestart jlocal jconf).1
  | .cleanup curtime => s.cleanup curtime
  | .others store live => { s with store, live }
  | .addUser user => { s with listUser := User.add s.listUser user }

/-- The events of a run. -/
def run (s : JsonManager) (l : List Event) : JsonManager := l.foldl (step env) s

end JsonManager

end Tritonn

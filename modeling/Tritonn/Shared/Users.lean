import Mathlib

/-!
Users: `src/tritonn/users.cpp`.

* `User` is `rUser`, and `LoginResult` what a login answers;
* `loginHash` is `rUser::LoginHash`: a user and the result of his login.

The list of users is `ListUser`; a user that was added is never changed.
-/

namespace Tritonn

/-- `MAX_HASH_SIZE`. -/
def maxHashSize : ℕ := 20

/-- `ACCESS_ADMIN`. -/
def accessAdmin : UInt32 := 0x40000000

/-- `ACCESS_WEB`. -/
def accessWeb : UInt32 := 0x20000000

/-- `rUser`: the hashes of the name and of the password, the name, the access from inside and from
outside, and the flags. -/
structure User where
  hash : List UInt8
  pwd : List UInt8
  name : String
  intAccess : UInt32
  extAccess : UInt32
  status : UInt8
  deriving DecidableEq

/-- `rUser::LoginResult`. -/
inductive LoginResult where
  | undef
  | success
  | fault
  | blocked
  | changepwd
  deriving DecidableEq, Repr

/-- `CmpHash`. -/
def cmpHash (buff1 buff2 : List UInt8) : Bool := buff1.take maxHashSize = buff2.take maxHashSize

namespace User

/-- `rUser::GetAccess`. -/
def getAccess (user : User) (external : Bool) : UInt32 :=
  if external then user.extAccess else user.intAccess

/-- `GetStatus() & UserFlags::MASK_BLOCKED`. -/
def isBlocked (user : User) : Bool := user.status &&& 0xF0 ≠ 0

/-- `GetStatus() & UserFlags::CHANGEPWD`. -/
def isChangepwd (user : User) : Bool := user.status &&& 0x01 ≠ 0

/-- `rUser::FindHash`. -/
def findHash (listUser : List User) (nameHash : List UInt8) : Option User :=
  listUser.find? fun user => cmpHash user.hash nameHash

/-- `rUser::Add`, of a user whose name is not there. -/
def add (listUser : List User) (user : User) : List User :=
  if (findHash listUser user.hash).isSome then listUser else listUser ++ [user]

/-- `rUser::LoginHash`. -/
def loginHash (listUser : List User) (nameHash pwdHash : List UInt8) :
    Option User × LoginResult :=
  match findHash listUser nameHash with
  | none => (none, .fault)
  | some user =>
      if user.isBlocked then (none, .blocked)
      else if !cmpHash user.pwd pwdHash then (none, .fault)
      else (some user, if user.isChangepwd then .changepwd else .success)

/-- `rUser::Login`, with the hash of the name. -/
def login (strHash : List UInt8 → List UInt8) (listUser : List User) (name pwdHash : List UInt8) :
    Option User × LoginResult :=
  loginHash listUser (strHash name) pwdHash

end User

end Tritonn

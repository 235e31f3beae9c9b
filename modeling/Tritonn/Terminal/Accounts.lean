import Tritonn.Event.Describe
import Tritonn.Json.Commands
import Tritonn.Terminal.Authorised
import Tritonn.Terminal.Login

/-!
The accounts: the users that `main` adds, those that `rDataConfig::LoadUsers` of
`src/tritonn/data_config.cpp` adds from a configuration, and where they can log in.

* `UserXml` is the element of a user, `UserXml.load` what the loop makes of it, and `loadUsers` the
  loop with the users it leaves when it fails;
* `builtIn` are the users of `main`, and `Accounts` the lists that loading makes from them: a
  configured user has neither the access of the super-user nor that of an administrator;
* `Servers` are the terminal server and the JSON server with the list of users they share, and
  `Servers.Inv` what every event of either keeps;
* `run_accounts` says for every run who is served: a terminal only for a user of `main`, whatever
  was loaded, and a session of the JSON server only for the first of them or a configured user.
-/

namespace Tritonn

/-! ### Loading the users -/

/-- The elements of `<comms>`, with their texts. -/
structure CommsXml where
  login : Option (Option (List UInt8))
  password : Option (Option (List UInt8))

/-- The elements of `<rights>`, with their texts. -/
structure RightsXml where
  internal : Option (Option (List UInt8))
  external : Option (Option (List UInt8))

/-- An element `<user>`: its name, and the text of the password and the elements in it, as far as
they are there. -/
structure UserXml where
  name : Option String
  password : Option (Option (List UInt8))
  comms : Option CommsXml
  rights : Option RightsXml

/-- `atoi` of the text of a login. -/
def loginNumber (str : List UInt8) : UInt32 :=
  match str.dropWhile isSpace with
  | 0x2D :: str => -UInt32.ofNat (min (Numeral.value 10 (Numeral.digits decDigit str)) (2 ^ 63))
  | 0x2B :: str => atoi str
  | str => atoi str

/-- The hash that is made of a text, in an array that is cleared. -/
def readHash (text : Option (List UInt8)) : List UInt8 :=
  let buf := List.replicate maxHashSize 0
  text.elim buf fun str => (stringToBuffer str buf).2

/-- The access that is made of a text: what is no hexadecimal number is no access, and that of the
super-user and of an administrator are taken away. -/
def readAccess (text : Option (List UInt8)) : UInt32 :=
  (text.bind isValidHex).getD 0 &&& ~~~(accessSA ||| accessAdmin)

variable (strHash : List UInt8 → List UInt8)

/-- A turn of the loop of `LoadUsers`, with the user that is added; `none` is the error. -/
def UserXml.load (xml : UserXml) : Option User :=
  match xml.name, xml.password, xml.rights, xml.comms with
  | some name, some password, some ⟨some internal, some external⟩, some ⟨some login, some pwd⟩ =>
      if pwd = none ∧ login.elim 0 loginNumber ≠ 0 then none
      else some ⟨strHash name.toUTF8.toList, readHash password, name, readAccess internal,
        readAccess external, 0⟩
  | _, _, _, _ => none

/-- The loop of `LoadUsers`, with what it returns. -/
def loadUserLoop (listUser : List User) : List UserXml → List User × Bool
  | [] => (listUser, true)
  | xml :: xmlUsers =>
      match xml.load strHash with
      | none => (listUser, false)
      | some user => loadUserLoop (User.add listUser user) xmlUsers

/-- `rDataConfig::LoadUsers`. -/
def loadUsers (listUser : List User) (xmlUsers : Option (List UserXml)) : List User × Bool :=
  xmlUsers.elim (listUser, false) (loadUserLoop strHash listUser)

/-! ### The users of the program -/

/-- `ACCESS_MASK_ADMIN`. -/
def accessMaskAdmin : UInt32 := 0xFFFFFFFF &&& ~~~(accessWeb ||| accessSA)

/-- `rUser::Add` of a user with his password. -/
def mainUser (name pwd : String) (access : UInt32) : User :=
  ⟨strHash name.toUTF8.toList, strHash pwd.toUTF8.toList, name, access, access, 0⟩

/-- The first user that `main` adds. -/
def userOne : User := mainUser strHash "1" "1" 0xFFFFFFFF

/-- The second one. -/
def oznadmin : User := mainUser strHash "oznadmin" "1" accessMaskAdmin

/-- The users that `main` adds. -/
def builtIn : List User := User.add (User.add [] (userOne strHash)) (oznadmin strHash)

/-- A user of a configuration: never blocked, and without the access of the super-user and that of
an administrator. -/
structure Configured (user : User) : Prop where
  internal : user.intAccess &&& (accessSA ||| accessAdmin) = 0
  external : user.extAccess &&& (accessSA ||| accessAdmin) = 0
  status : user.status = 0

/-- A list of users that begins with those of `main` and goes on with configured ones. -/
def Accounts (listUser : List User) : Prop :=
  ∃ configured, listUser = builtIn strHash ++ configured ∧ ∀ user ∈ configured, Configured user

variable {strHash}

/-- What is left of an access has nothing of what is taken away. -/
lemma readAccess_and (text : Option (List UInt8)) :
    readAccess text &&& (accessSA ||| accessAdmin) = 0 := by
  rw [readAccess, UInt32.and_assoc, UInt32.and_comm (~~~_), UInt32.and_not_self, UInt32.and_zero]

/-- The user of an element is a configured one. -/
lemma UserXml.load_configured {xml : UserXml} {user : User} (h : xml.load strHash = some user) :
    Configured user := by
  unfold load at h
  split at h
  next =>
    split_ifs at h
    cases h
    exact ⟨readAccess_and _, readAccess_and _, rfl⟩
  next => cases h

lemma Accounts.add {listUser : List User} (h : Accounts strHash listUser) {user : User}
    (huser : Configured user) : Accounts strHash (User.add listUser user) := by
  obtain ⟨configured, rfl, hconfigured⟩ := h
  rw [User.add]
  split_ifs
  · exact ⟨configured, rfl, hconfigured⟩
  · refine ⟨configured ++ [user], List.append_assoc _ _ _, fun u hu => ?_⟩
    rcases List.mem_append.mp hu with hu | hu
    · exact hconfigured u hu
    · rw [List.mem_singleton.mp hu]
      exact huser

/-- Loading adds users, whether it succeeds or not. -/
lemma subset_add (listUser : List User) (user : User) : listUser ⊆ User.add listUser user := by
  rw [User.add]
  split_ifs
  · exact List.Subset.refl _
  · exact List.subset_append_left _ _

lemma loadUserLoop_spec {listUser : List User} (h : Accounts strHash listUser)
    (xmlUsers : List UserXml) :
    Accounts strHash (loadUserLoop strHash listUser xmlUsers).1 ∧
      listUser ⊆ (loadUserLoop strHash listUser xmlUsers).1 := by
  induction xmlUsers generalizing listUser with
  | nil => exact ⟨h, List.Subset.refl _⟩
  | cons xml xmlUsers ih =>
      rw [loadUserLoop]
      cases hload : xml.load strHash with
      | none => exact ⟨h, List.Subset.refl _⟩
      | some user =>
          obtain ⟨haccounts, hsub⟩ := ih (h.add (UserXml.load_configured hload))
          exact ⟨haccounts, List.Subset.trans (subset_add listUser user) hsub⟩

/-- So does loading a configuration. -/
lemma loadUsers_spec {listUser : List User} (h : Accounts strHash listUser)
    (xmlUsers : Option (List UserXml)) :
    Accounts strHash (loadUsers strHash listUser xmlUsers).1 ∧
      listUser ⊆ (loadUsers strHash listUser xmlUsers).1 := by
  cases xmlUsers with
  | none => exact ⟨h, List.Subset.refl _⟩
  | some xmlUsers => exact loadUserLoop_spec h xmlUsers

/-! ### Who is let in -/

/-- The access of the super-user or of an administrator, in one mask. -/
lemma and_mask_ne_zero {access : UInt32}
    (h : access &&& accessSA ≠ 0 ∨ access &&& accessAdmin ≠ 0) :
    access &&& (accessSA ||| accessAdmin) ≠ 0 := by
  intro hzero
  have hpart (mask : UInt32) (hmask : (accessSA ||| accessAdmin) &&& mask = mask) :
      access &&& mask = 0 := by
    rw [← hmask, ← UInt32.and_assoc, hzero, UInt32.zero_and]
  exact h.elim (fun h => h (hpart _ (by decide))) fun h => h (hpart _ (by decide))

/-- The users of `main`. -/
lemma mem_builtIn {user : User} (h : user ∈ builtIn strHash) :
    user = userOne strHash ∨ user = oznadmin strHash := by
  rw [builtIn, User.add] at h
  split_ifs at h
  · exact .inl (List.mem_singleton.mp h)
  · rcases List.mem_append.mp h with h | h
    · exact .inl (List.mem_singleton.mp h)
    · exact .inr (List.mem_singleton.mp h)

lemma Accounts.builtIn_of_access {listUser : List User} (h : Accounts strHash listUser)
    {user : User} (hmem : user ∈ listUser)
    (haccess : user.getAccess false &&& accessSA ≠ 0 ∨ user.getAccess false &&& accessAdmin ≠ 0) :
    user ∈ builtIn strHash := by
  obtain ⟨configured, rfl, hconfigured⟩ := h
  rcases List.mem_append.mp hmem with hmem | hmem
  · exact hmem
  · exact absurd (hconfigured user hmem).internal (and_mask_ne_zero haccess)

/-- Under a name the terminal admits whom it admitted before anything was loaded. -/
lemma Accounts.admits_iff {listUser : List User} (h : Accounts strHash listUser)
    (nameHash : List UInt8) (user : User) :
    (User.findHash listUser nameHash = some user ∧ (user.getAccess false &&& accessSA ≠ 0 ∨
        user.getAccess false &&& accessAdmin ≠ 0)) ↔
      User.findHash (builtIn strHash) nameHash = some user := by
  obtain ⟨configured, rfl, hconfigured⟩ := h
  rw [User.findHash, List.find?_append, ← User.findHash, ← User.findHash]
  cases hfind : User.findHash (builtIn strHash) nameHash with
  | none =>
      simp only [Option.none_or, reduceCtorEq, iff_false, not_and]
      intro hmem haccess
      exact and_mask_ne_zero haccess (hconfigured user (List.mem_of_find?_eq_some hmem)).internal
  | some u =>
      rw [Option.some_or, and_iff_left_iff_imp]
      rintro ⟨rfl⟩
      rcases mem_builtIn (List.mem_of_find?_eq_some hfind) with rfl | rfl
      · have hmask : (0xFFFFFFFF : UInt32) &&& accessSA ≠ 0 := by decide
        exact .inl hmask
      · have hmask : accessMaskAdmin &&& accessAdmin ≠ 0 := by decide
        exact .inr hmask

/-- The terminal admits the same users without the configurations. -/
lemma Accounts.workAdmits_iff {w : Work} (h : Accounts strHash w.world.listUser)
    (name : List UInt8) (user : User) :
    w.Admits name user ↔
      ({ w with world := { w.world with listUser := builtIn strHash } } : Work).Admits name
        user := by
  have hstart : Accounts strHash (builtIn strHash) :=
    ⟨[], (List.append_nil _).symm, fun _ hu => absurd hu List.not_mem_nil⟩
  rw [Work.Admits, Work.Admits, and_left_comm, h.admits_iff, and_left_comm, hstart.admits_iff]

/-! ### The account of the terminal server -/

/-- Every user who logged in is in the list. -/
def KnownLogins (w : World) : Prop :=
  ∀ id user result, (id, Deed.login (some user) result) ∈ w.account → user ∈ w.listUser

namespace Work

variable {id : ℕ} {w : Work}

/-- A deed that is no login, or the one of a user in the list. -/
lemma note_known (h : KnownLogins w.world) (u : Option User) {deed : Deed}
    (hdeed : ∀ user result, deed = .login (some user) result → user ∈ w.world.listUser) :
    KnownLogins (({ w with user := u } : Work).note id deed).world := by
  intro i user result hmem
  rcases List.mem_append.mp hmem with hmem | hmem
  · exact h i user result hmem
  · cases List.mem_singleton.mp hmem
    exact hdeed user result rfl

/-- A user whom `rUser::LoginHash` lets in is in the list. -/
lemma mem_of_loginHash {listUser : List User} {nameHash pwdHash : List UInt8} {user : User}
    {result : LoginResult} (h : User.loginHash listUser nameHash pwdHash = (some user, result)) :
    user ∈ listUser :=
  List.mem_of_find?_eq_some (loginHash_eq_some.mp (congrArg Prod.fst h)).1

lemma packetLogin_known (ext : Messages) (h : KnownLogins w.world) (data : List UInt8) :
    KnownLogins (w.packetLogin ext id data).1.world := by
  rw [packetLogin]
  by_cases hsome : w.user.isSome
  · rw [if_pos hsome]
    exact h
  rw [if_neg hsome]
  cases ext.deserializeLogin data with
  | none => exact h
  | some msg =>
      dsimp only
      generalize hanswer : User.loginHash w.world.listUser _ _ = answer
      obtain ⟨user, result⟩ := answer
      have hlogin : KnownLogins (({ w with user } : Work).note id (.login user result)).world :=
        note_known h user fun v r hv => by
          cases hv
          exact mem_of_loginHash hanswer
      cases user with
      | none => exact hlogin
      | some user =>
          dsimp only
          split_ifs
          · exact hlogin
          · exact note_known (note_known hlogin _ (by simp)) _ (by simp)
          · exact hlogin

lemma packetData_known (ext : Messages) (h : KnownLogins w.world) (data : List UInt8) :
    KnownLogins (w.packetData ext id data).1.world := by
  rw [packetData]
  cases hu : w.user with
  | none => exact h
  | some user =>
      cases ext.deserializeData data with
      | none => exact h
      | some msg =>
          have hwrite : KnownLogins (w.writePart ext id (user.getAccess false) msg).1.world := by
            rw [writePart]
            split_ifs
            · exact note_known (w := { w with world := { w.world with store := _ } }) h w.user
                (by simp)
            · exact h
          have hread : KnownLogins ((w.writePart ext id (user.getAccess false) msg).1.readPart ext
              id (user.getAccess false) msg).1.world := by
            rw [readPart]
            split_ifs
            · exact note_known hwrite _ (by simp)
            · exact hwrite
          exact note_known hread _ (by simp)

/-- A packet of a client keeps it. -/
lemma packet_known (ext : Messages) (magic : Magic) (h : KnownLogins w.world) (m : UInt32)
    (data : List UInt8) : KnownLogins (w.packet ext id magic m data).1.world := by
  rw [packet]
  split_ifs
  · exact packetLogin_known ext h data
  · exact packetData_known ext h data
  · exact h

end Work

namespace TermManager

variable {ext : Messages} {magic : Magic}

/-- A cycle of the server keeps it. -/
lemma cycle_known {s : TermManager} (hinv : Inv s) (h : KnownLogins s.shared) (a : Option Accept)
    (ready : ℕ → Ready) : KnownLogins (cycle ext magic s a ready).shared := by
  have hkeeps : TcpClass.Keeps (clientRecv ext magic) (fun _ => KnownLogins)
      (fun _ _ _ => True) := by
    refine ⟨fun n i k w chunk _ hw _ => ?_, fun _ _ _ _ _ _ _ _ _ => trivial,
      fun _ _ _ _ _ _ _ _ _ _ _ _ => trivial, fun _ _ hw => hw⟩
    exact (Terminal.loop_inv (I := fun v : Work => KnownLogins v.world)
      (J := fun v : Work => KnownLogins v.world) (fun _ hv => hv)
      (fun v m data hv => ⟨Work.packet_known ext magic hv m data,
        fun _ => Work.packet_known ext magic hv m data⟩)
      ⟨k.packet.append chunk, ⟨k.user, w⟩, []⟩ hw).1
  have hkept : TcpClass.Kept (fun _ => KnownLogins) (fun _ _ _ => True) s :=
    ⟨h, fun _ _ => trivial, hinv.lt, hinv.nodup⟩
  exact (hkept.proccesing hkeeps (fun _ _ _ => trivial) maxClient a ready).shared

/-- An event that adds no user keeps it, and the list of users. -/
lemma step_known {s : TermManager} (hinv : Inv s) (h : KnownLogins s.shared) {e : Event}
    (he : ∀ user, e ≠ .addUser user) :
    KnownLogins (step ext magic s e).shared ∧
      (step ext magic s e).shared.listUser = s.shared.listUser := by
  cases e with
  | cycle a ready =>
      obtain ⟨-, -, -, hlist, -⟩ := (@cycle_inv ext magic s hinv a ready).2
      exact ⟨cycle_known hinv h a ready, hlist⟩
  | others store => exact ⟨h, rfl⟩
  | addUser user => exact absurd rfl (he user)
  | destroy => exact ⟨h, rfl⟩

/-- More users keep the invariant of the server. -/
lemma Inv.setUsers {s : TermManager} (h : Inv s) (listUser : List User) :
    Inv { s with shared := { s.shared with listUser } } :=
  ⟨⟨h.shared.authorised, h.shared.lt, Extends.refl _ _⟩,
    fun c hc => ⟨(h.client c hc).granted, (h.client c hc).unrefused⟩, h.lt, h.nodup⟩

end TermManager

/-! ### The sessions of the JSON server -/

namespace JsonManager

variable {env : JsonEnv}

/-- An event that adds no user keeps the list of users. -/
lemma step_listUser (m : JsonManager) {e : Event} (he : ∀ user, e ≠ .addUser user) :
    (step env m e).listUser = m.listUser := by
  cases e with
  | login seed time pwd juser jpwd =>
      rw [step]
      unfold packetLogin
      split
      next user password =>
        split
        next => rfl
        next => split_ifs <;> rfl
      next => rfl
  | logout jtoken => cases jtoken <;> rfl
  | check time jtoken =>
      cases jtoken with
      | none => rfl
      | some token =>
          rw [step, packetCheck]
          cases m.getActivity token <;> rfl
  | dataSet jtoken jids jlocal =>
      rw [step]
      unfold packetDataSet
      split
      next ids token => cases m.getActivity token <;> rfl
      next => rfl
  | restart time jtoken jrestart jlocal jconf =>
      rw [step]
      unfold packetRestart
      split
      next token restart islocal =>
        dsimp only
        by_cases hlive : m.live ≠ .rebootCold
        · rw [if_pos hlive]
          cases m.getActivity token with
          | none => rfl
          | some act =>
              dsimp only
              split_ifs <;> rfl
        · rw [if_neg hlive]
          split_ifs <;> rfl
      next => rfl
  | cleanup curtime => rfl
  | others store live => rfl
  | addUser user => exact absurd rfl (he user)

/-- Every session is the one of a user in the list who has access from the web. -/
def KnownSessions (m : JsonManager) : Prop :=
  ∀ a ∈ m.activity, a.user ∈ m.listUser ∧ a.user.getAccess false &&& accessWeb ≠ 0

lemma step_sessions {m : JsonManager} (h : m.KnownSessions) {e : Event}
    (he : ∀ user, e ≠ .addUser user) : (step env m e).KnownSessions := by
  intro a ha
  rw [step_listUser m he]
  rcases JsonServer.mem_step_activity env ha with
    ⟨b, hb, -, huser⟩ | ⟨seed, time, pwd, juser, jpwd, -, hlogin, hweb, -⟩
  · rw [← huser]
    exact h b hb
  · exact ⟨List.mem_of_find?_eq_some (loginHash_eq_some.mp hlogin).1, hweb⟩

end JsonManager

/-! ### Both servers -/

/-- The terminal server and the JSON server. -/
structure Servers where
  term : TermManager
  json : JsonManager

namespace Servers

/-- What can happen: something at one of the servers that adds no user, or a configuration that is
loaded, which adds users at both, since they share the list. -/
inductive Event where
  | term (e : { e : TermManager.Event // ∀ user, e ≠ .addUser user })
  | json (e : { e : JsonManager.Event // ∀ user, e ≠ .addUser user })
  | loadUsers (xmlUsers : Option (List UserXml))

variable (env : JsonEnv) (ext : Messages) (magic : Magic)

/-- One event. -/
def step (s : Servers) : Event → Servers
  | .term e => { s with term := s.term.step ext magic e }
  | .json e => { s with json := s.json.step env e }
  | .loadUsers xmlUsers =>
      { term := { s.term with shared := { s.term.shared with
          listUser := (Tritonn.loadUsers env.strHash s.term.shared.listUser xmlUsers).1 } }
        json := { s.json with
          listUser := (Tritonn.loadUsers env.strHash s.json.listUser xmlUsers).1 } }

/-- The events of a run. -/
def run (s : Servers) (l : List Event) : Servers := l.foldl (step env ext magic) s

/-- The servers after `main` has added its users. -/
def start (store : VarStore) (live : Live) : Servers :=
  ⟨.start (builtIn env.strHash) store, .start (builtIn env.strHash) store live⟩

/-- What every event keeps. -/
structure Inv (s : Servers) : Prop where
  term : s.term.Inv
  logins : KnownLogins s.term.shared
  sessions : s.json.KnownSessions
  shared : s.json.listUser = s.term.shared.listUser
  accounts : Accounts env.strHash s.term.shared.listUser

variable {env ext magic}

lemma step_inv {s : Servers} (h : s.Inv env) (e : Event) : (s.step env ext magic e).Inv env := by
  cases e with
  | term e =>
      obtain ⟨hlogins, hlist⟩ := @TermManager.step_known ext magic _ h.term h.logins _ e.2
      exact ⟨TermManager.step_inv h.term e, hlogins, h.sessions, h.shared.trans hlist.symm,
        hlist ▸ h.accounts⟩
  | json e =>
      exact ⟨h.term, h.logins, JsonManager.step_sessions h.sessions e.2,
        (JsonManager.step_listUser s.json e.2).trans h.shared, h.accounts⟩
  | loadUsers xmlUsers =>
      obtain ⟨haccounts, hsub⟩ := loadUsers_spec h.accounts xmlUsers
      refine ⟨h.term.setUsers _, fun id user result hmem => hsub (h.logins id user result hmem),
        fun a ha => ⟨?_, (h.sessions a ha).2⟩, ?_, haccounts⟩
      · rw [step, h.shared]
        exact hsub (h.shared ▸ (h.sessions a ha).1)
      · simp only [step, h.shared]

lemma run_inv {s : Servers} (h : s.Inv env) (l : List Event) : (s.run env ext magic l).Inv env := by
  induction l generalizing s with
  | nil => exact h
  | cons e l ih => exact ih (step_inv h e)

lemma start_inv (store : VarStore) (live : Live) : (start env store live).Inv env :=
  ⟨TermManager.start_inv _ _, fun _ _ _ hmem => (by cases hmem), fun _ ha => (by cases ha), rfl,
    [], (List.append_nil _).symm, fun _ hu => (by cases hu)⟩

/-- For every run of the two servers, with any configurations that are loaded meanwhile, correct or
not: a login at the terminal is granted to a user of `main` only, and to whom it would be granted if
nothing was loaded; every read and every write of variables from a terminal has the access of one of
these; and a session of the JSON server is the one of the first user of `main` or of a configured
user with access from the web, who has neither the access of the super-user nor that of an
administrator. -/
theorem run_accounts (env : JsonEnv) (ext : Messages) (magic : Magic) (store : VarStore)
    (live : Live) (l : List Event) :
    let s := run env ext magic (start env store live) l
    (∀ id user result, (id, Deed.login (some user) result) ∈ s.term.shared.account →
      Granted user result → user = userOne env.strHash ∨ user = oznadmin env.strHash) ∧
    (∀ id data user, Work.Accepts ext id ⟨none, s.term.shared⟩ data user ↔
      Work.Accepts ext id ⟨none, { s.term.shared with listUser := builtIn env.strHash }⟩ data
        user) ∧
    (∀ id ss, (id, Deed.write ss) ∈ s.term.shared.account ∨
        (id, Deed.read ss) ∈ s.term.shared.account →
      ss.access = 0xFFFFFFFF ∨ ss.access = accessMaskAdmin) ∧
    ∀ a ∈ s.json.activity, a.user = userOne env.strHash ∨
      (Configured a.user ∧ a.user.intAccess &&& accessWeb ≠ 0) := by
  intro s
  have h : s.Inv env := run_inv (start_inv store live) l
  have hgranted : ∀ id user result, (id, Deed.login (some user) result) ∈ s.term.shared.account →
      Granted user result → user = userOne env.strHash ∨ user = oznadmin env.strHash :=
    fun id user result hmem hgrant =>
      mem_builtIn (h.accounts.builtIn_of_access (h.logins id user result hmem) hgrant.2)
  have huse : ∀ id deed, (id, deed) ∈ s.term.shared.account → deed.UsesVars →
      ∃ user, (user = userOne env.strHash ∨ user = oznadmin env.strHash) ∧
        deed.With (user.getAccess false) := by
    intro id deed hmem huses
    obtain ⟨pre, post, hsplit⟩ := List.append_of_mem hmem
    obtain ⟨user, ⟨result, hlogin, hgrant⟩, hwith⟩ :=
      h.term.shared.authorised.granted pre id deed post hsplit huses
    have hlogin' : (id, Deed.login (some user) result) ∈ s.term.shared.account := by
      rw [hsplit]
      exact List.mem_append_left _ hlogin
    exact ⟨user, hgranted id user result hlogin' hgrant, hwith⟩
  refine ⟨hgranted, fun id data user => ?_, ?_, fun a ha => ?_⟩
  · have hadmits := fun name : List UInt8 =>
      Accounts.workAdmits_iff (w := ⟨none, s.term.shared⟩) h.accounts name user
    rw [Work.accepts_iff, Work.accepts_iff]
    simp only [hadmits]
  · rintro id ss (hmem | hmem)
    · obtain ⟨user, rfl | rfl, hwith⟩ := huse id _ hmem trivial
      · exact .inl hwith
      · exact .inr hwith
    · obtain ⟨user, rfl | rfl, hwith⟩ := huse id _ hmem trivial
      · exact .inl hwith
      · exact .inr hwith
  · obtain ⟨hmem, hweb⟩ := h.sessions a ha
    obtain ⟨configured, hlist, hconfigured⟩ := h.accounts
    rw [h.shared, hlist] at hmem
    rcases List.mem_append.mp hmem with hmem | hmem
    · refine (mem_builtIn hmem).imp_right fun hozn => absurd ?_ hweb
      have hmask : accessMaskAdmin &&& accessWeb = 0 := by decide
      rw [hozn]
      exact hmask
    · exact .inr ⟨hconfigured _ hmem, hweb⟩

end Servers

end Tritonn

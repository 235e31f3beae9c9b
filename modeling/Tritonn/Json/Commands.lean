import Tritonn.Data.ManagerDump
import Tritonn.Json.Tokens
import Tritonn.Lib.Keyed

/-!
The commands of the JSON server that change the system: who may give them.

* `JsonServer` is the manager of the sessions with the answers about dumps that went to the data
  manager, and `packetLoadDump` the request that gives one;
* `Changes` says that a command changes the variables, asks for a restart or answers about a dump;
* `Authorised` says of a command at the end of a history that it does so only with the token of a
  live session that a login of the history has opened, within the access of its user;
* `authorised_step_iff` says when a command is, and `commands_iff` for which runs all of them are:
  those in which nobody answers about a dump without a token;
* `commands_fails` is such an answer, by a client who never logged in.
-/

namespace Tritonn

/-- `rJSONManager`, with the calls of `forceLoadDumpTotals` and `forceLoadDumpVars`. -/
structure JsonServer where
  json : JsonManager
  loads : List (DumpKind × Bool)

/-- What is answered to `i.loaddump`. -/
inductive LoadDumpReply where
  | badparam
  | notloaddump
  | success
  deriving DecidableEq, Repr

/-- What can happen to the server: an event of the sessions, or an `i.loaddump` with the fields
`token` and `load`, of which the code takes only the second. -/
inductive JsonCommand where
  | json (e : JsonManager.Event)
  | loadDump (jtoken jload : Option Int32)

namespace JsonServer

variable (env : JsonEnv)

/-- `packetLoadDump`. -/
def packetLoadDump (s : JsonServer) (jload : Option Int32) : JsonServer × LoadDumpReply :=
  match jload with
  | none => (s, .badparam)
  | some load =>
      if s.json.live = .dumpTotals then
        ({ s with loads := s.loads ++ [(.totals, load != 0)] }, .success)
      else if s.json.live = .dumpVars then
        ({ s with loads := s.loads ++ [(.vars, load != 0)] }, .success)
      else (s, .notloaddump)

@[simp] lemma packetLoadDump_json (s : JsonServer) (jload : Option Int32) :
    (s.packetLoadDump jload).1.json = s.json := by
  cases jload with
  | none => rfl
  | some load =>
      simp only [packetLoadDump]
      split_ifs <;> rfl

/-- One command. -/
def step (s : JsonServer) : JsonCommand → JsonServer
  | .json e => { s with json := s.json.step env e }
  | .loadDump _ jload => (s.packetLoadDump jload).1

/-- A server on which no session was opened and no dump answered about. -/
def start (listUser : List User) (store : VarStore) (live : Live) : JsonServer :=
  ⟨.start listUser store live, []⟩

/-! ### The sessions of a history -/

/-- The history has a login that let the user of the session in and answered its token. -/
def OpenedIn (s₀ : JsonServer) (history : List JsonCommand) (a : Activity) : Prop :=
  ∃ pre seed time pwd juser jpwd,
    pre ++ [.json (.login seed time pwd (some juser) (some jpwd))] <+: history ∧
      ((pre.foldl (step env) s₀).json.loginUser env pwd juser jpwd).1 = some a.user ∧
      a.user.getAccess false &&& accessWeb ≠ 0 ∧ a.token = env.rand seed

/-- The session to which the server counts a request with the token. -/
def SessionOf (s : JsonServer) (jtoken : Option Int32) (a : Activity) : Prop :=
  ∃ token, jtoken = some token ∧ s.json.getActivity token = some a

variable {env}

lemma SessionOf.mem {s : JsonServer} {jtoken : Option Int32} {a : Activity}
    (h : s.SessionOf jtoken a) : a ∈ s.json.activity ∧ jtoken = some a.token := by
  obtain ⟨token, rfl, ha⟩ := h
  rw [JsonManager.getActivity] at ha
  obtain ⟨hmem, htoken⟩ := Keyed.eq_of_find ha
  exact ⟨hmem, by rw [htoken]⟩

/-- A session that has been used has its token and its user. -/
lemma mem_updateIdle {m : JsonManager} {token : Int32} {time : UInt32} {a : Activity}
    (h : a ∈ (m.updateIdle token time).activity) :
    ∃ b ∈ m.activity, b.token = a.token ∧ b.user = a.user := by
  have hgo : ∀ l : List Activity, a ∈ JsonManager.updateIdle.go token time l →
      ∃ b ∈ l, b.token = a.token ∧ b.user = a.user := by
    intro l
    induction l with
    | nil => exact fun h => absurd h List.not_mem_nil
    | cons c l ih =>
        intro h
        rw [JsonManager.updateIdle.go] at h
        split_ifs at h
        · rcases List.mem_cons.mp h with rfl | h
          · exact ⟨c, List.mem_cons_self, rfl, rfl⟩
          · exact ⟨a, List.mem_cons_of_mem c h, rfl, rfl⟩
        · rcases List.mem_cons.mp h with rfl | h
          · exact ⟨a, List.mem_cons_self, rfl, rfl⟩
          · obtain ⟨b, hb, heq⟩ := ih h
            exact ⟨b, List.mem_cons_of_mem c hb, heq⟩
  exact hgo m.activity h

lemma packetDataSet_activity (m : JsonManager) (jtoken : Option Int32)
    (jids : Option (List (String × List UInt8))) (jlocal : Option Int32) :
    (m.packetDataSet env jtoken jids jlocal).1.activity = m.activity := by
  unfold JsonManager.packetDataSet
  split
  next ids token => cases m.getActivity token <;> rfl
  next => rfl

/-- What a request for a restart does: it uses a session at most, and asks for a restart only in the
cold restart or for a user who may. -/
lemma packetRestart_cases (m : JsonManager) (time : UInt32) (jtoken jrestart jlocal : Option Int32)
    (jconf : Option (List UInt8)) :
    (m.packetRestart time jtoken jrestart jlocal jconf).1.store = m.store ∧
      ((m.packetRestart time jtoken jrestart jlocal jconf).1.activity = m.activity ∨
        ∃ token, (m.packetRestart time jtoken jrestart jlocal jconf).1.activity
          = (m.updateIdle token time).activity) ∧
      ((m.packetRestart time jtoken jrestart jlocal jconf).1.restarts = m.restarts ∨
        m.live = .rebootCold ∨ ∃ token isLocal act, jtoken = some token ∧ jlocal = some isLocal ∧
          m.getActivity token = some act ∧
          act.user.getAccess (isLocal ≠ 0) &&& accessReboot ≠ 0) := by
  unfold JsonManager.packetRestart
  split
  next token restart isLocal =>
    by_cases hlive : m.live ≠ .rebootCold
    · simp only [if_pos hlive]
      cases hget : m.getActivity token with
      | none => exact ⟨rfl, .inl rfl, .inl rfl⟩
      | some act =>
          dsimp only
          by_cases hreboot : act.user.getAccess (isLocal ≠ 0) &&& accessReboot = 0
          · rw [if_pos hreboot]
            exact ⟨rfl, .inr ⟨token, rfl⟩, .inl rfl⟩
          · rw [if_neg hreboot]
            have hsome : ∃ t l a, some token = some t ∧ some isLocal = some l ∧
                m.getActivity t = some a ∧ a.user.getAccess (l ≠ 0) &&& accessReboot ≠ 0 :=
              ⟨token, isLocal, act, rfl, rfl, hget, hreboot⟩
            split_ifs
            · exact ⟨rfl, .inr ⟨token, rfl⟩, .inl rfl⟩
            · exact ⟨rfl, .inr ⟨token, rfl⟩, .inr (.inr hsome)⟩
    · simp only [if_neg hlive]
      have hcold : m.live = .rebootCold := not_not.mp hlive
      split_ifs
      · exact ⟨rfl, .inl rfl, .inl rfl⟩
      · exact ⟨rfl, .inl rfl, .inr (.inl hcold)⟩
  next => exact ⟨rfl, .inl rfl, .inl rfl⟩

/-- A login opens a session for the user it lets in, and leaves the others. -/
lemma mem_packetLogin {m : JsonManager} {seed time : UInt32} {pwd : List UInt8}
    {juser jpwd : Option (List UInt8)} {a : Activity}
    (h : a ∈ (m.packetLogin env seed time pwd juser jpwd).1.activity) :
    a ∈ m.activity ∨ ∃ user password, juser = some user ∧ jpwd = some password ∧
      (m.loginUser env pwd user password).1 = some a.user ∧
      a.user.getAccess false &&& accessWeb ≠ 0 ∧ a.token = env.rand seed := by
  cases juser with
  | none => cases jpwd <;> exact .inl h
  | some juser =>
      cases jpwd with
      | none => exact .inl h
      | some jpwd =>
          simp only [JsonManager.packetLogin] at h
          cases hlogin : m.loginUser env pwd juser jpwd with
          | mk user result =>
              rw [hlogin] at h
              cases user with
              | none => exact .inl h
              | some user =>
                  by_cases hweb : user.getAccess false &&& accessWeb = 0
                  · simp only [if_pos hweb] at h
                    exact .inl h
                  · simp only [if_neg hweb] at h
                    rcases List.mem_append.mp h with h | h
                    · exact .inl h
                    · obtain rfl := List.mem_singleton.mp h
                      exact .inr ⟨juser, jpwd, rfl, rfl, by rw [hlogin], hweb, rfl⟩

variable (env) in
/-- A live session was so before the event, or the event is the login that opens it. -/
lemma mem_step_activity {m : JsonManager} {e : JsonManager.Event} {a : Activity}
    (h : a ∈ (m.step env e).activity) :
    (∃ b ∈ m.activity, b.token = a.token ∧ b.user = a.user) ∨
      ∃ seed time pwd juser jpwd, e = .login seed time pwd (some juser) (some jpwd) ∧
        (m.loginUser env pwd juser jpwd).1 = some a.user ∧
        a.user.getAccess false &&& accessWeb ≠ 0 ∧ a.token = env.rand seed := by
  have hold : a ∈ m.activity → ∃ b ∈ m.activity, b.token = a.token ∧ b.user = a.user :=
    fun h => ⟨a, h, rfl, rfl⟩
  cases e with
  | login seed time pwd juser jpwd =>
      rcases mem_packetLogin h with h | ⟨user, password, rfl, rfl, hlogin⟩
      · exact .inl (hold h)
      · exact .inr ⟨seed, time, pwd, user, password, rfl, hlogin⟩
  | logout jtoken =>
      cases jtoken with
      | none => exact .inl (hold h)
      | some token => exact .inl (hold (List.mem_of_mem_eraseP h))
  | check time jtoken =>
      cases jtoken with
      | none => exact .inl (hold h)
      | some token =>
          simp only [JsonManager.step, JsonManager.packetCheck] at h
          cases hget : m.getActivity token <;> rw [hget] at h
          · exact .inl (hold h)
          · exact .inl (mem_updateIdle h)
  | dataSet jtoken jids jlocal =>
      rw [JsonManager.step, packetDataSet_activity] at h
      exact .inl (hold h)
  | restart time jtoken jrestart jlocal jconf =>
      obtain ⟨-, hact | ⟨token, hact⟩, -⟩ :=
        packetRestart_cases m time jtoken jrestart jlocal jconf
      · exact .inl (hold (hact ▸ h))
      · exact .inl (mem_updateIdle (hact ▸ h))
  | cleanup curtime =>
      exact .inl (hold (List.mem_of_mem_filter (List.mem_of_mem_drop h)))
  | others store live => exact .inl (hold h)
  | addUser user => exact .inl (hold h)

/-- Every live session was opened by a login of the history. -/
lemma openedIn_of_mem {s₀ : JsonServer} (h₀ : s₀.json.activity = []) (history : List JsonCommand) :
    ∀ a ∈ (history.foldl (step env) s₀).json.activity, OpenedIn env s₀ history a := by
  induction history using List.reverseRecOn with
  | nil =>
      intro a ha
      rw [List.foldl_nil, h₀] at ha
      exact absurd ha List.not_mem_nil
  | append_singleton history c ih =>
      intro a ha
      rw [List.foldl_append] at ha
      have hkeep : ∀ b ∈ (history.foldl (step env) s₀).json.activity,
          b.token = a.token ∧ b.user = a.user → OpenedIn env s₀ (history ++ [c]) a := by
        rintro b hb ⟨htoken, huser⟩
        obtain ⟨pre, seed, time, pwd, juser, jpwd, hpre, hlogin⟩ := ih b hb
        rw [htoken, huser] at hlogin
        exact ⟨pre, seed, time, pwd, juser, jpwd, hpre.trans (List.prefix_append _ _), hlogin⟩
      cases c with
      | json e =>
          rcases mem_step_activity env ha with
            ⟨b, hb, heq⟩ | ⟨seed, time, pwd, juser, jpwd, rfl, hlogin⟩
          · exact hkeep b hb heq
          · exact ⟨history, seed, time, pwd, juser, jpwd, List.prefix_rfl, hlogin⟩
      | loadDump jtoken jload =>
          rw [List.foldl_cons, List.foldl_nil, step, packetLoadDump_json] at ha
          exact hkeep a ha ⟨rfl, rfl⟩

/-! ### What the commands change -/

/-- A request of a client: no change of the variables or the status by another thread. -/
def IsRequest : JsonCommand → Prop
  | .json (.others _ _) => False
  | _ => True

variable (env) in
lemma packetLogin_frame (m : JsonManager) (seed time : UInt32) (pwd : List UInt8)
    (juser jpwd : Option (List UInt8)) :
    (m.packetLogin env seed time pwd juser jpwd).1.store = m.store ∧
      (m.packetLogin env seed time pwd juser jpwd).1.restarts = m.restarts := by
  unfold JsonManager.packetLogin
  split
  next user password =>
    split
    next => exact ⟨rfl, rfl⟩
    next => split_ifs <;> exact ⟨rfl, rfl⟩
  next => exact ⟨rfl, rfl⟩

lemma packetCheck_frame (m : JsonManager) (time : UInt32) (jtoken : Option Int32) :
    (m.packetCheck time jtoken).1.store = m.store ∧
      (m.packetCheck time jtoken).1.restarts = m.restarts := by
  cases jtoken with
  | none => exact ⟨rfl, rfl⟩
  | some token =>
      rw [JsonManager.packetCheck]
      cases m.getActivity token <;> exact ⟨rfl, rfl⟩

/-- Besides the changes from outside, only a `data.set` with the token of a live session changes the
variables. -/
lemma store_of_step {m : JsonManager} {e : JsonManager.Event}
    (h : (m.step env e).store ≠ m.store) :
    (∃ store live, e = .others store live) ∨ ∃ token ids jlocal act,
      e = .dataSet (some token) (some ids) jlocal ∧ m.getActivity token = some act ∧
        m.step env e = (m.setFor env act.user ids jlocal).1 := by
  cases e with
  | login seed time pwd juser jpwd =>
      exact absurd (packetLogin_frame env m seed time pwd juser jpwd).1 h
  | logout jtoken => cases jtoken <;> exact absurd rfl h
  | check time jtoken =>
      exact absurd (packetCheck_frame m time jtoken).1 h
  | dataSet jtoken jids jlocal =>
      cases jids with
      | none => exact absurd rfl h
      | some ids =>
          cases jtoken with
          | none => exact absurd rfl h
          | some token =>
              cases hget : m.getActivity token with
              | none =>
                  refine absurd ?_ h
                  simp only [JsonManager.step, JsonManager.packetDataSet, hget]
              | some act =>
                  refine .inr ⟨token, ids, jlocal, act, rfl, hget, ?_⟩
                  simp only [JsonManager.step, JsonManager.packetDataSet, hget]
  | restart time jtoken jrestart jlocal jconf =>
      exact absurd (packetRestart_cases m time jtoken jrestart jlocal jconf).1 h
  | cleanup curtime => exact absurd rfl h
  | others store live => exact .inl ⟨store, live, rfl⟩
  | addUser user => exact absurd rfl h

/-- Only an `i.restart` asks for a restart. -/
lemma restarts_of_step {m : JsonManager} {e : JsonManager.Event}
    (h : (m.step env e).restarts ≠ m.restarts) :
    ∃ time jtoken jrestart jlocal jconf, e = .restart time jtoken jrestart jlocal jconf := by
  cases e with
  | login seed time pwd juser jpwd =>
      exact absurd (packetLogin_frame env m seed time pwd juser jpwd).2 h
  | logout jtoken => cases jtoken <;> exact absurd rfl h
  | check time jtoken =>
      exact absurd (packetCheck_frame m time jtoken).2 h
  | dataSet jtoken jids jlocal =>
      refine absurd ?_ h
      rw [JsonManager.step]
      unfold JsonManager.packetDataSet
      split
      next ids token => cases m.getActivity token <;> rfl
      next => rfl
  | restart time jtoken jrestart jlocal jconf => exact ⟨time, jtoken, jrestart, jlocal, jconf, rfl⟩
  | cleanup curtime => exact absurd rfl h
  | others store live => exact absurd rfl h
  | addUser user => exact absurd rfl h

/-! ### Who gives the commands -/

variable (env) in
/-- A command at the end of a history writes a variable, asks for a restart or answers about a dump
only with the token of a session, which a login of the history has opened and which is alive: the
variables are written within the access of its user, and out of the cold restart its user may
reboot. -/
structure Authorised (s₀ : JsonServer) (history : List JsonCommand) (c : JsonCommand) : Prop where
  writes : let s := history.foldl (step env) s₀
    (s.step env c).json.store ≠ s.json.store →
      ∃ jtoken jids jlocal a, c = .json (.dataSet jtoken jids jlocal) ∧ s.SessionOf jtoken a ∧
        OpenedIn env s₀ history a ∧
        ∃ items, (s.step env c).json.store.toStore
          = (s.json.store.toStore.set ⟨items, a.user.getAccess (JsonManager.isLocal jlocal)⟩).1
  reboots : let s := history.foldl (step env) s₀
    (s.step env c).json.restarts ≠ s.json.restarts → s.json.live ≠ .rebootCold →
      ∃ time jtoken jrestart isLocal jconf a,
        c = .json (.restart time jtoken jrestart (some isLocal) jconf) ∧ s.SessionOf jtoken a ∧
        OpenedIn env s₀ history a ∧ a.user.getAccess (isLocal ≠ 0) &&& accessReboot ≠ 0
  loads : let s := history.foldl (step env) s₀
    (s.step env c).loads ≠ s.loads →
      ∃ jtoken jload a, c = .loadDump jtoken jload ∧ s.SessionOf jtoken a ∧
        OpenedIn env s₀ history a

/-- The command is no answer about a dump for which the manager waits, unless with the token of a
live session. -/
def LoadsByToken (s : JsonServer) : JsonCommand → Prop
  | .loadDump jtoken jload => jload.isSome = true →
      s.json.live = .dumpTotals ∨ s.json.live = .dumpVars → ∃ a, s.SessionOf jtoken a
  | _ => True

/-- A change of the variables is a `data.set` of a live session. -/
lemma writes_of_step {s : JsonServer} {c : JsonCommand} (hc : IsRequest c)
    (h : (s.step env c).json.store ≠ s.json.store) :
    ∃ jtoken jids jlocal a, c = .json (.dataSet jtoken jids jlocal) ∧ s.SessionOf jtoken a ∧
      ∃ items, (s.step env c).json.store.toStore
        = (s.json.store.toStore.set ⟨items, a.user.getAccess (JsonManager.isLocal jlocal)⟩).1 := by
  cases c with
  | json e =>
      rcases store_of_step h with
        ⟨store, live, rfl⟩ | ⟨token, ids, jlocal, act, rfl, hget, hstep⟩
      · exact hc.elim
      · refine ⟨some token, some ids, jlocal, act, rfl, ⟨token, rfl, hget⟩,
          ids.map fun item =>
            SnapshotItem.ofString env.text env.raw (s.json.store.findVar item.1) item.2, ?_⟩
        rw [step, hstep, JsonManager.setFor]
  | loadDump jtoken jload =>
      exact absurd (congrArg JsonManager.store (s.packetLoadDump_json jload)) h

/-- A restart that is asked for out of the cold restart is one of a live session whose user may
reboot. -/
lemma reboots_of_step {s : JsonServer} {c : JsonCommand}
    (h : (s.step env c).json.restarts ≠ s.json.restarts) (hlive : s.json.live ≠ .rebootCold) :
    ∃ time jtoken jrestart isLocal jconf a,
      c = .json (.restart time jtoken jrestart (some isLocal) jconf) ∧ s.SessionOf jtoken a ∧
      a.user.getAccess (isLocal ≠ 0) &&& accessReboot ≠ 0 := by
  cases c with
  | json e =>
      obtain ⟨time, jtoken, jrestart, jlocal, jconf, rfl⟩ := restarts_of_step h
      obtain ⟨-, -, hsame | hcold | ⟨token, isLocal, act, rfl, rfl, hget, hreboot⟩⟩ :=
        packetRestart_cases s.json time jtoken jrestart jlocal jconf
      · exact absurd hsame h
      · exact absurd hcold hlive
      · exact ⟨time, _, jrestart, isLocal, jconf, act, rfl, ⟨token, rfl, hget⟩, hreboot⟩
  | loadDump jtoken jload =>
      exact absurd (congrArg JsonManager.restarts (s.packetLoadDump_json jload)) h

/-- A dump is answered about when the manager waits for it, whatever the token. -/
lemma loads_iff {s : JsonServer} {jtoken jload : Option Int32} :
    (s.step env (.loadDump jtoken jload)).loads ≠ s.loads ↔
      jload.isSome = true ∧ (s.json.live = .dumpTotals ∨ s.json.live = .dumpVars) := by
  cases jload with
  | none => simp [step, packetLoadDump]
  | some load =>
      by_cases htotals : s.json.live = .dumpTotals
      · simp [step, packetLoadDump, htotals]
      · by_cases hvars : s.json.live = .dumpVars <;>
          simp [step, packetLoadDump, htotals, hvars]

/-- A request changes nothing without a right to if and only if it does not answer about a dump
without a token. -/
lemma authorised_step_iff {s₀ : JsonServer} (h₀ : s₀.json.activity = [])
    (history : List JsonCommand) {c : JsonCommand} (hc : IsRequest c) :
    Authorised env s₀ history c ↔ (history.foldl (step env) s₀).LoadsByToken c := by
  have hopened : ∀ a ∈ (history.foldl (step env) s₀).json.activity, OpenedIn env s₀ history a :=
    openedIn_of_mem h₀ history
  constructor
  · intro h
    cases c with
    | json e => trivial
    | loadDump jtoken jload =>
        intro hsome hlive
        obtain ⟨_, _, a, hload, ha, -⟩ := h.loads (loads_iff.mpr ⟨hsome, hlive⟩)
        obtain ⟨rfl, rfl⟩ := JsonCommand.loadDump.inj hload
        exact ⟨a, ha⟩
  · intro h
    refine ⟨fun hne => ?_, fun hne hlive => ?_, fun hne => ?_⟩
    · obtain ⟨jtoken, jids, jlocal, a, hcmd, ha, hset⟩ := writes_of_step hc hne
      exact ⟨jtoken, jids, jlocal, a, hcmd, ha, hopened a ha.mem.1, hset⟩
    · obtain ⟨time, jtoken, jrestart, isLocal, jconf, a, hcmd, ha, hreboot⟩ :=
        reboots_of_step hne hlive
      exact ⟨time, jtoken, jrestart, isLocal, jconf, a, hcmd, ha, hopened a ha.mem.1, hreboot⟩
    · cases c with
      | json e => exact absurd rfl hne
      | loadDump jtoken jload =>
          obtain ⟨hsome, hlive⟩ := loads_iff.mp hne
          obtain ⟨a, ha⟩ := h hsome hlive
          exact ⟨jtoken, jload, a, rfl, ha, hopened a ha.mem.1⟩

variable (env) in
/-- Every request of a run is authorised if and only if none answers about a dump, while the manager
waits for it, without the token of a live session. -/
theorem commands_iff (listUser : List User) (store : VarStore) (live : Live)
    (l : List JsonCommand) :
    (∀ pre c, pre ++ [c] <+: l → IsRequest c → Authorised env (start listUser store live) pre c) ↔
      Run.Along (step env) LoadsByToken (start listUser store live) l := by
  rw [Run.along_iff_forall_prefix]
  refine forall₃_congr fun pre c _ => ?_
  by_cases hc : IsRequest c
  · exact (forall_prop_of_true hc).trans (authorised_step_iff rfl pre hc)
  · refine iff_of_true (fun h => absurd h hc) ?_
    cases c with
    | json e => trivial
    | loadDump jtoken jload => exact absurd trivial hc

/-- A client who never logged in accepts the totals of the dump. -/
theorem commands_fails :
    ¬ ∀ pre c, pre ++ [c] <+: [JsonCommand.loadDump none (some 1)] → IsRequest c →
      Authorised JsonManager.seeded
        (start [] ⟨⟨[], fun _ => [], fun _ => [], fun _ => false, false⟩, fun _ => []⟩ .dumpTotals)
        pre c := by
  intro h
  have hauth := h [] (.loadDump none (some 1)) List.prefix_rfl trivial
  obtain ⟨_, _, a, hload, ⟨token, htoken, -⟩, -⟩ :=
    hauth.loads (loads_iff.mpr ⟨rfl, .inl rfl⟩)
  obtain ⟨rfl, -⟩ := JsonCommand.loadDump.inj hload
  cases htoken

end JsonServer

end Tritonn

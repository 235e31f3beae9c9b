import Tritonn.Json.Manager
import Tritonn.Lib.Keyed
import Tritonn.Lib.Run

/-!
The tokens of the JSON server: whether a token identifies the session it was given to.

* `Identified` says that the server finds every live session by its token, and `Identified.served`
  that the requests with the token are then carried out for the user of the session;
* `opened` is the token of the session that an event opens, and `step_keys` what an event does to
  the sessions: it opens one, or drops some;
* `identified_iff` says that all sessions of a run are identified if and only if no login draws
  the token of a session that is alive.
-/

namespace Tritonn

/-- The number and the token of a session. -/
def Activity.key (a : Activity) : ℕ × Int32 := (a.login, a.token)

namespace JsonManager

variable {env : JsonEnv}

/-- Every live session is the one that the server finds by its token. -/
def Identified (s : JsonManager) : Prop := ∀ a ∈ s.activity, s.getActivity a.token = some a

/-- The requests with the token of a session are carried out for its user, with his access, and a
logout closes this session. -/
structure Served (env : JsonEnv) (s : JsonManager) (a : Activity) : Prop where
  dataSet : ∀ ids jlocal,
    s.packetDataSet env (some a.token) (some ids) jlocal = s.setFor env a.user ids jlocal
  check : ∀ time,
    (s.packetCheck time (some a.token)).2 = .user a.user.name (a.user.getAccess false)
  restart : ∀ time restart (jlocal : Int32) jconf, s.live ≠ .rebootCold →
    a.user.getAccess (jlocal ≠ 0) &&& accessReboot = 0 →
    (s.packetRestart time (some a.token) (some restart) (some jlocal) jconf).2
      = .error .accessdenied
  logout : (s.packetLogout (some a.token)).1.activity = s.activity.erase a

/-- The first element that a search finds is the first that is erased. -/
lemma eraseP_of_find? {α : Type*} [DecidableEq α] {p : α → Bool} {l : List α} {a : α}
    (h : l.find? p = some a) : l.eraseP p = l.erase a := by
  obtain ⟨hp, as, bs, rfl, has⟩ := List.find?_eq_some_iff_append.mp h
  have hnot : ∀ b ∈ as, ¬ p b = true := fun b hb => by simpa using has b hb
  have hmem : a ∉ as := fun ha => hnot a ha hp
  rw [List.eraseP_append_right _ hnot, List.erase_append_right _ hmem, List.eraseP_cons_of_pos hp,
    List.erase_cons_head]

/-- The token that identifies a session has the requests served for it. -/
theorem Identified.served {s : JsonManager} (h : s.Identified) {a : Activity}
    (ha : a ∈ s.activity) : Served env s a := by
  have hfind := h a ha
  refine ⟨fun ids jlocal => ?_, fun time => ?_, fun time restart jlocal jconf hlive hacc => ?_, ?_⟩
  · simp only [packetDataSet, hfind]
  · simp only [packetCheck, hfind]
  · simp only [packetRestart, if_pos hlive, hfind, if_pos hacc]
  · exact eraseP_of_find? hfind

/-! ### What an event does to the sessions -/

/-- The numbers and the tokens of the live sessions. -/
def keys (s : JsonManager) : List (ℕ × Int32) := s.activity.map Activity.key

variable (env) in
/-- The token of the session that an event opens: that of a login whose user is let in and has
access from the web. -/
def opened (s : JsonManager) : Event → Option Int32
  | .login seed _ pwd (some juser) (some jpwd) =>
      match (s.loginUser env pwd juser jpwd).1 with
      | none => none
      | some user => if user.getAccess false &&& accessWeb = 0 then none else some (env.rand seed)
  | _ => none

lemma updateIdle_keys (s : JsonManager) (token : Int32) (time : UInt32) :
    (s.updateIdle token time).keys = s.keys := by
  have h : ∀ l : List Activity,
      (updateIdle.go token time l).map Activity.key = l.map Activity.key := by
    intro l
    induction l with
    | nil => rfl
    | cons a l ih =>
        rw [updateIdle.go]
        split_ifs
        · rfl
        · rw [List.map_cons, List.map_cons, ih]
  exact h s.activity

variable (env) in
/-- A login opens the session whose token it answers. -/
lemma packetLogin_keys (s : JsonManager) (seed time : UInt32) (pwd : List UInt8)
    (juser jpwd : Option (List UInt8)) :
    match opened env s (.login seed time pwd juser jpwd) with
    | none => (s.packetLogin env seed time pwd juser jpwd).1 = s
    | some token =>
        (∃ access result,
          (s.packetLogin env seed time pwd juser jpwd).2 = .login token access result) ∧
        (s.packetLogin env seed time pwd juser jpwd).1.keys = s.keys ++ [(s.count, token)] ∧
        (s.packetLogin env seed time pwd juser jpwd).1.count = s.count + 1 := by
  cases juser with
  | none => cases jpwd <;> rfl
  | some juser =>
      cases jpwd with
      | none => rfl
      | some jpwd =>
          simp only [opened, packetLogin]
          obtain ⟨user, result⟩ := s.loginUser env pwd juser jpwd
          cases user with
          | none => rfl
          | some user =>
              by_cases hweb : user.getAccess false &&& accessWeb = 0
              · simp only [if_pos hweb]
              · simp only [if_neg hweb]
                exact ⟨⟨_, _, rfl⟩, by simp [keys, Activity.key], trivial⟩

/-- The sessions of `s'` are some of those of `s`. -/
def Subsessions (s' s : JsonManager) : Prop := s'.keys.Sublist s.keys ∧ s'.count = s.count

lemma Subsessions.refl (s : JsonManager) : s.Subsessions s := ⟨List.Sublist.refl _, rfl⟩

lemma updateIdle_subsessions (s : JsonManager) (token : Int32) (time : UInt32) :
    (s.updateIdle token time).Subsessions s := ⟨by rw [updateIdle_keys], rfl⟩

lemma packetLogout_subsessions (s : JsonManager) (jtoken : Option Int32) :
    (s.packetLogout jtoken).1.Subsessions s := by
  cases jtoken with
  | none => exact .refl s
  | some token => exact ⟨List.eraseP_sublist.map _, rfl⟩

lemma packetCheck_subsessions (s : JsonManager) (time : UInt32) (jtoken : Option Int32) :
    (s.packetCheck time jtoken).1.Subsessions s := by
  cases jtoken with
  | none => exact .refl s
  | some token =>
      rw [packetCheck]
      cases s.getActivity token with
      | none => exact .refl s
      | some act => exact s.updateIdle_subsessions token time

lemma packetDataSet_subsessions (s : JsonManager) (jtoken : Option Int32)
    (jids : Option (List (String × List UInt8))) (jlocal : Option Int32) :
    (s.packetDataSet env jtoken jids jlocal).1.Subsessions s := by
  unfold packetDataSet
  split
  next ids token =>
    cases s.getActivity token with
    | none => exact .refl s
    | some act => exact .refl s
  next => exact .refl s

lemma packetRestart_subsessions (s : JsonManager) (time : UInt32)
    (jtoken jrestart jlocal : Option Int32) (jconf : Option (List UInt8)) :
    (s.packetRestart time jtoken jrestart jlocal jconf).1.Subsessions s := by
  unfold packetRestart
  split
  next token restart jlocal =>
    have hidle := s.updateIdle_subsessions token time
    by_cases hlive : s.live ≠ .rebootCold
    · simp only [if_pos hlive]
      cases s.getActivity token with
      | none => exact .refl s
      | some act =>
          dsimp only
          split_ifs <;> exact hidle
    · simp only [if_neg hlive]
      split_ifs <;> exact .refl s
  next => exact .refl s

variable (env) in
/-- An event opens a session, whose number and token are put behind those of the others, or leaves
some of the sessions. -/
lemma step_keys (s : JsonManager) (e : Event) :
    match opened env s e with
    | none => (step env s e).Subsessions s
    | some token =>
        (step env s e).keys = s.keys ++ [(s.count, token)] ∧
          (step env s e).count = s.count + 1 := by
  cases e with
  | login seed time pwd juser jpwd =>
      have h := packetLogin_keys env s seed time pwd juser jpwd
      rw [step]
      cases hopen : opened env s (.login seed time pwd juser jpwd) with
      | none =>
          simp only [hopen] at h ⊢
          rw [h]
          exact .refl s
      | some token =>
          simp only [hopen] at h ⊢
          exact h.2
  | logout jtoken => exact s.packetLogout_subsessions jtoken
  | check time jtoken => exact s.packetCheck_subsessions time jtoken
  | dataSet jtoken jids jlocal => exact s.packetDataSet_subsessions jtoken jids jlocal
  | restart time jtoken jrestart jlocal jconf =>
      exact s.packetRestart_subsessions time jtoken jrestart jlocal jconf
  | cleanup curtime =>
      exact ⟨((List.drop_sublist _ _).trans List.filter_sublist).map _, rfl⟩
  | others store live => exact .refl s
  | addUser user => exact .refl s

/-! ### The tokens of a run -/

/-- The numbers of the sessions differ, and their tokens do. -/
structure Inv (s : JsonManager) : Prop where
  lt : ∀ k ∈ s.keys, k.1 < s.count
  logins : (s.keys.map Prod.fst).Nodup
  tokens : (s.keys.map Prod.snd).Nodup

/-- The sessions are identified if and only if their tokens differ. -/
lemma identified_iff_nodup {s : JsonManager} (h : (s.keys.map Prod.fst).Nodup) :
    s.Identified ↔ (s.keys.map Prod.snd).Nodup := by
  have hnodup : s.activity.Nodup := by
    rw [keys, List.map_map] at h
    exact h.of_map _
  have hmap : s.keys.map Prod.snd = s.activity.map Activity.token := by
    rw [keys, List.map_map]
    rfl
  rw [hmap]
  constructor
  · intro hid
    rw [List.nodup_map_iff_inj_on hnodup]
    intro a ha b hb hab
    have := hid a ha
    rw [hab, hid b hb] at this
    exact (Option.some.inj this).symm
  · intro hkeys a ha
    exact Keyed.find_of_mem hkeys ha

variable (env) in
/-- An event does not open a session with the token of a session that is alive. -/
def Fresh (s : JsonManager) (e : Event) : Prop :=
  ∀ token ∈ opened env s e, ∀ a ∈ s.activity, a.token ≠ token

/-- The tokens after an event that opens a session differ if and only if the event is fresh. -/
lemma fresh_iff {s : JsonManager} (h : s.Inv) {e : Event} {token : Int32}
    (hopen : opened env s e = some token)
    (hkeys : (step env s e).keys = s.keys ++ [(s.count, token)]) :
    ((step env s e).keys.map Prod.snd).Nodup ↔ Fresh env s e := by
  have hmem : ∀ t, t ∈ s.keys.map Prod.snd ↔ ∃ a ∈ s.activity, a.token = t := by
    intro t
    rw [keys, List.map_map, List.mem_map]
    rfl
  rw [hkeys, List.map_append, List.map_singleton, List.nodup_append, Fresh, hopen]
  constructor
  · rintro ⟨-, -, hne⟩ t ht a ha
    cases ht
    exact hne a.token ((hmem _).mpr ⟨a, ha, rfl⟩) token (by simp)
  · intro hne
    refine ⟨h.tokens, List.nodup_singleton _, fun t ht t' ht' => ?_⟩
    obtain ⟨a, ha, rfl⟩ := (hmem t).mp ht
    rw [List.mem_singleton.mp ht']
    exact hne token rfl a ha

/-- The numbers of the sessions after an event differ. -/
lemma step_logins {s : JsonManager} (h : s.Inv) (e : Event) :
    (∀ k ∈ (step env s e).keys, k.1 < (step env s e).count) ∧
      ((step env s e).keys.map Prod.fst).Nodup := by
  have hstep := step_keys env s e
  cases hopen : opened env s e with
  | none =>
      simp only [hopen] at hstep
      obtain ⟨hsub, hcount⟩ := hstep
      exact ⟨fun k hk => hcount ▸ h.lt k (hsub.subset hk), h.logins.sublist (hsub.map _)⟩
  | some token =>
      simp only [hopen] at hstep
      obtain ⟨hkeys, hcount⟩ := hstep
      rw [hkeys, hcount, List.map_append, List.map_singleton, List.nodup_append]
      refine ⟨fun k hk => ?_, h.logins, List.nodup_singleton _, fun i hi j hj => ?_⟩
      · rcases List.mem_append.mp hk with hk | hk
        · exact Nat.lt_succ_of_lt (h.lt k hk)
        · rw [List.mem_singleton.mp hk]
          exact Nat.lt_succ_self _
      · obtain ⟨k, hk, rfl⟩ := List.mem_map.mp hi
        rw [List.mem_singleton.mp hj]
        exact (h.lt k hk).ne

/-- An event keeps the sessions identified if and only if it is fresh. -/
lemma step_identified_iff {s : JsonManager} (h : s.Inv) (e : Event) :
    (step env s e).Identified ↔ Fresh env s e := by
  have hstep := step_keys env s e
  rw [identified_iff_nodup (step_logins h e).2]
  cases hopen : opened env s e with
  | none =>
      simp only [hopen] at hstep
      refine iff_of_true (h.tokens.sublist (hstep.1.map _)) fun token htoken => ?_
      rw [hopen] at htoken
      cases htoken
  | some token =>
      simp only [hopen] at hstep
      exact fresh_iff h hopen hstep.1

/-- An event that keeps the sessions identified keeps the invariant. -/
lemma step_inv {s : JsonManager} (h : s.Inv) (e : Event) (hid : (step env s e).Identified) :
    (step env s e).Inv :=
  ⟨(step_logins h e).1, (step_logins h e).2, (identified_iff_nodup (step_logins h e).2).mp hid⟩

/-- A server on which no session was opened. -/
def start (listUser : List User) (store : VarStore) (live : Live) : JsonManager :=
  ⟨[], 0, listUser, store, live, []⟩

lemma start_inv (listUser : List User) (store : VarStore) (live : Live) :
    (start listUser store live).Inv :=
  ⟨fun _ hk => (by cases hk), List.nodup_nil, List.nodup_nil⟩

/-- In every state of a run, the server finds every live session by its token, if and only if no
login of the run draws the token of a session that is alive then. -/
theorem identified_iff (env : JsonEnv) (listUser : List User) (store : VarStore) (live : Live)
    (l : List Event) :
    (∀ pre, pre <+: l → (run env (start listUser store live) pre).Identified) ↔
      ∀ pre e, pre ++ [e] <+: l → Fresh env (run env (start listUser store live) pre) e := by
  have hstart := start_inv listUser store live
  simp only [run]
  rw [Run.forall_prefix_iff, ← Run.along_iff_forall_prefix,
    Run.along_congr Inv (A := fun _ _ => True) (fun s e hs _ => step_identified_iff hs e)
      (fun s e hs _ hid => step_inv hs e hid) hstart (Run.along_of_forall fun _ _ => trivial)]
  exact and_iff_right fun a ha => (by cases ha)

/-! ### Two logins in one second -/

/-- Libraries whose `rand` gives the seed. -/
def seeded : JsonEnv where
  rand := fun seed => seed.toInt32
  strHash := fun name => name
  text := ⟨fun _ => none, fun _ => none, fun _ => none, fun _ => none, fun _ => [], fun _ _ => ""⟩
  raw := ⟨none, .undef, []⟩

/-- A user with one byte for his name, the password of twenty zeros and an access. -/
def webUser (name : UInt8) (access : UInt32) : User :=
  ⟨[name], List.replicate maxHashSize 0, "", access, access, 0⟩

/-- The login of such a user, at a time. -/
def webLogin (time : UInt32) (name : UInt8) : Event :=
  .login time time (List.replicate maxHashSize 0) (some [name]) (some (List.replicate 40 0x30))

/-- An administrator and an operator log in within one second, and both get the same token: the
server takes the operator for the administrator. -/
theorem identified_fails :
    ¬ ∀ pre, pre <+: [webLogin 100 1, webLogin 100 2] →
      (run seeded (start [webUser 1 0x60000000, webUser 2 0x20000000]
        ⟨⟨[], fun _ => [], fun _ => [], fun _ => false, false⟩, fun _ => []⟩ .running)
          pre).Identified := by
  intro h
  have hid := h _ List.prefix_rfl ⟨1, 100, 100, 100, webUser 2 0x20000000⟩ (by decide +kernel)
  have hfirst : (some (⟨0, 100, 100, 100, webUser 1 0x60000000⟩ : Activity))
      = some ⟨1, 100, 100, 100, webUser 2 0x20000000⟩ := by
    rw [← hid]
    decide +kernel
  cases hfirst

end JsonManager

end Tritonn

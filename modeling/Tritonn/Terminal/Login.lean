import Tritonn.Json.Manager
import Tritonn.Terminal.Manager

/-!
The hash of the password in a login, at the JSON server and at the terminal server.

* `FullHash` says that a text gives all the bytes of a hash, and `PartHash` that it gives the first
  of them and the memory of the buffer held the others; `cmpHash_decoded` says that the comparison
  behind the decoder holds in these two cases;
* `JsonManager.Accepts` and `Work.Accepts` are the acceptance of a request as a user, at the two
  servers;
* `login_iff` says for every request that a user is accepted by the full hash only, if and only if
  the named user may log in and his hash is not given in part;
* `login_fails` are a login without a password and one with a digit too few.
-/

namespace Tritonn

/-! ### The comparison -/

/-- The text gives all the bytes of the hash; what follows is not read. -/
def FullHash (hash str : List UInt8) : Prop :=
  2 * maxHashSize ≤ (hexDigits str).length ∧
    hash.take maxHashSize = pairBytes ((hexDigits str).take (2 * maxHashSize))

/-- The text gives only the first bytes of the hash, an odd last digit as the high half of one, and
the others are what the memory held. -/
def PartHash (mem : Fin maxHashSize → UInt8) (hash str : List UInt8) : Prop :=
  (hexDigits str).length < 2 * maxHashSize ∧
    hash.take maxHashSize =
      pairBytes (hexDigits str) ++ (List.ofFn mem).drop (((hexDigits str).length + 1) / 2)

/-- What the decoder leaves in the buffer. -/
lemma decoded_eq (mem : Fin maxHashSize → UInt8) (str : List UInt8) :
    (stringToBuffer str (List.ofFn mem)).2 =
      pairBytes ((hexDigits str).take (2 * maxHashSize)) ++
        (List.ofFn mem).drop (pairBytes ((hexDigits str).take (2 * maxHashSize))).length := by
  have hlen : (List.ofFn mem).length = maxHashSize := List.length_ofFn
  rw [stringToBuffer_snd (by rw [hlen]; decide) (by rw [hlen]; decide), hlen]

lemma length_decoded (mem : Fin maxHashSize → UInt8) (str : List UInt8) :
    (stringToBuffer str (List.ofFn mem)).2.length = maxHashSize := by
  rw [decoded_eq, List.length_append, List.length_drop, List.length_ofFn, length_pairBytes,
    List.length_take]
  omega

/-- The hash equals what the decoder leaves when the text gives all of it, or the first bytes and
the memory held the others. -/
theorem cmpHash_decoded (mem : Fin maxHashSize → UInt8) (hash str : List UInt8) :
    cmpHash hash (stringToBuffer str (List.ofFn mem)).2 = true ↔
      FullHash hash str ∨ PartHash mem hash str := by
  rw [cmpHash, decide_eq_true_iff,
    List.take_of_length_le (l := (stringToBuffer str (List.ofFn mem)).2)
      (length_decoded mem str).le, decoded_eq, FullHash, PartHash]
  rcases Nat.lt_or_ge (hexDigits str).length (2 * maxHashSize) with h | h
  · rw [List.take_of_length_le h.le, length_pairBytes]
    simp [h, Nat.not_le.mpr h]
  · have hfull : (pairBytes ((hexDigits str).take (2 * maxHashSize))).length = maxHashSize := by
      rw [length_pairBytes, List.length_take]
      omega
    rw [hfull, List.drop_of_length_le (by rw [List.length_ofFn]), List.append_nil]
    simp [h, Nat.not_lt.mpr h]

/-- The text that gives all of a hash does not give it in part. -/
lemma FullHash.not_partHash {mem : Fin maxHashSize → UInt8} {hash str : List UInt8}
    (h : FullHash hash str) : ¬ PartHash mem hash str := fun h' => Nat.not_le.mpr h'.1 h.1

/-! ### The acceptance -/

/-- A user is let in when he is found, not blocked, and the hashes are equal. -/
lemma loginHash_eq_some {listUser : List User} {nameHash pwdHash : List UInt8} {u : User} :
    (User.loginHash listUser nameHash pwdHash).1 = some u ↔
      User.findHash listUser nameHash = some u ∧ u.isBlocked = false ∧
        cmpHash u.pwd pwdHash = true := by
  rw [User.loginHash]
  cases User.findHash listUser nameHash with
  | none => simp
  | some v =>
      dsimp only
      by_cases hb : v.isBlocked = true
      · rw [if_pos hb]
        simp only [Option.some_inj, reduceCtorEq, false_iff, not_and]
        rintro rfl h
        simp [hb] at h
      · rw [if_neg hb]
        cases hc : cmpHash v.pwd pwdHash with
        | false =>
            simp only [Bool.not_false, if_true, Option.some_inj, reduceCtorEq, false_iff, not_and]
            rintro rfl -
            simp [hc]
        | true =>
            simp only [Bool.not_true, Bool.false_eq_true, if_false, Option.some_inj]
            constructor
            · rintro rfl
              exact ⟨rfl, by simpa using hb, hc⟩
            · exact And.left

/-- A user who is let in may have to change the password. -/
lemma loginHash_result {listUser : List User} {nameHash pwdHash : List UInt8} {u : User}
    {result : LoginResult} (h : User.loginHash listUser nameHash pwdHash = (some u, result)) :
    result = .success ∨ result = .changepwd := by
  rw [User.loginHash] at h
  cases hfind : User.findHash listUser nameHash with
  | none => simp [hfind] at h
  | some v =>
      simp only [hfind] at h
      split_ifs at h <;> simp only [Prod.mk.injEq, reduceCtorEq, false_and] at h
      · exact .inr h.2.symm
      · exact .inl h.2.symm

/-- `Packet_Login` opens a session for the user, with the memory of its buffer. -/
def JsonManager.Accepts (env : JsonEnv) (s : JsonManager) (seed time : UInt32)
    (mem : Fin maxHashSize → UInt8) (juser jpwd : Option (List UInt8)) (u : User) : Prop :=
  ∃ act access result,
    (s.packetLogin env seed time (List.ofFn mem) juser jpwd).1.activity = s.activity ++ [act] ∧
      act.user = u ∧
      (s.packetLogin env seed time (List.ofFn mem) juser jpwd).2 = .login act.token access result

/-- `rTermManager::packetLogin` keeps the connection open for the user. -/
def Work.Accepts (ext : Messages) (id : ℕ) (w : Work) (data : List UInt8) (u : User) : Prop :=
  (w.packetLogin ext id data).2 = true ∧ (w.packetLogin ext id data).1.user = some u

/-- The user may log in to the JSON server under the name. -/
def JsonManager.Admits (env : JsonEnv) (s : JsonManager) (name : List UInt8) (u : User) : Prop :=
  User.findHash s.listUser (env.strHash name) = some u ∧ u.isBlocked = false ∧
    u.getAccess false &&& accessWeb ≠ 0

/-- The user may log in to the terminal server under the hash of a name. -/
def Work.Admits (w : Work) (name : List UInt8) (u : User) : Prop :=
  User.findHash w.world.listUser (stringToBuffer name (List.replicate maxHashSize 0)).2 = some u ∧
    u.isBlocked = false ∧
    (u.getAccess false &&& accessSA ≠ 0 ∨ u.getAccess false &&& accessAdmin ≠ 0)

/-- The JSON server accepts a user whom it admits by the full hash or by a part of it. -/
theorem JsonManager.accepts_iff {env : JsonEnv} {s : JsonManager} {seed time : UInt32}
    {mem : Fin maxHashSize → UInt8} {juser jpwd : Option (List UInt8)} {u : User} :
    s.Accepts env seed time mem juser jpwd u ↔
      ∃ name str, juser = some name ∧ jpwd = some str ∧ s.Admits env name u ∧
        (FullHash u.pwd str ∨ PartHash mem u.pwd str) := by
  rw [Accepts]
  cases juser with
  | none => cases jpwd <;> simp [packetLogin]
  | some name =>
      cases jpwd with
      | none => simp [packetLogin]
      | some str =>
          have hlogin : (s.loginUser env (List.ofFn mem) name str).1 = some u ↔
              User.findHash s.listUser (env.strHash name) = some u ∧ u.isBlocked = false ∧
                (FullHash u.pwd str ∨ PartHash mem u.pwd str) := by
            rw [← cmpHash_decoded]
            exact loginHash_eq_some
          simp only [packetLogin, Admits, Option.some_inj, exists_eq_left', exists_and_left]
          cases huser : s.loginUser env (List.ofFn mem) name str with
          | mk user result =>
              rw [huser] at hlogin
              cases user with
              | none =>
                  simp only [List.self_eq_append_right, List.cons_ne_self, false_and, exists_false,
                    false_iff]
                  exact fun h => nomatch hlogin.mpr ⟨h.1.1, h.1.2.1, h.2⟩
              | some v =>
                  dsimp only at hlogin ⊢
                  by_cases hweb : v.getAccess false &&& accessWeb = 0
                  · rw [if_pos hweb]
                    simp only [List.self_eq_append_right, List.cons_ne_self, false_and,
                      exists_false, false_iff]
                    rintro ⟨⟨hfind, hblocked, haccess⟩, hhash⟩
                    cases hlogin.mpr ⟨hfind, hblocked, hhash⟩
                    exact haccess hweb
                  · rw [if_neg hweb]
                    constructor
                    · rintro ⟨act, hact, rfl, -⟩
                      obtain ⟨rfl⟩ := List.append_cancel_left hact
                      obtain ⟨hfind, hblocked, hhash⟩ := hlogin.mp rfl
                      exact ⟨⟨hfind, hblocked, hweb⟩, hhash⟩
                    · rintro ⟨⟨hfind, hblocked, -⟩, hhash⟩
                      cases hlogin.mpr ⟨hfind, hblocked, hhash⟩
                      exact ⟨_, rfl, rfl, _, _, rfl⟩

/-- So does the terminal server, for a connection without a user. -/
theorem Work.accepts_iff {ext : Messages} {id : ℕ} {w : Work} {data : List UInt8} {u : User} :
    w.Accepts ext id data u ↔
      w.user = none ∧ ∃ msg, ext.deserializeLogin data = some msg ∧ w.Admits msg.user u ∧
        (FullHash u.pwd msg.pwd ∨ PartHash (fun _ => 0) u.pwd msg.pwd) := by
  unfold Accepts packetLogin
  cases hw : w.user with
  | some v => simp
  | none =>
      simp only [Option.isSome_none, Bool.false_eq_true, if_false, true_and]
      cases ext.deserializeLogin data with
      | none => simp
      | some msg =>
          have hzero : List.replicate maxHashSize (0 : UInt8)
              = List.ofFn fun _ : Fin maxHashSize => 0 := (List.ofFn_const _ _).symm
          have hlogin : (User.loginHash w.world.listUser
                (stringToBuffer msg.user (List.replicate maxHashSize 0)).2
                (stringToBuffer msg.pwd (List.replicate maxHashSize 0)).2).1 = some u ↔
              User.findHash w.world.listUser
                  (stringToBuffer msg.user (List.replicate maxHashSize 0)).2 = some u ∧
                u.isBlocked = false ∧
                (FullHash u.pwd msg.pwd ∨ PartHash (fun _ => 0) u.pwd msg.pwd) := by
            rw [← cmpHash_decoded, hzero]
            exact loginHash_eq_some
          simp only [Option.some_inj, exists_eq_left', Admits]
          cases huser : User.loginHash w.world.listUser
              (stringToBuffer msg.user (List.replicate maxHashSize 0)).2
              (stringToBuffer msg.pwd (List.replicate maxHashSize 0)).2 with
          | mk user result =>
              rw [huser] at hlogin
              cases user with
              | none =>
                  simp only [Bool.false_eq_true, false_and, false_iff]
                  exact fun h => nomatch hlogin.mpr ⟨h.1.1, h.1.2.1, h.2⟩
              | some v =>
                  dsimp only at hlogin ⊢
                  have hresult := loginHash_result huser
                  rw [if_neg (by tauto)]
                  by_cases haccess : v.getAccess false &&& accessSA ≠ 0 ∨
                      v.getAccess false &&& accessAdmin ≠ 0
                  · rw [if_pos haccess]
                    constructor
                    · rintro ⟨-, hu⟩
                      obtain ⟨hfind, hblocked, hhash⟩ := hlogin.mp hu
                      cases Option.some_inj.mp hu
                      exact ⟨⟨hfind, hblocked, haccess⟩, hhash⟩
                    · rintro ⟨⟨hfind, hblocked, -⟩, hhash⟩
                      exact ⟨rfl, hlogin.mpr ⟨hfind, hblocked, hhash⟩⟩
                  · rw [if_neg haccess]
                    simp only [Bool.false_eq_true, false_and, false_iff]
                    rintro ⟨⟨hfind, hblocked, h⟩, hhash⟩
                    cases hlogin.mpr ⟨hfind, hblocked, hhash⟩
                    exact haccess h

/-- For every request to one of the two servers: it is accepted as a user by the full hash only, if
and only if the hash of no user whom the server admits under the name is given in part by the text
and for the rest by the memory of the buffer, which the terminal server clears. -/
theorem login_iff (env : JsonEnv) (s : JsonManager) (seed time : UInt32)
    (mem : Fin maxHashSize → UInt8) (juser jpwd : Option (List UInt8)) (ext : Messages) (id : ℕ)
    (w : Work) (data : List UInt8) :
    ((∀ u, s.Accepts env seed time mem juser jpwd u → ∃ str, jpwd = some str ∧ FullHash u.pwd str) ↔
      ∀ name str u, juser = some name → jpwd = some str → s.Admits env name u →
        ¬ PartHash mem u.pwd str) ∧
    ((∀ u, w.Accepts ext id data u →
        ∃ msg, ext.deserializeLogin data = some msg ∧ FullHash u.pwd msg.pwd) ↔
      ∀ msg u, w.user = none → ext.deserializeLogin data = some msg → w.Admits msg.user u →
        ¬ PartHash (fun _ => 0) u.pwd msg.pwd) := by
  refine ⟨⟨?_, ?_⟩, ⟨?_, ?_⟩⟩
  · intro h name str u hname hstr hadmits hpart
    obtain ⟨str', hstr', hfull⟩ :=
      h u (JsonManager.accepts_iff.mpr ⟨name, str, hname, hstr, hadmits, .inr hpart⟩)
    cases Option.some_inj.mp (hstr.symm.trans hstr')
    exact hfull.not_partHash hpart
  · intro h u haccepts
    obtain ⟨name, str, hname, hstr, hadmits, hhash⟩ := JsonManager.accepts_iff.mp haccepts
    exact ⟨str, hstr, hhash.resolve_right (h name str u hname hstr hadmits)⟩
  · intro h msg u hw hmsg hadmits hpart
    obtain ⟨msg', hmsg', hfull⟩ :=
      h u (Work.accepts_iff.mpr ⟨hw, msg, hmsg, hadmits, .inr hpart⟩)
    cases Option.some_inj.mp (hmsg.symm.trans hmsg')
    exact hfull.not_partHash hpart
  · intro h u haccepts
    obtain ⟨hw, msg, hmsg, hadmits, hhash⟩ := Work.accepts_iff.mp haccepts
    exact ⟨msg, hmsg, hhash.resolve_right (h msg u hw hmsg hadmits)⟩

/-! ### Logins with less than the hash -/

/-- An administrator with access from the web, whose hash ends in a zero digit. -/
def admin : User :=
  ⟨List.replicate 20 0x11, List.replicate 19 0xAB ++ [0xA0], "", accessAdmin ||| accessWeb, 0, 0⟩

/-- Libraries that hash every name to the one of the administrator. -/
def oneName : JsonEnv where
  rand := fun seed => seed.toInt32
  strHash := fun _ => admin.hash
  text := ⟨fun _ => none, fun _ => none, fun _ => none, fun _ => none, fun _ => [], fun _ _ => ""⟩
  raw := ⟨none, .undef, []⟩

/-- A login with the administrator's name and all digits of his hash but the last, which is zero. -/
def shortLogin : LoginMsg :=
  ⟨List.replicate 40 0x31, (List.replicate 19 [0x41, 0x42]).flatten ++ [0x41]⟩

/-- Every message is that login. -/
def shortMessages : Messages where
  deserializeLogin := fun _ => some shortLogin
  deserializeData := fun _ => none
  text := oneName.text
  raw := oneName.raw

/-- A store without variables. -/
def noVars : VarStore := ⟨⟨[], fun _ => [], fun _ => [], fun _ => false, false⟩, fun _ => []⟩

/-- An empty password is accepted when the memory of the buffer holds the hash, and at the terminal
server a digit too few when it is zero. -/
theorem login_fails :
    (JsonManager.Accepts oneName ⟨[], 0, [admin], noVars, .running, []⟩ 0 0 (fun i => admin.pwd[i])
        (some []) (some []) admin ∧ ¬ FullHash admin.pwd []) ∧
      Work.Accepts shortMessages 0 ⟨none, [admin], noVars, []⟩ [] admin ∧
        ¬ FullHash admin.pwd shortLogin.pwd := by
  refine ⟨⟨JsonManager.accepts_iff.mpr
      ⟨[], [], rfl, rfl, ⟨by decide, by decide, by decide⟩, .inr ⟨by decide, by decide⟩⟩,
      fun h => absurd h.1 (by decide)⟩,
    Work.accepts_iff.mpr
      ⟨rfl, shortLogin, rfl, ⟨by decide, by decide, by decide⟩, .inr ⟨by decide, by decide⟩⟩,
    fun h => absurd h.1 (by decide)⟩

end Tritonn

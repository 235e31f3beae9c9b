import Tritonn.Lib.Run
import Tritonn.Terminal.Manager

/-!
Authorisation of the terminal: who works on the variables.

* `Granted` is a login that succeeded for a user with the access of the super-user or of an
  administrator, and `Authorised` what is asked of the account of a server: a connection uses the
  variables only after such a login on the same connection, with the access of that user, and does
  nothing at all after a login that was not granted;
* `Extends` says that a world came from another by what the account has got in addition: the
  variables changed by the writes in it only;
* `Sound` and `Open` are what a handler keeps (`packetLogin_sound`, `packetData_sound`), and the
  loop of `ClientRecv` with it (`loop_inv`);
* `run_authorised` says it for every run of the server.
-/

namespace Tritonn

/-! ### The account -/

/-- The login succeeded, and the user has the access of the super-user or of an administrator. -/
def Granted (user : User) (result : LoginResult) : Prop :=
  (result = .success ∨ result = .changepwd) ∧
    (user.getAccess false &&& accessSA ≠ 0 ∨ user.getAccess false &&& accessAdmin ≠ 0)

namespace Deed

/-- The deed reads or writes variables, or tells a client of them. -/
def UsesVars : Deed → Prop
  | .login _ _ => False
  | .write _ => True
  | .read _ => True
  | .send (.login _ _) => False
  | .send (.data _ written shown _ _ _) => written ≠ [] ∨ shown ≠ []

/-- The deed works on the variables with the access, if it works on them at all. -/
def With (access : UInt32) : Deed → Prop
  | .write s => s.access = access
  | .read s => s.access = access
  | _ => True

end Deed

/-- The user was granted a login on the connection. -/
def Grant (account : List (ℕ × Deed)) (id : ℕ) (user : User) : Prop :=
  ∃ result, (id, .login (some user) result) ∈ account ∧ Granted user result

/-- Every login on the connection was granted. -/
def Unrefused (account : List (ℕ × Deed)) (id : ℕ) : Prop :=
  ∀ user result, (id, Deed.login user result) ∈ account → ∃ u ∈ user, Granted u result

/-- What is asked of the account of a server. -/
structure Authorised (account : List (ℕ × Deed)) : Prop where
  /-- A connection uses the variables after a login on it that was granted, with the access of the
  user. -/
  granted : ∀ pre id deed post, account = pre ++ (id, deed) :: post → deed.UsesVars →
    ∃ user, Grant pre id user ∧ deed.With (user.getAccess false)
  /-- After a login that was not granted, nothing is done on the connection. -/
  refused : ∀ pre id deed post, account = pre ++ (id, deed) :: post → Unrefused pre id

lemma Grant.append {account : List (ℕ × Deed)} {id : ℕ} {user : User} (h : Grant account id user)
    (new : List (ℕ × Deed)) : Grant (account ++ new) id user := by
  obtain ⟨result, hmem, hresult⟩ := h
  exact ⟨result, List.mem_append_left _ hmem, hresult⟩

lemma authorised_nil : Authorised [] :=
  ⟨fun pre _ _ _ h => absurd h (by simp), fun pre _ _ _ h => absurd h (by simp)⟩

/-- One more deed. -/
lemma Authorised.snoc {account : List (ℕ × Deed)} (h : Authorised account) {id : ℕ} {deed : Deed}
    (hgrant : deed.UsesVars → ∃ user, Grant account id user ∧ deed.With (user.getAccess false))
    (hopen : Unrefused account id) : Authorised (account ++ [(id, deed)]) := by
  -- A deed of the longer account is the last one, or is there before.
  have hcases : ∀ pre i d post, account ++ [(id, deed)] = pre ++ (i, d) :: post →
      (pre = account ∧ i = id ∧ d = deed) ∨ ∃ post', account = pre ++ (i, d) :: post' := by
    intro pre i d post hsplit
    rcases List.eq_nil_or_concat post with rfl | ⟨post', e, rfl⟩
    · have := List.append_inj_left' hsplit rfl
      have hlast := List.append_inj_right' hsplit rfl
      simp only [List.cons.injEq, Prod.mk.injEq, and_true] at hlast
      exact .inl ⟨this.symm, hlast.1.symm, hlast.2.symm⟩
    · rw [List.concat_eq_append, ← List.cons_append, ← List.append_assoc] at hsplit
      exact .inr ⟨post', List.append_inj_left' hsplit rfl⟩
  refine ⟨fun pre i d post hsplit hd => ?_, fun pre i d post hsplit => ?_⟩
  · rcases hcases pre i d post hsplit with ⟨rfl, rfl, rfl⟩ | ⟨post', hpost⟩
    · exact hgrant hd
    · exact h.granted pre i d post' hpost hd
  · rcases hcases pre i d post hsplit with ⟨rfl, rfl, rfl⟩ | ⟨post', hpost⟩
    · exact hopen
    · exact h.refused pre i d post' hpost

/-! ### What changes a world -/

/-- The writes of an account, in their order. -/
def replay (account : List (ℕ × Deed)) (st : Store) : Store :=
  account.foldl (fun st e => match e.2 with | .write s => (st.set s).1 | _ => st) st

/-- The world came from another by the deeds that its account has got in addition: they are all of
the kind `A`, and the variables are those that their writes make. -/
def Extends (A : ℕ → Prop) (w₀ w : World) : Prop :=
  ∃ new, w.account = w₀.account ++ new ∧ (∀ e ∈ new, A e.1) ∧ w.listUser = w₀.listUser ∧
    w.store = { w₀.store with toStore := replay new w₀.store.toStore }

lemma Extends.refl (A : ℕ → Prop) (w : World) : Extends A w w :=
  ⟨[], by simp, by simp, rfl, rfl⟩

lemma Extends.trans {A : ℕ → Prop} {w₀ w₁ w₂ : World} (h : Extends A w₀ w₁)
    (h' : Extends A w₁ w₂) : Extends A w₀ w₂ := by
  obtain ⟨new, hacc, hA, huser, hstore⟩ := h
  obtain ⟨new', hacc', hA', huser', hstore'⟩ := h'
  refine ⟨new ++ new', by rw [hacc', hacc, List.append_assoc], fun e he => ?_,
    huser'.trans huser, ?_⟩
  · exact (List.mem_append.mp he).elim (hA e) (hA' e)
  · rw [hstore', hstore, replay, replay, replay, List.foldl_append]

lemma Extends.mono {A B : ℕ → Prop} (hAB : ∀ i, A i → B i) {w₀ w : World}
    (h : Extends A w₀ w) : Extends B w₀ w := by
  obtain ⟨new, hacc, hA, h⟩ := h
  exact ⟨new, hacc, fun e he => hAB _ (hA e he), h⟩

/-- The world after one deed of a connection. -/
structure Does (id : ℕ) (deed : Deed) (w w' : World) : Prop where
  account : w'.account = w.account ++ [(id, deed)]
  listUser : w'.listUser = w.listUser
  store : w'.store = { w.store with toStore := replay [(id, deed)] w.store.toStore }

lemma Does.extends_ {id : ℕ} {deed : Deed} {w w' : World} (h : Does id deed w w') :
    Extends (· = id) w w' :=
  ⟨[(id, deed)], h.account, by simp, h.listUser, h.store⟩

/-! ### The handlers -/

namespace Work

variable {ext : Messages} {id : ℕ}

lemma note_does (w : Work) {deed : Deed} (hdeed : ∀ s, deed ≠ .write s) :
    Does id deed w.world (w.note id deed).world := by
  refine ⟨rfl, rfl, ?_⟩
  cases deed with
  | write s => exact absurd rfl (hdeed s)
  | login user result => rfl
  | read s => rfl
  | send answer => rfl

lemma setVars_does (w : Work) (s : Snapshot) :
    Does id (.write s) w.world (w.setVars id s).1.world := ⟨rfl, rfl, rfl⟩

lemma getVars_does (w : Work) (s : Snapshot) :
    Does id (.read s) w.world (w.getVars id s).1.world := w.note_does (by simp)

/-- What a handler of the connection `id` keeps of the world `w₀`, of `n` connections. -/
structure Sound (n id : ℕ) (w₀ : World) (w : Work) : Prop where
  authorised : Authorised w.world.account
  lt : ∀ e ∈ w.world.account, e.1 < n
  extends_ : Extends (· = id) w₀ w.world

/-- What a handler keeps that does not ask to close the connection: the user of the connection was
granted a login, and no login was refused. -/
structure Open (n id : ℕ) (w₀ : World) (w : Work) : Prop extends Sound n id w₀ w where
  granted : ∀ u ∈ w.user, Grant w.world.account id u
  unrefused : Unrefused w.world.account id

variable {n : ℕ} {w₀ : World} {w w' : Work} {deed : Deed}

/-- A deed on an open connection, which uses the variables with the access of its user. -/
lemma Open.sound (h : Open n id w₀ w) (hid : id < n) (hdoes : Does id deed w.world w'.world)
    (huse : deed.UsesVars → ∃ u ∈ w.user, deed.With (u.getAccess false)) : Sound n id w₀ w' := by
  refine ⟨?_, fun e he => ?_, h.extends_.trans hdoes.extends_⟩
  · rw [hdoes.account]
    refine h.authorised.snoc (fun hd => ?_) h.unrefused
    obtain ⟨u, hu, hwith⟩ := huse hd
    exact ⟨u, h.granted u hu, hwith⟩
  · rw [hdoes.account] at he
    rcases List.mem_append.mp he with he | he
    · exact h.lt e he
    · rw [List.mem_singleton.mp he]
      exact hid

/-- A deed that is no login keeps the connection open. -/
lemma Open.next (h : Open n id w₀ w) (hid : id < n) (hdoes : Does id deed w.world w'.world)
    (huse : deed.UsesVars → ∃ u ∈ w.user, deed.With (u.getAccess false)) (huser : w'.user = w.user)
    (hlogin : ∀ user result, deed ≠ .login user result) : Open n id w₀ w' := by
  refine ⟨h.sound hid hdoes huse, fun u hu => ?_, fun user result hmem => ?_⟩
  · rw [hdoes.account]
    exact (h.granted u (huser ▸ hu)).append _
  · rw [hdoes.account] at hmem
    rcases List.mem_append.mp hmem with hmem | hmem
    · exact h.unrefused user result hmem
    · cases List.mem_singleton.mp hmem
      exact absurd rfl (hlogin user result)

/-- A login that is granted keeps the connection open. -/
lemma Open.login (h : Open n id w₀ w) (hid : id < n) {u : User} {result : LoginResult}
    (hdoes : Does id (.login (some u) result) w.world w'.world) (hu : w'.user = some u)
    (hgranted : Granted u result) : Open n id w₀ w' := by
  refine ⟨h.sound hid hdoes (fun hd => hd.elim), fun v hv => ?_, fun user r hmem => ?_⟩
  · obtain rfl : u = v := Option.some.inj (hu.symm.trans hv)
    exact ⟨result, by rw [hdoes.account]; simp, hgranted⟩
  · rw [hdoes.account] at hmem
    rcases List.mem_append.mp hmem with hmem | hmem
    · exact h.unrefused user r hmem
    · cases List.mem_singleton.mp hmem
      exact ⟨u, rfl, hgranted⟩

/-- An answer that tells of no variables. -/
lemma Open.send (h : Open n id w₀ w) (hid : id < n) (answer : TermAnswer)
    (huse : (Deed.send answer).UsesVars → ∃ u, w.user = some u) :
    Open n id w₀ (w.note id (.send answer)) := by
  refine h.next hid (w.note_does (by simp)) (fun hd => ?_) rfl (by simp)
  obtain ⟨u, hu⟩ := huse hd
  exact ⟨u, hu, trivial⟩

/-- `packetLogin` keeps the connection open if it succeeds. -/
lemma packetLogin_open (h : Open n id w₀ w) (hid : id < n) (data : List UInt8) :
    Sound n id w₀ (w.packetLogin ext id data).1 ∧
      ((w.packetLogin ext id data).2 = true → Open n id w₀ (w.packetLogin ext id data).1) := by
  rw [packetLogin]
  by_cases hsome : w.user.isSome
  · rw [if_pos hsome]
    exact ⟨h.toSound, fun _ => h⟩
  rw [if_neg hsome]
  cases ext.deserializeLogin data with
  | none => exact ⟨h.toSound, fun _ => h⟩
  | some msg =>
      dsimp only
      generalize User.loginHash _ _ _ = answer
      obtain ⟨user, result⟩ := answer
      have hdoes : Does id (.login user result) w.world
          (({ w with user } : Work).note id (.login user result)).world :=
        note_does { w with user } (by simp)
      have hsound : Sound n id w₀ (({ w with user } : Work).note id (.login user result)) :=
        h.sound hid hdoes (fun hd => hd.elim)
      cases user with
      | none => exact ⟨hsound, fun hf => (by cases hf)⟩
      | some user =>
          dsimp only
          by_cases hres : result ≠ .success ∧ result ≠ .changepwd
          · rw [if_pos hres]
            exact ⟨hsound, fun hf => (by cases hf)⟩
          rw [if_neg hres]
          by_cases hacc : user.getAccess false &&& accessSA ≠ 0 ∨
              user.getAccess false &&& accessAdmin ≠ 0
          · rw [if_pos hacc]
            have hgranted : Granted user result := ⟨by tauto, hacc⟩
            have hopen := h.login hid hdoes rfl hgranted
            have hsent := (hopen.send hid (.login result (user.getAccess false))
              (fun hd => hd.elim)).send hid (.data none [] [] true true false)
              (fun hd => by simp [Deed.UsesVars] at hd)
            exact ⟨hsent.toSound, fun _ => hsent⟩
          · rw [if_neg hacc]
            exact ⟨hsound, fun hf => (by cases hf)⟩

variable (ext) in
/-- Writing the variables of a message keeps the connection open. -/
lemma writePart_open (h : Open n id w₀ w) (hid : id < n) {user : User} (hu : w.user = some user)
    (msg : DataMsg) :
    Open n id w₀ (w.writePart ext id (user.getAccess false) msg).1 ∧
      (w.writePart ext id (user.getAccess false) msg).1.user = some user := by
  rw [writePart]
  split_ifs with hwrite
  · exact ⟨h.next hid (setVars_does w _) (fun _ => ⟨user, hu, rfl⟩) rfl (by simp), hu⟩
  · exact ⟨h, hu⟩

variable (ext) in
/-- Reading the variables of a message keeps the connection open. -/
lemma readPart_open (h : Open n id w₀ w) (hid : id < n) {user : User} (hu : w.user = some user)
    (msg : DataMsg) :
    Open n id w₀ (w.readPart ext id (user.getAccess false) msg).1 ∧
      (w.readPart ext id (user.getAccess false) msg).1.user = some user := by
  rw [readPart]
  split_ifs with hread
  · exact ⟨h.next hid (getVars_does w _) (fun _ => ⟨user, hu, rfl⟩) rfl (by simp), hu⟩
  · exact ⟨h, hu⟩

/-- `packetData` keeps the connection open. -/
lemma packetData_open (h : Open n id w₀ w) (hid : id < n) (data : List UInt8) :
    Open n id w₀ (w.packetData ext id data).1 := by
  rw [packetData]
  cases hu : w.user with
  | none => exact h
  | some user =>
      cases ext.deserializeData data with
      | none => exact h
      | some msg =>
          obtain ⟨hwrite, hu₁⟩ := writePart_open ext h hid hu msg
          obtain ⟨hread, hu₂⟩ := readPart_open ext hwrite hid hu₁ msg
          exact hread.send hid _ fun _ => ⟨user, hu₂⟩

/-- The handlers of a connection keep it open if they succeed. -/
lemma packet_open (magic : Magic) (h : Open n id w₀ w) (hid : id < n) (m : UInt32)
    (data : List UInt8) :
    Sound n id w₀ (w.packet ext id magic m data).1 ∧
      ((w.packet ext id magic m data).2 = true →
        Open n id w₀ (w.packet ext id magic m data).1) := by
  rw [packet]
  split_ifs
  · exact packetLogin_open h hid data
  · exact ⟨(packetData_open h hid data).toSound, fun _ => packetData_open h hid data⟩
  · exact ⟨h.toSound, fun _ => h⟩

end Work

/-! ### The loop of `ClientRecv` -/

namespace Terminal

variable {σ : Type*} {magic : Magic} {handler : σ → UInt32 → List UInt8 → σ × Bool}

/-- A property that the handlers keep when they succeed holds while the connection is open, and what
they keep in any case holds after it is closed, too. -/
theorem loop_inv {I J : σ → Prop} (hIJ : ∀ s, I s → J s)
    (hstep : ∀ s m data, I s →
      J (handler s m data).1 ∧ ((handler s m data).2 = true → I (handler s m data).1))
    (k : Terminal σ) (hk : I k.session) :
    J (k.loop magic handler).1.session ∧
      ((k.loop magic handler).2 ≠ 0 → I (k.loop magic handler).1.session) := by
  fun_induction loop magic handler k with
  | case1 k client hcheck => exact ⟨hIJ _ hk, fun h => absurd rfl h⟩
  | case2 k client hcheck => exact ⟨hIJ _ hk, fun _ => hk⟩
  | case3 k client hcheck m hunknown => exact ⟨hIJ _ hk, fun h => absurd rfl h⟩
  | case4 k client hcheck m data hknown session dispatched hcall ih =>
      have hs := hstep k.session m data hk
      rw [hcall] at hs
      exact ih (hs.2 rfl)
  | case5 k client hcheck m data hknown session result hcall dispatched hfail =>
      have hs := hstep k.session m data hk
      rw [hcall] at hs
      exact ⟨hs.1, fun h => absurd rfl h⟩

end Terminal

/-! ### The server -/

namespace TermManager

variable {ext : Messages} {magic : Magic}

/-- The account is authorised, and the world came from `w₀` by what it has got since. -/
structure SharedOk (w₀ : World) (n : ℕ) (w : World) : Prop where
  authorised : Authorised w.account
  lt : ∀ e ∈ w.account, e.1 < n
  extends_ : Extends (fun _ => True) w₀ w

/-- The user of a client was granted a login on its connection, where no login was refused. -/
structure ClientOk (w : World) (id : ℕ) (k : TermClient) : Prop where
  granted : ∀ u ∈ k.user, Grant w.account id u
  unrefused : Unrefused w.account id

/-- A connection on which nothing was done. -/
lemma clientOk_new {w₀ : World} {n : ℕ} {w : World} (h : SharedOk w₀ n w) : ClientOk w n .new :=
  ⟨fun _ hu => (by cases hu), fun _ _ hmem => absurd (h.lt _ hmem) (lt_irrefl n)⟩

/-- What is done on another connection changes nothing for a client. -/
lemma ClientOk.of_extends {w w' : World} {i j : ℕ} {k : TermClient} (h : ClientOk w j k)
    (hext : Extends (· = i) w w') (hij : j ≠ i) : ClientOk w' j k := by
  obtain ⟨new, hacc, hnew, -, -⟩ := hext
  refine ⟨fun u hu => ?_, fun user result hmem => ?_⟩
  · rw [hacc]
    exact (h.granted u hu).append new
  · rw [hacc] at hmem
    rcases List.mem_append.mp hmem with hmem | hmem
    · exact h.unrefused user result hmem
    · exact absurd (hnew _ hmem) hij

variable (ext magic) in
/-- `ClientRecv` for a client of the server. -/
lemma clientRecv_open {w₀ : World} {n id : ℕ} {k : TermClient} {w : World} (hid : id < n)
    (hw : SharedOk w₀ n w) (hk : ClientOk w id k) (chunk : List UInt8) :
    let r := clientRecv ext magic id k w chunk
    Work.Sound n id w ⟨r.1.user, r.2.1⟩ ∧ (r.2.2 ≠ 0 → Work.Open n id w ⟨r.1.user, r.2.1⟩) := by
  have hopen : Work.Open n id w ⟨k.user, w⟩ :=
    ⟨⟨hw.authorised, hw.lt, Extends.refl _ _⟩, hk.granted, hk.unrefused⟩
  exact Terminal.loop_inv (I := Work.Open n id w) (J := Work.Sound n id w) (fun _ h => h.toSound)
    (fun _ m data h => Work.packet_open magic h hid m data)
    ⟨k.packet.append chunk, ⟨k.user, w⟩, []⟩ hopen

lemma keeps (w₀ : World) :
    TcpClass.Keeps (clientRecv ext magic) (SharedOk w₀) ClientOk where
  shared n id k w chunk hid hw hk := by
    have h := (clientRecv_open ext magic hid hw hk chunk).1
    exact ⟨h.authorised, h.lt, hw.extends_.trans (h.extends_.mono fun _ _ => trivial)⟩
  client n id k w chunk hid hw hk hres := by
    have h := (clientRecv_open ext magic hid hw hk chunk).2 hres
    exact ⟨h.granted, h.unrefused⟩
  other n id k w chunk j k' hid hw hk hj hk' :=
    hk'.of_extends (clientRecv_open ext magic hid hw hk chunk).1.extends_ hj
  accept n w hw := ⟨hw.authorised, fun e he => Nat.lt_succ_of_lt (hw.lt e he), hw.extends_⟩

/-- The invariant of the server. -/
def Inv (s : TermManager) : Prop := s.Kept (SharedOk s.shared) ClientOk

/-- A cycle keeps the invariant, and the variables change by the writes of the clients only. -/
lemma cycle_inv {s : TermManager} (h : Inv s) (a : Option Accept) (ready : ℕ → Ready) :
    Inv (cycle ext magic s a ready) ∧
      Extends (fun _ => True) s.shared (cycle ext magic s a ready).shared := by
  have hkept : (cycle ext magic s a ready).Kept (SharedOk s.shared) ClientOk :=
    TcpClass.Kept.proccesing (keeps s.shared) h (fun _ _ hw => clientOk_new hw) maxClient a ready
  exact ⟨⟨⟨hkept.shared.authorised, hkept.shared.lt, Extends.refl _ _⟩, hkept.client, hkept.lt,
    hkept.nodup⟩, hkept.shared.extends_⟩

lemma step_inv {s : TermManager} (h : Inv s) (e : Event) : Inv (step ext magic s e) := by
  cases e with
  | cycle a ready => exact (cycle_inv h a ready).1
  | others store =>
      exact ⟨⟨h.shared.authorised, h.shared.lt, Extends.refl _ _⟩,
        fun c hc => ⟨(h.client c hc).granted, (h.client c hc).unrefused⟩, h.lt, h.nodup⟩
  | addUser user =>
      exact ⟨⟨h.shared.authorised, h.shared.lt, Extends.refl _ _⟩,
        fun c hc => ⟨(h.client c hc).granted, (h.client c hc).unrefused⟩, h.lt, h.nodup⟩
  | destroy =>
      exact ⟨h.shared, fun c hc => (by cases hc), fun c hc => (by cases hc), List.nodup_nil⟩

variable (ext magic) in
lemma run_inv {s : TermManager} (h : Inv s) (l : List Event) : Inv (run ext magic s l) := by
  induction l generalizing s with
  | nil => exact h
  | cons e l ih => exact ih (step_inv h e)

lemma start_inv (listUser : List User) (store : VarStore) : Inv (start listUser store) :=
  ⟨⟨authorised_nil, fun e he => (by cases he), Extends.refl _ _⟩, fun c hc => (by cases hc),
    fun c hc => (by cases hc), List.nodup_nil⟩

/-- For every run of the terminal server, with any users, variables and messages, any clients and
any cut of what they send into chunks: a connection reads or writes variables only after a login on
it that was granted to a user with the access of the super-user or of an administrator, and with
the access of that user; after a login that was not granted nothing is done on the connection; and
a cycle changes the variables by these writes only. -/
theorem run_authorised (ext : Messages) (magic : Magic) (listUser : List User) (store : VarStore)
    (l : List Event) :
    Authorised (run ext magic (start listUser store) l).shared.account ∧
      ∀ a ready, Extends (fun _ => True) (run ext magic (start listUser store) l).shared
        (cycle ext magic (run ext magic (start listUser store) l) a ready).shared := by
  have h := run_inv ext magic (start_inv listUser store) l
  exact ⟨h.shared.authorised, fun a ready => (cycle_inv h a ready).2⟩

end TermManager

end Tritonn

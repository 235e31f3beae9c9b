import Mathlib

/-!
The server of `src/shared/tcp_class.cpp`: `rTCPClass::Proccesing` and `ReadFromClient`, for the
clients and the `ClientRecv` of a derived class.

* `TcpClass` is a server whose clients are of a type `κ` and work on a state `ω`; the connections
  are numbered as they are accepted;
* `TcpClass.proccesing` is one cycle, and `Ready` and `Accept` are what the system reports to it;
* `TcpClass.Kept` is an invariant of the clients and of the state they share, and
  `Kept.proccesing` says that a cycle keeps it if `ClientRecv` does;
* `SelectSets` is what a cycle hands over to `select`: the sets of descriptors and their bound.
  `nfds_iff` says that the bound is above all of them if and only if none is above both the
  listening descriptor and the one of the last client, up to an overflow.
-/

namespace Tritonn

/-- What `select` and `recv` report for a client: nothing, an exception, some bytes, the end of
the stream, or an error, which may be `EAGAIN`. -/
inductive Ready where
  | idle
  | except
  | data (chunk : List UInt8)
  | closed
  | error (again : Bool)

/-- What becomes of a connection that `accept` returns: whether the white list lets it in, and
whether `setsockopt` succeeds. -/
structure Accept where
  white : Bool
  nodelay : Bool

/-- `rTCPClass`: the clients, each with the number of its connection, the number of connections so
far, and what the clients work on. -/
structure TcpClass (κ ω : Type*) where
  client : List (ℕ × κ)
  count : ℕ
  shared : ω

namespace TcpClass

variable {κ ω : Type*}

/-- The connection that `accept` returns becomes a client; the first client is dropped when there
are too many. -/
def accept (newClient : κ) (maxClient : ℕ) (s : TcpClass κ ω) (a : Accept) : TcpClass κ ω :=
  if !a.white then s
  else
    let client := s.client ++ [(s.count, newClient)]
    if maxClient < client.length then { s with client := client.tail, count := s.count + 1 }
    else if !a.nodelay then { s with count := s.count + 1 }
    else { s with client, count := s.count + 1 }

variable (clientRecv : ℕ → κ → ω → List UInt8 → κ × ω × ℕ)

/-- What the loop of `Proccesing` does for a client, `ReadFromClient` included: the client, if it
is not deleted, and the state. -/
def serveClient (id : ℕ) (k : κ) (w : ω) : Ready → Option κ × ω
  | .idle => (some k, w)
  | .except => (none, w)
  | .data chunk =>
      let (k', w', result) := clientRecv id k w chunk
      (if result = 0 then none else some k', w')
  | .closed => (none, w)
  | .error again => (if again then none else some k, w)

/-- The loop of `Proccesing` over the clients from the place `ii` on. -/
def serve (ready : ℕ → Ready) : ℕ → List (ℕ × κ) → ω → List (ℕ × κ) × ω
  | _, [], w => ([], w)
  | ii, (id, k) :: client, w =>
      let (k', w₁) := serveClient clientRecv id k w (ready ii)
      let (client', w₂) := serve ready (ii + 1) client w₁
      ((k'.map fun k => (id, k)).toList ++ client', w₂)

/-- `rTCPClass::Proccesing`. -/
def proccesing (newClient : κ) (maxClient : ℕ) (s : TcpClass κ ω) (a : Option Accept)
    (ready : ℕ → Ready) : TcpClass κ ω :=
  let s₁ := (a.map (s.accept newClient maxClient)).getD s
  let (client, shared) := serve clientRecv ready 0 s₁.client s₁.shared
  { s₁ with client, shared }

/-! ### Invariants of a server -/

variable (P : ℕ → ω → Prop) (Q : ω → ℕ → κ → Prop)

/-- `P` holds of the number of connections and of the shared state, and `Q` of every client, whose
numbers differ. -/
structure Kept (s : TcpClass κ ω) : Prop where
  shared : P s.count s.shared
  client : ∀ c ∈ s.client, Q s.shared c.1 c.2
  lt : ∀ c ∈ s.client, c.1 < s.count
  nodup : (s.client.map Prod.fst).Nodup

/-- `ClientRecv` keeps the invariant of the state and of the other clients, and that of its client
if it does not ask to delete it. -/
structure Keeps : Prop where
  shared : ∀ n i k w chunk, i < n → P n w → Q w i k → P n (clientRecv i k w chunk).2.1
  client : ∀ n i k w chunk, i < n → P n w → Q w i k → (clientRecv i k w chunk).2.2 ≠ 0 →
    Q (clientRecv i k w chunk).2.1 i (clientRecv i k w chunk).1
  other : ∀ n i k w chunk j k', i < n → P n w → Q w i k → j ≠ i → Q w j k' →
    Q (clientRecv i k w chunk).2.1 j k'
  accept : ∀ n w, P n w → P (n + 1) w

variable {clientRecv P Q}

/-- What `serveClient` does to the invariants. -/
lemma Keeps.serveClient (h : Keeps clientRecv P Q) {n id : ℕ} {k : κ} {w : ω} (hid : id < n)
    (hP : P n w) (hQ : Q w id k) (r : Ready) :
    P n (TcpClass.serveClient clientRecv id k w r).2 ∧
      (∀ k' ∈ (TcpClass.serveClient clientRecv id k w r).1,
        Q (TcpClass.serveClient clientRecv id k w r).2 id k') ∧
      ∀ j k', j ≠ id → Q w j k' → Q (TcpClass.serveClient clientRecv id k w r).2 j k' := by
  cases r with
  | data chunk =>
      refine ⟨h.shared n id k w chunk hid hP hQ, fun k' hk' => ?_,
        fun j k' hj hk' => h.other n id k w chunk j k' hid hP hQ hj hk'⟩
      simp only [TcpClass.serveClient] at hk' ⊢
      split_ifs at hk' with hres
      · cases hk'
      · cases hk'
        exact h.client n id k w chunk hid hP hQ hres
  | error again =>
      refine ⟨hP, fun k' hk' => ?_, fun _ _ _ hk' => hk'⟩
      cases again <;> cases hk'
      exact hQ
  | idle =>
      refine ⟨hP, fun k' hk' => ?_, fun _ _ _ hk' => hk'⟩
      cases hk'
      exact hQ
  | except => exact ⟨hP, fun k' hk' => (by cases hk'), fun _ _ _ hk' => hk'⟩
  | closed => exact ⟨hP, fun k' hk' => (by cases hk'), fun _ _ _ hk' => hk'⟩

/-- What the loop over the clients does to the invariants: the clients that are left are among
those that were there, and what holds of another connection goes on to hold. -/
lemma Keeps.serve (h : Keeps clientRecv P Q) {n : ℕ} (ready : ℕ → Ready) (ii : ℕ)
    {client : List (ℕ × κ)} {w : ω} (hlt : ∀ c ∈ client, c.1 < n)
    (hnodup : (client.map Prod.fst).Nodup) (hP : P n w) (hQ : ∀ c ∈ client, Q w c.1 c.2) :
    P n (TcpClass.serve clientRecv ready ii client w).2 ∧
      (∀ c ∈ (TcpClass.serve clientRecv ready ii client w).1,
        Q (TcpClass.serve clientRecv ready ii client w).2 c.1 c.2) ∧
      ((TcpClass.serve clientRecv ready ii client w).1.map Prod.fst).Sublist
        (client.map Prod.fst) ∧
      ∀ j k', j ∉ client.map Prod.fst → Q w j k' →
        Q (TcpClass.serve clientRecv ready ii client w).2 j k' := by
  induction client generalizing ii w with
  | nil => exact ⟨hP, by simp [TcpClass.serve], by simp [TcpClass.serve], fun _ _ _ hk' => hk'⟩
  | cons c client ih =>
      obtain ⟨id, k⟩ := c
      rw [List.map_cons, List.nodup_cons] at hnodup
      obtain ⟨hid, hnodup⟩ := hnodup
      have hne : ∀ c ∈ client, c.1 ≠ id := fun c hc hcid =>
        hid (List.mem_map.mpr ⟨c, hc, hcid⟩)
      have hidn : id < n := hlt (id, k) List.mem_cons_self
      obtain ⟨hP₁, hQ₁, hother₁⟩ :=
        h.serveClient hidn hP (hQ (id, k) List.mem_cons_self) (ready ii)
      obtain ⟨hP₂, hQ₂, hsub, hother₂⟩ := ih (ii + 1)
        (fun c hc => hlt c (List.mem_cons_of_mem _ hc)) hnodup hP₁
        (fun c hc => hother₁ _ _ (hne c hc) (hQ c (List.mem_cons_of_mem _ hc)))
      rw [TcpClass.serve]
      refine ⟨hP₂, ?_, ?_, ?_⟩
      · intro c hc
        rcases List.mem_append.mp hc with hc | hc
        · -- The client itself: the clients after it keep what holds of it.
          obtain ⟨k', hk', rfl⟩ := Option.mem_map.mp (Option.mem_toList.mp hc)
          exact hother₂ id k' hid (hQ₁ k' hk')
        · exact hQ₂ c hc
      · rw [List.map_append]
        cases (TcpClass.serveClient clientRecv id k w (ready ii)).1 with
        | none => exact hsub.cons _
        | some k' => exact hsub.cons_cons _
      · intro j k' hj hk'
        rw [List.map_cons, List.mem_cons, not_or] at hj
        exact hother₂ j k' hj.2 (hother₁ j k' hj.1 hk')

/-- A connection that is accepted keeps the invariants. -/
lemma Kept.accept (h : Keeps clientRecv P Q) {s : TcpClass κ ω} (hs : s.Kept P Q) {newClient : κ}
    (hnew : ∀ n w, P n w → Q w n newClient) (maxClient : ℕ) (a : Accept) :
    (s.accept newClient maxClient a).Kept P Q := by
  have hold : ({ s with count := s.count + 1 } : TcpClass κ ω).Kept P Q :=
    ⟨h.accept _ _ hs.shared, hs.client, fun c hc => Nat.lt_succ_of_lt (hs.lt c hc), hs.nodup⟩
  have hfull : ({ s with client := s.client ++ [(s.count, newClient)], count := s.count + 1 } :
      TcpClass κ ω).Kept P Q := by
    refine ⟨hold.shared, fun c hc => ?_, fun c hc => ?_, ?_⟩
    · rcases List.mem_append.mp hc with hc | hc
      · exact hs.client c hc
      · rw [List.mem_singleton.mp hc]
        exact hnew _ _ hs.shared
    · rcases List.mem_append.mp hc with hc | hc
      · exact hold.lt c hc
      · rw [List.mem_singleton.mp hc]
        exact Nat.lt_succ_self _
    · rw [List.map_append, List.map_singleton, List.nodup_append]
      refine ⟨hs.nodup, List.nodup_singleton _, fun a ha b hb => ?_⟩
      obtain ⟨c, hc, rfl⟩ := List.mem_map.mp ha
      rw [List.mem_singleton.mp hb]
      exact (hs.lt c hc).ne
  rw [TcpClass.accept]
  by_cases hwhite : a.white = true
  swap
  · rw [if_pos (by simpa using hwhite)]
    exact hs
  rw [if_neg (by simpa using hwhite)]
  dsimp only
  split_ifs with hmax
  · refine ⟨hfull.shared, fun c hc => hfull.client c (List.mem_of_mem_tail hc),
      fun c hc => hfull.lt c (List.mem_of_mem_tail hc), ?_⟩
    exact hfull.nodup.sublist ((List.tail_sublist _).map _)
  · exact hold
  · exact hfull

/-- A cycle of the server keeps the invariants. -/
theorem Kept.proccesing (h : Keeps clientRecv P Q) {s : TcpClass κ ω} (hs : s.Kept P Q)
    {newClient : κ} (hnew : ∀ n w, P n w → Q w n newClient) (maxClient : ℕ) (a : Option Accept)
    (ready : ℕ → Ready) :
    (s.proccesing clientRecv newClient maxClient a ready).Kept P Q := by
  have hs₁ : ((a.map (s.accept newClient maxClient)).getD s).Kept P Q := by
    cases a with
    | none => exact hs
    | some a => exact hs.accept h hnew maxClient a
  obtain ⟨hP, hQ, hsub, -⟩ := h.serve ready 0 hs₁.lt hs₁.nodup hs₁.shared hs₁.client
  refine ⟨hP, hQ, fun c hc => ?_, hs₁.nodup.sublist hsub⟩
  obtain ⟨c', hc', hcc'⟩ := List.mem_map.mp (hsub.subset (List.mem_map_of_mem hc))
  have := hs₁.lt c' hc'
  rw [hcc'] at this
  exact this

end TcpClass

/-! ### The bound of `select` -/

/-- The sets `readfds` and `exfds`, and `Maxfd`. -/
structure SelectSets where
  readfds : Finset Int32
  exfds : Finset Int32
  maxfd : Int32
  deriving DecidableEq

namespace SelectSets

/-- The loop of `Proccesing` that adds the descriptors of the clients: `Maxfd` is the larger one of
the listening descriptor and of this client's. -/
def addClients (socket : Int32) (s : SelectSets) (clients : List Int32) : SelectSets :=
  clients.foldl (fun s fd =>
    { readfds := insert fd s.readfds, exfds := insert fd s.exfds
      maxfd := if socket < fd then fd else socket }) s

/-- The sets for the listening descriptor and the clients. -/
def prepare (socket : Int32) (clients : List Int32) : SelectSets :=
  addClients socket ⟨∅, {socket}, socket⟩ clients

/-- The first argument of `select`. -/
def nfds (socket : Int32) (clients : List Int32) : Int32 := (prepare socket clients).maxfd + 1

/-- The bound is above every descriptor in the sets. -/
def BoundOk (socket : Int32) (clients : List Int32) : Prop :=
  ∀ fd ∈ (prepare socket clients).readfds ∪ (prepare socket clients).exfds, fd < nfds socket clients

/-- The last client has the largest descriptor, up to those that are below the listening one. -/
def LastIsTop (socket : Int32) (clients : List Int32) : Prop :=
  ∀ fd ∈ clients, fd ≤ socket ∨ ∃ last ∈ clients.getLast?, fd ≤ last

variable {socket fd : Int32} {clients : List Int32} {s : SelectSets}

/-- A cycle adds every client to both sets. -/
lemma mem_addClients (socket fd : Int32) (clients : List Int32) (s : SelectSets) :
    (fd ∈ (addClients socket s clients).readfds ↔ fd ∈ s.readfds ∨ fd ∈ clients) ∧
      (fd ∈ (addClients socket s clients).exfds ↔ fd ∈ s.exfds ∨ fd ∈ clients) := by
  induction clients generalizing s with
  | nil => exact ⟨(or_iff_left List.not_mem_nil).symm, (or_iff_left List.not_mem_nil).symm⟩
  | cons c clients ih =>
      obtain ⟨hread, hex⟩ := ih ⟨insert c s.readfds, insert c s.exfds,
        if socket < c then c else socket⟩
      constructor
      · refine hread.trans ?_
        rw [Finset.mem_insert, List.mem_cons, or_comm (a := fd = c), or_assoc]
      · refine hex.trans ?_
        rw [Finset.mem_insert, List.mem_cons, or_comm (a := fd = c), or_assoc]

/-- The sets have the listening descriptor and the clients. -/
lemma mem_prepare :
    fd ∈ (prepare socket clients).readfds ∪ (prepare socket clients).exfds ↔
      fd = socket ∨ fd ∈ clients := by
  obtain ⟨hread, hex⟩ := mem_addClients socket fd clients ⟨∅, {socket}, socket⟩
  rw [Finset.mem_union, prepare, hread, hex, Finset.mem_singleton,
    or_iff_right (Finset.notMem_empty fd)]
  constructor
  · rintro (h | h)
    · exact .inr h
    · exact h
  · exact .inr

/-- The bound knows the last client alone. -/
lemma maxfd_eq : (prepare socket clients).maxfd =
    (clients.getLast?.map fun last => if socket < last then last else socket).getD socket := by
  cases clients using List.reverseRecOn with
  | nil => rfl
  | append_singleton clients last =>
      rw [prepare, addClients, List.foldl_append, List.getLast?_concat]
      rfl

/-- The bound is the listening descriptor or the last client, the larger one. -/
lemma maxfd_spec (socket : Int32) (clients : List Int32) :
    socket ≤ (prepare socket clients).maxfd ∧
    (∀ last ∈ clients.getLast?, last ≤ (prepare socket clients).maxfd) ∧
    ((prepare socket clients).maxfd = socket ∨
      (prepare socket clients).maxfd ∈ clients.getLast?) := by
  rw [maxfd_eq]
  cases clients.getLast? with
  | none =>
      exact ⟨Int32.le_refl socket, fun last h => absurd h (Option.not_mem_none last), .inl rfl⟩
  | some last =>
      rw [Option.map_some, Option.getD_some]
      split_ifs with hlt
      · refine ⟨Int32.le_of_lt hlt, fun x hx => ?_, .inr rfl⟩
        rw [Option.some.inj hx]
        exact Int32.le_refl x
      · refine ⟨Int32.le_refl socket, fun x hx => ?_, .inl rfl⟩
        rw [← Option.some.inj hx]
        exact Int32.not_lt.mp hlt

/-- One more is more, unless it overflows. -/
lemma lt_add_one_iff {top : Int32} (h : top ≠ Int32.maxValue) : fd < top + 1 ↔ fd ≤ top := by
  have hmax : top.toInt ≠ 2 ^ 31 - 1 := fun heq => h (Int32.toInt_inj.mp heq)
  have hlt := top.toInt_lt
  have hle := top.le_toInt
  have hsum : (top + 1).toInt = top.toInt + 1 := by
    have hone : (1 : Int32).toInt = 1 := rfl
    rw [Int32.toInt_add, hone]
    exact Int.bmod_eq_of_le (by omega) (by omega)
  rw [Int32.lt_iff_toInt_lt, Int32.le_iff_toInt_le, hsum]
  exact Int.lt_add_one_iff

lemma not_lt_maxValue_add_one (fd : Int32) : ¬fd < Int32.maxValue + 1 := by
  have hle := fd.le_toInt
  have hmin : (Int32.maxValue + 1).toInt = -2 ^ 31 := by decide
  rw [Int32.lt_iff_toInt_lt, hmin]
  omega

/-- The bound is above every descriptor if and only if no client is above both the last one and the
listening descriptor, and none is the largest number. -/
theorem nfds_iff (socket : Int32) (clients : List Int32) :
    BoundOk socket clients ↔ LastIsTop socket clients ∧
      ∀ fd, fd = socket ∨ fd ∈ clients → fd ≠ Int32.maxValue := by
  obtain ⟨hsocket, hlast, htop⟩ := maxfd_spec socket clients
  constructor
  · intro hok
    have hne : (prepare socket clients).maxfd ≠ Int32.maxValue := fun heq => by
      have hlt := hok socket (mem_prepare.mpr (.inl rfl))
      rw [nfds, heq] at hlt
      exact not_lt_maxValue_add_one socket hlt
    have hle : ∀ fd, fd = socket ∨ fd ∈ clients → fd ≤ (prepare socket clients).maxfd :=
      fun fd hfd => (lt_add_one_iff hne).mp (hok fd (mem_prepare.mpr hfd))
    refine ⟨fun fd hfd => ?_, fun fd hfd heq => ?_⟩
    · rcases htop with htop | htop
      · exact .inl (htop ▸ hle fd (.inr hfd))
      · exact .inr ⟨_, htop, hle fd (.inr hfd)⟩
    · have hmax := hle fd hfd
      rw [heq] at hmax
      exact hne (Int32.le_antisymm (Int32.le_maxValue _) hmax)
  · rintro ⟨hclients, hne⟩ fd hfd
    have hmem : (prepare socket clients).maxfd = socket ∨
        (prepare socket clients).maxfd ∈ clients :=
      htop.imp_right fun h => List.mem_of_getLast? h
    rw [nfds, lt_add_one_iff (hne _ hmem)]
    rcases mem_prepare.mp hfd with rfl | hfd
    · exact hsocket
    · rcases hclients fd hfd with hle | ⟨last, hmem, hle⟩
      · exact Int32.le_trans hle hsocket
      · exact Int32.le_trans hle (hlast last hmem)

/-- The client that came first keeps the larger descriptor. -/
theorem nfds_fails : ¬BoundOk 3 [7, 5] := fun h => by
  have hlt : (7 : Int32) < nfds 3 [7, 5] := h 7 (mem_prepare.mpr (.inr List.mem_cons_self))
  exact absurd hlt (by decide)

end SelectSets

end Tritonn

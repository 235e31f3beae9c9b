import Tritonn.Terminal.Ttterm

/-!
A terminal and the terminal server on one connection, with the bytes that are on their way.

* `Session` is the state of both sides and of the two directions of the connection, with the
  messages that the terminal has sent; `Session.step` is a message that the terminal sends, a chunk
  that arrives on either side, or what other threads of the server do in the meantime;
* `Agreed` is what is asked of such a state: each side has handled the first messages of the other
  side, each once and in order, all of them when nothing is on its way, and what the terminal knows
  is what the answers that it has handled say;
* `LoggedIn` is what the server has told a terminal (`packet_tells`), `serves_told` that a terminal
  refuses nothing of it, and `Inv` the invariant of a session;
* `run_agreed` says it for every run.
-/

namespace Tritonn

/-! ### What a connection is told -/

/-- The answers on a connection. -/
def World.told (id : ℕ) (w : World) : List TermAnswer :=
  w.account.filterMap fun e =>
    match e with
    | (i, .send answer) => if i = id then some answer else none
    | _ => none

/-- The answer is a data message. -/
def TermAnswer.isData : TermAnswer → Prop
  | .login _ _ => False
  | .data .. => True

namespace Wire

variable (wire : Wire) (magic : Magic)

/-- The message that `send` is given for an answer. -/
def letter (a : TermAnswer) : Letter magic where
  m := match a with
    | .login _ _ => magic.login
    | .data .. => magic.data
  data := wire.serializeAnswer a
  known := by
    cases a
    · exact .inr rfl
    · exact .inl rfl
  data_ne := wire.serialize_ne a
  data_length := wire.serialize_length a

/-- What a terminal knows from the answers that it was given: the access of the login, and the data
messages behind it. -/
def viewOf : List TermAnswer → Viewer
  | .login _ access :: rest => ⟨access, access, rest.map wire.serializeAnswer⟩
  | _ => ⟨0, 0, []⟩

end Wire

/-! ### Sessions -/

/-- Both sides of a connection: the terminal, and whether it is connected; the client of the server
with what its handlers work on, and whether it is served; the bytes that are on their way to the
server and to the terminal; and the messages that the terminal has sent. -/
structure Session (magic : Magic) where
  client : Terminal Viewer
  connected : Bool
  server : Terminal Work
  served : Bool
  up : List UInt8
  down : List UInt8
  asked : List (Letter magic)

namespace Session

variable {magic : Magic} (wire : Wire) (id : ℕ)

/-- What can happen to a session: the terminal sends a message; at most `n` bytes arrive at the
server or at the terminal; another thread changes the variables or adds a user; or the server drops
the client. -/
inductive Event (magic : Magic) where
  | ask (letter : Letter magic)
  | serve (n : ℕ)
  | view (n : ℕ)
  | others (store : VarStore)
  | addUser (user : User)
  | drop

/-- The answers that the server has given on the connection. -/
def told (s : Session magic) : List TermAnswer := s.server.session.world.told id

/-- Bytes arrive at the server, and the answers that it gives are on their way. -/
def serve (s : Session magic) (n : ℕ) : Session magic :=
  if s.served ∧ s.up.take n ≠ [] then
    let (server, result) :=
      s.server.clientRecv magic (Work.packet wire.toMessages id magic) (s.up.take n)
    let answers := (server.session.world.told id).drop (s.told id).length
    { s with
      server
      served := result ≠ 0
      up := s.up.drop n
      down := s.down ++ (answers.map fun a => (wire.letter magic a).send).flatten }
  else s

/-- Bytes arrive at the terminal. -/
def view (s : Session magic) (n : ℕ) : Session magic :=
  if s.connected ∧ s.down.take n ≠ [] then
    let (client, result) := s.client.recvFromServer magic (Viewer.packet wire magic) (s.down.take n)
    { s with client, connected := result = 0, down := s.down.drop n }
  else s

/-- One event. -/
def step (s : Session magic) : Event magic → Session magic
  | .ask letter =>
      if s.connected then { s with up := s.up ++ letter.send, asked := s.asked ++ [letter] } else s
  | .serve n => s.serve wire id n
  | .view n => s.view wire n
  | .others store =>
      { s with server.session.world.store := store }
  | .addUser user =>
      { s with
        server.session.world.listUser := User.add s.server.session.world.listUser user }
  | .drop => { s with served := false }

/-- A connection that was just made. -/
def start (w : World) : Session magic :=
  ⟨⟨⟨[], ⟨0, 0, 0, 0, 0, 0⟩⟩, ⟨0, 0, []⟩, []⟩, true, ⟨TermClient.new.packet, ⟨none, w⟩, []⟩, true,
    [], [], []⟩

/-- The events of a run. -/
def run (s : Session magic) (l : List (Event magic)) : Session magic := l.foldl (step wire id) s

end Session

/-! ### What the server tells -/

/-- The user of the connection was granted a login, and what the connection was told is the answer
to it, with his access, and data messages behind it. -/
def LoggedIn (id : ℕ) (w : Work) : Prop :=
  ∃ user result rest, w.user = some user ∧ Granted user result ∧
    w.world.told id = .login result (user.getAccess false) :: rest ∧ ∀ a ∈ rest, a.isData

/-- The connection is open: nobody has logged in and it was told nothing, or somebody has. -/
def Telling (id : ℕ) (w : Work) : Prop := (w.user = none ∧ w.world.told id = []) ∨ LoggedIn id w

/-- The connection may be closed: it was told nothing, or somebody has logged in. -/
def Told (id : ℕ) (w : Work) : Prop := w.world.told id = [] ∨ LoggedIn id w

namespace Work

variable {ext : Messages} {id : ℕ} {w : Work}

lemma told_send (w : Work) (a : TermAnswer) :
    (w.note id (.send a)).world.told id = w.world.told id ++ [a] := by
  simp [World.told, note, List.filterMap_append]

lemma told_note (w : Work) {deed : Deed} (hdeed : ∀ a, deed ≠ .send a) :
    (w.note id deed).world.told id = w.world.told id := by
  cases deed with
  | send a => exact absurd rfl (hdeed a)
  | login user result => simp [World.told, note, List.filterMap_append]
  | write s => simp [World.told, note, List.filterMap_append]
  | read s => simp [World.told, note, List.filterMap_append]

variable (ext id) in
/-- Writing and reading the variables tells the connection nothing. -/
lemma writePart_told (w : Work) (access : UInt32) (msg : DataMsg) :
    (w.writePart ext id access msg).1.world.told id = w.world.told id ∧
      (w.writePart ext id access msg).1.user = w.user := by
  rw [writePart]
  split_ifs
  · exact ⟨told_note _ (by simp), rfl⟩
  · exact ⟨rfl, rfl⟩

variable (ext id) in
lemma readPart_told (w : Work) (access : UInt32) (msg : DataMsg) :
    (w.readPart ext id access msg).1.world.told id = w.world.told id ∧
      (w.readPart ext id access msg).1.user = w.user := by
  rw [readPart]
  split_ifs
  · exact ⟨told_note _ (by simp), rfl⟩
  · exact ⟨rfl, rfl⟩

end Work

lemma LoggedIn.of_eq {id : ℕ} {w w' : Work} (h : LoggedIn id w) (huser : w'.user = w.user)
    (htold : w'.world.told id = w.world.told id) : LoggedIn id w' := by
  obtain ⟨user, result, rest, hu, hgranted, ht, hrest⟩ := h
  exact ⟨user, result, rest, huser.trans hu, hgranted, htold.trans ht, hrest⟩

/-- A data message is sent to a connection with a login. -/
lemma LoggedIn.send {id : ℕ} {w : Work} (h : LoggedIn id w) {a : TermAnswer} (ha : a.isData) :
    LoggedIn id (w.note id (.send a)) := by
  obtain ⟨user, result, rest, hu, hgranted, ht, hrest⟩ := h
  refine ⟨user, result, rest ++ [a], hu, hgranted, ?_, fun b hb => ?_⟩
  · rw [Work.told_send, ht, List.cons_append]
  · rcases List.mem_append.mp hb with hb | hb
    · exact hrest b hb
    · exact List.mem_singleton.mp hb ▸ ha

namespace Work

variable {ext : Messages} {id : ℕ} {w : Work}

/-- A data message on a connection with a login is answered by one data message. -/
lemma packetData_tells (h : Telling id w) (data : List UInt8) :
    Telling id (w.packetData ext id data).1 := by
  rw [packetData]
  cases hu : w.user with
  | none => exact h
  | some user =>
      cases ext.deserializeData data with
      | none => exact h
      | some msg =>
          obtain ⟨hnone, -⟩ | hlogged := h
          · rw [hu] at hnone
            cases hnone
          obtain ⟨hwrite, huw⟩ :=
            writePart_told ext id w (user.getAccess false) msg
          obtain ⟨hread, hur⟩ := readPart_told ext id
            (w.writePart ext id (user.getAccess false) msg).1 (user.getAccess false) msg
          exact .inr ((hlogged.of_eq (hur.trans huw) (hread.trans hwrite)).send trivial)

/-- The first login on a connection is answered if it is granted. -/
lemma packetLogin_tells (h : Telling id w) (data : List UInt8) :
    Told id (w.packetLogin ext id data).1 ∧
      ((w.packetLogin ext id data).2 = true → Telling id (w.packetLogin ext id data).1) := by
  have hclosed : Told id w := h.imp And.right fun h => h
  rw [packetLogin]
  by_cases hsome : w.user.isSome
  · rw [if_pos hsome]
    exact ⟨hclosed, fun _ => h⟩
  rw [if_neg hsome]
  obtain ⟨hnone, htold⟩ | ⟨u, _, _, hu, -⟩ := h
  swap
  · rw [hu] at hsome
    exact absurd rfl hsome
  cases ext.deserializeLogin data with
  | none => exact ⟨hclosed, fun _ => .inl ⟨hnone, htold⟩⟩
  | some msg =>
      dsimp only
      generalize User.loginHash _ _ _ = answer
      obtain ⟨user, result⟩ := answer
      have hnote : (({ w with user } : Work).note id (.login user result)).world.told id = [] :=
        (told_note _ (by simp)).trans htold
      cases user with
      | none => exact ⟨.inl hnote, fun hf => (by cases hf)⟩
      | some user =>
          dsimp only
          by_cases hres : result ≠ .success ∧ result ≠ .changepwd
          · rw [if_pos hres]
            exact ⟨.inl hnote, fun hf => (by cases hf)⟩
          rw [if_neg hres]
          by_cases hacc : user.getAccess false &&& accessSA ≠ 0 ∨
              user.getAccess false &&& accessAdmin ≠ 0
          · rw [if_pos hacc]
            have hlogged : LoggedIn id (((({ w with user := some user } : Work).note id
                (.login (some user) result)).note id
                (.send (.login result (user.getAccess false)))).sendDefaultMessage id) := by
              refine ⟨user, result, [.data none [] [] true true false], rfl, ⟨by tauto, hacc⟩, ?_,
                fun a ha => ?_⟩
              · rw [sendDefaultMessage, told_send, told_send, hnote]
                rfl
              · rw [List.mem_singleton.mp ha]
                trivial
            exact ⟨.inr hlogged, fun _ => .inr hlogged⟩
          · rw [if_neg hacc]
            exact ⟨.inl hnote, fun hf => (by cases hf)⟩

variable (ext) in
/-- What the handlers tell a connection. -/
lemma packet_tells (magic : Magic) (h : Telling id w) (m : UInt32) (data : List UInt8) :
    Told id (w.packet ext id magic m data).1 ∧
      ((w.packet ext id magic m data).2 = true → Telling id (w.packet ext id magic m data).1) := by
  rw [packet]
  split_ifs
  · exact packetLogin_tells h data
  · exact ⟨(packetData_tells h data).imp And.right fun h => h, fun _ => packetData_tells h data⟩
  · exact ⟨h.imp And.right fun h => h, fun _ => h⟩

lemma note_account (w : Work) (deed : Deed) :
    w.world.account <+: (w.note id deed).world.account := List.prefix_append _ _

/-- The account of a world only grows. -/
lemma packet_account (magic : Magic) (w : Work) (m : UInt32) (data : List UInt8) :
    w.world.account <+: (w.packet ext id magic m data).1.world.account := by
  have hlogin : w.world.account <+: (w.packetLogin ext id data).1.world.account := by
    rw [packetLogin]
    split_ifs
    · exact List.prefix_refl _
    cases ext.deserializeLogin data with
    | none => exact List.prefix_refl _
    | some msg =>
        dsimp only
        generalize User.loginHash _ _ _ = answer
        obtain ⟨user, result⟩ := answer
        have hnote : w.world.account
            <+: (({ w with user } : Work).note id (.login user result)).world.account :=
          List.prefix_append _ _
        cases user with
        | none => exact hnote
        | some user =>
            dsimp only
            split_ifs
            · exact hnote
            · exact (hnote.trans (note_account _ _)).trans (note_account _ _)
            · exact hnote
  have hdata : w.world.account <+: (w.packetData ext id data).1.world.account := by
    have hwrite : ∀ (w : Work) access msg,
        w.world.account <+: (w.writePart ext id access msg).1.world.account := by
      intro w access msg
      rw [writePart]
      split_ifs
      · exact List.prefix_append _ _
      · exact List.prefix_refl _
    have hread : ∀ (w : Work) access msg,
        w.world.account <+: (w.readPart ext id access msg).1.world.account := by
      intro w access msg
      rw [readPart]
      split_ifs
      · exact List.prefix_append _ _
      · exact List.prefix_refl _
    rw [packetData]
    cases w.user with
    | none => exact List.prefix_refl _
    | some user =>
        cases ext.deserializeData data with
        | none => exact List.prefix_refl _
        | some msg => exact ((hwrite w _ msg).trans (hread _ _ msg)).trans (note_account _ _)
  rw [packet]
  split_ifs
  · exact hlogin
  · exact hdata
  · exact List.prefix_refl _

variable (ext) in
/-- What a connection was told is not taken back. -/
lemma packet_told_prefix (magic : Magic) (w : Work) (m : UInt32) (data : List UInt8) :
    w.world.told id <+: (w.packet ext id magic m data).1.world.told id :=
  (packet_account magic w m data).filterMap _

end Work

/-! ### What the terminal makes of it -/

namespace Wire

variable (wire : Wire) (magic : Magic)

/-- The packets of some answers. -/
def packets (answers : List TermAnswer) : List (Packet magic) :=
  answers.map fun a => (wire.letter magic a).packet

/-- A login that was granted, and data messages behind it, or nothing at all. -/
def Welcome : List TermAnswer → Prop
  | [] => True
  | .login result access :: rest =>
      (result = .success ∨ result = .changepwd) ∧ access ≠ 0 ∧ ∀ a ∈ rest, a.isData
  | .data .. :: _ => False

lemma Welcome.take {answers : List TermAnswer} (h : Welcome answers) (n : ℕ) :
    Welcome (answers.take n) := by
  match answers, n, h with
  | [], n, _ => simp [Welcome]
  | _ :: _, 0, _ => simp [Welcome]
  | .login result access :: rest, n + 1, h =>
      exact ⟨h.1, h.2.1, fun a ha => h.2.2 a (List.mem_of_mem_take ha)⟩

/-- A terminal that has logged in shows every data message. -/
lemma serves_data {v : Viewer} (hv : v.access ≠ 0) {answers : List TermAnswer}
    (h : ∀ a ∈ answers, a.isData) :
    Terminal.Serves (Viewer.packet wire magic) v (wire.packets magic answers)
      { v with shown := v.shown ++ answers.map wire.serializeAnswer } := by
  induction answers generalizing v with
  | nil => simp [packets, Terminal.Serves]
  | cons a answers ih =>
      obtain ⟨ha, hrest⟩ := List.forall_mem_cons.mp h
      have hpacket : v.packet wire magic (wire.letter magic a).body.1 (wire.letter magic a).body.2
          = ({ v with shown := v.shown ++ [wire.serializeAnswer a] }, true) := by
        cases a with
        | login => exact ha.elim
        | data u w r c ver dt =>
            have hne : (wire.letter magic (.data u w r c ver dt)).body.1 ≠ magic.login := magic.ne
            rw [Viewer.packet, if_neg hne, if_pos (by rfl), Viewer.packetData, if_neg hv]
            exact if_pos (wire.correct_data u w r c ver dt)
      have hnext := ih (v := { v with shown := v.shown ++ [wire.serializeAnswer a] }) hv hrest
      have hshown : v.shown ++ (a :: answers).map wire.serializeAnswer
          = v.shown ++ [wire.serializeAnswer a] ++ answers.map wire.serializeAnswer := by simp
      rw [packets, List.map_cons, Terminal.Serves, Letter.packet_body, hpacket, hshown]
      exact ⟨rfl, hnext⟩

/-- A new terminal refuses nothing that the server tells it. -/
lemma serves_told {answers : List TermAnswer} (h : Welcome answers) :
    Terminal.Serves (Viewer.packet wire magic) ⟨0, 0, []⟩ (wire.packets magic answers)
      (wire.viewOf answers) := by
  match answers, h with
  | [], _ => rfl
  | .login result access :: rest, ⟨hresult, hacc, hrest⟩ =>
      have hcode : ¬ (result.code ≠ LoginResult.success.code ∧
          result.code ≠ LoginResult.changepwd.code) := by
        rcases hresult with rfl | rfl <;> simp
      have hpacket : (⟨0, 0, []⟩ : Viewer).packet wire magic
          (wire.letter magic (.login result access)).body.1
          (wire.letter magic (.login result access)).body.2 = (⟨access, access, []⟩, true) := by
        have hread : wire.readLogin (wire.letter magic (.login result access)).body.2
            = some (some result.code, some access) := wire.read_login result access
        rw [Viewer.packet, if_pos (by rfl), Viewer.packetLogin, hread]
        exact if_neg hcode
      rw [packets, List.map_cons, Terminal.Serves, Letter.packet_body, hpacket]
      exact ⟨rfl, wire.serves_data magic (v := ⟨access, access, []⟩) hacc hrest⟩

end Wire

/-- What the server has told a connection is a login that was granted, with data messages behind
it. -/
lemma Told.welcome {id : ℕ} {w : Work} (h : Told id w) : Wire.Welcome (w.world.told id) := by
  obtain hnil | ⟨user, result, rest, -, hgranted, htold, hrest⟩ := h
  · rw [hnil]
    trivial
  · rw [htold]
    refine ⟨hgranted.1, fun hacc => ?_, hrest⟩
    have h := hgranted.2
    rw [hacc] at h
    simp at h

/-! ### The invariant -/

namespace Session

variable {magic : Magic} (wire : Wire) (id : ℕ)

/-- The packets that the terminal has sent. -/
def requests (s : Session magic) : List (Packet magic) := s.asked.map Letter.packet

/-- The packets that the server has sent. -/
def answers (s : Session magic) : List (Packet magic) := wire.packets magic (s.told id)

/-- The terminal of a connection that was just made. -/
def fresh : Terminal Viewer := ⟨⟨[], ⟨0, 0, 0, 0, 0, 0⟩⟩, ⟨0, 0, []⟩, []⟩

/-- What has arrived on either side, `p` at the server and `q` at the terminal, and what is still on
its way make up what was sent; the packets that are whole in `p` and `q` are handled. -/
structure Inv (s : Session magic) (p q : List UInt8) : Prop where
  up : p ++ s.up = (s.requests.map Packet.bytes).flatten
  handled : s.server.dispatched <+: s.requests.map Packet.body
  waits : s.served = true → ∃ g rest r, s.requests = g ++ rest ∧
    p = (g.map Packet.bytes).flatten ++ r ∧ Terminal.Waiting s.server.client r rest ∧
    s.server.dispatched = g.map Packet.body
  tells : Told id s.server.session
  telling : s.served = true → Telling id s.server.session
  down : q ++ s.down = ((s.answers wire id).map Packet.bytes).flatten
  took : ∃ g rest r, Terminal.Took (Viewer.packet wire magic) fresh q (s.answers wire id) g rest r
    s.client
  connected : s.connected = true

variable {wire id}

lemma requests_ask (s : Session magic) (l : Letter magic) :
    (⟨s.client, s.connected, s.server, s.served, s.up ++ l.send, s.down, s.asked ++ [l]⟩ :
      Session magic).requests = s.requests ++ [l.packet] := by
  rw [requests, requests, List.map_append, List.map_singleton]

lemma waiting_append {c : PacketClient} {r : List UInt8} {rest : List (Packet magic)}
    (h : Terminal.Waiting c r rest) (new : List (Packet magic)) :
    Terminal.Waiting c r (rest ++ new) := by
  refine ⟨h.represents, ?_, h.small⟩
  have hshort := h.short
  cases rest with
  | cons packet rest => exact hshort
  | nil =>
      rw [show r = [] from hshort]
      cases new with
      | nil => rfl
      | cons packet new => exact Terminal.bytes_pos packet

/-- More answers change nothing for what the terminal has taken. -/
lemma took_append {k k' : Terminal Viewer} {h : Viewer → UInt32 → List UInt8 → Viewer × Bool}
    {q r : List UInt8} {packets g rest : List (Packet magic)}
    (ht : Terminal.Took h k q packets g rest r k') (new : List (Packet magic)) :
    Terminal.Took h k q (packets ++ new) g (rest ++ new) r k' :=
  ⟨by rw [ht.split, List.append_assoc], ht.bytes, waiting_append ht.waiting new, ht.dispatched,
    ht.serves⟩

/-- The terminal sends a message. -/
lemma Inv.ask {s : Session magic} {p q : List UInt8} (h : Inv wire id s p q) (l : Letter magic) :
    Inv wire id (step wire id s (.ask l)) p q := by
  rw [step, if_pos h.connected]
  refine ⟨?_, ?_, fun hs => ?_, h.tells, h.telling, h.down, h.took, h.connected⟩
  · rw [requests_ask, ← List.append_assoc, h.up, List.map_append, List.flatten_append]
    simp
  · rw [requests_ask, List.map_append]
    exact h.handled.trans (List.prefix_append _ _)
  · obtain ⟨g, rest, r, hsplit, hp, hwait, hdis⟩ := h.waits hs
    exact ⟨g, rest ++ [l.packet], r, by rw [requests_ask, hsplit, List.append_assoc], hp,
      waiting_append hwait _, hdis⟩

lemma packets_append (wire : Wire) (magic : Magic) (l l' : List TermAnswer) :
    wire.packets magic (l ++ l') = wire.packets magic l ++ wire.packets magic l' :=
  List.map_append

lemma packets_bytes (wire : Wire) (magic : Magic) (l : List TermAnswer) :
    (wire.packets magic l).map Packet.bytes = l.map fun a => (wire.letter magic a).send := by
  rw [Wire.packets, List.map_map]
  rfl

/-- What a chunk does on the side of the server: the packets that are whole are handled, up to one
that is refused, with which the connection ends. -/
lemma clientRecv_requests {k k' : Terminal Work} {ext : Messages}
    {packets g rest : List (Packet magic)} {r chunk : List UInt8} {result : ℕ}
    (hsplit : packets = g ++ rest) (hwait : Terminal.Waiting k.client r rest)
    (hdis : k.dispatched = g.map Packet.body)
    (hchunk : r ++ chunk <+: (rest.map Packet.bytes).flatten)
    (h : k.clientRecv magic (Work.packet ext id magic) chunk = (k', result)) :
    k'.dispatched <+: packets.map Packet.body ∧ (result ≠ 0 → ∃ g' rest' r',
      packets = g' ++ rest' ∧
      (g.map Packet.bytes).flatten ++ (r ++ chunk) = (g'.map Packet.bytes).flatten ++ r' ∧
      Terminal.Waiting k'.client r' rest' ∧ k'.dispatched = g'.map Packet.body) := by
  rcases Terminal.loop_received (Work.packet ext id magic)
    (k := { k with client := k.client.append chunk })
    (hwait.represents.append hwait.small chunk) hchunk with
    ⟨k₁, g', rest', r', hk₁, htook⟩ | ⟨k₁, g', rest', packet, hk₁, hrefused⟩
  · obtain ⟨rfl, rfl⟩ := Prod.mk.inj (h.symm.trans hk₁)
    have hall : k'.dispatched = (g ++ g').map Packet.body := by
      rw [htook.dispatched, List.map_append, ← hdis]
    refine ⟨?_, fun _ => ⟨g ++ g', rest', r', ?_, ?_, htook.waiting, hall⟩⟩
    · rw [hall, hsplit, htook.split, ← List.append_assoc]
      exact (List.prefix_append _ _).map _
    · rw [hsplit, htook.split, List.append_assoc]
    · rw [htook.bytes, List.map_append, List.flatten_append, List.append_assoc]
  · obtain ⟨rfl, rfl⟩ := Prod.mk.inj (h.symm.trans hk₁)
    refine ⟨?_, fun hres => absurd rfl hres⟩
    have hcons : g ++ (g' ++ packet :: rest') = g ++ (g' ++ [packet]) ++ rest' := by simp
    rw [hrefused.dispatched, hsplit, hrefused.split, hdis, ← List.map_append, hcons]
    exact (List.prefix_append _ _).map _

/-- Bytes arrive at the server. -/
lemma Inv.serve {s : Session magic} {p q : List UInt8} (h : Inv wire id s p q) (n : ℕ) :
    ∃ p', Inv wire id (s.serve wire id n) p' q := by
  rw [Session.serve]
  split_ifs with hif
  swap
  · exact ⟨p, h⟩
  obtain ⟨hserved, -⟩ := hif
  obtain ⟨g, rest, r, hsplit, rfl, hwait, hdis⟩ := h.waits hserved
  have hup := h.up
  have hrest : r ++ s.up = (rest.map Packet.bytes).flatten := by
    rw [hsplit, List.map_append, List.flatten_append, List.append_assoc] at hup
    exact List.append_cancel_left hup
  have hchunk : r ++ s.up.take n <+: (rest.map Packet.bytes).flatten := by
    rw [← hrest, List.prefix_append_right_inj]
    exact List.take_prefix n s.up
  have htells := @Terminal.loop_inv _ magic _ (Telling id) (Told id)
    (fun _ h => h.imp And.right fun h => h)
    (fun w m data hw => Work.packet_tells wire.toMessages magic hw m data)
    { s.server with client := s.server.client.append (s.up.take n) } (h.telling hserved)
  have hprefix := (@Terminal.loop_inv _ magic _ (fun w => s.told id <+: w.world.told id)
    (fun w => s.told id <+: w.world.told id) (fun _ h => h)
    (fun w m data hw =>
      have hw' := hw.trans (Work.packet_told_prefix wire.toMessages magic w m data)
      ⟨hw', fun _ => hw'⟩)
    { s.server with client := s.server.client.append (s.up.take n) } (List.prefix_refl _)).1
  generalize hrecv : s.server.clientRecv magic (Work.packet wire.toMessages id magic)
    (s.up.take n) = out
  obtain ⟨k', result⟩ := out
  rw [show Terminal.loop magic (Work.packet wire.toMessages id magic)
    { s.server with client := s.server.client.append (s.up.take n) } = (k', result) from hrecv]
    at htells hprefix
  obtain ⟨hhandled, hopen⟩ := clientRecv_requests hsplit hwait hdis hchunk hrecv
  obtain ⟨new, hnew⟩ := hprefix
  dsimp only at htells hnew
  have hanswers : wire.packets magic (k'.session.world.told id)
      = s.answers wire id ++ wire.packets magic new := by
    rw [← hnew, packets_append]
    rfl
  have hdrop : (k'.session.world.told id).drop (s.told id).length = new := by
    rw [← hnew, List.drop_left]
  dsimp only
  rw [hdrop]
  refine ⟨(g.map Packet.bytes).flatten ++ (r ++ s.up.take n), ⟨?_, hhandled,
    fun hres => hopen (by simpa using hres), htells.1, fun hres => htells.2 (by simpa using hres),
    ?_, ?_, h.connected⟩⟩
  · rw [List.append_assoc, List.append_assoc, List.take_append_drop, ← List.append_assoc]
    exact hup
  · change _ = ((wire.packets magic (k'.session.world.told id)).map Packet.bytes).flatten
    rw [← List.append_assoc, h.down, hanswers, List.map_append, List.flatten_append,
      packets_bytes wire magic new]
  · obtain ⟨g, rest, r, htook⟩ := h.took
    refine ⟨g, rest ++ wire.packets magic new, r, ?_⟩
    change Terminal.Took _ _ _ (wire.packets magic (k'.session.world.told id)) _ _ _ _
    rw [hanswers]
    exact took_append htook _

lemma serves_unique {σ : Type*} {h : σ → UInt32 → List UInt8 → σ × Bool} {s s₁ s₂ : σ}
    {packets : List (Packet magic)} (h₁ : Terminal.Serves h s packets s₁)
    (h₂ : Terminal.Serves h s packets s₂) : s₁ = s₂ := by
  induction packets generalizing s with
  | nil => exact h₁.symm.trans h₂
  | cons packet packets ih => exact ih h₁.2 h₂.2

/-- Bytes arrive at the terminal. -/
lemma Inv.view {s : Session magic} {p q : List UInt8} (h : Inv wire id s p q) (n : ℕ) :
    ∃ q', Inv wire id (s.view wire n) p q' := by
  rw [Session.view]
  split_ifs with hif
  swap
  · exact ⟨q, h⟩
  obtain ⟨g, rest, r, htook⟩ := h.took
  obtain ⟨hsplit, rfl, hwait, hdis, hs⟩ := htook
  -- The terminal handles what is left of the answers.
  obtain ⟨v, hserves⟩ :
      ∃ v, Terminal.Serves (Viewer.packet wire magic) s.client.session rest v := by
    have htold := wire.serves_told magic h.tells.welcome
    rw [show wire.packets magic (s.server.session.world.told id) = g ++ rest from hsplit] at htold
    obtain ⟨v₁, hg, hrest⟩ := Terminal.serves_append htold
    exact ⟨_, serves_unique hs hg ▸ hrest⟩
  have hdown := h.down
  rw [hsplit, List.map_append, List.flatten_append, List.append_assoc,
    List.append_cancel_left_eq] at hdown
  have hchunk : r ++ s.down.take n <+: (rest.map Packet.bytes).flatten := by
    rw [← hdown, List.prefix_append_right_inj]
    exact List.take_prefix n s.down
  obtain ⟨k', hk', g', rest', r', rfl, hr', hwait', hdis', hs', -⟩ :=
    hwait.loop (s.down.take n) hchunk hserves
  have hrecv := Terminal.recvFromServer_of_clientRecv hk'
  rw [hrecv]
  refine ⟨(g.map Packet.bytes).flatten ++ (r ++ s.down.take n), ⟨h.up, h.handled, h.waits, h.tells,
    h.telling, ?_, ⟨g ++ g', rest', r', ?_, ?_, hwait', ?_, Terminal.serves_trans hs hs'⟩, by simp⟩⟩
  · rw [List.append_assoc, List.append_assoc, List.take_append_drop, ← List.append_assoc]
    exact h.down
  · rw [List.append_assoc]
    exact hsplit
  · rw [hr', List.map_append, List.flatten_append, List.append_assoc]
  · rw [hdis', hdis, List.append_assoc, List.map_append]

/-- What other threads do to the world of the server changes nothing for the connection. -/
lemma Inv.others {s s' : Session magic} {p q : List UInt8} (h : Inv wire id s p q) {w : World}
    (haccount : w.account = s.server.session.world.account)
    (hs' : s' = { s with server.session.world := w }) : Inv wire id s' p q := by
  subst hs'
  have htold : w.told id = s.told id := by
    rw [World.told, haccount]
    rfl
  have hlogged : ∀ {w' : Work}, LoggedIn id w' → w' = s.server.session →
      LoggedIn id ⟨s.server.session.user, w⟩ := fun h hw => (hw ▸ h).of_eq rfl htold
  refine ⟨h.up, h.handled, h.waits, ?_, fun hs => ?_, ?_, ?_, h.connected⟩
  · exact h.tells.imp (fun h => htold.trans h) fun h => hlogged h rfl
  · exact (h.telling hs).imp (fun h => ⟨h.1, htold.trans h.2⟩) fun h => hlogged h rfl
  · change q ++ s.down = ((wire.packets magic (w.told id)).map Packet.bytes).flatten
    rw [htold]
    exact h.down
  · change ∃ g rest r, Terminal.Took _ _ _ (wire.packets magic (w.told id)) g rest r _
    rw [htold]
    exact h.took

/-- Every event keeps the invariant. -/
lemma Inv.step {s : Session magic} {p q : List UInt8} (h : Inv wire id s p q) (e : Event magic) :
    ∃ p' q', Inv wire id (Session.step wire id s e) p' q' := by
  cases e with
  | ask l => exact ⟨p, q, h.ask l⟩
  | serve n =>
      obtain ⟨p', h'⟩ := h.serve n
      exact ⟨p', q, h'⟩
  | view n =>
      obtain ⟨q', h'⟩ := h.view n
      exact ⟨p, q', h'⟩
  | others store => exact ⟨p, q, h.others (w := { s.server.session.world with store }) rfl rfl⟩
  | addUser user => exact ⟨p, q, h.others
      (w := { s.server.session.world with
        listUser := User.add s.server.session.world.listUser user }) rfl rfl⟩
  | drop =>
      exact ⟨p, q, h.up, h.handled, fun hs => (by cases hs), h.tells, fun hs => (by cases hs),
        h.down, h.took, h.connected⟩

lemma waiting_new :
    Terminal.Waiting (⟨[], ⟨0, 0, 0, 0, 0, 0⟩⟩ : PacketClient) [] ([] : List (Packet magic)) :=
  ⟨.inl ⟨by decide, rfl⟩, rfl, by decide⟩

/-- A connection that was just made. -/
lemma inv_start {w : World} (hw : ∀ e ∈ w.account, e.1 ≠ id) :
    Inv wire id (start w : Session magic) [] [] := by
  have htold : w.told id = [] := by
    rw [World.told, List.filterMap_eq_nil_iff]
    rintro ⟨i, deed⟩ he
    cases deed with
    | send a => exact if_neg (hw _ he)
    | login => rfl
    | write => rfl
    | read => rfl
  have hfresh : (start w : Session magic).answers wire id = [] := by
    rw [answers, Session.told, start, htold]
    rfl
  refine ⟨rfl, List.nil_prefix, fun _ => ⟨[], [], [], rfl, rfl, waiting_new, rfl⟩, .inl htold,
    fun _ => .inl ⟨rfl, htold⟩, ?_, ⟨[], [], [], ?_⟩, rfl⟩
  · rw [hfresh]
    rfl
  · rw [hfresh]
    exact ⟨rfl, rfl, waiting_new, rfl, rfl⟩

lemma run_inv {s : Session magic} {p q : List UInt8} (h : Inv wire id s p q)
    (l : List (Event magic)) : ∃ p' q', Inv wire id (run wire id s l) p' q' := by
  induction l generalizing s p q with
  | nil => exact ⟨p, q, h⟩
  | cons e l ih =>
      obtain ⟨p', q', h'⟩ := h.step e
      exact ih h'

/-! ### Agreement -/

variable (wire id) in
/-- Both sides agree on what has happened. -/
structure Agreed (s : Session magic) : Prop where
  /-- The server has handled the first messages of the terminal, each once and in order. -/
  asked : s.server.dispatched <+: s.asked.map Letter.body
  /-- The terminal has handled the first answers of the server, each once and in order. -/
  told : s.client.dispatched <+: (s.told id).map fun a => (wire.letter magic a).body
  /-- The terminal has found nothing wrong with them. -/
  connected : s.connected = true
  /-- What the terminal knows is what these answers say. -/
  view : s.client.session = wire.viewOf ((s.told id).take s.client.dispatched.length)
  /-- A terminal that takes itself for logged in is, with the access of the user. -/
  access : s.client.session.access ≠ 0 → ∃ user result, s.server.session.user = some user ∧
    Granted user result ∧ s.client.session.access = user.getAccess false
  /-- When nothing is on its way to a server that serves the client, it has handled all. -/
  allAsked : s.served = true → s.up = [] → s.server.dispatched = s.asked.map Letter.body
  /-- When nothing is on its way to the terminal, it has handled all. -/
  allTold : s.down = [] → s.client.dispatched = (s.told id).map fun a => (wire.letter magic a).body

lemma requests_body (s : Session magic) :
    s.requests.map Packet.body = s.asked.map Letter.body := by
  rw [requests, List.map_map]
  exact List.map_congr_left fun l _ => l.packet_body

lemma answers_body (s : Session magic) :
    (s.answers wire id).map Packet.body
      = (s.told id).map fun a => (wire.letter magic a).body := by
  rw [answers, Wire.packets, List.map_map]
  exact List.map_congr_left fun a _ => (wire.letter magic a).packet_body

/-- Bytes that are short of the next packet and are all that is left: there is no next packet. -/
lemma rest_nil {c : PacketClient} {r : List UInt8} {rest : List (Packet magic)}
    (h : Terminal.Waiting c r rest) (hr : r = (rest.map Packet.bytes).flatten) : rest = [] := by
  cases rest with
  | nil => rfl
  | cons packet rest =>
      have hshort : r.length < packet.bytes.length := h.short
      rw [hr, List.map_cons, List.flatten_cons, List.length_append] at hshort
      omega

/-- The invariant of a session is what both sides agree on. -/
lemma Inv.agreed {s : Session magic} {p q : List UInt8} (h : Inv wire id s p q) :
    Agreed wire id s := by
  obtain ⟨g, rest, r, hsplit, hq, hwait, hdis, hs⟩ := h.took
  have hdispatched : s.client.dispatched = g.map Packet.body := hdis.trans (List.nil_append _)
  -- The answers that the terminal has handled are the first ones.
  have htake : g = wire.packets magic ((s.told id).take s.client.dispatched.length) := by
    rw [Wire.packets, List.map_take, hdispatched, List.length_map]
    exact ((congrArg (List.take g.length) hsplit).trans List.take_left).symm
  have hview : s.client.session = wire.viewOf ((s.told id).take s.client.dispatched.length) :=
    serves_unique hs (htake ▸ wire.serves_told magic (h.tells.welcome.take _))
  refine ⟨?_, ?_, h.connected, hview, fun hacc => ?_, fun hserved hup => ?_, fun hdown => ?_⟩
  · rw [← requests_body]
    exact h.handled
  · rw [← answers_body, hsplit, List.map_append, hdispatched]
    exact List.prefix_append _ _
  · rw [hview] at hacc ⊢
    obtain hnil | ⟨user, result, rest, hu, hgranted, htold, -⟩ := h.tells
    · rw [show s.told id = [] from hnil, List.take_nil] at hacc
      exact absurd rfl hacc
    · rw [show s.told id = .login result (user.getAccess false) :: rest from htold] at hacc ⊢
      refine ⟨user, result, hu, hgranted, ?_⟩
      cases hn : s.client.dispatched.length with
      | zero =>
          rw [hn] at hacc
          exact absurd rfl hacc
      | succ n => rfl
  · obtain ⟨g, rest, r, hsplit, rfl, hwait, hdis⟩ := h.waits hserved
    have hup' := h.up
    rw [hup, List.append_nil, hsplit, List.map_append, List.flatten_append] at hup'
    obtain rfl := rest_nil hwait (List.append_cancel_left hup')
    rw [← requests_body, hsplit, List.append_nil, hdis]
  · have hdown' := h.down
    rw [hdown, List.append_nil, hq, hsplit, List.map_append, List.flatten_append] at hdown'
    obtain rfl := rest_nil hwait (List.append_cancel_left hdown')
    rw [← answers_body, hsplit, List.append_nil, hdispatched]

/-- For every run of a terminal and the server on a new connection, with any messages of the
terminal, any cut of the bytes into chunks and any order of the two directions, while other threads
change the variables and the users: both sides handle what the other has sent, each message once
and in order; the terminal refuses nothing and shows what the answers say; and it takes itself for
logged in only when the server has granted it a login with that access. -/
theorem run_agreed (wire : Wire) {id : ℕ} {w : World} (hw : ∀ e ∈ w.account, e.1 ≠ id)
    (l : List (Event magic)) : Agreed wire id (run wire id (start w) l) := by
  obtain ⟨p, q, h⟩ := run_inv (show Inv wire id (start w : Session magic) [] [] from inv_start hw) l
  exact h.agreed

/-- A user of the server. -/
def knownUser : User :=
  ⟨List.replicate maxHashSize 0x11, List.replicate maxHashSize 0x11, "u", accessSA, accessSA, 0⟩

/-- A server that has granted a login on another connection. -/
def usedWorld : World where
  listUser := [knownUser]
  store := ⟨⟨[], fun _ => [], fun _ => [], fun _ => false, false⟩, fun _ => []⟩
  account := [(1, .login (some knownUser) .success), (1, .send (.login .success accessSA)),
    (1, .send (.data none [] [] true true false))]

/-- The login of the user, in hexadecimal digits. -/
def loginLetter : Letter Terminal.magics :=
  ⟨Terminal.magics.login, List.replicate 40 0x31, .inr rfl, by simp, by decide⟩

/-- The login arrives in two chunks, and the two answers in two others. -/
def loginRun : List (Event Terminal.magics) :=
  [.ask loginLetter, .serve 3, .serve 100, .view 25, .view 100]

/-- The login is granted, and both sides agree on it. -/
theorem run_agreed_login :
    Agreed Viewer.plainWire 0 (run Viewer.plainWire 0 (start usedWorld) loginRun) ∧
      (run Viewer.plainWire 0 (start usedWorld) loginRun).client.session.access = accessSA :=
  ⟨run_agreed Viewer.plainWire (by decide) loginRun, by decide +kernel⟩

end Session

end Tritonn

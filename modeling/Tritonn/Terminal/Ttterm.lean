import Tritonn.Terminal.Checksum
import Tritonn.Terminal.Authorised

/-!
The other side of the terminal: `rPacketClient::send` of `src/shared/packet_client.cpp`, and the
terminal program, `src/ttterm/tritonn_manager.cpp`.

* `Letter` is a message that was serialised, and `Letter.send` the bytes that are sent for it;
  `Letter.packet` says that they are a well-formed packet;
* `Wire` is the generated code of both sides, with what they rely on;
* `Viewer` is what the terminal keeps of the answers, and `Terminal.recvFromServer` is
  `RecvFromServer`, whose loop does not drop a packet that its handler refuses;
* `recvFromServer_of_clientRecv` says that it does with the packets that are handled what the
  server's loop does, and `refused_blocks` that a packet that is refused is never dropped: nothing
  behind it is handled any more.
-/

namespace Tritonn

/-! ### Sending -/

/-- The memory of a `UINT`. -/
def uintBytes (x : UInt16) : List UInt8 := [x.toUInt8, (x >>> 8).toUInt8]

/-- The memory of a `UDINT`. -/
def udintBytes (x : UInt32) : List UInt8 :=
  [x.toUInt8, (x >>> 8).toUInt8, (x >>> 16).toUInt8, (x >>> 24).toUInt8]

lemma uintAt_uintBytes (x : UInt16) : uintAt (uintBytes x) 0 = x := by
  have hhigh : ((x >>> 8).toUInt8).toBitVec = (x.toBitVec >>> 8).setWidth 8 := rfl
  rw [← UInt16.toBitVec_inj, uintBytes, uintAt_toBitVec, UInt16.toBitVec_toUInt8, hhigh]
  refine BitVec.eq_of_getLsbD_eq fun i hi => ?_
  simp only [BitVec.getLsbD_or, BitVec.getLsbD_setWidth, BitVec.getLsbD_shiftLeft,
    BitVec.getLsbD_ushiftRight]
  by_cases h : i < 8
  · simp [h, hi]
  · have hsub : 8 + (i - 8) = i := by omega
    have hlt : i - 8 < 8 ∧ i - 8 < 16 := by omega
    simp [h, hi, hsub, hlt]

lemma udintBytes_eq (x : UInt32) :
    udintBytes x = uintBytes x.toUInt16 ++ uintBytes (x >>> 16).toUInt16 := by
  have h₁ : (x.toUInt16 >>> 8).toUInt8 = (x >>> 8).toUInt8 := by
    rw [← UInt8.toBitVec_inj]
    refine BitVec.eq_of_getLsbD_eq fun i hi => ?_
    have hlt : 8 + i < 16 := by omega
    simp [hi, hlt]
  have h₂ : ((x >>> 16).toUInt16 >>> 8).toUInt8 = (x >>> 24).toUInt8 := by
    rw [← UInt8.toBitVec_inj]
    refine BitVec.eq_of_getLsbD_eq fun i hi => ?_
    have hlt : 8 + i < 16 := by omega
    have hadd : 16 + (8 + i) = 24 + i := by omega
    simp [hi, hlt, hadd]
  rw [udintBytes, uintBytes, uintBytes, h₁, h₂, UInt32.toUInt8_toUInt16, UInt32.toUInt8_toUInt16]
  rfl

lemma udintAt_udintBytes (x : UInt32) : udintAt (udintBytes x) 0 = x := by
  have hlow : uintAt (uintBytes x.toUInt16 ++ uintBytes (x >>> 16).toUInt16) 0 = x.toUInt16 := by
    rw [uintAt_append _ (Nat.le_refl 2), uintAt_uintBytes]
  have hhigh : uintAt (uintBytes x.toUInt16 ++ uintBytes (x >>> 16).toUInt16) (0 + 2)
      = (x >>> 16).toUInt16 :=
    (uintAt_append_right (uintBytes x.toUInt16) (uintBytes (x >>> 16).toUInt16) 0).trans
      (uintAt_uintBytes _)
  have hform : (x.toUInt16.toUInt32 ||| (x >>> 16).toUInt16.toUInt32 <<< 16).toBitVec
      = (x.toBitVec.setWidth 16).setWidth 32
        ||| (((x.toBitVec >>> 16).setWidth 16).setWidth 32 <<< 16) := rfl
  rw [udintBytes_eq, udintAt, hlow, hhigh, ← UInt32.toBitVec_inj, hform]
  refine BitVec.eq_of_getLsbD_eq fun i hi => ?_
  simp only [BitVec.getLsbD_or, BitVec.getLsbD_setWidth, BitVec.getLsbD_shiftLeft,
    BitVec.getLsbD_ushiftRight]
  by_cases h : i < 16
  · simp [h, hi]
  · have hsub : 16 + (i - 16) = i := by omega
    have hlt : i - 16 < 16 ∧ i - 16 < 32 := by omega
    simp [h, hi, hsub, hlt]

lemma uintAt_bytes (x : UInt16) (q : List UInt8) : uintAt (uintBytes x ++ q) 0 = x :=
  (uintAt_append q (Nat.le_refl 2)).trans (uintAt_uintBytes x)

lemma udintAt_bytes (x : UInt32) (q : List UInt8) : udintAt (udintBytes x ++ q) 0 = x :=
  (udintAt_append q (Nat.le_refl 4)).trans (udintAt_udintBytes x)

/-- A message that was serialised, with its magic number: there is something in it, and it fits
into the size that a header can tell. -/
structure Letter (magic : Magic) where
  m : UInt32
  data : List UInt8
  known : m = magic.data ∨ m = magic.login
  data_ne : data ≠ []
  data_length : data.length < 2 ^ 32

namespace Letter

variable {magic : Magic}

/-- The part of the header that is under the checksum. -/
def hdr (l : Letter magic) : List UInt8 :=
  udintBytes l.m ++ (uintBytes 0x0100 ++ (uintBytes 0 ++ (udintBytes 0
    ++ udintBytes (UInt32.ofNat l.data.length))))

/-- `rPacketClient::send`: the bytes of the header, and those of the message. -/
def send (l : Letter magic) : List UInt8 := l.hdr ++ udintBytes (crcGet l.hdr) ++ l.data

/-- What is given to the handler: the magic number and the data. -/
def body (l : Letter magic) : UInt32 × List UInt8 := (l.m, l.data)

lemma readHeader_hdr (l : Letter magic) :
    readHeader (l.hdr ++ udintBytes (crcGet l.hdr))
      = ⟨l.m, 0x0100, 0, 0, UInt32.ofNat l.data.length, crcGet l.hdr⟩ := by
  generalize crcGet l.hdr = crc
  rw [readHeader, hdr, List.append_assoc, List.append_assoc, List.append_assoc, List.append_assoc]
  -- Every field stands behind those that are written before it.
  congr 1
  · exact udintAt_bytes l.m _
  · exact uintAt_bytes 0x0100 (uintBytes 0 ++ (udintBytes 0
      ++ (udintBytes (UInt32.ofNat l.data.length) ++ udintBytes crc)))
  · exact uintAt_bytes 0 (udintBytes 0
      ++ (udintBytes (UInt32.ofNat l.data.length) ++ udintBytes crc))
  · exact udintAt_bytes 0 (udintBytes (UInt32.ofNat l.data.length) ++ udintBytes crc)
  · exact udintAt_bytes (UInt32.ofNat l.data.length) (udintBytes crc)
  · exact udintAt_udintBytes crc

lemma hdr_length (l : Letter magic) : l.hdr.length = 16 := rfl

/-- What is sent is a well-formed packet. -/
def packet (l : Letter magic) : Packet magic where
  head := l.hdr ++ udintBytes (crcGet l.hdr)
  data := l.data
  head_length := rfl
  known := by
    rw [readHeader_hdr]
    exact l.known.imp id id
  data_length := by
    rw [readHeader_hdr, UInt32.toNat_ofNat']
    exact Nat.mod_eq_of_lt l.data_length
  data_ne := l.data_ne
  crc := by rw [readHeader_hdr, List.take_left' l.hdr_length]

@[simp] lemma packet_bytes (l : Letter magic) : l.packet.bytes = l.send := rfl

@[simp] lemma packet_body (l : Letter magic) : l.packet.body = l.body := by
  rw [Packet.body, packet, readHeader_hdr, body]

end Letter

/-! ### The terminal -/

/-- The code of a `rUser::LoginResult` in a message. -/
def LoginResult.code : LoginResult → UInt32
  | .undef => 0
  | .success => 1
  | .fault => 2
  | .blocked => 3
  | .changepwd => 4

/-- The generated code of both sides. The terminal reads the result and the access of a login
answer, each of which may be missing, and looks whether a data message is correct; what was
serialised is not empty, fits into a packet and is read again. -/
structure Wire extends Messages where
  serializeAnswer : TermAnswer → List UInt8
  readLogin : List UInt8 → Option (Option UInt32 × Option UInt32)
  isCorrectDataMsg : List UInt8 → Bool
  serialize_ne : ∀ a, serializeAnswer a ≠ []
  serialize_length : ∀ a, (serializeAnswer a).length < 2 ^ 32
  read_login : ∀ result access,
    readLogin (serializeAnswer (.login result access)) = some (some result.code, some access)
  correct_data : ∀ userdata write read confinfo version datetime,
    isCorrectDataMsg (serializeAnswer (.data userdata write read confinfo version datetime)) = true

/-- What the terminal keeps of the answers: `rTritonnManager::Access`, `rDisplayManager::LoginOK`,
and the messages that `CallbackData` was given. -/
structure Viewer where
  access : UInt32
  loginOK : UInt32
  shown : List (List UInt8)

namespace Viewer

variable (wire : Wire)

/-- `rTritonnManager::PacketLogin`. -/
def packetLogin (v : Viewer) (data : List UInt8) : Viewer × Bool :=
  match wire.readLogin data with
  | some (some result, some access) =>
      if result ≠ LoginResult.success.code ∧ result ≠ LoginResult.changepwd.code then (v, false)
      else ({ v with access, loginOK := access }, true)
  | _ => (v, false)

/-- `rTritonnManager::PacketData`. -/
def packetData (v : Viewer) (data : List UInt8) : Viewer × Bool :=
  if v.access = 0 then (v, false)
  else if wire.isCorrectDataMsg data then ({ v with shown := v.shown ++ [data] }, true)
  else (v, false)

/-- The `switch` of `RecvFromServer`. -/
def packet (magic : Magic) (v : Viewer) (m : UInt32) (data : List UInt8) : Viewer × Bool :=
  if m = magic.login then v.packetLogin wire data
  else if m = magic.data then v.packetData wire data
  else (v, false)

end Viewer

namespace Terminal

variable {σ : Type*} (magic : Magic) (handler : σ → UInt32 → List UInt8 → σ × Bool)

/-- The loop of `rTritonnManager::RecvFromServer`; the second result is not `0` when the terminal is
to disconnect. A packet that its handler refuses stays in the buffer. -/
def loopServer (k : Terminal σ) : Terminal σ × ℕ :=
  match _h : k.client.checkBuffer with
  | (client, .error) => ({ k with client }, 1)
  | (client, .null) => ({ k with client }, 0)
  | (client, .data) =>
      let m := client.header.magic
      let data := client.buff.take client.header.dataSize.toNat
      if m ≠ magic.data ∧ m ≠ magic.login then ({ k with client }, 2)
      else
        let (session, result) := handler k.session m data
        let dispatched := k.dispatched ++ [(m, data)]
        if result then loopServer ⟨client.clearPacket, session, dispatched⟩
        else (⟨client, session, dispatched⟩, 0)
termination_by k.client.size
decreasing_by exact PacketClient.size_clearPacket ‹_›

/-- `rTritonnManager::RecvFromServer`. -/
def recvFromServer (k : Terminal σ) (chunk : List UInt8) : Terminal σ × ℕ :=
  loopServer magic handler { k with client := k.client.append chunk }

variable {magic handler}

/-- While no packet is refused, the loops of both sides do the same. -/
lemma loopServer_of_loop {k k' : Terminal σ} (h : k.loop magic handler = (k', 1)) :
    k.loopServer magic handler = (k', 0) := by
  fun_induction loop magic handler k with
  | case1 k client hcheck => cases h
  | case2 k client hcheck =>
      cases h
      rw [loopServer]
      split
      next c he => rw [hcheck] at he; cases he
      next c he => rw [hcheck] at he; cases he; rfl
      next c he => rw [hcheck] at he; cases he
  | case3 k client hcheck m hunknown => cases h
  | case4 k client hcheck m data hknown session dispatched hcall ih =>
      rw [loopServer]
      split
      next c he => rw [hcheck] at he; cases he
      next c he => rw [hcheck] at he; cases he
      next c he =>
        rw [hcheck] at he
        cases he
        simp only [if_neg hknown, m, data] at hcall ⊢
        rw [hcall]
        exact ih h
  | case5 k client hcheck m data hknown session result hcall dispatched hfail => cases h

/-- The packets that are handled are handled by the terminal as by the server. -/
lemma recvFromServer_of_clientRecv {k k' : Terminal σ} {chunk : List UInt8}
    (h : k.clientRecv magic handler chunk = (k', 1)) :
    k.recvFromServer magic handler chunk = (k', 0) := loopServer_of_loop h

lemma loopServer_null {k : Terminal σ} {client : PacketClient}
    (h : k.client.checkBuffer = (client, .null)) :
    k.loopServer magic handler = ({ k with client }, 0) :=
  loopServer_of_loop (loop_null h)

/-- A packet that is handled is dropped, and the loop goes on. -/
lemma Turn.loopServer_eq {k k' : Terminal σ} (h : Turn magic handler k k') :
    k.loopServer magic handler = k'.loopServer magic handler := by
  obtain ⟨client, hcheck, hknown, hok, rfl⟩ := h
  have hnot : ¬ (client.header.magic ≠ magic.data ∧ client.header.magic ≠ magic.login) := by
    rcases hknown with h | h <;> simp [h]
  rw [loopServer]
  split
  next c he => rw [hcheck] at he; cases he
  next c he => rw [hcheck] at he; cases he
  next c he =>
    rw [hcheck] at he
    cases he
    simp only [if_neg hnot, hok, if_true]

lemma loopServer_eq {k k' : Terminal σ} (h : Relation.ReflTransGen (Turn magic handler) k k') :
    k.loopServer magic handler = k'.loopServer magic handler := by
  induction h with
  | refl => rfl
  | tail _ hturn ih => exact ih.trans hturn.loopServer_eq

/-- A packet that its handler refuses ends the loop, and stays. -/
lemma loopServer_refused {k : Terminal σ} {client : PacketClient}
    (h : k.client.checkBuffer = (client, .data)) {m : UInt32} {data : List UInt8}
    (hm : client.header.magic = m) (hknown : m = magic.data ∨ m = magic.login)
    (hdata : client.buff.take client.header.dataSize.toNat = data)
    (hrefused : (handler k.session m data).2 = false) :
    k.loopServer magic handler
      = (⟨client, (handler k.session m data).1, k.dispatched ++ [(m, data)]⟩, 0) := by
  have hnot : ¬ (m ≠ magic.data ∧ m ≠ magic.login) := by
    rcases hknown with h | h <;> simp [h]
  rw [loopServer]
  split
  next c he => rw [h] at he; cases he
  next c he => rw [h] at he; cases he
  next c he =>
    rw [h] at he
    cases he
    simp only [hm, hdata, if_neg hnot, hrefused, Bool.false_eq_true, if_false]

/-! ### A packet that is refused -/

variable (magic handler) in
/-- `ReadFromServer` for the chunks that `recv` returns, until the terminal disconnects. -/
def readServer (k : Terminal σ) : List (List UInt8) → Terminal σ × ℕ
  | [] => (k, 0)
  | chunk :: chunks =>
      match k.recvFromServer magic handler chunk with
      | (k, 0) => k.readServer chunks
      | (k, result + 1) => (k, result + 1)

variable (handler) in
/-- The packet is in the buffer, whole, and its handler refuses it. -/
structure Blocked (k : Terminal σ) (packet : Packet magic) (q : List UInt8) : Prop where
  header : k.client.header = readHeader packet.head
  buff : k.client.buff = packet.data ++ q
  refused : handler k.session packet.body.1 packet.body.2 = (k.session, false)

/-- A chunk that arrives behind a packet that is refused: the packet is refused once more. -/
lemma Blocked.step {k : Terminal σ} {packet : Packet magic} {q : List UInt8}
    (h : Blocked handler k packet q) (hsmall : k.client.buff.length < 2 ^ 32)
    (chunk : List UInt8) :
    ∃ k', k.recvFromServer magic handler chunk = (k', 0) ∧
      Blocked handler k' packet (q ++ chunk) ∧ k'.session = k.session ∧
      k'.dispatched = k.dispatched ++ [packet.body] := by
  have hrep : (k.client.append chunk).Represents (packet.bytes ++ (q ++ chunk)) := by
    rw [PacketClient.append_buff _ hsmall, Packet.bytes, List.append_assoc]
    refine .inr ⟨?_, ?_, ?_, ?_⟩
    · rw [PacketClient.headed, h.header]
      exact ⟨packet.magic_ne, packet.dataSize_ne⟩
    · rw [List.length_append, packet.head_length]
      omega
    · rw [readHeader_append _ packet.head_length.ge, ← h.header]
    · rw [List.drop_left' packet.head_length, h.buff, List.append_assoc]
  have hrefused := h.refused
  have hloop := loopServer_refused (k := { k with client := k.client.append chunk })
    (checkBuffer_packet packet hrep) rfl packet.known (take_data _ _) (congrArg Prod.snd hrefused)
  refine ⟨_, hloop, ⟨rfl, rfl, ?_⟩, congrArg Prod.fst hrefused, rfl⟩
  exact (congrArg Prod.fst hrefused).symm ▸ hrefused

/-- The chunks behind a packet that is refused. -/
lemma Blocked.readServer {packet : Packet magic} (chunks : List (List UInt8)) {k : Terminal σ}
    {q : List UInt8} (h : Blocked handler k packet q)
    (hsmall : k.client.buff.length + chunks.flatten.length < 2 ^ 32) :
    ∃ k' n, k.readServer magic handler chunks = (k', 0) ∧ k'.session = k.session ∧
      k'.dispatched = k.dispatched ++ List.replicate n packet.body := by
  induction chunks generalizing k q with
  | nil => exact ⟨k, 0, rfl, rfl, by simp⟩
  | cons chunk chunks ih =>
      rw [List.flatten_cons, List.length_append] at hsmall
      obtain ⟨k', hk', hblocked, hsession, hdis⟩ := h.step (by omega) chunk
      have hlen : k'.client.buff.length = k.client.buff.length + chunk.length := by
        rw [hblocked.buff, h.buff]
        simp only [List.length_append]
        omega
      obtain ⟨k'', n, hk'', hsession', hdis'⟩ := ih hblocked (by omega)
      refine ⟨k'', n + 1, ?_, hsession'.trans hsession, ?_⟩
      · rw [Terminal.readServer, hk']
        exact hk''
      · rw [hdis', hdis, List.append_assoc, List.replicate_succ, List.singleton_append]

/-- The bytes `p` have arrived, the beginning of those of some packets that are handled and of one
that is refused, which is not whole yet. -/
structure Coming (handler : σ → UInt32 → List UInt8 → σ × Bool) (k₀ : Terminal σ) (s' : σ)
    (packets : List (Packet magic)) (packet : Packet magic) (p : List UInt8) (k : Terminal σ)
    (g rest : List (Packet magic)) (r : List UInt8) : Prop where
  split : packets = g ++ rest
  bytes : p = (g.map Packet.bytes).flatten ++ r
  waiting : Waiting k.client r (rest ++ [packet])
  dispatched : k.dispatched = k₀.dispatched ++ g.map Packet.body
  served : Serves handler k.session rest s'

/-- The handlers succeed on the first of some packets, and then on the others. -/
lemma serves_append {s s' : σ} {g rest : List (Packet magic)}
    (h : Serves handler s (g ++ rest) s') :
    ∃ s₁, Serves handler s g s₁ ∧ Serves handler s₁ rest s' := by
  induction g generalizing s with
  | nil => exact ⟨s, rfl, h⟩
  | cons p g ih =>
      obtain ⟨s₁, hg, hrest⟩ := ih h.2
      exact ⟨s₁, ⟨h.1, hg⟩, hrest⟩

/-- A chunk before the packet that is refused is whole, or the one with which it is. -/
lemma Coming.step {k₀ k : Terminal σ} {s' : σ} {packets g rest : List (Packet magic)}
    {packet : Packet magic} {p r q : List UInt8}
    (h : Coming handler k₀ s' packets packet p k g rest r)
    (hrefused : handler s' packet.body.1 packet.body.2 = (s', false)) (chunk : List UInt8)
    (hp : p ++ chunk <+: (packets.map Packet.bytes).flatten ++ (packet.bytes ++ q)) :
    ∃ k', k.recvFromServer magic handler chunk = (k', 0) ∧
      ((∃ g' rest' r', Coming handler k₀ s' packets packet (p ++ chunk) k' g' rest' r') ∨
        ∃ q', Blocked handler k' packet q' ∧
          p ++ chunk = (packets.map Packet.bytes).flatten ++ (packet.bytes ++ q') ∧
          k'.session = s' ∧
          k'.dispatched = k₀.dispatched ++ packets.map Packet.body ++ [packet.body]) := by
  obtain ⟨rfl, rfl, hwait, hdis, hs⟩ := h
  have hflat : ((rest ++ [packet]).map Packet.bytes).flatten
      = (rest.map Packet.bytes).flatten ++ packet.bytes := by simp
  have hrep := hwait.represents.append hwait.small chunk
  rw [List.map_append, List.flatten_append, List.append_assoc, List.append_assoc,
    List.prefix_append_right_inj, ← List.append_assoc _ packet.bytes q, ← hflat] at hp
  rw [List.append_assoc]
  by_cases hlen : (r ++ chunk).length < ((rest ++ [packet]).map Packet.bytes).flatten.length
  · -- The packet is not whole.
    have hle : r ++ chunk <+: ((rest ++ [packet]).map Packet.bytes).flatten :=
      List.prefix_of_prefix_length_le hp (List.prefix_append _ _) hlen.le
    obtain ⟨g', rest', r', hsplit, hr, hshort⟩ := exists_whole (rest ++ [packet]) hle
    obtain ⟨rest', rfl, rfl⟩ : ∃ rest'', rest' = rest'' ++ [packet] ∧ rest = g' ++ rest'' := by
      rcases List.eq_nil_or_concat' rest' with rfl | ⟨rest'', last, rfl⟩
      · rw [List.append_nil] at hsplit
        rw [show r' = [] from hshort, List.append_nil, ← hsplit] at hr
        rw [hr] at hlen
        exact absurd hlen (lt_irrefl _)
      · rw [← List.append_assoc] at hsplit
        obtain ⟨hrest, hlast⟩ := List.append_inj' hsplit rfl
        obtain rfl : packet = last := by simpa using hlast
        exact ⟨rest'', rfl, hrest⟩
    obtain ⟨s₁, hg', hrest'⟩ := serves_append hs
    rw [hr] at hrep
    obtain ⟨k', hturns, hr', -, rfl, hdis'⟩ :=
      turns_packets (k := { k with client := k.client.append chunk }) hrep hg'
    rw [hr, List.append_assoc g', List.map_append, List.flatten_append,
      List.prefix_append_right_inj] at hle
    obtain ⟨c, hcheck, hwait'⟩ := checkBuffer_waits hr' hle hshort
    refine ⟨_, (loopServer_eq hturns).trans (loopServer_null hcheck), .inl
      ⟨g ++ g', rest', r', (List.append_assoc _ _ _).symm, ?_, hwait', ?_, hrest'⟩⟩
    · rw [hr, List.map_append, List.flatten_append, List.append_assoc]
    · rw [hdis', List.map_append, ← List.append_assoc, ← hdis]
  · -- The packet is whole.
    obtain ⟨q', hq'⟩ : ((rest ++ [packet]).map Packet.bytes).flatten <+: r ++ chunk :=
      List.prefix_of_prefix_length_le (List.prefix_append _ _) hp (not_lt.mp hlen)
    rw [hflat, List.append_assoc] at hq'
    rw [← hq'] at hrep
    obtain ⟨k', hturns, hr', -, rfl, hdis'⟩ :=
      turns_packets (k := { k with client := k.client.append chunk }) hrep hs
    have hloop := loopServer_refused (checkBuffer_packet packet hr') rfl packet.known
      (take_data _ _) (congrArg Prod.snd hrefused)
    have hsession := congrArg Prod.fst hrefused
    refine ⟨_, (loopServer_eq hturns).trans hloop, .inr ⟨q', ⟨rfl, rfl, ?_⟩, ?_, hsession, ?_⟩⟩
    · exact hsession.symm ▸ hrefused
    · rw [← hq', List.map_append, List.flatten_append, List.append_assoc]
    · simp only [hdis', hdis, List.map_append, List.append_assoc]
      rfl

/-- The chunks of a connection with a packet that is refused. -/
lemma Coming.readServer {k₀ : Terminal σ} {s' : σ} {packets : List (Packet magic)}
    {packet : Packet magic} {q : List UInt8}
    (hrefused : handler s' packet.body.1 packet.body.2 = (s', false))
    (chunks : List (List UInt8)) {k : Terminal σ} {g rest : List (Packet magic)}
    {p r : List UInt8} (h : Coming handler k₀ s' packets packet p k g rest r)
    (hp : p ++ chunks.flatten = (packets.map Packet.bytes).flatten ++ (packet.bytes ++ q))
    (hsmall : (p ++ chunks.flatten).length < 2 ^ 32) :
    ∃ k' n, k.readServer magic handler chunks = (k', 0) ∧ k'.session = s' ∧
      k'.dispatched = k₀.dispatched ++ packets.map Packet.body
        ++ List.replicate (n + 1) packet.body := by
  induction chunks generalizing k g rest p r with
  | nil =>
      -- The bytes that are kept would reach behind the packet.
      exfalso
      obtain ⟨rfl, rfl, hwait, -, -⟩ := h
      rw [List.flatten_nil, List.append_nil, List.map_append, List.flatten_append,
        List.append_assoc] at hp
      have hr := congrArg List.length (List.append_cancel_left hp)
      have hshort := hwait.short
      cases rest with
      | nil =>
          have hlen : r.length < packet.bytes.length := hshort
          simp only [List.map_nil, List.flatten_nil, List.nil_append, List.length_append] at hr
          omega
      | cons first rest =>
          have hlen : r.length < first.bytes.length := hshort
          simp only [List.map_cons, List.flatten_cons, List.length_append] at hr
          omega
  | cons chunk chunks ih =>
      rw [List.flatten_cons, ← List.append_assoc] at hp hsmall
      obtain ⟨k', hk', ⟨g', rest', r', h'⟩ | ⟨q', hblocked, hq', hsession, hdis⟩⟩ :=
        h.step hrefused chunk (q := q) ⟨_, hp⟩
      · obtain ⟨k'', n, hk'', hrest⟩ := ih h' hp hsmall
        refine ⟨k'', n, ?_, hrest⟩
        rw [Terminal.readServer, hk']
        exact hk''
      · have hlen : k'.client.buff.length ≤ (p ++ chunk).length := by
          rw [hblocked.buff, hq', Packet.bytes]
          simp only [List.length_append]
          omega
        rw [List.length_append] at hsmall
        obtain ⟨k'', n, hk'', hsession', hdis'⟩ :=
          hblocked.readServer chunks (by omega)
        refine ⟨k'', n, ?_, hsession'.trans hsession, ?_⟩
        · rw [Terminal.readServer, hk']
          exact hk''
        · rw [hdis', hdis, List.replicate_succ]
          simp only [List.append_assoc, List.singleton_append]

/-- A terminal that is given some packets that it handles, then one that it refuses, and then any
bytes, however they are cut: it stays connected, and it refuses that packet again with every chunk
that arrives; nothing behind the packet is ever handled. -/
theorem refused_blocks {k : Terminal σ} (hk : k.client.AtBoundary) (packets : List (Packet magic))
    {s' : σ} (hs : Serves handler k.session packets s') (packet : Packet magic)
    (hrefused : handler s' packet.body.1 packet.body.2 = (s', false)) (q : List UInt8)
    (chunks : List (List UInt8))
    (hcut : chunks.flatten = (packets.map Packet.bytes).flatten ++ (packet.bytes ++ q))
    (hsmall : chunks.flatten.length < 2 ^ 32) :
    ∃ k' n, k.readServer magic handler chunks = (k', 0) ∧ k'.session = s' ∧
      k'.dispatched = k.dispatched ++ packets.map Packet.body
        ++ List.replicate (n + 1) packet.body := by
  refine Coming.readServer hrefused chunks (p := []) (r := []) (g := [])
    ⟨rfl, rfl, ⟨.inl hk, ?_, by rw [hk.2]; decide⟩, by simp, hs⟩ hcut hsmall
  cases packets with
  | nil => exact bytes_pos packet
  | cons first packets => exact bytes_pos first

end Terminal

namespace Viewer

variable {wire : Wire} {magic : Magic}

/-- A packet that is refused changes nothing that the terminal keeps. -/
lemma packet_of_refused {v : Viewer} {m : UInt32} {data : List UInt8}
    (h : (v.packet wire magic m data).2 = false) : v.packet wire magic m data = (v, false) := by
  rw [packet] at h ⊢
  by_cases hlogin : m = magic.login
  · rw [if_pos hlogin] at h ⊢
    rw [packetLogin] at h ⊢
    split at h
    · split_ifs at h with hresult
      exact if_pos hresult
    · rfl
  by_cases hdata : m = magic.data
  · rw [if_neg hlogin, if_pos hdata] at h ⊢
    rw [packetData] at h ⊢
    split_ifs at h with hacc hcorrect
    · exact if_pos hacc
    · rw [if_neg hacc, if_neg hcorrect]
  · rw [if_neg hlogin, if_neg hdata]

/-- A terminal that refuses a packet, such as data that come before the answer to its login: it
stays connected with what it knew, and whatever arrives behind the packet, a login answer too, is
never looked at. -/
theorem refusal_blocks {k : Terminal Viewer} (hk : k.client.AtBoundary)
    (packets : List (Packet magic)) {v : Viewer}
    (hs : Terminal.Serves (Viewer.packet wire magic) k.session packets v) (packet : Packet magic)
    (hrefused : (v.packet wire magic packet.body.1 packet.body.2).2 = false) (q : List UInt8)
    (chunks : List (List UInt8))
    (hcut : chunks.flatten = (packets.map Packet.bytes).flatten ++ (packet.bytes ++ q))
    (hsmall : chunks.flatten.length < 2 ^ 32) :
    ∃ k' n, k.readServer magic (Viewer.packet wire magic) chunks = (k', 0) ∧ k'.session = v ∧
      k'.dispatched = k.dispatched ++ packets.map Packet.body
        ++ List.replicate (n + 1) packet.body :=
  Terminal.refused_blocks hk packets hs packet (packet_of_refused hrefused) q chunks hcut hsmall

/-- Generated code that writes every data message as the one byte `7`. -/
def plainWire : Wire where
  deserializeLogin data := some ⟨data, data⟩
  deserializeData _ := none
  text := ⟨fun _ => none, fun _ => none, fun _ => none, fun _ => none, fun _ => [], fun _ _ => ""⟩
  raw := ⟨none, .undef, []⟩
  serializeAnswer
    | .login result access => 1 :: udintBytes result.code ++ udintBytes access
    | .data .. => [7]
  readLogin data := some (some (udintAt data 1), some (udintAt data 5))
  isCorrectDataMsg data := data = [7]
  serialize_ne a := by cases a <;> simp [udintBytes]
  serialize_length a := by cases a <;> simp [udintBytes]
  read_login result access := by
    refine congrArg some (Prod.ext (congrArg some ?_) (congrArg some ?_))
    · exact udintAt_bytes result.code (udintBytes access)
    · exact udintAt_udintBytes access
  correct_data _ _ _ _ _ _ := by simp

/-- The data message of that code. -/
def sevens : Letter Terminal.magics := ⟨1, [7], .inl rfl, List.cons_ne_nil _ _, by decide⟩

/-- The answer to a login that is granted. -/
def granted : Letter Terminal.magics :=
  ⟨2, plainWire.serializeAnswer (.login .success accessSA), .inr rfl,
    plainWire.serialize_ne _, plainWire.serialize_length _⟩

/-- A data message that is not correct. -/
def eights : Letter Terminal.magics := ⟨1, [8], .inl rfl, List.cons_ne_nil _ _, by decide⟩

/-- A terminal is logged in and given a data message; the next one is refused, and another one
behind it is never looked at. -/
theorem refusal_blocks_login :
    ∃ k' n, (⟨⟨[], ⟨0, 0, 0, 0, 0, 0⟩⟩, ⟨0, 0, []⟩, []⟩ : Terminal Viewer).readServer
        Terminal.magics (Viewer.packet plainWire Terminal.magics)
        [granted.packet.bytes ++ sevens.packet.bytes.take 7,
          sevens.packet.bytes.drop 7 ++ eights.packet.bytes, sevens.packet.bytes] = (k', 0) ∧
      k'.session = ⟨accessSA, accessSA, [[7]]⟩ ∧
      k'.dispatched = [] ++ [granted.packet, sevens.packet].map Packet.body
        ++ List.replicate (n + 1) eights.packet.body := by
  refine refusal_blocks (k := ⟨⟨[], ⟨0, 0, 0, 0, 0, 0⟩⟩, ⟨0, 0, []⟩, []⟩) ⟨by decide, rfl⟩
    [granted.packet, sevens.packet] ⟨?_, ?_, ?_⟩ eights.packet ?_ sevens.packet.bytes _ ?_ ?_
  · rw [Letter.packet_body]
    decide
  · rw [Letter.packet_body, Letter.packet_body]
    decide
  · rw [Letter.packet_body, Letter.packet_body]
    rfl
  · rw [Letter.packet_body]
    decide
  · have hsplit := List.take_append_drop 7 sevens.packet.bytes
    simp only [List.flatten_cons, List.flatten_nil, List.map_cons, List.map_nil, List.append_nil,
      List.append_assoc]
    rw [← List.append_assoc (sevens.packet.bytes.take 7), hsplit]
  · simp [Packet.length_bytes, Letter.packet, sevens, eights, granted, headerSize]
    decide

end Viewer

end Tritonn

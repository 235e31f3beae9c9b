import Tritonn.Lib.Segment
import Tritonn.Terminal.Packet

/-!
Framing of the terminal: whether the packets of a connection are handled however they are cut into
chunks.

* `Packet` is a well-formed packet, and `Serves` what the handlers do with a list of packets,
  without the framing;
* `Represents` says which bytes a client keeps, with the header of the packet parsed or not, and
  `Short` that they do not reach the end of the next packet;
* `loop_spec` is the loop of `ClientRecv` over the bytes that the client keeps: it handles the
  packets that are whole and keeps a short rest; `clientRecv_spec` is a chunk of it, and
  `readAll_spec` all chunks of a connection;
* `framed` says that the packets are handled, each once, in order and with its exact bytes, and
  that the connection stays open.
-/

namespace Tritonn

/-! ### Packets -/

/-- A well-formed packet: the twenty bytes of the header, with a known magic number, the size of
the data, which is not empty, and a checksum that is right, and the data. -/
structure Packet (magic : Magic) where
  head : List UInt8
  data : List UInt8
  head_length : head.length = headerSize
  known : (readHeader head).magic = magic.data ∨ (readHeader head).magic = magic.login
  data_length : (readHeader head).dataSize.toNat = data.length
  data_ne : data ≠ []
  crc : crcGet (head.take 16) = (readHeader head).crc32

namespace Packet

variable {magic : Magic}

/-- The bytes of a packet. -/
def bytes (p : Packet magic) : List UInt8 := p.head ++ p.data

/-- What is given to the handler of a packet: its magic number and its data. -/
def body (p : Packet magic) : UInt32 × List UInt8 := ((readHeader p.head).magic, p.data)

lemma length_bytes (p : Packet magic) : p.bytes.length = headerSize + p.data.length := by
  rw [bytes, List.length_append, p.head_length]

lemma magic_ne (p : Packet magic) : (readHeader p.head).magic ≠ 0 := by
  rcases p.known with h | h
  · exact h ▸ magic.data_ne
  · exact h ▸ magic.login_ne

lemma dataSize_ne (p : Packet magic) : (readHeader p.head).dataSize ≠ 0 := by
  intro h
  have hlen := p.data_length
  rw [h] at hlen
  exact p.data_ne (List.length_eq_zero_iff.mp hlen.symm)

lemma data_length_lt (p : Packet magic) : p.data.length < 2 ^ 32 := by
  rw [← p.data_length]
  exact UInt32.toNat_lt _

end Packet

lemma uintAt_append {p : List UInt8} (q : List UInt8) {i : ℕ} (h : i + 2 ≤ p.length) :
    uintAt (p ++ q) i = uintAt p i := by
  rw [uintAt, uintAt, List.getD_append _ _ _ _ (by omega), List.getD_append _ _ _ _ (by omega)]

lemma udintAt_append {p : List UInt8} (q : List UInt8) {i : ℕ} (h : i + 4 ≤ p.length) :
    udintAt (p ++ q) i = udintAt p i := by
  rw [udintAt, udintAt, uintAt_append q (by omega), uintAt_append q (by omega)]

/-- The header of the bytes is that of the bytes they begin with. -/
lemma readHeader_append {p : List UInt8} (q : List UInt8) (h : headerSize ≤ p.length) :
    readHeader (p ++ q) = readHeader p := by
  rw [headerSize] at h
  rw [readHeader, readHeader, udintAt_append q (by omega), uintAt_append q (by omega),
    uintAt_append q (by omega), udintAt_append q (by omega), udintAt_append q (by omega),
    udintAt_append q (by omega)]

/-! ### The bytes that a client keeps -/

namespace PacketClient

/-- The client keeps the bytes `p` that are not handled yet: in its buffer, or with the header
parsed. -/
def Represents (c : PacketClient) (p : List UInt8) : Prop :=
  (¬ c.headed ∧ c.buff = p) ∨
    (c.headed ∧ headerSize ≤ p.length ∧ c.header = readHeader p ∧ c.buff = p.drop headerSize)

/-- The client is at the boundary of a packet. -/
def AtBoundary (c : PacketClient) : Prop := ¬ c.headed ∧ c.buff = []

variable {c : PacketClient} {p : List UInt8}

/-- A chunk is put behind the bytes that are kept. -/
lemma append_buff (c : PacketClient) (hlen : c.buff.length < 2 ^ 32) (chunk : List UInt8) :
    c.append chunk = { c with buff := c.buff ++ chunk } := by
  rw [append]
  split_ifs with h
  · rw [h, List.nil_append]
  · rw [Nat.mod_eq_of_lt hlen]
    simp

lemma Represents.append (h : c.Represents p) (hlen : c.buff.length < 2 ^ 32)
    (chunk : List UInt8) : (c.append chunk).Represents (p ++ chunk) := by
  rw [append_buff c hlen]
  rcases h with ⟨hh, hbuff⟩ | ⟨hh, hp, hheader, hbuff⟩
  · exact .inl ⟨hh, by rw [hbuff]⟩
  · refine .inr ⟨hh, ?_, ?_, ?_⟩
    · rw [List.length_append]
      omega
    · rw [readHeader_append chunk hp, ← hheader]
    · rw [List.drop_append_of_le_length hp, ← hbuff]

/-- A client that keeps nothing is at the boundary of a packet. -/
lemma Represents.atBoundary (h : c.Represents []) : c.AtBoundary := by
  rcases h with h | ⟨-, hp, -⟩
  · exact h
  · exact absurd hp (by decide)

lemma Represents.length_le (h : c.Represents p) : c.buff.length ≤ p.length := by
  rcases h with ⟨-, hbuff⟩ | ⟨-, -, -, hbuff⟩
  · rw [hbuff]
  · rw [hbuff, List.length_drop]
    exact Nat.sub_le _ _

/-- A client that keeps less than a header waits for it. -/
lemma checkBuffer_short (h : c.Represents p) (hp : p.length < headerSize) :
    c.checkBuffer = (c, .null) := by
  rcases h with ⟨hh, hbuff⟩ | ⟨-, hle, -⟩
  · rw [checkBuffer, if_neg hh, hbuff, if_pos hp]
  · omega

/-- A client that keeps the header of a packet looks at the data behind it. -/
lemma checkBuffer_header {magic : Magic} (packet : Packet magic) {q : List UInt8}
    (h : c.Represents (packet.head ++ q)) :
    c.checkBuffer = checkData ⟨q, readHeader packet.head⟩ := by
  have hlen : headerSize ≤ packet.head.length := packet.head_length.ge
  have hheader : readHeader (packet.head ++ q) = readHeader packet.head := readHeader_append q hlen
  have hdrop : (packet.head ++ q).drop headerSize = q := List.drop_left' packet.head_length
  rcases h with ⟨hh, hbuff⟩ | ⟨hh, -, hc, hbuff⟩
  · have htake : (packet.head ++ q).take 16 = packet.head.take 16 :=
      List.take_append_of_le_length (le_trans (by decide) hlen)
    rw [checkBuffer, if_neg hh, hbuff, if_neg (by rw [List.length_append]; omega), hheader, htake,
      hdrop, packet.crc]
    simp
  · rw [checkBuffer, if_pos hh]
    congr 1
    cases c
    simp_all

end PacketClient

namespace Terminal

open PacketClient

variable {σ : Type*} {magic : Magic} {handler : σ → UInt32 → List UInt8 → σ × Bool}

variable (handler) in
/-- The handlers succeed on the packets in turn and reach the state `s'`. -/
def Serves : σ → List (Packet magic) → σ → Prop
  | s, [], s' => s = s'
  | s, p :: ps, s' =>
      (handler s p.body.1 p.body.2).2 = true ∧ Serves (handler s p.body.1 p.body.2).1 ps s'

lemma serves_trans {s s₁ s' : σ} {ps qs : List (Packet magic)} (h : Serves handler s ps s₁)
    (h' : Serves handler s₁ qs s') : Serves handler s (ps ++ qs) s' := by
  induction ps generalizing s with
  | nil =>
      cases h
      exact h'
  | cons p ps ih => exact ⟨h.1, ih h.2⟩

/-- The bytes do not reach the end of the first of the packets. -/
def Short (p : List UInt8) : List (Packet magic) → Prop
  | [] => p = []
  | packet :: _ => p.length < packet.bytes.length

/-- The client keeps the bytes `p`, which are short of the first of the packets. -/
structure Waiting (c : PacketClient) (p : List UInt8) (packets : List (Packet magic)) : Prop where
  represents : c.Represents p
  short : Short p packets
  small : c.buff.length < 2 ^ 32

variable (handler) in
/-- Of the packets whose bytes begin with `p`, those that are whole in `p` are handled, each once
and in order, and the client waits for the others. -/
def Handled (k : Terminal σ) (p : List UInt8) (packets : List (Packet magic)) (s' : σ)
    (k' : Terminal σ) : Prop :=
  ∃ g rest q, packets = g ++ rest ∧ p = (g.map Packet.bytes).flatten ++ q ∧
    Waiting k'.client q rest ∧ k'.dispatched = k.dispatched ++ g.map Packet.body ∧
    Serves handler k.session g k'.session ∧ Serves handler k'.session rest s'

/-! ### The loop -/

/-- The client waits for more bytes. -/
lemma loop_null {k : Terminal σ} {client : PacketClient}
    (h : k.client.checkBuffer = (client, .null)) :
    k.loop magic handler = ({ k with client }, 1) := by
  rw [loop]
  split
  next c he => rw [h] at he; cases he
  next c he => rw [h] at he; cases he; rfl
  next c he => rw [h] at he; cases he

/-- A packet whose handler succeeds is dropped, and the loop goes on. -/
lemma loop_data {k : Terminal σ} {client : PacketClient}
    (h : k.client.checkBuffer = (client, .data)) {m : UInt32} {data : List UInt8}
    (hm : client.header.magic = m) (hknown : m = magic.data ∨ m = magic.login)
    (hdata : client.buff.take client.header.dataSize.toNat = data)
    (hok : (handler k.session m data).2 = true) :
    k.loop magic handler
      = loop magic handler
          ⟨client.clearPacket, (handler k.session m data).1, k.dispatched ++ [(m, data)]⟩ := by
  have hnot : ¬ (m ≠ magic.data ∧ m ≠ magic.login) := by
    rcases hknown with h | h <;> simp [h]
  rw [loop]
  split
  next c he => rw [h] at he; cases he
  next c he => rw [h] at he; cases he
  next c he =>
    rw [h] at he
    cases he
    simp only [hm, hdata, if_neg hnot, hok, if_true]

/-- A client that waits for the first of the packets has handled none. -/
lemma handled_nil {k : Terminal σ} {client : PacketClient} {p : List UInt8}
    {packets : List (Packet magic)} {s' : σ} (h : Waiting client p packets)
    (hs : Serves handler k.session packets s') : Handled handler k p packets s' { k with client } :=
  ⟨[], packets, p, rfl, rfl, h, by simp, rfl, hs⟩

/-- The loop of `ClientRecv` over bytes that are the beginning of a list of packets: the packets
that are whole are handled, and the client waits for the others. -/
theorem loop_spec {packets : List (Packet magic)} {k : Terminal σ} {p : List UInt8} {s' : σ}
    (hk : k.client.Represents p) (hp : p <+: (packets.map Packet.bytes).flatten)
    (hs : Serves handler k.session packets s') :
    ∃ k', k.loop magic handler = (k', 1) ∧ Handled handler k p packets s' k' := by
  induction packets generalizing k p with
  | nil =>
      obtain rfl : p = [] := List.prefix_nil.mp hp
      refine ⟨_, loop_null (checkBuffer_short hk (by decide)), handled_nil ⟨hk, rfl, ?_⟩ hs⟩
      have := hk.length_le
      simp only [List.length_nil] at this
      omega
  | cons packet packets ih =>
      rw [List.map_cons, List.flatten_cons] at hp
      by_cases hlen : p.length < packet.bytes.length
      · -- The first packet is not whole yet.
        by_cases hhead : p.length < headerSize
        · refine ⟨_, loop_null (checkBuffer_short hk hhead), handled_nil ⟨hk, hlen, ?_⟩ hs⟩
          have := hk.length_le
          rw [headerSize] at hhead
          omega
        · obtain ⟨q, rfl⟩ : packet.head <+: p := by
            refine List.prefix_of_prefix_length_le ?_ hp (by rw [packet.head_length]; omega)
            rw [Packet.bytes, List.append_assoc]
            exact List.prefix_append _ _
          have hq : q.length < packet.data.length := by
            rw [packet.length_bytes, List.length_append, packet.head_length] at hlen
            omega
          have hcheck := checkBuffer_header packet hk
          rw [checkData, if_pos (by rw [packet.data_length]; exact hq)] at hcheck
          refine ⟨_, loop_null hcheck, handled_nil ⟨.inr ⟨?_, ?_, ?_, ?_⟩, hlen, ?_⟩ hs⟩
          · exact ⟨packet.magic_ne, packet.dataSize_ne⟩
          · exact not_lt.mp hhead
          · exact (readHeader_append q packet.head_length.ge).symm
          · exact (List.drop_left' packet.head_length).symm
          · exact hq.trans packet.data_length_lt
      · -- The first packet is handled, and the loop goes on with what follows it.
        obtain ⟨q, rfl⟩ : packet.bytes <+: p :=
          List.prefix_of_prefix_length_le (List.prefix_append _ _) hp (not_lt.mp hlen)
        have hp' : q <+: (packets.map Packet.bytes).flatten :=
          (List.prefix_append_right_inj packet.bytes).mp hp
        rw [Packet.bytes, List.append_assoc] at hk
        have hcheck := checkBuffer_header packet hk
        rw [checkData, if_neg (by rw [packet.data_length, List.length_append]; omega)] at hcheck
        have htake : (packet.data ++ q).take (readHeader packet.head).dataSize.toNat
            = packet.data := by
          rw [packet.data_length, List.take_left]
        have hloop := loop_data hcheck rfl packet.known htake hs.1
        have hclear : (clearPacket ⟨packet.data ++ q, readHeader packet.head⟩).Represents q := by
          refine .inl ⟨clearPacket_headed _, ?_⟩
          rw [clearPacket_buff, packet.data_length, List.drop_left]
        obtain ⟨k', hk', g, rest, r, hsplit, hq, hwait, hdis, hsg, hsr⟩ :=
          ih (k := ⟨_, (handler k.session packet.body.1 packet.body.2).1,
            k.dispatched ++ [packet.body]⟩) hclear hp' hs.2
        refine ⟨k', hloop.trans hk', packet :: g, rest, r, by rw [hsplit, List.cons_append], ?_,
          hwait, ?_, ⟨hs.1, hsg⟩, hsr⟩
        · rw [hq, List.map_cons, List.flatten_cons, List.append_assoc]
        · rw [hdis, List.append_assoc]
          rfl

/-! ### The chunks of a connection -/

lemma Waiting.loop {k : Terminal σ} {p : List UInt8} {packets : List (Packet magic)}
    (h : Waiting k.client p packets) (chunk : List UInt8)
    (hp : p ++ chunk <+: (packets.map Packet.bytes).flatten) {s' : σ}
    (hs : Serves handler k.session packets s') :
    ∃ k', k.clientRecv magic handler chunk = (k', 1) ∧
      Handled handler k (p ++ chunk) packets s' k' :=
  loop_spec (k := { k with client := k.client.append chunk })
    (h.represents.append h.small chunk) hp hs

/-- What was handled and what is handled after it. -/
lemma Handled.trans {k k₁ k₂ : Terminal σ} {p q r : List UInt8} {packets rest : List (Packet magic)}
    {g : List (Packet magic)} {s' : σ} (hsplit : packets = g ++ rest)
    (hp : p = (g.map Packet.bytes).flatten ++ q)
    (hdis : k₁.dispatched = k.dispatched ++ g.map Packet.body)
    (hsg : Serves handler k.session g k₁.session) (h : Handled handler k₁ (q ++ r) rest s' k₂) :
    Handled handler k (p ++ r) packets s' k₂ := by
  obtain ⟨g', rest', q', rfl, hq, hwait, hdis', hsg', hsr⟩ := h
  refine ⟨g ++ g', rest', q', by rw [hsplit, List.append_assoc], ?_, hwait, ?_, ?_, hsr⟩
  · rw [hp, List.append_assoc, hq, List.map_append, List.flatten_append, List.append_assoc]
  · rw [hdis', hdis, List.map_append, List.append_assoc]
  · exact serves_trans hsg hsg'

/-- The chunks of a connection, when their bytes are the beginning of a list of packets: after
them, the packets that are whole are handled, and the connection is open. -/
theorem readAll_spec {chunks : List (List UInt8)} {k : Terminal σ} {p : List UInt8}
    {packets : List (Packet magic)} {s' : σ} (h : Waiting k.client p packets)
    (hp : p ++ chunks.flatten <+: (packets.map Packet.bytes).flatten)
    (hs : Serves handler k.session packets s') :
    ∃ k', k.readAll magic handler chunks = (k', 1) ∧
      Handled handler k (p ++ chunks.flatten) packets s' k' := by
  induction chunks generalizing k p packets with
  | nil =>
      rw [List.flatten_nil, List.append_nil]
      exact ⟨k, rfl, handled_nil h hs⟩
  | cons chunk chunks ih =>
      rw [List.flatten_cons, ← List.append_assoc] at hp ⊢
      obtain ⟨k₁, hk₁, g, rest, q, hsplit, hchunk, hwait, hdis, hsg, hsr⟩ :=
        h.loop chunk ((List.prefix_append _ _).trans hp) hs
      have hq : q ++ chunks.flatten <+: (rest.map Packet.bytes).flatten := by
        rw [hchunk, hsplit, List.map_append, List.flatten_append, List.append_assoc] at hp
        exact (List.prefix_append_right_inj _).mp hp
      obtain ⟨k', hk', hrest⟩ := ih hwait hq hsr
      refine ⟨k', ?_, Handled.trans hsplit hchunk hdis hsg hrest⟩
      rw [readAll, hk₁]
      exact hk'

/-- For every list of well-formed packets on which the handlers succeed and every way of cutting
their bytes into chunks, the packets are handled, each once, in order and with its exact bytes, and
the connection is open after them. -/
theorem framed {k : Terminal σ} (hk : k.client.AtBoundary) (packets : List (Packet magic)) {s' : σ}
    (hs : Serves handler k.session packets s') (chunks : List (List UInt8))
    (hcut : chunks.flatten = (packets.map Packet.bytes).flatten) :
    ∃ k', k.readAll magic handler chunks = (k', 1) ∧
      k'.dispatched = k.dispatched ++ packets.map Packet.body ∧ k'.session = s' ∧
      k'.client.AtBoundary := by
  have hwait : Waiting k.client [] packets := by
    refine ⟨.inl hk, ?_, by rw [hk.2]; decide⟩
    cases packets with
    | nil => rfl
    | cons packet packets =>
        rw [Short, packet.length_bytes]
        exact Nat.lt_of_lt_of_le (by decide) (Nat.le_add_right _ _)
  obtain ⟨k', hk', g, rest, q, hsplit, hq, hwait', hdis, hsg, hsr⟩ :=
    readAll_spec hwait (by rw [List.nil_append, hcut]) hs
  -- All bytes have arrived, and so no packet is left.
  obtain rfl : q = (rest.map Packet.bytes).flatten := by
    rw [List.nil_append, hcut, hsplit, List.map_append, List.flatten_append] at hq
    exact (List.append_cancel_left hq).symm
  obtain rfl : rest = [] := by
    cases rest with
    | nil => rfl
    | cons packet rest =>
        have := hwait'.short
        rw [Short, List.map_cons, List.flatten_cons, List.length_append] at this
        omega
  rw [List.append_nil] at hsplit
  exact ⟨k', hk', by rw [hdis, hsplit], hsr, hwait'.represents.atBoundary⟩

/-! ### A packet in two chunks -/

/-- Two magic numbers. -/
def magics : Magic := ⟨1, 2, by decide, by decide, by decide⟩

/-- A login packet with one byte of data. -/
def loginPacket : Packet magics where
  head := [2, 0, 0, 0, 0, 1, 0, 0, 0, 0, 0, 0, 1, 0, 0, 0, 147, 214, 41, 18]
  data := [7]
  head_length := rfl
  known := .inr (by decide)
  data_length := by decide
  data_ne := by simp
  crc := by decide +kernel

/-- A connection on which nothing was received, with handlers that always succeed. -/
def idle : Terminal Unit := ⟨⟨[], ⟨0, 0, 0, 0, 0, 0⟩⟩, (), []⟩

/-- The packet arrives in two chunks, by `framed`. -/
theorem framed_cut :
    ∃ k', idle.readAll magics (fun s _ _ => (s, true))
        [loginPacket.bytes.take 5, loginPacket.bytes.drop 5] = (k', 1) ∧
      k'.dispatched = [] ++ [loginPacket].map Packet.body ∧ k'.session = () ∧
      k'.client.AtBoundary :=
  framed (k := idle) ⟨by decide, rfl⟩ [loginPacket] ⟨rfl, rfl⟩
    [loginPacket.bytes.take 5, loginPacket.bytes.drop 5] (by simp)

end Terminal

end Tritonn

import Tritonn.Terminal.Framing

/-!
The turns of the loop over the packets in a buffer, whatever the handlers answer.

* `Turn` is one turn of the loop: the packet in the buffer is handled and dropped; a loop may leave
  out the turns it begins with (`loop_eq`);
* `turns_packets` says that packets that are whole and are handled are such turns, `loop_refused`
  and `loop_error` how the loop ends at a packet that is refused and at a header that is not
  accepted, and `checkBuffer_waits` that it waits for the rest of a packet;
* `loop_received` is the loop over the beginning of the bytes of some packets: it handles those that
  are whole up to the first that is refused.
-/

namespace Tritonn

namespace Terminal

open PacketClient

variable {σ : Type*} {magic : Magic} {handler : σ → UInt32 → List UInt8 → σ × Bool}

variable (magic handler) in
/-- One turn of the loop: the packet in the buffer is handled and dropped. -/
def Turn (k k' : Terminal σ) : Prop :=
  ∃ client, k.client.checkBuffer = (client, .data) ∧
    (client.header.magic = magic.data ∨ client.header.magic = magic.login) ∧
    (handler k.session client.header.magic
      (client.buff.take client.header.dataSize.toNat)).2 = true ∧
    k' = ⟨client.clearPacket, (handler k.session client.header.magic
        (client.buff.take client.header.dataSize.toNat)).1,
      k.dispatched ++ [(client.header.magic, client.buff.take client.header.dataSize.toNat)]⟩

lemma Turn.loop_eq {k k' : Terminal σ} (h : Turn magic handler k k') :
    k.loop magic handler = k'.loop magic handler := by
  obtain ⟨client, hcheck, hknown, hok, rfl⟩ := h
  exact loop_data hcheck rfl hknown rfl hok

/-- The loop goes on after its turns. -/
lemma loop_eq {k k' : Terminal σ} (h : Relation.ReflTransGen (Turn magic handler) k k') :
    k.loop magic handler = k'.loop magic handler := by
  induction h with
  | refl => rfl
  | tail _ hturn ih => exact ih.trans hturn.loop_eq

/-- A client that refuses a header drops all that it keeps, and the connection is closed. -/
lemma loop_error {k : Terminal σ} {client : PacketClient}
    (h : k.client.checkBuffer = (client, .error)) :
    k.loop magic handler = ({ k with client }, 0) := by
  rw [loop]
  split
  next c he => rw [h] at he; cases he; rfl
  next c he => rw [h] at he; cases he
  next c he => rw [h] at he; cases he

/-- A packet that its handler refuses ends the loop. -/
lemma loop_refused {k : Terminal σ} {client : PacketClient}
    (h : k.client.checkBuffer = (client, .data)) {m : UInt32} {data : List UInt8}
    (hm : client.header.magic = m) (hknown : m = magic.data ∨ m = magic.login)
    (hdata : client.buff.take client.header.dataSize.toNat = data)
    (hrefused : (handler k.session m data).2 = false) :
    k.loop magic handler
      = (⟨client, (handler k.session m data).1, k.dispatched ++ [(m, data)]⟩, 0) := by
  have hnot : ¬ (m ≠ magic.data ∧ m ≠ magic.login) := by
    rcases hknown with h | h <;> simp [h]
  rw [loop]
  split
  next c he => rw [h] at he; cases he
  next c he => rw [h] at he; cases he
  next c he =>
    rw [h] at he
    cases he
    simp only [hm, hdata, if_neg hnot, hrefused, Bool.false_eq_true, if_false]

/-! ### Whole packets -/

lemma bytes_pos (packet : Packet magic) : 0 < packet.bytes.length := by
  rw [packet.length_bytes]
  exact Nat.lt_of_lt_of_le (by decide) (Nat.le_add_right headerSize _)

/-- A client that keeps a whole packet looks at its data. -/
lemma checkBuffer_packet {c : PacketClient} (packet : Packet magic) {q : List UInt8}
    (h : c.Represents (packet.bytes ++ q)) :
    c.checkBuffer = (⟨packet.data ++ q, readHeader packet.head⟩, .data) := by
  rw [Packet.bytes, List.append_assoc] at h
  rw [checkBuffer_header packet h, checkData, if_neg]
  rw [packet.data_length, List.length_append]
  omega

lemma take_data (packet : Packet magic) (q : List UInt8) :
    (packet.data ++ q).take (readHeader packet.head).dataSize.toNat = packet.data := by
  rw [packet.data_length, List.take_left]

/-- Packets that are whole and are handled: the turns that they take, and what is left. -/
lemma turns_packets {packets : List (Packet magic)} {k : Terminal σ} {q : List UInt8} {s' : σ}
    (hk : k.client.Represents ((packets.map Packet.bytes).flatten ++ q))
    (hs : Serves handler k.session packets s') :
    ∃ k', Relation.ReflTransGen (Turn magic handler) k k' ∧ k'.client.Represents q ∧
      (k'.client.headed → packets = [] ∧ k.client.headed) ∧ k'.session = s' ∧
      k'.dispatched = k.dispatched ++ packets.map Packet.body := by
  induction packets generalizing k with
  | nil => exact ⟨k, .refl, hk, fun h => ⟨rfl, h⟩, hs, by simp⟩
  | cons packet packets ih =>
      rw [List.map_cons, List.flatten_cons, List.append_assoc] at hk
      have hturn : Turn magic handler k _ := ⟨_, checkBuffer_packet packet hk, packet.known,
        by rw [take_data]; exact hs.1, rfl⟩
      rw [take_data] at hturn
      have hclear : (clearPacket ⟨packet.data ++ ((packets.map Packet.bytes).flatten ++ q),
          readHeader packet.head⟩).Represents ((packets.map Packet.bytes).flatten ++ q) := by
        refine .inl ⟨clearPacket_headed _, ?_⟩
        rw [clearPacket_buff, packet.data_length, List.drop_left]
      obtain ⟨k', hk', hq, hh, hs', hdis⟩ := ih (k := ⟨_, (handler k.session packet.body.1
        packet.body.2).1, k.dispatched ++ [packet.body]⟩) hclear hs.2
      refine ⟨k', .head hturn hk', hq, fun h => absurd (hh h).2 (clearPacket_headed _), hs', ?_⟩
      rw [hdis, List.map_cons, List.append_assoc]
      rfl

/-! ### The rest of a packet -/

/-- A client that keeps less than a packet waits for the rest. -/
lemma checkBuffer_waits {packets : List (Packet magic)} {c : PacketClient} {p : List UInt8}
    (hc : c.Represents p) (hp : p <+: (packets.map Packet.bytes).flatten)
    (hshort : Short p packets) :
    ∃ c', c.checkBuffer = (c', .null) ∧ Waiting c' p packets := by
  by_cases hhead : p.length < headerSize
  · exact ⟨c, checkBuffer_short hc hhead, hc, hshort,
      hc.length_le.trans_lt (hhead.trans (by decide))⟩
  cases packets with
  | nil =>
      rw [show p = [] from hshort] at hhead
      exact absurd (by decide : 0 < headerSize) hhead
  | cons packet packets =>
      have hlen : p.length < packet.bytes.length := hshort
      rw [List.map_cons, List.flatten_cons] at hp
      obtain ⟨q, rfl⟩ : packet.head <+: p := by
        refine List.prefix_of_prefix_length_le ?_ hp (by rw [packet.head_length]; omega)
        rw [Packet.bytes, List.append_assoc]
        exact List.prefix_append _ _
      have hq : q.length < packet.data.length := by
        rw [packet.length_bytes, List.length_append, packet.head_length] at hlen
        omega
      have hcheck := checkBuffer_header packet hc
      rw [checkData, if_pos (by rw [packet.data_length]; exact hq)] at hcheck
      refine ⟨_, hcheck, .inr ⟨⟨packet.magic_ne, packet.dataSize_ne⟩, not_lt.mp hhead, ?_, ?_⟩,
        hshort, hq.trans packet.data_length_lt⟩
      · exact (readHeader_append q packet.head_length.ge).symm
      · exact (List.drop_left' packet.head_length).symm

/-- The packets that are whole in the beginning of the bytes of some packets. -/
lemma exists_whole (packets : List (Packet magic)) {p : List UInt8}
    (hp : p <+: (packets.map Packet.bytes).flatten) :
    ∃ g rest r, packets = g ++ rest ∧ p = (g.map Packet.bytes).flatten ++ r ∧ Short r rest := by
  induction packets generalizing p with
  | nil => exact ⟨[], [], p, rfl, rfl, List.prefix_nil.mp hp⟩
  | cons packet packets ih =>
      rw [List.map_cons, List.flatten_cons] at hp
      by_cases hlen : p.length < packet.bytes.length
      · exact ⟨[], packet :: packets, p, rfl, rfl, hlen⟩
      · obtain ⟨q, rfl⟩ : packet.bytes <+: p :=
          List.prefix_of_prefix_length_le (List.prefix_append _ _) hp (not_lt.mp hlen)
        obtain ⟨g, rest, r, rfl, rfl, hshort⟩ := ih ((List.prefix_append_right_inj _).mp hp)
        exact ⟨packet :: g, rest, r, rfl, by simp, hshort⟩

variable (handler) in
/-- The handlers succeed on all packets, or on those before the first that is refused. -/
lemma serves_or (s : σ) (packets : List (Packet magic)) :
    (∃ s', Serves handler s packets s') ∨ ∃ g packet rest s', packets = g ++ packet :: rest ∧
      Serves handler s g s' ∧ (handler s' packet.body.1 packet.body.2).2 = false := by
  induction packets generalizing s with
  | nil => exact .inl ⟨s, rfl⟩
  | cons packet packets ih =>
      by_cases hok : (handler s packet.body.1 packet.body.2).2 = true
      · rcases ih (handler s packet.body.1 packet.body.2).1 with ⟨s', h⟩ | ⟨g, p, rest, s', rfl, h⟩
        · exact .inl ⟨s', hok, h⟩
        · exact .inr ⟨packet :: g, p, rest, s', rfl, ⟨hok, h.1⟩, h.2⟩
      · exact .inr ⟨[], packet, packets, s, rfl, rfl, Bool.not_eq_true _ ▸ hok⟩

/-! ### The loop -/

variable (handler) in
/-- The packets whose bytes begin with `p` are handled as far as they are whole, each once and in
order, and the client waits for the others. -/
structure Took (k : Terminal σ) (p : List UInt8) (packets g rest : List (Packet magic))
    (r : List UInt8) (k' : Terminal σ) : Prop where
  split : packets = g ++ rest
  bytes : p = (g.map Packet.bytes).flatten ++ r
  waiting : Waiting k'.client r rest
  dispatched : k'.dispatched = k.dispatched ++ g.map Packet.body
  serves : Serves handler k.session g k'.session

variable (handler) in
/-- The packets are handled, each once and in order, up to one that is refused. -/
structure Refused (k : Terminal σ) (packets g rest : List (Packet magic)) (packet : Packet magic)
    (k' : Terminal σ) : Prop where
  split : packets = g ++ packet :: rest
  dispatched : k'.dispatched = k.dispatched ++ (g ++ [packet]).map Packet.body
  serves : ∃ s', Serves handler k.session g s' ∧
    handler s' packet.body.1 packet.body.2 = (k'.session, false)

variable (handler) in
/-- The loop over the beginning of the bytes of some packets, whatever the handlers answer. -/
theorem loop_received {packets : List (Packet magic)} {k : Terminal σ} {p : List UInt8}
    (hk : k.client.Represents p) (hp : p <+: (packets.map Packet.bytes).flatten) :
    (∃ k' g rest r, k.loop magic handler = (k', 1) ∧ Took handler k p packets g rest r k') ∨
      ∃ k' g rest packet, k.loop magic handler = (k', 0) ∧
        Refused handler k packets g rest packet k' := by
  obtain ⟨g, rest, r, rfl, rfl, hshort⟩ := exists_whole packets hp
  rcases serves_or handler k.session g with ⟨s', hs⟩ | ⟨g, packet, g', s', rfl, hs, hrefused⟩
  · -- All packets that are whole are handled.
    obtain ⟨k', hturns, hr, -, rfl, hdis⟩ := turns_packets hk hs
    rw [List.map_append, List.flatten_append, List.prefix_append_right_inj] at hp
    obtain ⟨c, hcheck, hwait⟩ := checkBuffer_waits hr hp hshort
    exact .inl ⟨{ k' with client := c }, g, rest, r, (loop_eq hturns).trans (loop_null hcheck), rfl,
      rfl, hwait, hdis, hs⟩
  · -- The first packet that is refused ends the loop.
    rw [List.map_append, List.flatten_append, List.append_assoc, List.map_cons, List.flatten_cons,
      List.append_assoc] at hk
    obtain ⟨k', hturns, hr, -, rfl, hdis⟩ := turns_packets hk hs
    have hloop := loop_refused (checkBuffer_packet packet hr) rfl packet.known (take_data _ _)
      hrefused
    refine .inr ⟨_, g, g' ++ rest, packet, (loop_eq hturns).trans hloop, ?_, ?_, k'.session, hs, ?_⟩
    · rw [List.append_assoc, List.cons_append]
    · rw [hdis, List.map_append, List.append_assoc]
      rfl
    · exact Prod.ext rfl hrefused

end Terminal

end Tritonn

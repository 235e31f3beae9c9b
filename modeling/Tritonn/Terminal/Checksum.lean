import Tritonn.Lib.Register
import Tritonn.Terminal.Turns

/-!
What the checksums of `src/shared/crc32.h` find out.

* `bitString` is a buffer as a string of bits, and `crcGet_toBitVec` says that the table of
  `rCRC32` is the shift register of the polynomial, one bit after the other;
* `accepted_iff` says that the headers whose checksum is right are those that leave one fixed
  register, and `burst_refused` that a header in which a burst of at most 32 bits was damaged is
  refused;
* `Crc16` is `rCRC16`, whose `get` has a table and whose `getModbus` has none: `get_eq` says that
  they differ by a complement.
-/

namespace Tritonn

open Register

/-! ### Buffers as strings of bits -/

/-- The bits of a byte, the lowest one first. -/
def byteBits (b : UInt8) : List Bool := List.ofFn fun i : Fin 8 => b.toBitVec.getLsb i

/-- The bits of a buffer. -/
def bitString (buf : List UInt8) : List Bool := buf.flatMap byteBits

@[simp] lemma byteBits_length (b : UInt8) : (byteBits b).length = 8 := List.length_ofFn

@[simp] lemma bitString_nil : bitString [] = [] := rfl

@[simp] lemma bitString_cons (b : UInt8) (buf : List UInt8) :
    bitString (b :: buf) = byteBits b ++ bitString buf :=
  List.flatMap_cons

@[simp] lemma bitString_append (p q : List UInt8) :
    bitString (p ++ q) = bitString p ++ bitString q :=
  List.flatMap_append

@[simp] lemma bitString_length (buf : List UInt8) : (bitString buf).length = 8 * buf.length := by
  induction buf with
  | nil => rfl
  | cons b buf ih =>
      rw [bitString_cons, List.length_append, ih, byteBits_length, List.length_cons]
      omega

lemma pack_byteBits {w : ℕ} (b : UInt8) :
    (pack (byteBits b) : BitVec w) = b.toBitVec.setWidth w := by
  refine BitVec.eq_of_getLsbD_eq fun i hi => ?_
  rw [getLsbD_pack, BitVec.getLsbD_setWidth, decide_eq_true hi, Bool.true_and, Bool.true_and]
  by_cases h8 : i < 8
  · rw [List.getD_eq_getElem _ _ (by simpa using h8), BitVec.getLsbD_eq_getElem h8]
    simp only [byteBits, List.getElem_ofFn]
    rfl
  · rw [List.getD_eq_default _ _ (by simpa using h8), BitVec.getLsbD_of_ge _ _ (not_lt.mp h8)]

/-- A buffer is determined by its bits. -/
lemma bitString_injective : Function.Injective bitString := by
  intro p q h
  induction p generalizing q with
  | nil =>
      cases q with
      | nil => rfl
      | cons b q =>
          have := congrArg List.length h
          rw [bitString_length, bitString_length, List.length_nil, List.length_cons] at this
          omega
  | cons a p ih =>
      cases q with
      | nil =>
          have := congrArg List.length h
          rw [bitString_length, bitString_length, List.length_nil, List.length_cons] at this
          omega
      | cons b q =>
          rw [bitString_cons, bitString_cons] at h
          obtain ⟨hab, hpq⟩ := List.append_inj h (by simp)
          have hpack := congrArg (pack (w := 8)) hab
          rw [pack_byteBits, pack_byteBits, BitVec.setWidth_eq, BitVec.setWidth_eq] at hpack
          rw [UInt8.toBitVec_inj.mp hpack, ih hpq]

/-! ### `rCRC32` -/

/-- The polynomial of `rCRC32`. -/
def crcPoly : BitVec 32 := 0xEDB88320#32

lemma crcPoly_msb : crcPoly.msb = true := by decide

lemma crcBit_toBitVec (c : UInt32) : (crcBit c).toBitVec = step crcPoly c.toBitVec := by
  have hlow : c &&& 1 ≠ 0 ↔ c.toBitVec.getLsbD 0 = true := by
    rw [ne_eq, ← UInt32.toBitVec_inj, UInt32.toBitVec_and]
    rw [show (1 : UInt32).toBitVec = 1#32 by rfl, BitVec.and_one_eq_setWidth_ofBool_getLsbD]
    cases c.toBitVec.getLsbD 0 <;> decide
  rw [crcBit, step]
  by_cases h : c &&& 1 ≠ 0
  · rw [if_pos h, if_pos (hlow.mp h), UInt32.toBitVec_xor, UInt32.toBitVec_shiftRight]
    rfl
  · rw [if_neg h, if_neg (mt hlow.mpr h), UInt32.toBitVec_shiftRight]
    rfl

lemma crcTable_toBitVec (i : UInt32) : (crcTable i).toBitVec = (step crcPoly)^[8] i.toBitVec := by
  have : ∀ k (c : UInt32), (crcBit^[k] c).toBitVec = (step crcPoly)^[k] c.toBitVec := by
    intro k
    induction k with
    | zero => exact fun _ => rfl
    | succ k ih =>
        intro c
        rw [Function.iterate_succ_apply, ih, crcBit_toBitVec, Function.iterate_succ_apply]
  exact this 8 i

/-- A byte of `rCRC32` is eight bits of the register. -/
lemma crcUpdate_toBitVec (crc : UInt32) (byte : UInt8) :
    (crcUpdate crc byte).toBitVec = (byteBits byte).foldl (feed crcPoly) crc.toBitVec := by
  have hmask : ∀ i < 32, (0xFF#32).getLsbD i = decide (i < 8) := by decide
  rw [foldl_feed_table _ _ hmask (byteBits_length byte) (by decide), pack_byteBits, crcUpdate,
    UInt32.toBitVec_xor, crcTable_toBitVec, UInt32.toBitVec_shiftRight]
  rfl

lemma foldl_crcUpdate (crc : UInt32) (buf : List UInt8) :
    (buf.foldl crcUpdate crc).toBitVec = (bitString buf).foldl (feed crcPoly) crc.toBitVec := by
  induction buf generalizing crc with
  | nil => rfl
  | cons b buf ih => rw [List.foldl_cons, ih, crcUpdate_toBitVec, bitString_cons, List.foldl_append]

/-- The table of `rCRC32` is the shift register, one bit after the other. -/
theorem crcGet_toBitVec (buf : List UInt8) :
    (crcGet buf).toBitVec = ~~~ (bitString buf).foldl (feed crcPoly) (BitVec.allOnes 32) := by
  rw [crcGet, UInt32.toBitVec_not, foldl_crcUpdate]
  rfl

/-! ### Headers -/

/-- The register that a header leaves if its checksum is right. -/
def residue : BitVec 32 := (step crcPoly)^[32] (BitVec.allOnes 32)

lemma uintAt_toBitVec (a b : UInt8) (q : List UInt8) :
    (uintAt (a :: b :: q) 0).toBitVec
      = a.toBitVec.setWidth 16 ||| (b.toBitVec.setWidth 16 <<< 8) := rfl

lemma udintAt_split (a b c d : UInt8) :
    (udintAt [a, b, c, d] 0).toBitVec
      = (uintAt [a, b] 0).toBitVec.setWidth 32
        ||| ((uintAt [c, d] 0).toBitVec.setWidth 32 <<< 16) := rfl

/-- Four bytes as a `UDINT` and as a string of bits. -/
lemma udintAt_toBitVec (a b c d : UInt8) :
    (udintAt [a, b, c, d] 0).toBitVec = pack (bitString [a, b, c, d]) := by
  simp only [bitString_cons, bitString_nil, List.append_nil, pack_append, pack_byteBits,
    byteBits_length, udintAt_split, uintAt_toBitVec]
  refine BitVec.eq_of_getLsbD_eq fun i hi => ?_
  simp only [BitVec.getLsbD_or, BitVec.getLsbD_xor, BitVec.getLsbD_setWidth,
    BitVec.getLsbD_shiftLeft]
  have hbit : ∀ (x : UInt8) k, 8 ≤ k → x.toBitVec.getLsbD k = false := fun x k hk =>
    BitVec.getLsbD_of_ge _ _ hk
  have hrange : i < 8 ∨ (8 ≤ i ∧ i < 16) ∨ (16 ≤ i ∧ i < 24) ∨ (24 ≤ i ∧ i < 32) := by omega
  rcases hrange with h | h | h | h <;>
    simp (disch := omega) only [hbit, decide_eq_true, decide_eq_false, Bool.true_and,
      Bool.false_and, Bool.and_true, Bool.and_false, Bool.or_false, Bool.false_or, Bool.xor_false,
      Bool.false_xor, Bool.not_true, Bool.not_false, Nat.sub_sub]

lemma uintAt_append_right (p q : List UInt8) (i : ℕ) :
    uintAt (p ++ q) (p.length + i) = uintAt q i := by
  rw [uintAt, uintAt, List.getD_append_right _ _ _ _ (by omega),
    List.getD_append_right _ _ _ _ (by omega), Nat.add_sub_cancel_left, Nat.add_assoc,
    Nat.add_sub_cancel_left]

lemma udintAt_append_right (p q : List UInt8) (i : ℕ) :
    udintAt (p ++ q) (p.length + i) = udintAt q i := by
  rw [udintAt, udintAt, uintAt_append_right, Nat.add_assoc, uintAt_append_right]

/-- The checksum of a header is right if and only if the header leaves the residue. -/
theorem accepted_iff {head : List UInt8} (hlen : head.length = headerSize) :
    crcGet (head.take 16) = (readHeader head).crc32
      ↔ (bitString head).foldl (feed crcPoly) (BitVec.allOnes 32) = residue := by
  obtain ⟨p, a, b, c, d, rfl, hp⟩ :
      ∃ p a b c d, head = p ++ [a, b, c, d] ∧ p.length = 16 := by
    have hdrop : (head.drop 16).length = 4 := by rw [List.length_drop, hlen]; rfl
    obtain ⟨a, b, c, d, hcrc⟩ := List.length_eq_four.mp hdrop
    exact ⟨head.take 16, a, b, c, d, by rw [← hcrc, List.take_append_drop],
      by rw [List.length_take, hlen]; rfl⟩
  have htake : (p ++ [a, b, c, d]).take 16 = p := List.take_left' hp
  have hcrc : (readHeader (p ++ [a, b, c, d])).crc32 = udintAt [a, b, c, d] 0 := by
    have h := udintAt_append_right p [a, b, c, d] 0
    rwa [hp] at h
  have hwidth : (bitString [a, b, c, d]).length = 32 := by rw [bitString_length]; rfl
  rw [htake, hcrc, ← UInt32.toBitVec_inj, udintAt_toBitVec, crcGet_toBitVec, bitString_append,
    List.foldl_append, foldl_feed _ hwidth.le, hwidth, residue]
  generalize (bitString p).foldl (feed crcPoly) (BitVec.allOnes 32) = r
  refine ⟨fun h => ?_, fun h => ?_⟩
  · rw [← h, ← BitVec.xor_allOnes, ← BitVec.xor_assoc, BitVec.xor_self, BitVec.zero_xor]
  · have := (step_injective crcPoly_msb).iterate 32 h
    rw [← BitVec.xor_allOnes, ← this, ← BitVec.xor_assoc, BitVec.xor_self, BitVec.zero_xor]

/-- The second string of bits is the first one, damaged inside a window of `n` bits. -/
def Burst (n : ℕ) (l l' : List Bool) : Prop :=
  ∃ p e e' s, l = p ++ e ++ s ∧ l' = p ++ e' ++ s ∧ e.length = e'.length ∧ e.length ≤ n

lemma Burst.length_header {n : ℕ} {head head' : List UInt8}
    (h : Burst n (bitString head) (bitString head')) (hlen : head.length = headerSize) :
    head'.length = headerSize := by
  obtain ⟨p, e, e', s, hl, hl', hee, -⟩ := h
  have h := congrArg List.length hl
  have h' := congrArg List.length hl'
  simp only [bitString_length, List.length_append] at h h'
  omega

/-- A header that is accepted, and one that was damaged by a burst: the checksum of the second is
right only if nothing was damaged. -/
lemma burst_accepted_iff {head head' : List UInt8} (hlen : head.length = headerSize)
    (hcrc : crcGet (head.take 16) = (readHeader head).crc32)
    (hburst : Burst 32 (bitString head) (bitString head')) :
    crcGet (head'.take 16) = (readHeader head').crc32 ↔ head' = head := by
  have hlen' := hburst.length_header hlen
  obtain ⟨p, e, e', s, hl, hl', hee, he⟩ := hburst
  have hres := (accepted_iff hlen).mp hcrc
  rw [accepted_iff hlen', ← hres, hl, hl', foldl_feed_burst crcPoly_msb _ _ _ hee.symm (hee ▸ he)]
  refine ⟨fun h => bitString_injective (by rw [hl, hl', h]), fun h => ?_⟩
  rw [h, hl] at hl'
  simpa using hl'.symm

/-! ### A damaged header on a connection -/

namespace Terminal

open PacketClient

variable {σ : Type*} {magic : Magic} {handler : σ → UInt32 → List UInt8 → σ × Bool}

/-- A connection on which the bytes `p` have arrived, the beginning of those of some packets and of
a header: the packets that are whole are handled, and the client keeps the rest, which is short of
the next packet or of the header. -/
structure Before (handler : σ → UInt32 → List UInt8 → σ × Bool) (k₀ : Terminal σ) (s' : σ)
    (packets : List (Packet magic)) (p : List UInt8) (k : Terminal σ) (g rest : List (Packet magic))
    (r : List UInt8) : Prop where
  split : packets = g ++ rest
  bytes : p = (g.map Packet.bytes).flatten ++ r
  represents : k.client.Represents r
  small : k.client.buff.length < 2 ^ 32
  short : r.length < (rest.head?.map fun packet => packet.bytes.length).getD headerSize
  dispatched : k.dispatched = k₀.dispatched ++ g.map Packet.body
  served : Serves handler k.session rest s'

/-- A header whose checksum is wrong is refused. -/
lemma checkBuffer_refused {c : PacketClient} (hc : ¬ c.headed) {head q : List UInt8}
    (hbuff : c.buff = head ++ q) (hlen : head.length = headerSize)
    (hcrc : crcGet (head.take 16) ≠ (readHeader head).crc32) :
    c.checkBuffer = (⟨[], clearHeader (readHeader head)⟩, .error) := by
  have htake : (head ++ q).take 16 = head.take 16 :=
    List.take_append_of_le_length (by rw [hlen]; decide)
  rw [checkBuffer, if_neg hc, hbuff, if_neg (by rw [List.length_append]; omega), htake,
    readHeader_append q hlen.ge]
  exact if_pos hcrc

/-- A chunk of a connection with a header that is refused: the client goes on to wait, or all
packets are handled and the connection is closed. -/
lemma Before.step {k₀ k : Terminal σ} {s' : σ} {packets g rest : List (Packet magic)}
    {p r head q : List UInt8} (h : Before handler k₀ s' packets p k g rest r)
    (hlen : head.length = headerSize) (hcrc : crcGet (head.take 16) ≠ (readHeader head).crc32)
    (chunk : List UInt8)
    (hp : p ++ chunk <+: (packets.map Packet.bytes).flatten ++ (head ++ q)) :
    (∃ k' g' rest' r', k.clientRecv magic handler chunk = (k', 1) ∧
        Before handler k₀ s' packets (p ++ chunk) k' g' rest' r') ∨
      ∃ k', k.clientRecv magic handler chunk = (k', 0) ∧ k'.client.AtBoundary ∧ k'.session = s' ∧
        k'.dispatched = k₀.dispatched ++ packets.map Packet.body := by
  obtain ⟨rfl, rfl, hrep, hsmall, hshort, hdis, hs⟩ := h
  rw [List.map_append, List.flatten_append, List.append_assoc, List.append_assoc,
    List.prefix_append_right_inj] at hp
  have hrep' := hrep.append hsmall chunk
  rcases List.prefix_or_prefix_of_prefix hp (List.prefix_append _ _) with hle | ⟨t, ht⟩
  · -- The chunk does not reach the header.
    obtain ⟨k', hk', g', rest', r', rfl, hr', hwait, hdis', -, hs'⟩ :=
      loop_spec (k := { k with client := k.client.append chunk }) hrep' hle hs
    refine .inl ⟨k', g ++ g', rest', r', hk', (List.append_assoc _ _ _).symm, ?_, hwait.represents,
      hwait.small, ?_, ?_, hs'⟩
    · rw [List.append_assoc, hr', List.map_append, List.flatten_append, List.append_assoc]
    · have hshort' := hwait.short
      cases rest' with
      | nil =>
          rw [show r' = [] from hshort']
          exact (by decide : 0 < headerSize)
      | cons packet rest' => exact hshort'
    · rw [hdis', List.map_append, ← List.append_assoc, ← hdis]
  · -- All packets are whole.
    rw [← ht, List.prefix_append_right_inj] at hp
    rw [← ht] at hrep'
    obtain ⟨k', hturns, hrep₁, hhead, rfl, hdis'⟩ :=
      turns_packets (k := { k with client := k.client.append chunk }) hrep' hs
    have hk' := loop_eq hturns
    have hall : k'.dispatched = k₀.dispatched ++ (g ++ rest).map Packet.body := by
      rw [hdis', List.map_append, ← List.append_assoc, ← hdis]
    by_cases htlen : t.length < headerSize
    · refine .inl ⟨k', g ++ rest, [], t, hk'.trans (loop_null (checkBuffer_short hrep₁ htlen)),
        (List.append_nil _).symm, ?_, hrep₁, ?_, htlen, hall, rfl⟩
      · rw [List.append_assoc, ← ht, List.map_append, List.flatten_append, List.append_assoc]
      · exact hrep₁.length_le.trans_lt (htlen.trans (by decide))
    · obtain ⟨t', rfl⟩ : head <+: t :=
        List.prefix_of_prefix_length_le (List.prefix_append _ _) hp (by omega)
      have hnot : ¬ k'.client.headed := fun hh => by
        obtain ⟨rfl, hh⟩ := hhead hh
        rw [append_buff _ hsmall] at hh
        rcases hrep with ⟨hnot, -⟩ | ⟨-, hle, -⟩
        · exact hnot hh
        · exact absurd hshort (not_lt.mpr hle)
      rcases hrep₁ with ⟨-, hbuff⟩ | ⟨hh, -⟩
      · refine .inr ⟨_, hk'.trans (loop_error (checkBuffer_refused hnot hbuff hlen hcrc)), ?_, rfl,
          hall⟩
        exact ⟨fun h => h.1 rfl, rfl⟩
      · exact absurd hh hnot

/-- The chunks of a connection with a header that is refused. -/
lemma Before.readAll_closed {k₀ : Terminal σ} {s' : σ} {packets : List (Packet magic)}
    {head q : List UInt8} (hlen : head.length = headerSize)
    (hcrc : crcGet (head.take 16) ≠ (readHeader head).crc32) (chunks : List (List UInt8))
    {k : Terminal σ} {g rest : List (Packet magic)} {p r : List UInt8}
    (h : Before handler k₀ s' packets p k g rest r)
    (hp : p ++ chunks.flatten = (packets.map Packet.bytes).flatten ++ (head ++ q)) :
    ∃ k', k.readAll magic handler chunks = (k', 0) ∧ k'.client.AtBoundary ∧ k'.session = s' ∧
      k'.dispatched = k₀.dispatched ++ packets.map Packet.body := by
  induction chunks generalizing k g rest p r with
  | nil =>
      -- The bytes that are kept would reach behind the header.
      exfalso
      obtain ⟨rfl, rfl, -, -, hshort, -, -⟩ := h
      rw [List.flatten_nil, List.append_nil, List.map_append, List.flatten_append,
        List.append_assoc] at hp
      have hr := congrArg List.length (List.append_cancel_left hp)
      cases rest with
      | nil =>
          simp only [List.map_nil, List.flatten_nil, List.nil_append, List.length_append] at hr
          simp only [List.head?_nil, Option.map_none, Option.getD_none] at hshort
          omega
      | cons packet rest =>
          simp only [List.map_cons, List.flatten_cons, List.length_append] at hr
          simp only [List.head?_cons, Option.map_some, Option.getD_some] at hshort
          omega
  | cons chunk chunks ih =>
      rw [List.flatten_cons, ← List.append_assoc] at hp
      rw [readAll]
      rcases h.step hlen hcrc chunk (q := q) ⟨_, hp⟩ with
        ⟨k', g', rest', r', hk', h'⟩ | ⟨k', hk', h'⟩
      · rw [hk']
        exact ih h' hp
      · rw [hk']
        exact ⟨k', rfl, h'⟩

/-- A connection on which some packets arrive, and then a packet whose header was damaged by a
burst of at most 32 bits, however the bytes are cut: the packets are handled, each once and in
order, nothing of the damaged packet or behind it is, and the connection is closed. -/
theorem burst_refused {k : Terminal σ} (hk : k.client.AtBoundary) (packets : List (Packet magic))
    {s' : σ} (hs : Serves handler k.session packets s') (packet : Packet magic)
    (head q : List UInt8) (hburst : Burst 32 (bitString packet.head) (bitString head))
    (hne : head ≠ packet.head) (chunks : List (List UInt8))
    (hcut : chunks.flatten = (packets.map Packet.bytes).flatten ++ (head ++ q)) :
    ∃ k', k.readAll magic handler chunks = (k', 0) ∧ k'.client.AtBoundary ∧ k'.session = s' ∧
      k'.dispatched = k.dispatched ++ packets.map Packet.body := by
  have hcrc := (burst_accepted_iff packet.head_length packet.crc hburst).not.mpr hne
  have hbefore : Before handler k s' packets [] k [] packets [] := by
    refine ⟨rfl, rfl, .inl hk, by rw [hk.2]; decide, ?_, by simp, hs⟩
    cases packets with
    | nil => exact (by decide : 0 < headerSize)
    | cons packet packets => exact bytes_pos packet
  exact Before.readAll_closed (hburst.length_header packet.head_length) hcrc chunks hbefore hcut

/-- A packet, and the same packet with its first bit damaged, in two chunks that are cut inside the
second one: only the first is handled. -/
theorem burst_refused_first :
    ∃ k', idle.readAll magics (fun s _ _ => (s, true))
        [loginPacket.bytes ++ 3 :: loginPacket.head.tail.take 4,
          loginPacket.head.tail.drop 4 ++ [7]] = (k', 0) ∧
      k'.client.AtBoundary ∧ k'.session = () ∧
      k'.dispatched = [] ++ [loginPacket].map Packet.body :=
  burst_refused (k := idle) ⟨by decide, rfl⟩ [loginPacket] ⟨rfl, rfl⟩ loginPacket
    (3 :: loginPacket.head.tail) [7]
    ⟨[], byteBits 2, byteBits 3, bitString loginPacket.head.tail, rfl, rfl, rfl, by decide⟩
    (by decide) _ rfl

end Terminal

/-! ### `rCRC16` -/

namespace Crc16

/-- One bit of an entry of `crc16_table`. -/
def bit (r : UInt16) : UInt16 := if r &&& 1 ≠ 0 then (r >>> 1) ^^^ 0xA001 else r >>> 1

/-- `crc16_table`. -/
def table (i : UInt16) : UInt16 := bit^[8] i

/-- `rCRC16::update`. -/
def update (code : UInt16) (buf : UInt8) : UInt16 :=
  table ((code &&& 0xFF) ^^^ buf.toUInt16) ^^^ (code >>> 8)

/-- `rCRC16::get`. -/
def get (buf : List UInt8) (size : UInt16) : UInt16 :=
  ~~~ ((buf.take size.toNat).foldl update 0xFFFF)

/-- One bit of `getModbus`. The code is an `unsigned int`. -/
def modbusBit (code : UInt32) : UInt32 :=
  let flag := code &&& 1
  let code := (code >>> 1) &&& 0xFFFF
  if flag ≠ 0 then code ^^^ 0xA001 else code

/-- `rCRC16::getModbus`. -/
def getModbus (buf : List UInt8) (sz : UInt32) : UInt16 :=
  ((buf.take sz.toNat).foldl (fun code b => modbusBit^[8] (code ^^^ b.toUInt32)) 0xFFFF).toUInt16

/-- A byte that is added to the register before eight shifts. -/
def plain (code : UInt16) (b : UInt8) : UInt16 := bit^[8] (code ^^^ b.toUInt16)

lemma toBitVec_and_one (c : UInt16) : c &&& 1 ≠ 0 ↔ c.toBitVec.getLsbD 0 = true := by
  rw [ne_eq, ← UInt16.toBitVec_inj, UInt16.toBitVec_and]
  rw [show (1 : UInt16).toBitVec = 1#16 by rfl, BitVec.and_one_eq_setWidth_ofBool_getLsbD]
  cases c.toBitVec.getLsbD 0 <;> decide

lemma bit_toBitVec (c : UInt16) : (bit c).toBitVec = step 0xA001#16 c.toBitVec := by
  rw [bit, step]
  by_cases h : c &&& 1 ≠ 0
  · rw [if_pos h, if_pos ((toBitVec_and_one c).mp h), UInt16.toBitVec_xor,
      UInt16.toBitVec_shiftRight]
    rfl
  · rw [if_neg h, if_neg (mt (toBitVec_and_one c).mpr h), UInt16.toBitVec_shiftRight]
    rfl

lemma iterate_bit_toBitVec (k : ℕ) (c : UInt16) :
    (bit^[k] c).toBitVec = (step 0xA001#16)^[k] c.toBitVec := by
  induction k generalizing c with
  | zero => rfl
  | succ k ih => rw [Function.iterate_succ_apply, ih, bit_toBitVec, Function.iterate_succ_apply]

/-- The table of `rCRC16` is what eight shifts do. -/
lemma update_eq (c : UInt16) (b : UInt8) : update c b = plain c b := by
  have hmask : ∀ i < 16, (0xFF#16).getLsbD i = decide (i < 8) := by decide
  have htable : (update c b).toBitVec = (byteBits b).foldl (feed 0xA001#16) c.toBitVec := by
    rw [foldl_feed_table _ _ hmask (byteBits_length b) (by decide), pack_byteBits, update,
      UInt16.toBitVec_xor, table, iterate_bit_toBitVec, UInt16.toBitVec_shiftRight]
    rfl
  rw [← UInt16.toBitVec_inj, htable, foldl_feed _ (by rw [byteBits_length]; decide), pack_byteBits,
    byteBits_length, plain, iterate_bit_toBitVec, UInt16.toBitVec_xor]
  rfl

/-- The code of `getModbus` stays inside sixteen bits. -/
lemma modbusBit_toUInt32 (c : UInt16) : modbusBit c.toUInt32 = (bit c).toUInt32 := by
  have hflag : c.toUInt32 &&& 1 ≠ 0 ↔ c &&& 1 ≠ 0 := by
    have hand : c.toUInt32 &&& 1 = (c &&& 1).toUInt32 := by
      rw [UInt16.toUInt32_and]
      rfl
    rw [hand, ne_eq, ne_eq, ← UInt16.toUInt32_inj]
    rfl
  have hshift : (c.toUInt32 >>> 1) &&& (0xFFFF : UInt32) = (c >>> 1).toUInt32 := by
    rw [← UInt32.toNat_inj]
    have : c.toNat < 2 ^ 16 := c.toNat_lt
    simp only [UInt32.toNat_and, UInt32.toNat_shiftRight, UInt16.toNat_toUInt32,
      UInt16.toNat_shiftRight]
    rw [show (0xFFFF : UInt32).toNat = 2 ^ 16 - 1 by rfl, Nat.and_two_pow_sub_one_eq_mod]
    refine Nat.mod_eq_of_lt ?_
    rw [Nat.shiftRight_eq_div_pow]
    exact (Nat.div_le_self _ _).trans_lt this
  rw [modbusBit, bit, hshift]
  by_cases h : c &&& 1 ≠ 0
  · rw [if_pos (hflag.mpr h), if_pos h, UInt16.toUInt32_xor]
    rfl
  · rw [if_neg (mt hflag.mp h), if_neg h]

lemma iterate_modbusBit (k : ℕ) (c : UInt16) : modbusBit^[k] c.toUInt32 = (bit^[k] c).toUInt32 := by
  induction k generalizing c with
  | zero => rfl
  | succ k ih =>
      rw [Function.iterate_succ_apply, modbusBit_toUInt32, ih, Function.iterate_succ_apply]

lemma foldl_modbus (c : UInt16) (buf : List UInt8) :
    buf.foldl (fun code b => modbusBit^[8] (code ^^^ b.toUInt32)) c.toUInt32
      = (buf.foldl plain c).toUInt32 := by
  induction buf generalizing c with
  | nil => rfl
  | cons b buf ih =>
      have hxor : c.toUInt32 ^^^ b.toUInt32 = (c ^^^ b.toUInt16).toUInt32 := by
        rw [UInt16.toUInt32_xor]
        rfl
      rw [List.foldl_cons, hxor, iterate_modbusBit, List.foldl_cons]
      exact ih (plain c b)

/-- `get`, which works with the table, and `getModbus`, which shifts bit by bit, differ by the
complement that only `get` takes, for every buffer and every size. -/
theorem get_eq (buf : List UInt8) (size : UInt16) :
    get buf size = ~~~ getModbus buf size.toUInt32 := by
  have hplain : (buf.take size.toNat).foldl update 0xFFFF
      = (buf.take size.toNat).foldl plain 0xFFFF := by
    congr 1
    funext c b
    exact update_eq c b
  have hcode : (0xFFFF : UInt32) = (0xFFFF : UInt16).toUInt32 := rfl
  rw [get, getModbus, hplain, UInt16.toNat_toUInt32, hcode, foldl_modbus, UInt16.toUInt16_toUInt32]

end Crc16

end Tritonn

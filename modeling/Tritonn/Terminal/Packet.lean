import Mathlib

/-!
`src/shared/packet_client.cpp`, `src/shared/crc32.h` and the loop of `rTermManager::ClientRecv`: the
packets of the terminal.

* `PacketClient` is a client with its buffer and the header of the packet that is being received;
  `append` is what `Recv` does with a chunk before it looks at the buffer, `checkBuffer` that look,
  and `clearPacket` drops the packet that was handled;
* `Terminal` is a connection with the state `σ` that its handlers work on; `Terminal.loop` is the
  loop of `ClientRecv`, which hands every packet in the buffer to its handler, and
  `Terminal.readAll` runs `ClientRecv` over the chunks that arrive.

The two magic numbers come from the description of the messages, which is not part of the sources;
`Magic` keeps what the client relies on.
-/

namespace Tritonn

/-! ### The checksum -/

/-- One bit of an entry of `crc32_table`. -/
def crcBit (c : UInt32) : UInt32 := if c &&& 1 ≠ 0 then (c >>> 1) ^^^ 0xEDB88320 else c >>> 1

/-- `crc32_table`. -/
def crcTable (i : UInt32) : UInt32 := (crcBit)^[8] i

/-- `rCRC32::update`. -/
def crcUpdate (crc : UInt32) (byte : UInt8) : UInt32 :=
  crcTable ((crc &&& 0xFF) ^^^ byte.toUInt32) ^^^ (crc >>> 8)

/-- `rCRC32::get`. -/
def crcGet (buf : List UInt8) : UInt32 := ~~~ (buf.foldl crcUpdate 0xFFFFFFFF)

/-! ### The client -/

/-- `rPacketHeader`. -/
structure PacketHeader where
  magic : UInt32
  version : UInt16
  flags : UInt16
  reserved : UInt32
  dataSize : UInt32
  crc32 : UInt32
  deriving DecidableEq, Repr

/-- `sizeof(rPacketHeader)`. -/
def headerSize : ℕ := 20

/-- The `UINT` at a place of the memory. -/
def uintAt (b : List UInt8) (i : ℕ) : UInt16 :=
  (b.getD i 0).toUInt16 ||| (b.getD (i + 1) 0).toUInt16 <<< 8

/-- The `UDINT` at a place of the memory. -/
def udintAt (b : List UInt8) (i : ℕ) : UInt32 :=
  (uintAt b i).toUInt32 ||| (uintAt b (i + 2)).toUInt32 <<< 16

/-- The header whose memory begins with the bytes. -/
def readHeader (b : List UInt8) : PacketHeader :=
  ⟨udintAt b 0, uintAt b 4, uintAt b 6, udintAt b 8, udintAt b 12, udintAt b 16⟩

/-- `rPacketClient`. -/
structure PacketClient where
  buff : List UInt8
  header : PacketHeader

/-- What `checkBuffer` returns: `TERMCLNT_RECV_ERROR`, nothing, or the data of the packet. -/
inductive CheckResult where
  | error
  | null
  | data
  deriving DecidableEq, Repr

namespace PacketClient

/-- `Recv`, up to the look at the buffer. The place of the bytes is kept in a `UDINT`. -/
def append (c : PacketClient) (chunk : List UInt8) : PacketClient :=
  if c.buff = [] then { c with buff := chunk }
  else
    let pos := c.buff.length % 2 ^ 32
    let buff := c.buff ++ List.replicate chunk.length 0
    { c with buff := buff.take pos ++ chunk ++ buff.drop (pos + chunk.length) }

/-- `clearHeader`. -/
def clearHeader (h : PacketHeader) : PacketHeader := { h with magic := 0, dataSize := 0 }

/-- A header was read: `m_header.m_magic && m_header.m_dataSize`. -/
def headed (c : PacketClient) : Prop := c.header.magic ≠ 0 ∧ c.header.dataSize ≠ 0

instance (c : PacketClient) : Decidable c.headed := inferInstanceAs (Decidable (_ ∧ _))

/-- The end of `checkBuffer`: whether the data of the packet is in the buffer. -/
def checkData (c : PacketClient) : PacketClient × CheckResult :=
  (c, if c.buff.length < c.header.dataSize.toNat then .null else .data)

/-- `checkBuffer`. -/
def checkBuffer (c : PacketClient) : PacketClient × CheckResult :=
  if c.headed then c.checkData
  else if c.buff.length < headerSize then (c, .null)
  else
    let header := readHeader c.buff
    if crcGet (c.buff.take 16) ≠ header.crc32 then (⟨[], clearHeader header⟩, .error)
    else checkData ⟨c.buff.drop headerSize, header⟩

/-- `clearPacket`. -/
def clearPacket (c : PacketClient) : PacketClient :=
  ⟨if c.buff.length ≤ c.header.dataSize.toNat then [] else c.buff.drop c.header.dataSize.toNat,
    clearHeader c.header⟩

/-- The bytes that the client keeps, those of the header included. -/
def size (c : PacketClient) : ℕ := c.buff.length + if c.headed then headerSize else 0

lemma clearPacket_buff (c : PacketClient) :
    c.clearPacket.buff = c.buff.drop c.header.dataSize.toNat := by
  rw [clearPacket]
  split_ifs with h
  · exact (List.drop_of_length_le h).symm
  · rfl

lemma clearPacket_headed (c : PacketClient) : ¬ c.clearPacket.headed := fun h => h.1 rfl

lemma checkData_fst (c : PacketClient) : c.checkData.1 = c := rfl

/-- Where the data of a packet comes from: its header was there, or is taken from the buffer. -/
lemma checkBuffer_data {c c' : PacketClient} (h : c.checkBuffer = (c', .data)) :
    c.headed ∧ c' = c ∨
      ¬ c.headed ∧ headerSize ≤ c.buff.length ∧ c'.buff = c.buff.drop headerSize := by
  have hfst := congrArg Prod.fst h
  unfold checkBuffer at h hfst
  by_cases hh : c.headed
  · rw [if_pos hh, checkData_fst] at hfst
    exact .inl ⟨hh, hfst.symm⟩
  · rw [if_neg hh] at h hfst
    by_cases hlen : c.buff.length < headerSize
    · rw [if_pos hlen] at h
      cases h
    · rw [if_neg hlen] at h hfst
      by_cases hcrc : crcGet (c.buff.take 16) ≠ (readHeader c.buff).crc32
      · simp only [if_pos hcrc] at h
        cases h
      · simp only [if_neg hcrc, checkData_fst] at hfst
        exact .inr ⟨hh, not_lt.mp hlen, by rw [← hfst]⟩

/-- A packet that is handled leaves less in the client. -/
lemma size_clearPacket {c c' : PacketClient} (h : c.checkBuffer = (c', .data)) :
    c'.clearPacket.size < c.size := by
  have hdrop : c'.clearPacket.size = c'.buff.length - c'.header.dataSize.toNat := by
    rw [size, if_neg c'.clearPacket_headed, clearPacket_buff, List.length_drop, Nat.add_zero]
  rw [hdrop, size]
  rcases checkBuffer_data h with ⟨hh, rfl⟩ | ⟨hh, hlen, hbuff⟩
  · rw [if_pos hh]
    rw [headerSize]
    omega
  · rw [if_neg hh, hbuff, List.length_drop]
    unfold headerSize at hlen ⊢
    omega

end PacketClient

/-! ### The loop of the server -/

/-- `TT::DataMagic` and `TT::LoginMagic`: two numbers that differ and that the client does not take
for a header that is missing. -/
structure Magic where
  data : UInt32
  login : UInt32
  data_ne : data ≠ 0
  login_ne : login ≠ 0
  ne : data ≠ login

/-- A connection: the client, what its handlers work on, and the packets that were given to the
handlers, each with its magic number and its data. -/
structure Terminal (σ : Type*) where
  client : PacketClient
  session : σ
  dispatched : List (UInt32 × List UInt8)

namespace Terminal

variable {σ : Type*} (magic : Magic) (handler : σ → UInt32 → List UInt8 → σ × Bool)

/-- The loop of `ClientRecv`; the second result is `0` when the connection is to be closed. The
handlers are given the data of the packet, the first `m_dataSize` bytes of the buffer. -/
def loop (k : Terminal σ) : Terminal σ × ℕ :=
  match _h : k.client.checkBuffer with
  | (client, .error) => ({ k with client }, 0)
  | (client, .null) => ({ k with client }, 1)
  | (client, .data) =>
      let m := client.header.magic
      let data := client.buff.take client.header.dataSize.toNat
      if m ≠ magic.data ∧ m ≠ magic.login then ({ k with client }, 0)
      else
        let (session, result) := handler k.session m data
        let dispatched := k.dispatched ++ [(m, data)]
        if result then loop ⟨client.clearPacket, session, dispatched⟩
        else (⟨client, session, dispatched⟩, 0)
termination_by k.client.size
decreasing_by exact PacketClient.size_clearPacket ‹_›

/-- `ClientRecv`. -/
def clientRecv (k : Terminal σ) (chunk : List UInt8) : Terminal σ × ℕ :=
  loop magic handler { k with client := k.client.append chunk }

/-- `ReadFromClient` for the chunks that `recv` returns, until the connection is closed. -/
def readAll (k : Terminal σ) : List (List UInt8) → Terminal σ × ℕ
  | [] => (k, 1)
  | chunk :: chunks =>
      match k.clientRecv magic handler chunk with
      | (k, 0) => (k, 0)
      | (k, _ + 1) => k.readAll chunks

end Terminal

end Tritonn

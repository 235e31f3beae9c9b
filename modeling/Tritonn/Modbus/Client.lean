import Tritonn.Lib.Segment

/-!
`src/tritonn/interface/modbustcpslave_client.cpp`: a client of the Modbus server and the reader of
its frames.

* `Fault` lists what can go wrong in the memory of the server and in its loops, each with the index
  at which it does;
* `ModbusClient.recv` takes a chunk of bytes: first what is missing of the header, then what is
  missing of the body;
* `recv_whole` and `recv_part` say what it does, from the boundary of a frame, with a chunk that
  holds the frame and with one that ends inside it.
-/

namespace Tritonn

/-- An access outside the memory it is meant for, or a loop that does not end. -/
inductive Fault where
  | header
  | buff (i : ℕ)
  | reg (i : ℕ)
  | stack (i : ℕ)
  | hang
  deriving DecidableEq, Repr

/-- `rModbusTCPSlaveClient`: the six bytes of the header, with the bytes of `Length` exchanged once
they are read, how many of them are read, and the bytes of the body that are read. -/
structure ModbusClient where
  header : List UInt8
  headerRead : ℕ
  buff : List UInt8

namespace ModbusClient

/-- `Header.Length`, in the order of the host. -/
def length (c : ModbusClient) : ℕ := (c.header.getD 4 0).toNat + (c.header.getD 5 0).toNat * 256

/-- The frame is read: `HeaderRead >= 6 && Size == Header.Length`. -/
def complete (c : ModbusClient) : Bool := 6 ≤ c.headerRead ∧ c.buff.length = c.length

/-- `SwapUINTPtr` of `Header.Length`. -/
def swapLength (header : List UInt8) : List UInt8 :=
  (header.set 4 (header.getD 5 0)).set 5 (header.getD 4 0)

/-- The reader is made ready for the next frame. -/
def next (c : ModbusClient) : ModbusClient :=
  if c.complete then { c with headerRead := 0, buff := [] } else c

/-- The bytes of the chunk that are copied into the header. -/
def needRead (c : ModbusClient) (chunk : List UInt8) : ℕ :=
  if chunk.length ≤ 6 then chunk.length else 6 - c.headerRead

/-- The header is read from the chunk; the second result is the rest of the chunk. -/
def recvHeader (c : ModbusClient) (chunk : List UInt8) : Except Fault (ModbusClient × List UInt8) :=
  if c.headerRead < 6 then
    let n := c.needRead chunk
    if 6 < c.headerRead + n then .error .header
    else
      let header := c.header.take c.headerRead ++ chunk.take n ++ c.header.drop (c.headerRead + n)
      .ok (⟨swapLength header, c.headerRead + n, []⟩, chunk.drop n)
  else .ok (c, chunk)

/-- The body is read from the rest of the chunk. -/
def recvBody (c : ModbusClient) (chunk : List UInt8) : ModbusClient :=
  if 6 ≤ c.headerRead ∧ chunk ≠ [] then
    { c with buff := c.buff ++ chunk.take (c.length - c.buff.length) }
  else c

/-- `rModbusTCPSlaveClient::Recv`; the second result is whether the frame is read. -/
def recv (c : ModbusClient) (chunk : List UInt8) : Except Fault (ModbusClient × Bool) :=
  match c.next.recvHeader chunk with
  | .error f => .error f
  | .ok (c₁, rest) => .ok (c₁.recvBody rest, (c₁.recvBody rest).complete)

/-- `rModbusTCPSlaveClient::Send`: the identifiers of the request, the length with its high byte
first, and the body. -/
def send (c : ModbusClient) (packet : List UInt8) : List UInt8 :=
  c.header.take 4 ++ [UInt8.ofNat (packet.length / 256), UInt8.ofNat (packet.length % 256)] ++
    packet

/-- A frame that is read has a whole header. -/
lemma six_le_of_recv {c c' : ModbusClient} {chunk : List UInt8}
    (h : c.recv chunk = .ok (c', true)) : 6 ≤ c'.headerRead := by
  rw [recv] at h
  cases hr : c.next.recvHeader chunk with
  | error f => rw [hr] at h; cases h
  | ok r =>
      rw [hr] at h
      have hc : c'.complete = true := by
        simp only [Except.ok.injEq, Prod.mk.injEq] at h
        rw [← h.1, h.2]
      simp only [complete, Bool.decide_and, Bool.and_eq_true, decide_eq_true_eq] at hc
      exact hc.1

end ModbusClient

/-- A well-formed frame: the bytes of the two identifiers, and a body that the `Length` field can
count and that holds the unit, the function and four bytes of data at least. -/
structure Frame where
  transaction : UInt8 × UInt8
  protocol : UInt8 × UInt8
  body : List UInt8
  six_le : 6 ≤ body.length
  lt : body.length < 65536

namespace Frame

/-- The header of a frame, the length with its high byte first. -/
def header (f : Frame) : List UInt8 :=
  [f.transaction.1, f.transaction.2, f.protocol.1, f.protocol.2,
    UInt8.ofNat (f.body.length / 256), UInt8.ofNat (f.body.length % 256)]

/-- The bytes of a frame. -/
def bytes (f : Frame) : List UInt8 := f.header ++ f.body

@[simp] lemma length_header (f : Frame) : f.header.length = 6 := rfl

@[simp] lemma length_bytes (f : Frame) : f.bytes.length = 6 + f.body.length := by
  rw [bytes, List.length_append, length_header]

end Frame

namespace ModbusClient

/-! ### From the boundary of a frame -/

/-- The client is between two frames: the next chunk begins with a header. -/
def AtBoundary (c : ModbusClient) : Prop := c.header.length = 6 ∧ c.next.headerRead = 0

lemma length_swapLength (header : List UInt8) : (swapLength header).length = header.length := by
  simp [swapLength]

/-- The header that a client takes from a frame counts the body of the frame. -/
lemma length_ofFrame (f : Frame) (n : ℕ) (b : List UInt8) :
    (⟨swapLength f.header, n, b⟩ : ModbusClient).length = f.body.length := by
  have hlt := f.lt
  simp only [length, swapLength, Frame.header, List.getD_eq_getElem?_getD]
  simp
  omega

lemma next_header (c : ModbusClient) : c.next.header = c.header := by
  rw [next]; split <;> rfl

/-- The header is read when the chunk holds more than the header. -/
lemma recvHeader_frame {c : ModbusClient} (h : c.AtBoundary) (f : Frame) {rest : List UInt8}
    (hr : rest ≠ []) :
    c.next.recvHeader (f.header ++ rest) = .ok (⟨swapLength f.header, 6, []⟩, rest) := by
  obtain ⟨hlen, hread⟩ := h
  have hpos := List.length_pos_iff.mpr hr
  have hneed : c.next.needRead (f.header ++ rest) = 6 := by
    rw [needRead, if_neg (by simp; omega), hread]
  rw [recvHeader, if_pos (by omega), hneed, hread, if_neg (by omega)]
  simp [next_header, hlen, List.take_left' f.length_header, List.drop_left' f.length_header,
    List.drop_eq_nil_of_le]

/-- A chunk that begins with a whole frame: the frame is read. -/
theorem recv_whole {c : ModbusClient} (h : c.AtBoundary) (f : Frame) (rest : List UInt8) :
    ∃ c', c.recv (f.bytes ++ rest) = .ok (c', true) ∧ c'.buff = f.body ∧ c'.headerRead = 6 ∧
      c'.AtBoundary := by
  have hbody : f.body ++ rest ≠ [] := by
    have := f.six_le
    rw [← List.length_pos_iff, List.length_append]
    omega
  have hc : (⟨swapLength f.header, 6, f.body⟩ : ModbusClient).complete = true := by
    simp [complete, length_ofFrame]
  refine ⟨⟨swapLength f.header, 6, f.body⟩, ?_, rfl, rfl, ?_, ?_⟩
  · rw [recv, Frame.bytes, List.append_assoc, recvHeader_frame h f hbody]
    simp only [recvBody, le_refl, true_and, if_pos hbody, length_ofFrame, List.length_nil,
      Nat.sub_zero, List.nil_append, List.take_left, hc]
  · rw [length_swapLength, Frame.length_header]
  · rw [next, if_pos hc]

/-- A chunk that ends inside a frame: the frame is not read. -/
theorem recv_part {c : ModbusClient} (h : c.AtBoundary) (f : Frame) {part : List UInt8}
    (hp : Segment.Part part f.bytes) : ∃ c', c.recv part = .ok (c', false) := by
  obtain ⟨hpre, hne, hlt⟩ := hp
  have h6 := f.six_le
  rw [Frame.length_bytes] at hlt
  rcases Nat.lt_or_ge 6 part.length with hlong | hshort
  · -- The header is in the chunk, and a part of the body.
    obtain ⟨body, rfl⟩ : f.header <+: part :=
      List.prefix_of_prefix_length_le (List.prefix_append _ _) hpre (by simpa using hlong.le)
    rw [List.length_append, Frame.length_header] at hlong hlt
    have hbody : body ≠ [] := List.length_pos_iff.mp (by omega)
    refine ⟨⟨swapLength f.header, 6, body⟩, ?_⟩
    rw [recv, recvHeader_frame h f hbody]
    simp only [recvBody, le_refl, true_and, if_pos hbody, length_ofFrame, List.length_nil,
      Nat.sub_zero, List.nil_append,
      List.take_of_length_le (show body.length ≤ f.body.length by omega)]
    simp [complete, length_ofFrame]
    omega
  · -- The header itself is not longer than the chunk.
    obtain ⟨hlen, hread⟩ := h
    have hneed : c.next.needRead part = part.length := by rw [needRead, if_pos hshort]
    have hhead : part <+: f.header :=
      List.prefix_of_prefix_length_le hpre (List.prefix_append _ _) (by simpa using hshort)
    have hpart : f.header.take part.length = part := (List.prefix_iff_eq_take.mp hhead).symm
    refine ⟨⟨swapLength (part ++ c.header.drop part.length), part.length, []⟩, ?_⟩
    rw [recv, recvHeader, if_pos (by omega), hneed, hread, if_neg (by omega)]
    simp only [recvBody, List.drop_length, ne_eq, not_true_eq_false, and_false, if_false,
      List.take_zero, List.nil_append, List.take_length, next_header, Nat.zero_add]
    suffices h :
        complete ⟨swapLength (part ++ c.header.drop part.length), part.length, []⟩ = false by
      rw [h]
    rcases hshort.lt_or_eq with hlt6 | heq6
    · simp [complete, hlt6]
    · -- The chunk is the header, and the body is not empty.
      obtain rfl : part = f.header := by
        rw [← hpart, heq6, List.take_of_length_le f.length_header.le]
      rw [f.length_header, List.drop_eq_nil_of_le hlen.le, List.append_nil]
      simp only [complete, length_ofFrame, List.length_nil]
      simp
      omega

end ModbusClient

end Tritonn

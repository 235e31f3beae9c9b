import Tritonn.Modbus.Write

/-!
The answer to a request to read registers, for all addresses and quantities.

* `ReadRequest` is the request, with whatever follows its six bytes;
* `ReadReplyOk` says that a request for one to 121 registers of the array is answered by the number
  of their bytes and the registers in order, and every other request by an exception.

`readReplyOk_iff` says when that is so: the quantity is taken modulo 256, and only if more than 121
registers are left there is an exception; otherwise the place of the byte count has the size of the
answer, three more than that of the registers.
-/

namespace Tritonn

open Result

/-- A request with the function code 0x03. -/
structure ReadRequest where
  unit : UInt8
  adr : UInt16
  quantity : UInt16
  extra : List UInt8 := []

namespace ReadRequest

/-- The body of the request. -/
def body (q : ReadRequest) : List UInt8 :=
  [q.unit, 0x03] ++ wireBytes q.adr ++ wireBytes q.quantity ++ q.extra

/-- The registers that are asked for can be read. -/
def Valid (q : ReadRequest) : Prop :=
  1 ≤ q.quantity.toNat ∧ q.quantity.toNat ≤ 121 ∧ q.adr.toNat + q.quantity.toNat ≤ 65536

/-- The registers that are asked for, in order, each with its high byte first. -/
def registers (q : ReadRequest) (modbus : UInt16 → UInt16) : List UInt8 :=
  (List.range q.quantity.toNat).flatMap fun i => wireBytes (modbus (q.adr + UInt16.ofNat i))

end ReadRequest

namespace Slave

/-- What the answer to a read request has to be. -/
structure ReadReplyOk (s : Slave) (fuel : ℕ) (q : ReadRequest) : Prop where
  read : q.Valid → ∃ a, s.handle fuel q.body = .ok a ∧
    a.reply = some ([q.unit, 0x03, UInt8.ofNat (2 * q.quantity.toNat)] ++ q.registers s.modbus)
  refused : ¬ q.Valid → ∃ a err, s.handle fuel q.body = .ok a ∧
    a.reply = some [q.unit, 0x83, err]

variable {s : Slave} {fuel : ℕ} {q : ReadRequest}

lemma six_le_body (q : ReadRequest) : 6 ≤ q.body.length := by
  rw [ReadRequest.body, List.length_append]
  exact Nat.le_add_right _ _

lemma wordAt_body_quantity (q : ReadRequest) : wordAt q.body 4 = q.quantity :=
  beNat_wireBytes q.quantity

lemma handle_body (q : ReadRequest) : s.handle fuel q.body = s.func0x03 q.body := by
  have hfunc : leNat ((q.body.drop 1).take 1) = 3 := rfl
  rw [handle_eq (by have := six_le_body q; omega), hfunc]
  rfl

/-- The quantity in eight bits. -/
lemma count_lt_iff (q : ReadRequest) :
    121 < (wordAt q.body 4).toUInt8 ↔ 121 < q.quantity.toNat % 256 := by
  rw [wordAt_body_quantity, UInt8.lt_iff_toNat_lt, UInt16.toNat_toUInt8]
  rfl

/-- More than 121 registers, modulo 256, give an exception. -/
lemma handle_body_exception (h : 121 < q.quantity.toNat % 256) :
    s.handle fuel q.body = .ok ⟨s, [], some [q.unit, 0x83, modbusErrorData]⟩ := by
  have hbit : (0x03 : UInt8) ||| 0x80 = 0x83 := by decide
  have hbody : exception q.body modbusErrorData = [q.unit, 0x03 ||| 0x80, modbusErrorData] := rfl
  rw [handle_body, func0x03_eq (six_le_body q), if_pos ((count_lt_iff q).mpr h), hbody, hbit]

/-- Any other answer begins with the unit, the function code and the size of the answer. -/
lemma take_three_of_ok (h : ¬ 121 < q.quantity.toNat % 256) {a : Answer}
    (ha : s.handle fuel q.body = .ok a) :
    ∃ reply, a.reply = some reply ∧
      reply.take 3 = [q.unit, 0x03, 3 + q.quantity.toUInt8 * 2] := by
  rw [handle_body, func0x03_eq (six_le_body q), if_neg (mt (count_lt_iff q).mp h)] at ha
  split_ifs at ha
  obtain ⟨c, hc, ha⟩ := bind_eq_ok.mp ha
  cases ha
  refine ⟨_, rfl, ?_⟩
  have hsize : 3 ≤ (3 + (wordAt q.body 4).toUInt8 * 2).toNat := by
    have hcount : (wordAt q.body 4).toUInt8.toNat ≤ 121 := by
      rw [wordAt_body_quantity, UInt16.toNat_toUInt8]
      omega
    rw [UInt8.toNat_add, UInt8.toNat_mul]
    generalize (wordAt q.body 4).toUInt8.toNat = c at hcount
    change 3 ≤ (3 + c * 2 % 256) % 256
    omega
  rw [List.take_take, Nat.min_eq_left hsize]
  -- The exchanges begin behind these bytes.
  have hkeep : c.take 3 = (s.answe0x03 q.body).take 3 := by
    refine List.ext_getElem? fun k => ?_
    rw [List.getElem?_take, List.getElem?_take]
    split_ifs with hk
    · rw [(Swap.swapBuffer_spec hc).2, Exchange.source_shift_of_lt hk]
    · rfl
  rw [hkeep, answe0x03, wordAt_body_quantity]
  rfl

/-- For every server and every request to read registers, the answer is right if and only if the
quantity is above 121 modulo 256. -/
theorem readReplyOk_iff (s : Slave) (fuel : ℕ) (q : ReadRequest) :
    s.ReadReplyOk fuel q ↔ 121 < q.quantity.toNat % 256 := by
  constructor
  · intro h
    by_contra hcount
    by_cases hvalid : q.Valid
    · obtain ⟨a, ha, hreply⟩ := h.read hvalid
      obtain ⟨reply, hreply', htake⟩ := take_three_of_ok hcount ha
      cases hreply.symm.trans hreply'
      have hbyte : UInt8.ofNat (2 * q.quantity.toNat) = 3 + q.quantity.toUInt8 * 2 :=
        (List.cons.inj (List.cons.inj (List.cons.inj htake).2).2).1
      have hnat := congrArg UInt8.toNat hbyte
      rw [UInt8.toNat_ofNat', UInt8.toNat_add, UInt8.toNat_mul, UInt16.toNat_toUInt8] at hnat
      change 2 * q.quantity.toNat % 256 = (3 + q.quantity.toNat % 256 * 2 % 256) % 256 at hnat
      omega
    · obtain ⟨a, err, ha, hreply⟩ := h.refused hvalid
      obtain ⟨reply, hreply', htake⟩ := take_three_of_ok hcount ha
      cases hreply.symm.trans hreply'
      have hbyte : (0x83 : UInt8) = 0x03 := (List.cons.inj (List.cons.inj htake).2).1
      exact absurd hbyte (by decide)
  · intro hcount
    have hans : s.handle fuel q.body = .ok ⟨s, [], some [q.unit, 0x83, modbusErrorData]⟩ :=
      handle_body_exception hcount
    refine ⟨fun hvalid => ?_, fun _ => ⟨_, modbusErrorData, hans, rfl⟩⟩
    have hmod := Nat.mod_le q.quantity.toNat 256
    have hle := hvalid.2.1
    omega

/-- The register 0 of a new server is asked for alone: the answer has the byte count 5. -/
theorem readReply_fails : ¬ Slave.init.ReadReplyOk 0 ⟨1, 0, 1, []⟩ := by
  intro h
  obtain ⟨a, ha, hreply⟩ := h.read ⟨by decide, by decide, by decide⟩
  obtain ⟨reply, hreply', htake⟩ := take_three_of_ok (by decide) ha
  cases hreply.symm.trans hreply'
  exact absurd htake (by decide)

end Slave

end Tritonn

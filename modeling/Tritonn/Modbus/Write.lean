import Tritonn.Lib.Keyed
import Tritonn.Modbus.Handlers

/-!
Writes: whether the loop of a write ends, and what an acknowledgement means.

* `terminates_iff` says that the loop of `Func_0x10` ends within as many turns as there are
  registers to write if and only if there are none;
* `WriteRequest` is a request to write one register or a block of them, and `Honoured` the property
  of its answer: an exception, or an acknowledgement of a write that happened as a whole;
* `single_answer` and `block_answer` are the answers to the two kinds of requests;
* `honoured_iff` says that exactly the writes of one register are honoured that meet no variable or
  a variable of one register, and the writes of no register at all;
* `terminates_fails` and `honoured_fails` are a write of one register as a block, and of a register
  of a variable that takes two.
-/

namespace Tritonn

open Result

namespace Slave

/-! ### The loop ends -/

/-- For every register map and every request, the loop of `Func_0x10` ends after as many turns as
there are registers, or fewer, if and only if there are no registers to write. -/
theorem terminates_iff (s : Slave) (adr count : UInt16) (buff : List UInt8) :
    (∃ w, func0x10Loop adr count count.toNat ⟨s, buff, ⟨[], accessMaskSA⟩, 0⟩ = .ok w) ↔
      count = 0 := by
  constructor
  · rintro ⟨w, hw⟩
    by_contra hne
    have hpos : 0 < count.toNat := by
      rw [Nat.pos_iff_ne_zero]
      exact fun h0 => hne (UInt16.toNat_inj.mp h0)
    exact func0x10Loop_ne_ok hpos _ w hw
  · rintro rfl
    exact ⟨_, rfl⟩

/-- One register that is not linked, in a block of its own: one turn does not end the loop. -/
theorem terminates_fails :
    ¬ ∃ w, func0x10Loop 0 1 1 ⟨Slave.init, [1, 0x10, 0, 0, 0, 1, 2, 0, 5], ⟨[], accessMaskSA⟩, 0⟩
      = .ok w := by
  rintro ⟨w, hw⟩
  exact func0x10Loop_ne_ok (by decide) 1 w hw

end Slave

/-! ### Requests -/

/-- A request to write: one register, or a block of registers. -/
inductive WriteRequest where
  | single (adr val : UInt16)
  | block (adr : UInt16) (values : List UInt16)

namespace WriteRequest

/-- The address of the first register. -/
def adr : WriteRequest → UInt16
  | single adr _ => adr
  | block adr _ => adr

/-- The values of the registers, from the first on. -/
def values : WriteRequest → List UInt16
  | single _ val => [val]
  | block _ values => values

/-- The body of the request for a unit. -/
def body (unit : UInt8) : WriteRequest → List UInt8
  | single adr val => [unit, 0x06] ++ wireBytes adr ++ wireBytes val
  | block adr values => [unit, 0x10] ++ wireBytes adr ++ wireBytes (UInt16.ofNat values.length) ++
      [UInt8.ofNat (values.length * 2)] ++ values.flatMap wireBytes

/-- The register `r` is one of those that the request writes. -/
def Addresses (q : WriteRequest) (r : ℕ) : Prop :=
  q.adr.toNat ≤ r ∧ r < q.adr.toNat + q.values.length

end WriteRequest

/-- The register `r` is one of those of the linked variable. -/
def Link.Covers (l : Link) (r : ℕ) : Prop :=
  l.address.toNat ≤ r ∧ r < l.address.toNat + typeCountReg l.var.type

/-- The bytes `data` are the ones that the request sends for the variable: for a variable of one
register they have its value, for another they are the bytes of its registers in some `order`. -/
def WriteRequest.Sends (order : List UInt8 → List UInt8) (q : WriteRequest) (l : Link)
    (data : List UInt8) : Prop :=
  let sent := (q.values.drop (l.address.toNat - q.adr.toNat)).take (typeCountReg l.var.type)
  if typeCountReg l.var.type = 1 then sent.map UInt16.toNat = [leNat data]
  else data = order (sent.flatMap wireBytes)

namespace Slave

/-- The variables of the links are those of the store, and may be written. -/
structure Linked (s : Slave) : Prop where
  found : ∀ l ∈ s.modbusLink, s.store.findVar l.var.name = some l.var
  writable : ∀ l ∈ s.modbusLink, Store.Writable accessMaskSA l.var

/-- The request was carried out as a whole: every register that belongs to no variable has its
value, every variable that the request touches has all its registers in the request and was written
with the bytes sent, and the answer to a block repeats its address and its quantity. -/
structure Applied (order : List UInt8 → List UInt8) (s : Slave) (unit : UInt8) (q : WriteRequest)
    (a : Answer) : Prop where
  stored : ∀ k, (h : k < q.values.length) → (∀ l ∈ s.modbusLink, ¬ l.Covers (q.adr.toNat + k)) →
    a.slave.modbus (UInt16.ofNat (q.adr.toNat + k)) = q.values[k]
  written : ∀ l ∈ s.modbusLink, ∀ r, q.Addresses r → l.Covers r →
    (∀ r', l.Covers r' → q.Addresses r') ∧
      ∃ item ∈ a.written, item.var = some l.var ∧ item.status = .writed ∧ q.Sends order l item.data
  echo : ∀ adr values, q = .block adr values →
    a.reply = some ([unit, 0x10] ++ wireBytes adr ++ wireBytes (UInt16.ofNat values.length))

/-- The request is answered, by an exception or by the acknowledgement of a request that was
carried out. -/
def Honoured (order : List UInt8 → List UInt8) (s : Slave) (unit : UInt8) (q : WriteRequest) :
    Prop :=
  ∃ fuel a r, s.handle fuel (q.body unit) = .ok a ∧ a.reply = some r ∧
    (r.getD 1 0 &&& 0x80 = 0 → s.Applied order unit q a)

/-- The requests that are honoured: a write of one register, when each variable that the register
belongs to has this register alone, is the variable of the first link there, and can hold the value;
a write of a block, when it has no registers. -/
def Honourable (s : Slave) : WriteRequest → Prop
  | .single adr val => ∀ l ∈ s.modbusLink, l.Covers adr.toNat →
      typeCountReg l.var.type = 1 ∧ s.findSnapshotItem adr = some l.var ∧
        (getTypeSize l.var.type = 1 → val.toNat < 256)
  | .block _ values => values = []

variable {s : Slave} {unit : UInt8} {adr val : UInt16} {values : List UInt16}

/-! ### The answer to a write of one register -/

lemma beNat_wireBytes (r : UInt16) : UInt16.ofNat (beNat (wireBytes r)) = r := by
  rw [beNat, wireBytes, List.reverse_reverse, leNat_leBytes_two, UInt16.ofNat_toNat]

lemma wordAt_single_adr : wordAt ((WriteRequest.single adr val).body unit) 2 = adr :=
  beNat_wireBytes adr

lemma wordAt_single_val : wordAt ((WriteRequest.single adr val).body unit) 4 = val :=
  beNat_wireBytes val

/-- The function code of a write of one register is not that of an exception. -/
lemma single_acknowledged : ((WriteRequest.single adr val).body unit).getD 1 0 &&& 0x80 = 0 := by
  change (6 : UInt8) &&& 0x80 = 0
  decide

/-- What the server does with a write of one register. -/
lemma single_answer (s : Slave) (unit : UInt8) (adr val : UInt16) (fuel : ℕ) :
    s.handle fuel ((WriteRequest.single adr val).body unit)
      = .ok (match s.findSnapshotItem adr with
        | none => ⟨{ s with modbus := Function.update s.modbus adr val }, [],
            some ((WriteRequest.single adr val).body unit)⟩
        | some v => ⟨{ s with store := (s.store.set (s.snapshot0x06 v val)).1 },
            (s.store.set (s.snapshot0x06 v val)).2.list,
            some ((WriteRequest.single adr val).body unit)⟩) := by
  have hlen : ((WriteRequest.single adr val).body unit).length = 6 := rfl
  have hfunc : leNat ((((WriteRequest.single adr val).body unit).drop 1).take 1) = 6 := rfl
  rw [handle_eq (by omega), hfunc]
  change s.func0x06 _ = _
  rw [func0x06_eq (by omega), wordAt_single_adr, wordAt_single_val]
  rfl

/-- A write of a register that is not linked. -/
lemma single_answer_unlinked (hf : s.findSnapshotItem adr = none) (unit : UInt8) (val : UInt16)
    (fuel : ℕ) :
    s.handle fuel ((WriteRequest.single adr val).body unit)
      = .ok ⟨{ s with modbus := Function.update s.modbus adr val }, [],
          some ((WriteRequest.single adr val).body unit)⟩ := by
  rw [single_answer, hf]

/-- A register belongs to a variable that is linked to it. -/
lemma covers_of_find {v : Variable} (h : s.findSnapshotItem adr = some v) :
    ∃ l ∈ s.modbusLink, l.address = adr ∧ l.var = v ∧ l.Covers adr.toNat := by
  rw [findSnapshotItem, Option.map_eq_some_iff] at h
  obtain ⟨l, hl, rfl⟩ := h
  obtain ⟨hmem, hadr⟩ := Keyed.eq_of_find hl
  refine ⟨l, hmem, hadr, rfl, ?_⟩
  have hpos : 0 < typeCountReg l.var.type := by cases l.var.type <;> decide
  rw [Link.Covers, hadr]
  omega

/-- The bytes of a variable of one register have the value that was sent, or its low byte. -/
lemma leNat_castUINT {type : VType} (h : typeCountReg type = 1) (val : UInt16) :
    leNat (castUINT type val) = if getTypeSize type = 1 then val.toNat % 256 else val.toNat := by
  have hone : leNat (leBytes 1 val.toNat) = val.toNat % 256 := by simp [leNat, leBytes]
  cases type with
  | sint => exact hone
  | usint => exact hone
  | int => exact leNat_leBytes_two val
  | uint => exact leNat_leBytes_two val
  | undef => cases h
  | dint => cases h
  | udint => cases h
  | real => cases h
  | lreal => cases h
  | strid => cases h

/-- A write of a register that is linked to a variable: the variable is written when it has this
register alone. -/
lemma single_answer_linked (hs : s.Linked) {v : Variable} (hv : s.findSnapshotItem adr = some v)
    (unit : UInt8) (val : UInt16) (fuel : ℕ) :
    ∃ slave, s.handle fuel ((WriteRequest.single adr val).body unit) = .ok ⟨slave,
      if typeCountReg v.type = 1 then [⟨some v, .writed, castUINT v.type val⟩] else [],
      some ((WriteRequest.single adr val).body unit)⟩ := by
  obtain ⟨l, hl, -, rfl, -⟩ := covers_of_find hv
  have hset : (s.store.set (s.snapshot0x06 l.var val)).2.list =
      if typeCountReg l.var.type = 1 then [⟨some l.var, .writed, castUINT l.var.type val⟩]
      else [] := by
    rw [snapshot0x06]
    split_ifs with hr
    · have hundef : l.var.type ≠ .undef := by
        intro h
        rw [h] at hr
        cases hr
      rw [hs.found l hl, SnapshotItem.ofUINT, if_neg hundef,
        Store.set_writable _ (hs.writable l hl)]
    · rfl
  rw [single_answer, hv, ← hset]
  exact ⟨_, rfl⟩

/-! ### Acknowledged writes of one register -/

/-- The request addresses its register. -/
lemma addresses_single {r : ℕ} : (WriteRequest.single adr val).Addresses r ↔ r = adr.toNat := by
  simp only [WriteRequest.Addresses, WriteRequest.adr, WriteRequest.values, List.length_singleton]
  omega

/-- What is sent for a variable that has the register alone. -/
lemma sends_single {order : List UInt8 → List UInt8} {l : Link} (hr : typeCountReg l.var.type = 1)
    (hc : l.Covers adr.toNat) (data : List UInt8) :
    WriteRequest.Sends order (.single adr val) l data ↔ val.toNat = leNat data := by
  have hadr : l.address.toNat - adr.toNat = 0 := by
    have := hc.1
    omega
  simp [WriteRequest.Sends, WriteRequest.adr, WriteRequest.values, hr, hadr]

/-- A register that is linked to no variable: the acknowledgement is right when the register belongs
to none. -/
lemma applied_unlinked_iff (order : List UInt8 → List UInt8) (hf : s.findSnapshotItem adr = none)
    {reply : Option (List UInt8)} :
    s.Applied order unit (.single adr val)
        ⟨{ s with modbus := Function.update s.modbus adr val }, [], reply⟩ ↔
      s.Honourable (.single adr val) := by
  constructor
  · -- A variable that the register belongs to was not written.
    intro happ l hl hc
    obtain ⟨-, item, hitem, -⟩ := happ.written l hl _ (addresses_single.mpr rfl) hc
    cases hitem
  · intro hhon
    have hfree : ∀ l ∈ s.modbusLink, ¬ l.Covers adr.toNat := by
      intro l hl hc
      obtain ⟨-, h, -⟩ := hhon l hl hc
      rw [hf] at h
      cases h
    refine ⟨?_, ?_, fun _ _ h => nomatch h⟩
    · intro k hk _
      obtain rfl : k = 0 := Nat.lt_one_iff.mp hk
      simp [WriteRequest.adr, WriteRequest.values]
    · intro l hl r hr hc
      exact absurd (addresses_single.mp hr ▸ hc) (hfree l hl)

/-- A register that is linked to the variable `v`: the acknowledgement is right when `v` has this
register alone and holds the value, and no other variable has the register. -/
lemma applied_linked_iff (order : List UInt8 → List UInt8) {v : Variable}
    (hf : s.findSnapshotItem adr = some v) {slave : Slave} {reply : Option (List UInt8)} :
    s.Applied order unit (.single adr val) ⟨slave,
        if typeCountReg v.type = 1 then [⟨some v, .writed, castUINT v.type val⟩] else [], reply⟩ ↔
      s.Honourable (.single adr val) := by
  obtain ⟨l₀, hl₀, -, rfl, hc₀⟩ := covers_of_find hf
  constructor
  · intro happ l hl hc
    obtain ⟨-, item, hitem, hvar, -, hsends⟩ := happ.written l hl _ (addresses_single.mpr rfl) hc
    split_ifs at hitem with hr
    · obtain rfl := List.mem_singleton.mp hitem
      have hvar : l₀.var = l.var := by simpa using hvar
      rw [hvar] at hr hf hsends
      refine ⟨hr, hf, fun hsize => ?_⟩
      -- A type of one byte takes the low byte, which has the value when that is small.
      rw [sends_single hr hc, leNat_castUINT hr, if_pos hsize] at hsends
      omega
    · cases hitem
  · intro hhon
    obtain ⟨hr₀, -, -⟩ := hhon l₀ hl₀ hc₀
    refine ⟨?_, ?_, fun _ _ h => nomatch h⟩
    · intro k hk hfree
      obtain rfl : k = 0 := Nat.lt_one_iff.mp hk
      exact absurd hc₀ (hfree l₀ hl₀)
    · intro l hl r hr hc
      rw [addresses_single] at hr
      subst hr
      obtain ⟨hone, hfind, hfits⟩ := hhon l hl hc
      have hvar : l₀.var = l.var := by
        rw [hf] at hfind
        exact Option.some.inj hfind
      refine ⟨fun r' hr' => addresses_single.mpr ?_,
        ⟨some l₀.var, .writed, castUINT l₀.var.type val⟩, ?_, congrArg some hvar, rfl, ?_⟩
      · simp only [Link.Covers, hone] at hc hr'
        omega
      · rw [if_pos hr₀]
        exact List.mem_singleton_self _
      · rw [sends_single hone hc, hvar, leNat_castUINT hone]
        split_ifs with hsize
        · exact (Nat.mod_eq_of_lt (hfits hsize)).symm
        · rfl

/-! ### Writes of a block -/

/-- A block is answered when it has no registers, and only then. -/
lemma block_answer (hn : values.length ≤ 127) {fuel : ℕ} {a : Answer} :
    s.handle fuel ((WriteRequest.block adr values).body unit) = .ok a ↔
      values = [] ∧ a = ⟨s, [],
        some ([unit, 0x10] ++ wireBytes adr ++ wireBytes (UInt16.ofNat values.length))⟩ := by
  have hlen : 7 ≤ ((WriteRequest.block adr values).body unit).length := by
    simp [WriteRequest.body, wireBytes, leBytes]
  have hfunc : leNat ((((WriteRequest.block adr values).body unit).drop 1).take 1) = 0x10 := rfl
  have hcount : wordAt ((WriteRequest.block adr values).body unit) 4
      = UInt16.ofNat values.length := beNat_wireBytes _
  have hbytes : bytes0x10 ((WriteRequest.block adr values).body unit)
      = [UInt8.ofNat (values.length * 2)] := rfl
  have hbytes' : leNat [UInt8.ofNat (values.length * 2)] = values.length * 2 := by
    simp only [leNat, List.foldr, UInt8.toNat_ofNat']
    omega
  have hcount' : (UInt16.ofNat values.length).toNat = values.length := by
    rw [UInt16.toNat_ofNat']
    omega
  rw [handle_eq (by omega), hfunc]
  change s.func0x10 fuel _ = _ ↔ _
  rw [func0x10_eq hlen, hcount, hbytes, hbytes', hcount', if_neg (not_not_intro rfl)]
  by_cases hv : values = []
  · subst hv
    rw [func0x10Loop_done (by exact Nat.le_refl 0), ok_bind,
      readBytes_of_le (by dsimp only; omega), ok_bind, Except.ok.injEq, and_iff_right rfl]
    exact eq_comm
  · -- The loop is entered and does not end.
    refine iff_of_false (fun ha => ?_) (fun h => hv h.1)
    obtain ⟨w, hloop, -⟩ := bind_eq_ok.mp ha
    have hpos := List.length_pos_iff.mpr hv
    exact func0x10Loop_ne_ok (by rw [hcount']; exact hpos) fuel w hloop

/-! ### Acknowledgements -/

/-- For every map of writable variables and every write whose byte count is right, which it can be
for up to 127 registers: the write is answered, by an exception or by the acknowledgement of a write
that happened as a whole, if and only if it is one that the server honours. -/
theorem honoured_iff (order : List UInt8 → List UInt8) (hs : s.Linked) (unit : UInt8)
    (q : WriteRequest) (hn : q.values.length ≤ 127) :
    s.Honoured order unit q ↔ s.Honourable q := by
  cases q with
  | single adr val =>
      -- The answer does not depend on `fuel`, and it is never an exception.
      cases hf : s.findSnapshotItem adr with
      | none =>
          have ha := single_answer_unlinked hf unit val
          rw [← applied_unlinked_iff order hf]
          constructor
          · rintro ⟨fuel, a, r, h, hr, happ⟩
            cases (ha fuel).symm.trans h
            cases hr
            exact happ single_acknowledged
          · intro happ
            exact ⟨0, _, _, ha 0, rfl, fun _ => happ⟩
      | some v =>
          have ha := single_answer_linked hs hf unit val
          constructor
          · rintro ⟨fuel, a, r, h, hr, happ⟩
            obtain ⟨slave, ha⟩ := ha fuel
            cases ha.symm.trans h
            cases hr
            exact (applied_linked_iff order hf).mp (happ single_acknowledged)
          · intro hhon
            obtain ⟨slave, ha⟩ := ha 0
            exact ⟨0, _, _, ha, rfl, fun _ => (applied_linked_iff order hf).mpr hhon⟩
  | block adr values =>
      have hn : values.length ≤ 127 := hn
      constructor
      · rintro ⟨fuel, a, r, ha, -⟩
        exact ((block_answer hn).mp ha).1
      · rintro rfl
        have hnone : ∀ r, ¬ (WriteRequest.block adr []).Addresses r := by
          intro r hr
          simp only [WriteRequest.Addresses, WriteRequest.values, List.length_nil] at hr
          omega
        refine ⟨0, _, _, (block_answer hn).mpr ⟨rfl, rfl⟩, rfl, fun _ => ⟨?_, ?_, ?_⟩⟩
        · intro k hk
          exact absurd hk (Nat.not_lt_zero k)
        · intro l _ r hr
          exact absurd hr (hnone r)
        · intro adr' values' h
          cases h
          rfl

/-! ### A variable of two registers -/

/-- A variable that takes two registers and may be written. -/
def twoRegisters : Variable := ⟨"v", .udint, 0, 0⟩

/-- A server with the variable at the registers 0 and 1. -/
def paired : Slave :=
  { Slave.init with
    modbusLink := [⟨0, twoRegisters⟩]
    store := { Slave.init.store with vars := [twoRegisters] } }

lemma paired_linked : paired.Linked := by
  constructor
  · intro l hl
    obtain rfl := List.mem_singleton.mp hl
    decide +kernel
  · intro l hl
    obtain rfl := List.mem_singleton.mp hl
    rfl

/-- A write of the first register of the variable is acknowledged, and nothing is written. -/
theorem honoured_fails :
    ¬ ∀ s : Slave, s.Linked → ∀ q : WriteRequest, q.values.length ≤ 127 →
      q.adr.toNat + q.values.length ≤ 65536 → ∀ order, s.Honoured order 1 q := by
  intro h
  obtain ⟨fuel, a, r, ha, hr, happ⟩ :=
    h paired paired_linked (.single 0 5) (by decide) (by decide) id
  have hf : paired.findSnapshotItem 0 = some twoRegisters := rfl
  obtain ⟨slave, ha'⟩ := single_answer_linked paired_linked hf 1 5 fuel
  cases ha'.symm.trans ha
  cases hr
  obtain ⟨-, item, hitem, -⟩ := (happ single_acknowledged).written ⟨0, twoRegisters⟩
    (List.mem_singleton_self _) 0 (addresses_single.mpr rfl) ⟨by decide, by decide⟩
  cases hitem

/-- A write of the first register of the variable, by `honoured_iff`. -/
theorem honoured_iff_paired :
    paired.Honoured id 1 (.single 0 5) ↔ paired.Honourable (.single 0 5) :=
  honoured_iff id paired_linked 1 (.single 0 5) (by decide)

end Slave

end Tritonn

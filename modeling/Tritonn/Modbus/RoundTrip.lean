import Tritonn.Lib.Segment
import Tritonn.Modbus.Write

/-!
Round trip: whether a register that was written is read back.

* `ReadBlock` is a block of registers that can be read, and `ReadsBack` the property of the answer:
  it has the value at the place of the register;
* `Swap.register` is the register from which `SwapBuffer` brings the bytes of a place of the answer,
  and `source_exchanges` says so of its exchanges;
* `readsBack_iff` is the answer to a read, and `RoundTrips` the condition on the write and the read;
* `roundTrip_iff` says that the value is read back after every successful write if and only if the
  condition holds;
* `roundTrip_fails` is a register read alone.
-/

namespace Tritonn

open Result

/-- A register with its two bytes exchanged. -/
def swapBytes (r : UInt16) : UInt16 := UInt16.ofNat (beNat (leBytes 2 r.toNat))

/-! ### What the exchanges bring -/

namespace Swap

variable (swap : Swap)

/-- The register of a block of `count` from which `SwapBuffer` brings the bytes of the register `p`:
the neighbour, for the exchange of words, and then of the first four registers the one two further,
for the exchange of double words. -/
def register (count p : ℕ) : ℕ :=
  let i := if swap.word ≠ 0 ∧ count % 2 = 0 then Exchange.partner p else p
  if swap.dword ≠ 0 ∧ count % 4 = 0 ∧ i < 4 then (i + 2) % 4 else i

/-- The two bytes of the register `p` of a block of `count` are exchanged: it is not the last. -/
def Flips (count p : ℕ) : Prop := swap.byte ≠ 0 ∧ p + 1 < count

instance (count p : ℕ) : Decidable (swap.Flips count p) := by
  rw [Flips]
  infer_instance

variable {count p t : ℕ}

lemma register_lt (hp : p < count) : swap.register count p < count := by
  simp only [register, Exchange.partner]
  split_ifs <;> omega

/-- The bytes of each register come from one register, in their order or the other way. -/
lemma source_exchanges (hp : p < count) (ht : t < 2) :
    Exchange.source (swap.exchanges (count * 2)) (2 * p + t)
      = 2 * swap.register count p + if swap.Flips count p then 1 - t else t := by
  have hpairs : (count * 2 - 2) / 2 = count - 1 := by omega
  -- The exchange of bytes stays in the register.
  have hbyte : Exchange.source (if swap.byte ≠ 0 ∧ count * 2 % 2 = 0 ∧ 2 ≤ count * 2 then
      Exchange.pairs ((count * 2 - 2) / 2) else []) (2 * p + t)
        = 2 * p + if swap.Flips count p then 1 - t else t := by
    rw [hpairs]
    by_cases hb : swap.byte ≠ 0
    · rw [if_pos ⟨hb, by omega, by omega⟩, Exchange.source_pairs]
      by_cases hlast : p + 1 < count
      · rw [if_pos (by omega), if_pos (show swap.Flips count p from ⟨hb, hlast⟩), Exchange.partner]
        split_ifs <;> omega
      · rw [if_neg (by omega), if_neg fun h : swap.Flips count p => hlast h.2]
    · rw [if_neg fun h => hb h.1, if_neg fun h => hb h.1, Exchange.source_nil]
  -- The exchange of words takes the register from its neighbour.
  have hword : ∀ u < 2, Exchange.source (if swap.word ≠ 0 ∧ count * 2 % 4 = 0 ∧ 4 ≤ count * 2 then
      Exchange.widen 2 (Exchange.pairs ((count * 2 - 2) / 2)) else []) (2 * p + u)
        = 2 * (if swap.word ≠ 0 ∧ count % 2 = 0 then Exchange.partner p else p) + u := by
    intro u hu
    rw [hpairs]
    by_cases hw : swap.word ≠ 0 ∧ count % 2 = 0
    · rw [if_pos ⟨hw.1, by omega, by omega⟩, if_pos hw, Exchange.source_widen _ _ hu,
        Exchange.source_pairs, if_pos (by omega)]
    · rw [if_neg fun h => hw ⟨h.1, by omega⟩, if_neg hw, Exchange.source_nil]
  have hu : (if swap.Flips count p then 1 - t else t) < 2 := by split_ifs <;> omega
  rw [exchanges, Exchange.source_append, Exchange.source_append, hbyte, hword _ hu, register]
  generalize (if swap.Flips count p then 1 - t else t) = u at hu
  generalize hi : (if swap.word ≠ 0 ∧ count % 2 = 0 then Exchange.partner p else p) = i
  have hi' : i < count := by
    rw [← hi, Exchange.partner]
    split_ifs <;> omega
  by_cases hd : swap.dword ≠ 0 ∧ count % 4 = 0
  · -- Two blocks of two registers are exchanged.
    have hfour : (if swap.dword ≠ 0 ∧ count % 4 = 0 ∧ i < 4 then (i + 2) % 4 else i)
        = if i < 4 then (i + 2) % 4 else i := by
      simp [hd.1, hd.2]
    rw [hfour, if_pos ⟨hd.1, by omega, by omega⟩,
      show 2 * i + u = 4 * (i / 2) + (2 * (i % 2) + u) by omega,
      Exchange.source_widen _ _ (by omega), Exchange.source_cons, Exchange.source_nil,
      Equiv.swap_apply_def]
    split_ifs <;> omega
  · rw [if_neg fun h => hd ⟨h.1, by omega⟩, if_neg fun h => hd ⟨h.1, h.2.1⟩, Exchange.source_nil]

end Swap

/-! ### The answer to a read -/

/-- A block of registers that can be read. -/
structure ReadBlock where
  start : UInt16
  count : ℕ
  le : count ≤ 121
  inside : start.toNat + count ≤ 65536

namespace ReadBlock

/-- The body of the request for a unit. -/
def body (unit : UInt8) (b : ReadBlock) : List UInt8 :=
  [unit, 0x03] ++ wireBytes b.start ++ wireBytes (UInt16.ofNat b.count)

/-- The register `r` is one of the block. -/
def Contains (b : ReadBlock) (r : ℕ) : Prop := b.start.toNat ≤ r ∧ r < b.start.toNat + b.count

end ReadBlock

namespace Slave

variable {s : Slave} {unit : UInt8} {b : ReadBlock}

lemma wordAt_read_start : wordAt (b.body unit) 2 = b.start := beNat_wireBytes _

lemma wordAt_read_count : (wordAt (b.body unit) 4).toUInt8.toNat = b.count := by
  have h := b.le
  rw [show wordAt (b.body unit) 4 = UInt16.ofNat b.count from beNat_wireBytes _,
    UInt16.toNat_toUInt8, UInt16.toNat_ofNat']
  omega

lemma handle_read (fuel : ℕ) : s.handle fuel (b.body unit) = s.func0x03 (b.body unit) := by
  have hlen : (b.body unit).length = 6 := rfl
  have hfunc : leNat (((b.body unit).drop 1).take 1) = 3 := rfl
  rw [handle_eq (by omega), hfunc]
  rfl

lemma not_large_count : ¬ 121 < (wordAt (b.body unit) 4).toUInt8 := by
  have h := b.le
  rw [← wordAt_read_count] at h
  exact not_lt.mpr h

/-- A block is read when the bytes that `SwapBuffer` reaches lie in the memory of the answer. -/
lemma read_ok_iff (unit : UInt8) (fuel : ℕ) :
    (∃ a, s.handle fuel (b.body unit) = .ok a) ↔ 3 + s.swap.reach (b.count * 2) ≤ 256 := by
  rw [handle_read, func0x03_ok_iff (Nat.le_of_eq rfl), or_iff_right not_large_count,
    wordAt_read_start, wordAt_read_count, and_iff_right b.inside]

/-- The bytes of the registers in the answer, before they are exchanged. -/
lemma getElem?_answe0x03 {i t : ℕ} (hi : i < b.count) (ht : t < 2) :
    (s.answe0x03 (b.body unit))[3 + (2 * i + t)]?
      = (leBytes 2 (s.modbus (UInt16.ofNat (b.start.toNat + i))).toNat)[t]? := by
  have hregs := Segment.getElem?_flatMap_range (w := 2)
    (f := fun i => leBytes 2 (s.modbus (UInt16.ofNat (b.start.toNat + i))).toNat)
    (fun _ => rfl) hi ht
  have hlen : (b.body unit).length = 6 := rfl
  have hhead : ((b.body unit).take 2 ++ [3 + (wordAt (b.body unit) 4).toUInt8 * 2]).length = 3 :=
    rfl
  obtain ⟨hbound, -⟩ := List.getElem?_eq_some_iff.mp
    (hregs.trans (List.getElem?_eq_getElem (show t < (leBytes 2 _).length from ht)))
  rw [answe0x03, wordAt_read_start, wordAt_read_count, List.rightpad,
    List.getElem?_append_left (by rw [List.length_append, hhead]; omega),
    List.getElem?_append_right (by omega), hhead, Nat.add_sub_cancel_left]
  exact hregs

lemma wireBytes_injective : Function.Injective wireBytes := by
  intro r r' h
  rw [← beNat_wireBytes r, h, beNat_wireBytes]

/-- The bytes of a register in the order of the host are those of the register with its bytes
exchanged on the wire. -/
lemma leBytes_eq_wireBytes (r : UInt16) : leBytes 2 r.toNat = wireBytes (swapBytes r) := by
  have hhi : r.toNat / 256 < 256 := by
    have hr := r.toNat_lt
    omega
  have hlo : r.toNat % 256 < 256 := by omega
  have hswap : (swapBytes r).toNat = r.toNat / 256 + 256 * (r.toNat % 256) := by
    rw [swapBytes, UInt16.toNat_ofNat', beNat]
    simp only [leBytes, List.reverse_cons, List.reverse_nil, List.nil_append, List.cons_append,
      leNat, List.foldr, UInt8.toNat_ofNat']
    generalize r.toNat / 256 = hi at *
    generalize r.toNat % 256 = lo at *
    omega
  rw [wireBytes, leBytes, leBytes, leBytes, hswap]
  generalize r.toNat / 256 = hi at *
  generalize r.toNat % 256 = lo at *
  have hlow : (hi + 256 * lo) % 256 = hi % 256 := by omega
  have hhigh : (hi + 256 * lo) / 256 % 256 = lo := by omega
  simp [leBytes, hlow, hhigh]

/-- The value that the answer has at the place `p`: of the register that `SwapBuffer` brings there,
with its bytes exchanged unless `SwapBuffer` does it. -/
def shown (s : Slave) (b : ReadBlock) (p : ℕ) : UInt16 :=
  let reg := s.modbus (UInt16.ofNat (b.start.toNat + s.swap.register b.count p))
  if s.swap.Flips b.count p then reg else swapBytes reg

/-- What the answer to a read has at each place. -/
lemma read_at {fuel : ℕ} {a : Answer} (ha : s.handle fuel (b.body unit) = .ok a) :
    ∃ reply, a.reply = some reply ∧
      ∀ p < b.count, (reply.drop (3 + 2 * p)).take 2 = wireBytes (s.shown b p) := by
  have hle := b.le
  have hsize : (3 + (wordAt (b.body unit) 4).toUInt8 * 2).toNat = 3 + b.count * 2 := by
    rw [UInt8.toNat_add, UInt8.toNat_mul, wordAt_read_count]
    simp
    omega
  rw [handle_read, func0x03_eq (Nat.le_of_eq rfl), if_neg not_large_count, wordAt_read_start,
    wordAt_read_count, if_pos b.inside, hsize] at ha
  obtain ⟨c, hc, ha⟩ := bind_eq_ok.mp ha
  cases ha
  refine ⟨_, rfl, fun p hp => ?_⟩
  have hread : ∀ t < 2, (c.take (3 + b.count * 2))[3 + 2 * p + t]? =
      (leBytes 2 (s.modbus (UInt16.ofNat (b.start.toNat + s.swap.register b.count p))).toNat)[
        if s.swap.Flips b.count p then 1 - t else t]? := by
    intro t ht
    rw [List.getElem?_take_of_lt (by omega), (Swap.swapBuffer_spec hc).2, Nat.add_assoc,
      Exchange.source_shift, Swap.source_exchanges _ hp ht,
      getElem?_answe0x03 (Swap.register_lt _ hp) (by split_ifs <;> omega)]
  have hlist : ((c.take (3 + b.count * 2)).drop (3 + 2 * p)).take 2 =
      if s.swap.Flips b.count p
      then wireBytes (s.modbus (UInt16.ofNat (b.start.toNat + s.swap.register b.count p)))
      else leBytes 2
        (s.modbus (UInt16.ofNat (b.start.toNat + s.swap.register b.count p))).toNat := by
    apply List.ext_getElem?
    intro t
    rw [List.getElem?_take, List.getElem?_drop]
    by_cases ht : t < 2
    · rw [if_pos ht, hread t ht]
      split_ifs with hflip
      · rw [wireBytes, List.getElem?_reverse ht]
        rfl
      · rfl
    · rw [if_neg ht]
      refine (List.getElem?_eq_none ?_).symm
      split_ifs <;> exact not_lt.mp ht
  rw [hlist, shown]
  split_ifs
  · rfl
  · exact leBytes_eq_wireBytes _

/-! ### Reading back -/

/-- The block is read, and the answer has the value at the place of the register `r`. -/
def ReadsBack (s : Slave) (unit : UInt8) (b : ReadBlock) (r : ℕ) (val : UInt16) : Prop :=
  ∃ fuel a reply, s.handle fuel (b.body unit) = .ok a ∧ a.reply = some reply ∧
    (reply.drop (3 + 2 * (r - b.start.toNat))).take 2 = wireBytes val

/-- A value is read back when the exchanges stay in the memory of the answer and the value is the
one that is shown at the place of the register. -/
lemma readsBack_iff {r : ℕ} (hr : b.Contains r) (val : UInt16) :
    s.ReadsBack unit b r val ↔ 3 + s.swap.reach (b.count * 2) ≤ 256 ∧
      s.shown b (r - b.start.toNat) = val := by
  obtain ⟨hlo, hhi⟩ := hr
  constructor
  · rintro ⟨fuel, a, reply, ha, hreply, hval⟩
    obtain ⟨reply', hreply', hat⟩ := read_at ha
    cases hreply.symm.trans hreply'
    rw [hat _ (by omega)] at hval
    exact ⟨(read_ok_iff unit fuel).mp ⟨a, ha⟩, wireBytes_injective hval⟩
  · rintro ⟨hreach, rfl⟩
    obtain ⟨a, ha⟩ := (read_ok_iff unit 0).mpr hreach
    obtain ⟨reply, hreply, hat⟩ := read_at ha
    exact ⟨0, a, reply, ha, hreply, hat _ (by omega)⟩

/-- The condition on a write, the registers before it and the block that is read. A block is never
written. Of one register, the exchanges stay in the memory of the answer, and at the place of the
register they bring the register itself, or one that happens to have the value, and in the order
of the wire, or the value is the same in both orders. -/
def RoundTrips (s : Slave) (b : ReadBlock) : WriteRequest → Prop
  | .block _ _ => True
  | .single adr val =>
      3 + s.swap.reach (b.count * 2) ≤ 256 ∧
        let p := adr.toNat - b.start.toNat
        let i := s.swap.register b.count p
        let reg := if i = p then val else s.modbus (UInt16.ofNat (b.start.toNat + i))
        (if s.swap.Flips b.count p then reg else swapBytes reg) = val

/-- A register of the block after the write of another, or of this one. -/
lemma update_block {adr val : UInt16} (hb : b.Contains adr.toNat) {i : ℕ} (hi : i < b.count) :
    Function.update s.modbus adr val (UInt16.ofNat (b.start.toNat + i))
      = if i = adr.toNat - b.start.toNat then val
        else s.modbus (UInt16.ofNat (b.start.toNat + i)) := by
  obtain ⟨hlo, hhi⟩ := hb
  have hin := b.inside
  have hiff : UInt16.ofNat (b.start.toNat + i) = adr ↔ i = adr.toNat - b.start.toNat := by
    rw [← UInt16.toNat_inj, UInt16.toNat_ofNat', Nat.mod_eq_of_lt (by omega)]
    omega
  by_cases h : i = adr.toNat - b.start.toNat
  · rw [if_pos h, hiff.mpr h, Function.update_self]
  · rw [if_neg h, Function.update_of_ne fun h' => h (hiff.mp h')]

/-- The value of a register that has just been written is read back if and only if the condition
holds of the state before. -/
lemma readsBack_written (unit : UInt8) {adr val : UInt16} (hb : b.Contains adr.toNat) :
    ReadsBack { s with modbus := Function.update s.modbus adr val } unit b adr.toNat val ↔
      s.RoundTrips b (.single adr val) := by
  have hlt : adr.toNat - b.start.toNat < b.count := by
    have := hb.1
    have := hb.2
    omega
  rw [readsBack_iff hb, RoundTrips, shown]
  dsimp only
  rw [update_block hb (Swap.register_lt _ hlt)]

/-- For every swap setting, every write of up to 127 registers, every register of it that is not
linked and every block of up to 121 registers that contains it: after the write, if it is
acknowledged, the value is read back at the place of the register if and only if the condition
holds. -/
theorem roundTrip_iff (s : Slave) (unit : UInt8) (q : WriteRequest) (hn : q.values.length ≤ 127)
    (k : ℕ) (hk : k < q.values.length)
    (hfree : s.findSnapshotItem (UInt16.ofNat (q.adr.toNat + k)) = none)
    (b : ReadBlock) (hb : b.Contains (q.adr.toNat + k)) :
    (∀ fuel a reply, s.handle fuel (q.body unit) = .ok a → a.reply = some reply →
        reply.getD 1 0 &&& 0x80 = 0 → a.slave.ReadsBack unit b (q.adr.toNat + k) q.values[k]) ↔
      s.RoundTrips b q := by
  cases q with
  | block adr values =>
      refine iff_of_true (fun fuel a reply ha => ?_) trivial
      obtain rfl : values = [] := ((block_answer hn).mp ha).1
      exact absurd hk (Nat.not_lt_zero k)
  | single adr val =>
      obtain rfl : k = 0 := Nat.lt_one_iff.mp hk
      simp only [WriteRequest.adr, WriteRequest.values, Nat.add_zero, UInt16.ofNat_toNat,
        List.getElem_cons_zero] at hfree hb ⊢
      refine Iff.trans ?_ (readsBack_written unit hb)
      constructor
      · intro h
        have hans := single_answer_unlinked hfree unit val 0
        have hback := h 0 _ _ hans rfl
        exact hback single_acknowledged
      · intro h fuel a reply ha _ _
        rw [single_answer_unlinked hfree unit val fuel, Except.ok.injEq] at ha
        subst ha
        exact h

/-! ### A register read alone -/

/-- A block of one register. -/
def oneRegister : ReadBlock := ⟨0, 1, by decide, by decide⟩

/-- With the swap setting of the constructor, the value 0x1234 is written and the register is read
alone: the answer has 0x3412. -/
theorem roundTrip_fails :
    ¬ ∀ fuel a reply, Slave.init.handle fuel ((WriteRequest.single 0 0x1234).body 1) = .ok a →
      a.reply = some reply → reply.getD 1 0 &&& 0x80 = 0 →
        a.slave.ReadsBack 1 oneRegister 0 0x1234 := by
  intro h
  have hback := h 0 _ _ (single_answer_unlinked rfl 1 0x1234 0) rfl single_acknowledged
  have hb : oneRegister.Contains 0 := ⟨by decide, by decide⟩
  obtain ⟨-, hshown⟩ := (readsBack_iff hb _).mp hback
  revert hshown
  decide

/-- The same write and a block of one register, by `roundTrip_iff`. -/
theorem roundTrip_iff_alone :
    (∀ fuel a reply, Slave.init.handle fuel ((WriteRequest.single 0 0x1234).body 1) = .ok a →
        a.reply = some reply → reply.getD 1 0 &&& 0x80 = 0 →
          a.slave.ReadsBack 1 oneRegister 0 0x1234) ↔
      Slave.init.RoundTrips oneRegister (.single 0 0x1234) :=
  roundTrip_iff Slave.init 1 (.single 0 0x1234) (by decide) 0 (by decide) rfl oneRegister
    ⟨by decide, by decide⟩

end Slave

end Tritonn

import Tritonn.Lib.Result
import Tritonn.Modbus.Manager

/-!
What the handlers of the Modbus server do with a frame.

* `Swap.reach` is the number of bytes that `SwapBuffer` touches, and `swapBuffer_ok_iff` says that
  it returns if and only if they exist;
* `func0x03_eq`, `func0x06_eq` and `func0x10_eq` are the handlers with their reads of the body
  carried out, and `func0x03_short`, `func0x06_short` and `func0x10_short` what they do with a body
  that is too short;
* `func0x10Step_cases` lists what a turn of the loop of `Func_0x10` can do, and
  `func0x10Loop_ne_ok` says that the loop does not end once it is entered.
-/

namespace Tritonn

open Result

/-! ### The body of a frame -/

/-- The word at the index `i` of a body, the high byte first. -/
def wordAt (b : List UInt8) (i : ℕ) : UInt16 := UInt16.ofNat (beNat ((b.drop i).take 2))

lemma readBytes_of_le {b : List UInt8} {i n : ℕ} (h : i + n ≤ b.length) :
    readBytes b i n = .ok ((b.drop i).take n) := if_pos h

lemma readBytes_of_lt {b : List UInt8} {i n : ℕ} (h : b.length < i + n) :
    readBytes b i n = .error (.buff b.length) := if_neg (not_le.mpr h)

lemma readWord_of_le {b : List UInt8} {i : ℕ} (h : i + 2 ≤ b.length) :
    readWord b i = .ok (wordAt b i) := by
  rw [readWord, readBytes_of_le h]
  rfl

lemma readWord_of_lt {b : List UInt8} {i : ℕ} (h : b.length < i + 2) :
    readWord b i = .error (.buff b.length) := by
  rw [readWord, readBytes_of_lt h]
  rfl

/-- All handlers begin with two words, which need six bytes. -/
lemma words_of_le {α : Type} {b : List UInt8} (h : 6 ≤ b.length)
    (f : UInt16 → UInt16 → Except Fault α) :
    (readWord b 2 >>= fun x => readWord b 4 >>= fun y => f x y) = f (wordAt b 2) (wordAt b 4) := by
  rw [readWord_of_le (by omega), ok_bind, readWord_of_le (by omega), ok_bind]

lemma words_short {α : Type} {b : List UInt8} (h : b.length < 6)
    (f : UInt16 → UInt16 → Except Fault α) :
    (readWord b 2 >>= fun x => readWord b 4 >>= fun y => f x y) = .error (.buff b.length) := by
  rcases Nat.lt_or_ge b.length 4 with h4 | h4
  · rw [readWord_of_lt (by omega), error_bind]
  · rw [readWord_of_le (by omega), ok_bind, readWord_of_lt (by omega), error_bind]

/-! ### `SwapBuffer` -/

namespace Swap

variable (swap : Swap)

/-- How many bytes `SwapBuffer` touches, for a value of `size` bytes. -/
def reach (size : ℕ) : ℕ :=
  max (if swap.dword ≠ 0 ∧ size % 8 = 0 ∧ 8 ≤ size then 8 else 0)
    (max (if swap.word ≠ 0 ∧ size % 4 = 0 ∧ 4 ≤ size then 2 * size - 4 else 0)
      (if swap.byte ≠ 0 ∧ size % 2 = 0 ∧ 2 ≤ size then size - 2 else 0))

/-- The exchanges stay within the bytes that `SwapBuffer` reaches. -/
lemma within_exchanges (size m : ℕ) :
    Exchange.Within m (swap.exchanges size) ↔ swap.reach size ≤ m := by
  rw [exchanges, Exchange.within_append, Exchange.within_append, reach, max_le_iff, max_le_iff]
  refine and_congr ?_ (and_congr ?_ ?_)
  · split_ifs with h
    · rw [Exchange.within_widen (by omega)]
      simp only [List.mem_singleton, forall_eq]
      omega
    · simp
  · split_ifs with h
    · rw [Exchange.within_widen (by omega)]
      have hpairs := Exchange.within_pairs (m := m / 2) (n := (size - 2) / 2)
      rw [Exchange.Within] at hpairs
      have hblock : (∀ p ∈ Exchange.pairs ((size - 2) / 2), 2 * p.1 + 2 ≤ m ∧ 2 * p.2 + 2 ≤ m) ↔
          ∀ p ∈ Exchange.pairs ((size - 2) / 2), p.1 < m / 2 ∧ p.2 < m / 2 :=
        forall₂_congr fun p _ => by omega
      rw [hblock, hpairs]
      omega
    · simp
  · split_ifs with h
    · rw [Exchange.within_pairs]
      omega
    · simp

/-- `SwapBuffer` returns when the bytes it reaches exist. -/
lemma swapBuffer_ok_iff (fault : ℕ → Fault) (b : List UInt8) (base size : ℕ) :
    (∃ b', swap.swapBuffer fault b base size = .ok b') ↔ swap.reach size ≤ b.length - base := by
  rw [← within_exchanges, ← Exchange.within_shift, ← Exchange.exchanges_ok_iff, swapBuffer]
  cases Exchange.exchanges (Exchange.shift base (swap.exchanges size)) b with
  | error i => simp [Except.mapError]
  | ok b' => simp [Except.mapError]

variable {swap} {b b' : List UInt8} {base size : ℕ}

/-- Otherwise it fails in the memory it works on. -/
lemma swapBuffer_error (fault : ℕ → Fault) (h : ¬ swap.reach size ≤ b.length - base) :
    ∃ i, swap.swapBuffer fault b base size = .error (fault i) := by
  rw [← within_exchanges, ← Exchange.within_shift] at h
  obtain ⟨i, hi⟩ := Exchange.exchanges_error h
  exact ⟨i, by rw [swapBuffer, hi]; rfl⟩

variable {fault : ℕ → Fault}

/-- What `SwapBuffer` leaves at each index. -/
lemma swapBuffer_spec (h : swap.swapBuffer fault b base size = .ok b') :
    b'.length = b.length ∧
      ∀ k, b'[k]? = b[Exchange.source (Exchange.shift base (swap.exchanges size)) k]? := by
  rw [swapBuffer] at h
  cases he : Exchange.exchanges (Exchange.shift base (swap.exchanges size)) b with
  | error i => rw [he] at h; cases h
  | ok c =>
      rw [he] at h
      cases h
      exact Exchange.exchanges_spec he

/-- A value of one register is left as it is. -/
lemma swapBuffer_register : swap.swapBuffer fault b base 2 = .ok b := by
  simp [swapBuffer, exchanges, Exchange.pairs, Exchange.shift, Exchange.exchanges, pure,
    Except.pure, Except.mapError]

end Swap

namespace Slave

variable {s : Slave} {buff : List UInt8}

/-! ### The handlers -/

/-- The body of an exception. -/
def exception (buff : List UInt8) (err : UInt8) : List UInt8 :=
  [buff.getD 0 0, buff.getD 1 0 ||| 0x80, err]

lemma funcError_eq (h : 2 ≤ buff.length) (err : UInt8) :
    s.funcError buff err = .ok ⟨s, [], some (exception buff err)⟩ := by
  rw [funcError, readBytes_of_le (by omega), ok_bind, pure_eq_ok]
  simp [exception, List.getD_eq_getElem?_getD]

/-- The answer of `Func_0x03` before its bytes are exchanged. -/
def answe0x03 (s : Slave) (buff : List UInt8) : List UInt8 :=
  (buff.take 2 ++ [3 + (wordAt buff 4).toUInt8 * 2] ++
    (List.range (wordAt buff 4).toUInt8.toNat).flatMap fun i =>
      leBytes 2 (s.modbus (UInt16.ofNat ((wordAt buff 2).toNat + i))).toNat).rightpad 256 0

lemma func0x03_short (h : buff.length < 6) : s.func0x03 buff = .error (.buff buff.length) :=
  words_short h _

lemma func0x03_eq (h : 6 ≤ buff.length) :
    s.func0x03 buff =
      if 121 < (wordAt buff 4).toUInt8 then .ok ⟨s, [], some (exception buff modbusErrorData)⟩
      else if (wordAt buff 2).toNat + (wordAt buff 4).toUInt8.toNat ≤ 65536 then
        s.swap.swapBuffer .stack (s.answe0x03 buff) 3 ((wordAt buff 4).toUInt8.toNat * 2) >>=
          fun answe => .ok ⟨s, [], some (answe.take (3 + (wordAt buff 4).toUInt8 * 2).toNat)⟩
      else .error (.reg 65536) := by
  rw [func0x03, words_of_le h]
  dsimp only
  split_ifs with hc hr
  · exact funcError_eq (by omega) _
  · rw [readBytes_of_le (by omega), ok_bind, readRegs, if_pos hr, ok_bind]
    rfl
  · rw [readBytes_of_le (by omega), ok_bind, readRegs, if_neg hr, error_bind]

/-- What `Func_0x06` writes through the snapshot, for the variable of the link at the address. -/
def snapshot0x06 (s : Slave) (v : Variable) (val : UInt16) : Snapshot :=
  if typeCountReg v.type = 1 then
    ⟨[.ofUINT (s.store.findVar v.name) val], accessMaskSA⟩ else ⟨[], accessMaskSA⟩

lemma func0x06_short (h : buff.length < 6) : s.func0x06 buff = .error (.buff buff.length) :=
  words_short h _

lemma leNat_leBytes_two (r : UInt16) : leNat (leBytes 2 r.toNat) = r.toNat := by
  have h : r.toNat < 256 ^ 2 := r.toNat_lt
  rw [leNat_leBytes, Nat.mod_eq_of_lt h]

lemma func0x06_eq (h : 6 ≤ buff.length) :
    s.func0x06 buff = .ok (match s.findSnapshotItem (wordAt buff 2) with
      | none => ⟨{ s with modbus := Function.update s.modbus (wordAt buff 2) (wordAt buff 4) }, [],
          some (buff.take 6)⟩
      | some v =>
          ⟨{ s with store := (s.store.set (s.snapshot0x06 v (wordAt buff 4))).1 },
            (s.store.set (s.snapshot0x06 v (wordAt buff 4))).2.list, some (buff.take 6)⟩) := by
  rw [func0x06, words_of_le h]
  dsimp only
  cases s.findSnapshotItem (wordAt buff 2) with
  | none =>
      rw [writeReg, if_pos (UInt16.toNat_lt _), ok_bind, readBytes_of_le (by omega), ok_bind,
        leNat_leBytes_two, UInt16.ofNat_toNat, UInt16.ofNat_toNat]
      rfl
  | some v =>
      simp only [snapshot0x06]
      split_ifs with hr
      · rw [hr, Nat.one_mul, Swap.swapBuffer_register]
        simp only [ok_bind, pure_eq_ok, leNat_leBytes_two, UInt16.ofNat_toNat, Snapshot.add,
          List.nil_append, readBytes_of_le (show 0 + 6 ≤ buff.length by omega), List.drop_zero]
      · rw [pure_eq_ok, ok_bind, readBytes_of_le (by omega), ok_bind]
        rfl

lemma func0x10_short {fuel : ℕ} (h : buff.length < 7) :
    s.func0x10 fuel buff = .error (.buff buff.length) := by
  rcases Nat.lt_or_ge buff.length 6 with h6 | h6
  · exact words_short h6 _
  · rw [func0x10, words_of_le h6, readBytes_of_lt (by omega), error_bind]

/-- The byte count of a request to write registers. -/
def bytes0x10 (buff : List UInt8) : List UInt8 := (buff.drop 6).take 1

lemma func0x10_eq {fuel : ℕ} (h : 7 ≤ buff.length) :
    s.func0x10 fuel buff =
      if (wordAt buff 4).toNat * 2 ≠ leNat (bytes0x10 buff) then
        .ok ⟨s, [], some (exception buff modbusErrorData)⟩
      else
        func0x10Loop (wordAt buff 2) (wordAt buff 4) fuel
            ⟨s, buff, ⟨[], accessMaskSA⟩, 0⟩ >>= fun w =>
          readBytes w.buff 0 4 >>= fun answe =>
            .ok ⟨{ w.slave with store := (w.slave.store.set w.snapshot).1 },
              (w.slave.store.set w.snapshot).2.list, some (answe ++ bytes0x10 buff ++ [0])⟩ := by
  rw [func0x10, words_of_le (by omega), readBytes_of_le (by omega), ok_bind,
    show (buff.drop 6).take 1 = bytes0x10 buff from rfl]
  split_ifs with hb
  · exact funcError_eq (by omega) _
  · rfl

/-! ### The loop of `Func_0x10` -/

/-- A state of the loop that began with the server `s` and `len` bytes: only the registers and the
bytes themselves can have changed. -/
structure Writing.Of (s : Slave) (len : ℕ) (w : Writing) : Prop where
  slave : w.slave = { s with modbus := w.slave.modbus }
  length : w.buff.length = len

lemma Writing.Of.findSnapshotItem {len : ℕ} {w : Writing} (hw : w.Of s len) (addr : UInt16) :
    w.slave.findSnapshotItem addr = s.findSnapshotItem addr := by
  rw [hw.slave]
  rfl

/-- What a turn of the loop can do: store a register that is not linked, or skip a variable that
reaches the end of the request, in both cases without moving on; or take a variable. -/
lemma func0x10Step_cases {adr count : UInt16} {len : ℕ} {w w' : Writing} (hw : w.Of s len)
    (h : func0x10Step adr count w = .ok w') :
    w'.Of s len ∧
      ((s.findSnapshotItem (adr + UInt16.ofNat w.ii) = none ∧ w'.ii = w.ii) ∨
        ∃ v, s.findSnapshotItem (adr + UInt16.ofNat w.ii) = some v ∧
          ((count.toNat ≤ typeCountReg v.type + w.ii ∧ w' = w) ∨
            (typeCountReg v.type + w.ii < count.toNat ∧ w'.ii = w.ii + typeCountReg v.type))) := by
  rw [func0x10Step, hw.findSnapshotItem] at h
  cases hf : s.findSnapshotItem (adr + UInt16.ofNat w.ii) with
  | none =>
      rw [hf] at h
      obtain ⟨value, -, h⟩ := bind_eq_ok.mp h
      obtain ⟨slave, hslave, h⟩ := bind_eq_ok.mp h
      cases h
      rw [writeReg] at hslave
      split_ifs at hslave
      cases hslave
      exact ⟨⟨by rw [hw.slave], hw.length⟩, .inl ⟨rfl, rfl⟩⟩
  | some v =>
      rw [hf] at h
      dsimp only at h
      split_ifs at h with hc
      · cases h
        exact ⟨hw, .inr ⟨v, rfl, .inl ⟨hc, rfl⟩⟩⟩
      · obtain ⟨b, hb, h⟩ := bind_eq_ok.mp h
        obtain ⟨value, -, h⟩ := bind_eq_ok.mp h
        cases h
        exact ⟨⟨hw.slave, (Swap.swapBuffer_spec hb).1.trans hw.length⟩,
          .inr ⟨v, rfl, .inr ⟨not_le.mp hc, rfl⟩⟩⟩

/-- A turn of the loop does not reach the end of the request. -/
lemma func0x10Step_lt {adr count : UInt16} {w w' : Writing} (hlt : w.ii < count.toNat)
    (h : func0x10Step adr count w = .ok w') : w'.ii < count.toNat := by
  obtain ⟨-, ⟨-, hii⟩ | ⟨v, -, ⟨-, rfl⟩ | ⟨hc, hii⟩⟩⟩ := func0x10Step_cases ⟨rfl, rfl⟩ h
  · omega
  · exact hlt
  · omega

/-- Once the loop is entered, no number of turns ends it. -/
theorem func0x10Loop_ne_ok {adr count : UInt16} {w : Writing} (hlt : w.ii < count.toNat) (fuel : ℕ)
    (w' : Writing) : func0x10Loop adr count fuel w ≠ .ok w' := by
  induction fuel generalizing w with
  | zero =>
      rw [func0x10Loop, if_pos hlt]
      exact fun h => nomatch h
  | succ fuel ih =>
      rw [func0x10Loop, if_pos hlt]
      intro h
      obtain ⟨w₁, hstep, hloop⟩ := bind_eq_ok.mp h
      exact ih (func0x10Step_lt hlt hstep) hloop

/-- The loop is left at once when there is nothing to write. -/
lemma func0x10Loop_done {adr count : UInt16} {w : Writing} (hge : count.toNat ≤ w.ii) (fuel : ℕ) :
    func0x10Loop adr count fuel w = .ok w := by
  cases fuel <;> rw [func0x10Loop, if_neg (not_lt.mpr hge)]

/-! ### Which frames are handled -/

/-- The handlers return on this body, for a unit and a swap setting: it is for another unit; or it
is a read whose answer is an exception, or lies in the register array and is exchanged within the
256 bytes of the answer; or a write of one register; or a write of registers whose byte count is
there and is wrong, or which writes nothing; or it has another function code. -/
def Returns (slaveID : UInt8) (swap : Swap) (buff : List UInt8) : Prop :=
  ¬ (leNat (buff.take 1) = slaveID.toNat ∨ slaveID = 0) ∨
    match leNat ((buff.drop 1).take 1) with
    | 0x03 => 121 < (wordAt buff 4).toUInt8 ∨
        ((wordAt buff 2).toNat + (wordAt buff 4).toUInt8.toNat ≤ 65536 ∧
          3 + swap.reach ((wordAt buff 4).toUInt8.toNat * 2) ≤ 256)
    | 0x06 => True
    | 0x10 => 7 ≤ buff.length ∧
        ((wordAt buff 4).toNat * 2 ≠ leNat (bytes0x10 buff) ∨ (wordAt buff 4).toNat = 0)
    | _ => True

lemma length_answe0x03 (hc : ¬ 121 < (wordAt buff 4).toUInt8) :
    (s.answe0x03 buff).length = 256 := by
  have hc' : (wordAt buff 4).toUInt8.toNat ≤ 121 := not_lt.mp hc
  have hregs : ∀ n : ℕ, ((List.range n).flatMap fun i =>
      leBytes 2 (s.modbus (UInt16.ofNat ((wordAt buff 2).toNat + i))).toNat).length = 2 * n := by
    intro n
    simp [leBytes, Nat.mul_comm]
  rw [answe0x03, List.rightpad, List.length_append, List.length_replicate]
  simp only [List.length_append, List.length_take, List.length_singleton, hregs]
  omega

lemma func0x03_ok_iff (h : 6 ≤ buff.length) :
    (∃ a, s.func0x03 buff = .ok a) ↔ 121 < (wordAt buff 4).toUInt8 ∨
      ((wordAt buff 2).toNat + (wordAt buff 4).toUInt8.toNat ≤ 65536 ∧
        3 + s.swap.reach ((wordAt buff 4).toUInt8.toNat * 2) ≤ 256) := by
  rw [func0x03_eq h]
  split_ifs with hc hr
  · exact iff_of_true ⟨_, rfl⟩ (.inl hc)
  · have hswap := s.swap.swapBuffer_ok_iff .stack (s.answe0x03 buff) 3
      ((wordAt buff 4).toUInt8.toNat * 2)
    rw [length_answe0x03 hc] at hswap
    simp only [bind_eq_ok, hc, hr, true_and, false_or]
    constructor
    · rintro ⟨a, b, hb, -⟩
      have := hswap.mp ⟨b, hb⟩
      omega
    · intro hreach
      obtain ⟨b, hb⟩ := hswap.mpr (by omega)
      exact ⟨_, b, hb, rfl⟩
  · refine iff_of_false (fun ⟨a, ha⟩ => nomatch ha) ?_
    rintro (h1 | ⟨h2, -⟩)
    · exact hc h1
    · exact hr h2

lemma func0x10_ok_iff {fuel : ℕ} :
    (∃ a, s.func0x10 fuel buff = .ok a) ↔ 7 ≤ buff.length ∧
      ((wordAt buff 4).toNat * 2 ≠ leNat (bytes0x10 buff) ∨ (wordAt buff 4).toNat = 0) := by
  rcases Nat.lt_or_ge buff.length 7 with h | h
  · rw [func0x10_short h]
    exact iff_of_false (fun ⟨a, ha⟩ => nomatch ha) (by omega)
  · rw [func0x10_eq h]
    split_ifs with hb
    · exact iff_of_true ⟨_, rfl⟩ ⟨h, .inl hb⟩
    · constructor
      · rintro ⟨a, ha⟩
        obtain ⟨w, hloop, -⟩ := bind_eq_ok.mp ha
        refine ⟨h, .inr ?_⟩
        by_contra hpos
        exact func0x10Loop_ne_ok (by dsimp only; omega) fuel w hloop
      · rintro ⟨-, hzero⟩
        have hzero : (wordAt buff 4).toNat = 0 := hzero.resolve_left hb
        rw [func0x10Loop_done (by dsimp only; omega), ok_bind,
          readBytes_of_le (by dsimp only; omega), ok_bind]
        exact ⟨_, rfl⟩

lemma handle_eq {fuel : ℕ} (h : 2 ≤ buff.length) :
    s.handle fuel buff = match leNat ((buff.drop 1).take 1) with
      | 0x03 => s.func0x03 buff
      | 0x06 => s.func0x06 buff
      | 0x10 => s.func0x10 fuel buff
      | _ => s.funcError buff modbusErrorFunc := by
  rw [handle, readBytes_of_le (by omega)]
  rfl

lemma dispatch_eq {fuel : ℕ} (h : 1 ≤ buff.length) :
    s.dispatch fuel buff =
      if leNat (buff.take 1) = s.slaveID.toNat ∨ s.slaveID = 0 then s.handle fuel buff
      else .ok ⟨s, [], none⟩ := by
  rw [dispatch, readBytes_of_le (by omega), ok_bind]
  rfl

/-- A body of six bytes or more is handled if and only if `Returns` says so. -/
theorem dispatch_ok_iff {fuel : ℕ} (h : 6 ≤ buff.length) :
    (∃ a, s.dispatch fuel buff = .ok a) ↔ Returns s.slaveID s.swap buff := by
  rw [dispatch_eq (by omega), Returns]
  by_cases hunit : leNat (buff.take 1) = s.slaveID.toNat ∨ s.slaveID = 0
  · rw [if_pos hunit, handle_eq (by omega), iff_false_intro (not_not_intro hunit), false_or]
    split
    · exact func0x03_ok_iff h
    · exact iff_of_true ⟨_, func0x06_eq h⟩ trivial
    · exact func0x10_ok_iff
    · exact iff_of_true ⟨_, funcError_eq (by omega) _⟩ trivial
  · rw [if_neg hunit]
    exact iff_of_true ⟨_, rfl⟩ (.inl hunit)

/-- An answer of `Func_0x10` that is not an exception: nothing was written. -/
lemma func0x10_cases {fuel : ℕ} {a : Answer} (ha : s.func0x10 fuel buff = .ok a) :
    a = ⟨s, [], some (exception buff modbusErrorData)⟩ ∨
      (wordAt buff 4 = 0 ∧ a = ⟨s, [], some (buff.take 4 ++ bytes0x10 buff ++ [0])⟩) := by
  have h7 : 7 ≤ buff.length := (func0x10_ok_iff.mp ⟨a, ha⟩).1
  rw [func0x10_eq h7] at ha
  split_ifs at ha with hb
  · cases ha
    exact .inl rfl
  · obtain ⟨w, hloop, ha⟩ := bind_eq_ok.mp ha
    have hzero : (wordAt buff 4).toNat = 0 := by
      by_contra hpos
      exact func0x10Loop_ne_ok (by dsimp only; omega) fuel w hloop
    rw [func0x10Loop_done (by dsimp only; omega)] at hloop
    cases hloop
    rw [readBytes_of_le (by dsimp only; omega), ok_bind] at ha
    cases ha
    exact .inr ⟨UInt16.toNat_inj.mp hzero, rfl⟩

/-- No handler changes the unit or the swap setting. -/
lemma dispatch_frame {fuel : ℕ} (h : 6 ≤ buff.length) {a : Answer}
    (ha : s.dispatch fuel buff = .ok a) :
    a.slave.slaveID = s.slaveID ∧ a.slave.swap = s.swap := by
  rw [dispatch_eq (by omega)] at ha
  split_ifs at ha with hunit
  · rw [handle_eq (by omega)] at ha
    split at ha
    · rw [func0x03_eq h] at ha
      split_ifs at ha
      · cases ha
        exact ⟨rfl, rfl⟩
      · obtain ⟨b, -, ha⟩ := bind_eq_ok.mp ha
        cases ha
        exact ⟨rfl, rfl⟩
    · rw [func0x06_eq h] at ha
      cases ha
      cases s.findSnapshotItem (wordAt buff 2) <;> exact ⟨rfl, rfl⟩
    · rcases func0x10_cases ha with rfl | ⟨-, rfl⟩ <;> exact ⟨rfl, rfl⟩
    · rw [funcError_eq (by omega)] at ha
      cases ha
      exact ⟨rfl, rfl⟩
  · cases ha
    exact ⟨rfl, rfl⟩

end Slave

end Tritonn

import Tritonn.Modbus.Handlers

/-!
Bounds: whether the server stays inside the frame and inside the register array.

* `outside` is the set of the faults at issue, and a frame is handled in bounds when no number of
  turns of the loop leads to one of them;
* `Fits` is the condition on the frame, with `StepFits` for one turn of the loop of `Func_0x10` and
  `Advance` for the offsets that the loop goes to;
* `func0x10Loop_inBounds` relates them for the loop, and `inBounds_iff` for every frame;
* `inBounds_fails` is a frame without a single byte.
-/

namespace Tritonn

open Result

/-- An index of the body that is not below the length of the frame, or an index of the register
array above 65535. -/
def outside : Set Fault := {f | (∃ i, f = .buff i) ∨ ∃ i, f = .reg i}

@[simp] lemma buff_mem_outside (i : ℕ) : Fault.buff i ∈ outside := .inl ⟨i, rfl⟩

@[simp] lemma reg_mem_outside (i : ℕ) : Fault.reg i ∈ outside := .inr ⟨i, rfl⟩

@[simp] lemma stack_not_mem_outside (i : ℕ) : Fault.stack i ∉ outside := by simp [outside]

@[simp] lemma hang_not_mem_outside : Fault.hang ∉ outside := by simp [outside]

namespace Slave

variable (s : Slave) (adr count : UInt16)

/-- The loop of `Func_0x10` goes on from the offset `a` to the offset `b`, behind a variable that
ends before the request does. -/
def Advance (a b : ℕ) : Prop :=
  ∃ v, s.findSnapshotItem (adr + UInt16.ofNat a) = some v ∧
    typeCountReg v.type + a < count.toNat ∧ b = a + typeCountReg v.type

/-- The turn of the loop at the offset `ii` stays in bounds, in a frame of `len` bytes: a register
that is not linked lies in the array and its value in the frame; of a variable that ends before the
request does, the bytes that are exchanged and those that are copied lie in the frame. -/
def StepFits (len ii : ℕ) : Prop :=
  match s.findSnapshotItem (adr + UInt16.ofNat ii) with
  | none => 7 + ii * 2 + 2 ≤ len ∧ adr.toNat + ii < 65536
  | some v => typeCountReg v.type + ii < count.toNat →
      s.swap.reach (typeCountReg v.type * 2) ≤ len - (7 + ii * 2) ∧
        ∀ u, s.store.findVar v.name = some u → 7 + ii * 2 + getTypeSize u.type ≤ len

/-- The frame is handled in bounds: it has a unit; for this unit it has a function code; a read and
a write of one register have their six bytes, and the registers of a read that is carried out lie
in the array; a write of registers has its seven bytes, and when its byte count is right the loop
fits at every offset it goes to. -/
def Fits (buff : List UInt8) : Prop :=
  1 ≤ buff.length ∧
    (¬ (leNat (buff.take 1) = s.slaveID.toNat ∨ s.slaveID = 0) ∨
      (2 ≤ buff.length ∧
        match leNat ((buff.drop 1).take 1) with
        | 0x03 => 6 ≤ buff.length ∧ (121 < (wordAt buff 4).toUInt8 ∨
            (wordAt buff 2).toNat + (wordAt buff 4).toUInt8.toNat ≤ 65536)
        | 0x06 => 6 ≤ buff.length
        | 0x10 => 7 ≤ buff.length ∧ ((wordAt buff 4).toNat * 2 ≠ leNat (bytes0x10 buff) ∨
            (wordAt buff 4).toNat = 0 ∨
            ∀ ii, Relation.ReflTransGen (s.Advance (wordAt buff 2) (wordAt buff 4)) 0 ii →
              s.StepFits (wordAt buff 2) (wordAt buff 4) buff.length ii)
        | _ => True))

variable {s adr count} {len : ℕ} {w w' : Writing} {buff : List UInt8}

/-! ### The loop -/

/-- A turn of the loop that fits is carried out. -/
lemma func0x10Step_ok (hw : w.Of s len) (h : s.StepFits adr count len w.ii) :
    ∃ w', func0x10Step adr count w = .ok w' := by
  rw [StepFits] at h
  rw [func0x10Step, hw.findSnapshotItem]
  cases hf : s.findSnapshotItem (adr + UInt16.ofNat w.ii) with
  | none =>
      rw [hf] at h
      dsimp only at h ⊢
      rw [readBytes_of_le (by rw [hw.length]; exact h.1), ok_bind, writeReg, if_pos h.2, ok_bind]
      exact ⟨_, rfl⟩
  | some v =>
      rw [hf] at h
      dsimp only at h ⊢
      split_ifs with hc
      · exact ⟨w, rfl⟩
      · obtain ⟨hreach, hvalue⟩ := h (not_le.mp hc)
        rw [hw.slave]
        obtain ⟨b, hb⟩ := (Swap.swapBuffer_ok_iff _ .buff _ _ _).mpr (hw.length ▸ hreach)
        rw [hb, ok_bind]
        cases hu : s.store.findVar v.name with
        | none => exact ⟨_, rfl⟩
        | some u =>
            have hlen : b.length = len := (Swap.swapBuffer_spec hb).1.trans hw.length
            rw [readValue, readBytes_of_le (hlen ▸ hvalue u hu), ok_bind]
            exact ⟨_, rfl⟩

/-- A turn of the loop that does not fit leaves the frame or the register array. -/
lemma func0x10Step_error (hw : w.Of s len) (h : ¬ s.StepFits adr count len w.ii) :
    ∃ e ∈ outside, func0x10Step adr count w = .error e := by
  rw [StepFits] at h
  rw [func0x10Step, hw.findSnapshotItem]
  cases hf : s.findSnapshotItem (adr + UInt16.ofNat w.ii) with
  | none =>
      rw [hf] at h
      dsimp only at h ⊢
      rcases Nat.lt_or_ge w.buff.length (7 + w.ii * 2 + 2) with hshort | hlong
      · rw [readBytes_of_lt hshort, error_bind]
        exact ⟨_, buff_mem_outside _, rfl⟩
      · have hadr : ¬ adr.toNat + w.ii < 65536 := fun hadr => h ⟨hw.length ▸ hlong, hadr⟩
        rw [readBytes_of_le hlong, ok_bind, writeReg, if_neg hadr, error_bind]
        exact ⟨_, reg_mem_outside _, rfl⟩
  | some v =>
      rw [hf] at h
      dsimp only at h ⊢
      push Not at h
      obtain ⟨hc, h⟩ := h
      rw [if_neg (not_le.mpr hc), hw.slave]
      by_cases hreach : s.swap.reach (typeCountReg v.type * 2) ≤ w.buff.length - (7 + w.ii * 2)
      · obtain ⟨b, hb⟩ := (Swap.swapBuffer_ok_iff _ .buff _ _ _).mpr hreach
        obtain ⟨u, hu, hvalue⟩ := h (hw.length ▸ hreach)
        have hlen : b.length = len := (Swap.swapBuffer_spec hb).1.trans hw.length
        rw [hb, ok_bind, hu, readValue, readBytes_of_lt (hlen ▸ hvalue), error_bind]
        exact ⟨_, buff_mem_outside _, rfl⟩
      · obtain ⟨i, hi⟩ := Swap.swapBuffer_error .buff hreach
        rw [hi, error_bind]
        exact ⟨_, buff_mem_outside _, rfl⟩

/-- One turn is enough to see that it does not fit. -/
lemma stepFits_of_inBounds (hw : w.Of s len) (hlt : w.ii < count.toNat)
    (h : Avoids outside (func0x10Loop adr count 1 w)) : s.StepFits adr count len w.ii := by
  by_contra hfit
  obtain ⟨e, he, hstep⟩ := func0x10Step_error hw hfit
  rw [func0x10Loop, if_pos hlt, hstep, error_bind, avoids_error] at h
  exact h he

/-- The turns of the loop stay in bounds if and only if they fit, at every offset the loop goes
to. -/
lemma func0x10Loop_inBounds (hw : w.Of s len) (hlt : w.ii < count.toNat) :
    (∀ fuel, Avoids outside (func0x10Loop adr count fuel w)) ↔
      ∀ ii, Relation.ReflTransGen (s.Advance adr count) w.ii ii → s.StepFits adr count len ii := by
  constructor
  · intro h ii hreached
    obtain ⟨a, ha⟩ : ∃ a, a = w.ii := ⟨_, rfl⟩
    rw [← ha] at hreached
    induction hreached using Relation.ReflTransGen.head_induction_on generalizing w with
    | refl => exact ha ▸ stepFits_of_inBounds hw hlt (h 1)
    | head hadv _ ih =>
        subst ha
        obtain ⟨w', hstep⟩ := func0x10Step_ok hw (stepFits_of_inBounds hw hlt (h 1))
        obtain ⟨hw', hcases⟩ := func0x10Step_cases hw hstep
        refine ih hw' (func0x10Step_lt hlt hstep) (fun fuel => ?_) ?_
        · have hnext := h (fuel + 1)
          rwa [func0x10Loop, if_pos hlt, hstep, ok_bind] at hnext
        · -- The variable at this offset ends before the request does.
          obtain ⟨v, hv, hc, hb⟩ := hadv
          rcases hcases with ⟨hnone, -⟩ | ⟨v', hv', ⟨hc', -⟩ | ⟨-, hnext⟩⟩
          · rw [hv] at hnone
            cases hnone
          · rw [hv] at hv'
            cases hv'
            omega
          · rw [hv] at hv'
            cases hv'
            rw [hb, hnext]
  · intro h fuel
    induction fuel generalizing w with
    | zero =>
        rw [func0x10Loop, if_pos hlt, avoids_error]
        exact hang_not_mem_outside
    | succ fuel ih =>
        obtain ⟨w', hstep⟩ := func0x10Step_ok hw (h w.ii .refl)
        obtain ⟨hw', hcases⟩ := func0x10Step_cases hw hstep
        rw [func0x10Loop, if_pos hlt, hstep, ok_bind]
        refine ih hw' (func0x10Step_lt hlt hstep) fun ii hii => h ii ?_
        rcases hcases with ⟨-, hsame⟩ | ⟨v, hv, ⟨-, rfl⟩ | ⟨hc, hnext⟩⟩
        · rwa [hsame] at hii
        · exact hii
        · exact .head ⟨v, hv, hc, hnext⟩ hii

/-! ### The handlers -/

lemma func0x03_inBounds :
    Avoids outside (s.func0x03 buff) ↔ 6 ≤ buff.length ∧ (121 < (wordAt buff 4).toUInt8 ∨
      (wordAt buff 2).toNat + (wordAt buff 4).toUInt8.toNat ≤ 65536) := by
  rcases Nat.lt_or_ge buff.length 6 with h | h
  · rw [func0x03_short h, avoids_error]
    exact iff_of_false (fun hn => hn (buff_mem_outside _)) (by omega)
  · rw [func0x03_eq h, and_iff_right h]
    split_ifs with hc hr
    · exact iff_of_true (avoids_ok _ _) (.inl hc)
    · refine iff_of_true (avoids_bind.mpr ⟨?_, fun _ _ => avoids_ok _ _⟩) (.inr hr)
      -- The exchanges are made in the memory of the answer.
      by_cases hreach : s.swap.reach ((wordAt buff 4).toUInt8.toNat * 2)
          ≤ (s.answe0x03 buff).length - 3
      · obtain ⟨b, hb⟩ := (Swap.swapBuffer_ok_iff _ .stack _ _ _).mpr hreach
        rw [hb]
        exact avoids_ok _ _
      · obtain ⟨i, hi⟩ := Swap.swapBuffer_error .stack hreach
        rw [hi, avoids_error]
        exact stack_not_mem_outside i
    · rw [avoids_error]
      refine iff_of_false (fun hn => hn (reg_mem_outside _)) ?_
      rintro (h1 | h2)
      · exact hc h1
      · exact hr h2

lemma func0x06_inBounds : Avoids outside (s.func0x06 buff) ↔ 6 ≤ buff.length := by
  rcases Nat.lt_or_ge buff.length 6 with h | h
  · rw [func0x06_short h, avoids_error]
    exact iff_of_false (fun hn => hn (buff_mem_outside _)) (by omega)
  · rw [func0x06_eq h]
    exact iff_of_true (avoids_ok _ _) h

lemma func0x10_inBounds :
    (∀ fuel, Avoids outside (s.func0x10 fuel buff)) ↔ 7 ≤ buff.length ∧
      ((wordAt buff 4).toNat * 2 ≠ leNat (bytes0x10 buff) ∨ (wordAt buff 4).toNat = 0 ∨
        ∀ ii, Relation.ReflTransGen (s.Advance (wordAt buff 2) (wordAt buff 4)) 0 ii →
          s.StepFits (wordAt buff 2) (wordAt buff 4) buff.length ii) := by
  rcases Nat.lt_or_ge buff.length 7 with h | h
  · refine iff_of_false (fun hn => ?_) (by omega)
    have hshort := hn 0
    rw [func0x10_short h, avoids_error] at hshort
    exact hshort (buff_mem_outside _)
  · rw [and_iff_right h]
    simp only [func0x10_eq h]
    split_ifs with hb
    · exact iff_of_true (fun _ => avoids_ok _ _) (.inl hb)
    · rw [or_iff_right hb]
      rcases Nat.eq_zero_or_pos (wordAt buff 4).toNat with hzero | hpos
      · refine iff_of_true (fun fuel => ?_) (.inl hzero)
        rw [func0x10Loop_done (by dsimp only; omega), ok_bind,
          readBytes_of_le (by dsimp only; omega), ok_bind]
        exact avoids_ok _ _
      · rw [or_iff_right (by omega), ← func0x10Loop_inBounds (w := ⟨s, buff, ⟨[], accessMaskSA⟩, 0⟩)
          ⟨rfl, rfl⟩ hpos]
        refine forall_congr' fun fuel => ?_
        rw [avoids_bind]
        exact and_iff_left fun w hw => absurd hw (func0x10Loop_ne_ok hpos fuel w)

/-- For every frame and every register map, the server reads only the bytes of the frame and
accesses only the registers of the array if and only if the frame fits. -/
theorem inBounds_iff (s : Slave) (buff : List UInt8) :
    (∀ fuel, Avoids outside (s.dispatch fuel buff)) ↔ s.Fits buff := by
  rcases Nat.eq_zero_or_pos buff.length with h0 | h1
  · refine iff_of_false (fun hn => ?_) (fun hfit => by have := hfit.1; omega)
    have hshort := hn 0
    rw [dispatch, readBytes_of_lt (by omega), error_bind, avoids_error] at hshort
    exact hshort (buff_mem_outside _)
  · rw [Fits, and_iff_right (show 1 ≤ buff.length from h1)]
    simp only [dispatch_eq h1]
    split_ifs with hunit
    · rw [or_iff_right (not_not_intro hunit)]
      rcases Nat.lt_or_ge buff.length 2 with hshort | h2
      · refine iff_of_false (fun hn => ?_) (by omega)
        have hhandle := hn 0
        rw [handle, readBytes_of_lt (by omega), error_bind, avoids_error] at hhandle
        exact hhandle (buff_mem_outside _)
      · simp only [handle_eq h2]
        rw [and_iff_right h2]
        generalize leNat ((buff.drop 1).take 1) = func
        split
        · rw [forall_const]
          exact func0x03_inBounds
        · rw [forall_const]
          exact func0x06_inBounds
        · exact func0x10_inBounds
        · simp [funcError_eq h2]
    · exact iff_of_true (fun _ => avoids_ok _ _) (.inl hunit)

/-! ### A frame without a byte -/

/-- The length field is zero: the server reads a unit that the frame does not have. -/
theorem inBounds_fails : ¬ ∀ fuel, Avoids outside (Slave.init.dispatch fuel []) := by
  intro h
  have hshort := h 0
  rw [dispatch, readBytes_of_lt (by decide), error_bind, avoids_error] at hshort
  exact hshort (buff_mem_outside _)

end Slave

end Tritonn

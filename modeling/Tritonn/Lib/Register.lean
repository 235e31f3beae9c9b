import Mathlib

/-!
Shift registers with feedback, over `BitVec w`: the remainder of a string of bits, with the first
bit at the low end.

* `step` shifts a register by one place, `feed` feeds one bit into it, and `pack` puts a string of
  bits into a register;
* `step_xor` says that a shift is linear, and `step_injective` that none is lost when the
  polynomial has its highest bit;
* `foldl_feed` says that a string that fits into the register may be fed in at once, and
  `foldl_feed_burst` that two strings that differ inside a window of the width of the register
  leave different registers;
* `iterate_step_low` splits a shift by `k` places into that of the lowest `k` bits and a shift
  without feedback, and `foldl_feed_table` feeds in `k` bits with a table of the former.
-/

namespace Register

variable {w : ℕ} (poly : BitVec w)

/-! ### One place -/

/-- The register moves by one place, and the polynomial is added if a bit falls out. -/
def step (c : BitVec w) : BitVec w := if c.getLsbD 0 then (c >>> 1) ^^^ poly else c >>> 1

/-- A single bit, at the low end. -/
def single (b : Bool) : BitVec w := (BitVec.ofBool b).setWidth w

/-- A bit is fed into the register. -/
def feed (c : BitVec w) (b : Bool) : BitVec w := step poly (c ^^^ single b)

/-- A string of bits as a register, the first bit at the low end. -/
def pack : List Bool → BitVec w
  | [] => 0#w
  | b :: e => single b ^^^ (pack e <<< 1)

lemma xor_right_comm (a b c : BitVec w) : a ^^^ b ^^^ c = a ^^^ c ^^^ b := by
  rw [BitVec.xor_assoc, BitVec.xor_comm b c, ← BitVec.xor_assoc]

lemma xor_eq_zero {a b : BitVec w} (h : a ^^^ b = 0#w) : a = b := by
  have := congrArg (· ^^^ b) h
  simpa [BitVec.xor_assoc] using this

/-- A shift is linear. -/
lemma step_xor (a b : BitVec w) : step poly (a ^^^ b) = step poly a ^^^ step poly b := by
  rw [step, step, step, BitVec.getLsbD_xor, BitVec.ushiftRight_xor_distrib]
  cases a.getLsbD 0 <;> cases b.getLsbD 0
  · rfl
  · simp [BitVec.xor_assoc]
  · simp [xor_right_comm]
  · -- The polynomial is added twice.
    simp only [bne_self_eq_false, Bool.false_eq_true, if_false, if_true]
    rw [BitVec.xor_assoc, BitVec.xor_comm (b >>> 1), ← BitVec.xor_assoc poly, BitVec.xor_self,
      BitVec.zero_xor]

lemma iterate_step_xor (k : ℕ) (a b : BitVec w) :
    (step poly)^[k] (a ^^^ b) = (step poly)^[k] a ^^^ (step poly)^[k] b := by
  induction k generalizing a b with
  | zero => rfl
  | succ k ih => rw [Function.iterate_succ_apply, step_xor, ih]; rfl

variable {poly}

/-- Only the empty register is shifted into the empty one. -/
lemma step_eq_zero (hpoly : poly.msb = true) {c : BitVec w} (h : step poly c = 0#w) : c = 0#w := by
  have hw : 0 < w := by
    rcases Nat.eq_zero_or_pos w with rfl | hw
    · simp [BitVec.of_length_zero] at hpoly
    · exact hw
  rw [step] at h
  split_ifs at h with hlow
  · -- The highest bit of the polynomial is left.
    have hshift : (c >>> 1).msb = true := by rw [xor_eq_zero h]; exact hpoly
    simp [BitVec.msb_ushiftRight] at hshift
  · refine BitVec.eq_of_getLsbD_eq fun i _ => ?_
    rw [BitVec.getLsbD_zero]
    rcases i with _ | i
    · simpa using hlow
    · have hbit := congrArg (·.getLsbD i) h
      simp only [BitVec.getLsbD_ushiftRight, BitVec.getLsbD_zero] at hbit
      rw [Nat.add_comm, hbit]

/-- No register is lost in a shift. -/
lemma step_injective (hpoly : poly.msb = true) : Function.Injective (step poly) := fun a b h =>
  xor_eq_zero (step_eq_zero hpoly (by rw [step_xor, h, BitVec.xor_self]))

/-! ### Strings of bits -/

lemma getLsbD_single (b : Bool) (i : ℕ) :
    (single b : BitVec w).getLsbD i = (decide (i = 0 ∧ 0 < w) && b) := by
  rw [single, BitVec.getLsbD_setWidth, BitVec.getLsbD_ofBool]
  rcases i with _ | i <;> simp

lemma getLsbD_pack (e : List Bool) (i : ℕ) :
    (pack e : BitVec w).getLsbD i = (decide (i < w) && e.getD i false) := by
  induction e generalizing i with
  | nil => simp [pack]
  | cons b e ih =>
      rw [pack, BitVec.getLsbD_xor, getLsbD_single, BitVec.getLsbD_shiftLeft, ih]
      rcases i with _ | i
      · simp
      · simp only [Nat.succ_ne_zero, false_and, decide_false, Bool.false_and, Bool.false_bne,
          List.getD_cons_succ, Nat.add_sub_cancel, Nat.lt_one_iff, Bool.not_false, Bool.and_true]
        by_cases hi : i + 1 < w
        · simp [hi, Nat.lt_of_succ_lt hi]
        · simp [hi]

lemma pack_append (e e' : List Bool) :
    (pack (e ++ e') : BitVec w) = pack e ^^^ (pack e' <<< e.length) := by
  induction e with
  | nil => simp [pack]
  | cons b e ih =>
      rw [List.cons_append, pack, pack, ih, BitVec.shiftLeft_xor_distrib, List.length_cons,
        BitVec.xor_assoc, ← BitVec.shiftLeft_add]

/-- Strings of one length that fit into a register are told apart by it. -/
lemma pack_injective {e e' : List Bool} (hlen : e.length = e'.length) (he : e.length ≤ w)
    (h : (pack e : BitVec w) = pack e') : e = e' := by
  refine List.ext_getElem hlen fun i hi hi' => ?_
  have hbit := congrArg (·.getLsbD i) h
  simp only [getLsbD_pack, List.getD_eq_getElem _ _ hi, List.getD_eq_getElem _ _ hi',
    decide_eq_true (hi.trans_le he), Bool.true_and] at hbit
  exact hbit

/-- What is above the lowest place only moves down. -/
lemma step_shiftLeft {c : BitVec w} (hc : c.getLsbD (w - 1) = false) :
    step poly (c <<< 1) = c := by
  have hlow : (c <<< 1).getLsbD 0 = false := by simp
  rw [step, hlow, if_neg Bool.false_ne_true]
  refine BitVec.eq_of_getLsbD_eq fun i hi => ?_
  rw [BitVec.getLsbD_ushiftRight, BitVec.getLsbD_shiftLeft, Nat.add_sub_cancel_left]
  by_cases hi' : 1 + i < w
  · simp [hi']
  · obtain rfl : i = w - 1 := by omega
    simp [hc]

/-- A string that fits into the register is fed in at once. -/
lemma foldl_feed (c : BitVec w) {e : List Bool} (he : e.length ≤ w) :
    e.foldl (feed poly) c = (step poly)^[e.length] (c ^^^ pack e) := by
  induction e generalizing c with
  | nil => simp [pack]
  | cons b e ih =>
      rw [List.length_cons] at he
      have hhigh : (pack e : BitVec w).getLsbD (w - 1) = false := by
        rw [getLsbD_pack, List.getD_eq_default _ _ (by omega), Bool.and_false]
      rw [List.foldl_cons, ih _ (by omega), List.length_cons, Function.iterate_succ_apply, pack,
        ← BitVec.xor_assoc, step_xor poly (c ^^^ single b), step_shiftLeft hhigh, feed]

lemma foldl_feed_injective (hpoly : poly.msb = true) (s : List Bool) :
    Function.Injective fun c => s.foldl (feed poly) c := by
  induction s with
  | nil => exact fun _ _ h => h
  | cons b s ih =>
      intro c c' h
      have := step_injective hpoly (ih h)
      simpa using congrArg (· ^^^ single b) this

/-- Two strings that differ inside a window no wider than the register leave different
registers. -/
theorem foldl_feed_burst (hpoly : poly.msb = true) (c : BitVec w) (p s : List Bool)
    {e e' : List Bool} (hlen : e.length = e'.length) (he : e.length ≤ w) :
    (p ++ e ++ s).foldl (feed poly) c = (p ++ e' ++ s).foldl (feed poly) c ↔ e = e' := by
  refine ⟨fun h => ?_, fun h => by rw [h]⟩
  simp only [List.foldl_append] at h
  have h' := foldl_feed_injective hpoly s h
  generalize p.foldl (feed poly) c = c' at h'
  rw [foldl_feed _ he, foldl_feed _ (hlen.symm.le.trans he), ← hlen] at h'
  have hpack := congrArg (c' ^^^ ·) (((step_injective hpoly).iterate e.length) h')
  simp only [← BitVec.xor_assoc, BitVec.xor_self, BitVec.zero_xor] at hpack
  exact pack_injective hlen he hpack

/-! ### Tables -/

lemma iterate_step_high {k : ℕ} {c : BitVec w} (hc : ∀ i < k, c.getLsbD i = false) :
    (step poly)^[k] c = c >>> k := by
  induction k with
  | zero => simp
  | succ k ih =>
      have hlow : (c >>> k).getLsbD 0 = false := by
        rw [BitVec.getLsbD_ushiftRight]
        exact hc k (Nat.lt_succ_self k)
      rw [Function.iterate_succ_apply', ih fun i hi => hc i (Nat.lt_succ_of_lt hi), step, hlow,
        if_neg Bool.false_ne_true, ← BitVec.shiftRight_add]

/-- A shift by `k` places is that of the lowest `k` bits, with the others moved down. -/
lemma iterate_step_low (k : ℕ) (c mask : BitVec w)
    (hmask : ∀ i < w, mask.getLsbD i = decide (i < k)) :
    (step poly)^[k] c = (step poly)^[k] (c &&& mask) ^^^ (c >>> k) := by
  have hsplit : c = (c &&& mask) ^^^ (c &&& ~~~mask) := by
    refine BitVec.eq_of_getLsbD_eq fun i hi => ?_
    simp only [BitVec.getLsbD_xor, BitVec.getLsbD_and, BitVec.getLsbD_not, hi, decide_true,
      Bool.true_and]
    cases c.getLsbD i <;> cases mask.getLsbD i <;> rfl
  have hlow : ∀ i < k, (c &&& ~~~mask).getLsbD i = false := fun i hi => by
    by_cases hw : i < w
    · simp [hmask i hw, hi]
    · simp [hw]
  have hhigh : (c &&& ~~~mask) >>> k = c >>> k := by
    refine BitVec.eq_of_getLsbD_eq fun i _ => ?_
    rw [BitVec.getLsbD_ushiftRight, BitVec.getLsbD_ushiftRight, BitVec.getLsbD_and,
      BitVec.getLsbD_not]
    by_cases hw : k + i < w
    · rw [hmask _ hw, decide_eq_true hw, decide_eq_false (Nat.not_lt.mpr (Nat.le_add_right k i)),
        Bool.not_false, Bool.true_and, Bool.and_true]
    · simp [BitVec.getLsbD_of_ge c (k + i) (not_lt.mp hw)]
  rw [← hhigh, ← iterate_step_high hlow, ← iterate_step_xor, ← hsplit]

/-- A string of `k` bits is fed in with a table of the shifts by `k` places. -/
theorem foldl_feed_table {k : ℕ} (c mask : BitVec w)
    (hmask : ∀ i < w, mask.getLsbD i = decide (i < k)) {e : List Bool} (hlen : e.length = k)
    (hk : k ≤ w) :
    e.foldl (feed poly) c = (step poly)^[k] ((c &&& mask) ^^^ pack e) ^^^ (c >>> k) := by
  rw [foldl_feed c (hlen.le.trans hk), hlen, iterate_step_xor, iterate_step_low k c mask hmask,
    iterate_step_xor, xor_right_comm]

end Register

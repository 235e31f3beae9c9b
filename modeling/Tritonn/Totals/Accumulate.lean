import Tritonn.Totals.Total

/-!
Totals accumulate modulo the limit.

A run of a total is a list of increments, one for each cycle.  On the grid of `0.00001` rounding
is exact, and an increment below the limit needs at most one subtraction, so the raw total of a
channel is the remainder of the sum of its increments by the limit and the events of the channel
count the wraps: `Accumulated` is the invariant, `Accumulated.step` what one cycle preserves, and
`cycles_accumulate` the statement about runs.
-/

namespace Tritonn

open Wrap (carry wrap carry_nonneg carry_lt carry_mem carry_add eq_wrap roundHalf_of_mem)

namespace Total

variable (env : Env) (unit : ObjUnit)

/-- An increment each of whose quantities is a multiple of `0.00001` in `[0, MAX_TOTAL_LIMIT)`. -/
def OnGrid (d : BaseTotal) : Prop :=
  ∀ ch, 0 ≤ d.qty ch ∧ d.qty ch < maxTotalLimit ∧
    d.qty ch ∈ AddSubgroup.zmultiples (1 / 100000 : LREAL)

/-- One cycle with a given increment; the events are appended to those added so far. -/
def cycle (s : Total × (Channel → List EID)) (inc : BaseTotal) : Total × (Channel → List EID) :=
  let r := ({ s.1 with inc := inc }).calculate env unit
  (r.1, fun ch => s.2 ch ++ r.2 ch)

lemma cycle_raw_qty (s : Total × (Channel → List EID)) (d : BaseTotal) (ch : Channel) :
    (cycle env unit s d).1.raw.qty ch
      = (carry maxTotalLimit (round env (s.1.raw.qty ch + d.qty ch) 5)).1 :=
  calculate_raw_qty env unit { s.1 with inc := d } ch

lemma length_cycle_events (s : Total × (Channel → List EID)) (d : BaseTotal) {ch : Channel}
    (he : s.1.event ch ≠ 0) :
    ((cycle env unit s d).2 ch).length
      = (s.2 ch).length + (carry maxTotalLimit (round env (s.1.raw.qty ch + d.qty ch) 5)).2 := by
  have h := length_calculate_events env unit { s.1 with inc := d } he
  rw [← h]
  exact List.length_append

/-- A run of cycles, with the events added for each channel. -/
def cycles (t : Total) (incs : List BaseTotal) : Total × (Channel → List EID) :=
  incs.foldl (cycle env unit) (t, fun _ => [])

lemma cycles_concat (t : Total) (incs : List BaseTotal) (d : BaseTotal) :
    cycles env unit t (incs ++ [d]) = cycle env unit (cycles env unit t incs) d := by
  rw [cycles, List.foldl_concat, cycles]

lemma cycles_event (t : Total) (incs : List BaseTotal) :
    (cycles env unit t incs).1.event = t.event := by
  induction incs using List.reverseRecOn with
  | nil => rfl
  | append_singleton incs d ih => rw [cycles_concat]; exact ih

/-- The invariant of one channel: the sum of the increments is the raw total plus the limit once
for each wrap, and the raw total stays on the grid below the limit. -/
structure Accumulated (sum raw : LREAL) (wraps : ℕ) : Prop where
  nonneg : 0 ≤ raw
  lt : raw < maxTotalLimit
  mem : raw ∈ AddSubgroup.zmultiples (1 / 100000 : LREAL)
  sum_eq : sum = raw + wraps * maxTotalLimit

lemma Accumulated.zero : Accumulated 0 0 0 :=
  ⟨le_rfl, maxTotalLimit_pos, zero_mem _, by simp⟩

/-- On the grid the rounding of a cycle does nothing. -/
lemma Accumulated.round_eq {sum raw : LREAL} {k : ℕ} (h : Accumulated sum raw k) {d : LREAL}
    (hd0 : 0 ≤ d) (hd : d ∈ AddSubgroup.zmultiples (1 / 100000 : LREAL)) :
    round env (raw + d) 5 = raw + d := by
  rw [round_five env (add_nonneg h.nonneg hd0)]
  exact roundHalf_of_mem (by norm_num) (add_mem h.mem hd)

/-- One cycle preserves the invariant: one subtraction is enough. -/
lemma Accumulated.step {sum raw : LREAL} {k : ℕ} (h : Accumulated sum raw k) {d : LREAL}
    (hd0 : 0 ≤ d) (hdL : d < maxTotalLimit)
    (hd : d ∈ AddSubgroup.zmultiples (1 / 100000 : LREAL)) :
    Accumulated (sum + d) (carry maxTotalLimit (round env (raw + d) 5)).1
      (k + (carry maxTotalLimit (round env (raw + d) 5)).2) := by
  rw [h.round_eq env hd0 hd]
  have hsplit := carry_add maxTotalLimit (raw + d)
  refine ⟨carry_nonneg (add_nonneg h.nonneg hd0), carry_lt ?_,
    carry_mem maxTotalLimit_mem (add_mem h.mem hd), ?_⟩
  · linarith [h.lt]
  · rw [h.sum_eq, Nat.cast_add]
    linarith

/-- The sum of the increments of one channel over a run. -/
def incSum (incs : List BaseTotal) (ch : Channel) : LREAL := (incs.map (·.qty ch)).sum

lemma incSum_concat (incs : List BaseTotal) (d : BaseTotal) (ch : Channel) :
    incSum (incs ++ [d]) ch = incSum incs ch + d.qty ch := by
  simp [incSum]

/-- After every run from a reset the invariant holds of every channel, for some number of wraps
that is the number of events of the channel if it has an event. -/
lemma cycles_accumulated (t : Total) (incs : List BaseTotal) (hinc : ∀ d ∈ incs, OnGrid d)
    (ch : Channel) :
    ∃ k : ℕ, Accumulated (incSum incs ch) ((cycles env unit t.reset incs).1.raw.qty ch) k ∧
      (t.event ch ≠ 0 → ((cycles env unit t.reset incs).2 ch).length = k) := by
  induction incs using List.reverseRecOn with
  | nil => exact ⟨0, Accumulated.zero, fun _ => rfl⟩
  | append_singleton incs d ih =>
      obtain ⟨k, hacc, hlen⟩ := ih fun d' hd' => hinc d' (List.mem_append_left _ hd')
      obtain ⟨hd0, hdL, hd⟩ := hinc d (by simp) ch
      have hstep := hacc.step env hd0 hdL hd
      rw [cycles_concat, incSum_concat, cycle_raw_qty]
      refine ⟨_, hstep, fun he => ?_⟩
      rw [length_cycle_events _ _ _ _ (by rwa [cycles_event]), hlen he]

/-- The pulse count of a run is the sum of the counts of its cycles, modulo `2 ^ 32`. -/
lemma cycles_count (t : Total) (incs : List BaseTotal) :
    (cycles env unit t.reset incs).1.raw.count.toNat
      = (incs.map fun d => d.count.toNat).sum % 2 ^ 32 := by
  induction incs using List.reverseRecOn with
  | nil => rfl
  | append_singleton incs d ih =>
      rw [cycles_concat, cycle, calculate_raw_count, UInt32.toNat_add, ih]
      simp

/-- Totals accumulate modulo the limit: after every run of cycles from a reset whose increments
are multiples of `0.00001` in `[0, MAX_TOTAL_LIMIT)`, each raw total lies in
`[0, MAX_TOTAL_LIMIT)` and is the sum of its increments modulo the limit, a channel with an event
has added one event for each multiple of the limit the sum has reached, the raw count is the sum
of the counts modulo `2 ^ 32`, and the past totals are those displayed one cycle before. -/
theorem cycles_accumulate (t : Total) (incs : List BaseTotal) (hinc : ∀ d ∈ incs, OnGrid d) :
    (∀ ch,
      0 ≤ (cycles env unit t.reset incs).1.raw.qty ch ∧
      (cycles env unit t.reset incs).1.raw.qty ch < maxTotalLimit ∧
      (cycles env unit t.reset incs).1.raw.qty ch = wrap maxTotalLimit (incSum incs ch) ∧
      (t.event ch ≠ 0 →
        (((cycles env unit t.reset incs).2 ch).length : ℤ) = ⌊incSum incs ch / maxTotalLimit⌋)) ∧
    (cycles env unit t.reset incs).1.raw.count.toNat
      = (incs.map fun d => d.count.toNat).sum % 2 ^ 32 ∧
    ∀ pre d, incs = pre ++ [d] →
      (cycles env unit t.reset incs).1.past = (cycles env unit t.reset pre).1.present := by
  refine ⟨fun ch => ?_, cycles_count env unit t incs, ?_⟩
  · obtain ⟨k, hacc, hlen⟩ := cycles_accumulated env unit t incs hinc ch
    obtain ⟨hraw, hk⟩ :=
      eq_wrap maxTotalLimit_pos hacc.nonneg hacc.lt (k := k) (by exact_mod_cast hacc.sum_eq)
    exact ⟨hacc.nonneg, hacc.lt, hraw, fun he => by rw [hlen he, hk]⟩
  · rintro pre d rfl
    rw [cycles_concat, cycle, calculate_past]

/-- A total that wraps in its second cycle, run by `cycles_accumulate`. -/
theorem cycles_accumulate_wraps :
    let env : Env := ⟨⟨fun _ => 5, 5⟩, 0⟩
    let t : Total := ⟨.clear, .clear, .clear, .clear, fun _ => 7⟩
    let d : BaseTotal := ⟨fun _ => 5000000000, 1⟩
    (cycles env ⟨0, 0⟩ t.reset [d, d]).1.raw.qty .mass = wrap maxTotalLimit 10000000000 ∧
      (cycles env ⟨0, 0⟩ t.reset [d, d]).1.raw.count.toNat = 2 := by
  intro env t d
  have hd : OnGrid d := fun ch =>
    ⟨by norm_num [d], by norm_num [d, maxTotalLimit],
      AddSubgroup.mem_zmultiples_iff.mpr ⟨500000000000000, by norm_num [d]⟩⟩
  have h := cycles_accumulate env ⟨0, 0⟩ t [d, d] (by simp [hd])
  refine ⟨?_, h.2.1⟩
  rw [(h.1 .mass).2.2.1]
  norm_num [incSum, d]

end Total

end Tritonn

import Tritonn.Shared.TickCount

/-!
`src/tritonn/io/di_channel.cpp`: a discrete input and its filter.

* `DIChannel.processing` is the routine, in which the candidate begins with the physical value, so
  that the timer decides nothing: `processing_value`;
* `DIRun` is what the cycles of a channel get, at any times and with any physical values;
* `Filters` is the property: the value changes only to what the input has been for the time of the
  filter, and a shorter pulse leaves it alone;
* `filters_iff` says that a run has it if and only if the input changes only between two cycles that
  are at least this time apart;
* `filters_fails` is a pulse of one cycle that goes through.
-/

namespace Tritonn

/-- `rIODIChannel`, as far as `processing` uses it. -/
structure DIChannel where
  phValue : UInt8 := 0
  filter : UInt32 := 0
  setup : UInt16 := 0
  value : UInt8 := 0
  oldValue : UInt8 := 0
  timer : TickCount := {}
  deriving DecidableEq, Repr

/-- The cycles of a channel: the times at which it is processed, in milliseconds, and the physical
value that the module or the simulation has put in before. -/
structure DIRun where
  time : ℕ → ℕ
  phValue : ℕ → UInt8
  mono : Monotone time

namespace DIChannel

/-- `rIODIChannel::Setup::FILTER`. -/
def setupFilter : UInt16 := 0x0002

/-- `rIODIChannel::Setup::INVERSED`. -/
def setupInversed : UInt16 := 0x0004

/-- The first part of `processing`: the candidate, and what becomes of `m_oldValue` and of the
timer. -/
def curvalue (c : DIChannel) (tick : UInt32) : UInt8 × UInt8 × TickCount :=
  if c.setup &&& setupFilter ≠ 0 then
    if c.timer.isStart then
      let timer := if c.oldValue = c.phValue then c.timer.stop else c.timer
      if timer.isFinished tick then (c.phValue, c.phValue, timer.stop)
      -- the candidate is the physical value from the beginning
      else (c.phValue, c.oldValue, timer)
    else if c.oldValue ≠ c.phValue then (c.phValue, c.oldValue, .start tick c.filter)
    else (c.phValue, c.oldValue, c.timer)
  else (c.phValue, c.phValue, c.timer)

/-- The operator `!` of the language. -/
def lognot (v : UInt8) : UInt8 := if v = 0 then 1 else 0

/-- The second part: the candidate as it is, or inverted. -/
def level (setup : UInt16) (v : UInt8) : UInt8 :=
  if setup &&& setupInversed ≠ 0 then lognot v else v

/-- `rIODIChannel::processing`. -/
def processing (c : DIChannel) (tick : UInt32) : DIChannel :=
  { c with
    value := level c.setup (c.curvalue tick).1
    oldValue := (c.curvalue tick).2.1
    timer := (c.curvalue tick).2.2 }

/-- The channel before the cycle `k` of a run. -/
def run (c : DIChannel) (r : DIRun) : ℕ → DIChannel
  | 0 => c
  | k + 1 => { c.run r k with phValue := r.phValue k }.processing (.ofNat (r.time k))

/-- The candidate is the physical value, with the filter or without it. -/
lemma curvalue_fst (c : DIChannel) (tick : UInt32) : (c.curvalue tick).1 = c.phValue := by
  rw [curvalue]
  dsimp only
  split_ifs <;> rfl

/-- The value of a cycle is its physical value, inverted or not. -/
theorem processing_value (c : DIChannel) (tick : UInt32) :
    (c.processing tick).value = level c.setup c.phValue := by
  rw [processing, curvalue_fst]

variable (c : DIChannel) (r : DIRun)

lemma run_setup (k : ℕ) : (c.run r k).setup = c.setup := by
  induction k with
  | zero => rfl
  | succ k ih => exact ih

lemma run_value (k : ℕ) : (c.run r (k + 1)).value = level c.setup (r.phValue k) := by
  rw [run, processing_value, run_setup]

/-! ### The property -/

/-- In the cycle `k` the value changes only to what the input has been in every cycle of the
preceding time of the filter. -/
def ChangesHeld (k : ℕ) : Prop :=
  (c.run r (k + 1)).value ≠ (c.run r k).value →
    ∀ j ≤ k, r.time k < r.time j + c.filter.toNat →
      level c.setup (r.phValue j) = (c.run r (k + 1)).value

/-- From the cycle `a` to the cycle `b` the input has a value that it has neither before nor
behind, for less than the time of the filter. -/
structure ShortPulse (a b : ℕ) : Prop where
  pos : 0 < a
  le : a ≤ b
  before : level c.setup (r.phValue (a - 1)) ≠ level c.setup (r.phValue a)
  held : ∀ j, a ≤ j → j ≤ b → level c.setup (r.phValue j) = level c.setup (r.phValue a)
  behind : level c.setup (r.phValue (b + 1)) ≠ level c.setup (r.phValue a)
  short : r.time (b + 1) < r.time a + c.filter.toNat

/-- A change of the value is one to what the input has been, and no short pulse changes it. -/
def Filters : Prop :=
  (∀ k, c.ChangesHeld r k) ∧
    ∀ a b, c.ShortPulse r a b → ∀ k, a ≤ k → k ≤ b + 1 → (c.run r (k + 1)).value = (c.run r k).value

/-- The condition: between two cycles with different inputs lies the time of the filter. -/
def ChangesSlowly : Prop :=
  ∀ k, level c.setup (r.phValue k) ≠ level c.setup (r.phValue (k + 1)) →
    r.time k + c.filter.toNat ≤ r.time (k + 1)

variable {c r}

/-- Where the input changes slowly, no cycle before a change is recent. -/
lemma ChangesSlowly.changesHeld (h : c.ChangesSlowly r) (k : ℕ) : c.ChangesHeld r k := by
  intro hne j hj hrecent
  cases k with
  | zero =>
      rw [Nat.le_zero.mp hj, run_value]
  | succ k =>
      rw [run_value, run_value] at hne
      have hslow := h k hne.symm
      rcases hj.eq_or_lt with rfl | hlt
      · rw [run_value]
      · have hmono := r.mono (Nat.lt_succ_iff.mp hlt)
        omega

/-- Where it changes slowly, no pulse is short. -/
lemma ChangesSlowly.not_shortPulse (h : c.ChangesSlowly r) (a b : ℕ) : ¬ c.ShortPulse r a b := by
  intro hp
  have hchange : level c.setup (r.phValue b) ≠ level c.setup (r.phValue (b + 1)) := by
    rw [hp.held b hp.le le_rfl]
    exact hp.behind.symm
  have hslow := h b hchange
  have hmono := r.mono hp.le
  have hshort := hp.short
  omega

/-- Every run filters if and only if its input changes slowly. -/
theorem filters_iff : c.Filters r ↔ c.ChangesSlowly r := by
  constructor
  · intro h k hne
    by_contra! hlt
    -- the value follows the input into the next cycle, and the cycle before is too recent
    have hchange : (c.run r (k + 1 + 1)).value ≠ (c.run r (k + 1)).value := by
      rw [run_value, run_value]
      exact hne.symm
    have hheld := h.1 (k + 1) hchange k (Nat.le_succ k) hlt
    rw [run_value] at hheld
    exact hne hheld
  · intro h
    exact ⟨h.changesHeld, fun a b hp => absurd hp (h.not_shortPulse a b)⟩

/-- A channel with the flag and a filter of 50 ms. -/
def filtered : DIChannel := { filter := 50, setup := setupFilter }

/-- A pulse of one cycle of 10 ms. -/
def glitch : DIRun where
  time k := 10 * k
  phValue k := if k = 1 then 1 else 0
  mono _ _ h := Nat.mul_le_mul_left 10 h

theorem filters_fails : ¬ filtered.Filters glitch := by
  intro h
  have hpulse : filtered.ShortPulse glitch 1 1 := by
    refine ⟨by decide, le_rfl, by decide, fun j h1 h2 => ?_, by decide, by decide⟩
    rw [le_antisymm h2 h1]
  have hconst := h.2 1 1 hpulse 1 le_rfl (by decide)
  revert hconst
  decide

end DIChannel

end Tritonn

import Tritonn.Lib.Run
import Tritonn.Shared.TickCount

/-!
`src/tritonn/io/do_channel.cpp`, `module_do16.cpp` and `module_di8do8.cpp`: a discrete output, and
its single pulse.

* `DOChannel.processing` is the routine, and `DOChannel.step` one of it or one of the writes that
  other threads make in between;
* `single_pulse` is what the flag is for: a write of an output at rest, which is then left alone;
* `asked_iff` says when an output is never on that nobody has set: a write of zero that comes
  between the end of the pulse and the next cycle switches it on;
* `held_outputs` compares the two kinds of modules when the value is set again before each cycle:
  one copies the value to the hardware before the routine and the other one behind it, so that one
  never ends the pulse and the other one repeats it.
-/

namespace Tritonn

/-- `rIODOChannel`, as far as `processing` uses it. -/
structure DOChannel where
  setup : UInt16 := 0
  value : UInt16 := 0
  pulse : UInt32 := 1000
  phValue : UInt8 := 0
  oldValue : UInt8 := 0
  timer : TickCount := {}
  deriving DecidableEq, Repr

/-- A call of `setValue` of the module, a write of the variable `value`, or a cycle of the module at
a time in milliseconds. -/
inductive DOAct where
  | setValue (value : UInt32)
  | write (value : UInt16)
  | cycle (time : ℕ)
  deriving DecidableEq, Repr

namespace DOChannel

/-- `rIODOChannel::Setup::PULSE`. -/
def setupPulse : UInt16 := 0x0002

/-- `rIODOChannel::Setup::INVERSED`. -/
def setupInversed : UInt16 := 0x0004

/-- The operator `!` of the language. -/
def lognot (v : UInt16) : UInt16 := if v = 0 then 1 else 0

/-- The end of a pulse, which turns the value over. -/
def expire (c : DOChannel) (tick : UInt32) : DOChannel :=
  if c.timer.isFinished tick then
    { c with
      timer := c.timer.stop
      value := lognot c.value
      oldValue := (lognot c.value).toUInt8 }
  else c

/-- The timer runs as long as the value is not the one of the rest. -/
def restart (c : DOChannel) (tick : UInt32) : DOChannel :=
  if c.oldValue.toUInt16 ≠ c.value then
    if c.timer.isStart then c else { c with timer := .start tick c.pulse }
  else { c with timer := c.timer.stop }

/-- The physical value. -/
def physical (c : DOChannel) : DOChannel :=
  { c with
    phValue := (if c.setup &&& setupInversed ≠ 0 then lognot c.value else c.value).toUInt8 }

/-- `rIODOChannel::processing`. -/
def processing (c : DOChannel) (tick : UInt32) : DOChannel :=
  physical <|
    if c.setup &&& setupPulse ≠ 0 then (c.expire tick).restart tick
    else { c with oldValue := c.value.toUInt8 }

/-- A step. -/
def step (c : DOChannel) : DOAct → DOChannel
  | .setValue value => { c with value := if value ≠ 0 then 1 else 0 }
  | .write value => { c with value }
  | .cycle time => c.processing (.ofNat time)

/-- A run. -/
def run (c : DOChannel) (l : List DOAct) : DOChannel := l.foldl step c

/-- What `rModuleDO16::processing` gives to the hardware for a channel: it does so before the
routine, from `m_value`. -/
def outDO16 (c : DOChannel) : DOAct → List Bool
  | .cycle _ => [c.value != 0]
  | _ => []

/-- What `rModuleDI8DO8::processing` gives to the hardware for a channel: behind the routine, from
`m_phValue`. -/
def outDI8DO8 (c : DOChannel) : DOAct → List Bool
  | .cycle time => [(c.processing (.ofNat time)).phValue != 0]
  | _ => []

/-! ### A single pulse -/

variable {c : DOChannel} {pulse : UInt32} {t₀ t : ℕ}

/-- An output with the flag, and the length of its pulse, at rest. -/
structure Rest (pulse : UInt32) (c : DOChannel) : Prop where
  setup : c.setup &&& setupPulse ≠ 0
  length : c.pulse = pulse
  value : c.value = 0
  oldValue : c.oldValue = 0
  timer : c.timer.isStart = false

/-- Such an output in a pulse that began at a time. -/
structure On (pulse : UInt32) (t₀ : ℕ) (c : DOChannel) : Prop where
  setup : c.setup &&& setupPulse ≠ 0
  length : c.pulse = pulse
  value : c.value = 1
  oldValue : c.oldValue = 0
  timer : c.timer = .start (.ofNat t₀) pulse

/-- The ticks tell the time that has passed, wrapped or not. -/
lemma isFinished_iff (msec : UInt32) (hle : t₀ ≤ t) (hlt : t - t₀ < 2 ^ 32) :
    (TickCount.start (.ofNat t₀) msec).isFinished (.ofNat t) = true ↔ msec.toNat ≤ t - t₀ := by
  rw [TickCount.isFinished_start, UInt32.le_iff_toNat_le, TickCount.toNat_ofNat_sub hle hlt]

lemma processing_pulse (hsetup : c.setup &&& setupPulse ≠ 0) (tick : UInt32) :
    c.processing tick = ((c.expire tick).restart tick).physical := by
  rw [processing, if_pos hsetup]

lemma expire_of_stopped (htimer : c.timer.isStart = false) (tick : UInt32) : c.expire tick = c := by
  rw [expire, TickCount.isFinished, htimer, Bool.false_and, if_neg Bool.false_ne_true]

lemma Rest.cycle (h : c.Rest pulse) (tick : UInt32) : (c.processing tick).Rest pulse := by
  have hsame : ¬ c.oldValue.toUInt16 ≠ c.value := by rw [h.value, h.oldValue]; decide
  rw [processing_pulse h.setup, expire_of_stopped h.timer, restart, if_neg hsame]
  exact ⟨h.setup, h.length, h.value, h.oldValue, rfl⟩

/-- An output that is to begin a pulse, does so in the next cycle. -/
lemma begin_on (hsetup : c.setup &&& setupPulse ≠ 0) (hvalue : c.value = 1)
    (hold : c.oldValue = 0) (htimer : c.timer.isStart = false) (t₀ : ℕ) :
    (c.step (.cycle t₀)).On c.pulse t₀ := by
  have hdiff : c.oldValue.toUInt16 ≠ c.value := by rw [hvalue, hold]; decide
  rw [step, processing_pulse hsetup, expire_of_stopped htimer, restart, if_pos hdiff, htimer,
    if_neg Bool.false_ne_true]
  exact ⟨hsetup, rfl, hvalue, hold, rfl⟩

/-- The cycle behind a write begins the pulse. -/
lemma Rest.on (h : c.Rest pulse) (t₀ : ℕ) :
    (step { c with value := 1 } (.cycle t₀)).On pulse t₀ := by
  rw [← h.length]
  exact begin_on (c := { c with value := 1 }) h.setup rfl h.oldValue h.timer t₀

/-- The pulse is over: the output is at rest. -/
lemma On.expire (h : c.On pulse t₀) (hle : t₀ ≤ t) (hlt : t - t₀ < 2 ^ 32)
    (hover : pulse.toNat ≤ t - t₀) : (step c (.cycle t)).Rest pulse := by
  have hfinished : c.timer.isFinished (.ofNat t) = true := by
    rw [h.timer]
    exact (isFinished_iff pulse hle hlt).mpr hover
  rw [step, processing_pulse h.setup, DOChannel.expire, if_pos hfinished, restart, h.value]
  exact ⟨h.setup, h.length, rfl, rfl, rfl⟩

/-- It is not over, and goes on. -/
lemma On.goOn (h : c.On pulse t₀) (hle : t₀ ≤ t) (hlt : t - t₀ < 2 ^ 32)
    (hover : ¬ pulse.toNat ≤ t - t₀) : (step c (.cycle t)).On pulse t₀ := by
  have hfinished : ¬ c.timer.isFinished (.ofNat t) = true := by
    rw [h.timer]
    exact mt (isFinished_iff pulse hle hlt).mp hover
  have hdiff : c.oldValue.toUInt16 ≠ c.value := by rw [h.oldValue, h.value]; decide
  have hstart : c.timer.isStart = true := by rw [h.timer]; rfl
  rw [step, processing_pulse h.setup, DOChannel.expire, if_neg hfinished, restart, if_pos hdiff,
    if_pos hstart]
  exact ⟨h.setup, h.length, h.value, h.oldValue, h.timer⟩

lemma Rest.cycles (h : c.Rest pulse) (ts : List ℕ) : (c.run (ts.map .cycle)).Rest pulse := by
  induction ts generalizing c with
  | nil => exact h
  | cons t ts ih => exact ih (h.cycle (.ofNat t))

lemma On.cycles (h : c.On pulse t₀) {ts : List ℕ} (hts : ∀ t ∈ ts, t₀ ≤ t ∧ t - t₀ < 2 ^ 32) :
    if ∃ t ∈ ts, pulse.toNat ≤ t - t₀ then (c.run (ts.map .cycle)).Rest pulse
    else (c.run (ts.map .cycle)).On pulse t₀ := by
  induction ts generalizing c with
  | nil => rwa [if_neg (by simp)]
  | cons t ts ih =>
      obtain ⟨hle, hlt⟩ := hts t List.mem_cons_self
      rw [List.map_cons, run, List.foldl_cons, ← run]
      by_cases hover : pulse.toNat ≤ t - t₀
      · rw [if_pos ⟨t, List.mem_cons_self, hover⟩]
        exact (h.expire hle hlt hover).cycles ts
      · have hrest := ih (h.goOn hle hlt hover) fun u hu => hts u (List.mem_cons_of_mem t hu)
        simpa [hover] using hrest

/-- A write of an output at rest, which is then left alone: the output is on from the first cycle
to the first one at which the length of the pulse has passed, and off for good from there. -/
theorem single_pulse (h : c.Rest pulse) {v : UInt32} (hv : v ≠ 0) {t₀ : ℕ} {ts : List ℕ}
    (hts : ∀ t ∈ ts, t₀ ≤ t ∧ t - t₀ < 2 ^ 32) :
    (c.run (.setValue v :: .cycle t₀ :: ts.map .cycle)).value =
      if ∃ t ∈ ts, pulse.toNat ≤ t - t₀ then 0 else 1 := by
  have hset : c.step (.setValue v) = { c with value := 1 } := by rw [step, if_pos hv]
  have hrun : c.run (.setValue v :: .cycle t₀ :: ts.map .cycle)
      = (step { c with value := 1 } (.cycle t₀)).run (ts.map .cycle) := by
    rw [run, List.foldl_cons, hset, List.foldl_cons, ← run]
  have hcycles := (h.on t₀).cycles hts
  rw [hrun]
  split_ifs at hcycles ⊢
  · exact hcycles.value
  · exact hcycles.value

/-- An output with the flag and a pulse of one second. -/
def pulsed : DOChannel := { setup := setupPulse }

lemma pulsed_rest : pulsed.Rest 1000 := ⟨by decide, rfl, rfl, rfl, rfl⟩

/-- The pulse of one second. -/
theorem single_pulse_sample :
    let ts : List ℕ := [999, 1000, 1001]
    (pulsed.run (.setValue 5 :: .cycle 0 :: ts.map .cycle)).value =
      if ∃ t ∈ ts, (1000 : UInt32).toNat ≤ t - 0 then 0 else 1 :=
  single_pulse pulsed_rest (by decide) (by simp)

/-! ### An output that nobody has set -/

/-- The value that was written last; at first it is zero. -/
def asked (l : List DOAct) : UInt16 :=
  l.foldl (fun w a => match a with
    | .setValue value => if value ≠ 0 then 1 else 0
    | .write value => value
    | .cycle _ => w) 0

/-- No cycle finds a pulse over whose output was set to zero since the cycle before. -/
def NotLate (c : DOChannel) (a : DOAct) : Prop :=
  ∀ t, a = .cycle t → c.timer.isFinished (.ofNat t) = true → c.value ≠ 0

/-- An output whose value is the one that was written last, or zero behind a pulse. -/
structure Follows (w : UInt16) (c : DOChannel) : Prop where
  setup : c.setup &&& setupPulse ≠ 0
  oldValue : c.oldValue = 0
  value : c.value = w ∨ c.value = 0 ∧ c.timer.isStart = false

variable {w : UInt16}

lemma restart_stopped (hold : c.oldValue = 0) (hvalue : c.value = 0) (tick : UInt32) :
    (c.restart tick).timer.isStart = false := by
  have hsame : ¬ c.oldValue.toUInt16 ≠ c.value := by rw [hold, hvalue]; decide
  rw [restart, if_neg hsame]
  rfl

@[simp] lemma restart_value (c : DOChannel) (tick : UInt32) :
    (c.restart tick).value = c.value := by
  rw [restart]
  split_ifs <;> rfl

@[simp] lemma restart_oldValue (c : DOChannel) (tick : UInt32) :
    (c.restart tick).oldValue = c.oldValue := by
  rw [restart]
  split_ifs <;> rfl

@[simp] lemma restart_setup (c : DOChannel) (tick : UInt32) :
    (c.restart tick).setup = c.setup := by
  rw [restart]
  split_ifs <;> rfl

lemma Follows.value_asked (h : c.Follows w) (hvalue : c.value ≠ 0) : w ≠ 0 := by
  rcases h.value with heq | ⟨hzero, -⟩
  · rwa [← heq]
  · exact absurd hzero hvalue

/-- A cycle that finds no pulse over. -/
lemma Follows.running (h : c.Follows w) {t : ℕ}
    (hfinished : ¬ c.timer.isFinished (.ofNat t) = true) : (c.step (.cycle t)).Follows w := by
  rw [step, processing_pulse h.setup, expire, if_neg hfinished]
  refine ⟨(restart_setup c _).symm ▸ h.setup, (restart_oldValue c _).trans h.oldValue, ?_⟩
  by_cases hvalue : c.value = 0
  · exact .inr ⟨(restart_value c _).trans hvalue, restart_stopped h.oldValue hvalue _⟩
  · have heq : c.value = w := h.value.resolve_right fun hz => hvalue hz.1
    exact .inl ((restart_value c _).trans heq)

/-- A cycle that finds one over, and its output on. -/
lemma Follows.over (h : c.Follows w) {t : ℕ} (hfinished : c.timer.isFinished (.ofNat t) = true)
    (hvalue : c.value ≠ 0) : (c.step (.cycle t)).Follows w := by
  have hnot : lognot c.value = 0 := if_neg hvalue
  rw [step, processing_pulse h.setup, expire, if_pos hfinished, hnot]
  refine ⟨(restart_setup _ _).symm ▸ h.setup, restart_oldValue _ _, .inr ⟨restart_value _ _, ?_⟩⟩
  exact restart_stopped rfl rfl _

/-- A cycle that finds one over, and its output off, switches it on. -/
lemma Follows.late (h : c.Follows w) {t : ℕ} (hfinished : c.timer.isFinished (.ofNat t) = true)
    (hvalue : c.value = 0) : (c.step (.cycle t)).value = 1 ∧ w = 0 := by
  have hstart : c.timer.isStart = true := by
    rw [TickCount.isFinished, Bool.and_eq_true] at hfinished
    exact hfinished.1
  refine ⟨?_, ?_⟩
  · rw [step, processing_pulse h.setup, expire, if_pos hfinished, hvalue]
    exact restart_value _ _
  · rcases h.value with heq | ⟨-, hstop⟩
    · rw [← heq, hvalue]
    · exact absurd (hstart.symm.trans hstop) (by decide)

lemma asked_concat (l : List DOAct) (a : DOAct) :
    asked (l ++ [a]) = match a with
      | .setValue value => if value ≠ 0 then 1 else 0
      | .write value => value
      | .cycle _ => asked l := by
  rw [asked, List.foldl_append]
  cases a <;> rfl

/-- In every run of an output with the flag, from its rest: it is never on when it was written off,
if and only if no cycle finds a pulse over whose output was switched off since the cycle before. -/
theorem asked_iff (h : c.Rest pulse) (l : List DOAct) :
    (∀ pre, pre <+: l → (c.run pre).value ≠ 0 → asked pre ≠ 0) ↔
      Run.Along step NotLate c l := by
  refine Run.forall_prefix_iff_along (fun l => (c.run l).Follows (asked l))
    ⟨⟨h.setup, h.oldValue, .inl h.value⟩, fun hvalue => absurd h.value hvalue⟩
    (fun l a hl => ?_) l
  have hrun : c.run (l ++ [a]) = (c.run l).step a := by rw [run, List.foldl_append]; rfl
  rw [hrun, asked_concat]
  cases a with
  | setValue value =>
      exact ⟨iff_of_true id fun t ht => DOAct.noConfusion ht,
        fun _ => ⟨hl.setup, hl.oldValue, .inl rfl⟩⟩
  | write value =>
      exact ⟨iff_of_true id fun t ht => DOAct.noConfusion ht,
        fun _ => ⟨hl.setup, hl.oldValue, .inl rfl⟩⟩
  | cycle t =>
      by_cases hfinished : (c.run l).timer.isFinished (.ofNat t) = true
      · by_cases hvalue : (c.run l).value = 0
        · obtain ⟨hone, hzero⟩ := hl.late hfinished hvalue
          have hlate : ¬ NotLate (c.run l) (.cycle t) := fun hn => hn t rfl hfinished hvalue
          refine ⟨iff_of_false (fun hc => hc ?_ hzero) hlate, fun hn => absurd hn hlate⟩
          rw [hone]
          decide
        · have hnext := hl.over hfinished hvalue
          have hlate : NotLate (c.run l) (.cycle t) := fun _ _ _ => hvalue
          exact ⟨iff_of_true hnext.value_asked hlate, fun _ => hnext⟩
      · have hnext := hl.running hfinished
        have hlate : NotLate (c.run l) (.cycle t) := fun u hu hf => by
          rw [← DOAct.cycle.inj hu] at hf
          exact absurd hf hfinished
        exact ⟨iff_of_true hnext.value_asked hlate, fun _ => hnext⟩

/-- A pulse that is switched off too late for the cycle that ends it. -/
theorem asked_iff_late :
    let l : List DOAct := [.setValue 1, .cycle 0, .setValue 0, .cycle 1000]
    (pulsed.run l).value = 1 ∧
      ((∀ pre, pre <+: l → (pulsed.run pre).value ≠ 0 → asked pre ≠ 0) ↔
        Run.Along step NotLate pulsed l) :=
  ⟨by decide, asked_iff pulsed_rest _⟩

/-! ### An output that is held -/

/-- The pulses of an output that is set again before each cycle, with the times of the cycles: on
from the beginning of a pulse, off in the cycle that ends it, and on again from the next one. -/
def train (pulse : ℕ) : Option ℕ → List ℕ → List Bool
  | _, [] => []
  | none, t :: ts => true :: train pulse (some t) ts
  | some t₀, t :: ts =>
      if pulse ≤ t - t₀ then false :: train pulse none ts else true :: train pulse (some t₀) ts

/-- A cycle and the writes before it. -/
def turn (u : List UInt32 × ℕ) : List DOAct := u.1.map .setValue ++ [.cycle u.2]

/-- Something is written before the cycle, and it is never zero. -/
def Holds (u : List UInt32 × ℕ) : Prop := u.1 ≠ [] ∧ ∀ v ∈ u.1, v ≠ 0

/-- The cycles follow each other, and the timer does not wrap between them. -/
def Soon (pulse : UInt32) (t t' : ℕ) : Prop := t ≤ t' ∧ pulse.toNat + (t' - t) < 2 ^ 32

lemma step_setup (c : DOChannel) (a : DOAct) : (c.step a).setup = c.setup := by
  cases a with
  | cycle t =>
      rw [step, processing]
      split_ifs
      · rw [expire]
        split_ifs
        · exact restart_setup _ _
        · exact restart_setup _ _
      · rfl
  | _ => rfl

lemma sets_eq {vs : List UInt32} (hne : vs ≠ []) (hvs : ∀ v ∈ vs, v ≠ 0) (c : DOChannel) :
    c.run (vs.map .setValue) = { c with value := 1 } := by
  induction vs generalizing c with
  | nil => exact absurd rfl hne
  | cons v vs ih =>
      have hstep : c.step (.setValue v) = { c with value := 1 } := by
        rw [step, if_pos (hvs v List.mem_cons_self)]
      rw [List.map_cons, run, List.foldl_cons, hstep, ← run]
      have hrest : ∀ w ∈ vs, w ≠ 0 := fun w hw => hvs w (List.mem_cons_of_mem v hw)
      cases vs with
      | nil => rfl
      | cons u vs => exact ih (List.cons_ne_nil u vs) hrest _

/-- The writes give nothing to the hardware. -/
lemma outputs_sets {out : DOChannel → DOAct → List Bool} (hout : ∀ d v, out d (.setValue v) = [])
    (vs : List UInt32) (l : List DOAct) (c : DOChannel) :
    Run.outputs step out c (vs.map .setValue ++ l)
      = Run.outputs step out (c.run (vs.map .setValue)) l := by
  induction vs generalizing c with
  | nil => rfl
  | cons v vs ih =>
      rw [List.map_cons, List.cons_append, Run.outputs, hout, List.nil_append, ih]
      rfl

/-- What a turn gives to the hardware. -/
lemma outputs_turn {out : DOChannel → DOAct → List Bool} (hout : ∀ d v, out d (.setValue v) = [])
    {u : List UInt32 × ℕ} (hu : Holds u) (l : List DOAct) (c : DOChannel) :
    Run.outputs step out c (turn u ++ l) =
      out { c with value := 1 } (.cycle u.2) ++
        Run.outputs step out (step { c with value := 1 } (.cycle u.2)) l := by
  rw [turn, List.append_assoc, outputs_sets hout, sets_eq hu.1 hu.2]
  rfl

/-- `rIODOChannel::Setup::INVERSED` is set. -/
def inversed (c : DOChannel) : Bool := c.setup &&& setupInversed != 0

lemma phValue_cycle (c : DOChannel) (t : ℕ) :
    (c.step (.cycle t)).phValue =
      (if (c.step (.cycle t)).inversed then lognot (c.step (.cycle t)).value
        else (c.step (.cycle t)).value).toUInt8 := by
  rw [step, processing, inversed, physical]
  simp only [bne_iff_ne]

lemma inversed_step (c : DOChannel) (a : DOAct) : (c.step a).inversed = c.inversed := by
  rw [inversed, inversed, step_setup]

/-- What a module of the second kind gives to the hardware. -/
lemma outDI8DO8_cycle {b : Bool} (hvalue : (c.step (.cycle t)).value = if b then 1 else 0) :
    c.outDI8DO8 (.cycle t) = [b ^^ c.inversed] := by
  have hout : c.outDI8DO8 (.cycle t) = [(c.step (.cycle t)).phValue != 0] := rfl
  rw [hout, phValue_cycle, hvalue, inversed_step]
  cases b <;> cases c.inversed <;> rfl

/-- The states of an output that is held: at rest, or in a pulse. -/
def Held (pulse : UInt32) : Option ℕ → DOChannel → Prop
  | none => Rest pulse
  | some t₀ => On pulse t₀

/-- The time that a pulse has lasted at the last cycle. -/
def Young (pulse : UInt32) (p : ℕ) : Option ℕ → Prop
  | none => True
  | some t₀ => t₀ ≤ p ∧ (p = t₀ ∨ p - t₀ < pulse.toNat)

/-- A cycle of an output that is held: the first sign of the train, and the state behind it. -/
lemma Held.cycle {σ : Option ℕ} (h : Held pulse σ c) {p : ℕ} (hyoung : Young pulse p σ)
    (hsoon : Soon pulse p t) (ts : List ℕ) :
    ∃ b σ', (step { c with value := 1 } (.cycle t)).value = (if b then 1 else 0) ∧
      Held pulse σ' (step { c with value := 1 } (.cycle t)) ∧ Young pulse t σ' ∧
      train pulse.toNat σ (t :: ts) = b :: train pulse.toNat σ' ts := by
  cases σ with
  | none =>
      have hon := Rest.on h t
      exact ⟨true, some t, hon.value, hon, ⟨le_rfl, .inl rfl⟩, rfl⟩
  | some t₀ =>
      have hon : On pulse t₀ { c with value := 1 } := ⟨h.setup, h.length, rfl, h.oldValue, h.timer⟩
      obtain ⟨hle, hlast⟩ := hyoung
      obtain ⟨hpt, hwrap⟩ := hsoon
      have hle' : t₀ ≤ t := hle.trans hpt
      have hlt : t - t₀ < 2 ^ 32 := by omega
      by_cases hover : pulse.toNat ≤ t - t₀
      · have hrest := hon.expire hle' hlt hover
        exact ⟨false, none, hrest.value, hrest, trivial, if_pos hover⟩
      · have hnext := hon.goOn hle' hlt hover
        exact ⟨true, some t₀, hnext.value, hnext, ⟨hle', .inr (Nat.lt_of_not_le hover)⟩,
          if_neg hover⟩

/-- What the two kinds of modules give to the hardware. -/
lemma Held.outputs {σ : Option ℕ} (h : Held pulse σ c) {p : ℕ} (hyoung : Young pulse p σ)
    {turns : List (List UInt32 × ℕ)} (hturns : ∀ u ∈ turns, Holds u)
    (hsoon : (p :: turns.map Prod.snd).IsChain (Soon pulse)) :
    Run.outputs step outDO16 c (turns.flatMap turn) = turns.map (fun _ => true) ∧
      Run.outputs step outDI8DO8 c (turns.flatMap turn)
        = (train pulse.toNat σ (turns.map Prod.snd)).map (· ^^ c.inversed) := by
  induction turns generalizing c σ p with
  | nil =>
      refine ⟨rfl, ?_⟩
      rw [List.map_nil, train]
      rfl
  | cons u turns ih =>
      obtain ⟨hfirst, hrest⟩ := List.isChain_cons_cons.mp hsoon
      have hu := hturns u List.mem_cons_self
      obtain ⟨b, σ', hvalue, hheld, hyoung', htrain⟩ := h.cycle hyoung hfirst (turns.map Prod.snd)
      obtain ⟨h16, h8⟩ := ih hheld hyoung' (fun v hv => hturns v (List.mem_cons_of_mem u hv)) hrest
      have hsame : (step { c with value := 1 } (.cycle u.2)).inversed = c.inversed :=
        inversed_step _ _
      refine ⟨?_, ?_⟩
      · rw [List.flatMap_cons, outputs_turn (fun _ _ => rfl) hu, h16]
        rfl
      · rw [List.flatMap_cons, outputs_turn (fun _ _ => rfl) hu, h8, outDI8DO8_cycle hvalue, hsame,
          List.map_cons, htrain]
        rfl

/-- An output that is set again before each cycle, as a signal of the configuration that is on does
in each scan: a module with 16 outputs has it on in every cycle, whether it is inverted or not, and
its pulse never ends; a module with 8 outputs repeats the pulse. -/
theorem held_outputs (h : c.Rest pulse) {turns : List (List UInt32 × ℕ)}
    (hturns : ∀ u ∈ turns, Holds u) (hsoon : (turns.map Prod.snd).IsChain (Soon pulse)) :
    Run.outputs step outDO16 c (turns.flatMap turn) = turns.map (fun _ => true) ∧
      Run.outputs step outDI8DO8 c (turns.flatMap turn)
        = (train pulse.toNat none (turns.map Prod.snd)).map (· ^^ c.inversed) := by
  have hheld : Held pulse none c := h
  cases turns with
  | nil => exact ⟨rfl, rfl⟩
  | cons u turns =>
      have hself : Soon pulse u.2 u.2 := by
        refine ⟨le_rfl, ?_⟩
        rw [Nat.sub_self, Nat.add_zero]
        exact pulse.toNat_lt
      exact hheld.outputs (p := u.2) trivial hturns (List.isChain_cons_cons.mpr ⟨hself, hsoon⟩)

/-- The pulse of one second in cycles of 600 ms. -/
theorem held_outputs_sample :
    let turns : List (List UInt32 × ℕ) := [([1], 0), ([1, 1], 600), ([1], 1200), ([1], 1800)]
    Run.outputs step outDO16 pulsed (turns.flatMap turn) = turns.map (fun _ => true) ∧
      Run.outputs step outDI8DO8 pulsed (turns.flatMap turn)
        = (train (1000 : UInt32).toNat none (turns.map Prod.snd)).map (· ^^ pulsed.inversed) :=
  held_outputs pulsed_rest (by simp [Holds]) (by simp [Soon])

end DOChannel

end Tritonn

import Tritonn.Data.AnalogOutput
import Tritonn.Lib.Extended
import Tritonn.Lib.Run

/-!
`src/tritonn/data/ai.cpp`: an analogue input, and the quality of its value.

* `AI.calculate` is `rAI::calculate`, with `AIModule` the answers of the module; a value may be no
  number or infinite, wherever a variable or a division lets it be so;
* `AI.source` is the value that a calculation takes, if it comes to judge one at all, and
  `AI.calculate_spec` what it makes of it;
* `AI.Sound` is the property of a state: a normal status stands for a number inside the scale, and
  the last good value is such a number;
* `AI.sound_iff` says that it holds in all states of a run if and only if it holds of the last good
  value in the beginning, and each scan takes a value that can be judged and leaves the last good
  value inside the scale;
* `AI.sound_fails` is a virtual input that is switched off and on again.
-/

namespace Tritonn

open Run (Along)

/-- The type `LREAL` with the values that are no numbers. -/
abbrev XLREAL := Extended LREAL

/-- `rAI::Status`. -/
inductive AIStatus where
  | undef
  | off
  | normal
  | min
  | max
  | fault
  deriving DecidableEq, Repr

namespace AISetup

/-- `Setup::OFF`. -/
def off : UInt16 := 0x0001

/-- `Setup::ERR_KEYPAD`. -/
def errKeypad : UInt16 := 0x0002

/-- `Setup::ERR_LASTGOOD`. -/
def errLastGood : UInt16 := 0x0004

/-- `Setup::NOICE`. -/
def noice : UInt16 := 0x2000

end AISetup

namespace AIValueMode

/-- `Mode::PHIS`. -/
def phis : UInt16 := 0

/-- `Mode::MKEYPAD`. -/
def mKeypad : UInt16 := 1

/-- `Mode::LASTGOOD`. -/
def lastGood : UInt16 := 2

/-- `Mode::AKEYPAD`. -/
def aKeypad : UInt16 := 4

end AIValueMode

/-- `rAI` with the values of its links. -/
structure AI where
  isCalc : Bool
  fault : UInt32
  present : XLREAL
  phValue : XLREAL
  current : XLREAL
  keypad : XLREAL
  scale : RScale XLREAL
  mode : UInt16
  setup : UInt16
  status : AIStatus
  lastGood : XLREAL
  isSetModule : Bool
  deriving DecidableEq

/-- The answers of a module that is in work: `getValue`, `getRange`, `getMinValue`, `getState` and
`getCurrent`, and the error of the access. -/
structure AIRead where
  adc : UInt32
  range : UInt16
  minValue : UInt16
  state : Bool
  current : XLREAL
  error : Option RealtimeError
  deriving DecidableEq

/-- The module of an input: it is not there, it is in fault, or it answers. -/
inductive AIModule where
  | missing
  | fault
  | answers (r : AIRead)
  deriving DecidableEq

namespace AI

/-- A number as it stands in an expression. -/
def num (x : LREAL) : XLREAL := .fin x

/-- `rScale::getRange`. -/
def getRange (s : RScale XLREAL) : XLREAL := s.max - s.min

/-- The physical value of a code. -/
def physical (s : RScale XLREAL) (r : AIRead) : XLREAL :=
  s.min + getRange s / num r.range.toNat * (num r.adc.toNat - num r.minValue.toNat)

/-- `rAI::setFault`. -/
def setFault (a : AI) : AI := { a with present := .nan, status := .fault, fault := 1 }

/-- The mode into which a fault switches. -/
def faultMode (a : AI) : UInt16 :=
  if a.setup &&& AISetup.errKeypad ≠ 0 then AIValueMode.aKeypad
  else if a.setup &&& AISetup.errLastGood ≠ 0 then AIValueMode.lastGood
  else a.mode

/-- What `calculate` does with the state of the channel. -/
def handleState (a : AI) (state : Bool) : AI :=
  if state then
    if a.mode = AIValueMode.phis then
      setFault { a with fault := 1, mode := a.faultMode, status := .fault }
    else setFault { a with fault := 1 }
  else a

/-- The part of `calculate` that reads the module; an error halts the data manager. -/
def readModule (a : AI) : AIModule → AI × Option RealtimeError
  | .missing => (a, some .moduleLink)
  | .fault => (a.handleState true, none)
  | .answers r =>
      let b := { a with phValue := physical a.scale r, current := r.current }
      match r.error with
      | some e => (b, some e)
      | none => (b.handleState r.state, none)

/-- The first half of the correction near the ends of the scale. -/
def noiceMin (s : RScale XLREAL) (ph : XLREAL) : XLREAL :=
  if ph < s.min ∧ s.min - num 2 * getRange s / num 100 ≤ ph then s.min else ph

/-- The second half, behind the first one. -/
def noice (s : RScale XLREAL) (ph : XLREAL) : XLREAL :=
  if s.max < ph ∧ noiceMin s ph ≤ s.max + num 2 * getRange s / num 100 then s.max
  else noiceMin s ph

/-- The value comes from the keypad. -/
def isKeypad (a : AI) : Bool :=
  a.mode == AIValueMode.mKeypad || a.mode == AIValueMode.aKeypad

/-- The part of `calculate` that selects the value. -/
def select (a : AI) : AI :=
  if a.isKeypad then { a with present := a.keypad }
  else if a.mode = AIValueMode.lastGood then { a with present := a.lastGood }
  else if a.isSetModule then
    { a with
      present := if a.setup &&& AISetup.noice ≠ 0 then noice a.scale a.phValue else a.phValue }
  else a

/-- The part that compares it with the scale. -/
def judge (a : AI) : AI :=
  if a.status = .fault then a
  else if a.scale.max < a.present then { a with status := .max }
  else if a.present < a.scale.min then { a with status := .min }
  else
    { a with
      status := .normal
      lastGood := if a.mode = AIValueMode.phis then a.present else a.lastGood }

/-- `rAI::calculate`, with the error if it halts the data manager. -/
def calculate (a : AI) (io : AIModule) : AI × Option RealtimeError :=
  if a.isCalc then (a, none)
  else
    let a := { a with isCalc := true, fault := 0 }
    if a.setup &&& AISetup.off ≠ 0 then
      ({ a with
        phValue := .nan, present := .nan, mode := AIValueMode.phis, status := .undef }, none)
    else
      let a := { a with status := .undef }
      if a.isSetModule then
        match a.readModule io with
        | (b, some e) => (b, some e)
        | (b, none) => (b.select.judge, none)
      else (a.select.judge, none)

/-- What may be written to an input between two scans, where it is: the variables of the operator,
and the value of an input that has no module. -/
structure Writes where
  keypad : Option XLREAL := none
  min : Option XLREAL := none
  max : Option XLREAL := none
  mode : Option UInt16 := none
  setup : Option UInt16 := none
  present : Option XLREAL := none

/-- The writes, and `rSource::preCalculate`. -/
def written (a : AI) (w : Writes) : AI :=
  { a with
    isCalc := false
    keypad := w.keypad.getD a.keypad
    scale := ⟨w.min.getD a.scale.min, w.max.getD a.scale.max⟩
    mode := w.mode.getD a.mode
    setup := w.setup.getD a.setup
    present := if a.isSetModule then a.present else w.present.getD a.present }

/-- What reaches an input in a scan. -/
structure ScanInput where
  writes : Writes
  io : AIModule

/-- A scan of the data manager. -/
def scan (a : AI) (i : ScanInput) : AI := ((a.written i.writes).calculate i.io).1

/-! ### The property -/

/-- A number inside a scale. -/
def Inside (s : RScale XLREAL) (v : XLREAL) : Prop := ∃ x, v = num x ∧ s.min ≤ v ∧ v ≤ s.max

/-- A normal status stands for a number inside the scale, and the last good value is one. -/
structure Sound (a : AI) : Prop where
  present : a.status = .normal → Inside a.scale a.present
  lastGood : Inside a.scale a.lastGood

/-- A value that can be judged: outside of the scale, or a number between limits that are not
without a value. -/
def Judged (s : RScale XLREAL) (v : XLREAL) : Prop :=
  s.max < v ∨ v < s.min ∨ (∃ x, v = num x) ∧ s.min.isNan = false ∧ s.max.isNan = false

/-- The value of the mode, where a physical or a written one stands for the rest. -/
def ofMode (a : AI) (v : XLREAL) : XLREAL :=
  if a.isKeypad then a.keypad else if a.mode = AIValueMode.lastGood then a.lastGood else v

/-- The value that a calculation takes: none if the input is off, the module does not answer or its
channel is in fault. -/
def source (a : AI) (io : AIModule) : Option XLREAL :=
  if a.setup &&& AISetup.off ≠ 0 then none
  else if a.isSetModule then
    match io with
    | .missing => none
    | .fault => none
    | .answers r =>
        if r.error.isNone && !r.state then some (a.ofMode (physical a.scale r)) else none
  else some (a.ofMode a.present)

/-- The value with the correction near the ends of the scale. -/
def corrected (a : AI) (v : XLREAL) : XLREAL :=
  if a.isKeypad ∨ a.mode = AIValueMode.lastGood then v
  else if a.isSetModule ∧ a.setup &&& AISetup.noice ≠ 0 then noice a.scale v
  else v

/-- The scan stores a new last good value: the mode is the physical one, and the value is not out of
the scale. -/
def Stores (a : AI) (io : AIModule) : Prop :=
  a.mode = AIValueMode.phis ∧ ∃ v, a.source io = some v ∧ ¬ a.scale.max < a.corrected v ∧
    ¬ a.corrected v < a.scale.min

/-- The condition: the value that is taken can be judged, and the last good value is inside the
scale, unless a new one is stored. -/
def Condition (a : AI) (i : ScanInput) : Prop :=
  (∀ v, (a.written i.writes).source i.io = some v → Judged (a.written i.writes).scale v) ∧
    ((a.written i.writes).Stores i.io ∨
      Inside (a.written i.writes).scale (a.written i.writes).lastGood)

/-! ### What a calculation does -/

variable {a : AI} {s : RScale XLREAL} {v : XLREAL}

/-- Two percent of an infinite range are infinite. -/
lemma width_inf (t : Bool) : num 2 * Extended.inf t / num 100 = Extended.inf t := by
  rw [num, num, Extended.fin_mul_inf (by norm_num), Extended.inf_div_fin (by norm_num)]

/-- Behind a correction at the minimum, the minimum is a number, and the maximum is not without a
value. -/
lemma noiceMin_spec (h : v < s.min ∧ s.min - num 2 * getRange s / num 100 ≤ v) :
    (∃ x, s.min = num x) ∧ s.max.isNan = false := by
  obtain ⟨hlt, hle⟩ := h
  obtain ⟨lo, hi⟩ := s
  simp only [getRange] at hlt hle
  have hhi : hi.isNan = false := by
    cases hi with
    | nan => simpa using Extended.isNan_of_le hle
    | inf t => rfl
    | fin y => rfl
  refine ⟨?_, hhi⟩
  cases lo with
  | nan => exact absurd hlt Extended.not_lt_nan
  | inf t =>
      cases t with
      | true => cases v <;> simp [Extended.lt_def, Extended.blt] at hlt
      | false =>
          -- the width is minus infinity, and the bound the minimum itself
          exfalso
          cases hi with
          | nan => simp at hhi
          | inf t =>
              cases t with
              | false => simpa using Extended.isNan_of_le hle
              | true =>
                  rw [Extended.inf_sub_inf, if_pos (by decide), width_inf, Extended.inf_sub_inf,
                    if_pos (by decide)] at hle
                  exact (Extended.not_lt_iff_le (Extended.isNan_of_lt hlt).1
                    (Extended.isNan_inf _)).mpr hle hlt
          | fin y =>
              rw [Extended.fin_sub_inf, width_inf, Extended.inf_sub_inf, if_pos (by decide)] at hle
              exact (Extended.not_lt_iff_le (Extended.isNan_of_lt hlt).1
                (Extended.isNan_inf _)).mpr hle hlt
  | fin x => exact ⟨x, rfl⟩

/-- Behind one at the maximum alone, the maximum can be judged. -/
lemma judged_max (hlt : s.max < v) (hle : v ≤ s.max + num 2 * getRange s / num 100) :
    Judged s s.max := by
  obtain ⟨lo, hi⟩ := s
  simp only [getRange] at hlt hle
  have hlo : lo.isNan = false := by
    cases lo with
    | nan => simpa using Extended.isNan_of_le hle
    | inf t => rfl
    | fin y => rfl
  cases hi with
  | nan => exact absurd hlt Extended.not_nan_lt
  | inf t =>
      cases t with
      | false => cases v <;> simp [Extended.lt_def, Extended.blt] at hlt
      | true =>
          cases lo with
          | nan => simp at hlo
          | inf t =>
              cases t with
              | false => exact .inr (.inl (by simp))
              | true => simpa using Extended.isNan_of_le hle
          | fin y => exact .inr (.inl (by simp))
  | fin x => exact .inr (.inr ⟨⟨x, rfl⟩, hlo, rfl⟩)

/-- The correction makes no difference to whether a value can be judged. -/
theorem judged_noice : Judged s (noice s v) ↔ Judged s v := by
  by_cases hmin : v < s.min ∧ s.min - num 2 * getRange s / num 100 ≤ v
  · have hv : Judged s v := .inr (.inl hmin.1)
    obtain ⟨hnum, hnan⟩ := noiceMin_spec hmin
    have hlow : noiceMin s v = s.min := by rw [noiceMin, if_pos hmin]
    refine iff_of_true ?_ hv
    rw [noice, hlow]
    split_ifs with hmax
    · exact .inr (.inl (Extended.lt_trans hmax.1 hmin.1))
    · obtain ⟨x, hx⟩ := hnum
      exact .inr (.inr ⟨⟨x, hx⟩, by rw [hx]; rfl, hnan⟩)
  · have hlow : noiceMin s v = v := by rw [noiceMin, if_neg hmin]
    rw [noice, hlow]
    split_ifs with hmax
    · exact iff_of_true (judged_max hmax.1 hmax.2) (.inl hmax.1)
    · rfl

/-- The correction of the value of a mode. -/
lemma judged_corrected : Judged a.scale (a.corrected v) ↔ Judged a.scale v := by
  rw [corrected]
  split_ifs
  · rfl
  · exact judged_noice
  · rfl

/-- A value that can be judged, and is not out of the scale, is a number inside. -/
lemma inside_iff_judged (hmax : ¬ s.max < v) (hmin : ¬ v < s.min) : Inside s v ↔ Judged s v := by
  constructor
  · rintro ⟨x, rfl, hlow, hhigh⟩
    exact .inr (.inr ⟨⟨x, rfl⟩, (Extended.isNan_of_le hlow).1, (Extended.isNan_of_le hhigh).2⟩)
  · rintro (h | h | ⟨⟨x, rfl⟩, hlow, hhigh⟩)
    · exact absurd h hmax
    · exact absurd h hmin
    · exact ⟨x, rfl, (Extended.not_lt_iff_le rfl hlow).mp hmin,
        (Extended.not_lt_iff_le hhigh rfl).mp hmax⟩

/-- What a calculation leaves behind that takes no value. -/
structure TakesNone (a b : AI) : Prop where
  status : b.status ≠ .normal
  lastGood : b.lastGood = a.lastGood
  scale : b.scale = a.scale

/-- What one leaves behind that takes a value, which is corrected. -/
structure Takes (a : AI) (v : XLREAL) (b : AI) : Prop where
  present : b.present = v
  scale : b.scale = a.scale
  status : b.status = .normal ↔ ¬ a.scale.max < v ∧ ¬ v < a.scale.min
  lastGood : b.lastGood = if b.status = .normal ∧ a.mode = AIValueMode.phis then v else a.lastGood

lemma select_eq (a : AI) : a.select =
    { a with
      present := a.corrected (a.ofMode (if a.isSetModule then a.phValue else a.present)) } := by
  rw [select, corrected, ofMode]
  by_cases hkeypad : a.isKeypad = true
  · rw [if_pos hkeypad, if_pos hkeypad, if_pos (.inl hkeypad)]
  by_cases hlast : a.mode = AIValueMode.lastGood
  · rw [if_neg hkeypad, if_pos hlast, if_neg hkeypad, if_pos hlast, if_pos (.inr hlast)]
  rw [if_neg hkeypad, if_neg hlast, if_neg hkeypad, if_neg hlast,
    if_neg (not_or.mpr ⟨hkeypad, hlast⟩)]
  by_cases hmodule : a.isSetModule = true
  · simp only [hmodule, if_true, true_and]
  · rw [if_neg hmodule, if_neg hmodule, if_neg fun h => hmodule h.1]

/-- The judgement of a value, when there is no fault. -/
lemma judge_takes (h : a.status ≠ .fault) : Takes a a.present a.judge := by
  by_cases hmax : a.scale.max < a.present
  · rw [judge, if_neg h, if_pos hmax]
    exact ⟨rfl, rfl, iff_of_false (by simp) fun h => h.1 hmax, by simp⟩
  by_cases hmin : a.present < a.scale.min
  · rw [judge, if_neg h, if_neg hmax, if_pos hmin]
    exact ⟨rfl, rfl, iff_of_false (by simp) fun h => h.2 hmin, by simp⟩
  · rw [judge, if_neg h, if_neg hmax, if_neg hmin]
    exact ⟨rfl, rfl, iff_of_true rfl ⟨hmax, hmin⟩, by simp⟩

/-- The selection and the judgement together. -/
lemma select_judge_takes (h : a.status ≠ .fault) :
    Takes a (a.corrected (a.ofMode (if a.isSetModule then a.phValue else a.present)))
      a.select.judge := by
  rw [select_eq]
  have ht := judge_takes (a := { a with
    present := a.corrected (a.ofMode (if a.isSetModule then a.phValue else a.present)) }) h
  exact ⟨ht.present, ht.scale, ht.status, ht.lastGood⟩

/-- A fault leaves no value. -/
lemma fault_takesNone (h : a.status = .fault) : TakesNone a a.select.judge := by
  rw [select_eq, judge, if_pos h]
  exact ⟨by rw [h]; decide, rfl, rfl⟩

lemma handleState_true (a : AI) : (a.handleState true).status = .fault ∧
    (a.handleState true).lastGood = a.lastGood ∧ (a.handleState true).scale = a.scale := by
  rw [handleState, if_pos rfl]
  split_ifs
  · exact ⟨rfl, rfl, rfl⟩
  · exact ⟨rfl, rfl, rfl⟩

/-- So a calculation with a fault leaves none. -/
lemma handleState_takesNone (a : AI) : TakesNone a (a.handleState true).select.judge := by
  obtain ⟨hstatus, hlast, hscale⟩ := a.handleState_true
  have h := fault_takesNone hstatus
  exact ⟨h.status, h.lastGood.trans hlast, h.scale.trans hscale⟩

/-- The input with the marks that a calculation sets first. -/
def begun (a : AI) : AI := { a with isCalc := true, fault := 0, status := .undef }

lemma begun_status (a : AI) : a.begun.status ≠ .fault := by
  simp [begun]

/-- The input with the answers of the module. -/
def answered (a : AI) (r : AIRead) : AI :=
  { a.begun with phValue := physical a.scale r, current := r.current }

/-- The three ways of a calculation, behind the checks for being called twice and being off. -/
lemma calculate_eq (h : a.isCalc = false) (hoff : a.setup &&& AISetup.off = 0) (io : AIModule) :
    (a.calculate io).1 =
      if a.isSetModule then
        match io with
        | .missing => a.begun
        | .fault => (a.begun.handleState true).select.judge
        | .answers r =>
            if r.error.isSome then a.answered r
            else ((a.answered r).handleState r.state).select.judge
      else a.begun.select.judge := by
  have hcalc : ¬ a.isCalc = true := by rw [h]; decide
  have hon : ¬ a.setup &&& AISetup.off ≠ 0 := not_not.mpr hoff
  simp only [calculate, if_neg hcalc, if_neg hon]
  by_cases hmodule : a.isSetModule = true
  · simp only [if_pos hmodule]
    cases io with
    | missing => rfl
    | fault => rfl
    | answers r =>
        cases herror : r.error with
        | some e =>
            simp only [readModule, herror, Option.isSome_some, if_true]
            rfl
        | none =>
            simp only [readModule, herror, Option.isSome_none, Bool.false_eq_true, if_false]
            rfl
  · simp only [if_neg hmodule]
    rfl

/-- A calculation takes the value of its source, or none. -/
theorem calculate_spec (h : a.isCalc = false) (io : AIModule) :
    (∀ v, a.source io = some v → Takes a (a.corrected v) (a.calculate io).1) ∧
      (a.source io = none → TakesNone a (a.calculate io).1) := by
  by_cases hoff : a.setup &&& AISetup.off ≠ 0
  · have hcalc : ¬ a.isCalc = true := by rw [h]; decide
    simp only [source, calculate, if_neg hcalc, if_pos hoff]
    exact ⟨by simp, fun _ => ⟨by simp, rfl, rfl⟩⟩
  rw [calculate_eq h (not_not.mp hoff)]
  by_cases hmodule : a.isSetModule = true
  swap
  · simp only [source, if_neg hoff, if_neg hmodule]
    refine ⟨fun v hv => ?_, by simp⟩
    obtain rfl := Option.some.inj hv
    have ht := select_judge_takes a.begun_status
    have hset : ¬ a.begun.isSetModule = true := hmodule
    rw [if_neg hset] at ht
    exact ⟨ht.present, ht.scale, ht.status, ht.lastGood⟩
  simp only [source, if_neg hoff, if_pos hmodule]
  cases io with
  | missing => exact ⟨by simp, fun _ => ⟨by simp [begun], rfl, rfl⟩⟩
  | fault =>
      have ht := a.begun.handleState_takesNone
      exact ⟨by simp, fun _ => ⟨ht.status, ht.lastGood, ht.scale⟩⟩
  | answers r =>
      cases herror : r.error with
      | some e =>
          simp only [herror, Option.isNone_some, Bool.false_and, Option.isSome_some, if_true]
          exact ⟨by simp, fun _ => ⟨by simp [answered, begun], rfl, rfl⟩⟩
      | none =>
          simp only [herror, Option.isNone_none, Bool.true_and, Option.isSome_none,
            Bool.false_eq_true, if_false]
          cases hstate : r.state with
          | true =>
              have ht := (a.answered r).handleState_takesNone
              exact ⟨by simp, fun _ => ⟨ht.status, ht.lastGood, ht.scale⟩⟩
          | false =>
              have ht := select_judge_takes (a := a.answered r) a.begun_status
              have hset : (a.answered r).isSetModule = true := hmodule
              rw [if_pos hset] at ht
              refine ⟨fun v hv => ?_, by simp⟩
              obtain rfl := Option.some.inj hv
              exact ⟨ht.present, ht.scale, ht.status, ht.lastGood⟩

/-! ### Runs -/

/-- A calculation that takes no value leaves the last good one. -/
lemma TakesNone.sound {b : AI} (h : TakesNone a b) : Sound b ↔ Inside a.scale a.lastGood := by
  constructor
  · intro hs
    have hlast := hs.lastGood
    rwa [h.scale, h.lastGood] at hlast
  · intro hlast
    refine ⟨fun hnormal => absurd hnormal h.status, ?_⟩
    rwa [h.scale, h.lastGood]

/-- One that takes a value out of the scale leaves it, too. -/
lemma Takes.sound_outside {b : AI} (h : Takes a v b)
    (hout : ¬ (¬ a.scale.max < v ∧ ¬ v < a.scale.min)) : Sound b ↔ Inside a.scale a.lastGood := by
  have hstatus : b.status ≠ .normal := mt h.status.mp hout
  have hlast : b.lastGood = a.lastGood := by rw [h.lastGood, if_neg fun h => hstatus h.1]
  exact TakesNone.sound ⟨hstatus, hlast, h.scale⟩

/-- One that takes a value that is not out of the scale stores it in the physical mode. -/
lemma Takes.sound_inside {b : AI} (h : Takes a v b)
    (hout : ¬ a.scale.max < v ∧ ¬ v < a.scale.min) :
    Sound b ↔ Inside a.scale v ∧ (a.mode = AIValueMode.phis ∨ Inside a.scale a.lastGood) := by
  have hnormal := h.status.mpr hout
  have hlast : b.lastGood = if a.mode = AIValueMode.phis then v else a.lastGood := by
    rw [h.lastGood]
    simp only [hnormal, true_and]
  constructor
  · rintro ⟨hpresent, hgood⟩
    have hin := hpresent hnormal
    rw [h.scale, h.present] at hin
    rw [h.scale, hlast] at hgood
    by_cases hmode : a.mode = AIValueMode.phis
    · exact ⟨hin, .inl hmode⟩
    · rw [if_neg hmode] at hgood
      exact ⟨hin, .inr hgood⟩
  · rintro ⟨hin, hgood⟩
    refine ⟨fun _ => by rwa [h.scale, h.present], ?_⟩
    rw [h.scale, hlast]
    by_cases hmode : a.mode = AIValueMode.phis
    · rwa [if_pos hmode]
    · rw [if_neg hmode]
      exact hgood.resolve_left hmode

/-- A state behind a calculation has the property if and only if the value that was taken can be
judged, and the last good value is inside or was stored. -/
theorem sound_calculate_iff (h : a.isCalc = false) (io : AIModule) :
    Sound (a.calculate io).1 ↔
      (∀ v, a.source io = some v → Judged a.scale v) ∧
        (a.Stores io ∨ Inside a.scale a.lastGood) := by
  obtain ⟨htakes, hnone⟩ := calculate_spec h io
  rcases hsource : a.source io with _ | v
  · have hstores : ¬ a.Stores io := by
      rintro ⟨-, v, hv, -⟩
      exact absurd (hsource.symm.trans hv) (Option.some_ne_none v).symm
    rw [(hnone hsource).sound, or_iff_right hstores]
    exact (and_iff_right fun v hv => absurd hv (Option.some_ne_none v).symm).symm
  · have hstores : a.Stores io ↔ a.mode = AIValueMode.phis ∧
        ¬ a.scale.max < a.corrected v ∧ ¬ a.corrected v < a.scale.min := by
      rw [Stores, hsource]
      simp
    have hjudged : (∀ w, some v = some w → Judged a.scale w) ↔ Judged a.scale (a.corrected v) := by
      rw [judged_corrected]
      simp
    rw [hjudged, hstores]
    by_cases hout : ¬ a.scale.max < a.corrected v ∧ ¬ a.corrected v < a.scale.min
    · rw [(htakes v hsource).sound_inside hout, ← inside_iff_judged hout.1 hout.2,
        and_iff_left hout]
    · have hjudge : Judged a.scale (a.corrected v) := by
        by_cases hmax : a.scale.max < a.corrected v
        · exact .inl hmax
        · exact .inr (.inl (not_not.mp fun hmin => hout ⟨hmax, hmin⟩))
      rw [(htakes v hsource).sound_outside hout, and_iff_right hjudge,
        or_iff_right fun h => hout h.2]

/-- In every run all states are sound if and only if the first one is, and each scan meets the
condition. -/
theorem sound_iff (a : AI) (l : List ScanInput) :
    (∀ pre, pre <+: l → Sound (pre.foldl scan a)) ↔ Sound a ∧ Along scan Condition a l := by
  have hscan : ∀ b i, Sound (scan b i) ↔ Condition b i := fun b i =>
    sound_calculate_iff (a := b.written i.writes) rfl i.io
  rw [Run.forall_prefix_iff]
  simp only [hscan]

/-- A virtual input that is on, with a scale and a last good value inside. -/
def virtualInput : AI where
  isCalc := false
  fault := 0
  present := num 20
  phValue := num 0
  current := num 0
  keypad := num 0
  scale := ⟨num 0, num 100⟩
  mode := AIValueMode.phis
  setup := 0
  status := .undef
  lastGood := num 50
  isSetModule := false

/-- Switched off and on again, the input has a normal status without a value, which it takes for the
last good one. -/
theorem sound_fails :
    ¬ ∀ pre, pre <+: [⟨{ setup := some AISetup.off }, .missing⟩, ⟨{ setup := some 0 }, .missing⟩] →
      Sound (pre.foldl scan virtualInput) := by
  intro h
  have hall := h _ List.prefix_rfl
  obtain ⟨x, hx, -⟩ := hall.lastGood
  have hnan : ([⟨{ setup := some AISetup.off }, .missing⟩,
      ⟨{ setup := some 0 }, .missing⟩].foldl scan virtualInput).lastGood = .nan := by decide +kernel
  rw [hnan] at hx
  exact absurd hx (by simp [num])

end AI

end Tritonn

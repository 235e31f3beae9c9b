import Tritonn.Io.ModuleAO4
import Tritonn.Shared.TickCount

/-!
`src/tritonn/data/ao.cpp`: an analogue output, and whether its code stays in the range of the DAC.

* `AO.calculate` is `rAO::calculate`; a division by zero and a conversion of what a `UINT` cannot
  hold are `undefined`;
* `AO.target` is the channel that a calculation writes to, if it gets so far;
* `AO.Keeps` is the property of a set of values: each of them gives a code in the range, and the
  codes are in the order of the values, or in the reversed one for a reversed scale;
* `AO.keeps_iff` says that a set has it if and only if each value is out of the scale by less than
  a step of the DAC;
* `AO.keeps_fails` are a value above the scale and a scale without a span.
-/

namespace Tritonn

/-- `rScale` with its engineering limits; what `rCmpLREAL` saves of them is only used for events. -/
structure RScale (α : Type*) where
  min : α
  max : α
  deriving DecidableEq, Repr

/-- `static_cast<UINT>` of a real number, which is cut off behind the point, and undefined if it
does not fit. -/
def realToUINT (value : LREAL) : Option UInt16 :=
  if -1 < value ∧ value < 65536 then some (.ofNat ⌊value⌋₊) else none

/-- `rAO`; without a module `m_module` is `FAULT`. -/
structure AO where
  isCalc : Bool
  fault : UInt32
  present : LREAL
  phValue : UInt16
  scale : RScale LREAL
  mode : UInt16
  setup : CmpUINT
  isSetModule : Bool
  channel : UInt8
  deriving DecidableEq, Repr

/-- Where the present value of a cycle comes from: the link, which takes what is no number for zero,
or the variable that the operator writes. -/
inductive AOInput where
  | link (value : Option LREAL)
  | operator (value : LREAL)
  deriving DecidableEq, Repr

/-- The present value. -/
def AOInput.value : AOInput → LREAL
  | .link v => v.getD 0
  | .operator v => v

/-- What a calculation ends in: the new states with the code that was given to the module, if any,
the halt of the data manager, or undefined behaviour. -/
inductive AOResult where
  | done (a : AO) (io : Option ModuleAO4) (written : Option UInt16)
  | halt (a : AO) (error : RealtimeError)
  | undefined

/-- The code that was given to the module. -/
def AOResult.written : AOResult → Option UInt16
  | .done _ _ code => code
  | _ => none

/-- The behaviour is defined. -/
def AOResult.isDefined : AOResult → Bool
  | .undefined => false
  | _ => true

namespace AO

/-- `rAO::Setup::OFF`. -/
def setupOff : UInt16 := 0x0001

/-- `rAO::Mode::PHIS`. -/
def modePhis : UInt16 := 0

/-- The code of a value: the quotient is a division by zero if the scale has no span. -/
def code (scale : RScale LREAL) (ch : AOChannel) (x : LREAL) : Option UInt16 :=
  if scale.max - scale.min = 0 then none
  else (realToUINT (ch.getRange.toNat / (scale.max - scale.min) * (x - scale.min))).map
    fun c => ch.getMinValue + c

/-- `rSource::calculate`, before the rest. -/
def received (a : AO) (i : AOInput) : AO :=
  { a with isCalc := true, fault := 0, present := i.value }

/-- The part of `calculate` that gives the code to the module. -/
def output (a : AO) (io : Option ModuleAO4) : AOResult :=
  if a.isSetModule ∧ a.mode = modePhis then
    match io with
    | none => .halt a .moduleLink
    | some m =>
        if m.isFault then .done a io none
        else
          match m.channel? a.channel with
          | none => .halt a .channelLink
          | some ch =>
              match code a.scale ch a.present with
              | none => .undefined
              | some c => .done { a with phValue := c } (some (m.setValue a.channel c)) (some c)
  else .done a io none

/-- `rAO::calculate`. -/
def calculate (a : AO) (i : AOInput) (io : Option ModuleAO4) : AOResult :=
  if a.isCalc then .done a io none
  else if a.setup.value &&& setupOff ≠ 0 then
    .done { a.received i with present := 0, mode := modePhis } io none
  else output { a.received i with setup := a.setup.compare } io

/-- The channel that `output` writes to. -/
def outputTarget (a : AO) (io : Option ModuleAO4) : Option AOChannel :=
  if a.isSetModule ∧ a.mode = modePhis then
    io.bind fun m => if m.isFault then none else m.channel? a.channel
  else none

/-- The channel that the calculation writes to. -/
def target (a : AO) (io : Option ModuleAO4) : Option AOChannel :=
  if a.isCalc ∨ a.setup.value &&& setupOff ≠ 0 then none else a.outputTarget io

/-- What a calculation gives to the module: the code of the value, if there is a target. -/
lemma output_spec (a : AO) (io : Option ModuleAO4) :
    (a.output io).written = (a.outputTarget io).bind (fun ch => code a.scale ch a.present) ∧
      ((a.output io).isDefined = true ↔
        ∀ ch, a.outputTarget io = some ch → (code a.scale ch a.present).isSome = true) := by
  have hno : ∀ b : AO, ∀ io', a.outputTarget io = none →
      (AOResult.done b io' none).written =
          (a.outputTarget io).bind (fun ch => code a.scale ch a.present) ∧
        ((AOResult.done b io' none).isDefined = true ↔
          ∀ ch, a.outputTarget io = some ch → (code a.scale ch a.present).isSome = true) := by
    intro b io' h
    rw [h]
    exact ⟨rfl, iff_of_true rfl (by simp)⟩
  by_cases hmode : a.isSetModule ∧ a.mode = modePhis
  swap
  · simp only [output, if_neg hmode]
    exact hno a io (by rw [outputTarget, if_neg hmode])
  simp only [output, if_pos hmode]
  cases io with
  | none => exact hno a none (by rw [outputTarget, if_pos hmode]; rfl)
  | some m =>
      by_cases hfault : m.isFault = true
      · simp only [if_pos hfault]
        exact hno a (some m) (by rw [outputTarget, if_pos hmode]; simp [hfault])
      · have htarget : a.outputTarget (some m) = m.channel? a.channel := by
          rw [outputTarget, if_pos hmode]
          simp [hfault]
        simp only [htarget, if_neg hfault]
        cases m.channel? a.channel with
        | none => exact ⟨rfl, iff_of_true rfl (by simp)⟩
        | some ch =>
            simp only [Option.bind_some, Option.some.injEq, forall_eq']
            cases code a.scale ch a.present with
            | none => exact ⟨rfl, iff_of_false (by simp [AOResult.isDefined]) (by simp)⟩
            | some c => exact ⟨rfl, iff_of_true rfl rfl⟩

/-- The same for `calculate`. -/
theorem calculate_spec (a : AO) (i : AOInput) (io : Option ModuleAO4) :
    (a.calculate i io).written = (a.target io).bind (fun ch => code a.scale ch i.value) ∧
      ((a.calculate i io).isDefined = true ↔
        ∀ ch, a.target io = some ch → (code a.scale ch i.value).isSome = true) := by
  rw [calculate, target]
  by_cases hcalc : a.isCalc = true
  · rw [if_pos hcalc, if_pos (.inl hcalc)]
    exact ⟨rfl, iff_of_true rfl (by simp)⟩
  by_cases hoff : a.setup.value &&& setupOff ≠ 0
  · rw [if_neg hcalc, if_pos hoff, if_pos (.inr hoff)]
    exact ⟨rfl, iff_of_true rfl (by simp)⟩
  · rw [if_neg hcalc, if_neg hoff, if_neg (not_or.mpr ⟨hcalc, hoff⟩)]
    exact output_spec _ io

/-! ### The property -/

/-- The codes of a set of present values: none leaves the range of the DAC, and none is undefined,
as it is after a division by zero; they are in the order of the values, or in the reversed order for
a reversed scale. -/
structure Keeps (a : AO) (io : Option ModuleAO4) (S : Set AOInput) : Prop where
  isDefined : ∀ i ∈ S, (a.calculate i io).isDefined = true
  range : ∀ i ∈ S, ∀ ch c, a.target io = some ch → (a.calculate i io).written = some c →
    ch.getMinValue.toNat ≤ c.toNat ∧ c.toNat ≤ ch.getMinValue.toNat + ch.getRange.toNat
  monotone : ∀ i ∈ S, ∀ j ∈ S, ∀ c d, (a.calculate i io).written = some c →
    (a.calculate j io).written = some d → i.value ≤ j.value →
      (a.scale.min < a.scale.max → c ≤ d) ∧ (a.scale.max < a.scale.min → d ≤ c)

/-- The value is out of the scale by less than a step of the DAC, which a scale without a span does
not have. -/
def Near (scale : RScale LREAL) (ch : AOChannel) (x : LREAL) : Prop :=
  |2 * x - (scale.min + scale.max)| * ch.getRange.toNat <
    |scale.max - scale.min| * (ch.getRange.toNat + 2)

/-- The part of the span at which a value lies. -/
def part (scale : RScale LREAL) (ch : AOChannel) (x : LREAL) : LREAL :=
  ch.getRange.toNat / (scale.max - scale.min) * (x - scale.min)

/-- A near value lies between the codes just below and above the range. -/
lemma near_iff (scale : RScale LREAL) (ch : AOChannel) (x : LREAL) :
    Near scale ch x ↔ scale.max - scale.min ≠ 0 ∧ -1 < part scale ch x ∧
      part scale ch x < ch.getRange.toNat + 1 := by
  have hR : (0 : LREAL) < ch.getRange.toNat := by exact_mod_cast ch.getRange_pos
  rw [Near, part]
  set R : LREAL := ((ch.getRange.toNat : ℕ) : LREAL)
  set span : LREAL := scale.max - scale.min with hspan
  rcases eq_or_ne span 0 with h0 | h0
  · rw [h0, abs_zero, zero_mul]
    have habs : 0 ≤ |2 * x - (scale.min + scale.max)| * R := mul_nonneg (abs_nonneg _) hR.le
    exact iff_of_false habs.not_gt fun h => h.1 rfl
  have hpos : 0 < |span| := abs_pos.mpr h0
  -- with the middle of the scale as the origin, in units of the span
  have hmid : 2 * (R / span * (x - scale.min)) - R =
      (2 * x - (scale.min + scale.max)) * R / span := by
    field_simp
    rw [hspan]
    ring
  have habs : |2 * (R / span * (x - scale.min)) - R| =
      |2 * x - (scale.min + scale.max)| * R / |span| := by
    rw [hmid, abs_div, abs_mul, abs_of_pos hR]
  rw [mul_comm |span|, ← div_lt_iff₀ hpos, ← habs, abs_lt]
  constructor
  · rintro ⟨hlow, hhigh⟩
    exact ⟨h0, by linarith, by linarith⟩
  · rintro ⟨-, hlow, hhigh⟩
    exact ⟨by linarith, by linarith⟩

/-- The code of a near value is the number of whole steps above the least code. -/
lemma code_of_near {scale : RScale LREAL} {ch : AOChannel} {x : LREAL} (h : Near scale ch x) :
    ∃ c, code scale ch x = some c ∧ c.toNat = ch.getMinValue.toNat + ⌊part scale ch x⌋₊ ∧
      ⌊part scale ch x⌋₊ ≤ ch.getRange.toNat := by
  obtain ⟨hspan, hlow, hhigh⟩ := (near_iff scale ch x).mp h
  have hfloor : ⌊part scale ch x⌋₊ ≤ ch.getRange.toNat := by
    refine Nat.lt_succ_iff.mp ((Nat.floor_lt' (Nat.succ_ne_zero _)).mpr ?_)
    rwa [Nat.cast_succ]
  have hsum : ch.getMinValue.toNat + ch.getRange.toNat < 65536 := by
    rcases ch.range_cases with ⟨h0, h1⟩ | ⟨h0, h1⟩
    · rw [h0, h1]
      decide
    · rw [h0, h1]
      decide
  have hcast : realToUINT (part scale ch x) = some (.ofNat ⌊part scale ch x⌋₊) := by
    have hrange : (ch.getRange.toNat : LREAL) + 1 ≤ 65536 := by
      exact_mod_cast Nat.succ_le_of_lt (lt_of_le_of_lt (Nat.le_add_left _ _) hsum)
    rw [realToUINT, if_pos ⟨hlow, hhigh.trans_le hrange⟩]
  refine ⟨ch.getMinValue + .ofNat ⌊part scale ch x⌋₊, ?_, ?_, hfloor⟩
  · rw [code, if_neg hspan, ← part, hcast, Option.map_some]
  · rw [UInt16.toNat_add, UInt16.toNat_ofNat']
    omega

/-- A code in the range is that of a near value. -/
lemma near_of_code {scale : RScale LREAL} {ch : AOChannel} {x : LREAL} {c : UInt16}
    (h : code scale ch x = some c) (hlow : ch.getMinValue.toNat ≤ c.toNat)
    (hhigh : c.toNat ≤ ch.getMinValue.toNat + ch.getRange.toNat) : Near scale ch x := by
  rw [code] at h
  split_ifs at h with hspan
  rw [← part, Option.map_eq_some_iff] at h
  obtain ⟨n, hcast, rfl⟩ := h
  rw [realToUINT] at hcast
  split_ifs at hcast with hfits
  obtain rfl := Option.some.inj hcast
  have hbound : ⌊part scale ch x⌋₊ < 65536 :=
    (Nat.floor_lt' (by decide)).mpr (by exact_mod_cast hfits.2)
  have hfloor : ⌊part scale ch x⌋₊ < ch.getRange.toNat + 1 := by
    rw [UInt16.toNat_add, UInt16.toNat_ofNat'] at hlow hhigh
    rcases ch.range_cases with ⟨h0, h1⟩ | ⟨h0, h1⟩
    · rw [h1]
      exact hbound
    · rw [h0, h1] at hhigh
      rw [h0] at hlow
      rw [h1]
      simp only [UInt16.reduceToNat] at hlow hhigh ⊢
      omega
  refine (near_iff scale ch x).mpr ⟨hspan, hfits.1, ?_⟩
  have hlt := (Nat.floor_lt' (Nat.succ_ne_zero _)).mp hfloor
  rwa [Nat.cast_succ] at hlt

/-- The steps follow the values in the direction of the scale. -/
lemma part_le (scale : RScale LREAL) (ch : AOChannel) {x y : LREAL} (h : x ≤ y) :
    (scale.min < scale.max → part scale ch x ≤ part scale ch y) ∧
      (scale.max < scale.min → part scale ch y ≤ part scale ch x) := by
  have hR : (0 : LREAL) ≤ ch.getRange.toNat := Nat.cast_nonneg _
  constructor
  · intro hlt
    have hfactor : 0 ≤ (ch.getRange.toNat : LREAL) / (scale.max - scale.min) :=
      div_nonneg hR (sub_nonneg.mpr hlt.le)
    exact mul_le_mul_of_nonneg_left (sub_le_sub_right h _) hfactor
  · intro hlt
    have hfactor : (ch.getRange.toNat : LREAL) / (scale.max - scale.min) ≤ 0 :=
      div_nonpos_of_nonneg_of_nonpos hR (sub_nonpos.mpr hlt.le)
    exact mul_le_mul_of_nonpos_left (sub_le_sub_right h _) hfactor

/-- The values of a set keep the range and the order if and only if each of them is near, unless
nothing is given to the module. -/
theorem keeps_iff (a : AO) (io : Option ModuleAO4) (S : Set AOInput) :
    a.Keeps io S ↔ ∀ i ∈ S, ∀ ch, a.target io = some ch → Near a.scale ch i.value := by
  constructor
  · intro h i hi ch hch
    have hdefined := (a.calculate_spec i io).2.mp (h.isDefined i hi) ch hch
    obtain ⟨c, hc⟩ := Option.isSome_iff_exists.mp hdefined
    have hwritten : (a.calculate i io).written = some c := by
      rw [(a.calculate_spec i io).1, hch, Option.bind_some, hc]
    obtain ⟨hlow, hhigh⟩ := h.range i hi ch c hch hwritten
    exact near_of_code hc hlow hhigh
  · intro h
    -- what is written is the code of the target
    have hcode : ∀ i ∈ S, ∀ c, (a.calculate i io).written = some c →
        ∃ ch, a.target io = some ch ∧
          c.toNat = ch.getMinValue.toNat + ⌊part a.scale ch i.value⌋₊ ∧
          ⌊part a.scale ch i.value⌋₊ ≤ ch.getRange.toNat := by
      intro i hi c hc
      rw [(a.calculate_spec i io).1] at hc
      obtain ⟨ch, hch, hc⟩ := Option.bind_eq_some_iff.mp hc
      obtain ⟨c', hc', hvalue⟩ := code_of_near (h i hi ch hch)
      obtain rfl := Option.some.inj (hc.symm.trans hc')
      exact ⟨ch, hch, hvalue⟩
    refine ⟨fun i hi => ?_, fun i hi ch c hch hc => ?_, fun i hi j hj c d hc hd hle => ?_⟩
    · refine (a.calculate_spec i io).2.mpr fun ch hch => ?_
      obtain ⟨c, hc, -⟩ := code_of_near (h i hi ch hch)
      rw [hc, Option.isSome_some]
    · obtain ⟨ch', hch', hvalue, hfloor⟩ := hcode i hi c hc
      obtain rfl := Option.some.inj (hch.symm.trans hch')
      omega
    · obtain ⟨ch, hch, hvalue, -⟩ := hcode i hi c hc
      obtain ⟨ch', hch', hvalue', -⟩ := hcode j hj d hd
      obtain rfl := Option.some.inj (hch.symm.trans hch')
      obtain ⟨hup, hdown⟩ := part_le a.scale ch hle
      refine ⟨fun hlt => ?_, fun hlt => ?_⟩
      · have hfloor := Nat.floor_le_floor (hup hlt)
        rw [UInt16.le_iff_toNat_le, hvalue, hvalue']
        omega
      · have hfloor := Nat.floor_le_floor (hdown hlt)
        rw [UInt16.le_iff_toNat_le, hvalue, hvalue']
        omega

/-- An output on the first channel of a module, with a scale. -/
def onModule (scale : RScale LREAL) : AO where
  isCalc := false
  fault := 0
  present := 0
  phValue := 0
  scale := scale
  mode := modePhis
  setup := {}
  isSetModule := true
  channel := 0

/-- A module whose codes are in microamperes. -/
def trueUA : ModuleAO4 := ⟨false, fun _ => ⟨4000, 1⟩, fun _ => 4000⟩

/-- Above the scale the code is above the range, and a scale without a span is a division by
zero. -/
theorem keeps_fails : ¬ (onModule ⟨0, 100⟩).Keeps trueUA {.operator 101} ∧
    ¬ (onModule ⟨50, 50⟩).Keeps trueUA {.operator 50} := by
  constructor
  · intro h
    have hrange := h.range _ rfl ⟨4000, 1⟩ 24200 (by decide) (by decide +kernel)
    revert hrange
    decide
  · intro h
    have hdefined := h.isDefined _ rfl
    revert hdefined
    decide +kernel

end AO

end Tritonn

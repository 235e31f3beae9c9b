import Tritonn.Data.Stream

/-!
The increments and the flow rates of one cycle of a metering line, coded twice in `stream.cpp`.

* `Balanced` says that the four increments of a cycle are one mass, read with three densities;
* `balanced_iff`: the increments of `calcTotal` are balanced if and only if none are taken, or the
  meter is a Coriolis meter, or they are all zero; the two reduced volumes of the other meters are
  divided by a thousand once more;
* `Proportional` says that the flow rates stand in the ratios of the increments, and `Metered` that
  the rate which the meter measures is its frequency by its factors;
* `agrees_iff`: a cycle of `calculate` has both if and only if its meter factor is one, or nothing
  is added to the totals, and its flow rates are calculated at all.
-/

namespace Tritonn

/-- A value that may stand under a division is not zero. -/
lemma ne_zero_of_isValidDelim {value : LREAL} (h : isValidDelim value = true) : value ≠ 0 := by
  rintro rfl
  norm_num [isValidDelim, compareLrealPrec] at h

namespace Stream

/-- The four increments are one mass: in kilograms, and as a volume times its density. -/
structure Balanced (link : StreamLink) (inc : BaseTotal) : Prop where
  volume : 1000 * inc.qty .mass = inc.qty .volume * link.dens
  volume15 : inc.qty .volume * link.dens = inc.qty .volume15 * link.dens15
  volume20 : inc.qty .volume15 * link.dens15 = inc.qty .volume20 * link.dens20

lemma balanced_of_zero {link : StreamLink} {inc : BaseTotal} (h : ∀ ch, inc.qty ch = 0) :
    Balanced link inc :=
  ⟨by simp [h], by simp [h], by simp [h]⟩

/-- Some value to divide by is too small: a cycle then adds nothing but pulses to the totals. -/
lemma calcInc_qty_of_invalid {s : Stream} (h : s.maintenance = true ∨ s.delimsValid = false)
    (ch : Channel) : s.calcInc.inc.qty ch = 0 := by
  rw [calcInc]
  rcases Bool.eq_false_or_eq_true s.maintenance with hm | hm
  · rw [if_pos hm]
    rfl
  · have hd := h.resolve_left (by simp [hm])
    rw [if_neg (by simp [hm])]
    simp only [hd, Bool.false_eq_true, if_false]
    rfl

lemma calcInc_qty_coriolis {s : Stream} (hm : s.maintenance = false) (hd : s.delimsValid = true)
    (hf : s.flowmeter = .coriolis) : s.calcInc.inc.qty = s.massInc (toUDINT s.link.counter) := by
  simp only [calcInc, hm, hd, hf, Bool.false_eq_true, if_false, if_true]
  rfl

lemma calcInc_qty_volume {s : Stream} (hm : s.maintenance = false) (hd : s.delimsValid = true)
    (hf : s.flowmeter ≠ .coriolis) : s.calcInc.inc.qty = s.volumeInc (toUDINT s.link.counter) := by
  cases hfm : s.flowmeter with
  | coriolis => exact absurd hfm hf
  | turbine =>
      simp only [calcInc, hm, hd, hfm, Bool.false_eq_true, if_false, if_true]
      rfl
  | ultrasonic =>
      simp only [calcInc, hm, hd, hfm, Bool.false_eq_true, if_false, if_true]
      rfl

/-- The values that `calcTotal` divides by are not zero once it has checked them. -/
lemma ne_zero_of_delimsValid {s : Stream} (h : s.delimsValid = true) :
    s.curKF ≠ 0 ∧ s.link.dens ≠ 0 ∧ s.link.dens15 ≠ 0 ∧ s.link.dens20 ≠ 0 := by
  simp only [delimsValid, Bool.and_eq_true] at h
  obtain ⟨⟨⟨hkf, hd⟩, h15⟩, h20⟩ := h
  exact ⟨ne_zero_of_isValidDelim hkf, ne_zero_of_isValidDelim hd, ne_zero_of_isValidDelim h15,
    ne_zero_of_isValidDelim h20⟩

/-! ### The balance of the increments -/

/-- A mass that is turned into volumes by its densities balances. -/
lemma balanced_massInc {s : Stream} (h : s.delimsValid = true) (count count' : UInt32) :
    Balanced s.link ⟨s.massInc count, count'⟩ := by
  obtain ⟨-, hd, h15, h20⟩ := ne_zero_of_delimsValid h
  constructor <;> simp only [massInc] <;> field_simp

/-- A volume is turned into a mass with the thousand between grams and kilograms, which does not
belong into the reduced volumes. -/
lemma balanced_volumeInc_iff {s : Stream} (h : s.delimsValid = true) (count count' : UInt32) :
    Balanced s.link ⟨s.volumeInc count, count'⟩ ↔
      count.toNat / s.curKF * s.curFactor.keypadMF = 0 := by
  obtain ⟨-, hd, h15, h20⟩ := ne_zero_of_delimsValid h
  constructor
  · intro hb
    set v := (count.toNat : LREAL) / s.curKF * s.curFactor.keypadMF
    have hmass : v * s.link.dens = v * s.link.dens / 1000 := calc
      v * s.link.dens = v * s.link.dens / s.link.dens15 / 1000 * s.link.dens15 := hb.volume15
      _ = v * s.link.dens / 1000 := by field_simp
    have hzero : v * s.link.dens = 0 := by linarith
    exact (mul_eq_zero.mp hzero).resolve_right hd
  · intro hv
    exact balanced_of_zero fun ch => by cases ch <;> simp [volumeInc, hv]

/-- The increments of `calcTotal` balance if and only if the stream takes none, or has a Coriolis
meter, or they are all zero. -/
theorem balanced_iff (env : Env) (unit : ObjUnit) (s : Stream) :
    Balanced s.link (s.calcTotal env unit).total.inc ↔
      s.maintenance = true ∨ s.delimsValid = false ∨ s.flowmeter = .coriolis ∨
        toUDINT s.link.counter = 0 ∨ s.curFactor.keypadMF = 0 := by
  have hinc : (s.calcTotal env unit).total.inc = ⟨s.calcInc.inc.qty, s.calcInc.inc.count⟩ := rfl
  rw [hinc]
  by_cases hzero : s.maintenance = true ∨ s.delimsValid = false
  · refine iff_of_true (balanced_of_zero (calcInc_qty_of_invalid hzero)) ?_
    rcases hzero with h | h
    · exact .inl h
    · exact .inr (.inl h)
  · obtain ⟨hm, hd⟩ := not_or.mp hzero
    rw [or_iff_right hm, or_iff_right hd]
    rw [Bool.not_eq_true] at hm
    rw [Bool.not_eq_false] at hd
    by_cases hf : s.flowmeter = .coriolis
    · rw [calcInc_qty_coriolis hm hd hf]
      exact iff_of_true (balanced_massInc hd _ _) (.inl hf)
    · have hkf := (ne_zero_of_delimsValid hd).1
      rw [calcInc_qty_volume hm hd hf, balanced_volumeInc_iff hd, or_iff_right hf, mul_eq_zero,
        div_eq_zero_iff, or_iff_left hkf, Nat.cast_eq_zero, ← UInt32.toNat_inj]
      rfl

/-- A line in oil of 850 kilograms to the cubic metre, with a hundred pulses a second and one pulse
to the unit. -/
def oilLine (flowmeter : FlowMeter) (mf : LREAL) : Stream where
  isCalc := false
  link := ⟨100, 100, 20, 1, 850, 850, 850⟩
  paramUnit := fun _ => 0
  flow := fun _ => 0
  flowmeter := flowmeter
  maintenance := false
  linearization := false
  resetTotals := false
  acceptKF := false
  curFactor := ⟨1, mf, fun _ => ⟨0, 0⟩⟩
  setFactor := ⟨1, mf, fun _ => ⟨0, 0⟩⟩
  curKF := 1
  total := ⟨.clear, .clear, .clear, .clear, fun _ => 0⟩

lemma isValidDelim_of_le {value : LREAL} (h : 1 ≤ value) : isValidDelim value = true := by
  have hpos : compareLrealPrec < 1 := by norm_num [compareLrealPrec]
  exact decide_eq_true (hpos.trans_le (h.trans (le_abs_self value)))

lemma oilLine_delimsValid (flowmeter : FlowMeter) (mf : LREAL) :
    (oilLine flowmeter mf).delimsValid = true := by
  have h1 : isValidDelim 1 = true := isValidDelim_of_le le_rfl
  have h850 : isValidDelim 850 = true := isValidDelim_of_le (by norm_num)
  simp only [delimsValid, oilLine, h1, h850, Bool.and_self]

lemma oilLine_count (flowmeter : FlowMeter) (mf : LREAL) :
    toUDINT (oilLine flowmeter mf).link.counter = 100 := toUDINT_toNat 100

/-- A hundred cubic metres of oil weigh 85 tons; the turbine finds a tenth of a cubic metre of them
at the reference temperature. -/
theorem balanced_fails :
    ¬ ∀ (env : Env) (unit : ObjUnit) (s : Stream), s.maintenance = false → s.delimsValid = true →
      Balanced s.link (s.calcTotal env unit).total.inc := by
  intro h
  have hd := oilLine_delimsValid .turbine 1
  have hb := (h ⟨⟨fun _ => 5, 5⟩, 0⟩ ⟨0, 0⟩ (oilLine .turbine 1) rfl hd).volume15
  have hinc : ((oilLine .turbine 1).calcTotal ⟨⟨fun _ => 5, 5⟩, 0⟩ ⟨0, 0⟩).total.inc.qty
      = (oilLine .turbine 1).volumeInc 100 := by
    rw [← oilLine_count .turbine 1]
    exact calcInc_qty_volume rfl hd (by decide)
  have hcount : (100 : UInt32).toNat = 100 := rfl
  rw [hinc] at hb
  norm_num [volumeInc, oilLine, hcount] at hb

/-! ### What a cycle leaves in the outputs -/

/-- The guard in front of the flow rates. -/
def flowValid (s : Stream) : Bool :=
  isValidDelim s.curKF && (s.flowmeter != .coriolis || isValidDelim s.link.dens)

/-- The flow rate that the meter measures. -/
def rate (s : Stream) : LREAL := s.link.freq / s.curKF * 3600 * s.curFactor.keypadMF

/-- The flow rates of a Coriolis meter. -/
def massFlow (s : Stream) : Channel → LREAL
  | .mass => s.rate
  | .volume => s.rate / s.link.dens * 1000 * s.curFactor.keypadMF
  | .volume15 => s.rate / s.link.dens15 * 1000 * s.curFactor.keypadMF
  | .volume20 => s.rate / s.link.dens20 * 1000 * s.curFactor.keypadMF

/-- The flow rates of the other meters. -/
def volumeFlow (s : Stream) : Channel → LREAL
  | .mass => s.rate * s.link.dens / 1000 * s.curFactor.keypadMF
  | .volume => s.rate
  | .volume15 => s.rate * s.link.dens / s.link.dens15 / 1000
  | .volume20 => s.rate * s.link.dens / s.link.dens20 / 1000

section Cycle

variable {s : Stream}

lemma isValidDelim_curKF (h : s.flowValid = true) : isValidDelim s.curKF = true := by
  rw [flowValid, Bool.and_eq_true] at h
  exact h.1

lemma isValidDelim_dens (h : s.flowValid = true) (hf : s.flowmeter = .coriolis) :
    isValidDelim s.link.dens = true := by
  rw [flowValid, hf, Bool.and_eq_true] at h
  simpa using h.2

lemma calcFlow_of_invalid (h : s.flowValid = false) : s.calcFlow = s.flow := by
  cases hf : s.flowmeter <;> cases hk : isValidDelim s.curKF <;>
    simp_all [calcFlow, flowValid]

lemma calcFlow_coriolis (h : s.flowValid = true) (hf : s.flowmeter = .coriolis) :
    s.calcFlow = s.massFlow := by
  have hg : (isValidDelim s.curKF && isValidDelim s.link.dens) = true := by
    rw [isValidDelim_curKF h, isValidDelim_dens h hf, Bool.and_self]
  funext ch
  simp only [calcFlow, hf, hg, if_true]
  cases ch <;> rfl

lemma calcFlow_volume (h : s.flowValid = true) (hf : s.flowmeter ≠ .coriolis) :
    s.calcFlow = s.volumeFlow := by
  have hg := isValidDelim_curKF h
  funext ch
  cases hfm : s.flowmeter with
  | coriolis => exact absurd hfm hf
  | turbine =>
      simp only [calcFlow, hfm, hg, if_true]
      cases ch <;> rfl
  | ultrasonic =>
      simp only [calcFlow, hfm, hg, if_true]
      cases ch <;> rfl

variable (env : Env) (unit : ObjUnit)

lemma calculate_eq (hc : s.isCalc = false) :
    s.calculate env unit
      = { s.prepare.calcTotal env unit with isCalc := true, flow := s.prepare.calcFlow } := by
  rw [calculate, if_neg (by simp [hc]), prepare_isCalc]
  rfl

lemma calculate_flow (hc : s.isCalc = false) :
    (s.calculate env unit).flow = s.prepare.calcFlow := by
  rw [calculate_eq env unit hc]

lemma calculate_inc (hc : s.isCalc = false) :
    (s.calculate env unit).total.inc = s.increment := by
  rw [calculate_eq env unit hc]
  rfl

@[simp] lemma prepare_flowmeter : s.prepare.flowmeter = s.flowmeter := by
  simp only [prepare, commands]; split_ifs <;> rfl

@[simp] lemma prepare_flow : s.prepare.flow = s.flow := by
  simp only [prepare, commands]; split_ifs <;> rfl

end Cycle

/-! ### The flow rates against the increments -/

/-- The quantity that a meter measures. -/
def measured : FlowMeter → Channel
  | .coriolis => .mass
  | _ => .volume

/-- The flow rates stand in the ratios of the increments. -/
def Proportional (flow : Channel → LREAL) (inc : BaseTotal) : Prop :=
  ∀ ch, flow ch * inc.qty .mass = flow .mass * inc.qty ch

/-- The flow rates of a cycle agree with its increments and with the frequency of the meter. -/
structure Agrees (s : Stream) : Prop where
  proportional : Proportional s.flow s.total.inc
  metered : s.flow (measured s.flowmeter) = s.rate

section Agreement

variable {s : Stream}

/-- The meter factor is twice in the volume rates of a Coriolis meter. -/
lemma proportional_massFlow_iff (hd : s.delimsValid = true) (hr : s.rate ≠ 0) {inc : BaseTotal}
    {count : UInt32} (hinc : inc.qty = s.massInc count) (hm : s.massInc count .mass ≠ 0) :
    Proportional s.massFlow inc ↔ s.curFactor.keypadMF = 1 := by
  obtain ⟨-, hdens, -, -⟩ := ne_zero_of_delimsValid hd
  rw [Proportional, hinc]
  constructor
  · intro h
    set x := s.rate * s.massInc count .mass / s.link.dens * 1000 with hx
    have hne : x ≠ 0 := mul_ne_zero (div_ne_zero (mul_ne_zero hr hm) hdens) (by norm_num)
    have hmf : x * s.curFactor.keypadMF = x := calc
      x * s.curFactor.keypadMF = s.massFlow .volume * s.massInc count .mass := by
        rw [hx, massFlow]; ring
      _ = s.massFlow .mass * s.massInc count .volume := h .volume
      _ = x := by simp only [hx, massFlow, massInc]; ring
    exact (mul_eq_left₀ hne).mp hmf
  · intro hmf ch
    cases ch <;> simp only [massFlow, massInc, hmf] <;> ring

/-- It is twice in the mass rate of the other meters. -/
lemma proportional_volumeFlow_iff (hd : s.delimsValid = true) (hr : s.rate ≠ 0) {inc : BaseTotal}
    {count : UInt32} (hinc : inc.qty = s.volumeInc count) (hv : s.volumeInc count .volume ≠ 0) :
    Proportional s.volumeFlow inc ↔ s.curFactor.keypadMF = 1 := by
  obtain ⟨-, hdens, -, -⟩ := ne_zero_of_delimsValid hd
  rw [Proportional, hinc]
  constructor
  · intro h
    set x := s.rate * s.volumeInc count .volume * s.link.dens / 1000 with hx
    have hne : x ≠ 0 := div_ne_zero (mul_ne_zero (mul_ne_zero hr hv) hdens) (by norm_num)
    have hmf : x * s.curFactor.keypadMF = x := calc
      x * s.curFactor.keypadMF = s.volumeFlow .mass * s.volumeInc count .volume := by
        rw [hx, volumeFlow]; ring
      _ = s.volumeFlow .volume * s.volumeInc count .mass := (h .volume).symm
      _ = x := by simp only [hx, volumeFlow, volumeInc]; ring
    exact (mul_eq_left₀ hne).mp hmf
  · intro hmf ch
    cases ch <;> simp only [volumeFlow, volumeInc, hmf] <;> ring

lemma proportional_of_zero {flow : Channel → LREAL} {inc : BaseTotal}
    (h : ∀ ch, inc.qty ch = 0) : Proportional flow inc := fun ch => by simp [h]

/-- The checks of `calcTotal` are those in front of the flow rates, and two more. -/
lemma flowValid_of_delimsValid (h : s.delimsValid = true) : s.flowValid = true := by
  simp only [delimsValid, Bool.and_eq_true] at h
  simp [flowValid, h.1.1.1, h.1.1.2]

/-- The ratios of a cycle that has the K-factor: those of the increments if and only if the meter
factor is one or there are no increments. -/
lemma proportional_calcFlow_iff (hr : s.rate ≠ 0) (hmf : s.curFactor.keypadMF ≠ 0) :
    Proportional s.calcFlow s.calcInc.inc ↔
      s.curFactor.keypadMF = 1 ∨ s.maintenance = true ∨ s.delimsValid = false ∨
        toUDINT s.link.counter = 0 := by
  by_cases hzero : s.maintenance = true ∨ s.delimsValid = false
  · refine iff_of_true (proportional_of_zero (calcInc_qty_of_invalid hzero)) (.inr ?_)
    rw [← or_assoc]
    exact .inl hzero
  · obtain ⟨hm, hd⟩ := not_or.mp hzero
    rw [or_iff_right hm, or_iff_right hd]
    rw [Bool.not_eq_true] at hm
    rw [Bool.not_eq_false] at hd
    have hkf := (ne_zero_of_delimsValid hd).1
    by_cases hcount : toUDINT s.link.counter = 0
    · refine iff_of_true (proportional_of_zero fun ch => ?_) (.inr hcount)
      by_cases hf : s.flowmeter = .coriolis
      · rw [calcInc_qty_coriolis hm hd hf, hcount]
        cases ch <;> simp [massInc]
      · rw [calcInc_qty_volume hm hd hf, hcount]
        cases ch <;> simp [volumeInc]
    · have hpos : ((toUDINT s.link.counter).toNat : LREAL) ≠ 0 := by
        rw [Nat.cast_ne_zero]
        exact fun h => hcount (UInt32.toNat_inj.mp h)
      have hne := mul_ne_zero (div_ne_zero hpos hkf) hmf
      rw [or_iff_left hcount]
      by_cases hf : s.flowmeter = .coriolis
      · rw [calcFlow_coriolis (flowValid_of_delimsValid hd) hf]
        exact proportional_massFlow_iff hd hr (calcInc_qty_coriolis hm hd hf) hne
      · rw [calcFlow_volume (flowValid_of_delimsValid hd) hf]
        exact proportional_volumeFlow_iff hd hr (calcInc_qty_volume hm hd hf) hne

/-- The rate that the meter measures, when its guard is passed. -/
lemma calcFlow_measured (h : s.flowValid = true) : s.calcFlow (measured s.flowmeter) = s.rate := by
  by_cases hf : s.flowmeter = .coriolis
  · rw [calcFlow_coriolis h hf, hf]
    rfl
  · rw [calcFlow_volume h hf]
    cases hfm : s.flowmeter with
    | coriolis => exact absurd hfm hf
    | turbine => rfl
    | ultrasonic => rfl

end Agreement

/-- In a cycle with positive frequency, factors and densities the flow rates agree with the totals
if and only if the meter factor is one or nothing is added to the totals, and the divisors are large
enough for the rates to be calculated (or the measured rate of before is the present one). -/
theorem agrees_iff (env : Env) (unit : ObjUnit) {s : Stream} (hc : s.isCalc = false)
    (hfreq : 0 < s.link.freq) (hkf : 0 < s.prepare.curKF)
    (hmf : 0 < s.prepare.curFactor.keypadMF) :
    Agrees (s.calculate env unit) ↔
      (s.prepare.curFactor.keypadMF = 1 ∨ s.maintenance = true ∨ s.prepare.delimsValid = false ∨
          toUDINT s.link.counter = 0) ∧
        (s.prepare.flowValid = true ∨
          s.flow (measured s.flowmeter)
            = s.link.freq / s.prepare.curKF * 3600 * s.prepare.curFactor.keypadMF) := by
  have hrate : s.prepare.rate
      = s.link.freq / s.prepare.curKF * 3600 * s.prepare.curFactor.keypadMF := by
    rw [rate, prepare_link]
  have hr : s.prepare.rate ≠ 0 := by
    rw [hrate]
    positivity
  have hprop : Proportional s.prepare.calcFlow s.prepare.calcInc.inc ↔ _ :=
    proportional_calcFlow_iff hr hmf.ne'
  have hmeas : s.prepare.calcFlow (measured s.flowmeter) = s.prepare.rate ↔
      s.prepare.flowValid = true ∨ s.flow (measured s.flowmeter) = s.prepare.rate := by
    cases hv : s.prepare.flowValid with
    | false => rw [calcFlow_of_invalid hv, prepare_flow]; simp
    | true =>
        have h := calcFlow_measured hv
        rw [prepare_flowmeter] at h
        exact iff_of_true h (.inl rfl)
  have hiff : Agrees (s.calculate env unit) ↔
      Proportional s.prepare.calcFlow s.prepare.calcInc.inc ∧
        s.prepare.calcFlow (measured s.flowmeter) = s.prepare.rate := by
    rw [calculate_eq env unit hc]
    have hmeter : (s.prepare.calcTotal env unit).flowmeter = s.flowmeter := prepare_flowmeter
    exact ⟨fun h => ⟨h.proportional, by rw [← hmeter]; exact h.metered⟩,
      fun h => ⟨h.1, by simp only [hmeter]; exact h.2⟩⟩
  rw [hiff, hprop, hmeas, hrate, prepare_maintenance, prepare_link]

lemma oilLine_prepare (flowmeter : FlowMeter) (mf : LREAL) :
    (oilLine flowmeter mf).prepare = oilLine flowmeter mf := by
  have hfreq : ¬ (100 : LREAL) ≤ 0 := by norm_num
  simp only [prepare, commands, oilLine, calcualateKF, Bool.false_eq_true, if_false, hfreq,
    Bool.not_false, if_true]

/-- With the factor one the rates of a Coriolis meter agree with its totals. -/
theorem agrees_iff_oil :
    Agrees ((oilLine .coriolis 1).calculate ⟨⟨fun _ => 5, 5⟩, 0⟩ ⟨0, 0⟩) := by
  have hp := oilLine_prepare .coriolis 1
  refine (agrees_iff ⟨⟨fun _ => 5, 5⟩, 0⟩ ⟨0, 0⟩ rfl (by norm_num [oilLine])
    (by rw [hp]; norm_num [oilLine]) (by rw [hp]; norm_num [oilLine])).mpr ?_
  rw [hp]
  exact ⟨.inl rfl, .inl (flowValid_of_delimsValid (oilLine_delimsValid _ _))⟩

/-- With the factor two the mass rate of a turbine is twice the one of its totals. -/
theorem agrees_fails :
    ¬ ∀ (env : Env) (unit : ObjUnit) (s : Stream), s.isCalc = false → 0 < s.link.freq →
      0 < s.prepare.curKF → 0 < s.prepare.curFactor.keypadMF → 0 < s.link.dens →
      0 < s.link.dens15 → 0 < s.link.dens20 → Agrees (s.calculate env unit) := by
  intro h
  have hp := oilLine_prepare .turbine 2
  have ha := h ⟨⟨fun _ => 5, 5⟩, 0⟩ ⟨0, 0⟩ (oilLine .turbine 2) rfl (by norm_num [oilLine])
    (by rw [hp]; norm_num [oilLine]) (by rw [hp]; norm_num [oilLine]) (by norm_num [oilLine])
    (by norm_num [oilLine]) (by norm_num [oilLine])
  have hprop := ha.proportional
  rw [calculate_flow _ _ rfl, calculate_inc _ _ rfl, increment, hp,
    proportional_calcFlow_iff (by norm_num [rate, oilLine]) (by norm_num [oilLine]),
    oilLine_count, oilLine_delimsValid] at hprop
  rcases hprop with h2 | hm | hd | hcount
  · norm_num [oilLine] at h2
  · exact absurd hm (by decide)
  · exact absurd hd (by decide)
  · exact absurd hcount (by decide)

end Stream

end Tritonn

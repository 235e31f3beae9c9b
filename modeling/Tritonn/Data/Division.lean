import Tritonn.Data.Balance
import Tritonn.Data.KFactor

/-!
The divisions of one cycle of a metering line.

Each function of `stream.cpp` stands here once more with the divisors that it divides by, in the
order of the source; `calculateDiv_val` says that the values are those of `Stream.calculate`.  The
rounding of the totals in `rTotal::calculate` is not part of `stream.cpp` and not logged.

* `all_calcIncDiv`: the divisions of `calcTotal` are all behind its checks;
* `all_calcFlowDiv_iff`: those of the flow rates are not, since the densities at the two reference
  temperatures are not checked there;
* `divides_iff`: a cycle divides by nothing that fails `isValidDelim` if and only if, should the
  flow rates be calculated, both of these densities are valid, and the points around the frequency
  are not closer than the precision.
-/

namespace Tritonn

namespace Stream

/-! ### The functions of the source with their divisors -/

/-- The increments of a Coriolis meter. -/
def massIncDiv (s : Stream) (count : UInt32) : Logged LREAL (Channel → LREAL) := do
  let pulses ← Logged.div (count.toNat : LREAL) s.curKF
  let mass := pulses * s.curFactor.keypadMF
  let volume ← Logged.div mass s.link.dens
  let volume15 ← Logged.div mass s.link.dens15
  let volume20 ← Logged.div mass s.link.dens20
  pure fun
    | .mass => mass
    | .volume => volume * 1000
    | .volume15 => volume15 * 1000
    | .volume20 => volume20 * 1000

/-- The increments of the other meters. -/
def volumeIncDiv (s : Stream) (count : UInt32) : Logged LREAL (Channel → LREAL) := do
  let pulses ← Logged.div (count.toNat : LREAL) s.curKF
  let volume := pulses * s.curFactor.keypadMF
  let mass ← Logged.div (volume * s.link.dens) 1000
  let reduced15 ← Logged.div (volume * s.link.dens) s.link.dens15
  let volume15 ← Logged.div reduced15 1000
  let reduced20 ← Logged.div (volume * s.link.dens) s.link.dens20
  let volume20 ← Logged.div reduced20 1000
  pure fun
    | .mass => mass
    | .volume => volume
    | .volume15 => volume15
    | .volume20 => volume20

/-- `rStream::calcTotal` up to the call of `rTotal::calculate`. -/
def calcIncDiv (s : Stream) : Logged LREAL Total :=
  if s.maintenance then pure (s.total.setInc 0)
  else
    let t := s.total.setInc (toUDINT s.link.counter)
    if s.delimsValid then do
      let qty ← match s.flowmeter with
        | .coriolis => s.massIncDiv t.inc.count
        | _ => s.volumeIncDiv t.inc.count
      pure { t with inc := { t.inc with qty := qty } }
    else pure t

/-- The flow rates of a Coriolis meter. -/
def massFlowDiv (s : Stream) : Logged LREAL (Channel → LREAL) := do
  let freq ← Logged.div s.link.freq s.curKF
  let mass := freq * 3600 * s.curFactor.keypadMF
  let volume ← Logged.div mass s.link.dens
  let volume15 ← Logged.div mass s.link.dens15
  let volume20 ← Logged.div mass s.link.dens20
  pure fun
    | .mass => mass
    | .volume => volume * 1000 * s.curFactor.keypadMF
    | .volume15 => volume15 * 1000 * s.curFactor.keypadMF
    | .volume20 => volume20 * 1000 * s.curFactor.keypadMF

/-- The flow rates of the other meters. -/
def volumeFlowDiv (s : Stream) : Logged LREAL (Channel → LREAL) := do
  let freq ← Logged.div s.link.freq s.curKF
  let volume := freq * 3600 * s.curFactor.keypadMF
  let reduced15 ← Logged.div (volume * s.link.dens) s.link.dens15
  let volume15 ← Logged.div reduced15 1000
  let reduced20 ← Logged.div (volume * s.link.dens) s.link.dens20
  let volume20 ← Logged.div reduced20 1000
  let mass ← Logged.div (volume * s.link.dens) 1000
  pure fun
    | .mass => mass * s.curFactor.keypadMF
    | .volume => volume
    | .volume15 => volume15
    | .volume20 => volume20

/-- The flow rates at the end of `rStream::calculate`. -/
def calcFlowDiv (s : Stream) : Logged LREAL (Channel → LREAL) :=
  match s.flowmeter with
  | .coriolis =>
      if isValidDelim s.curKF && isValidDelim s.link.dens then s.massFlowDiv else pure s.flow
  | _ => if isValidDelim s.curKF then s.volumeFlowDiv else pure s.flow

/-- `rStream::calculate`. -/
def calculateDiv (env : Env) (unit : ObjUnit) (s : Stream) : Logged LREAL Stream :=
  if s.isCalc then pure s
  else do
    let s₁ := { s with isCalc := true }.commands
    let kf ← s₁.calcualateKFDiv
    let s₂ := { s₁ with curKF := kf }
    let total ← s₂.calcIncDiv
    let s₃ := { s₂ with total := (total.calculate env unit).1 }
    let flow ← s₃.calcFlowDiv
    pure { s₃ with flow := flow }

/-! ### The values -/

section Values

variable (s : Stream)

lemma massIncDiv_val (count : UInt32) : (s.massIncDiv count).val = s.massInc count := by
  funext ch
  cases ch <;> rfl

lemma volumeIncDiv_val (count : UInt32) : (s.volumeIncDiv count).val = s.volumeInc count := by
  funext ch
  cases ch <;> rfl

lemma massFlowDiv_val : s.massFlowDiv.val = s.massFlow := by
  funext ch
  cases ch <;> rfl

lemma volumeFlowDiv_val : s.volumeFlowDiv.val = s.volumeFlow := by
  funext ch
  cases ch <;> rfl

lemma calcIncDiv_val : s.calcIncDiv.val = s.calcInc := by
  rw [calcIncDiv, calcInc]
  split_ifs
  · rfl
  · cases s.flowmeter with
    | coriolis => simp only [Logged.val_bind, Logged.val_pure, massIncDiv_val]
    | turbine => simp only [Logged.val_bind, Logged.val_pure, volumeIncDiv_val]
    | ultrasonic => simp only [Logged.val_bind, Logged.val_pure, volumeIncDiv_val]
  · rfl

variable {s}

lemma calcFlowDiv_of_invalid (h : s.flowValid = false) : s.calcFlowDiv = pure s.flow := by
  cases hf : s.flowmeter <;> cases hk : isValidDelim s.curKF <;>
    simp_all [calcFlowDiv, flowValid]

lemma calcFlowDiv_coriolis (h : s.flowValid = true) (hf : s.flowmeter = .coriolis) :
    s.calcFlowDiv = s.massFlowDiv := by
  have hg : (isValidDelim s.curKF && isValidDelim s.link.dens) = true := by
    rw [isValidDelim_curKF h, isValidDelim_dens h hf, Bool.and_self]
  simp only [calcFlowDiv, hf, hg, if_true]

lemma calcFlowDiv_volume (h : s.flowValid = true) (hf : s.flowmeter ≠ .coriolis) :
    s.calcFlowDiv = s.volumeFlowDiv := by
  have hg := isValidDelim_curKF h
  cases hfm : s.flowmeter with
  | coriolis => exact absurd hfm hf
  | turbine => simp only [calcFlowDiv, hfm, hg, if_true]
  | ultrasonic => simp only [calcFlowDiv, hfm, hg, if_true]

variable (s)

lemma calcFlowDiv_val : s.calcFlowDiv.val = s.calcFlow := by
  cases hv : s.flowValid with
  | false =>
      rw [calcFlow_of_invalid hv, calcFlowDiv_of_invalid hv]
      rfl
  | true =>
      by_cases hf : s.flowmeter = .coriolis
      · rw [calcFlow_coriolis hv hf, calcFlowDiv_coriolis hv hf, massFlowDiv_val]
      · rw [calcFlow_volume hv hf, calcFlowDiv_volume hv hf, volumeFlowDiv_val]

variable (env : Env) (unit : ObjUnit)

/-- With the divisors left out this is the cycle of the model. -/
lemma calculateDiv_val : (s.calculateDiv env unit).val = s.calculate env unit := by
  rw [calculateDiv, calculate]
  split_ifs
  · rfl
  · simp only [Logged.val_bind, Logged.val_pure, calcualateKFDiv_val, calcIncDiv_val,
      calcFlowDiv_val]
    rfl

end Values

/-! ### The divisors -/

/-- Every division of the computation is one by a valid value. -/
def ValidDivs {α : Type} (x : Logged LREAL α) : Prop := x.All fun d => isValidDelim d = true

lemma isValidDelim_thousand : isValidDelim 1000 = true := isValidDelim_of_le (by norm_num)

section Divisors

variable {s : Stream}

/-- `calcTotal` checks each of its divisors. -/
lemma all_calcIncDiv (s : Stream) : ValidDivs s.calcIncDiv := by
  rw [ValidDivs, calcIncDiv]
  split_ifs with hm hd
  · exact Logged.all_pure _
  · have h := hd
    simp only [delimsValid, Bool.and_eq_true] at h
    obtain ⟨⟨⟨hkf, hdens⟩, h15⟩, h20⟩ := h
    cases s.flowmeter <;>
      simp [massIncDiv, volumeIncDiv, hkf, hdens, h15, h20, isValidDelim_thousand]
  · exact Logged.all_pure _

/-- In front of the flow rates two divisors are not checked. -/
lemma all_calcFlowDiv_iff :
    ValidDivs s.calcFlowDiv ↔
      (s.flowValid = true →
        isValidDelim s.link.dens15 = true ∧ isValidDelim s.link.dens20 = true) := by
  cases hv : s.flowValid with
  | false =>
      rw [calcFlowDiv_of_invalid hv]
      exact iff_of_true (Logged.all_pure _) fun h => absurd h (by decide)
  | true =>
      have hkf := isValidDelim_curKF hv
      by_cases hf : s.flowmeter = .coriolis
      · have hdens := isValidDelim_dens hv hf
        rw [calcFlowDiv_coriolis hv hf]
        simp [ValidDivs, massFlowDiv, hkf, hdens]
      · rw [calcFlowDiv_volume hv hf]
        simp [ValidDivs, volumeFlowDiv, hkf, isValidDelim_thousand]

/-- The divisions of the K-factor, of the totals and of the flow rates. -/
lemma all_calculateDiv_iff (env : Env) (unit : ObjUnit) (hc : s.isCalc = false) :
    ValidDivs (s.calculateDiv env unit) ↔
      ValidDivs s.commands.calcualateKFDiv ∧ ValidDivs s.prepare.calcFlowDiv := by
  have hcommands : { s with isCalc := true }.commands = { s.commands with isCalc := true } := by
    cases ha : s.acceptKF <;> cases hr : s.resetTotals <;> simp [commands, ha, hr]
  rw [ValidDivs, calculateDiv, if_neg (by simp [hc]), hcommands]
  simp only [Logged.all_bind, Logged.all_pure, and_true, calcualateKFDiv_val]
  refine and_congr Iff.rfl ⟨fun h => h.2, fun h => ⟨all_calcIncDiv _, h⟩⟩

end Divisors

/-- A cycle divides only by valid values if and only if it does not calculate flow rates with an
invalid density at a reference temperature, nor interpolate between points that are closer than the
precision. -/
theorem divides_iff (env : Env) (unit : ObjUnit) (s : Stream) :
    (s.calculateDiv env unit).All (fun d => isValidDelim d = true) ↔
      s.isCalc = true ∨
        (0 < s.link.freq → s.linearization = true →
          ∀ i, s.prepare.curFactor.Brackets s.link.freq i →
            isValidDelim ((s.prepare.curFactor.point i.succ).hz
              - (s.prepare.curFactor.point i.castSucc).hz) = true) ∧
        (s.prepare.flowValid = true →
          isValidDelim s.link.dens15 = true ∧ isValidDelim s.link.dens20 = true) := by
  cases hc : s.isCalc with
  | true =>
      rw [calculateDiv, if_pos hc]
      exact iff_of_true (Logged.all_pure _) (.inl rfl)
  | false =>
      have hkf : ValidDivs s.commands.calcualateKFDiv ↔
          (0 < s.link.freq → s.linearization = true →
            ∀ i, s.prepare.curFactor.Brackets s.link.freq i →
              isValidDelim ((s.prepare.curFactor.point i.succ).hz
                - (s.prepare.curFactor.point i.castSucc).hz) = true) := by
        simp only [ValidDivs, Logged.All, mem_calcualateKFDiv_log, commands_link,
          commands_linearization]
        constructor
        · intro h hfreq hl i hi
          exact h _ ⟨hfreq, hl, i, hi, rfl⟩
        · rintro h d ⟨hfreq, hl, i, hi, rfl⟩
          exact h hfreq hl i hi
      have hflow := all_calcFlowDiv_iff (s := s.prepare)
      rw [prepare_link] at hflow
      rw [or_iff_right (by decide), ← hkf, ← hflow]
      exact all_calculateDiv_iff env unit hc

/-- A turbine without a density at the reference temperatures divides by zero. -/
theorem divides_fails :
    ¬ ∀ (env : Env) (unit : ObjUnit) (s : Stream),
      (s.calculateDiv env unit).All fun d => isValidDelim d = true := by
  intro h
  have hall := h ⟨⟨fun _ => 5, 5⟩, 0⟩ ⟨0, 0⟩
    { oilLine .turbine 1 with link := ⟨100, 100, 20, 1, 850, 0, 0⟩ }
  have hflow := all_calcFlowDiv_iff.mp ((all_calculateDiv_iff _ _ rfl).mp hall).2
  have h1 : isValidDelim 1 = true := isValidDelim_of_le le_rfl
  have hfreq : ¬ (100 : LREAL) ≤ 0 := by norm_num
  have h15 := (hflow (by
    simp [flowValid, prepare, commands, oilLine, calcualateKF, h1, hfreq])).1
  exact ne_zero_of_isValidDelim h15 rfl

end Stream

end Tritonn

import Tritonn.Data.Balance
import Tritonn.Data.Station
import Tritonn.Lib.Run

/-!
The flow rates of a metering line that does not flow.

The rates are written only when the guard of `Stream.flowValid` is passed.  Without a frequency the
K-factor is zero and the guard fails, so that the outputs keep the rates of the last cycle that
wrote them.  These may be no numbers, when a reference density was zero.

* `RatedStation` is a station with the flow rates of its lines and its own as `LREAL` has them;
* `calcRates_eq` says that they are those of `Stream.calcFlow` when no reference density is zero;
* `rates_of_stopped`: a cycle without a positive frequency leaves the rates as they were;
* `rates_eq_zero_iff`: after a run the rates are zero if and only if the last cycle that wrote them
  had the meter factor zero and no reference density zero, or none did and they were zero at the
  start (`Silent`);
* `noStale_iff`: in every scan of a run the rates of the stopped lines are zero and the station sums
  up lines that flow, if and only if every stopped line is silent by then.
-/

namespace Tritonn

namespace Stream

/-- `rSource::preCalculate`, the inputs of a scan and `rStream::calculate`. -/
def cycle (env : Env) (unit : ObjUnit) (s : Stream) (inp : StreamInput) : Stream :=
  (s.load inp).calculate env unit

/-- What a cycle divides and multiplies by: the state after its commands and its K-factor. -/
def prepared (s : Stream) (inp : StreamInput) : Stream := (s.load inp).prepare

/-- What a cycle writes is zero: its meter factor is, and it divides by no density that is. -/
def Zeroing (s : Stream) : Prop :=
  s.curFactor.keypadMF = 0 ∧ s.link.dens15 ≠ 0 ∧ s.link.dens20 ≠ 0

/-- The cycles of a run that write the flow rates, in their order. -/
def writers (env : Env) (unit : ObjUnit) (s : Stream) (l : List StreamInput) : List Stream :=
  Run.outputs (cycle env unit)
    (fun s inp => if (s.prepared inp).flowValid then [s.prepared inp] else []) s l

/-- The last cycle of a run that wrote the flow rates wrote zeros, or there was none and they were
zero at the start. -/
def Silent (env : Env) (unit : ObjUnit) (s : Stream) (rates : Channel → Extended LREAL)
    (l : List StreamInput) : Prop :=
  match (writers env unit s l).getLast? with
  | some writer => writer.Zeroing
  | none => ∀ ch, rates ch = 0

/-! ### One cycle -/

section Cycle

variable {s : Stream} {rates : Channel → Extended LREAL}

/-- Without a positive frequency there is no K-factor. -/
lemma prepare_curKF_of_stopped (h : s.link.freq ≤ 0) : s.prepare.curKF = 0 := by
  have hfreq : s.commands.link.freq ≤ 0 := by
    rw [commands_link]
    exact h
  simp only [prepare, calcualateKF, if_pos hfreq]

lemma flowValid_of_stopped (h : s.link.freq ≤ 0) : s.prepare.flowValid = false := by
  have hkf := prepare_curKF_of_stopped h
  have h0 : isValidDelim 0 = false := by norm_num [isValidDelim, compareLrealPrec]
  rw [flowValid, hkf, h0, Bool.false_and]

lemma freq_pos_of_flowValid (h : s.prepare.flowValid = true) : 0 < s.link.freq := by
  by_contra hfreq
  rw [flowValid_of_stopped (not_lt.mp hfreq)] at h
  exact absurd h (by decide)

lemma calcRates_of_invalid (h : s.flowValid = false) : s.calcRates rates = rates := by
  cases hf : s.flowmeter <;> cases hk : isValidDelim s.curKF <;>
    simp_all [calcRates, flowValid]

/-- A cycle without a positive frequency leaves the flow rates as they were. -/
lemma rates_of_stopped (h : s.link.freq ≤ 0) : s.prepare.calcRates rates = rates :=
  calcRates_of_invalid (flowValid_of_stopped h)

variable (rates) in
/-- The flow rates of a cycle that writes them, from the rate that the meter measures. -/
lemma calcRates_coriolis (h : s.flowValid = true) (hf : s.flowmeter = .coriolis) :
    s.calcRates rates = fun
      | .mass => .fin s.rate
      | .volume => .fin s.rate / .fin s.link.dens * .fin 1000 * .fin s.curFactor.keypadMF
      | .volume15 => .fin s.rate / .fin s.link.dens15 * .fin 1000 * .fin s.curFactor.keypadMF
      | .volume20 => .fin s.rate / .fin s.link.dens20 * .fin 1000 * .fin s.curFactor.keypadMF := by
  have hg : (isValidDelim s.curKF && isValidDelim s.link.dens) = true := by
    rw [isValidDelim_curKF h, isValidDelim_dens h hf, Bool.and_self]
  have hkf : s.curKF ≠ 0 := ne_zero_of_isValidDelim (isValidDelim_curKF h)
  simp only [calcRates, hf, hg, if_true, Extended.fin_div_fin hkf, Extended.fin_mul_fin]
  rfl

variable (rates) in
lemma calcRates_volume (h : s.flowValid = true) (hf : s.flowmeter ≠ .coriolis) :
    s.calcRates rates = fun
      | .mass => .fin s.rate * .fin s.link.dens / .fin 1000 * .fin s.curFactor.keypadMF
      | .volume => .fin s.rate
      | .volume15 => .fin s.rate * .fin s.link.dens / .fin s.link.dens15 / .fin 1000
      | .volume20 => .fin s.rate * .fin s.link.dens / .fin s.link.dens20 / .fin 1000 := by
  have hg := isValidDelim_curKF h
  have hkf : s.curKF ≠ 0 := ne_zero_of_isValidDelim hg
  cases hfm : s.flowmeter with
  | coriolis => exact absurd hfm hf
  | turbine =>
      simp only [calcRates, hfm, hg, if_true, Extended.fin_div_fin hkf, Extended.fin_mul_fin]
      rfl
  | ultrasonic =>
      simp only [calcRates, hfm, hg, if_true, Extended.fin_div_fin hkf, Extended.fin_mul_fin]
      rfl

/-- With reference densities that are not zero the flow rates are those of `calcFlow`. -/
lemma calcRates_eq (h : s.flowValid = true) (h15 : s.link.dens15 ≠ 0) (h20 : s.link.dens20 ≠ 0)
    (ch : Channel) : s.calcRates rates ch = .fin (s.calcFlow ch) := by
  by_cases hf : s.flowmeter = .coriolis
  · have hdens : s.link.dens ≠ 0 := ne_zero_of_isValidDelim (isValidDelim_dens h hf)
    rw [calcRates_coriolis rates h hf, calcFlow_coriolis h hf]
    cases ch <;> simp only [massFlow, Extended.fin_div_fin hdens, Extended.fin_div_fin h15,
      Extended.fin_div_fin h20, Extended.fin_mul_fin]
  · have hthousand : (1000 : LREAL) ≠ 0 := by norm_num
    rw [calcRates_volume rates h hf, calcFlow_volume h hf]
    cases ch <;> simp only [volumeFlow, Extended.fin_div_fin h15, Extended.fin_div_fin h20,
      Extended.fin_div_fin hthousand, Extended.fin_mul_fin]

variable (rates) in
lemma calcRates_measured (h : s.flowValid = true) :
    s.calcRates rates (measured s.flowmeter) = .fin s.rate := by
  by_cases hf : s.flowmeter = .coriolis
  · rw [calcRates_coriolis rates h hf, hf]
    rfl
  · rw [calcRates_volume rates h hf]
    cases hfm : s.flowmeter with
    | coriolis => exact absurd hfm hf
    | turbine => rfl
    | ultrasonic => rfl

variable (rates) in
/-- With the meter factor zero a rate that is divided by zero is no number. -/
lemma calcRates_nan (h : s.flowValid = true) (hrate : s.rate = 0) :
    (s.link.dens15 = 0 → s.calcRates rates .volume15 = .nan) ∧
      (s.link.dens20 = 0 → s.calcRates rates .volume20 = .nan) := by
  by_cases hf : s.flowmeter = .coriolis
  · rw [calcRates_coriolis rates h hf, hrate]
    exact ⟨fun h15 => by simp [h15], fun h20 => by simp [h20]⟩
  · rw [calcRates_volume rates h hf, hrate]
    exact ⟨fun h15 => by simp [h15], fun h20 => by simp [h20]⟩

/-- The rates that a flowing line writes are zero by the meter factor only, and not divided by
zero. -/
lemma calcRates_eq_zero_iff (h : s.prepare.flowValid = true) :
    (∀ ch, s.prepare.calcRates rates ch = 0) ↔ s.prepare.Zeroing := by
  have hfreq : s.prepare.link.freq ≠ 0 := by
    rw [prepare_link]
    exact (freq_pos_of_flowValid h).ne'
  have hkf : s.prepare.curKF ≠ 0 := ne_zero_of_isValidDelim (isValidDelim_curKF h)
  constructor
  · intro h0
    have hrate : s.prepare.rate = 0 := by
      rw [← Extended.fin_eq_zero, ← calcRates_measured rates h]
      exact h0 _
    have hne : s.prepare.link.freq / s.prepare.curKF * 3600 ≠ 0 :=
      mul_ne_zero (div_ne_zero hfreq hkf) (by norm_num)
    obtain ⟨h15, h20⟩ := calcRates_nan rates h hrate
    refine ⟨(mul_eq_zero.mp hrate).resolve_left hne, fun hd => ?_, fun hd => ?_⟩
    · exact absurd ((h15 hd).symm.trans (h0 _)) nofun
    · exact absurd ((h20 hd).symm.trans (h0 _)) nofun
  · rintro ⟨hmf, h15, h20⟩ ch
    have hrate : s.prepare.rate = 0 := by rw [rate, hmf, mul_zero]
    rw [calcRates_eq h h15 h20, Extended.fin_eq_zero]
    by_cases hf : s.prepare.flowmeter = .coriolis
    · rw [calcFlow_coriolis h hf]
      cases ch <;> simp [massFlow, hrate]
    · rw [calcFlow_volume h hf]
      cases ch <;> simp [volumeFlow, hrate]

end Cycle

/-! ### Runs -/

section Runs

variable (env : Env) (unit : ObjUnit) (s : Stream) (rates : Channel → Extended LREAL)

/-- The flow rates after a run. -/
def ratesAfter : Stream → (Channel → Extended LREAL) → List StreamInput → Channel → Extended LREAL
  | _, rates, [] => rates
  | s, rates, inp :: l => ratesAfter (s.cycle env unit inp) ((s.prepared inp).calcRates rates) l

lemma ratesAfter_concat (l : List StreamInput) (inp : StreamInput) :
    ratesAfter env unit s rates (l ++ [inp])
      = ((l.foldl (cycle env unit) s).prepared inp).calcRates (ratesAfter env unit s rates l) := by
  induction l generalizing s rates with
  | nil => rfl
  | cons inp' l ih => exact ih (s.cycle env unit inp') _

lemma writers_concat (l : List StreamInput) (inp : StreamInput) :
    writers env unit s (l ++ [inp])
      = writers env unit s l ++
        if ((l.foldl (cycle env unit) s).prepared inp).flowValid then
          [(l.foldl (cycle env unit) s).prepared inp]
        else [] :=
  Run.outputs_concat s l inp

/-- After a run the flow rates are zero if and only if the last cycle that wrote them wrote
zeros. -/
lemma rates_eq_zero_iff (l : List StreamInput) :
    (∀ ch, ratesAfter env unit s rates l ch = 0) ↔ Silent env unit s rates l := by
  induction l using List.reverseRecOn with
  | nil => exact Iff.rfl
  | append_singleton l inp ih =>
      set t := l.foldl (cycle env unit) s with ht
      rw [ratesAfter_concat, Silent, writers_concat, ← ht]
      cases hv : (t.prepared inp).flowValid with
      | true =>
          rw [if_pos rfl, List.getLast?_concat]
          exact calcRates_eq_zero_iff hv
      | false =>
          rw [if_neg (by decide), List.append_nil, calcRates_of_invalid hv]
          exact ih

end Runs

end Stream

/-- A station, with the flow rates of its lines and its own as `LREAL` has them. -/
structure RatedStation (n : ℕ) where
  station : Station n
  rates : Fin n → Channel → Extended LREAL
  flow : Channel → Extended LREAL

namespace RatedStation

open Run (Along)

variable {n : ℕ} (env : Env) (units : UnitsTable)

/-- One scan of the data manager: the lines write their rates, and the station sums up those of the
lines in accounting. -/
def scan (s : RatedStation n) (inp : StationInput n) : RatedStation n :=
  let station := s.station.scan env units inp
  let rates := fun i => ((s.station.stream i).prepared (inp.stream i)).calcRates (s.rates i)
  { station, rates
    flow := fun ch => ((Station.inAccount station.stream).map fun i => rates i ch).sum }

/-- After a scan the lines that do not flow show no flow, and the station the sum of those in
accounting that do. -/
structure NoStale (s : RatedStation n) (inp : StationInput n) : Prop where
  stopped : ∀ i, (inp.stream i).link.freq ≤ 0 → ∀ ch, (s.scan env units inp).rates i ch = 0
  summed : ∀ ch, (s.scan env units inp).flow ch
    = ∑ i with (inp.stream i).maintenance = false ∧ 0 < (inp.stream i).link.freq,
        (s.scan env units inp).rates i ch

variable (s : RatedStation n) (inp : StationInput n)

lemma scan_flow (ch : Channel) :
    (s.scan env units inp).flow ch
      = ∑ i with (inp.stream i).maintenance = false, (s.scan env units inp).rates i ch := by
  have hsum : (s.scan env units inp).flow ch
      = ((Station.inAccount (s.station.scan env units inp).stream).map fun i =>
          (s.scan env units inp).rates i ch).sum := rfl
  have hnodup : (Station.inAccount (s.station.scan env units inp).stream).Nodup :=
    (List.nodup_finRange n).filter _
  rw [hsum, ← List.sum_toFinset _ hnodup, Station.inAccount, List.toFinset_filter,
    List.toFinset_finRange]
  refine Finset.sum_congr (Finset.filter_congr fun i _ => ?_) fun i _ => rfl
  rw [Bool.not_eq_true', Station.scan_stream, Stream.calculate_maintenance]
  exact Iff.rfl

variable {s inp}

/-- The sum over the lines that flow follows when the others show no flow. -/
lemma noStale_of_stopped
    (h : ∀ i, (inp.stream i).link.freq ≤ 0 → ∀ ch, (s.scan env units inp).rates i ch = 0) :
    NoStale env units s inp := by
  refine ⟨h, fun ch => ?_⟩
  rw [scan_flow, ← Finset.filter_filter]
  refine (Finset.sum_filter_of_ne fun i _ hne => ?_).symm
  by_contra hfreq
  exact hne (h i (not_lt.mp hfreq) ch)

/-- A scan shows no stale flow if and only if no line that stops had a flow before. -/
lemma noStale_step_iff :
    NoStale env units s inp ↔
      ∀ i, (inp.stream i).link.freq ≤ 0 → ∀ ch, s.rates i ch = 0 := by
  have hrates : ∀ i, (inp.stream i).link.freq ≤ 0 →
      (s.scan env units inp).rates i = s.rates i := fun i hi =>
    Stream.rates_of_stopped (s := (s.station.stream i).load (inp.stream i)) hi
  constructor
  · intro h i hi ch
    rw [← hrates i hi]
    exact h.stopped i hi ch
  · intro h
    refine noStale_of_stopped env units fun i hi ch => ?_
    rw [hrates i hi]
    exact h i hi ch

/-- In a run of scans every line writes its own rates. -/
lemma foldl_scan_rates (l : List (StationInput n)) (i : Fin n) :
    (l.foldl (scan env units) s).rates i
      = Stream.ratesAfter env s.station.unit (s.station.stream i) (s.rates i)
          (l.map (·.stream i)) := by
  induction l generalizing s with
  | nil => rfl
  | cons inp l ih =>
      rw [List.foldl_cons, ih]
      rfl

/-- In every scan of a run the lines that do not flow show no flow, and the station sums up lines
that flow, if and only if a line that does not flow had, whenever it last wrote its flow rates, the
meter factor zero and no reference density zero. -/
theorem noStale_iff (s : RatedStation n) (l : List (StationInput n)) :
    Along (scan env units) (NoStale env units) s l ↔
      ∀ pre inp, pre ++ [inp] <+: l → ∀ i, (inp.stream i).link.freq ≤ 0 →
        Stream.Silent env s.station.unit (s.station.stream i) (s.rates i)
          (pre.map (·.stream i)) := by
  rw [Run.along_iff_forall_prefix]
  refine forall_congr' fun pre => forall_congr' fun inp => forall_congr' fun _ => ?_
  rw [noStale_step_iff]
  refine forall_congr' fun i => forall_congr' fun _ => ?_
  rw [foldl_scan_rates, Stream.rates_eq_zero_iff]

/-- A station of one turbine at rest. -/
def oilStation : RatedStation 1 where
  station :=
    { isCalc := false
      isValid := fun _ => false
      value := fun _ => 0
      paramUnit := fun _ => 0
      flow := fun _ => 0
      stream := fun _ => Stream.oilLine .turbine 1
      total := ⟨.clear, .clear, .clear, .clear, fun _ => 0⟩
      unit := ⟨0, 0⟩
      resetTotals := false }
  rates := fun _ _ => 0
  flow := fun _ => 0

/-- A scan of it with the frequency given. -/
def oilScan (freq : LREAL) : StationInput 1 where
  value := fun _ => 0
  resetTotals := false
  stream := fun _ =>
    { link := ⟨100, freq, 20, 1, 850, 850, 850⟩, maintenance := false, linearization := false,
      resetTotals := false, acceptKF := false, setFactor := ⟨1, 1, fun _ => ⟨0, 0⟩⟩ }

lemma oilScan_rates :
    (oilStation.scan ⟨⟨fun _ => 5, 5⟩, 0⟩ (fun _ => ⟨none, none⟩) (oilScan 100)).rates 0 .volume
      = .fin 360000 := by
  have hv := Stream.flowValid_of_delimsValid (Stream.oilLine_delimsValid .turbine 1)
  have hp : (oilStation.station.stream 0).prepared ((oilScan 100).stream 0)
      = Stream.oilLine .turbine 1 := Stream.oilLine_prepare .turbine 1
  have hrate : (Stream.oilLine .turbine 1).rate = 360000 := by
    norm_num [Stream.rate, Stream.oilLine]
  rw [scan]
  dsimp only
  rw [hp, ← hrate]
  exact Stream.calcRates_measured _ hv

/-- A turbine at rest flows in one scan and stops in the next one, and its rate stays. -/
theorem noStale_fails :
    (∀ i ch, oilStation.rates i ch = 0) ∧
      ¬ Along (scan ⟨⟨fun _ => 5, 5⟩, 0⟩ fun _ => ⟨none, none⟩)
        (NoStale ⟨⟨fun _ => 5, 5⟩, 0⟩ fun _ => ⟨none, none⟩) oilStation
        [oilScan 100, oilScan 0] := by
  refine ⟨fun _ _ => rfl, fun h => ?_⟩
  have hstop := (noStale_step_iff _ _).mp h.2.1 0 le_rfl .volume
  rw [oilScan_rates, Extended.fin_eq_zero] at hstop
  norm_num at hstop

end RatedStation

end Tritonn

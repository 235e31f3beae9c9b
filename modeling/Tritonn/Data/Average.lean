import Tritonn.Data.Flow

/-!
The parameters of a station that are averaged over its metering lines.

* `calculate_value`: a parameter without a link is the centre of mass of the values of the streams
  in accounting, weighted by their mass flows;
* `calculate_value_of_perm`: only the streams in accounting count, in whatever order;
* `value_convex`: with mass flows that are not negative and do not vanish together the value lies
  between those of two streams in accounting, and these streams alone determine it.
-/

namespace Tritonn.Station

variable {n : ℕ} (env : Env) (units : UnitsTable) {s : Station n} {p : Param}

/-- The streams in accounting, in the order of the station. -/
def accounted (s : Station n) : List Stream := (inAccount s.stream).map s.stream

/-- The streams of a station after its calculation. -/
lemma calculate_stream (hc : s.isCalc = false) (i : Fin n) :
    (s.calculate env units).stream i = (s.stream i).calculate env s.unit := by
  rw [calculate, if_neg (by simp [hc])]

lemma inAccount_calculate (stream : Fin n → Stream) (unit : ObjUnit) :
    inAccount (fun i => (stream i).calculate env unit) = inAccount stream := by
  simp only [inAccount, Stream.calculate_maintenance]

/-- A sum over the streams in accounting, as one over the list of them. -/
lemma sumStream_calculate {M : Type} [Add M] [Zero M] (s : Station n) (f : Stream → M) :
    sumStream (fun i => (s.stream i).calculate env s.unit) f
      = (s.accounted.map fun str => f (str.calculate env s.unit)).sum := by
  rw [sumStream, inAccount_calculate, accounted, List.map_map]
  rfl

lemma calculate_value_eq (hc : s.isCalc = false) (hlink : s.isValid p = false) :
    (s.calculate env units).value p
      = meanParam units (s.paramUnit p) (fun i => (s.stream i).calculate env s.unit)
          (sumStream (fun i => (s.stream i).calculate env s.unit) (·.flow .mass)) p := by
  rw [calculate, if_neg (by simp [hc])]
  exact if_neg (by simp [hlink])

/-- Only the streams in accounting count, in whatever order. -/
lemma calculate_value_of_perm {m : ℕ} {t : Station m} (hc : s.isCalc = false)
    (hlink : s.isValid p = false) (htc : t.isCalc = false) (htlink : t.isValid p = false)
    (hparam : t.paramUnit p = s.paramUnit p) (hunit : t.unit = s.unit)
    (hperm : t.accounted.Perm s.accounted) :
    (t.calculate env units).value p = (s.calculate env units).value p := by
  have hsum : ∀ f : Stream → LREAL,
      sumStream (fun i => (t.stream i).calculate env t.unit) f
        = sumStream (fun i => (s.stream i).calculate env s.unit) f := fun f => by
    rw [sumStream_calculate, sumStream_calculate, hunit]
    exact (hperm.map _).sum_eq
  rw [calculate_value_eq env units htc htlink, calculate_value_eq env units hc hlink, hparam,
    meanParam, hsum, hsum, meanParam]

/-- The streams that a station takes into account. -/
def counted (s : Station n) : Finset (Fin n) := Finset.univ.filter fun i =>
  (s.stream i).maintenance = false

/-- The value of a stream in the unit of the station. -/
def streamValue (s : Station n) (p : Param) (i : Fin n) : LREAL :=
  ((s.calculate env units).stream i).getValue units p (s.paramUnit p)

/-- A parameter without a link is the centre of mass of the values of the streams. -/
lemma calculate_value (hc : s.isCalc = false) (hlink : s.isValid p = false)
    (hsum : 0 < ∑ i ∈ s.counted, ((s.calculate env units).stream i).flow .mass) :
    (s.calculate env units).value p
      = s.counted.centerMass (fun i => ((s.calculate env units).stream i).flow .mass)
          (streamValue env units s p) := by
  have hcounted : ∀ f : Stream → LREAL,
      sumStream (fun i => (s.stream i).calculate env s.unit) f
        = ∑ i ∈ s.counted, f ((s.calculate env units).stream i) := fun f => by
    rw [sumStream_eq_sum]
    refine Finset.sum_congr (Finset.filter_congr fun i _ => ?_) fun i _ => ?_
    · rw [Stream.calculate_maintenance]
    · rw [calculate_stream env units hc]
  rw [calculate_value_eq env units hc hlink, meanParam, hcounted, hcounted, Finset.centerMass,
    smul_eq_mul, Finset.mul_sum]
  refine Finset.sum_congr rfl fun i _ => ?_
  rw [if_pos hsum, smul_eq_mul, streamValue]
  ring

/-- With mass flows in accounting that are not negative and of a positive sum, the value of a
parameter without a link lies between those of two streams in accounting, and is the one of every
station with these streams in accounting, in whatever order and beside whatever others. -/
theorem value_convex (hc : s.isCalc = false) (hlink : s.isValid p = false)
    (hflow : ∀ i, (s.stream i).maintenance = false →
      0 ≤ ((s.calculate env units).stream i).flow .mass)
    (hsum : 0 < ∑ i ∈ s.counted, ((s.calculate env units).stream i).flow .mass) :
    (∃ i j, (s.stream i).maintenance = false ∧ (s.stream j).maintenance = false ∧
        streamValue env units s p i ≤ (s.calculate env units).value p ∧
        (s.calculate env units).value p ≤ streamValue env units s p j) ∧
      ∀ (m : ℕ) (t : Station m), t.isCalc = false → t.isValid p = false →
        t.paramUnit p = s.paramUnit p → t.unit = s.unit → t.accounted.Perm s.accounted →
        (t.calculate env units).value p = (s.calculate env units).value p := by
  refine ⟨?_, fun m t htc htlink hparam hunit hperm =>
    calculate_value_of_perm env units hc hlink htc htlink hparam hunit hperm⟩
  have hweight : ∀ i ∈ s.counted, 0 ≤ ((s.calculate env units).stream i).flow .mass :=
    fun i hi => hflow i (Finset.mem_filter.mp hi).2
  have hne : s.counted.Nonempty := Finset.nonempty_of_sum_ne_zero hsum.ne'
  obtain ⟨i, hi, hinf⟩ := s.counted.exists_mem_eq_inf' hne (streamValue env units s p)
  obtain ⟨j, hj, hsup⟩ := s.counted.exists_mem_eq_sup' hne (streamValue env units s p)
  refine ⟨i, j, (Finset.mem_filter.mp hi).2, (Finset.mem_filter.mp hj).2, ?_, ?_⟩
  · rw [calculate_value env units hc hlink hsum, ← hinf]
    exact Finset.inf_le_centerMass hweight hsum
  · rw [calculate_value env units hc hlink hsum, ← hsup]
    exact Finset.centerMass_le_sup hweight hsum

/-- A turbine in oil of a density, with a hundred pulses a second and one pulse to the unit. -/
def turbine (dens : LREAL) (maintenance : Bool) : Stream :=
  { Stream.oilLine .turbine 1 with link := ⟨100, 100, 20, 1, dens, dens, dens⟩, maintenance }

/-- A station of the streams, without links to its parameters. -/
def ofStreams (stream : Fin n → Stream) : Station n where
  isCalc := false
  isValid := fun _ => false
  value := fun _ => 0
  paramUnit := fun _ => 0
  flow := fun _ => 0
  stream := stream
  total := ⟨.clear, .clear, .clear, .clear, fun _ => 0⟩
  unit := ⟨0, 0⟩
  resetTotals := false

lemma turbine_flow (unit : ObjUnit) (dens : LREAL) (maintenance : Bool) :
    ((turbine dens maintenance).calculate env unit).flow .mass = 360 * dens := by
  have hfreq : ¬ (100 : LREAL) ≤ 0 := by norm_num
  have hp : (turbine dens maintenance).prepare = turbine dens maintenance := by
    simp only [Stream.prepare, Stream.commands, turbine, Stream.oilLine, Stream.calcualateKF,
      Bool.false_eq_true, if_false, hfreq, Bool.not_false, if_true]
  have hv : (turbine dens maintenance).flowValid = true := by
    have hkf : isValidDelim 1 = true := Stream.isValidDelim_of_le le_rfl
    rw [Stream.flowValid, Bool.and_eq_true]
    exact ⟨hkf, rfl⟩
  have hmeter : (turbine dens maintenance).flowmeter ≠ .coriolis := by
    simp [turbine, Stream.oilLine]
  rw [Stream.calculate_flow env unit rfl, hp, Stream.calcFlow_volume hv hmeter]
  norm_num [Stream.volumeFlow, Stream.rate, turbine, Stream.oilLine]
  ring

/-- The density of a station of two turbines lies between those of their oils, also in the other
order and beside a third one in maintenance. -/
theorem value_convex_turbines :
    let env : Env := ⟨⟨fun _ => 5, 5⟩, 0⟩
    let units : UnitsTable := fun _ => ⟨none, none⟩
    let s : Station 3 := ofStreams ![turbine 850 false, turbine 700 true, turbine 900 false]
    let t : Station 2 := ofStreams ![turbine 900 false, turbine 850 false]
    850 ≤ (s.calculate env units).value .dens ∧ (s.calculate env units).value .dens ≤ 900 ∧
      (t.calculate env units).value .dens = (s.calculate env units).value .dens := by
  intro env units s t
  have hdens : ∀ i, (s.stream i).maintenance = false →
      streamValue env units s .dens i = 850 ∨ streamValue env units s .dens i = 900 := by
    intro i hi
    fin_cases i
    · exact .inl rfl
    · exact absurd hi (by decide)
    · exact .inr rfl
  have hflow : ∀ i, 0 < ((s.calculate env units).stream i).flow .mass := by
    intro i
    rw [calculate_stream env units rfl]
    fin_cases i
    · exact (turbine_flow env s.unit 850 false).symm ▸ by norm_num
    · exact (turbine_flow env s.unit 700 true).symm ▸ by norm_num
    · exact (turbine_flow env s.unit 900 false).symm ▸ by norm_num
  have hcounted : s.counted.Nonempty := ⟨0, Finset.mem_filter.mpr ⟨Finset.mem_univ _, rfl⟩⟩
  obtain ⟨⟨i, j, hi, hj, hlow, hhigh⟩, hperm⟩ :=
    value_convex env units (s := s) (p := .dens) rfl rfl (fun i _ => (hflow i).le)
      (Finset.sum_pos (fun i _ => hflow i) hcounted)
  refine ⟨?_, ?_, hperm 2 t rfl rfl rfl rfl (.swap _ _ _)⟩
  · rcases hdens i hi with h | h <;> rw [h] at hlow
    · exact hlow
    · exact le_trans (by norm_num) hlow
  · rcases hdens j hj with h | h <;> rw [h] at hhigh
    · exact hhigh.trans (by norm_num)
    · exact hhigh

end Tritonn.Station

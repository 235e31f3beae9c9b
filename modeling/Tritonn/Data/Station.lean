import Tritonn.Data.Stream

/-!
`src/tritonn/data/station.cpp`: a station, the sum of its metering lines.

* `calculate` runs the streams, sums the flow rates and the increments of those in accounting,
  averages the parameters without a link over them by mass flow, and accumulates the totals;
* `scan` is one scan of the data manager: the inputs of the streams are loaded and the station is
  calculated;
* `scan_raw_qty` and `scan_stream_raw_qty` say what a scan adds to the raw totals while every
  stream is in accounting.
-/

namespace Tritonn

open Wrap (carry)

/-- `rStation`, with `n` streams; the links of its parameters are either connected (`isValid`) or
calculated. -/
structure Station (n : ℕ) where
  isCalc : Bool
  isValid : Param → Bool
  value : Param → LREAL
  paramUnit : Param → UInt32
  flow : Channel → LREAL
  stream : Fin n → Stream
  total : Total
  unit : ObjUnit
  resetTotals : Bool

/-- What reaches a station and its streams before a scan. -/
structure StationInput (n : ℕ) where
  value : Param → LREAL
  resetTotals : Bool
  stream : Fin n → StreamInput

namespace Station

variable {n : ℕ}

/-! ### The functions of the source -/

/-- The streams that the loops of `rStation::calculate` do not skip. -/
def inAccount (stream : Fin n → Stream) : List (Fin n) :=
  (List.finRange n).filter fun i => !(stream i).maintenance

/-- A field summed over the streams in accounting. -/
def sumStream {M : Type} [Add M] [Zero M] (stream : Fin n → Stream) (f : Stream → M) : M :=
  ((inAccount stream).map fun i => f (stream i)).sum

/-- The mean of a parameter over the streams in accounting, weighted by their mass flow. -/
def meanParam (units : UnitsTable) (unit : UInt32) (stream : Fin n → Stream) (flowMass : LREAL)
    (p : Param) : LREAL :=
  sumStream stream fun str =>
    if 0 < flowMass then str.getValue units p unit * (str.flow .mass / flowMass) else 0

/-- `rStation::calculate`. -/
def calculate (env : Env) (units : UnitsTable) (s : Station n) : Station n :=
  if s.isCalc then s
  else
    let total := if s.resetTotals then s.total.reset else s.total
    let stream := fun i => (s.stream i).calculate env s.unit
    let flow := fun ch => sumStream stream (·.flow ch)
    let inc : BaseTotal :=
      ⟨fun ch => sumStream stream (·.total.inc.qty ch), sumStream stream (·.total.inc.count)⟩
    { s with
      isCalc := true, resetTotals := false, stream := stream, flow := flow,
      value := fun p =>
        if s.isValid p then s.value p
        else meanParam units (s.paramUnit p) stream (flow .mass) p,
      total := (({ total with inc := inc } : Total).calculate env s.unit).1 }

/-- `rSource::preCalculate` of the station and its streams, and the inputs of a scan. -/
def load (s : Station n) (inp : StationInput n) : Station n :=
  { s with
    isCalc := false, resetTotals := inp.resetTotals,
    value := fun p => if s.isValid p then inp.value p else s.value p,
    stream := fun i => (s.stream i).load (inp.stream i) }

/-- One scan of the data manager. -/
def scan (env : Env) (units : UnitsTable) (s : Station n) (inp : StationInput n) : Station n :=
  (s.load inp).calculate env units

/-! ### What one scan does to the totals -/

/-- A scan without a reset in which every stream is in accounting. -/
def InAccounting (inp : StationInput n) : Prop :=
  inp.resetTotals = false ∧
    ∀ i, (inp.stream i).maintenance = false ∧ (inp.stream i).resetTotals = false

/-- The increment of a stream in a scan, from the state before it. -/
def increment (s : Station n) (inp : StationInput n) (i : Fin n) : BaseTotal :=
  ((s.stream i).load (inp.stream i)).increment

lemma inAccount_eq {stream : Fin n → Stream} (h : ∀ i, (stream i).maintenance = false) :
    inAccount stream = List.finRange n :=
  List.filter_eq_self.mpr fun i _ => by simp [h i]

/-- The sum over the streams in accounting, as a finite set of indices. -/
lemma sumStream_eq_sum (stream : Fin n → Stream) (f : Stream → LREAL) :
    sumStream stream f = ∑ i with (stream i).maintenance = false, f (stream i) := by
  have hnodup : (inAccount stream).Nodup := (List.nodup_finRange n).filter _
  rw [sumStream, ← List.sum_toFinset (fun i => f (stream i)) hnodup, inAccount,
    List.toFinset_filter, List.toFinset_finRange]
  refine Finset.sum_congr (Finset.filter_congr fun i _ => ?_) fun i _ => rfl
  rw [Bool.not_eq_true']

lemma sumStream_eq {stream : Fin n → Stream} (h : ∀ i, (stream i).maintenance = false)
    (f : Stream → LREAL) : sumStream stream f = ∑ i, f (stream i) := by
  rw [sumStream, inAccount_eq h, Fin.sum_univ_def]

variable (env : Env) (units : UnitsTable) (s : Station n) {inp : StationInput n}

@[simp] lemma scan_stream (i : Fin n) :
    (s.scan env units inp).stream i
      = ((s.stream i).load (inp.stream i)).calculate env s.unit := rfl

/-- The totals of a stream after a scan. -/
lemma scan_stream_total (h : InAccounting inp) (i : Fin n) :
    ((s.scan env units inp).stream i).total
      = (({ (s.stream i).total with inc := s.increment inp i } : Total).calculate
          env s.unit).1 := by
  rw [scan_stream]
  exact Stream.calculate_total env s.unit _ rfl (h.2 i).2

/-- A scan sums the increments of its streams. -/
lemma sumStream_inc (h : InAccounting inp) (ch : Channel) :
    sumStream (s.scan env units inp).stream (·.total.inc.qty ch)
      = ∑ i, (s.increment inp i).qty ch := by
  have hm : ∀ i, ((s.scan env units inp).stream i).maintenance = false := fun i => by
    rw [scan_stream, Stream.calculate_maintenance]
    exact (h.2 i).1
  rw [sumStream_eq hm]
  refine Finset.sum_congr rfl fun i _ => ?_
  rw [scan_stream_total env units s h, Total.calculate_inc]

/-- The raw total of the station after a scan: the sum of the increments is added, rounded and
wrapped. -/
lemma scan_raw_qty (h : InAccounting inp) (ch : Channel) :
    (s.scan env units inp).total.raw.qty ch
      = (carry maxTotalLimit
          (round env (s.total.raw.qty ch + ∑ i, (s.increment inp i).qty ch) 5)).1 := by
  rw [← sumStream_inc env units s h, scan, calculate, if_neg (by simp [load])]
  simp only [load, h.1, Bool.false_eq_true, if_false]
  exact Total.calculate_raw_qty env s.unit _ ch

lemma scan_stream_raw_qty (h : InAccounting inp) (i : Fin n) (ch : Channel) :
    ((s.scan env units inp).stream i).total.raw.qty ch
      = (carry maxTotalLimit
          (round env ((s.stream i).total.raw.qty ch + (s.increment inp i).qty ch) 5)).1 := by
  rw [scan_stream_total env units s h]
  exact Total.calculate_raw_qty env s.unit _ ch

end Station

end Tritonn

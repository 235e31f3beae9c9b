import Tritonn.Lib.Run
import Tritonn.Prove.Acts

/-!
`src/tritonn/data_manager.cpp`: the scan of the data manager under the mutex of the variable store.

* `Mutex` is the mutex of a thread class as the scan takes it: whoever holds it and takes it again
  waits for himself;
* `Station.setStreamFreqOut` is what the selection of a stream writes by snapshots: nothing, since a
  link has no module (`Station.setStreamFreqOut_eq_nil`);
* `Manager` are the sources of a configuration, `Managed` one of them: a prover, or one of the other
  classes, whose `calculate` uses no snapshot; `proccesing` is one scan of
  `rDataManager::Proccesing`;
* `TouchesStore` says of a prover before a cycle that its handler starts or stops the measurement of
  the module;
* `lockFree_iff` says that in every run no scan waits for itself if and only if none calculates such
  a prover;
* `lockFree_fails` is a proving run that comes to the first detector.
-/

namespace Tritonn

/-! ### The mutex -/

/-- The mutex of the default constructor of `rThreadClass`, which is not recursive: whether the
thread of the scan holds it. -/
structure Mutex where
  isHeld : Bool
  deriving DecidableEq, Repr

namespace Mutex

/-- `pthread_mutex_lock`; `none` is a thread that waits for itself. -/
def lock (m : Mutex) : Option Mutex := if m.isHeld then none else some ⟨true⟩

/-- `pthread_mutex_unlock`. -/
def unlock (_ : Mutex) : Mutex := ⟨false⟩

/-- `rVariableClass::set` for any snapshot, as far as the mutex goes: an `rLocker` around the
rest of the function. -/
def set (m : Mutex) (_ : String × UInt32) : Option Mutex := m.lock.map unlock

/-- Any snapshot within a scan is one too many. -/
lemma foldlM_set {m : Mutex} (hm : m.isHeld = true) (l : List (String × UInt32)) :
    l.foldlM set m = if l.isEmpty then some m else none := by
  cases l with
  | nil => rfl
  | cons a l => simp [List.foldlM_cons, set, lock, hm]

end Mutex

/-! ### The selection of a stream -/

/-- `rSource::getModuleAlias` of the link `m_counter`: an `rLink` has none of its own. -/
def linkModuleAlias : String := ""

/-- `rSource::getChannelNumber` of the link `m_counter`. -/
def linkChannelNumber : UInt8 := 0xFF

/-- What the snapshot of `rStream::enableFreqOut` and `rStream::disableFreqOut` writes into the type
of the output, for a stream whose counter is connected or not. -/
def Stream.setFreqOut (isValid : Bool) (value : UInt32) : List (String × UInt32) :=
  if isValid && linkModuleAlias.length != 0 then
    [("hardware." ++ linkModuleAlias ++ ".outtype", value)]
  else []

/-- `rStream::enableFreqOut`. -/
def Stream.enableFreqOut (isValid : Bool) : List (String × UInt32) := Stream.setFreqOut isValid 0

/-- `rStream::disableFreqOut`. -/
def Stream.disableFreqOut (isValid : Bool) : List (String × UInt32) :=
  Stream.setFreqOut isValid (linkChannelNumber.toUInt32 + 1)

/-- `rStation::setStreamFreqOut`, for a station whose streams have their counters connected or
not. -/
def Station.setStreamFreqOut (isValid : List Bool) (strid : UInt16) : List (String × UInt32) :=
  if h : strid.toNat < isValid.length then
    isValid.flatMap Stream.disableFreqOut ++ Stream.enableFreqOut isValid[strid.toNat]
  else []

/-- The selection of a stream writes nothing. -/
theorem Station.setStreamFreqOut_eq_nil (isValid : List Bool) (strid : UInt16) :
    Station.setStreamFreqOut isValid strid = [] := by
  have hnone (isValid : Bool) (value : UInt32) : Stream.setFreqOut isValid value = [] := by
    simp [Stream.setFreqOut, linkModuleAlias]
  rw [Station.setStreamFreqOut]
  split_ifs
  · simp [Stream.disableFreqOut, Stream.enableFreqOut, hnone]
  · rfl

/-- What one thing that a prover sends writes by snapshots. -/
def ProveOut.snapshots (isValid : List Bool) : ProveOut → List (String × UInt32)
  | .set var value => [(var, value)]
  | .setStreamFreqOut strid => Station.setStreamFreqOut isValid strid
  | .event _ | .doHalt _ => []

/-! ### The scan -/

/-- A source of `m_listSource` or a report of `m_listReport`. A prover is there with its station, of
which it matters which counters are connected; the other classes use no snapshot in `calculate`. -/
inductive Managed where
  | prove (p : Prove) (isValid : List Bool)
  | other

namespace Managed

/-- The writes of the operator and `preCalculate`. -/
def preCalculate (i : ProveInput) : Managed → Managed
  | prove p isValid => prove (p.load i) isValid
  | other => other

/-- `calculate`, in a scan that holds the mutex or not. -/
def calculate (m : Mutex) (i : ProveInput) : Managed → Option Managed
  | prove p isValid =>
      let q := p.calculate i
      ((q.out.flatMap (·.snapshots isValid)).foldlM Mutex.set m).map fun _ => prove q isValid
  | other => some other

end Managed

/-- The sources and reports of a configuration. -/
abbrev Manager (ι : Type) := ι → Managed

/-- A scan: the sources whose `calculate` it runs, in the order in which the list and the links come
to them, each at most once, and what reaches them. A halt leaves out the ones behind it. -/
structure ManagerInput (ι : Type) where
  order : List ι
  nodup : order.Nodup
  input : ι → ProveInput

namespace Manager

variable {ι : Type} [DecidableEq ι]

/-- The call of `calculate` for a source. -/
def calculateSource (m : Mutex) (i : ManagerInput ι) (s : Manager ι) (v : ι) : Option (Manager ι) :=
  ((s v).calculate m (i.input v)).map (Function.update s v)

/-- One turn of the loop of `rDataManager::Proccesing`: an `rLocker` around the scan. -/
def proccesing (s : Manager ι) (i : ManagerInput ι) : Option (Manager ι) := do
  let m ← Mutex.lock ⟨false⟩
  i.order.foldlM (calculateSource m i) fun v => (s v).preCalculate (i.input v)

/-- Scans in a row; `none` is a thread that waits for itself. -/
def run (s : Manager ι) (l : List (ManagerInput ι)) : Option (Manager ι) :=
  l.foldl (fun o i => o.bind (proccesing · i)) (some s)

end Manager

/-! ### What a prover writes -/

namespace Prove

variable {p : Prove} {i : ProveInput}

/-- The handler of a cycle starts or stops the measurement of the module: it runs, is not aborted,
and waits for a detector with its timer not yet started or finished. -/
def touchesStore (p : Prove) (i : ProveInput) : Bool :=
  p.reaches i && decide ((p.load i).command ≠ .abort) &&
    match p.state with
    | .waitd1 | .waitd1Reverse => !p.timer.isStart || p.timerFinished i
    | .waitd2 | .waitd2Reverse => p.timerFinished i
    | _ => false

/-- The requests are all of the output that may write. -/
lemma flatMap_requests (isValid : List Bool) :
    p.out.flatMap (·.snapshots isValid) = p.requests.flatMap (·.snapshots isValid) := by
  rw [requests]
  induction p.out with
  | nil => rfl
  | cons o out ih =>
      rw [List.flatMap_cons, ih]
      cases o <;> rfl

/-- A handler writes by a snapshot in the states in which it waits for a detector. -/
lemma request_snapshots (isValid : List Bool) :
    ((p.request i).toList.flatMap (·.snapshots isValid)).isEmpty =
      !(decide (p.command ≠ .abort) &&
        match p.state with
        | .waitd1 | .waitd1Reverse => !p.timer.isStart || p.timerFinished i
        | .waitd2 | .waitd2Reverse => p.timerFinished i
        | _ => false) := by
  rw [request]
  by_cases hc : p.command = .abort
  · simp [hc]
  · rw [if_neg hc]
    cases hs : p.state <;> dsimp only
    case start => split_ifs <;> simp [ProveOut.snapshots, Station.setStreamFreqOut_eq_nil]
    case waitd1 | waitd1Reverse =>
      cases p.timer.isStart <;> cases p.timerFinished i <;> simp [ProveOut.snapshots, hc]
    case waitd2 | waitd2Reverse => cases p.timerFinished i <;> simp [ProveOut.snapshots, hc]
    all_goals simp

/-- A cycle writes by snapshots if and only if it touches the store. -/
theorem scan_snapshots (isValid : List Bool) :
    ((p.scan i).out.flatMap (·.snapshots isValid)).isEmpty = !p.touchesStore i := by
  obtain ⟨hstate, -, htimer, -, -, -, -, -, hcommand⟩ := checked_sameView (p := p) (i := i)
  have hview := handled_sameView (p := p) (i := i)
  have hfinished : (p.handled i).timerFinished i = p.timerFinished i := by
    rw [hview.timerFinished, timerFinished, htimer]
    rfl
  rw [flatMap_requests, scan_acts.2.2.2, asksFor, touchesStore]
  by_cases hr : p.reaches i = true
  · rw [if_pos hr, request_snapshots, hview.command, hcommand, hview.state, hstate, hview.timer,
      htimer, hfinished, hr, Bool.true_and]
  · rw [if_neg hr, Bool.eq_false_iff.mpr hr]
    split_ifs <;> simp [ProveOut.snapshots]

end Prove

/-- A source that would take the mutex of the store. -/
def Managed.touchesStore (i : ProveInput) : Managed → Bool
  | .prove p _ => p.touchesStore i
  | .other => false

/-- Within a scan, a source completes its `calculate` if and only if it does not touch the store. -/
lemma Managed.calculate_isSome {s : Managed} {i : ProveInput} {m : Mutex} (hm : m.isHeld = true) :
    ((s.preCalculate i).calculate m i).isSome = !s.touchesStore i := by
  cases s with
  | other => rfl
  | prove p isValid =>
      have hscan := Prove.scan_snapshots (p := p) (i := i) isValid
      rw [Prove.scan] at hscan
      simp only [preCalculate, calculate, Mutex.foldlM_set hm, hscan, touchesStore]
      cases p.touchesStore i <;> rfl

/-! ### Runs -/

namespace Manager

variable {ι : Type} [DecidableEq ι] {s : Manager ι} {i : ManagerInput ι}

/-- The loop over the sources, from a state in which the ones to come are prepared. -/
lemma foldlM_calculateSource {m : Mutex} (hm : m.isHeld = true) {order : List ι}
    (hnodup : order.Nodup) {t : Manager ι}
    (ht : ∀ v ∈ order, t v = (s v).preCalculate (i.input v)) :
    (order.foldlM (calculateSource m i) t).isSome =
      order.all fun v => !(s v).touchesStore (i.input v) := by
  induction order generalizing t with
  | nil => rfl
  | cons v order ih =>
      obtain ⟨hv, hnodup⟩ := List.nodup_cons.mp hnodup
      have hcalc := Managed.calculate_isSome (s := s v) (i := i.input v) hm
      rw [List.foldlM_cons, calculateSource, ht v List.mem_cons_self, List.all_cons]
      cases hq : ((s v).preCalculate (i.input v)).calculate m (i.input v) with
      | none =>
          rw [hq] at hcalc
          simp [← hcalc]
      | some q =>
          rw [hq] at hcalc
          rw [← hcalc, Option.map_some, Option.isSome_some, Bool.true_and]
          refine ih hnodup fun w hw => ?_
          have hne : w ≠ v := fun h => hv (h ▸ hw)
          rw [Function.update_of_ne hne, ht w (List.mem_cons_of_mem v hw)]

/-- A scan completes if and only if it calculates no source that touches the store. -/
theorem proccesing_isSome :
    (s.proccesing i).isSome = i.order.all fun v => !(s v).touchesStore (i.input v) :=
  foldlM_calculateSource rfl i.nodup fun _ _ => rfl

/-- A scan of a thread that does not wait for itself. -/
def step (o : Option (Manager ι)) (i : ManagerInput ι) : Option (Manager ι) :=
  o.bind (proccesing · i)

/-- In every run from any state of the sources, no scan waits for itself if and only if none
calculates a prover whose handler starts or stops the measurement. -/
theorem lockFree_iff (s : Manager ι) (l : List (ManagerInput ι)) :
    (∀ pre, pre <+: l → (s.run pre).isSome = true) ↔
      Run.Along step (fun o i => ∃ t, o = some t ∧
        ∀ v ∈ i.order, (t v).touchesStore (i.input v) = false) (some s) l := by
  have hrun : (∀ pre, pre <+: l → (s.run pre).isSome = true) ↔
      Run.Along step (fun o i => (step o i).isSome = true) (some s) l :=
    (Run.forall_prefix_iff (C := fun o => o.isSome = true) (some s) l).trans (and_iff_right rfl)
  rw [hrun]
  refine Run.along_congr (A := fun _ _ => True) (fun o : Option (Manager ι) => o.isSome = true) ?_
    (fun _ _ _ _ h => h) rfl (Run.along_of_forall fun _ _ => trivial)
  intro o i ho _
  obtain ⟨t, rfl⟩ := Option.isSome_iff_exists.mp ho
  have hstep : (step (some t) i).isSome = i.order.all fun v => !(t v).touchesStore (i.input v) :=
    proccesing_isSome
  simp [hstep]

/-! ### A proving run -/

/-- A configuration with one prover, at rest, whose station has one stream with a counter. -/
def oneProver : Manager Unit := fun _ => .prove (Prove.powerOn 0 "" {} 0) [true]

/-- A scan that calculates the prover. -/
def scanOf (i : ProveInput) : ManagerInput Unit := ⟨[()], by simp, fun _ => i⟩

/-- A proving run without a valve, from the start to the first wait for a detector. -/
def startOfPass : List (ManagerInput Unit) :=
  scanOf (Prove.cycleAt Prove.oneDetector 0 (some 1) fun _ => 0) ::
    ([0, 1010, 1020, 6020, 6030].map fun tick => scanOf (Prove.quietAt Prove.oneDetector tick))

/-- The scan in which the measurement would be started waits for itself. -/
theorem lockFree_fails :
    (oneProver.run (startOfPass.take 5)).isSome = true ∧
      ¬ ∀ pre, pre <+: startOfPass → (oneProver.run pre).isSome = true := by
  refine ⟨by decide +kernel, fun h => ?_⟩
  have hlast : (oneProver.run startOfPass).isSome = false := by decide +kernel
  simp [h startOfPass List.prefix_rfl] at hlast

end Manager

end Tritonn

import Tritonn.Lib.Demand
import Tritonn.Shared.TickCount
import Tritonn.Shared.Units

/-!
`src/tritonn/data/source.cpp`, `link.cpp` and `limit.cpp`: the sources of a configuration, their
links, and the scan that computes them.

* `Limit` and `LinkState` are what changes of a link in a scan, `LinkInfo` what does not;
* `SourceInfo` is a source: its links and the part of `calculate` that its class adds after the call
  of `rSource::calculate`, given as a body that reads other sources by `getValue` only;
* `Sources.body` is the whole of `calculate`, `Sources.proccesing` the two loops of
  `rDataManager::Proccesing` over the list of the sources;
* `RVar.info` and `KinematicViscosity.info` are two of the classes;
* `SourceInfo.Received` says that the inputs hold what their sources answer, and `result_calculate`
  that `calculate` runs the rest of the class on such a state;
* `Sources.proccesing_spec` says what a scan does: it always ends, and begins no source twice; when
  the links form no cycle and nothing halts it, each source is computed (`Sources.Scanned`), from
  inputs that hold what their sources hold in the end, and the order of the list makes no
  difference.

The value of a link that is no number is `none`, whether NaN or infinite: the code makes no
difference between the two. Events are left out, and with them `m_event`, in which they are built.
-/

namespace Tritonn

/-! ### Limits -/

/-- `rLimit::Status`. -/
inductive LimitStatus where
  | undef
  | isnan
  | lolo
  | lo
  | normal
  | hi
  | hihi
  deriving DecidableEq, Repr

/-- `rCmpLREAL`. -/
structure CmpLREAL where
  value : LREAL := 0
  saved : LREAL := 0
  deriving DecidableEq, Repr

/-- What `rCmpLREAL::Compare` leaves behind; it sends an event when the values differ by more. -/
def CmpLREAL.compare (c : CmpLREAL) (prec : LREAL) : CmpLREAL :=
  if prec < |c.value - c.saved| then { c with saved := c.value } else c

/-- `rLimit`. -/
structure Limit where
  lolo : CmpLREAL := {}
  lo : CmpLREAL := {}
  hi : CmpLREAL := {}
  hihi : CmpLREAL := {}
  hysteresis : CmpLREAL := {}
  status : LimitStatus := .undef
  setup : CmpUINT := ⟨0x0001, 0x0001⟩
  deriving DecidableEq, Repr

namespace Limit

/-- `rLimit::Setup::OFF`. -/
def off : UInt16 := 0x0001

/-- `rLimit::Setup::LOLO`. -/
def setupLolo : UInt16 := 0x0002

/-- `rLimit::Setup::LO`. -/
def setupLo : UInt16 := 0x0004

/-- `rLimit::Setup::HI`. -/
def setupHi : UInt16 := 0x0008

/-- `rLimit::Setup::HIHI`. -/
def setupHihi : UInt16 := 0x0010

/-- The flag is set. -/
def hasFlag (l : Limit) (flag : UInt16) : Bool := l.setup.value &&& flag ≠ 0

/-- The status of a number: a limit that was exceeded stays so within the hysteresis. -/
def statusOf (l : Limit) (val : LREAL) : LimitStatus :=
  if l.hasFlag setupHihi ∧
      (l.hihi.value < val ∨ l.hihi.value - l.hysteresis.value < val ∧ l.status = .hihi) then .hihi
  else if l.hasFlag setupLolo ∧
      (val < l.lolo.value ∨ val < l.lolo.value + l.hysteresis.value ∧ l.status = .lolo) then .lolo
  else if l.hasFlag setupHi ∧
      (l.hi.value < val ∨ l.hi.value - l.hysteresis.value < val ∧ l.status = .hi) then .hi
  else if l.hasFlag setupLo ∧
      (val < l.lo.value ∨ val < l.lo.value + l.hysteresis.value ∧ l.status = .lo) then .lo
  else .normal

/-- What the user has written is noted. -/
def compareAll (l : Limit) : Limit :=
  { l with
    lolo := l.lolo.compare compareLrealPrec
    lo := l.lo.compare compareLrealPrec
    hi := l.hi.compare compareLrealPrec
    hihi := l.hihi.compare compareLrealPrec
    hysteresis := l.hysteresis.compare compareLrealPrec
    setup := l.setup.compare }

/-- `rLimit::calculate` with `check`, as every caller has it. -/
def calculate (l : Limit) (val : Option LREAL) : Limit :=
  if l.hasFlag off then { l with status := .undef }
  else
    match val with
    | none => { l.compareAll with status := .isnan }
    | some v => { l.compareAll with status := l.statusOf v }

end Limit

/-! ### Links -/

/-- What a scan leaves alone of an `rLink`: the source it is connected to and the name of the value
there, its own name, and `m_setup`. -/
structure LinkInfo (ι : Type*) where
  source : Option ι
  param : String
  ioName : String
  setup : UInt16

/-- The rest of it: the value, the unit and the limits. -/
structure LinkState where
  value : Option LREAL
  unit : UInt32
  limit : Limit
  deriving DecidableEq, Repr

/-- `rLink::Setup::INPUT`. -/
def linkInput : UInt16 := 0x0001

/-- `rLink::Setup::OUTPUT`. -/
def linkOutput : UInt16 := 0x0002

/-- `rLink::Setup::DISABLE`. -/
def linkDisable : UInt16 := 0x0080

/-- The source that the link reads. -/
def LinkInfo.reads {ι : Type*} (info : LinkInfo ι) : Option ι :=
  if info.setup &&& linkDisable ≠ 0 then none else info.source

namespace LinkState

/-- `rLink::calculateLimit`. -/
def calculateLimit (l : LinkState) : LinkState := { l with limit := l.limit.calculate l.value }

/-- What `rLink::calculate` does with a value that it has read. -/
def receive (l : LinkState) (value : Option LREAL) : LinkState :=
  { l with value := some (value.getD 0), limit := l.limit.calculate value }

end LinkState

/-! ### Sources -/

/-- What `rSource::getValue` gives: the value, and `err`, which is zero where it is not set. -/
structure SourceValue where
  value : Option LREAL
  err : UInt32
  deriving DecidableEq, Repr

/-- What changes of a source in a scan: `m_fault`, `m_lockErr`, the links, and what its class has of
its own. -/
structure SourceState (κ : Type*) where
  fault : UInt32
  lockErr : UInt32
  link : ℕ → LinkState
  own : κ

/-- What the sources of a scan do: `getValue` asks for a name and a unit. -/
abbrev SourceBody (ι κ : Type*) :=
  Demand.Body ι (SourceState κ) (String × UInt32) SourceValue

/-- A source: its links in the order of the calls of `initLink`, and what `calculate` of its class
does after `rSource::calculate` has returned zero. -/
structure SourceInfo (ι κ : Type*) where
  count : ℕ
  link : ℕ → LinkInfo ι
  kernel : SourceBody ι κ

/-- `XmlName::FAULT`. -/
def faultName : String := "fault"

/-- `SOURCE_LE_OUTPUT`. -/
def sourceLeOutput : UInt32 := 0x40000000

/-- `SOURCE_LE_UNIT`. -/
def sourceLeUnit : UInt32 := 0x80000000

/-- `rUnits::Error` as a number. -/
def UnitsError.toUDINT : UnitsError → UInt32
  | .none => 0
  | .isnan => 1
  | .incompatibility => 2

namespace SourceState

variable {κ : Type*} (s : SourceState κ)

/-- The state of a link is changed. -/
def setLink (i : ℕ) (f : LinkState → LinkState) : SourceState κ :=
  { s with link := Function.update s.link i (f (s.link i)) }

/-- What `sendEventSetLE` leaves behind; it sends the event when the flag was not set. -/
def setLE (flag : UInt32) : SourceState κ :=
  { s with lockErr := if s.lockErr &&& flag = 0 then s.lockErr ||| flag else s.lockErr }

/-- A flag says nothing about another one. -/
lemma or_and_of_disjoint {f g : UInt32} (h : f &&& g = 0) (x : UInt32) :
    (x ||| f) &&& g = x &&& g := by
  have h' : f.toBitVec &&& g.toBitVec = 0#32 := congrArg UInt32.toBitVec h
  apply UInt32.toBitVec_inj.mp
  rw [UInt32.toBitVec_and, UInt32.toBitVec_or, BitVec.and_or_distrib_right, h', BitVec.or_zero,
    UInt32.toBitVec_and]

/-- Two flags are set in either order. -/
lemma setLE_comm {f g : UInt32} (h : f = g ∨ f &&& g = 0) :
    (s.setLE f).setLE g = (s.setLE g).setLE f := by
  rcases h with rfl | h
  · rfl
  have h' : g &&& f = 0 := (UInt32.and_comm g f).trans h
  by_cases hf : s.lockErr &&& f = 0 <;> by_cases hg : s.lockErr &&& g = 0 <;>
    simp only [setLE, hf, hg, or_and_of_disjoint h, or_and_of_disjoint h', if_true, if_false]
  rw [UInt32.or_assoc, UInt32.or_comm f g, UInt32.or_assoc]

end SourceState

namespace SourceInfo

variable {ι κ : Type*} (info : SourceInfo ι κ)

/-- `m_inputs`, as `initLink` fills it. -/
def inputs : List ℕ :=
  (List.range info.count).filter fun i => (info.link i).setup &&& linkInput ≠ 0

/-- `m_outputs`. -/
def outputs : List ℕ :=
  (List.range info.count).filter fun i => (info.link i).setup &&& linkOutput ≠ 0

/-- `rSource::getOutputByName`. -/
def getOutputByName (name : String) : Option ℕ :=
  if info.outputs.isEmpty then none
  else if name = "" then info.outputs.head?
  else info.outputs.find? fun i => name = (info.link i).ioName

/-- The value of an output in a unit, and the error of the conversion; what is no number stays
so. -/
def convertOutput (table : UnitsTable) (l : LinkState) (unit : UInt32) : SourceValue :=
  match l.value with
  | some v =>
      ⟨some (convertValue table v l.unit unit).1, (convertValue table v l.unit unit).2.toUDINT⟩
  | none => ⟨none, (convertValue table 0 l.unit unit).2.toUDINT⟩

/-- `rSource::getValue` of a source that has been computed: what it gives and what it leaves. -/
def getValue (table : UnitsTable) (s : SourceState κ) (name : String) (unit : UInt32) :
    SourceValue × SourceState κ :=
  if name = faultName then (⟨some s.fault.toNat, 0⟩, s)
  else
    match info.getOutputByName name with
    | none => (⟨none, 1⟩, s.setLE sourceLeOutput)
    | some i =>
        let v := convertOutput table (s.link i) unit
        (v, if v.err ≠ 0 then s.setLE sourceLeUnit else s)

/-- `rLink::calculate`, and then the rest: the value is read unless the link has no source or is
disabled. -/
def linkCalculate (i : ℕ) (next : SourceBody ι κ) : SourceBody ι κ :=
  match (info.link i).source with
  | none => next
  | some u =>
      if (info.link i).setup &&& linkDisable ≠ 0 then next
      else .own id fun s => .read u ((info.link i).param, (s.link i).unit) fun a =>
        .own (fun s => s.setLink i fun l => l.receive a.value) fun _ => next

/-- `calculate` of the class of the source after `m_isCalc` is set: `rSource::calculate`, which
computes the inputs, and the rest. -/
def calculate : SourceBody ι κ :=
  .own (fun s => { s with fault := 0 }) fun _ => info.inputs.foldr info.linkCalculate info.kernel

/-- `rSource::postCalculate`, with the links given by themselves so that a class may use it. -/
def postCalculate (count : ℕ) (link : ℕ → LinkInfo ι) (s : SourceState κ) : SourceState κ :=
  ((List.range count).filter fun i => (link i).setup &&& linkOutput ≠ 0).foldl
    (fun s i =>
      if (link i).setup &&& linkInput ≠ 0 then s else s.setLink i LinkState.calculateLimit)
    s

/-- What the calculation may read: by its inputs or by what its class adds. -/
def Links (u : ι) : Prop := (∃ i ∈ info.inputs, (info.link i).reads = some u) ∨ info.kernel.Reads u

/-- The read of a link, if it reads. -/
lemma linkCalculate_eq (i : ℕ) (next : SourceBody ι κ) :
    info.linkCalculate i next = match (info.link i).reads with
      | none => next
      | some u => .own id fun s => .read u ((info.link i).param, (s.link i).unit) fun a =>
          .own (fun s => s.setLink i fun l => l.receive a.value) fun _ => next := by
  rw [linkCalculate, LinkInfo.reads]
  cases (info.link i).source with
  | none => split_ifs <;> rfl
  | some u => split_ifs <;> rfl

lemma links_of_reads {u : ι} (h : info.calculate.Reads u) : info.Links u := by
  suffices hfold : ∀ l : List ℕ, (l.foldr info.linkCalculate info.kernel).Reads u →
      (∃ i ∈ l, (info.link i).reads = some u) ∨ info.kernel.Reads u from
    hfold info.inputs h.choose_spec
  clear h
  intro l
  induction l with
  | nil => exact .inr
  | cons i l ih =>
      intro h
      have hrest : (l.foldr info.linkCalculate info.kernel).Reads u →
          (∃ j ∈ i :: l, (info.link j).reads = some u) ∨ info.kernel.Reads u := fun h =>
        (ih h).imp_left fun ⟨j, hj, hu⟩ => ⟨j, List.mem_cons_of_mem i hj, hu⟩
      rw [List.foldr_cons, linkCalculate_eq] at h
      cases hr : (info.link i).reads with
      | none =>
          rw [hr] at h
          exact hrest h
      | some v =>
          rw [hr] at h
          obtain ⟨_, rfl | ⟨_, _, h⟩⟩ := h
          · exact .inl ⟨i, List.mem_cons_self, hr⟩
          · exact hrest h

/-- Every input that is connected is read. -/
lemma mem_demands (a : ι → String × UInt32 → SourceValue) {i : ℕ} (hi : i ∈ info.inputs) {u : ι}
    (hu : (info.link i).reads = some u) (s : SourceState κ) :
    ∃ unit, (u, (info.link i).param, unit) ∈ info.calculate.demands a s := by
  suffices hfold : ∀ (l : List ℕ) (s : SourceState κ), i ∈ l →
      ∃ unit, (u, (info.link i).param, unit) ∈
        (l.foldr info.linkCalculate info.kernel).demands a s from hfold info.inputs _ hi
  intro l
  induction l with
  | nil => exact fun _ h => absurd h List.not_mem_nil
  | cons j l ih =>
      intro s hmem
      rw [List.foldr_cons, linkCalculate_eq]
      rcases List.mem_cons.mp hmem with rfl | hmem
      · rw [hu]
        exact ⟨_, List.mem_cons_self⟩
      · cases (info.link j).reads with
        | none => exact ih s hmem
        | some v =>
            obtain ⟨unit, hunit⟩ := ih _ hmem
            exact ⟨unit, List.mem_cons_of_mem _ hunit⟩

/-! ### What the inputs hold -/

section Received

variable (a : ι → String × UInt32 → SourceValue)

/-- `rLink::calculate`, with the answers `a` of the sources. -/
def readLink (s : SourceState κ) (i : ℕ) : SourceState κ :=
  match (info.link i).reads with
  | none => s
  | some u => s.setLink i fun l => l.receive (a u ((info.link i).param, l.unit)).value

/-- `s'` is `s` behind `rSource::calculate`: each input that reads holds the answer of its source,
or zero for what is no number, and has looked at its limits; the rest is as before. -/
structure Received (s s' : SourceState κ) : Prop where
  fault : s'.fault = 0
  lockErr : s'.lockErr = s.lockErr
  own : s'.own = s.own
  link : ∀ i ∈ info.inputs, ∀ u, (info.link i).reads = some u →
    s'.link i =
      { value := some ((a u ((info.link i).param, (s.link i).unit)).value.getD 0)
        unit := (s.link i).unit
        limit := (s.link i).limit.calculate (a u ((info.link i).param, (s.link i).unit)).value }
  kept : ∀ i, (i ∈ info.inputs → (info.link i).reads = none) → s'.link i = s.link i

/-- What the class adds leaves a link alone. -/
def Leaves (i : ℕ) : Prop := ∀ (a : ι → String × UInt32 → SourceValue) (s : SourceState κ),
  (info.kernel.result a s).link i = s.link i

variable {info a}

lemma readLink_link_of_ne {s : SourceState κ} {i j : ℕ} (h : i ≠ j) :
    (info.readLink a s j).link i = s.link i := by
  rw [readLink]
  cases (info.link j).reads with
  | none => rfl
  | some u => exact Function.update_of_ne h _ _

lemma readLink_link_congr {s s' : SourceState κ} {i : ℕ} (h : s'.link i = s.link i) :
    (info.readLink a s' i).link i = (info.readLink a s i).link i := by
  rw [readLink, readLink]
  cases (info.link i).reads with
  | none => exact h
  | some u => simp only [SourceState.setLink, Function.update_self, h]

variable (info a) in
lemma readLink_rest (s : SourceState κ) (i : ℕ) : (info.readLink a s i).fault = s.fault ∧
    (info.readLink a s i).lockErr = s.lockErr ∧ (info.readLink a s i).own = s.own := by
  rw [readLink]
  cases (info.link i).reads <;> exact ⟨rfl, rfl, rfl⟩

variable (info a) in
/-- The links of a list are read one after the other, and each of them alone. -/
lemma foldl_readLink {l : List ℕ} (hl : l.Nodup) (s : SourceState κ) :
    (l.foldl (info.readLink a) s).fault = s.fault ∧
      (l.foldl (info.readLink a) s).lockErr = s.lockErr ∧
      (l.foldl (info.readLink a) s).own = s.own ∧
      ∀ i, (l.foldl (info.readLink a) s).link i =
        if i ∈ l then (info.readLink a s i).link i else s.link i := by
  induction l generalizing s with
  | nil => simp
  | cons j l ih =>
      obtain ⟨hj, hl⟩ := List.nodup_cons.mp hl
      obtain ⟨hfault, hlock, hown, hlink⟩ := ih hl (info.readLink a s j)
      obtain ⟨hfault', hlock', hown'⟩ := info.readLink_rest a s j
      refine ⟨hfault.trans hfault', hlock.trans hlock', hown.trans hown', fun i => ?_⟩
      rw [List.foldl_cons, hlink]
      by_cases hij : i = j
      · subst hij
        rw [if_neg hj, if_pos List.mem_cons_self]
      · rw [readLink_link_congr (readLink_link_of_ne hij), readLink_link_of_ne hij]
        simp [hij]

lemma foldr_result (l : List ℕ) (s : SourceState κ) :
    (l.foldr info.linkCalculate info.kernel).result a s =
      info.kernel.result a (l.foldl (info.readLink a) s) := by
  induction l generalizing s with
  | nil => rfl
  | cons i l ih =>
      rw [List.foldr_cons, linkCalculate_eq, List.foldl_cons, readLink]
      cases (info.link i).reads with
      | none => exact ih s
      | some u => exact ih _

lemma inputs_nodup (info : SourceInfo ι κ) : info.inputs.Nodup :=
  List.nodup_range.filter _

variable (info a) in
/-- What a class adds begins with inputs that hold what their sources answer. -/
theorem result_calculate (s : SourceState κ) :
    ∃ s', info.Received a s s' ∧ info.calculate.result a s = info.kernel.result a s' := by
  obtain ⟨hfault, hlock, hown, hlink⟩ :=
    info.foldl_readLink a info.inputs_nodup { s with fault := 0 }
  refine ⟨_, ⟨hfault, hlock, hown, fun i hi u hu => ?_, fun i hi => ?_⟩,
    foldr_result info.inputs _⟩
  · rw [hlink, if_pos hi, readLink, hu]
    exact Function.update_self ..
  · rw [hlink]
    split_ifs with hmem
    · rw [readLink, hi hmem]
    · rfl

end Received

/-! ### What a read gives and leaves -/

variable {info} {table : UnitsTable} {s : SourceState κ}

/-- No flag is part of the answer. -/
lemma getValue_setLE (flag : UInt32) (name : String) (unit : UInt32) :
    (info.getValue table (s.setLE flag) name unit).1 = (info.getValue table s name unit).1 := by
  rw [getValue, getValue]
  split
  · rfl
  · split <;> rfl

/-- A read sets one of two flags or none, whatever flags there are. -/
lemma getValue_state (info : SourceInfo ι κ) (table : UnitsTable) (s : SourceState κ)
    (name : String) (unit : UInt32) :
    (∀ f, (info.getValue table (s.setLE f) name unit).2 = s.setLE f) ∧
        (info.getValue table s name unit).2 = s ∨
      ∃ g, (g = sourceLeOutput ∨ g = sourceLeUnit) ∧
        (∀ f, (info.getValue table (s.setLE f) name unit).2 = (s.setLE f).setLE g) ∧
        (info.getValue table s name unit).2 = s.setLE g := by
  by_cases hname : name = faultName
  · exact .inl ⟨fun f => by rw [getValue, if_pos hname], by rw [getValue, if_pos hname]⟩
  simp only [getValue, if_neg hname]
  cases info.getOutputByName name with
  | none => exact .inr ⟨_, .inl rfl, fun f => rfl, rfl⟩
  | some i =>
      by_cases herr : (convertOutput table (s.link i) unit).err = 0
      · refine .inl ⟨fun f => ?_, ?_⟩
        · exact if_neg (not_not.mpr herr)
        · exact if_neg (not_not.mpr herr)
      · exact .inr ⟨_, .inr rfl, fun f => if_pos herr, if_pos herr⟩

end SourceInfo

/-! ### Two classes -/

namespace RVar

/-- The link of an `rRVar`: connected, or disabled with a value of its own. -/
def link {ι : Type*} (source : Option ι) (param : String) (_ : ℕ) : LinkInfo ι where
  source := source
  param := param
  ioName := "value"
  setup := if source.isSome then 0x001B else 0x009B

/-- `rRVar`: `calculate` does no more than the limits. -/
def info {ι κ : Type*} (source : Option ι) (param : String) : SourceInfo ι κ where
  count := 1
  link := link source param
  kernel := .own (SourceInfo.postCalculate 1 (link source param)) fun _ => .done

end RVar

namespace KinematicViscosity

/-- The links of an `rKinematicViscosity`: `m_kinVisc`, `m_dynVisc` and `m_density`. -/
def link {ι : Type*} (dynVisc density : ι × String) : ℕ → LinkInfo ι
  | 0 => ⟨none, "", "result", linkOutput⟩
  | 1 => ⟨some dynVisc.1, dynVisc.2, "dynviscosity", linkInput⟩
  | _ => ⟨some density.1, density.2, "density", linkInput⟩

/-- `rKinematicViscosity::calculate` after the inputs. -/
def kernel {ι κ : Type*} (dynVisc density : ι × String) : SourceBody ι κ :=
  .own (fun s => s.setLink 0 fun l =>
      { l with
        value := (s.link 1).value.bind fun dyn => (s.link 2).value.map fun dens =>
          dyn * dens / 1000 }) fun _ =>
    .own (SourceInfo.postCalculate 3 (link dynVisc density)) fun _ => .done

/-- `rKinematicViscosity`. -/
def info {ι κ : Type*} (dynVisc density : ι × String) : SourceInfo ι κ where
  count := 3
  link := link dynVisc density
  kernel := kernel dynVisc density

end KinematicViscosity

/-! ### The scan -/

/-- The sources of a configuration. -/
structure Sources (ι κ : Type*) where
  table : UnitsTable
  info : ι → SourceInfo ι κ

namespace Sources

variable {ι κ : Type*} (S : Sources ι κ)

/-- What a source gives to a request. -/
def answer (u : ι) (t : String × UInt32) (s : SourceState κ) : SourceValue :=
  ((S.info u).getValue S.table s t.1 t.2).1

/-- The sources as objects that are computed on demand. -/
def system : Demand.System ι (SourceState κ) (String × UInt32) SourceValue where
  body v := (S.info v).calculate
  answer := S.answer
  access u t s := ((S.info u).getValue S.table s t.1 t.2).2
  answer_access u t t' s := by
    rcases (S.info u).getValue_state S.table s t'.1 t'.2 with ⟨-, h⟩ | ⟨g, -, -, h⟩
    · rw [h]
    · rw [h, answer, SourceInfo.getValue_setLE, answer]
  access_comm u t t' s := by
    rcases (S.info u).getValue_state S.table s t.1 t.2 with ⟨hf, h⟩ | ⟨g, hg, hf, h⟩ <;>
      rcases (S.info u).getValue_state S.table s t'.1 t'.2 with ⟨hf', h'⟩ | ⟨g', hg', hf', h'⟩
    · rw [h, h', h]
    · rw [h', hf, h, h']
    · rw [h', h, hf']
    · rw [h', hf, h, hf']
      refine s.setLE_comm ?_
      rcases hg with rfl | rfl <;> rcases hg' with rfl | rfl <;> decide

/-- The links from a source to those that it may read. -/
def Links (v u : ι) : Prop := (S.info v).Links u

/-- No source reads itself, however indirectly. -/
def Acyclic : Prop := ∀ v, ¬ Relation.TransGen S.Links v v

/-- For finitely many sources without a cycle the scan has a bottom to begin at. -/
lemma Acyclic.wellFounded [Finite ι] {S : Sources ι κ} (h : S.Acyclic) :
    WellFounded fun u v => (S.system.body v).Reads u := by
  have : Std.Irrefl (Relation.TransGen (Function.swap S.Links)) :=
    ⟨fun v hv => h v (Relation.transGen_swap.mp hv)⟩
  have hwf := Finite.wellFounded_of_trans_of_irrefl (Relation.TransGen (Function.swap S.Links))
  exact hwf.mono fun u v hr => .single ((S.info v).links_of_reads hr)

/-- Links that only lead down form no cycle. -/
lemma acyclic_of_rank {S : Sources ι κ} (rank : ι → ℕ)
    (h : ∀ v u, S.Links v u → rank u < rank v) : S.Acyclic := by
  have hlt : ∀ v u, Relation.TransGen S.Links v u → rank u < rank v := fun v u hvu => by
    induction hvu with
    | single hvu => exact h _ _ hvu
    | tail _ hvu ih => exact (h _ _ hvu).trans ih
  exact fun v hv => lt_irrefl _ (hlt v v hv)

variable [DecidableEq ι]

/-- The loop of `rDataManager::Proccesing` over `rSource::preCalculate`. -/
def preCalculate (l : List ι) (w : Demand.World ι (SourceState κ) (String × UInt32) SourceValue) :
    Demand.World ι (SourceState κ) (String × UInt32) SourceValue :=
  l.foldl (fun w v => { w with isCalc := Function.update w.isCalc v false }) w

/-- The loops of `rDataManager::Proccesing` over the list of the sources, in a running manager, from
any states and marks. The number bounds the depth of the calls. -/
def proccesing (n : ℕ) (l : List ι) (cell : ι → SourceState κ) (isCalc : ι → Bool) :
    Option (Demand.World ι (SourceState κ) (String × UInt32) SourceValue) :=
  S.system.scan n l (preCalculate l ⟨cell, isCalc, true, [], []⟩)

/-- After the first loop no source of the list is marked. -/
lemma preCalculate_eq_start {l : List ι} (hl : ∀ v, v ∈ l) (cell : ι → SourceState κ)
    (isCalc : ι → Bool) :
    preCalculate l ⟨cell, isCalc, true, [], []⟩ = Demand.World.start cell := by
  suffices h : ∀ (l : List ι) (isCalc : ι → Bool), preCalculate l ⟨cell, isCalc, true, [], []⟩ =
      (⟨cell, fun v => if v ∈ l then false else isCalc v, true, [], []⟩ :
        Demand.World ι (SourceState κ) (String × UInt32) SourceValue) by
    rw [h, Demand.World.start]
    simp [hl]
  intro l
  induction l with
  | nil =>
      intro isCalc
      simp [preCalculate]
  | cons v l ih =>
      intro isCalc
      refine (ih (Function.update isCalc v false)).trans ?_
      congr 1
      funext u
      by_cases huv : u = v
      · simp [huv]
      · simp [huv]

lemma preCalculate_started (l : List ι)
    (w : Demand.World ι (SourceState κ) (String × UInt32) SourceValue) :
    (preCalculate l w).started = w.started := by
  induction l generalizing w with
  | nil => rfl
  | cons v l ih => exact ih _

omit [DecidableEq ι] in
/-- Being read changes no link. -/
lemma accessed_link (v : ι) (ts : List (String × UInt32)) (s : SourceState κ) :
    (S.system.accessed v ts s).link = s.link := by
  induction ts generalizing s with
  | nil => rfl
  | cons t ts ih =>
      have hlink : ((S.info v).getValue S.table s t.1 t.2).2.link = s.link := by
        rcases (S.info v).getValue_state S.table s t.1 t.2 with ⟨-, h⟩ | ⟨g, -, -, h⟩
        · rw [h]
        · rw [h]
          rfl
      exact (ih _).trans hlink

/-- The state behind a scan from the states `cell`: each source has been computed, each connected
input has asked its source, what was answered is what the source holds in the end, and each class
began with inputs that hold it; it is still there if the class leaves the link alone. -/
structure Scanned (cell : ι → SourceState κ)
    (w : Demand.World ι (SourceState κ) (String × UInt32) SourceValue) : Prop where
  started : ∀ v, v ∈ w.started
  asked : ∀ v, ∀ i ∈ (S.info v).inputs, ∀ u, ((S.info v).link i).reads = some u →
    ∃ e ∈ w.log, e.reader = v ∧ e.source = u ∧ e.request.1 = ((S.info v).link i).param
  answer : ∀ e ∈ w.log, e.answer = S.answer e.source e.request (w.cell e.source)
  body : ∀ v, ∃ s,
    (S.info v).Received (fun u t => S.answer u t (w.cell u)) (cell v) s ∧
      w.cell v = S.system.accessed v (w.requests v)
        ((S.info v).kernel.result (fun u t => S.answer u t (w.cell u)) s)
  link : ∀ v, ∀ i ∈ (S.info v).inputs, (S.info v).Leaves i → ∀ u,
    ((S.info v).link i).reads = some u →
      ((w.cell v).link i).value = some ((S.answer u
        (((S.info v).link i).param, ((cell v).link i).unit) (w.cell u)).value.getD 0)

lemma scanned_of_scan {S : Sources ι κ} (hS : WellFounded fun u v => (S.system.body v).Reads u)
    {cell : ι → SourceState κ} {n : ℕ} {l : List ι} (hl : ∀ v, v ∈ l)
    {w : Demand.World ι (SourceState κ) (String × UInt32) SourceValue}
    (hw : S.system.scan n l (Demand.World.start cell) = some w) (hr : w.running = true) :
    S.Scanned cell w := by
  obtain ⟨-, hmem, -, hlog, -⟩ := Demand.System.scan_spec hS hl hw hr
  have hbody (v : ι) : ∃ s,
      (S.info v).Received (fun u t => S.answer u t (w.cell u)) (cell v) s ∧
        w.cell v = S.system.accessed v (w.requests v)
          ((S.info v).kernel.result (fun u t => S.answer u t (w.cell u)) s) := by
    obtain ⟨s, hs, hresult⟩ :=
      (S.info v).result_calculate (fun u t => S.answer u t (w.cell u)) (cell v)
    refine ⟨s, hs, ?_⟩
    rw [← hresult]
    exact Demand.System.scan_cell hS hl hw hr v
  refine ⟨hmem, fun v i hi u hu => ?_, Demand.System.scan_answer hS hl hw hr, hbody,
    fun v i hi hleaves u hu => ?_⟩
  · obtain ⟨unit, hd⟩ := (S.info v).mem_demands (Demand.System.valueAnswer hS cell) hi hu (cell v)
    have he : (⟨v, u, (((S.info v).link i).param, unit),
        Demand.System.valueAnswer hS cell u (((S.info v).link i).param, unit)⟩ :
          Demand.Entry ι (String × UInt32) SourceValue) ∈ w.log := by
      rw [(Multiset.coe_eq_coe.mp hlog).mem_iff]
      exact List.mem_flatMap.mpr ⟨v, hmem v, List.mem_map.mpr ⟨_, hd, rfl⟩⟩
    exact ⟨_, he, rfl, rfl, rfl⟩
  · obtain ⟨s, hs, hcell⟩ := hbody v
    rw [hcell, accessed_link, hleaves, hs.link i hi u hu]

/-- A scan of any sources ends, whatever their links, and computes no source twice. If the links
form no cycle and nothing halts the scan, each source of a list of them all is computed, from inputs
that hold what their sources hold in the end, and any other such list leaves the same. -/
theorem proccesing_spec [Fintype ι] (l : List ι) (cell : ι → SourceState κ) (isCalc : ι → Bool) :
    ∃ w, (∀ n, Fintype.card ι < n → S.proccesing n l cell isCalc = some w) ∧ w.started.Nodup ∧
      (S.Acyclic → (∀ v, v ∈ l) → w.running = true → S.Scanned cell w ∧
        ∀ l' : List ι, (∀ v, v ∈ l') → ∀ n isCalc' w',
          S.proccesing n l' cell isCalc' = some w' → w'.running = true ∧ w'.cell = w.cell) := by
  have hcard : (Demand.System.unmarked (preCalculate l ⟨cell, isCalc, true, [], []⟩)).card <
      Fintype.card ι + 1 := Nat.lt_succ_of_le (Finset.card_le_univ _)
  obtain ⟨w, new, hw, hgrows⟩ := S.system.scan_grows _ l hcard
  have hstarted : w.started = new := by
    rw [hgrows.started, preCalculate_started]
    rfl
  refine ⟨w, fun n hn => S.system.scan_mono hn l hw, hstarted ▸ hgrows.nodup,
    fun hacyclic hl hr => ?_⟩
  rw [preCalculate_eq_start hl] at hw
  refine ⟨scanned_of_scan hacyclic.wellFounded hl hw hr, fun l' hl' n isCalc' w' hw' => ?_⟩
  rw [proccesing, preCalculate_eq_start hl'] at hw'
  obtain ⟨hr', hcell, -⟩ := Demand.System.scan_order hacyclic.wellFounded hl hl' hw hw' hr
  exact ⟨hr', hcell⟩

/-- A kinematic viscosity from two variables, the first in the list. -/
def viscosity : Sources (Fin 3) Unit where
  table _ := ⟨none, none⟩
  info := ![KinematicViscosity.info (1, "value") (2, "value"), RVar.info none "", RVar.info none ""]

/-- Their states before: the variables are 3 and 800, and no limits are set. -/
def viscosityCell : Fin 3 → SourceState Unit :=
  ![⟨0, 0, fun _ => ⟨some 0, 0, {}⟩, ()⟩, ⟨0, 0, fun _ => ⟨some 3, 0, {}⟩, ()⟩,
    ⟨0, 0, fun _ => ⟨some 800, 0, {}⟩, ()⟩]

example : ((viscosity.proccesing 4 [0, 1, 2] viscosityCell fun _ => true).map
    fun w => (w.started, ((w.cell 0).link 0).value, w.log.map Demand.Entry.source)) =
      some ([0, 1, 2], some (12 / 5), [1, 2]) := by decide +kernel

lemma viscosity_acyclic : viscosity.Acyclic := by
  refine acyclic_of_rank ![1, 0, 0] fun v u huv => ?_
  rcases huv with ⟨i, hi, hu⟩ | hk
  · revert v u i
    decide
  · -- no kernel of the three reads
    fin_cases v
    · obtain ⟨_, _, h⟩ := hk
      exact h.elim
    · obtain ⟨_, h⟩ := hk
      exact h.elim
    · obtain ⟨_, h⟩ := hk
      exact h.elim

/-- A kinematic viscosity keeps what it has read. -/
lemma viscosity_leaves {i : ℕ} (hi : i = 1 ∨ i = 2) : (viscosity.info 0).Leaves i := by
  rcases hi with rfl | rfl <;> exact fun _ _ => rfl

/-- The viscosity is computed before its turn would come, and its inputs hold the variables. -/
theorem proccesing_spec_viscosity :
    ∃ w, viscosity.proccesing 4 [0, 1, 2] viscosityCell (fun _ => true) = some w ∧
      viscosity.Scanned viscosityCell w ∧
      ((w.cell 0).link 1).value = some 3 ∧ ((w.cell 0).link 2).value = some 800 ∧
      ∀ l' : List (Fin 3), (∀ v, v ∈ l') → ∀ n isCalc' w',
        viscosity.proccesing n l' viscosityCell isCalc' = some w' → w'.cell = w.cell := by
  obtain ⟨w, hw, -, hspec⟩ := viscosity.proccesing_spec [0, 1, 2] viscosityCell fun _ => true
  have hrun : (viscosity.proccesing 4 [0, 1, 2] viscosityCell fun _ => true).map
      (fun w => (w.running, (viscosity.answer 1 ("value", 0) (w.cell 1)).value,
        (viscosity.answer 2 ("value", 0) (w.cell 2)).value)) = some (true, some 3, some 800) := by
    decide +kernel
  rw [hw 4 (by decide), Option.map_some, Option.some_inj, Prod.mk.injEq, Prod.mk.injEq] at hrun
  obtain ⟨hrunning, hdyn, hdens⟩ := hrun
  obtain ⟨hscanned, horder⟩ := hspec viscosity_acyclic (by decide) hrunning
  have hlink₁ := hscanned.link 0 1 (by decide) (viscosity_leaves (.inl rfl)) 1 rfl
  have hlink₂ := hscanned.link 0 2 (by decide) (viscosity_leaves (.inr rfl)) 2 rfl
  refine ⟨w, hw 4 (by decide), hscanned, hlink₁.trans ?_, hlink₂.trans ?_,
    fun l' hl' n m w' hw' => (horder l' hl' n m w' hw').2⟩
  · exact congrArg some (congrArg (Option.getD · 0) hdyn)
  · exact congrArg some (congrArg (Option.getD · 0) hdens)

end Sources

end Tritonn

import Tritonn.Data.Conservation
import Tritonn.Prove.Diagram

/-!
What a cycle of the prover does.

* `Ready` says what the handler of a state finds: the state before the cycle, but for the detectors
  and the averages, and with the setup of the last `IDLE`; `scan_cases` is a whole cycle;
* `edges` is the diagram of the machine, and `dispatch_follows` says that a handler follows one of
  its edges and keeps the setup;
* `scan_follows` is a cycle that stays under way, as an edge of the diagram.
-/

namespace Tritonn

namespace Prove

open ProveState (edges usesTimer)

variable {p q : Prove} {i : ProveInput}

/-! ### The small functions -/

/-- The first detector of the present direction comes next. -/
lemma setWaitD1_eq : p.setWaitD1 = p.setState (.waitD1 p.way) := by
  unfold setWaitD1
  cases p.way <;> rfl

lemma ite_waitD2 (w : Way) :
    (if w = .forward then .waitd2 else .waitd2Reverse) = ProveState.waitD2 w := by
  cases w <;> rfl

lemma ite_errorD1 (w : Way) :
    (if w = .forward then .errord1 else .errord2Reverse) = ProveState.errorD1 w := by
  cases w <;> rfl

lemma ite_errorD2 (w : Way) :
    (if w = .forward then .errord2 else .errord1Reverse) = ProveState.errorD2 w := by
  cases w <;> rfl

lemma unlessAborted_abort {rest : Prove → Prove} (h : p.command = .abort) :
    p.unlessAborted rest = (p.event .commandAbort).setState .idle := by
  simp [unlessAborted, checkCommand, h]

/-- Without the command to abort, `checkCommand` sends an event at most. -/
lemma checkCommand_of_ne (h : p.command ≠ .abort) :
    ∃ out, p.checkCommand = (p.withOut out, false) := by
  rw [checkCommand]
  split
  · exact ⟨_, rfl⟩
  · contradiction
  · exact ⟨_, rfl⟩
  · exact ⟨p.out, rfl⟩

lemma unlessAborted_rest (rest : Prove → Prove) (h : p.command ≠ .abort) :
    ∃ out, p.unlessAborted rest = rest (p.withOut out) := by
  obtain ⟨out, hout⟩ := checkCommand_of_ne h
  exact ⟨out, by simp [unlessAborted, hout]⟩

/-- To prove a property of what a handler leaves behind. -/
lemma unlessAborted_ind {P : Prove → Prop} {rest : Prove → Prove}
    (habort : p.command = .abort → P ((p.event .commandAbort).setState .idle))
    (hrest : ∀ out, P (rest (p.withOut out))) : P (p.unlessAborted rest) := by
  by_cases h : p.command = .abort
  · rw [unlessAborted_abort h]
    exact habort h
  · obtain ⟨out, hout⟩ := unlessAborted_rest rest h
    rw [hout]
    exact hrest out

lemma getD_ind {P : Prove → Prop} {o : Option Prove} (hp : P p) (ho : ∀ r, o = some r → P r) :
    P (o.getD p) := by
  cases o with
  | none => exact hp
  | some r => exact ho r rfl

/-! ### The handlers follow the diagram -/

/-- A handler leads along an edge of the diagram. It keeps the setup and the selected stream, and
but for the one of `START` the latched detectors. It leaves the timer running for a state that does
not use it only after the command to abort and a failed stabilization. -/
structure Follows (p q : Prove) : Prop where
  edge : (q.state, q.way) ∈ edges (p.has ProveSetup.valve4way) p.state p.way
  setup : q.setup = p.setup
  strIdx : q.strIdx = p.strIdx
  fixDet : p.state ≠ .start → q.fixDet = p.fixDet
  timer : q.timer.isStart = true → q.state.usesTimer = true ∨ p.timer.isStart = true ∧
    (p.state.usesTimer = true → p.command = .abort ∨ q.state = .errorstab)

lemma unlessAborted_follows {rest : Prove → Prove} (hf : p.state ≠ .finish)
    (hw : p.state ≠ .waycomplited) (hrest : ∀ out, p.Follows (rest (p.withOut out))) :
    p.Follows (p.unlessAborted rest) :=
  unlessAborted_ind (fun h => ⟨by simpa using ProveState.idle_mem_edges hf hw, by simp, by simp,
    by simp, fun ht => .inr ⟨ht, fun _ => .inl h⟩⟩) hrest

lemma onIdle_follows (h : p.state = .idle ∨ p.state = .finish) : p.Follows p.onIdle := by
  rw [onIdle]
  rcases h with h | h <;> split <;>
    exact ⟨by simp [h, edges], by simp, by simp, by simp, by simp_all [usesTimer]⟩

lemma onStart_follows (h : p.state = .start) : p.Follows (p.onStart i) := by
  refine unlessAborted_follows (by simp [h]) (by simp [h]) fun out => ?_
  dsimp only
  split_ifs
  · rw [connectToLine]
    split_ifs <;> exact ⟨by simp [h, edges], by simp, by simp, fun hne => absurd h hne,
      by simp_all [usesTimer]⟩
  all_goals exact ⟨by simp [h, edges], by simp, by simp, by simp, by simp_all [usesTimer]⟩

lemma onRunBall_follows (h : p.state = .runball) : p.Follows (p.onRunBall i) := by
  refine unlessAborted_follows (by simp [h]) (by simp [h]) fun out => ?_
  simp only [runBallFinished, setWaitD1_eq]
  split_ifs <;> exact ⟨by simp [h, edges], by simp, by simp, by simp, by simp_all [usesTimer]⟩

lemma checkStab_follows {s : StabValue} {start present maxstab : LREAL}
    (hp : p.state = .stabilization) (h : p.checkStab s start present maxstab = some q) :
    p.Follows q := by
  rw [checkStab] at h
  split_ifs at h
  cases h
  exact ⟨by simp [hp, edges], by simp, by simp, by simp, by simp_all [usesTimer]⟩

lemma onStabilization_follows (h : p.state = .stabilization) :
    p.Follows (p.onStabilization i) := by
  refine unlessAborted_follows (by simp [h]) (by simp [h]) fun out => ?_
  split_ifs
  · exact ⟨by simp [h, edges], by simp, by simp, by simp, by simp_all [usesTimer]⟩
  · exact ⟨by simp [h, edges], by simp, by simp, by simp, by simp_all [usesTimer]⟩
  · refine getD_ind ⟨by simp [h, edges], by simp, by simp, by simp, by simp_all [usesTimer]⟩
      fun r hr => ?_
    simp only [Option.orElse_eq_orElse, Option.orElse_eq_or, Option.or_eq_some_iff] at hr
    have hstab {s : StabValue} {start present maxstab : LREAL}
        (hs : (p.withOut out).checkStab s start present maxstab = some r) : p.Follows r := by
      obtain ⟨he, hsetup, hidx, hdet, ht⟩ := checkStab_follows (by exact h) hs
      exact ⟨he, hsetup, hidx, hdet, ht⟩
    obtain hr | ⟨-, hr | ⟨-, hr | ⟨-, hr⟩⟩⟩ := hr <;> exact hstab hr

lemma onValveToUp_follows (h : p.state = .valvetoup) : p.Follows p.onValveToUp := by
  refine unlessAborted_follows (by simp [h]) (by simp [h]) fun out => ?_
  dsimp only
  split_ifs <;> exact ⟨by simp [h, edges], by simp, by simp, by simp, by simp_all [usesTimer]⟩

lemma onWaitToUp_follows (h : p.state = .waittoup) : p.Follows (p.onWaitToUp i) := by
  refine unlessAborted_follows (by simp [h]) (by simp [h]) fun out => ?_
  dsimp only
  split_ifs <;> exact ⟨by simp [h, edges], by simp, by simp, by simp, by simp_all [usesTimer]⟩

lemma onValveToDown_follows (h : p.state = .valvetodown) : p.Follows (p.onValveToDown i) := by
  refine unlessAborted_follows (by simp [h]) (by simp [h]) fun out => ?_
  simp only [setWaitD1_eq]
  split_ifs <;> exact ⟨by simp [h, edges], by simp, by simp, by simp, by simp_all [usesTimer]⟩

lemma onWaitD1_follows (h : p.state = .waitd1 ∨ p.state = .waitd1Reverse) :
    p.Follows (p.onWaitD1 i) := by
  refine unlessAborted_follows (by grind) (by grind) fun out => ?_
  simp only [ite_errorD1, ite_waitD2]
  rcases h with h | h <;> split_ifs <;> try split
  all_goals exact ⟨by simp [h, edges], by simp, by simp, by simp, by simp_all [usesTimer]⟩

lemma onWaitD2_follows (h : p.state = .waitd2 ∨ p.state = .waitd2Reverse) :
    p.Follows (p.onWaitD2 i) := by
  refine unlessAborted_follows (by grind) (by grind) fun out => ?_
  simp only [ite_errorD2]
  rcases h with h | h <;> split_ifs <;> try split
  all_goals exact ⟨by simp [h, edges], by simp, by simp, by simp, by simp_all [usesTimer]⟩

lemma onCalculate_follows (h : p.state = .calculate) : p.Follows (p.onCalculate i) := by
  refine unlessAborted_follows (by simp [h]) (by simp [h]) fun out => ?_
  split_ifs <;> exact ⟨by simp [h, edges], by simp, by simp, by simp, by simp_all [usesTimer]⟩

lemma onReturnBall_follows (h : p.state = .returnball) : p.Follows (p.onReturnBall i) := by
  refine unlessAborted_follows (by simp [h]) (by simp [h]) fun out => ?_
  dsimp only [onReturnBallNoValve]
  split_ifs <;> exact ⟨by simp [h, edges], by simp, by simp, by simp, by simp_all [usesTimer]⟩

lemma onWayComplited_follows (h : p.state = .waycomplited) : p.Follows p.onWayComplited := by
  rw [onWayComplited]
  cases hw : p.way <;> split_ifs <;>
    exact ⟨by simp_all [edges], by simp, by simp, by simp, by simp_all [usesTimer]⟩

lemma onAbort_follows (h : p.state = .abort) : p.Follows (p.onAbort i) := by
  rw [onAbort]
  split_ifs <;> exact ⟨by simp [h, edges], by simp, by simp, by simp, by simp_all [usesTimer]⟩

lemma onErrorState_follows (h : p.state.isError = true) : p.Follows p.onErrorState := by
  have hedges := ProveState.edges_of_isError (p.has ProveSetup.valve4way) p.way h
  have htimer := ProveState.usesTimer_of_isError h
  rw [onErrorState]
  split <;> exact ⟨by simp [hedges], by simp, by simp, by simp, by simp_all⟩

theorem dispatch_follows : p.Follows (p.dispatch i) := by
  rw [dispatch]
  cases h : p.state with
  | idle => exact onIdle_follows (.inl h)
  | finish => exact onIdle_follows (.inr h)
  | start => exact onStart_follows h
  | stabilization => exact onStabilization_follows h
  | runball => exact onRunBall_follows h
  | valvetoup => exact onValveToUp_follows h
  | waittoup => exact onWaitToUp_follows h
  | valvetodown => exact onValveToDown_follows h
  | waitd1 => exact onWaitD1_follows (.inl h)
  | waitd1Reverse => exact onWaitD1_follows (.inr h)
  | waitd2 => exact onWaitD2_follows (.inl h)
  | waitd2Reverse => exact onWaitD2_follows (.inr h)
  | calculate => exact onCalculate_follows h
  | returnball => exact onReturnBall_follows h
  | waycomplited => exact onWayComplited_follows h
  | abort => exact onAbort_follows h
  | _ => exact onErrorState_follows (by rw [h]; rfl)

/-! ### A cycle -/

/-- More bits do not hide those that are set. -/
lemma or_and_ne_zero {a mask : UInt16} (b : UInt16) (h : a &&& mask ≠ 0) :
    (a ||| b) &&& mask ≠ 0 := by
  have hdistrib : (a ||| b) &&& mask = (a &&& mask) ||| (b &&& mask) :=
    UInt16.toBitVec_inj.mp (by ext k; simp [Bool.and_or_distrib_right])
  rw [hdistrib, ne_eq, UInt16.or_eq_zero_iff]
  exact fun h0 => h h0.1

/-- What a part of `calculate` before the handler leaves as it is. A latched detector stays latched,
and the state changes when the station does not have the stream. -/
structure Keeps (i : ProveInput) (p q : Prove) : Prop where
  way : q.way = p.way
  timer : q.timer = p.timer
  strIdx : q.strIdx = p.strIdx
  command : q.command = p.command
  setup : q.setup = p.setup
  fixDet : ∀ mask, p.fixDet &&& mask ≠ 0 → q.fixDet &&& mask ≠ 0
  state : q.state = p.state ∨ q.state = .errorstreamid ∧ i.streams.length ≤ p.strIdx.toNat

lemma Keeps.of_fixDet (hw : q.way = p.way) (ht : q.timer = p.timer) (hi : q.strIdx = p.strIdx)
    (hc : q.command = p.command) (hs : q.setup = p.setup) (hd : q.fixDet = p.fixDet)
    (hst : q.state = p.state) : Keeps i p q :=
  ⟨hw, ht, hi, hc, hs, fun _ h => by rwa [hd], .inl hst⟩

lemma Keeps.trans {r : Prove} (h : Keeps i p q) (h' : Keeps i q r) : Keeps i p r where
  way := h'.way.trans h.way
  timer := h'.timer.trans h.timer
  strIdx := h'.strIdx.trans h.strIdx
  command := h'.command.trans h.command
  setup := h'.setup.trans h.setup
  fixDet := fun mask hm => h'.fixDet mask (h.fixDet mask hm)
  state := by
    rcases h'.state with hs | hs
    · rw [hs]
      exact h.state
    · exact .inr ⟨hs.1, by simpa only [h.strIdx] using hs.2⟩

/-- The questions to the module do not change the state, whether they are answered or not. -/
lemma readModule_keeps : ∃ q, Keeps i p q ∧ q.state = p.state ∧
    (p.readModule i = .ok q ∨ p.readModule i = .error q) := by
  simp only [readModule, ModuleCRM.getValue_four]
  split_ifs
  · exact ⟨p, .of_fixDet rfl rfl rfl rfl rfl rfl rfl, rfl, .inl rfl⟩
  · split
    · exact ⟨_, .of_fixDet (by simp) (by simp) (by simp) (by simp) (by simp) (by simp) (by simp),
        by simp, .inr rfl⟩
    · split_ifs
      · exact ⟨p, .of_fixDet rfl rfl rfl rfl rfl rfl rfl, rfl, .inl rfl⟩
      · refine ⟨_, ?_, ?_, .inl rfl⟩
        · exact .of_fixDet rfl rfl rfl rfl rfl rfl rfl
        · rfl

lemma detectorsProcessing_keeps : Keeps i p (p.detectorsProcessing i) := by
  have hlatch (t : TickCount) : Keeps i p { p with
      fixDet := p.fixDet ||| p.moduleDet, curDet := p.moduleDet, timerBounce := t } :=
    ⟨rfl, rfl, rfl, rfl, rfl, fun _ => or_and_ne_zero _, .inl rfl⟩
  rw [detectorsProcessing]
  split_ifs
  · exact hlatch _
  · exact hlatch _
  all_goals exact .of_fixDet rfl rfl rfl rfl rfl rfl rfl

lemma calcAverage_keeps : Keeps i p (p.calcAverage i) := by
  rw [calcAverage]
  split_ifs
  · exact .of_fixDet rfl rfl rfl rfl rfl rfl rfl
  dsimp only
  split
  · next hstr =>
      exact ⟨by simp, by simp, by simp, by simp, by simp, fun mask hm => by simpa using hm,
        .inr ⟨rfl, List.getElem?_eq_none_iff.mp hstr⟩⟩
  · split_ifs <;> exact .of_fixDet rfl rfl rfl rfl rfl rfl rfl

lemma checkBadCommand_keeps : Keeps i p p.checkBadCommand := by
  rw [checkBadCommand]
  split <;> exact .of_fixDet rfl rfl rfl rfl rfl rfl rfl

lemma prepare_keeps : Keeps i p (p.prepare i) :=
  (detectorsProcessing_keeps.trans calcAverage_keeps).trans checkBadCommand_keeps

/-- What the handler of a state finds, in terms of the state before the cycle: the command is the
one that was written last, and but in `IDLE` the setup is the saved one. -/
structure Ready (p : Prove) (i : ProveInput) (q : Prove) : Prop where
  way : q.way = p.way
  timer : q.timer = p.timer
  strIdx : q.strIdx = p.strIdx
  command : q.command = (p.load i).command
  setup : p.state ≠ .idle → q.setup = ⟨p.setup.saved, p.setup.saved⟩
  fixDet : ∀ mask, p.fixDet &&& mask ≠ 0 → q.fixDet &&& mask ≠ 0
  state : q.state = p.state ∨ q.state = .errorstreamid ∧ i.streams.length ≤ p.strIdx.toNat

lemma Ready.trans {r : Prove} (h : p.Ready i q) (h' : Keeps i q r) : p.Ready i r where
  way := h'.way.trans h.way
  timer := h'.timer.trans h.timer
  strIdx := h'.strIdx.trans h.strIdx
  command := h'.command.trans h.command
  setup := fun hne => h'.setup.trans (h.setup hne)
  fixDet := fun mask hm => h'.fixDet mask (h.fixDet mask hm)
  state := by
    rcases h'.state with hs | hs
    · rw [hs]
      exact h.state
    · exact .inr ⟨hs.1, by simpa only [h.strIdx] using hs.2⟩

/-- The beginning of a cycle, up to the comparison of the setup. -/
lemma checkSetup_ready :
    p.Ready i (checkSetup { p.load i with isCalc := true, link := i.link }) ∧
      (checkSetup { p.load i with isCalc := true, link := i.link }).state = p.state := by
  rw [checkSetup]
  split_ifs with hdiff hidle
  · refine ⟨⟨rfl, rfl, rfl, rfl, fun _ => ?_, fun _ h => h, .inl rfl⟩, rfl⟩
    simp only [CmpUINT.isDiff, load] at hdiff ⊢
    grind
  · exact ⟨⟨rfl, rfl, rfl, rfl, fun hne => absurd hidle hne, fun _ h => h, .inl rfl⟩, rfl⟩
  · exact ⟨⟨rfl, rfl, rfl, rfl, fun _ => rfl, fun _ h => h, .inl rfl⟩, rfl⟩

/-- A cycle is the handler of a state, which forgets the command, or ends before it with an error
of the module. -/
theorem scan_cases (p : Prove) (i : ProveInput) :
    ∃ q, p.Ready i q ∧ (p.scan i = q ∧ q.state = p.state ∨
      p.scan i = { q.dispatch i with command := .none }) := by
  obtain ⟨hready, hstate⟩ := checkSetup_ready (p := p) (i := i)
  obtain ⟨q, hq, hqs, h | h⟩ :=
    readModule_keeps (p := checkSetup { p.load i with isCalc := true, link := i.link }) (i := i)
  · refine ⟨q.prepare i, (hready.trans hq).trans prepare_keeps, .inr ?_⟩
    unfold scan calculate
    rw [if_neg (by simp [load]), h]
  · refine ⟨q, hready.trans hq, .inl ⟨?_, hqs.trans hstate⟩⟩
    unfold scan calculate
    rw [if_neg (by simp [load]), h]

/-- The prover has the four-way valve, by the saved setup. -/
def valve4way (p : Prove) : Bool := p.setup.saved &&& ProveSetup.valve4way != 0

/-- The saved setup changes in `IDLE` only. -/
lemma scan_saved (h : p.state ≠ .idle) : (p.scan i).setup.saved = p.setup.saved := by
  obtain ⟨q, hq, ⟨hscan, -⟩ | hscan⟩ := scan_cases p i
  · rw [hscan, hq.setup h]
  · rw [hscan]
    dsimp only
    rw [dispatch_follows.setup, hq.setup h]

/-- A cycle that stays in the proving run or finishes it leaves the state and the direction alone,
or follows an edge of the diagram. -/
theorem scan_edge (h : p.state ≠ .idle)
    (hq : (p.scan i).state.isUnderWay = true ∨ (p.scan i).state = .finish) :
    ((p.scan i).state, (p.scan i).way) = (p.state, p.way) ∨
      ((p.scan i).state, (p.scan i).way) ∈ edges p.valve4way p.state p.way := by
  obtain ⟨q, hr, ⟨hscan, hstate⟩ | hscan⟩ := scan_cases p i
  · left
    rw [hscan, hstate, hr.way]
  · right
    rw [hscan] at hq ⊢
    have hedge := (dispatch_follows (p := q) (i := i)).edge
    have hvalve : q.has ProveSetup.valve4way = p.valve4way := by
      rw [has, hr.setup h, valve4way]
    rw [hvalve, hr.way] at hedge
    rcases hr.state with hs | ⟨hs, -⟩
    · rwa [hs] at hedge
    · -- A lost stream ends the run in the same cycle.
      simp only [hs, edges, List.mem_cons, Prod.mk.injEq, List.not_mem_nil, or_false] at hedge
      obtain ⟨he, -⟩ | ⟨he, -⟩ := hedge <;> simp [he, ProveState.isUnderWay] at hq

/-! ### Runs from power-on -/

/-- The prover after power-on: its place in the configuration, at rest. -/
def powerOn (moduleNum : UInt8) (moduleName : String) (setup : CmpUINT) (strIdx : UInt16) :
    Prove where
  moduleNum := moduleNum
  moduleName := moduleName
  setup := setup
  strIdx := strIdx

lemma run_concat (l : List ProveInput) : p.run (l ++ [i]) = (p.run l).scan i := by
  rw [run, List.foldl_append]
  rfl

lemma run_append_cons (pre m : List ProveInput) :
    p.run (pre ++ i :: m) = ((p.run pre).scan i).run m := by
  simp [run]

/-! ### Cycles on a station with one stream -/

/-- A prover without a valve and with one detector, `NOVALVE` and `ONEDETECTOR`. -/
def oneDetector : UInt16 := ProveSetup.novalve ||| ProveSetup.onedetector

/-- A cycle at a tick of the clock, in which the operator writes a setup and may write a command,
and the module counts at one hertz and reports the detectors. -/
def cycleAt (setup : UInt16) (tick : UInt32) (command : Option UInt16) (det : Fin 4 → UInt8) :
    ProveInput where
  command := command
  setup := some setup
  crm := some ⟨false, det, ⟨1, 0⟩⟩
  streams := [Station.emptyStream]
  tickBounce := tick
  tickStart := tick
  tickFinish := tick

/-- A cycle without a command, in which no detector is reported. -/
def quietAt (setup : UInt16) (tick : UInt32) : ProveInput := cycleAt setup tick none fun _ => 0

end Prove

end Tritonn

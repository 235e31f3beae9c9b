import Tritonn.Sampler.Accounting

/-!
Pause and resume of the sampler.

* `Silent` says that neither input of a cycle is set, so that only its command counts, and
  `Recovers` that there are commands that bring the sampler to a rest;
* `Controlled` is the property of a cycle: the commands bring the sampler to a rest before and
  behind it, stop a working one, and behind a pause resume it;
* `Pauses` is a cycle in which the command to pause meets a working state;
* `run_pause` says that a paused sampler stays paused, whatever is commanded;
* `controlled_iff` says that in every run the cycles are controlled if and only if none pauses.
-/

namespace Tritonn

namespace Sampler

variable {s t r : Sampler} {i : SamplerInput}

/-- Neither input is set. -/
def Silent (i : SamplerInput) : Prop :=
  (i.ioStart.any fun value => decide (0 < value)) = false ∧
    (i.ioStop.any fun value => decide (0 < value)) = false

/-- The counters of a run of grabs. -/
def counters (s : Sampler) : UInt32 × UInt32 × UInt32 × LREAL × LREAL × UInt32 :=
  (s.grabCount, s.grabPresent, s.grabRemain, s.canPresent, s.canRemain, s.timeRemain)

/-- There are commands that bring the sampler to a rest, whatever else reaches it meanwhile. -/
def Recovers (s : Sampler) : Prop :=
  ∃ commands : List (Option UInt16), ∀ l : List SamplerInput, l.map (·.command) = commands →
    (∀ i ∈ l, Silent i) → ∃ t, s.run l = some t ∧ t.state.rests = true

/-- A cycle in which the command to pause meets a working state, which a start by the input may have
just brought about. -/
def Pauses (s : Sampler) (i : SamplerInput) : Prop :=
  (s.load i).command = .pause ∧
    if startsByInput i (s.begun i) then
      i.set.select < 2 ∧ ((s.load i).method = .volume ∨ (s.load i).method = .mass)
    else ((s.begun i).checkStop i).1.state.isWork = true

/-- The sampler `r` behind a cycle that paused it in the state of `t`: after any other commands,
`RESUME` returns to that state with the counters of then, and `STOP` ends the run. -/
def Resumes (t r : Sampler) : Prop :=
  ∀ l : List SamplerInput,
    (∀ j ∈ l, Silent j ∧ j.command ≠ some 145 ∧ j.command ≠ some 2) → ∀ j, Silent j →
      (j.command = some 145 →
        ∃ q, r.run (l ++ [j]) = some q ∧ q.state = t.state ∧ q.counters = t.counters) ∧
      (j.command = some 2 → ∃ q, r.run (l ++ [j]) = some q ∧ q.state.rests = true)

/-- The commands have the sampler in hand. -/
structure Controlled (s : Sampler) (i : SamplerInput) : Prop where
  recovers : s.Recovers
  stops : s.state.isWork = true → Silent i → i.command = some 2 →
    ∃ r, s.scan i = some r ∧ r.state = .finish
  resumes : s.Pauses i → ∀ t r, s.entered i = some t → s.scan i = some r → Resumes t r
  behind : ∀ r, s.scan i = some r → r.Recovers

/-! ### Cycles with a command only -/

lemma checkStop_silent (h : Silent i) : (s.checkStop i).1.state = s.state := by
  rw [checkStop]
  cases hstop : i.ioStop with
  | none => rfl
  | some value =>
      have hvalue : decide (0 < value) = false := by simpa [hstop] using h.2
      simp only [hvalue, Bool.false_and, Bool.false_eq_true, if_false]
      split_ifs <;> rfl

lemma not_startsByInput (h : Silent i) : startsByInput i s = false := by
  rw [startsByInput]
  cases hstart : i.ioStart with
  | none => simp
  | some value =>
      have hvalue : decide (0 < value) = false := by simpa [hstart] using h.1
      simp [hvalue]

/-- The handler of a silent cycle finds the state of the cycle before and the command. -/
lemma entered_silent (h : Silent i) :
    ∃ t, s.entered i = some t ∧ t.state = s.state ∧ t.command = (s.load i).command := by
  obtain ⟨t, ht, hsame, hstate⟩ :=
    checkIO_of_not_startsByInput (s := s.begun i) (not_startsByInput h)
  exact ⟨t, ht, hstate.trans (checkStop_silent h), hsame.command⟩

lemma load_command {value : UInt16} (h : i.command = some value) :
    (s.load i).command = .ofUINT value := by simp [load, h]

/-- A silent cycle of a paused sampler leaves it paused. -/
lemma scan_pause (hs : s.state = .pause) (h : Silent i) :
    ∃ r, s.scan i = some r ∧ r.state = .pause := by
  obtain ⟨t, ht, hstate, -⟩ := entered_silent (s := s) h
  have hdispatch : t.dispatch i = some t := by rw [dispatch, hstate, hs]
  exact ⟨{ t with command := .none }, scan_of_dispatch ht hdispatch, hstate.trans hs⟩

/-- A paused sampler stays paused, whatever is commanded. -/
theorem run_pause (hs : s.state = .pause) {l : List SamplerInput} (hl : ∀ i ∈ l, Silent i) :
    ∃ r, s.run l = some r ∧ r.state = .pause := by
  induction l generalizing s with
  | nil => exact ⟨s, rfl, hs⟩
  | cons i l ih =>
      obtain ⟨t, ht, hpause⟩ := scan_pause hs (hl i List.mem_cons_self)
      obtain ⟨r, hr, hr'⟩ := ih hpause fun j hj => hl j (List.mem_cons_of_mem i hj)
      refine ⟨r, ?_, hr'⟩
      rw [run, List.foldl_cons, Option.bind_some, ht]
      exact hr

lemma not_recovers_of_pause (i : SamplerInput) (hs : s.state = .pause) : ¬ s.Recovers := by
  rintro ⟨commands, h⟩
  let l := commands.map fun c => { i with command := c, ioStart := none, ioStop := none }
  have hl : ∀ j ∈ l, Silent j := by
    intro j hj
    obtain ⟨c, -, rfl⟩ := List.mem_map.mp hj
    exact ⟨rfl, rfl⟩
  obtain ⟨t, ht, hrests⟩ := h l (by simp [l, Function.comp_def]) hl
  obtain ⟨r, hr, hpause⟩ := run_pause hs hl
  rw [ht, Option.some_inj] at hr
  rw [hr, hpause] at hrests
  cases hrests

/-- A working sampler is stopped by command. -/
lemma scan_stop (hs : s.state.isWork = true) (h : Silent i) (hc : i.command = some 2) :
    ∃ r, s.scan i = some r ∧ r.state = .finish := by
  obtain ⟨t, ht, hstate, hcommand⟩ := entered_silent (s := s) h
  have hcommand' : t.command = .stop := by rw [hcommand, load_command hc]; rfl
  have hdispatch : t.dispatch i = some ({ t with state := .finish }.event .stop) := by
    rw [← hstate] at hs
    cases ht' : t.state <;> simp [ht', SamplerState.isWork] at hs <;>
      simp [dispatch, ht', onWorkTimer, onWorkVolume, unlessStopped, hcommand']
  exact ⟨_, scan_of_dispatch ht hdispatch, rfl⟩

/-- An error is confirmed by command. -/
lemma scan_confirm (hs : s.state = .error) (h : Silent i) (hc : i.command = some 4) :
    ∃ r, s.scan i = some r ∧ r.state = .idle := by
  obtain ⟨t, ht, hstate, hcommand⟩ := entered_silent (s := s) h
  have hcommand' : t.command = .confirm := by rw [hcommand, load_command hc]; rfl
  have hdispatch : t.dispatch i = some { t.event .confirm with state := .idle } := by
    simp [dispatch, hstate, hs, onWorkError, hcommand']
  exact ⟨_, scan_of_dispatch ht hdispatch, rfl⟩

/-- One command that brings the sampler to a rest. -/
lemma recovers_of_command (c : UInt16)
    (h : ∀ i, Silent i → i.command = some c → ∃ r, s.scan i = some r ∧ r.state.rests = true) :
    s.Recovers := by
  refine ⟨[some c], fun l hl hsilent => ?_⟩
  obtain ⟨i, rfl, hi⟩ := List.map_eq_singleton_iff.mp hl
  exact h i (hsilent i (List.mem_singleton_self i)) hi

/-- A sampler that is not paused is brought to a rest by one command at most. -/
theorem recovers_of_ne_pause (hs : s.state ≠ .pause) : s.Recovers := by
  have hrest (h : s.state.rests = true) : s.Recovers :=
    ⟨[], fun l hl _ => ⟨s, by rw [List.map_eq_nil_iff.mp hl]; rfl, h⟩⟩
  have hwork (h : s.state.isWork = true) : s.Recovers :=
    recovers_of_command 2 fun i hi hc =>
      let ⟨r, hr, hfinish⟩ := scan_stop h hi hc
      ⟨r, hr, by rw [hfinish]; rfl⟩
  cases h : s.state with
  | idle | finish => exact hrest (by rw [h]; rfl)
  | test | worktime | workvolume | workmass => exact hwork (by rw [h]; rfl)
  | pause => exact absurd h hs
  | error =>
      exact recovers_of_command 4 fun i hi hc =>
        let ⟨r, hr, hidle⟩ := scan_confirm h hi hc
        ⟨r, hr, by rw [hidle]; rfl⟩

/-! ### Cycles that pause -/

/-- A start works with a can and a method by the totals. -/
lemma onStart_state (h : s.onStart i = some t) :
    t.command = s.command ∧ t.state ≠ .pause ∧
      (t.state.isWork = true ↔ i.set.select < 2 ∧ (s.method = .volume ∨ s.method = .mass)) := by
  have hmethod : s.clear.method = s.method := rfl
  rw [onStart] at h
  dsimp only at h
  by_cases hselect : 2 ≤ i.set.select
  · rw [if_pos hselect, Option.some_inj] at h
    subst h
    exact ⟨rfl, by simp [event], by simp [event, SamplerState.isWork, UInt16.not_lt.mpr hselect]⟩
  · rw [if_neg hselect, hmethod] at h
    have hlt := UInt16.not_le.mp hselect
    cases hm : s.method with
    | period => simp [hm, divUDINT, clear] at h
    | volume | mass =>
        rw [hm, Option.some_inj] at h
        subst h
        simp [startCount, event, clear, SamplerState.isWork, hlt]
    | other value =>
        rw [hm, Option.some_inj] at h
        subst h
        simp [event, clear, SamplerState.isWork]

/-- What the handler of a cycle finds. -/
lemma entered_state (h : s.entered i = some t) :
    t.command = (s.load i).command ∧ (s.state ≠ .pause → t.state ≠ .pause) ∧
      (t.state.isWork = true ∧ t.command = .pause ↔ s.Pauses i) := by
  obtain ⟨-, hstate⟩ := checkStop_sameCount (s := s.begun i) (i := i)
  rw [Pauses]
  cases hio : startsByInput i (s.begun i) with
  | true =>
      obtain ⟨u, hu, hsame⟩ := checkIO_of_startsByInput hio
      obtain ⟨hcommand, hpause, hwork⟩ := onStart_state (hu.symm.trans h)
      have hcommand' : t.command = (s.load i).command := hcommand.trans hsame.command
      have hmethod : u.method = (s.load i).method := hsame.method
      refine ⟨hcommand', fun _ => hpause, ?_⟩
      rw [if_pos rfl, hwork, hcommand', hmethod, and_comm]
  | false =>
      obtain ⟨u, hu, hsame, hus⟩ := checkIO_of_not_startsByInput hio
      cases (Option.some_inj.mp (hu.symm.trans h) : u = t)
      have hcommand : t.command = (s.load i).command := hsame.command
      refine ⟨hcommand, fun hs => ?_, ?_⟩
      · rcases hstate with hstate | hstate <;> rw [hus, hstate]
        · exact hs
        · simp
      · rw [if_neg Bool.false_ne_true, hcommand, hus, and_comm]

lemma dispatch_pause (hw : t.state.isWork = true) (hc : t.command = .pause) :
    t.dispatch i = some t.onPause := by
  cases ht : t.state <;> simp [ht, SamplerState.isWork] at hw <;>
    simp [dispatch, ht, onWorkTimer, onWorkVolume, unlessStopped, hc]

/-- The rest of a working handler does not pause. -/
lemma unlessStopped_state {rest : Sampler → Option Sampler} (hc : t.command ≠ .pause)
    (hrest : ∀ u r, u.state = t.state → rest u = some r → r.state ≠ .pause)
    (h : unlessStopped rest t = some r) : r.state ≠ .pause := by
  rcases unlessStopped_cases h with ⟨⟨-, hs⟩ | ⟨hpause, -⟩, -⟩ | ⟨-, u, hu, hr⟩
  · simp [hs]
  · exact absurd hpause hc
  · refine hrest u r ?_ hr
    rcases hu with rfl | rfl <;> rfl

lemma checkInterval_state {v : Interval} :
    ({ s with interval := v } : Sampler).checkInterval.1.state = s.state := by
  rw [checkInterval]
  split_ifs <;> rfl

lemma recalcInterval_state (h : s.recalcInterval = some t) :
    t.state = s.state ∨ t.state = .idle := by
  obtain ⟨interval, -, h⟩ := Option.bind_eq_some_iff.mp h
  rw [← Option.some_inj.mp h]
  dsimp only
  split_ifs
  · exact .inl checkInterval_state
  · exact .inr rfl

lemma checkFlow_state (h : s.checkFlow i = some t) : t.state = s.state ∨ t.state = .idle := by
  rw [checkFlow] at h
  split_ifs at h
  · cases h
    exact .inl rfl
  · obtain ⟨u, hu, rfl⟩ := Option.map_eq_some_iff.mp h
    have hstate := recalcInterval_state hu
    exact hstate
  · cases h
    exact .inl rfl

lemma grabByTime_state : (s.grabByTime i).state = s.state := by
  rw [grabByTime]
  split_ifs <;> rfl

lemma grabByTotal_state {ch : Channel} : (s.grabByTotal ch i).state = s.state := by
  rw [grabByTotal]
  split_ifs <;> rfl

lemma onWorkTimer_state {checkflow : Bool} (hs : t.state ≠ .pause) (hc : t.command ≠ .pause)
    (h : t.onWorkTimer checkflow i = some r) : r.state ≠ .pause := by
  refine unlessStopped_state hc (fun u r hu hr => ?_) h
  obtain ⟨v, hv, hr⟩ : ∃ v : Sampler, v.state ≠ .pause ∧
      (if checkflow && v.noflow then some v
        else if (v.grabByTime i).timeStart + i.set.probePeriod < i.unixTime ∨
            (v.grabByTime i).grabRemain = 0 ∨ isCanOverflow i then some (v.grabByTime i).finish
        else some (v.grabByTime i)) = some r := by
    cases checkflow with
    | false => exact ⟨u, by rwa [hu], hr⟩
    | true =>
        obtain ⟨v, hv, hr⟩ := Option.bind_eq_some_iff.mp hr
        refine ⟨v, ?_, hr⟩
        rcases checkFlow_state hv with hv | hv <;> rw [hv]
        · rwa [hu]
        · simp
  split_ifs at hr
  · cases hr
    exact hv
  · cases hr
    simp [finish]
  · cases hr
    rwa [grabByTime_state]

lemma onWorkVolume_state {isMass : Bool} (hs : t.state ≠ .pause) (hc : t.command ≠ .pause)
    (h : t.onWorkVolume isMass i = some r) : r.state ≠ .pause := by
  refine unlessStopped_state hc (fun u r hu hr => ?_) h
  dsimp only at hr
  split_ifs at hr
  all_goals cases hr
  · simp [finish]
  · rw [grabByTotal_state, hu]
    exact hs
  · simp [finish]
  · rw [grabByTotal_state, hu]
    exact hs

lemma onIdle_state (hs : t.state ≠ .pause) (h : t.onIdle i = some r) : r.state ≠ .pause := by
  rw [onIdle] at h
  split at h
  · exact (onStart_state h).2.1
  all_goals
    cases h
    first | exact hs | simp [onStop, onStartTest, event]

/-- Only the command to pause in a working state pauses. -/
lemma dispatch_state (hs : t.state ≠ .pause) (hp : ¬ (t.state.isWork = true ∧ t.command = .pause))
    (h : t.dispatch i = some r) : r.state ≠ .pause := by
  have hc (hw : t.state.isWork = true) : t.command ≠ .pause := fun hc => hp ⟨hw, hc⟩
  rw [dispatch] at h
  cases ht : t.state with
  | idle | finish =>
      rw [ht] at h
      exact onIdle_state hs h
  | test | worktime =>
      rw [ht] at h
      exact onWorkTimer_state hs (hc (by rw [ht]; rfl)) h
  | workvolume | workmass =>
      rw [ht] at h
      exact onWorkVolume_state hs (hc (by rw [ht]; rfl)) h
  | pause => exact absurd ht hs
  | error =>
      rw [ht, Option.some_inj] at h
      subst h
      rw [onWorkError]
      split
      · exact hs
      · simp
      · simpa [event] using hs

lemma scan_eq_some (h : s.scan i = some r) :
    ∃ t u, s.entered i = some t ∧ t.dispatch i = some u ∧ r = { u with command := .none } := by
  rw [scan_eq] at h
  obtain ⟨t, ht, h⟩ := Option.bind_eq_some_iff.mp h
  obtain ⟨u, hu, h⟩ := Option.bind_eq_some_iff.mp h
  exact ⟨t, u, ht, hu, (Option.some_inj.mp h).symm⟩

/-- Any other cycle does not pause. -/
theorem scan_ne_pause (hs : s.state ≠ .pause) (hp : ¬ s.Pauses i) (h : s.scan i = some r) :
    r.state ≠ .pause := by
  obtain ⟨t, u, ht, hu, rfl⟩ := scan_eq_some h
  obtain ⟨-, hstate, hpauses⟩ := entered_state ht
  have hne : u.state ≠ .pause := dispatch_state (hstate hs) (fun h => hp (hpauses.mp h)) hu
  exact hne

/-- With a command to pause in a working state a cycle pauses. -/
lemma scan_of_pauses (h : s.Pauses i) (ht : s.entered i = some t) :
    ∃ r, s.scan i = some r ∧ r.state = .pause := by
  obtain ⟨-, -, hpauses⟩ := entered_state ht
  obtain ⟨hwork, hcommand⟩ := hpauses.mpr h
  exact ⟨_, scan_of_dispatch ht (dispatch_pause hwork hcommand), rfl⟩

/-- A cycle that pauses completes. -/
lemma exists_entered_of_pauses (h : s.Pauses i) : ∃ t, s.entered i = some t := by
  obtain ⟨-, h⟩ := h
  cases hio : startsByInput i (s.begun i) with
  | true =>
      rw [if_pos hio] at h
      obtain ⟨u, hu, hsame⟩ := checkIO_of_startsByInput hio
      have hmethod : u.clear.method = (s.load i).method := hsame.method
      have hstart : ∃ t, u.onStart i = some t := by
        rw [onStart]
        dsimp only
        rw [if_neg (UInt16.not_le.mpr h.1), hmethod]
        rcases h.2 with h | h <;> rw [h] <;> exact ⟨_, rfl⟩
      exact hstart.imp fun t ht => hu.trans ht
  | false =>
      obtain ⟨u, hu, -⟩ := checkIO_of_not_startsByInput hio
      exact ⟨u, hu⟩

/-! ### Runs -/

/-- A cycle of a sampler that is not paused is controlled if and only if it does not pause. -/
lemma controlled_iff_not_pauses (hs : s.state ≠ .pause) : s.Controlled i ↔ ¬ s.Pauses i := by
  constructor
  · intro h hp
    obtain ⟨t, ht⟩ := exists_entered_of_pauses hp
    obtain ⟨r, hr, hpause⟩ := scan_of_pauses hp ht
    exact not_recovers_of_pause i hpause (h.behind r hr)
  · intro hp
    exact ⟨recovers_of_ne_pause hs, scan_stop, fun h => absurd h hp,
      fun r hr => recovers_of_ne_pause (scan_ne_pause hs hp hr)⟩

/-- In every run from a sampler that is not paused, all cycles are controlled if and only if none of
them pauses. -/
theorem controlled_iff (s : Sampler) (hs : s.state ≠ .pause) (l : List SamplerInput) :
    Run.Along step (fun o i => ∀ t, o = some t → t.Controlled i) (some s) l ↔
      Run.Along step (fun o i => ∀ t, o = some t → ¬ t.Pauses i) (some s) l := by
  refine Run.along_congr (A := fun _ _ => True) (fun o => ∀ t, o = some t → t.state ≠ .pause)
    ?_ ?_ (fun t ht => Option.some_inj.mp ht ▸ hs) (Run.along_of_forall fun _ _ => trivial)
  · intro o i hinv _
    exact forall₂_congr fun t ht => controlled_iff_not_pauses (hinv t ht)
  · intro o i hinv _ h r hr
    obtain ⟨t, rfl, hscan⟩ := Option.bind_eq_some_iff.mp hr
    have hp := (controlled_iff_not_pauses (hinv t rfl)).mp (h t rfl)
    exact scan_ne_pause (hinv t rfl) hp hscan

/-! ### A pause -/

/-- A start by the volume, the command to pause, to resume and to stop. -/
def pauseAndResume : List SamplerInput :=
  [cycleAt 0 (some 1), cycleAt 10 (some 122), cycleAt 20 (some 145), cycleAt 30 (some 2)]

/-- Behind the command to pause the states are the same with the ones to resume and to stop. -/
theorem controlled_fails :
    ((List.range 5).map fun n => (({ method := .volume } : Sampler).run (pauseAndResume.take n)).map
        (·.state)) =
      [some .idle, some .workvolume, some .pause, some .pause, some .pause] ∧
      ¬ Run.Along step (fun o i => ∀ t, o = some t → t.Controlled i)
        (some ({ method := .volume } : Sampler)) pauseAndResume := by
  refine ⟨by decide +kernel, ?_⟩
  rintro ⟨-, -, h, -⟩
  have hstate : (step (step (some { method := .volume }) (cycleAt 0 (some 1)))
      (cycleAt 10 (some 122))).map (·.state) = some .pause := by decide +kernel
  obtain ⟨r, hr, hpause⟩ := Option.map_eq_some_iff.mp hstate
  exact not_recovers_of_pause (cycleAt 20 none) hpause (h r hr).recovers

theorem controlled_iff_pauseAndResume :
    Run.Along step (fun o i => ∀ t, o = some t → t.Controlled i)
        (some ({ method := .volume } : Sampler)) pauseAndResume ↔
      Run.Along step (fun o i => ∀ t, o = some t → ¬ t.Pauses i)
        (some ({ method := .volume } : Sampler)) pauseAndResume :=
  controlled_iff { method := .volume } (by decide) pauseAndResume

end Sampler

end Tritonn

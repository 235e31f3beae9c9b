import Tritonn.Sampler.Accounting

/-!
The cycles of a working sampler that nothing disturbs.

* `Undisturbed` is a cycle without a start or a stop by the inputs and without a command to stop or
  to pause, and `SameWork` says that two samplers agree in what the handlers of the working states
  read and write;
* `scan_byTime` and `scan_byTotal` say that such a cycle does what the question for a grab does.
-/

namespace Tritonn

/-- The channel by which a state takes its grabs. -/
def SamplerState.channel : SamplerState → Option Channel
  | .workvolume => some .volume
  | .workmass => some .mass
  | _ => none

namespace Sampler

variable {s t u r : Sampler} {i : SamplerInput}

/-- Nothing starts, stops or pauses the sampler in this cycle. -/
structure Undisturbed (s : Sampler) (i : SamplerInput) : Prop where
  start : startsByInput i (s.begun i) = false
  stop : ((s.begun i).checkStop i).2 = false
  ne_stop : (s.begun i).command ≠ .stop
  ne_pause : (s.begun i).command ≠ .pause

/-- The part of the sampler with which the grabs are taken. -/
structure SameWork (s t : Sampler) : Prop where
  interval : t.interval = s.interval
  lastRawTotal : t.lastRawTotal = s.lastRawTotal
  timerInterval : t.timerInterval = s.timerInterval
  noflow : t.noflow = s.noflow
  grab : t.grab = s.grab

lemma SameWork.refl (s : Sampler) : s.SameWork s := ⟨rfl, rfl, rfl, rfl, rfl⟩

lemma SameWork.trans (h : s.SameWork t) (h' : t.SameWork u) : s.SameWork u :=
  ⟨h'.interval.trans h.interval, h'.lastRawTotal.trans h.lastRawTotal,
    h'.timerInterval.trans h.timerInterval, h'.noflow.trans h.noflow, h'.grab.trans h.grab⟩

/-! ### The inputs -/

lemma checkStop_sameWork (h : (s.checkStop i).2 = false) :
    s.SameWork (s.checkStop i).1 ∧ (s.checkStop i).1.state = s.state := by
  revert h
  unfold checkStop
  cases i.ioStop with
  | none => exact fun _ => ⟨.refl s, rfl⟩
  | some value =>
      dsimp only
      split_ifs <;> first
        | exact fun _ => ⟨⟨rfl, rfl, rfl, rfl, rfl⟩, rfl⟩
        | exact nofun

lemma checkIO_sameWork (hstart : startsByInput i s = false) (hstop : (s.checkStop i).2 = false) :
    ∃ t, checkIO i s = some t ∧ s.SameWork t ∧ t.state = s.state := by
  obtain ⟨hsame, hstate⟩ := checkStop_sameWork hstop
  rw [checkIO_eq, if_neg (by simp [hstop]), checkStart]
  rw [startsByInput] at hstart
  cases hio : i.ioStart with
  | none => exact ⟨_, rfl, hsame, hstate⟩
  | some value =>
      simp only [hstop, hio, Option.any_some, Bool.not_false, Bool.true_and] at hstart
      dsimp only
      rw [if_neg (by simp [hstart])]
      split_ifs <;> exact ⟨_, rfl, hsame.trans ⟨rfl, rfl, rfl, rfl, rfl⟩, hstate⟩

/-- The handler of an undisturbed cycle finds the sampler of the cycle before. -/
lemma Undisturbed.entered (h : s.Undisturbed i) : ∃ t, s.entered i = some t ∧
    (s.begun i).SameWork t ∧ t.state = s.state ∧ t.command = (s.begun i).command := by
  obtain ⟨t, ht, hsame, hstate⟩ := checkIO_sameWork h.start h.stop
  obtain ⟨t', ht', hcount, -⟩ := checkIO_of_not_startsByInput h.start
  cases (Option.some_inj.mp (ht.symm.trans ht') : t = t')
  exact ⟨t, ht, hsame, hstate, hcount.command⟩

/-! ### The handlers -/

lemma unlessStopped_sameWork {rest : Sampler → Option Sampler} (hstop : t.command ≠ .stop)
    (hpause : t.command ≠ .pause) :
    ∃ u, unlessStopped rest t = rest u ∧ t.SameWork u := by
  rw [unlessStopped]
  split
  · exact ⟨t, rfl, .refl t⟩
  · exact absurd ‹_› hstop
  · exact absurd ‹_› hpause
  · exact ⟨t.event .dontStop, rfl, ⟨rfl, rfl, rfl, rfl, rfl⟩⟩

/-- The end of a work changes the state only. -/
lemma finish_sameWork (c : Prop) [Decidable c] (v : Sampler) :
    ∃ r, (if c then some v.finish else some v) = some r ∧ v.SameWork r := by
  split_ifs
  · exact ⟨v.finish, rfl, ⟨rfl, rfl, rfl, rfl, rfl⟩⟩
  · exact ⟨v, rfl, .refl v⟩

/-- With flow, or without the question for it, the handler by time asks for a grab. -/
lemma onWorkTimer_sameWork {checkflow : Bool} (hstop : t.command ≠ .stop)
    (hpause : t.command ≠ .pause)
    (hflow : checkflow = true → t.noflow = false ∧ 1 / 100000 ≤ i.total.inc.qty .volume) :
    ∃ u r, t.SameWork u ∧ t.onWorkTimer checkflow i = some r ∧ (u.grabByTime i).SameWork r := by
  rw [onWorkTimer]
  obtain ⟨u, hu, hsame⟩ := unlessStopped_sameWork hstop hpause
  obtain ⟨r, hr, hr'⟩ := finish_sameWork ((u.grabByTime i).timeStart + i.set.probePeriod <
    i.unixTime ∨ (u.grabByTime i).grabRemain = 0 ∨ isCanOverflow i) (u.grabByTime i)
  refine ⟨u, r, hsame, ?_, hr'⟩
  rw [hu]
  cases checkflow with
  | false => exact hr
  | true =>
      obtain ⟨hnoflow, hinc⟩ := hflow rfl
      have hnoflow' : u.noflow = false := hsame.noflow.trans hnoflow
      have hcheck : u.checkFlow i = some u := by
        rw [checkFlow, if_neg (not_lt.mpr hinc), if_neg (by simp [hnoflow'])]
      dsimp only
      rw [if_pos rfl, hcheck, ← hr]
      exact if_neg (by simp [hnoflow'])

/-- There is flow, or none is asked for. -/
def Flows (s : Sampler) (i : SamplerInput) : Prop :=
  s.state = .test ∨ s.state = .worktime ∧ 1 / 100000 ≤ i.total.inc.qty .volume

/-- An undisturbed cycle with flow asks whether the time for a grab has come. -/
lemma scan_byTime (h : s.Undisturbed i) (hf : s.Flows i) (hnoflow : s.noflow = false) :
    ∃ u r, (s.begun i).SameWork u ∧ s.scan i = some r ∧ (u.grabByTime i).SameWork r := by
  obtain ⟨t, ht, hsame, hstate, hcommand⟩ := h.entered
  have hstop : t.command ≠ .stop := hcommand ▸ h.ne_stop
  have hpause : t.command ≠ .pause := hcommand ▸ h.ne_pause
  have hdispatch : ∃ u r, t.SameWork u ∧ t.dispatch i = some r ∧ (u.grabByTime i).SameWork r := by
    rcases hf with htest | ⟨htime, hflow⟩
    · rw [dispatch, hstate, htest]
      exact onWorkTimer_sameWork hstop hpause (by simp)
    · rw [dispatch, hstate, htime]
      exact onWorkTimer_sameWork hstop hpause fun _ => ⟨hsame.noflow.trans hnoflow, hflow⟩
  obtain ⟨u, r, hu, hr, hr'⟩ := hdispatch
  exact ⟨u, { r with command := .none }, hsame.trans hu, scan_of_dispatch ht hr,
    hr'.trans ⟨rfl, rfl, rfl, rfl, rfl⟩⟩

/-- An undisturbed cycle by the totals asks whether the quantity for a grab has passed. -/
lemma scan_byTotal {ch : Channel} (h : s.Undisturbed i) (hch : s.state.channel = some ch) :
    ∃ u r, (s.begun i).SameWork u ∧ s.scan i = some r ∧ (u.grabByTotal ch i).SameWork r := by
  obtain ⟨t, ht, hsame, hstate, hcommand⟩ := h.entered
  have hrest (isMass : Bool) : ∃ u r, (s.begun i).SameWork u ∧ t.onWorkVolume isMass i = some r ∧
      (u.grabByTotal (if isMass then .mass else .volume) i).SameWork r := by
    have hstop : t.command ≠ .stop := hcommand ▸ h.ne_stop
    have hpause : t.command ≠ .pause := hcommand ▸ h.ne_pause
    rw [onWorkVolume]
    obtain ⟨u, hu, hsame'⟩ := unlessStopped_sameWork hstop hpause
    obtain ⟨r, hr, hr'⟩ := finish_sameWork
      ((u.grabByTotal (if isMass then .mass else .volume) i).grabRemain = 0 ∨ isCanOverflow i)
      (u.grabByTotal (if isMass then .mass else .volume) i)
    exact ⟨u, r, hsame.trans hsame', hu.trans hr, hr'⟩
  have hdispatch : ∃ u r, (s.begun i).SameWork u ∧ t.dispatch i = some r ∧
      (u.grabByTotal ch i).SameWork r := by
    rw [← hstate] at hch
    cases ht' : t.state <;> simp [ht', SamplerState.channel] at hch <;> subst hch <;>
      simp only [dispatch, ht']
    · exact hrest false
    · exact hrest true
  obtain ⟨u, r, hu, hr, hr'⟩ := hdispatch
  exact ⟨u, { r with command := .none }, hu, scan_of_dispatch ht hr,
    hr'.trans ⟨rfl, rfl, rfl, rfl, rfl⟩⟩

end Sampler

end Tritonn

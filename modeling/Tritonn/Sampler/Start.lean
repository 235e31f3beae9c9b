import Tritonn.Lib.Logged
import Tritonn.Sampler.Pause

/-!
The start of the sampler.

* `onStartLogged` is `rSampler::onStart` with the divisors of its divisions, and
  `onStartLogged_val` says that it does the same;
* `Quiet` says that a sampler takes no grab until it is started again, and `quiet_of_not_work` that
  this is so out of the working states;
* `Starts` is the property of a start: no divisor is zero, a start that is accepted leaves the
  counters of the can and the interval of the quota, and a start that is refused a quiet sampler;
* `starts_iff` says when this is so: when the start is refused for its can or for its method, as the
  number of the grabs that remain, by which the quota is divided, was just cleared.
-/

namespace Tritonn

/-- The state of an accepted start. -/
def SamplerMethod.workState : SamplerMethod → Option SamplerState
  | .period => some .worktime
  | .volume => some .workvolume
  | .mass => some .workmass
  | .other _ => none

namespace Sampler

variable {s t : Sampler} {i : SamplerInput}

/-! ### The divisions -/

/-- `divUDINT` with its divisor. -/
def divUDINTLogged (a b : UInt32) : Logged LREAL (Option UInt32) :=
  ⟨divUDINT a b, [(b.toNat : LREAL)]⟩

/-- `Interval.div` with its divisor. -/
def intervalDivLogged (x : LREAL) (n : UInt32) : Logged LREAL Interval :=
  ⟨.div x n, [(n.toNat : LREAL)]⟩

/-- `m_grabCount` of a start. -/
def grabsLogged (i : SamplerInput) (s : Sampler) : Logged LREAL UInt32 := do
  let count ← Logged.div i.set.canVolume s.grabVol
  return toUDINT (count + 1 / 2)

/-- `rSampler::onStart` with the divisors of its divisions, in order. -/
def onStartLogged (i : SamplerInput) (s : Sampler) : Logged LREAL (Option Sampler) :=
  let s := s.clear
  if 2 ≤ i.set.select then pure (some ({ s with state := .error }.event .selectFault))
  else
    match s.method with
    | .period => do
        let grabCount ← s.grabsLogged i
        let interval ← divUDINTLogged i.set.probePeriod s.grabRemain
        return interval.bind fun interval =>
          let (s, ok) :=
            { s with grabCount := grabCount, interval := .value interval.toNat }.checkInterval
          let s := if ok then { s with state := .worktime }.event .startPeriod else s
          some (s.startCount i)
    | .volume => do
        let grabCount ← s.grabsLogged i
        let interval ← intervalDivLogged i.set.probeVolume s.grabRemain
        return some (({ s with
          grabCount := grabCount, interval := interval,
          state := .workvolume }.event .startVolume).startCount i)
    | .mass => do
        let grabCount ← s.grabsLogged i
        let interval ← intervalDivLogged i.set.probeMass s.grabRemain
        return some (({ s with
          grabCount := grabCount, interval := interval,
          state := .workmass }.event .startMass).startCount i)
    | .other method =>
        pure (some { s.event (.modeFault (.other method)) with method := .period, state := .error })

lemma onStartLogged_val : (onStartLogged i s).val = s.onStart i := by
  unfold onStartLogged onStart
  dsimp only
  split_ifs
  · rfl
  · cases s.clear.method <;> rfl

/-- The divisors of a start that is not refused for its can or its method. -/
lemma onStartLogged_log (hselect : i.set.select < 2) (hmethod : ∀ v, s.method ≠ .other v) :
    (onStartLogged i s).log = [s.grabVol, 0] := by
  have hclear : s.clear.method = s.method := rfl
  rw [onStartLogged]
  dsimp only
  rw [if_neg (UInt16.not_le.mpr hselect), hclear]
  cases hm : s.method with
  | period | volume | mass => rfl
  | other v => exact absurd hm (hmethod v)

/-! ### Quiet samplers -/

/-- A cycle that starts the sampler or a test, by the input or by a command. -/
def StartsAgain (s : Sampler) (i : SamplerInput) : Prop :=
  startsByInput i (s.begun i) = true ∨ ((s.begun i).checkStop i).1.state.rests = true ∧
    ((s.begun i).command = .start ∨ (s.begun i).command = .test)

/-- Until it is started again, all cycles of the sampler complete without a grab. -/
def Quiet (s : Sampler) : Prop :=
  ∀ l : List SamplerInput,
    Run.Along step (fun o i => ∀ t, o = some t → ¬ t.StartsAgain i) (some s) l →
      Run.Along step (fun o i => ∃ r, step o i = some r ∧ r.grab = 0) (some s) l

/-- Without a start the handler of a state in which no grabs are taken takes none. -/
lemma dispatch_of_not_work (hwork : t.state.isWork = false) (hgrab : t.grab = 0)
    (h : t.state.rests = true → t.command ≠ .start ∧ t.command ≠ .test) :
    ∃ r, t.dispatch i = some r ∧ r.state.isWork = false ∧ r.grab = 0 := by
  have hidle (hrests : t.state.rests = true) :
      ∃ r, t.dispatch i = some r ∧ r.state.isWork = false ∧ r.grab = 0 := by
    rw [dispatch_of_rests hrests]
    obtain ⟨hstart, htest⟩ := h hrests
    rw [onIdle]
    split
    · exact absurd ‹_› hstart
    · exact ⟨_, rfl, rfl, hgrab⟩
    · exact absurd ‹_› htest
    · exact ⟨_, rfl, hwork, hgrab⟩
    all_goals exact ⟨_, rfl, hwork, hgrab⟩
  cases hstate : t.state with
  | idle | finish => exact hidle (by rw [hstate]; rfl)
  | test | worktime | workvolume | workmass =>
      rw [hstate] at hwork
      cases hwork
  | pause => exact ⟨t, by simp only [dispatch, hstate], hwork, hgrab⟩
  | error =>
      simp only [dispatch, hstate]
      refine ⟨t.onWorkError, rfl, ?_⟩
      rw [onWorkError]
      split
      · exact ⟨hwork, hgrab⟩
      · exact ⟨rfl, hgrab⟩
      · exact ⟨hwork, hgrab⟩

/-- Without a start a cycle leaves the working states alone, and takes no grab outside of them. -/
lemma scan_of_not_work (hwork : s.state.isWork = false) (h : ¬ s.StartsAgain i) :
    ∃ r, s.scan i = some r ∧ r.state.isWork = false ∧ r.grab = 0 := by
  rw [StartsAgain, not_or, Bool.not_eq_true] at h
  obtain ⟨hio, hcommand⟩ := h
  obtain ⟨-, hstate⟩ := checkStop_sameCount (s := s.begun i) (i := i)
  obtain ⟨t, ht, hsame, hts⟩ := checkIO_of_not_startsByInput hio
  have hw : t.state.isWork = false := by
    rw [hts]
    rcases hstate with h | h <;> rw [h]
    · exact hwork
    · rfl
  have hc : t.state.rests = true → t.command ≠ .start ∧ t.command ≠ .test := by
    intro hrests
    rw [hsame.command]
    exact not_or.mp fun h => hcommand ⟨hts ▸ hrests, h⟩
  obtain ⟨r, hr, hr'⟩ := dispatch_of_not_work hw hsame.grab hc
  exact ⟨{ r with command := .none }, scan_of_dispatch ht hr, hr'⟩

lemma quiet_of_not_work (h : s.state.isWork = false) : s.Quiet := by
  intro l hl
  refine Run.along_of_inv (fun o => ∃ t, o = some t ∧ t.state.isWork = false) ?_ ⟨s, rfl, h⟩ hl
  rintro _ i ⟨t, rfl, ht⟩ hstart
  obtain ⟨r, hr, hwork, hgrab⟩ := scan_of_not_work ht (hstart t rfl)
  exact ⟨⟨r, hr, hgrab⟩, ⟨r, hr, hwork⟩⟩

/-! ### Starts -/

/-- The quota of a grab; the period is divided as a whole number. -/
def quotaPerGrab (i : SamplerInput) (m : SamplerMethod) (count : UInt32) : LREAL :=
  match m with
  | .period => (i.set.probePeriod / count).toNat
  | .volume => i.set.probeVolume / count.toNat
  | .mass => i.set.probeMass / count.toNat
  | .other _ => 0

/-- What an accepted start leaves behind. -/
structure Started (s : Sampler) (i : SamplerInput) (t : Sampler) : Prop where
  grabCount : (t.grabCount.toNat : ℤ) = ⌊i.set.canVolume / s.grabVol + 1 / 2⌋
  interval : t.interval = .value (quotaPerGrab i s.method t.grabCount)
  grabRemain : t.grabRemain = t.grabCount
  grabPresent : t.grabPresent = 0

/-- A start divides by no zero, and it leaves the counters and the interval behind if it is accepted
and a quiet sampler if it is refused. -/
def Starts (s : Sampler) (i : SamplerInput) : Prop :=
  (onStartLogged i s).All (· ≠ 0) ∧ ∃ t, s.onStart i = some t ∧
    if some t.state = s.method.workState then s.Started i t else t.Quiet

/-- A start is refused for a can that there is not, or for a method that there is not. -/
def Refused (s : Sampler) (i : SamplerInput) : Prop :=
  2 ≤ i.set.select ∨ ∃ value, s.method = .other value

lemma onStart_of_refused (h : s.Refused i) :
    ∃ t, s.onStart i = some t ∧ t.state = .error ∧ (onStartLogged i s).log = [] := by
  have hclear : s.clear.method = s.method := rfl
  unfold onStart onStartLogged
  dsimp only
  by_cases hselect : 2 ≤ i.set.select
  · rw [if_pos hselect, if_pos hselect]
    exact ⟨_, rfl, rfl, rfl⟩
  · obtain ⟨value, hmethod⟩ := h.resolve_left hselect
    rw [if_neg hselect, if_neg hselect, hclear, hmethod]
    exact ⟨_, rfl, rfl, rfl⟩

/-- A start does what it should if and only if it is refused. -/
theorem starts_iff (s : Sampler) (i : SamplerInput) : s.Starts i ↔ s.Refused i := by
  constructor
  · rintro ⟨hall, -⟩
    by_contra h
    rw [Refused, not_or, not_exists] at h
    rw [Logged.All, onStartLogged_log (UInt16.not_le.mp h.1) h.2] at hall
    exact hall 0 (by simp) rfl
  · intro h
    obtain ⟨t, ht, hstate, hlog⟩ := onStart_of_refused h
    refine ⟨by simp [Logged.All, hlog], t, ht, ?_⟩
    have hne : some t.state ≠ s.method.workState := by
      rw [hstate]
      cases s.method <;> simp [SamplerMethod.workState]
    rw [if_neg hne]
    exact quiet_of_not_work (by rw [hstate]; rfl)

/-- A start by the volume with ten grabs to take: the volume is divided by zero. -/
theorem starts_fails :
    ∃ (s : Sampler) (i : SamplerInput), 0 < s.grabVol ∧ 1 ≤ s.grabs i ∧ ¬ s.Starts i := by
  refine ⟨{ method := .volume }, cycleAt 0 (some 1), by decide, by decide +kernel, fun h => ?_⟩
  exact h.1 0 (by decide +kernel) rfl

end Sampler

end Tritonn

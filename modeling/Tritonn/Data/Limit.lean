import Tritonn.Data.Source
import Tritonn.Lib.Run

/-!
`src/tritonn/data/limit.cpp`: the limits of a signal with what they send.

* `calculateEvents` is `rLimit::calculate`, with the events it sends in the order in which it sends
  them, and `calculateEvents_fst` says that it leaves the limits as `calculate` does;
* `LimitInput` is what reaches a set of limits before a cycle: the writes of the operator and the
  value, which is `none` if it is no number or infinite;
* `nextStatus` is the status behind a cycle as a function of the settings, the status before it and
  the value (`step_status`);
* `Announces` is the property of a cycle: the status is the next one, and an alarm is sent if and
  only if it changes, the one of the new status with the limit that was crossed;
* `announces` says that every cycle of every run with the limits switched on announces.

An event of a change is a member of the class, into which each comparison writes two more values;
the ones of the earlier comparisons are left out.
-/

namespace Tritonn

/-! ### Data -/

/-- The events of a status, `EventAMin` to `EventNan`. -/
inductive LimitAlarm where
  | aMin
  | wMin
  | wMax
  | aMax
  | normal
  | nan
  deriving DecidableEq, Repr

/-- The status of which an event tells. -/
def LimitAlarm.status : LimitAlarm → LimitStatus
  | .aMin => .lolo
  | .wMin => .lo
  | .wMax => .hi
  | .aMax => .hihi
  | .normal => .normal
  | .nan => .isnan

/-- The events of a change of a value, `EventChangeAMin` to `EventChangeHyst`. -/
inductive LimitChange where
  | aMin
  | wMin
  | wMax
  | aMax
  | hyst
  deriving DecidableEq, Repr

/-- What a cycle sends: an alarm with the value and the limit, or the event of a change with the new
and the old value. -/
inductive LimitEvent where
  | alarm (e : LimitAlarm) (val lim : Option LREAL)
  | change (e : LimitChange) (value saved : LREAL)
  | changeSetup (value saved : UInt16)
  deriving DecidableEq

namespace LimitEvent

/-- The event is an alarm. -/
def isAlarm : LimitEvent → Bool
  | .alarm _ _ _ => true
  | _ => false

/-- The alarms among the events. -/
def alarms (events : List LimitEvent) : List LimitEvent := events.filter isAlarm

@[simp] lemma alarms_nil : alarms [] = [] := rfl

@[simp] lemma alarms_append (a b : List LimitEvent) : alarms (a ++ b) = alarms a ++ alarms b :=
  List.filter_append ..

end LimitEvent

/-- What `rCmpLREAL::Compare` sends with the precision `COMPARE_LREAL_PREC`. -/
def CmpLREAL.changed (c : CmpLREAL) (e : LimitChange) : List LimitEvent :=
  if compareLrealPrec < |c.value - c.saved| then [.change e c.value c.saved] else []

lemma CmpLREAL.compare_value (c : CmpLREAL) (prec : LREAL) : (c.compare prec).value = c.value := by
  rw [CmpLREAL.compare]
  split_ifs <;> rfl

lemma CmpLREAL.alarms_changed (c : CmpLREAL) (e : LimitChange) :
    LimitEvent.alarms (c.changed e) = [] := by
  rw [CmpLREAL.changed]
  split_ifs <;> rfl

/-- What an operator may write at any time. -/
structure LimitSettings where
  lolo : LREAL
  lo : LREAL
  hi : LREAL
  hihi : LREAL
  hysteresis : LREAL
  setup : UInt16

/-- A flag of the setup is set. -/
def LimitSettings.has (c : LimitSettings) (flag : UInt16) : Bool := c.setup &&& flag != 0

/-- What reaches a set of limits before a cycle. -/
structure LimitInput where
  set : LimitSettings
  val : Option LREAL
  check : Bool := true

namespace Limit

/-- The present settings. -/
def settings (l : Limit) : LimitSettings :=
  ⟨l.lolo.value, l.lo.value, l.hi.value, l.hihi.value, l.hysteresis.value, l.setup.value⟩

/-- What the comparisons at the beginning of `calculate` send. -/
def changes (l : Limit) : List LimitEvent :=
  l.lolo.changed .aMin ++ l.lo.changed .wMin ++ l.hi.changed .wMax ++ l.hihi.changed .aMax ++
    l.hysteresis.changed .hyst ++
    if l.setup.isDiff then [.changeSetup l.setup.value l.setup.saved] else []

/-- `rLimit::sendEvent`. -/
def sendEvent (e : LimitAlarm) (val lim : Option LREAL) (dontsend : Bool) : List LimitEvent :=
  if dontsend then [] else [.alarm e val lim]

/-- A branch of `calculate`: its event is sent unless the status was there before. -/
def enter (l : Limit) (e : LimitAlarm) (val lim : Option LREAL) (s : LimitStatus) :
    Limit × List LimitEvent :=
  ({ l with status := s }, sendEvent e val lim (l.status == s))

end Limit

namespace LimitSettings

/-- The condition of an upper limit: the value is above it, or above it less the hysteresis while
the status is its own. -/
def exceeds (c : LimitSettings) (flag : UInt16) (lim : LREAL) (s old : LimitStatus)
    (val : LREAL) : Bool :=
  c.has flag && (decide (lim < val) || (decide (lim - c.hysteresis < val) && old == s))

/-- The condition of a lower limit. -/
def undercuts (c : LimitSettings) (flag : UInt16) (lim : LREAL) (s old : LimitStatus)
    (val : LREAL) : Bool :=
  c.has flag && (decide (val < lim) || (decide (val < lim + c.hysteresis) && old == s))

end LimitSettings

namespace Limit

/-- The branches of `calculate` for a number. -/
def classify (l : Limit) (val : LREAL) : Limit × List LimitEvent :=
  let c := l.settings
  if c.exceeds Limit.setupHihi c.hihi .hihi l.status val then
    l.enter .aMax (some val) (some c.hihi) .hihi
  else if c.undercuts Limit.setupLolo c.lolo .lolo l.status val then
    l.enter .aMin (some val) (some c.lolo) .lolo
  else if c.exceeds Limit.setupHi c.hi .hi l.status val then
    l.enter .wMax (some val) (some c.hi) .hi
  else if c.undercuts Limit.setupLo c.lo .lo l.status val then
    l.enter .wMin (some val) (some c.lo) .lo
  else l.enter .normal (some val) none .normal

/-- `rLimit::calculate`; its result is the status behind it. -/
def calculateEvents (l : Limit) (val : Option LREAL) (check : Bool) : Limit × List LimitEvent :=
  if l.settings.has Limit.off then ({ l with status := .undef }, [])
  else
    let changes := l.changes
    let (l, alarms) :=
      match val with
      | none => l.compareAll.enter .nan none none .isnan
      | some val => if !check then (l.compareAll, []) else l.compareAll.classify val
    (l, changes ++ alarms)

/-- The writes of the operator before a cycle. -/
def load (l : Limit) (c : LimitSettings) : Limit :=
  { l with
    lolo.value := c.lolo, lo.value := c.lo, hi.value := c.hi, hihi.value := c.hihi,
    hysteresis.value := c.hysteresis, setup.value := c.setup }

/-- One cycle. -/
def cycle (l : Limit) (i : LimitInput) : Limit × List LimitEvent :=
  (l.load i.set).calculateEvents i.val i.check

/-- One cycle, without what it sends. -/
def step (l : Limit) (i : LimitInput) : Limit := (l.cycle i).1

end Limit

/-! ### The status behind a cycle -/

namespace LimitSettings

/-- The limits are switched on. -/
def IsOn (c : LimitSettings) : Prop := c.has Limit.off = false

instance (c : LimitSettings) : Decidable c.IsOn := inferInstanceAs (Decidable (_ = _))

/-- The status of a number. -/
def statusOf (c : LimitSettings) (old : LimitStatus) (val : LREAL) : LimitStatus :=
  if c.exceeds Limit.setupHihi c.hihi .hihi old val then .hihi
  else if c.undercuts Limit.setupLolo c.lolo .lolo old val then .lolo
  else if c.exceeds Limit.setupHi c.hi .hi old val then .hi
  else if c.undercuts Limit.setupLo c.lo .lo old val then .lo
  else .normal

/-- The status behind a cycle with the limits switched on. -/
def nextStatus (c : LimitSettings) (old : LimitStatus) (val : Option LREAL) (check : Bool) :
    LimitStatus :=
  match val with
  | none => .isnan
  | some val => if check then c.statusOf old val else old

/-- The value has crossed the limit `lim` into the status. -/
def Crosses (c : LimitSettings) (s : LimitStatus) (lim val : Option LREAL) : Prop :=
  match s with
  | .hihi => lim = some c.hihi ∧ ∃ v, val = some v ∧ c.hihi < v
  | .hi => lim = some c.hi ∧ ∃ v, val = some v ∧ c.hi < v
  | .lo => lim = some c.lo ∧ ∃ v, val = some v ∧ v < c.lo
  | .lolo => lim = some c.lolo ∧ ∃ v, val = some v ∧ v < c.lolo
  | .normal => lim = none ∧ ∃ v, val = some v
  | .isnan => lim = none ∧ val = none
  | .undef => False

variable {c : LimitSettings} {flag : UInt16} {lim val : LREAL} {s old : LimitStatus}

/-- Another status than its own is entered above the limit itself only. -/
lemma lt_of_exceeds (h : c.exceeds flag lim s old val = true) (hs : old ≠ s) : lim < val := by
  simpa [exceeds, hs] using (Bool.and_eq_true_iff.mp h).2

lemma lt_of_undercuts (h : c.undercuts flag lim s old val = true) (hs : old ≠ s) : val < lim := by
  simpa [undercuts, hs] using (Bool.and_eq_true_iff.mp h).2

end LimitSettings

namespace Limit

open LimitEvent (alarms alarms_append)

variable {l : Limit} {i : LimitInput}

/-- The comparisons send no alarm, and leave the settings and the status. -/
lemma compareAll_keeps (l : Limit) :
    l.compareAll.settings = l.settings ∧ l.compareAll.status = l.status := by
  refine ⟨?_, rfl⟩
  simp only [settings, compareAll, CmpUINT.compare, CmpLREAL.compare_value]

lemma alarms_changes (l : Limit) : alarms l.changes = [] := by
  simp only [changes, alarms_append, CmpLREAL.alarms_changed, List.nil_append]
  split_ifs <;> rfl

/-! ### Without the events -/

lemma has_iff (flag : UInt16) : l.settings.has flag = true ↔ l.hasFlag flag = true := by
  simp [LimitSettings.has, hasFlag, settings]

lemma statusOf_settings (val : LREAL) : l.settings.statusOf l.status val = l.statusOf val := by
  have hupper (flag : UInt16) (lim : LREAL) (s : LimitStatus) :
      l.settings.exceeds flag lim s l.status val = true ↔ l.hasFlag flag ∧
        (lim < val ∨ lim - l.hysteresis.value < val ∧ l.status = s) := by
    simp only [LimitSettings.exceeds, Bool.and_eq_true, Bool.or_eq_true, decide_eq_true_iff,
      beq_iff_eq, has_iff]
    rfl
  have hlower (flag : UInt16) (lim : LREAL) (s : LimitStatus) :
      l.settings.undercuts flag lim s l.status val = true ↔ l.hasFlag flag ∧
        (val < lim ∨ val < lim + l.hysteresis.value ∧ l.status = s) := by
    simp only [LimitSettings.undercuts, Bool.and_eq_true, Bool.or_eq_true, decide_eq_true_iff,
      beq_iff_eq, has_iff]
    rfl
  rw [LimitSettings.statusOf, statusOf]
  exact if_congr (hupper _ _ _) rfl (if_congr (hlower _ _ _) rfl
    (if_congr (hupper _ _ _) rfl (if_congr (hlower _ _ _) rfl rfl)))

lemma classify_fst (val : LREAL) :
    (l.classify val).1 = { l with status := l.settings.statusOf l.status val } := by
  unfold classify LimitSettings.statusOf
  dsimp only
  split_ifs <;> rfl

/-- What `rLimit::calculate` leaves of the limits. -/
theorem calculateEvents_fst (val : Option LREAL) :
    (l.calculateEvents val true).1 = l.calculate val := by
  cases val with
  | none =>
      rw [calculateEvents, calculate]
      simp only [has_iff]
      split_ifs <;> rfl
  | some v =>
      obtain ⟨hsettings, hstatus⟩ := compareAll_keeps l
      have hclassify : (l.compareAll.classify v).1 =
          { l.compareAll with status := l.statusOf v } := by
        rw [classify_fst, hsettings, hstatus, statusOf_settings]
      rw [calculateEvents, calculate]
      simp only [has_iff, Bool.not_true, Bool.false_eq_true, if_false]
      split_ifs
      · rfl
      · exact hclassify

/-! ### The events -/

/-- The alarm of a status that was entered. -/
def alarmOf (c : LimitSettings) (val : Option LREAL) : LimitStatus → List LimitEvent
  | .hihi => [.alarm .aMax val (some c.hihi)]
  | .hi => [.alarm .wMax val (some c.hi)]
  | .lo => [.alarm .wMin val (some c.lo)]
  | .lolo => [.alarm .aMin val (some c.lolo)]
  | .normal => [.alarm .normal val none]
  | .isnan => [.alarm .nan val none]
  | .undef => []

/-- What a branch of `calculate` leaves behind. -/
structure Enters (l r : Limit) (events : List LimitEvent) (s : LimitStatus) (val : Option LREAL) :
    Prop where
  settings : r.settings = l.settings
  status : r.status = s
  alarms : alarms events = if s = l.status then [] else alarmOf l.settings val s

lemma enters_classify (l : Limit) (val : LREAL) :
    l.Enters (l.classify val).1 (l.classify val).2 (l.settings.statusOf l.status val)
      (some val) := by
  have henter (e : LimitAlarm) (lim : Option LREAL) (s : LimitStatus)
      (h : alarmOf l.settings (some val) s = [.alarm e (some val) lim]) :
      l.Enters (l.enter e (some val) lim s).1 (l.enter e (some val) lim s).2 s (some val) := by
    refine ⟨rfl, rfl, ?_⟩
    rw [h]
    by_cases hs : s = l.status
    · simp [enter, sendEvent, hs]
    · simp [enter, sendEvent, hs, Ne.symm hs, LimitEvent.alarms, LimitEvent.isAlarm]
  unfold classify LimitSettings.statusOf
  dsimp only
  split_ifs <;> exact henter _ _ _ rfl

/-- What a cycle with the limits switched on leaves behind. -/
theorem enters_calculateEvents (h : l.settings.IsOn) (val : Option LREAL) (check : Bool) :
    l.Enters (l.calculateEvents val check).1 (l.calculateEvents val check).2
      (l.settings.nextStatus l.status val check) val := by
  obtain ⟨hsettings, hstatus⟩ := compareAll_keeps l
  have halarms := alarms_changes l
  have hoff : ¬ l.settings.has Limit.off = true := by simpa [LimitSettings.IsOn] using h
  unfold calculateEvents
  rw [if_neg hoff]
  dsimp only
  cases val with
  | none =>
      refine ⟨hsettings, rfl, ?_⟩
      rw [alarms_append, halarms, List.nil_append]
      by_cases hs : l.status = .isnan
      · simp [enter, sendEvent, hstatus, hs, LimitSettings.nextStatus]
      · simp [enter, sendEvent, hstatus, hs, Ne.symm hs, LimitSettings.nextStatus, alarms, alarmOf,
          LimitEvent.isAlarm]
  | some val =>
      cases check with
      | false => exact ⟨hsettings, hstatus, by simp [halarms, LimitSettings.nextStatus]⟩
      | true =>
          have hclass := enters_classify l.compareAll val
          rw [hsettings, hstatus] at hclass
          refine ⟨hclass.settings.trans hsettings, hclass.status, ?_⟩
          have halarm := hclass.alarms
          rw [hsettings, hstatus] at halarm
          rw [alarms_append, halarms, List.nil_append]
          exact halarm

/-! ### Alarms -/

/-- A status that is new was crossed into. -/
lemma crosses_nextStatus {c : LimitSettings} {old : LimitStatus} {val : Option LREAL} {check : Bool}
    (hne : c.nextStatus old val check ≠ old) :
    ∃ e lim, alarmOf c val (c.nextStatus old val check) = [.alarm e val lim] ∧
      e.status = c.nextStatus old val check ∧ c.Crosses (c.nextStatus old val check) lim val := by
  unfold LimitSettings.nextStatus at hne ⊢
  cases val with
  | none => exact ⟨.nan, none, rfl, rfl, rfl, rfl⟩
  | some v =>
      dsimp only at hne ⊢
      cases check with
      | false => exact absurd rfl hne
      | true =>
          rw [if_pos rfl] at hne ⊢
          rw [LimitSettings.statusOf] at hne ⊢
          split_ifs at hne ⊢ with hhihi hlolo hhi hlo
          · exact ⟨.aMax, _, rfl, rfl, rfl, v, rfl, LimitSettings.lt_of_exceeds hhihi hne.symm⟩
          · exact ⟨.aMin, _, rfl, rfl, rfl, v, rfl, LimitSettings.lt_of_undercuts hlolo hne.symm⟩
          · exact ⟨.wMax, _, rfl, rfl, rfl, v, rfl, LimitSettings.lt_of_exceeds hhi hne.symm⟩
          · exact ⟨.wMin, _, rfl, rfl, rfl, v, rfl, LimitSettings.lt_of_undercuts hlo hne.symm⟩
          · exact ⟨.normal, _, rfl, rfl, rfl, v, rfl⟩

/-- A cycle announces: the status behind it is that of the settings and the value, and it sends an
alarm if and only if the status changes, at most one, and of the new status, with the value and the
limit that it has crossed. -/
structure Announces (l : Limit) (i : LimitInput) : Prop where
  status : (l.step i).status = i.set.nextStatus l.status i.val i.check
  sent : alarms (l.cycle i).2 ≠ [] ↔ (l.step i).status ≠ l.status
  once : (alarms (l.cycle i).2).length ≤ 1
  what : ∀ e val lim, .alarm e val lim ∈ (l.cycle i).2 →
    e.status = (l.step i).status ∧ val = i.val ∧ i.set.Crosses (l.step i).status lim i.val

@[simp] lemma load_settings (c : LimitSettings) : (l.load c).settings = c := rfl

@[simp] lemma load_status (c : LimitSettings) : (l.load c).status = l.status := rfl

/-- The status behind a cycle. -/
lemma step_status (h : i.set.IsOn) :
    (l.step i).status = i.set.nextStatus l.status i.val i.check :=
  (enters_calculateEvents (l := l.load i.set) h i.val i.check).status

lemma alarms_cycle (h : i.set.IsOn) :
    alarms (l.cycle i).2 =
      if (l.step i).status = l.status then [] else alarmOf i.set i.val (l.step i).status := by
  rw [step_status h]
  exact (enters_calculateEvents (l := l.load i.set) h i.val i.check).alarms

/-- Every cycle with the limits switched on announces. -/
theorem announces_of_isOn (h : i.set.IsOn) : l.Announces i := by
  have hall := alarms_cycle (l := l) h
  have hmem (e : LimitAlarm) (val lim : Option LREAL) (he : .alarm e val lim ∈ (l.cycle i).2) :
      .alarm e val lim ∈ alarms (l.cycle i).2 := List.mem_filter.mpr ⟨he, rfl⟩
  by_cases hs : (l.step i).status = l.status
  · rw [if_pos hs] at hall
    refine ⟨step_status h, by simp [hall, hs], by simp [hall], fun e val lim he => ?_⟩
    have hnil := hmem e val lim he
    rw [hall] at hnil
    cases hnil
  · rw [if_neg hs] at hall
    have hne : i.set.nextStatus l.status i.val i.check ≠ l.status := by rwa [← step_status h]
    have hcross := crosses_nextStatus hne
    rw [← step_status h] at hcross
    obtain ⟨e, lim, halarm, hstatus, hcrosses⟩ := hcross
    rw [halarm] at hall
    refine ⟨step_status h, by simp [hall, hs], by simp [hall], fun e' val' lim' he => ?_⟩
    have hone := hmem e' val' lim' he
    rw [hall, List.mem_singleton] at hone
    cases hone
    exact ⟨hstatus, rfl, hcrosses⟩

/-- In every run of cycles with the limits switched on, from any state and with any writes of the
operator and any values, each cycle announces. -/
theorem announces (l : Limit) (inputs : List LimitInput) (h : ∀ i ∈ inputs, i.set.IsOn) :
    Run.Along step Announces l inputs :=
  Run.along_of_forall_mem fun _ i hi => announces_of_isOn (h i hi)

/-- A signal that rises over both upper limits, has no value and comes back. -/
def rise : List LimitInput :=
  [some 5, some 8, some 10, none, some 5].map fun val =>
    { set := ⟨1, 2, 7, 9, 1, 0x001E⟩, val := val }

theorem announces_rise : Run.Along step Announces {} rise :=
  announces {} rise (by decide)

end Limit

end Tritonn

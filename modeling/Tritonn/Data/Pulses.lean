import Tritonn.Data.Counter
import Tritonn.Lib.Run

/-!
Pulses between a module, a counter and a stream.

The module is polled by one thread and the counter and the stream are calculated by another, so a
run is a list of polls and scans in any order (`Event`); further polls can land inside a scan.  The
state carries what a run is judged by: the first and the last count the counter has read, and the
pulses the stream has taken.

* `Tallied` is the property: the stream has taken the difference of the counts, and a scan without
  a poll before it takes nothing;
* `UpToDate` is the condition on a scan: the polling number is new, or no pulses are kept from the
  last scan and none were counted since;
* `step_inv` is the step and `pulses_tallied` the statement about runs;
* `pulses_tallied_fails` is a run in which one poll is counted twice.
-/

namespace Tritonn

open Run (Along)

/-- A module, a counter on one of its channels and a stream over the counter, with the history of
the run: the first and the last count read, the pulses taken, whether the module was polled since
the last read, and the pulses taken by the last event when it is a scan without a new poll. -/
structure Metering where
  module : ModuleFI4
  counter : Counter
  stream : Stream
  seen : Option (UInt32 × UInt32)
  taken : UInt32
  polled : Bool
  idle : Option UInt32

/-- A poll of the module, or a scan during which it is polled further: behind the question for its
fault and behind the read of the count. -/
inductive Event where
  | poll (p : FIPoll)
  | scan (ps₀ ps₁ : List FIPoll) (inp : StreamInput)

/-- A scan finds the stream in accounting. -/
def Event.InAccount : Event → Prop
  | .poll _ => True
  | .scan _ _ inp => inp.maintenance = false

namespace Metering

/-- The stream after a scan that leaves the counter `c`. -/
def scanStream (env : Env) (unit : ObjUnit) (w : Metering) (c : Counter) (inp : StreamInput) :
    Stream :=
  (w.stream.load { inp with link := { inp.link with counter := c.impulse } }).calculate env unit

/-- One event of a run. -/
def step (env : Env) (unit : ObjUnit) (w : Metering) : Event → Metering
  | .poll p => { w with module := w.module.processing p, polled := true, idle := none }
  | .scan ps₀ ps₁ inp =>
      let counter := w.counter.scan w.module ps₀ ps₁
      let stream := w.scanStream env unit counter inp
      let count := (w.module.polls ps₀).getValue w.counter.channel
      { module := (w.module.polls ps₀).polls ps₁
        counter := counter
        stream := stream
        seen := if w.module.isFault then w.seen else some ((w.seen.map (·.1)).getD count, count)
        taken := w.taken + stream.total.inc.count
        polled :=
          if w.module.isFault then w.polled || !ps₀.isEmpty || !ps₁.isEmpty else !ps₁.isEmpty
        idle :=
          if w.polled || !ps₀.isEmpty || !ps₁.isEmpty then none
          else some stream.total.inc.count }

/-- The stream has taken the difference between the last and the first count read, and nothing in
a scan without a new poll. -/
def Tallied (w : Metering) : Prop :=
  w.taken = (w.seen.elim 0 fun c => c.2 - c.1) ∧ ∀ n, w.idle = some n → n = 0

/-- A run that begins: the counter has read nothing yet. -/
structure Started (w : Metering) : Prop where
  linked : w.counter.Linked
  isInit : w.counter.isInit = false
  seen : w.seen = none
  taken : w.taken = 0
  idle : w.idle = none

/-- The condition on a scan of a module in work, but the first: the polling number is new, or the
counter keeps no pulses and the count is the one it has taken. -/
def UpToDate (w : Metering) : Event → Prop
  | .poll _ => True
  | .scan ps₀ ps₁ _ =>
      w.module.isFault = false → w.counter.isInit = true →
        w.counter.pullingCount ≠ ((w.module.polls ps₀).polls ps₁).pulling ∨
          w.counter.impulse = 0 ∧
            (w.module.polls ps₀).getValue w.counter.channel = w.counter.countPrev

/-! ### The invariant of a run -/

/-- The count last read is the one the counter has taken, and it is the present one unless the
module was polled since. -/
structure Inv (w : Metering) : Prop where
  linked : w.counter.Linked
  unread : w.counter.isInit = false → w.seen = none
  read : w.counter.isInit = true → ∃ first, w.seen = some (first, w.counter.countPrev)
  current : w.polled = false → w.counter.isInit = true →
    w.module.getValue w.counter.channel = w.counter.countPrev
  tallied : w.Tallied

lemma Started.inv {w : Metering} (h : w.Started) : w.Inv where
  linked := h.linked
  unread := fun _ => h.seen
  read := fun hi => by simp [h.isInit] at hi
  current := fun _ hi => by simp [h.isInit] at hi
  tallied := ⟨by simp [h.seen, h.taken], by simp [h.idle]⟩

variable (env : Env) (unit : ObjUnit)

/-- The pulses a stream in accounting takes are those of the counter. -/
lemma scanStream_count (w : Metering) (c : Counter) {inp : StreamInput}
    (h : inp.maintenance = false) :
    (w.scanStream env unit c inp).total.inc.count = toUDINT c.impulse :=
  Stream.calculate_count env unit _ rfl h

variable {env unit} {w : Metering} {ps₀ ps₁ : List FIPoll} {inp : StreamInput}

/-- A scan of a faulty module reads nothing and takes nothing. -/
lemma Inv.scan_fault (hw : w.Inv) (hm : w.module.isFault = true)
    (hacc : inp.maintenance = false) : (w.step env unit (.scan ps₀ ps₁ inp)).Inv := by
  have hlink := Counter.scan_linked w.module ps₀ ps₁ hw.linked
  have hs := Counter.scan_fault w.module ps₀ ps₁ hw.linked hm
  have hcount := scanStream_count env unit w (w.counter.scan w.module ps₀ ps₁) hacc
  rw [show (w.counter.scan w.module ps₀ ps₁).impulse = 0 by rw [hs], toUDINT_zero] at hcount
  refine ⟨hlink.1, ?_, ?_, ?_, ?_, ?_⟩
  · simpa [step, hm, hs] using hw.unread
  · simpa [step, hm, hs] using hw.read
  · intro hp hi
    simp only [step, hm, if_true, Bool.or_eq_false_iff, Bool.not_eq_false', List.isEmpty_iff] at hp
    obtain ⟨⟨hp, rfl⟩, rfl⟩ := hp
    simpa [step, hs] using hw.current hp (by simpa [step, hs] using hi)
  · simpa [step, hm, hcount] using hw.tallied.1
  · intro n hn
    simp only [step, hcount, Option.ite_none_left_eq_some, Option.some.injEq] at hn
    exact hn.2.symm

/-- A scan of a module in work that takes the pulses counted since the last one, and remembers the
count, keeps the tally. -/
lemma Inv.scan_work (hw : w.Inv) (hm : w.module.isFault = false)
    (hacc : inp.maintenance = false) (hinit : (w.counter.scan w.module ps₀ ps₁).isInit = true)
    (hprev : (w.counter.scan w.module ps₀ ps₁).countPrev
      = (w.module.polls ps₀).getValue w.counter.channel)
    (htake : toUDINT (w.counter.scan w.module ps₀ ps₁).impulse
      = if w.counter.isInit then
          (w.module.polls ps₀).getValue w.counter.channel - w.counter.countPrev
        else 0) : (w.step env unit (.scan ps₀ ps₁ inp)).Inv := by
  have hlink := Counter.scan_linked w.module ps₀ ps₁ hw.linked
  have hcount := scanStream_count env unit w (w.counter.scan w.module ps₀ ps₁) hacc
  rw [htake] at hcount
  refine ⟨hlink.1, ?_, ?_, ?_, ?_, ?_⟩
  · intro hi
    simp [step, hinit] at hi
  · intro _
    exact ⟨_, by simp only [step, hm, Bool.false_eq_true, if_false, hprev]; rfl⟩
  · intro hp _
    simp only [step, hm, Bool.false_eq_true, if_false, Bool.not_eq_false', List.isEmpty_iff] at hp
    subst hp
    simp [step, hlink.2, hprev]
  · cases hi : w.counter.isInit with
    | false => 
        simp [step, hm, hcount, hi, hw.unread hi, hw.tallied.1]
    | true =>
        obtain ⟨first, hseen⟩ := hw.read hi
        have ht := hw.tallied.1
        simp only [hseen, Option.elim_some] at ht
        simp only [step, hm, hcount, hi, hseen, ht, if_true, Bool.false_eq_true, if_false,
          Option.map_some, Option.getD_some, Option.elim_some]
        grind
  · intro n hn
    simp only [step, hcount, Option.ite_none_left_eq_some, Option.some.injEq, Bool.or_eq_true,
      not_or, Bool.not_eq_true, Bool.not_eq_false', List.isEmpty_iff] at hn
    obtain ⟨⟨⟨hp, rfl⟩, rfl⟩, rfl⟩ := hn
    cases hi : w.counter.isInit with
    | false => rfl
    | true => simp [hw.current hp hi]

/-- The step: an event that meets the condition keeps the invariant. -/
lemma step_inv (hw : w.Inv) {e : Event} (hacc : e.InAccount) (he : w.UpToDate e) :
    (w.step env unit e).Inv := by
  cases e with
  | poll p =>
      refine ⟨hw.linked, hw.unread, hw.read, fun hp => by simp [step] at hp, hw.tallied.1, ?_⟩
      simp [step]
  | scan ps₀ ps₁ inp =>
      cases hm : w.module.isFault with
      | true => exact hw.scan_fault hm hacc
      | false =>
          obtain ⟨hinit, himp, hprev⟩ := Counter.scan_pulses w.module ps₀ ps₁ hw.linked hm
          cases hi : w.counter.isInit with
          | false =>
              rw [Counter.takePulses_init hi] at hinit himp hprev
              exact hw.scan_work hm hacc hinit hprev (by simp [himp, hi])
          | true =>
              rcases ne_or_eq w.counter.pullingCount
                ((w.module.polls ps₀).polls ps₁).pulling with hp | hp
              · rw [Counter.takePulses_new hi hp] at hinit himp hprev
                exact hw.scan_work hm hacc (hinit.trans hi) hprev (by simp [himp, hi])
              · rw [Counter.takePulses_same hi hp] at hinit himp hprev
                obtain ⟨h0, hcount⟩ := (he hm hi).resolve_left (not_not.mpr hp)
                exact hw.scan_work hm hacc (hinit.trans hi) (hprev.trans hcount.symm)
                  (by simp [himp, hi, h0, hcount])

/-- In a run whose scans find a stream in accounting and meet the condition, after every event the
stream has taken the difference between the last and the first count the counter has read, and
nothing in a scan without a new poll. -/
theorem pulses_tallied (hw : w.Started) {events : List Event}
    (h : Along (step env unit) (fun w e => e.InAccount ∧ w.UpToDate e) w events) :
    ∀ pre, pre <+: events → (pre.foldl (step env unit) w).Tallied :=
  (Run.forall_prefix_iff w events).mpr ⟨hw.inv.tallied,
    Run.along_of_inv Inv (fun _ _ hw h => ⟨(step_inv hw h.1 h.2).tallied, step_inv hw h.1 h.2⟩)
      hw.inv h⟩

/-! ### One poll, counted twice -/

/-- A counter on the first channel, and a stream over it, before the first scan. -/
def atStart : Metering where
  module := ⟨false, 0, fun _ => ⟨0, 0⟩⟩
  counter := ⟨false, false, true, 0, 0, 0, 0, 0, false, 0, 0⟩
  stream :=
    { isCalc := false, link := ⟨0, 0, 0, 0, 0, 0, 0⟩, paramUnit := fun _ => 0, flow := fun _ => 0,
      flowmeter := .turbine, maintenance := false, linearization := false, resetTotals := false,
      acceptKF := false, curFactor := ⟨1, 1, fun _ => ⟨0, 0⟩⟩,
      setFactor := ⟨1, 1, fun _ => ⟨0, 0⟩⟩, curKF := 0,
      total := ⟨.clear, .clear, .clear, .clear, fun _ => 0⟩ }
  seen := none
  taken := 0
  polled := false
  idle := none

/-- A poll that finds ten pulses. -/
def tenPulses : Event := .poll ⟨true, fun _ => ⟨0, 10⟩⟩

/-- The inputs of a stream whose other links are at zero. -/
def zeroInput : StreamInput where
  link := ⟨0, 0, 0, 0, 0, 0, 0⟩
  maintenance := false
  linearization := false
  resetTotals := false
  acceptKF := false
  setFactor := ⟨1, 1, fun _ => ⟨0, 0⟩⟩

/-- A scan without further polls. -/
def plainScan : Event :=
  .scan [] [] zeroInput

lemma atStart_started : atStart.Started := ⟨⟨rfl, rfl, by decide⟩, rfl, rfl, rfl, rfl⟩

/-- A display precision of five digits in every unit. -/
def plainEnv : Env := ⟨⟨fun _ => 5, 5⟩, 0⟩

/-- The units of a station, the first of the table. -/
def plainUnit : ObjUnit := ⟨0, 0⟩

/-- The module is polled once between two scans, and a third scan follows without a poll: the
stream takes the ten pulses twice. -/
theorem pulses_tallied_fails :
    atStart.Started ∧ (∀ e ∈ [plainScan, tenPulses, plainScan, plainScan], e.InAccount) ∧
      ¬ ([plainScan, tenPulses, plainScan, plainScan].foldl (step plainEnv plainUnit)
        atStart).Tallied := by
  have hcount : ∀ w c, (scanStream plainEnv plainUnit w c zeroInput).total.inc.count
      = toUDINT c.impulse :=
    fun w c => scanStream_count plainEnv plainUnit w c rfl
  refine ⟨atStart_started, by simp [plainScan, tenPulses, Event.InAccount, zeroInput], ?_⟩
  intro h
  have hten : toUDINT 10 = 10 := toUDINT_toNat 10
  have h1 := h.1
  simp [step, plainScan, tenPulses, hcount, atStart, Counter.scan, Counter.calculate,
    Counter.preCalculate, Counter.takePulses, FIRead.ofModule, ModuleFI4.checkChannelAccess,
    ModuleFI4.getValue, ModuleFI4.processing, hten] at h1

/-- A run with a poll before each scan, by `pulses_tallied`. -/
theorem pulses_tallied_polled :
    ([plainScan, tenPulses, plainScan].foldl (step plainEnv plainUnit) atStart).Tallied :=
  pulses_tallied atStart_started (by
    simp [Along, UpToDate, Event.InAccount, step, plainScan, zeroInput, tenPulses, atStart,
      Counter.scan, Counter.calculate, Counter.preCalculate, Counter.takePulses, FIRead.ofModule,
      ModuleFI4.checkChannelAccess, ModuleFI4.getValue, ModuleFI4.processing])
    [plainScan, tenPulses, plainScan] List.prefix_rfl

end Metering

end Tritonn

import Tritonn.Sampler.Pause
import Tritonn.Sampler.Work

/-!
The grabs by time.

* `Timed` is a sampler with the true time since its start and the number of grabs since then, and
  `Punctual` says that the `k`-th grab is taken when `k` intervals have passed, and not before;
* `Steady` is a cycle that works by time with flow, at most one interval behind the last one;
* `DueInTime` is a cycle in which no grab is due behind the wrap of the tick, and `punctual_iff`
  says that the grabs are punctual in a run if and only if this is so in all of its cycles;
* `punctual_fails` is a test over the wrap: the sum of the last grab's tick and the interval is no
  tick any more, so that no tick reaches it;
* `wholeInterval_run` says that the interval by time is a whole number in every run.
-/

namespace Tritonn

namespace SamplerState

/-- The states in which grabs are taken by time. -/
def isTimed : SamplerState → Bool
  | .test | .worktime => true
  | _ => false

lemma isTimed_of_rests {s : SamplerState} (h : s.rests = true) : s.isTimed = false := by
  cases s <;> first | rfl | cases h

end SamplerState

namespace Sampler

variable {s t u r : Sampler} {i : SamplerInput} {I : UInt32}

/-! ### Ticks -/

/-- A tick reaches the sum of an earlier one and an interval if and only if so much time has passed
and no wrap lies between. -/
lemma le_tick_iff {W I a b : ℕ} (hI : I < W) (hb : b < a + 2 * I) :
    a + I ≤ b % W ↔ a + I ≤ b ∧ b < W := by
  by_cases hW : b < W
  · rw [Nat.mod_eq_of_lt hW, and_iff_left hW]
  · have hle : b % W ≤ b - W := by
      rw [Nat.mod_eq_sub_mod (not_lt.mp hW)]
      exact Nat.mod_le _ _
    exact iff_of_false (by omega) fun h => hW h.2

/-- A sampler with the true time of its start, the time since then and the grabs since then. -/
structure Timed where
  sampler : Sampler
  start : ℕ
  elapsed : ℕ
  grabs : ℕ

namespace Timed

/-- A scan, some time behind the last one. -/
def scan (w : Timed) (x : ℕ × SamplerInput) : Timed :=
  let r := (w.sampler.scan x.2).getD w.sampler
  { w with
    sampler := r, elapsed := w.elapsed + x.1, grabs := w.grabs + if r.grab = 1 then 1 else 0 }

variable {w : Timed} {x : ℕ × SamplerInput}

/-- The `k`-th grab is taken when the time since the start is at least `k` intervals, and not
before. -/
def Punctual (I : UInt32) (w : Timed) : Prop := ∀ k, k ≤ w.grabs ↔ k * I.toNat ≤ w.elapsed

/-- A sampler that has just been started at its true time. -/
structure Begins (I : UInt32) (w : Timed) : Prop where
  interval : w.sampler.interval = .value I.toNat
  timerInterval : w.sampler.timerInterval = UInt32.ofNat w.start
  noflow : w.sampler.noflow = false
  elapsed : w.elapsed = 0
  grabs : w.grabs = 0

/-- A cycle by time, undisturbed and with flow, at most an interval behind the last one. -/
structure Steady (I : UInt32) (w : Timed) (x : ℕ × SamplerInput) : Prop where
  gap : x.1 ≤ I.toNat
  tick : x.2.sysTick = UInt32.ofNat (w.start + w.elapsed + x.1)
  undisturbed : w.sampler.Undisturbed x.2
  flows : w.sampler.Flows x.2

/-- A grab falls due before the wrap of the tick only. -/
def DueInTime (I : UInt32) (w : Timed) (x : ℕ × SamplerInput) : Prop :=
  w.elapsed / I.toNat < (w.elapsed + x.1) / I.toNat →
    w.start % 2 ^ 32 + w.elapsed + x.1 < 2 ^ 32

/-- The grabs are the whole intervals that have passed. -/
lemma punctual_iff_div (hI : 0 < I.toNat) : w.Punctual I ↔ w.grabs = w.elapsed / I.toNat := by
  constructor
  · intro h
    refine le_antisymm ((Nat.le_div_iff_mul_le hI).mpr ((h _).mp le_rfl)) ?_
    exact (h _).mpr (Nat.div_mul_le_self _ _)
  · intro h k
    rw [h, Nat.le_div_iff_mul_le hI]

/-- What holds between the cycles while the grabs are punctual. -/
structure OnTime (I : UInt32) (w : Timed) : Prop where
  interval : w.sampler.interval = .value I.toNat
  timerInterval : w.sampler.timerInterval.toNat = w.start % 2 ^ 32 + w.grabs * I.toNat
  noflow : w.sampler.noflow = false
  grabs : w.grabs = w.elapsed / I.toNat

lemma Begins.onTime (h : w.Begins I) : w.OnTime I := by
  refine ⟨h.interval, ?_, h.noflow, ?_⟩
  · rw [h.timerInterval, h.grabs, Nat.zero_mul, Nat.add_zero, UInt32.toNat_ofNat']
  · rw [h.grabs, h.elapsed, Nat.zero_div]

/-- A cycle takes a grab if and only if the tick reaches the sum of the last grab's tick and the
interval, and puts that sum in its place. -/
lemma scan_spec (hw : w.OnTime I) (hx : w.Steady I x) :
    (w.scan x).sampler.interval = .value I.toNat ∧ (w.scan x).sampler.noflow = false ∧
      if w.sampler.timerInterval.toNat + I.toNat ≤ x.2.sysTick.toNat then
        (w.scan x).grabs = w.grabs + 1 ∧
          (w.scan x).sampler.timerInterval = w.sampler.timerInterval + I
      else
        (w.scan x).grabs = w.grabs ∧
          (w.scan x).sampler.timerInterval = w.sampler.timerInterval := by
  obtain ⟨u, r, hu, hr, hr'⟩ := scan_byTime hx.undisturbed hx.flows hw.noflow
  have hinterval : u.interval = .value I.toNat := hu.interval.trans hw.interval
  have htimer : u.timerInterval = w.sampler.timerInterval := hu.timerInterval
  have hsampler : (w.scan x).sampler = r := by rw [scan, hr]; rfl
  have hgrabs : (w.scan x).grabs = w.grabs + if r.grab = 1 then 1 else 0 := by rw [scan, hr]; rfl
  have hdue : u.interval.addLe u.timerInterval.toNat x.2.sysTick.toNat = true ↔
      w.sampler.timerInterval.toNat + I.toNat ≤ x.2.sysTick.toNat := by
    rw [hinterval, htimer, Interval.addLe, decide_eq_true_iff]
    exact_mod_cast Iff.rfl
  rw [hsampler, hgrabs, hr'.interval, hr'.noflow, hr'.grab, hr'.timerInterval, grabByTime]
  by_cases h : w.sampler.timerInterval.toNat + I.toNat ≤ x.2.sysTick.toNat
  · rw [if_pos (hdue.mpr h), if_pos h]
    refine ⟨hinterval, hu.noflow.trans hw.noflow, rfl, ?_⟩
    dsimp only
    rw [hinterval, htimer, Interval.toUDINT, toUDINT_toNat]
  · have hgrab : u.grab ≠ 1 := by rw [hu.grab]; simp [begun]
    rw [if_neg (mt hdue.mp h), if_neg h, if_neg hgrab]
    exact ⟨hinterval, hu.noflow.trans hw.noflow, rfl, htimer⟩

/-- A cycle keeps the grabs punctual if and only if none is due behind the wrap. -/
lemma punctual_scan_iff (hI : 0 < I.toNat) (hw : w.OnTime I) (hx : w.Steady I x) :
    ((w.scan x).Punctual I ↔ w.DueInTime I x) ∧ ((w.scan x).Punctual I → (w.scan x).OnTime I) := by
  obtain ⟨hinterval, hnoflow, hspec⟩ := scan_spec hw hx
  have hlt : I.toNat < 2 ^ 32 := I.toNat_lt
  have hgap := hx.gap
  have hn : w.grabs * I.toNat ≤ w.elapsed := by
    rw [hw.grabs]
    exact Nat.div_mul_le_self _ _
  have hn' : w.elapsed < w.grabs * I.toNat + I.toNat := by
    rw [hw.grabs]
    exact Nat.lt_div_mul_add hI
  have helapsed : (w.scan x).elapsed = w.elapsed + x.1 := rfl
  have hstart : (w.scan x).start = w.start := rfl
  -- The ticks of the last grab and of this cycle, counted on from the tick of the start.
  obtain ⟨a, ha⟩ : ∃ a, a = w.start % 2 ^ 32 + w.grabs * I.toNat := ⟨_, rfl⟩
  obtain ⟨b, hb⟩ : ∃ b, b = w.start % 2 ^ 32 + w.elapsed + x.1 := ⟨_, rfl⟩
  have htick : x.2.sysTick.toNat = b % 2 ^ 32 := by
    rw [hx.tick, UInt32.toNat_ofNat', hb, add_assoc, add_assoc, Nat.mod_add_mod]
  rw [hw.timerInterval, ← ha, htick] at hspec
  have hreached := le_tick_iff (a := a) hlt (show b < a + 2 * I.toNat by omega)
  rw [punctual_iff_div hI, DueInTime, ← hw.grabs, helapsed, ← hb]
  by_cases hdue : a + I.toNat ≤ b
  · have hdiv : (w.elapsed + x.1) / I.toNat = w.grabs + 1 := by
      refine Nat.div_eq_of_lt_le ?_ ?_
      · rw [Nat.add_mul, Nat.one_mul]
        omega
      · rw [Nat.add_mul, Nat.add_mul, Nat.one_mul]
        omega
    rw [hdiv]
    by_cases hwrap : b < 2 ^ 32
    · rw [if_pos (hreached.mpr ⟨hdue, hwrap⟩)] at hspec
      refine ⟨iff_of_true hspec.1 fun _ => hwrap, fun _ => ⟨hinterval, ?_, hnoflow, ?_⟩⟩
      · rw [hspec.2, UInt32.toNat_add, hw.timerInterval, hstart, hspec.1, Nat.add_mul, Nat.one_mul,
          ← add_assoc, ← ha]
        exact Nat.mod_eq_of_lt (lt_of_le_of_lt hdue hwrap)
      · rw [hspec.1, helapsed, hdiv]
    · rw [if_neg fun h => hwrap (hreached.mp h).2] at hspec
      have hne : (w.scan x).grabs ≠ w.grabs + 1 := by omega
      exact ⟨iff_of_false hne fun h => hwrap (h (Nat.lt_succ_self _)), fun h => absurd h hne⟩
  · have hdiv : (w.elapsed + x.1) / I.toNat = w.grabs := by
      refine Nat.div_eq_of_lt_le ?_ ?_
      · omega
      · rw [Nat.add_mul, Nat.one_mul]
        omega
    rw [hdiv]
    rw [if_neg fun h => hdue (hreached.mp h).1] at hspec
    refine ⟨iff_of_true hspec.1 fun h => absurd h (lt_irrefl _),
      fun _ => ⟨hinterval, ?_, hnoflow, ?_⟩⟩
    · rw [hspec.2, hw.timerInterval, hstart, hspec.1]
    · rw [hspec.1, helapsed, hdiv]

/-- In a run by time from a start the grabs are punctual if and only if none is due behind the wrap
of the tick. -/
theorem punctual_iff (hI : 0 < I.toNat) (hw : w.Begins I) (l : List (ℕ × SamplerInput))
    (hl : Run.Along scan (Steady I) w l) :
    (∀ pre, pre <+: l → (pre.foldl scan w).Punctual I) ↔ Run.Along scan (DueInTime I) w l := by
  rw [Run.forall_prefix_iff, and_iff_right ((punctual_iff_div hI).mpr hw.onTime.grabs)]
  exact Run.along_congr (OnTime I) (fun w x hw hx => (punctual_scan_iff hI hw hx).1)
    (fun w x hw hx => (punctual_scan_iff hI hw hx).2) hw.onTime hl

/-! ### A test -/

/-- The command for a test starts a run by time. -/
lemma begins_of_test {T : ℕ} (hs : s.state.rests = true) (h : Silent i) (hc : i.command = some 3)
    (htick : i.sysTick = UInt32.ofNat T) :
    ∃ r, s.scan i = some r ∧ r.state = .test ∧
      Begins (2000 * i.set.probeTest) ⟨r, T, 0, 0⟩ := by
  obtain ⟨t, ht, hstate, hcommand⟩ := entered_silent (s := s) h
  have hcommand' : t.command = .test := by rw [hcommand, load_command hc]; rfl
  have hdispatch : t.dispatch i = some (t.onStartTest i) := by
    rw [dispatch_of_rests (hstate ▸ hs), onIdle, hcommand']
  exact ⟨_, scan_of_dispatch ht hdispatch, rfl, ⟨rfl, htick, rfl, rfl, rfl⟩⟩

/-- A cycle at a true time. -/
def cycleAtTime (time : ℕ) (command : Option UInt16) : SamplerInput :=
  { cycleAt (UInt32.ofNat time) command with unixTime := 0 }

/-- A sampler in a test of one grab, whose interval is two seconds, that was started at a time. -/
def testing (start : ℕ) : Timed where
  sampler :=
    { isCalc := true, method := .volume, state := .test, interval := .value (2000 : UInt32).toNat,
      grabCount := 1, grabRemain := 1, canRemain := 10, timerInterval := UInt32.ofNat start,
      out := [.startTest] }
  start := start
  elapsed := 0
  grabs := 0

lemma scan_testing (start : ℕ) :
    ({ method := .volume } : Sampler).scan (cycleAtTime start (some 3)) =
      some (testing start).sampler := rfl

lemma testing_begins (start : ℕ) : (testing start).Begins 2000 := ⟨rfl, rfl, rfl, rfl, rfl⟩

lemma testing_steady (start : ℕ) :
    (testing start).Steady 2000 (2000, cycleAtTime (start + 2000) none) where
  gap := show 2000 ≤ (2000 : UInt32).toNat by decide
  tick := rfl
  undisturbed := ⟨rfl, rfl, nofun, nofun⟩
  flows := .inl rfl

/-- A test that is started at the tick zero. -/
theorem punctual_iff_testing :
    (∀ pre, pre <+: [(2000, cycleAtTime 2000 none)] →
        (pre.foldl scan (testing 0)).Punctual 2000) ↔
      Run.Along scan (DueInTime 2000) (testing 0) [(2000, cycleAtTime 2000 none)] :=
  punctual_iff (by decide) (testing_begins 0) [(2000, cycleAtTime 2000 none)]
    ⟨testing_steady 0, trivial⟩

/-- In a test that is started a second before the wrap of the tick the grab is not taken after two
seconds. -/
theorem punctual_fails :
    ∃ (I : UInt32) (w : Timed) (l : List (ℕ × SamplerInput)), 0 < I.toNat ∧ w.Begins I ∧
      Run.Along scan (Steady I) w l ∧ ¬ ∀ pre, pre <+: l → (pre.foldl scan w).Punctual I := by
  refine ⟨2000, testing 4294966296, [(2000, cycleAtTime (4294966296 + 2000) none)], by decide,
    testing_begins _, ⟨testing_steady 4294966296, trivial⟩, fun h => ?_⟩
  have hgrab := (h _ List.prefix_rfl 1).mpr (by decide)
  revert hgrab
  decide +kernel

end Timed

/-! ### The interval by time -/

/-- By time the interval is a whole number. -/
def WholeInterval (s : Sampler) : Prop :=
  s.state.isTimed = true → ∃ I : UInt32, s.interval = .value I.toNat

lemma wholeInterval_of_state (hs : s.state.isTimed = false) : s.WholeInterval :=
  fun h => absurd h (by simp [hs])

lemma WholeInterval.of_eq (h : s.WholeInterval) (hs : t.state = s.state)
    (hi : t.interval = s.interval) : t.WholeInterval := by
  rw [WholeInterval, hs, hi]
  exact h

lemma onStart_wholeInterval (h : s.onStart i = some t) : t.WholeInterval := by
  have hmethod : s.clear.method = s.method := rfl
  rw [onStart] at h
  dsimp only at h
  split_ifs at h
  · cases h
    exact wholeInterval_of_state rfl
  · rw [hmethod] at h
    cases hm : s.method with
    | period => simp [hm, divUDINT, clear] at h
    | volume | mass | other =>
        rw [hm, Option.some_inj] at h
        subst h
        exact wholeInterval_of_state rfl

lemma unlessStopped_wholeInterval {rest : Sampler → Option Sampler} (ht : t.WholeInterval)
    (hrest : ∀ u r, u.WholeInterval → rest u = some r → r.WholeInterval)
    (h : unlessStopped rest t = some r) : r.WholeInterval := by
  rcases unlessStopped_cases h with ⟨⟨-, hs⟩ | ⟨-, hs⟩, -⟩ | ⟨-, u, hu, hr⟩
  · exact wholeInterval_of_state (by rw [hs]; rfl)
  · exact wholeInterval_of_state (by rw [hs]; rfl)
  · refine hrest u r ?_ hr
    rcases hu with rfl | rfl
    · exact ht
    · exact ht.of_eq rfl rfl

lemma checkInterval_interval {v : Interval} :
    ({ s with interval := v } : Sampler).checkInterval.1.interval = v := by
  rw [checkInterval]
  split_ifs <;> rfl

lemma recalcInterval_wholeInterval (h : s.recalcInterval = some t) : t.WholeInterval := by
  obtain ⟨interval, -, h⟩ := Option.bind_eq_some_iff.mp h
  rw [← Option.some_inj.mp h]
  refine fun _ => ⟨interval, ?_⟩
  dsimp only
  split_ifs
  · exact checkInterval_interval
  · exact checkInterval_interval

lemma checkFlow_wholeInterval (hs : s.WholeInterval) (h : s.checkFlow i = some t) :
    t.WholeInterval := by
  rw [checkFlow] at h
  split_ifs at h
  · cases h
    exact hs.of_eq rfl rfl
  · obtain ⟨u, hu, rfl⟩ := Option.map_eq_some_iff.mp h
    exact (recalcInterval_wholeInterval hu).of_eq rfl rfl
  · cases h
    exact hs

lemma finish_wholeInterval (c : Prop) [Decidable c] (hs : s.WholeInterval)
    (h : (if c then some s.finish else some s) = some r) : r.WholeInterval := by
  split_ifs at h <;> cases h
  · exact wholeInterval_of_state rfl
  · exact hs

lemma grabByTime_wholeInterval (hs : s.WholeInterval) : (s.grabByTime i).WholeInterval := by
  rw [grabByTime]
  split_ifs
  · exact hs.of_eq rfl rfl
  · exact hs

lemma grabByTotal_wholeInterval {ch : Channel} (hs : s.WholeInterval) :
    (s.grabByTotal ch i).WholeInterval := by
  rw [grabByTotal]
  split_ifs
  · exact hs.of_eq rfl rfl
  · exact hs

lemma onWorkTimer_wholeInterval {checkflow : Bool} (ht : t.WholeInterval)
    (h : t.onWorkTimer checkflow i = some r) : r.WholeInterval := by
  refine unlessStopped_wholeInterval ht (fun u r hu hr => ?_) h
  obtain ⟨v, hv, hr⟩ : ∃ v : Sampler, v.WholeInterval ∧
      (if checkflow && v.noflow then some v
        else if (v.grabByTime i).timeStart + i.set.probePeriod < i.unixTime ∨
            (v.grabByTime i).grabRemain = 0 ∨ isCanOverflow i then some (v.grabByTime i).finish
        else some (v.grabByTime i)) = some r := by
    cases checkflow with
    | false => exact ⟨u, hu, hr⟩
    | true =>
        obtain ⟨v, hv, hr⟩ := Option.bind_eq_some_iff.mp hr
        exact ⟨v, checkFlow_wholeInterval hu hv, hr⟩
  by_cases hnoflow : (checkflow && v.noflow) = true
  · rw [if_pos hnoflow] at hr
    exact Option.some_inj.mp hr ▸ hv
  · rw [if_neg hnoflow] at hr
    exact finish_wholeInterval _ (grabByTime_wholeInterval hv) hr

lemma dispatch_wholeInterval (ht : t.WholeInterval) (h : t.dispatch i = some r) :
    r.WholeInterval := by
  have hidle (hidle : t.onIdle i = some r) : r.WholeInterval := by
    rw [onIdle] at hidle
    split at hidle
    · exact onStart_wholeInterval hidle
    all_goals cases hidle
    · exact wholeInterval_of_state rfl
    · exact fun _ => ⟨2000 * i.set.probeTest, rfl⟩
    all_goals exact ht.of_eq rfl rfl
  rw [dispatch] at h
  cases hstate : t.state with
  | idle | finish =>
      rw [hstate] at h
      exact hidle h
  | test | worktime =>
      rw [hstate] at h
      exact onWorkTimer_wholeInterval ht h
  | workvolume | workmass =>
      rw [hstate] at h
      exact unlessStopped_wholeInterval ht
        (fun u r hu hr => finish_wholeInterval _ (grabByTotal_wholeInterval hu) hr) h
  | pause =>
      rw [hstate, Option.some_inj] at h
      exact h ▸ ht
  | error =>
      rw [hstate, Option.some_inj] at h
      subst h
      rw [onWorkError]
      split
      · exact ht
      · exact wholeInterval_of_state rfl
      · exact ht.of_eq rfl rfl

lemma checkStop_state (h : (s.checkStop i).2 = true) : (s.checkStop i).1.state = .idle := by
  revert h
  unfold checkStop
  cases i.ioStop with
  | none => exact nofun
  | some value =>
      dsimp only
      split_ifs <;> first
        | exact fun _ => rfl
        | exact nofun

lemma entered_wholeInterval (hs : s.WholeInterval) (h : s.entered i = some t) :
    t.WholeInterval := by
  cases hio : startsByInput i (s.begun i) with
  | true =>
      obtain ⟨u, hu, -⟩ := checkIO_of_startsByInput hio
      exact onStart_wholeInterval (hu.symm.trans h)
  | false =>
      cases hstop : ((s.begun i).checkStop i).2 with
      | true =>
          rw [entered, checkIO_eq, if_pos hstop, Option.some_inj] at h
          have hidle : t.state = .idle := h ▸ checkStop_state hstop
          exact wholeInterval_of_state (by rw [hidle]; rfl)
      | false =>
          obtain ⟨u, hu, hsame, hstate⟩ := checkIO_sameWork hio hstop
          cases (Option.some_inj.mp (hu.symm.trans h) : u = t)
          exact hs.of_eq hstate hsame.interval

lemma scan_wholeInterval (hs : s.WholeInterval) (h : s.scan i = some r) : r.WholeInterval := by
  obtain ⟨t, u, ht, hu, rfl⟩ := scan_eq_some h
  exact (dispatch_wholeInterval (entered_wholeInterval hs ht) hu).of_eq rfl rfl

lemma run_wholeInterval (hs : s.WholeInterval) {l : List SamplerInput} (h : s.run l = some r) :
    r.WholeInterval := by
  induction l using List.reverseRecOn generalizing r with
  | nil => exact Option.some_inj.mp h ▸ hs
  | append_singleton l i ih =>
      rw [run, List.foldl_concat] at h
      obtain ⟨t, ht, hr⟩ := Option.bind_eq_some_iff.mp h
      exact scan_wholeInterval (ih ht) hr

/-- In every run from a sampler at rest the interval of the states by time is a whole number. -/
theorem wholeInterval_run (hs : s.state.rests = true) (l : List SamplerInput)
    (h : s.run l = some r) : r.WholeInterval :=
  run_wholeInterval (wholeInterval_of_state (SamplerState.isTimed_of_rests hs)) h

end Sampler

end Tritonn

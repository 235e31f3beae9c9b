import Tritonn.Lib.Run
import Tritonn.Prove.Cycle

/-!
Fresh runs: whether a proving run begins anew, however the last one ended.

* `Completed` is a proving run, from the cycle that accepts the start command to `FINISH`;
* `Fresh` is the property: a cycle of the run clears the averages and the detectors, connects the
  stream and starts the timer, the run waits for that timer, and it makes the passes of its setup;
* `scan_start` says what a cycle in `START` does, and `passes_of_finishes` which passes a run makes
  that goes in the forward direction from there;
* `freshRuns_iff` says that in every sequence of cycles the completed runs are fresh if and only if
  each of them was accepted with the timer stopped;
* `fresh_of_undisturbed` says how that is kept: nothing ends a run from outside while its timer
  goes on, that is, no command to abort, no failed stabilization and no lost stream;
* `freshRuns_fails` is a run after one that was aborted while it waited for the start timer.
-/

namespace Tritonn

open Run (Until Along outputs outputs_of_potential along_of_inv forall_prefix_iff)

namespace Prove

open ProveState (passes entered remaining)

variable {p q : Prove} {i : ProveInput} {l : List ProveInput}

/-- The run is under way after a cycle, until it finishes. -/
abbrev Finishes : Prove → List ProveInput → Prop :=
  Until scan (fun q => q.state.isUnderWay = true) fun q => q.state = .finish

/-- A proving run: the cycle `i` accepts the command to start, and the cycles `l` lead to `FINISH`
without leaving the run. -/
structure Completed (p : Prove) (i : ProveInput) (l : List ProveInput) : Prop where
  resting : p.state = .idle ∨ p.state = .finish
  accepted : (p.scan i).state = .start
  finishes : Finishes (p.scan i) l

/-- The results of the last run are gone. -/
structure Cleared (p : Prove) : Prop where
  average : p.average = {}
  volume131 : p.volume131 = {}
  volume242 : p.volume242 = {}
  fixDet : p.fixDet = 0

/-- A cycle in `START` clears the results, finds the selected stream, connects it, unless the setup
says not to, and starts the timer. -/
structure Initialises (p : Prove) (i : ProveInput) : Prop where
  state : p.state = .start
  stays : (p.scan i).state = .start
  cleared : (p.scan i).Cleared
  checked : p.strIdx.toNat < i.streams.length
  connected : p.setup.saved &&& ProveSetup.noselectstr = 0 →
    .setStreamFreqOut p.strIdx ∈ (p.scan i).out
  stopped : p.timer.isStart = false
  started : (p.scan i).timer = .start i.tickStart i.timers.tStart

/-- The cycles that follow `START`: one of them initialises the run, and the run stays in `START`
until the timer of that cycle is finished. -/
def Waits (p : Prove) (l : List ProveInput) : Prop :=
  ∃ pre j mid k post, l = pre ++ j :: (mid ++ k :: post) ∧ (p.run pre).Initialises j ∧
    (∀ m, m <+: mid → (p.run (pre ++ j :: m)).state = .start) ∧
    (p.run (pre ++ j :: (mid ++ [k]))).state ≠ .start ∧
    j.timers.tStart ≤ k.tickFinish - j.tickStart

/-- The states of the passes that the cycles enter, with the directions. -/
def entries (p : Prove) (l : List ProveInput) : List (ProveState × Way) :=
  outputs scan (fun p i => entered p.state (p.scan i).state (p.scan i).way) p l

/-- A proving run begins anew and makes one pass forward, and then one back with the four-way
valve. -/
structure Fresh (p : Prove) (i : ProveInput) (l : List ProveInput) : Prop where
  waits : (p.scan i).Waits l
  passes : (p.scan i).entries l = passes (p.scan i).valve4way .forward

/-! ### The state `START` -/

/-- The ways in which a cycle may lead from `q` in `START` to `r`: it ends the run, initialises it,
leaves `START` when the timer is finished, or waits for it. -/
inductive StartStep (i : ProveInput) (q r : Prove) : Prop where
  | ends (state : ¬ (r.state.isUnderWay = true ∨ r.state = .finish))
  | initialises (stopped : q.timer.isStart = false) (state : r.state = .start)
      (cleared : r.Cleared) (checked : q.strIdx.toNat < i.streams.length)
      (connected : q.has ProveSetup.noselectstr = false → .setStreamFreqOut q.strIdx ∈ r.out)
      (started : r.timer = .start i.tickStart i.timers.tStart) (way : r.way = .forward)
  | leaves (finished : q.timerFinished i = true) (state : r.state ≠ .start)
  | waits (state : r.state = .start) (timer : r.timer = q.timer) (way : r.way = q.way)

lemma onStart_step (h : q.state = .start) : StartStep i q (q.onStart i) := by
  refine unlessAborted_ind (fun _ => .ends (by simp [ProveState.isUnderWay])) fun out => ?_
  dsimp only
  split_ifs with hstart hfinished hflow hstab
  · -- The first cycle in `START`: the stream may be missing, and may not have to be connected.
    have hstopped : q.timer.isStart = false := by simpa using hstart
    rw [connectToLine]
    split_ifs with hidx hselect
    · exact .ends (by simp [ProveState.isUnderWay])
    · refine .initialises hstopped h ⟨rfl, rfl, rfl, rfl⟩ (by simpa using hidx) (fun hno => ?_)
        rfl rfl
      rw [show q.has ProveSetup.noselectstr = true from hselect] at hno
      cases hno
    · refine .initialises hstopped h ⟨rfl, rfl, rfl, rfl⟩ (by simpa using hidx) (fun _ => ?_)
        rfl rfl
      exact List.mem_append_right _ (List.mem_singleton_self _)
  · exact .ends (by simp [ProveState.isUnderWay])
  · exact .leaves hfinished (by simp)
  · exact .leaves hfinished (by simp)
  · exact .waits h rfl rfl

/-- A cycle in `START` is a step of its handler, or waits or ends without it. -/
lemma scan_start (h : p.state = .start) : ∃ q, p.Ready i q ∧ StartStep i q (p.scan i) := by
  obtain ⟨q, hq, ⟨hscan, hstate⟩ | hscan⟩ := scan_cases p i
  · refine ⟨q, hq, ?_⟩
    rw [hscan]
    exact .waits (hstate.trans h) rfl rfl
  refine ⟨q, hq, ?_⟩
  rw [hscan]
  rcases hq.state with hs | ⟨hs, -⟩
  · have hstart : q.state = .start := hs.trans h
    have hstep := onStart_step (i := i) hstart
    rw [dispatch, hstart]
    cases hstep with
    | ends hstate => exact .ends hstate
    | initialises hstopped hstate hcleared hchecked hconnected hstarted hway =>
        exact .initialises hstopped hstate ⟨hcleared.1, hcleared.2, hcleared.3, hcleared.4⟩
          hchecked hconnected hstarted hway
    | leaves hfinished hstate => exact .leaves hfinished hstate
    | waits hstate htimer hway => exact .waits hstate htimer hway
  · have hedge := (dispatch_follows (p := q) (i := i)).edge
    simp only [hs, ProveState.edges, List.mem_cons, Prod.mk.injEq, List.not_mem_nil,
      or_false] at hedge
    refine .ends ?_
    obtain ⟨he, -⟩ | ⟨he, -⟩ := hedge <;> simp [he, ProveState.isUnderWay]

/-- A proving run does not come back to `START`. -/
lemma scan_ne_start (hu : p.state.isUnderWay = true) (hne : p.state ≠ .start)
    (hq : (p.scan i).state.isUnderWay = true ∨ (p.scan i).state = .finish) :
    (p.scan i).state ≠ .start := by
  have hidle : p.state ≠ .idle := fun h => by simp [h, ProveState.isUnderWay] at hu
  rcases scan_edge hidle hq with h | h
  · rw [(Prod.mk.inj h).1]
    exact hne
  · exact ProveState.ne_start_of_mem_edges h hu hne

/-- A run in `START` whose timer is stopped is initialised by one of its cycles, and leaves `START`
with the timer of that cycle. -/
lemma waits_of_finishes (h : p.state = .start) (ht : p.timer.isStart = false)
    (hl : Finishes p l) : p.Waits l := by
  obtain ⟨pre, j, rest, rfl, hpre, hj, hnext, hrest⟩ :=
    hl.exists_leave (S := fun q => q.state = .start ∧ q.timer.isStart = false) ⟨h, ht⟩
      (fun q hq hS => by simp [hS.1] at hq)
  obtain ⟨hstart, hstopped⟩ := hpre pre List.prefix_rfl
  obtain ⟨q, hq, hstep⟩ := scan_start (i := j) hstart
  have hinit : Initialises (p.run pre) j := by
    cases hstep with
    | ends hstate => exact absurd hnext hstate
    | leaves hfinished =>
        rw [timerFinished, TickCount.isFinished, hq.timer, hstopped] at hfinished
        cases hfinished
    | waits hstate htimer => exact absurd ⟨hstate, by rw [htimer, hq.timer, hstopped]⟩ hj
    | initialises _ hstate hcleared hchecked hconnected hstarted =>
        rw [hq.strIdx] at hchecked hconnected
        refine ⟨hstart, hstate, hcleared, hchecked, fun hno => hconnected ?_, hstopped, hstarted⟩
        rw [has, hq.setup (by simp [hstart])]
        exact bne_eq_false_iff_eq.mpr hno
  -- From there on the timer is the one of this cycle, as long as the run is in `START`.
  obtain ⟨mid, k, post, rfl, hmid, hk, hnext', -⟩ :=
    hrest.exists_leave
      (S := fun q => q.state = .start ∧ q.timer = .start j.tickStart j.timers.tStart)
      ⟨hinit.stays, hinit.started⟩ (fun q hq hS => by simp [hS.1] at hq)
  obtain ⟨hstart', htimer'⟩ := hmid mid List.prefix_rfl
  obtain ⟨q', hq', hstep'⟩ := scan_start (i := k) hstart'
  have hleave : j.timers.tStart ≤ k.tickFinish - j.tickStart ∧
      ((((p.run pre).scan j).run mid).scan k).state ≠ .start := by
    cases hstep' with
    | ends hstate => exact absurd hnext' hstate
    | initialises hstop => simp [hq'.timer, htimer'] at hstop
    | waits hstate htimer => exact absurd ⟨hstate, by rw [htimer, hq'.timer, htimer']⟩ hk
    | leaves hfinished hstate =>
        rw [timerFinished, hq'.timer, htimer', TickCount.isFinished_start] at hfinished
        exact ⟨hfinished, hstate⟩
  refine ⟨pre, j, mid, k, post, rfl, hinit, fun m hm => ?_, ?_, hleave.1⟩
  · rw [run_append_cons]
    exact (hmid m hm).1
  · rw [run_append_cons, run, List.foldl_append]
    exact hleave.2

/-- While the timer of an earlier run goes on, no cycle initialises the run. -/
lemma timer_of_finishes (h : p.state = .start → p.timer.isStart = true) {pre post : List ProveInput}
    (hl : Finishes p (pre ++ post)) (hs : (p.run pre).state = .start) :
    (p.run pre).timer.isStart = true := by
  induction pre generalizing p with
  | nil => exact h hs
  | cons i pre ih =>
      obtain ⟨hu, hl⟩ := hl
      refine ih (fun hstart' => ?_) hl hs
      by_cases hstart : p.state = .start
      · obtain ⟨q, hq, hstep⟩ := scan_start (i := i) hstart
        cases hstep with
        | ends hstate => exact absurd hl.head hstate
        | initialises hstopped =>
            rw [hq.timer, h hstart] at hstopped
            cases hstopped
        | leaves _ hstate => exact absurd hstart' hstate
        | waits _ htimer => rw [htimer, hq.timer, h hstart]
      · exact absurd hstart' (scan_ne_start hu hstart hl.head)

/-! ### The passes -/

/-- What is ahead of a run, which goes in the forward direction from `START` on. -/
def ahead (valve4way : Bool) (p : Prove) : List (ProveState × Way) :=
  remaining valve4way p.state (if p.state = .start then .forward else p.way)

/-- The direction is set when the timer of `START` runs. -/
def Steady (p : Prove) : Prop := p.state = .start → p.timer.isStart = true → p.way = .forward

lemma scan_valve4way (h : p.state ≠ .idle) : (p.scan i).valve4way = p.valve4way := by
  rw [valve4way, valve4way, scan_saved h]

/-- A cycle in `START` leaves the passes ahead. -/
lemma ahead_scan_start {valve4way : Bool} (hv : p.valve4way = valve4way) (h : p.state = .start)
    (hs : p.Steady) (hq : (p.scan i).state.isUnderWay = true ∨ (p.scan i).state = .finish) :
    ahead valve4way p = entered p.state (p.scan i).state (p.scan i).way ++
        ahead valve4way (p.scan i) ∧ (p.scan i).Steady := by
  have hstay (hi : (p.scan i).state = .start) :
      ahead valve4way p = entered p.state (p.scan i).state (p.scan i).way ++
        ahead valve4way (p.scan i) := by
    simp [ahead, entered, h, hi]
  obtain ⟨q, hq', hstep⟩ := scan_start (i := i) h
  cases hstep with
  | ends hstate => exact absurd hq hstate
  | initialises _ hstate _ _ _ _ hway => exact ⟨hstay hstate, fun _ _ => hway⟩
  | waits hstate htimer hway =>
      refine ⟨hstay hstate, fun _ ht => ?_⟩
      rw [hway, hq'.way]
      exact hs h (by rwa [htimer, hq'.timer] at ht)
  | leaves hfinished hstate =>
      refine ⟨?_, fun hstart => absurd hstart hstate⟩
      have hway : p.way = .forward := by
        refine hs h ?_
        rw [timerFinished, hq'.timer, TickCount.isFinished, Bool.and_eq_true] at hfinished
        exact hfinished.1
      rcases scan_edge (by simp [h]) hq with he | he
      · exact absurd ((Prod.mk.inj he).1.trans h) hstate
      · rw [hv, h, hway] at he
        have hforward : (p.scan i).way = .forward := by
          simp only [ProveState.edges, List.mem_cons, Prod.mk.injEq, List.not_mem_nil,
            or_false] at he
          tauto
        have hrem := ProveState.remaining_eq he rfl hq fun _ => hforward
        rw [ahead, ahead, if_pos h, if_neg hstate, h, hforward]
        rwa [hforward] at hrem

/-- A cycle of a run enters what is ahead of it. -/
lemma ahead_scan {valve4way : Bool} (hv : p.valve4way = valve4way)
    (hu : p.state.isUnderWay = true) (hs : p.Steady)
    (hq : (p.scan i).state.isUnderWay = true ∨ (p.scan i).state = .finish) :
    ahead valve4way p = entered p.state (p.scan i).state (p.scan i).way ++
        ahead valve4way (p.scan i) ∧ (p.scan i).Steady := by
  by_cases h : p.state = .start
  · exact ahead_scan_start hv h hs hq
  have hne := scan_ne_start hu h hq
  refine ⟨?_, fun hstart => absurd hstart hne⟩
  rw [ahead, ahead, if_neg h, if_neg hne]
  rcases scan_edge (fun hidle => by simp [hidle, ProveState.isUnderWay] at hu) hq with he | he
  · obtain ⟨hstate, hway⟩ := Prod.mk.inj he
    simp [hstate, hway, entered]
  · rw [hv] at he
    exact ProveState.remaining_eq he hu hq fun hstart => absurd hstart h

/-- A run that begins in `START`, and with a running timer only in the forward direction, makes the
passes of its setup. -/
theorem passes_of_finishes (h : p.state = .start) (hs : p.Steady) (hl : Finishes p l) :
    p.entries l = passes p.valve4way .forward := by
  have halong : Along scan (fun q i => ahead p.valve4way q =
      entered q.state (q.scan i).state (q.scan i).way ++ ahead p.valve4way (q.scan i)) p l := by
    refine along_of_inv (fun q => q.Steady ∧ q.valve4way = p.valve4way) ?_ ⟨hs, rfl⟩ hl.along
    rintro q i ⟨hq, hv⟩ ⟨hu, hnext⟩
    obtain ⟨hahead, hsteady⟩ := ahead_scan hv hu hq hnext
    have hidle : q.state ≠ .idle := fun hidle => by simp [hidle, ProveState.isUnderWay] at hu
    exact ⟨hahead, hsteady, (scan_valve4way hidle).trans hv⟩
  have hfinal : (l.foldl scan p).state = .finish := hl.final
  have hsum := outputs_of_potential (ahead p.valve4way) halong
  have hdone : ahead p.valve4way (l.foldl scan p) = [] := by simp [ahead, hfinal, remaining]
  rw [hdone, List.append_nil] at hsum
  rw [entries, hsum, ahead, h, if_pos rfl, remaining]

/-! ### Runs -/

lemma onIdle_timer : p.onIdle.timer = p.timer := by
  rw [onIdle]
  split <;> rfl

/-- The cycle that accepts the command to start does not touch the timer. -/
lemma Completed.timer (h : Completed p i l) : (p.scan i).timer = p.timer := by
  have hstate := h.accepted
  obtain ⟨q, hq, ⟨hscan, -⟩ | hscan⟩ := scan_cases p i
  · rw [hscan, hq.timer]
  rw [hscan] at hstate ⊢
  rcases hq.state with hs | ⟨hs, -⟩
  · have hdispatch : q.dispatch i = q.onIdle := by
      rcases h.resting with hp | hp <;> rw [dispatch, hs, hp]
    rw [hdispatch]
    exact onIdle_timer.trans hq.timer
  · have hedge := (dispatch_follows (p := q) (i := i)).edge
    simp only at hstate
    simp [hs, hstate, ProveState.edges] at hedge

/-- A completed run is fresh if and only if it was accepted with the timer stopped. -/
lemma Completed.fresh_iff (h : Completed p i l) : Fresh p i l ↔ p.timer.isStart = false := by
  constructor
  · rintro ⟨⟨pre, j, mid, k, post, rfl, hinit, -⟩, -⟩
    by_contra ht
    have hrun := timer_of_finishes (fun _ => by simpa [h.timer] using ht) h.finishes hinit.state
    rw [hinit.stopped] at hrun
    cases hrun
  · intro ht
    rw [← h.timer] at ht
    exact ⟨waits_of_finishes h.accepted ht h.finishes,
      passes_of_finishes h.accepted (fun _ hstart => by simp [ht] at hstart) h.finishes⟩

/-- In every sequence of cycles, from any state, the completed runs are fresh if and only if each
of them was accepted with the timer stopped. -/
theorem freshRuns_iff (p : Prove) (l : List ProveInput) :
    (∀ pre i mid, pre ++ i :: mid <+: l → Completed (p.run pre) i mid →
        Fresh (p.run pre) i mid) ↔
      ∀ pre i mid, pre ++ i :: mid <+: l → Completed (p.run pre) i mid →
        (p.run pre).timer.isStart = false :=
  forall_congr' fun _ => forall_congr' fun _ => forall_congr' fun _ => forall_congr' fun _ =>
    forall_congr' fun h => h.fresh_iff

/-! ### Which runs leave the timer stopped -/

/-- The timer runs only in the states whose handlers start it. -/
def Tidy (p : Prove) : Prop := p.timer.isStart = true → p.state.usesTimer = true

/-- While the timer runs, the cycle does not abort the run, has its stream and does not fail the
stabilization. -/
def Undisturbed (p : Prove) (i : ProveInput) : Prop :=
  p.timer.isStart = true → (p.load i).command ≠ .abort ∧ p.strIdx.toNat < i.streams.length ∧
    (p.scan i).state ≠ .errorstab

lemma scan_tidy (h : p.Tidy) (hi : p.Undisturbed i) : (p.scan i).Tidy := by
  intro ht
  obtain ⟨q, hq, ⟨hscan, hstate⟩ | hscan⟩ := scan_cases p i
  · rw [hscan, hq.timer] at ht
    rw [hscan, hstate]
    exact h ht
  have hfollows := dispatch_follows (p := q) (i := i)
  rw [Undisturbed, hscan] at hi
  rw [hscan] at ht ⊢
  obtain huses | ⟨hqt, hends⟩ := hfollows.timer ht
  · exact huses
  rw [hq.timer] at hqt
  obtain ⟨hcommand, hstream, hstab⟩ := hi hqt
  rcases hq.state with hs | ⟨-, hlost⟩
  · rw [hs, hq.command] at hends
    rcases hends (h hqt) with ha | he
    · exact absurd ha hcommand
    · exact absurd he hstab
  · exact absurd hstream (Nat.not_lt.mpr hlost)

/-- As long as no cycle ends a run while its timer goes on, every completed run is fresh. -/
theorem fresh_of_undisturbed {pre mid : List ProveInput} (hp : p.Tidy)
    (hl : Along scan Undisturbed p l) (hpre : pre ++ i :: mid <+: l)
    (hc : Completed (p.run pre) i mid) : Fresh (p.run pre) i mid := by
  have htidy : (p.run pre).Tidy :=
    (forall_prefix_iff p l).mpr ⟨hp, along_of_inv Tidy
      (fun q j hq hj => ⟨scan_tidy hq hj, scan_tidy hq hj⟩) hp hl⟩ pre
      ((List.prefix_append _ _).trans hpre)
  refine hc.fresh_iff.mpr (Bool.eq_false_iff.mpr fun ht => ?_)
  have huses := htidy ht
  rcases hc.resting with hs | hs <;> rw [hs] at huses <;> cases huses

/-! ### An aborted run -/

/-- A run that is started, starts its timer, and is aborted half a second later. -/
def abortedRun : List ProveInput :=
  [cycleAt oneDetector 0 (some 1) fun _ => 0, quietAt oneDetector 0,
    cycleAt oneDetector 500 (some 2) fun _ => 0]

/-- The next command to start. -/
def nextStart : ProveInput := cycleAt oneDetector 1000 (some 1) fun _ => 0

/-- The cycles behind it, in which the ball makes a pass. -/
def nextRun : List ProveInput :=
  [1010, 1020, 6020, 6030].map (quietAt oneDetector) ++
    [cycleAt oneDetector 7000 none ![1, 0, 0, 0], quietAt oneDetector 7010,
      cycleAt oneDetector 9000 none ![0, 0, 1, 0]] ++
    [9010, 17010, 17020, 22020, 22030].map (quietAt oneDetector)

/-- After power-on the run with the same cycles is fresh. -/
example : Fresh ({ moduleNum := 0 } : Prove) (cycleAt oneDetector 0 (some 1) fun _ => 0)
    (quietAt oneDetector 0 :: nextRun) :=
  (Completed.fresh_iff ⟨by decide, by decide, by decide +kernel⟩).mpr rfl

/-- The timer of the aborted run goes on, and is the one with which the next run leaves `START` at
once: nothing is cleared and no stream is connected in that run, which finishes. -/
theorem freshRuns_fails :
    Completed (({ moduleNum := 0 } : Prove).run abortedRun) nextStart nextRun ∧
      ¬ Fresh (({ moduleNum := 0 } : Prove).run abortedRun) nextStart nextRun := by
  have hrun : Completed (({ moduleNum := 0 } : Prove).run abortedRun) nextStart nextRun :=
    ⟨by decide, by decide, by decide +kernel⟩
  exact ⟨hrun, fun hfresh => absurd (hrun.fresh_iff.mp hfresh) (by decide)⟩

end Prove

end Tritonn

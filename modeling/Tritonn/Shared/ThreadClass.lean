import Tritonn.Lib.Run

/-!
`src/shared/thread_class.cpp` and `src/shared/safity.h`: a thread and the commands that other
threads give to it.

* `ThreadClass` is a thread with its shared fields, each of which is read or written in one step
  (`rSafityValue`), and the place in `rThreadClass::Proccesing` at which it is;
* `step` is one step of the thread or of another one, `observe` what can be seen of it: a value read
  from `Pause`, or the return of a call of `Proccesing`;
* `FinishKept` and `PauseKept` say what the callers of `Finish` and of `Pause.Set(-1)` may expect,
  and `finishKept_iff` and `pauseKept_iff` where the thread must be for that;
* `commandsKept_iff` is the statement about runs;
* `commandsKept_fails` are a command between the two steps on `Command`, and a pause without an end.
-/

namespace Tritonn

/-- `rThreadStatus`. -/
inductive ThreadStatus where
  | undef
  | finished
  | running
  | paused
  | aborted
  | closed
  deriving DecidableEq, Repr

/-- `rThreadCommand`. -/
inductive ThreadCommand where
  | none
  | finish
  | restore
  | abort
  deriving DecidableEq, Repr

/-- Where the thread is: not in a call of `Proccesing`, in one and before the step of the name, with
the local variables that it has read, or at its end. -/
inductive ThreadPhase where
  | outside
  | again
  | getPause (command : ThreadCommand)
  | getDelay (command : ThreadCommand) (pause : Int16)
  | clearCommand (command : ThreadCommand) (pause : Int16) (delay : UInt32)
  | clearPause (command : ThreadCommand) (pause : Int16) (delay : UInt32)
  | decide (command : ThreadCommand) (pause : Int16) (delay : UInt32)
  | sleepPause (delay : UInt32)
  | setRunning (delay : UInt32)
  | sleepDelay (delay : UInt32)
  | ended
  deriving DecidableEq, Repr

/-- `rThreadClass`, without its measurement of time. -/
structure ThreadClass where
  command : ThreadCommand
  pause : Int16
  delay : UInt32
  status : ThreadStatus
  phase : ThreadPhase
  deriving DecidableEq, Repr

/-- A step: of the thread, or a call of another one. -/
inductive ThreadAct where
  | thread
  | finish
  | restore
  | pauseSet (pause : Int16)
  | delaySet (delay : UInt32)
  deriving DecidableEq, Repr

/-- What can be seen of a step. -/
inductive ThreadObs where
  | pauseRead (pause : Int16)
  | returned (status : ThreadStatus)
  deriving DecidableEq, Repr

namespace ThreadClass

/-- The next step of the thread. A call that has returned `RUNNING` is followed by another one, and
one that has returned `FINISHED` by none. -/
def threadStep (s : ThreadClass) : ThreadClass :=
  match s.phase with
  | .outside | .again => { s with phase := .getPause s.command }
  | .getPause command => { s with phase := .getDelay command s.pause }
  | .getDelay command pause => { s with phase := .clearCommand command pause s.delay }
  | .clearCommand command pause delay =>
      { s with command := .none, phase := .clearPause command pause delay }
  | .clearPause command pause delay => { s with pause := 0, phase := .decide command pause delay }
  | .decide .finish _ _ => { s with status := .finished, phase := .ended }
  | .decide .restore _ _ => { s with status := .running, phase := .outside }
  | .decide _ pause delay =>
      if pause = 0 then { s with phase := .setRunning delay }
      -- the pause without an end: the loop begins again, with `Pause` cleared
      else if pause = -1 then { s with status := .paused, phase := .again }
      else { s with status := .paused, phase := .sleepPause delay }
  | .sleepPause delay => { s with phase := .setRunning delay }
  | .setRunning delay => { s with status := .running, phase := .sleepDelay delay }
  | .sleepDelay _ => { s with phase := .outside }
  | .ended => s

/-- What can be seen of it. -/
def threadObs (s : ThreadClass) : List ThreadObs :=
  match s.phase with
  | .getPause _ => [.pauseRead s.pause]
  | .decide .finish _ _ => [.returned .finished]
  | .decide .restore _ _ => [.returned .running]
  | .sleepDelay _ => [.returned .running]
  | _ => []

/-- A step. -/
def step (s : ThreadClass) : ThreadAct → ThreadClass
  | .thread => s.threadStep
  | .finish => { s with command := .finish }
  | .restore => { s with command := .restore }
  | .pauseSet pause => { s with pause := pause }
  | .delaySet delay => { s with delay := delay }

/-- What can be seen of a step. -/
def observe (s : ThreadClass) : ThreadAct → List ThreadObs
  | .thread => s.threadObs
  | _ => []

/-- What can be seen of some steps. -/
def observed (s : ThreadClass) (l : List ThreadAct) : List ThreadObs := Run.outputs step observe s l

/-- A thread before its first call of `Proccesing`, with the delay that `Run` sets. -/
def start (delay : UInt32) : ThreadClass := ⟨.none, 0, delay, .undef, .outside⟩

/-! ### What the callers may expect -/

/-- The thread reads `Command` in its next step. -/
def ReadsCommand (s : ThreadClass) : Prop := s.phase = .outside ∨ s.phase = .again

instance (s : ThreadClass) : Decidable s.ReadsCommand := inferInstanceAs (Decidable (_ ∨ _))

/-- No step of the list overwrites `Command` before the thread has read it. -/
def NotOverwritten : ThreadClass → List ThreadAct → Prop
  | _, [] => True
  | s, a :: l => a ≠ .finish ∧ a ≠ .restore ∧
      (a = .thread ∧ s.ReadsCommand ∨ NotOverwritten (s.step a) l)

/-- Steps enough for two turns of the loop. -/
def patience : ℕ := 11

/-- A `Finish` makes a call return `FINISHED`, unless it is overwritten, as soon as the thread has
had steps enough. -/
def FinishKept (s : ThreadClass) : Prop :=
  ∀ l, NotOverwritten (s.step .finish) l → patience ≤ l.count .thread →
    .returned .finished ∈ (s.step .finish).observed l

/-- The step gives no command and no pause. -/
def Quiet (a : ThreadAct) : Prop := a = .thread ∨ ∃ delay, a = .delaySet delay

/-- After `Pause.Set(-1)`, while nobody gives a command or a pause, no call that reads it returns
`RUNNING`. -/
def PauseKept (s : ThreadClass) : Prop :=
  ∀ l, (∀ a ∈ l, Quiet a) → ∀ before during after status,
    (s.step (.pauseSet (-1))).observed l
        = before ++ .pauseRead (-1) :: (during ++ .returned status :: after) →
      (∀ status, .returned status ∉ during) → status ≠ .running

/-- The callers of `Finish` and of `Pause.Set(-1)` get what they may expect; a thread that has ended
is past a `Finish`. -/
def Kept (s : ThreadClass) : ThreadAct → Prop
  | .finish => s.phase ≠ .ended → s.FinishKept
  | .pauseSet pause => pause = -1 → s.PauseKept
  | _ => True

/-! ### Finish -/

/-- The thread has read `FINISH` in this turn of the loop. -/
def Held (s : ThreadClass) : Prop :=
  match s.phase with
  | .getPause command | .getDelay command _ | .clearCommand command _ _
  | .clearPause command _ _ | .decide command _ _ => command = .finish
  | _ => False

/-- `FINISH` waits in `Command`, and the thread is not about to clear it. -/
def Pending (s : ThreadClass) : Prop :=
  match s.phase with
  | .getPause _ | .getDelay _ _ | .clearCommand _ _ _ | .ended => False
  | _ => s.command = .finish

/-- The number of steps in which a thread that has read `FINISH`, or is to, returns at most. -/
def remaining (s : ThreadClass) : ℕ :=
  match s.phase with
  | .clearPause .finish _ _ => 2
  | .decide .finish _ _ => 1
  | .clearPause _ _ _ => 11
  | .decide _ _ _ => 10
  | .sleepPause _ => 9
  | .setRunning _ => 8
  | .sleepDelay _ => 7
  | .outside | .again => 6
  | .getPause _ => 5
  | .getDelay _ _ => 4
  | .clearCommand _ _ _ => 3
  | .ended => 0

/-- A `Finish` is given when the thread is not between its two steps on `Command`, or has read
another `FINISH` there. -/
def FinishSafe (s : ThreadClass) : Prop :=
  match s.phase with
  | .getPause command | .getDelay command _ | .clearCommand command _ _ => command = .finish
  | _ => True

variable {s : ThreadClass}

@[simp] lemma observed_nil (s : ThreadClass) : s.observed [] = [] := rfl

lemma observed_cons (s : ThreadClass) (a : ThreadAct) (l : List ThreadAct) :
    s.observed (a :: l) = s.observe a ++ (s.step a).observed l := rfl

lemma Held.not_ended (h : s.Held) : s.phase ≠ .ended := by
  intro he
  rw [Held, he] at h
  exact h

lemma Pending.not_ended (h : s.Pending) : s.phase ≠ .ended := by
  intro he
  rw [Pending, he] at h
  exact h

lemma remaining_pos (h : s.phase ≠ .ended) : 0 < s.remaining := by
  rw [remaining]
  split <;> first | omega | exact absurd ‹_› h

/-- A thread that has read `FINISH` returns, or is one step nearer to it. -/
lemma Held.threadStep (h : s.Held) :
    s.threadObs = [.returned .finished] ∨
      s.threadStep.Held ∧ s.threadStep.remaining < s.remaining := by
  obtain ⟨command, pause, delay, status, phase⟩ := s
  cases phase <;> simp_all [Held, threadObs, ThreadClass.threadStep, remaining]

/-- A thread that is to read `FINISH` reads it, or is one step nearer to it. -/
lemma Pending.threadStep (h : s.Pending) :
    s.threadObs = [.returned .finished] ∨
      s.threadStep.remaining < s.remaining ∧
        (s.threadStep.Held ∨ ¬ s.ReadsCommand ∧ s.threadStep.Pending) := by
  obtain ⟨command, pause, delay, status, phase⟩ := s
  cases phase with
  | decide c p d =>
      by_cases hp : p = 0
      · cases c <;>
          simp_all [Pending, Held, ReadsCommand, threadObs, ThreadClass.threadStep, remaining]
      · by_cases hp' : p = -1 <;> cases c <;>
          simp_all [Pending, Held, ReadsCommand, threadObs, ThreadClass.threadStep, remaining]
  | clearPause c p d =>
      cases c <;>
        simp_all [Pending, Held, ReadsCommand, threadObs, ThreadClass.threadStep, remaining]
  | _ => simp_all [Pending, Held, ReadsCommand, threadObs, ThreadClass.threadStep, remaining]

/-- Others do not move the thread. -/
lemma step_phase {a : ThreadAct} (ha : a ≠ .thread) : (s.step a).phase = s.phase := by
  cases a <;> first | rfl | exact absurd rfl ha

lemma remaining_of_phase {s' : ThreadClass} (h : s'.phase = s.phase) :
    s'.remaining = s.remaining := by rw [remaining, remaining, h]

lemma Held.step {a : ThreadAct} (ha : a ≠ .thread) (h : s.Held) : (s.step a).Held := by
  rw [Held, step_phase ha]
  exact h

/-- Whatever others do, a thread that has read `FINISH` returns it. -/
lemma Held.finished (h : s.Held) {l : List ThreadAct} (hl : s.remaining ≤ l.count .thread) :
    .returned .finished ∈ s.observed l := by
  induction l generalizing s with
  | nil =>
      have hpos := remaining_pos h.not_ended
      rw [List.count_nil] at hl
      omega
  | cons a l ih =>
      rw [observed_cons, List.mem_append]
      by_cases ha : a = .thread
      · subst ha
        rcases h.threadStep with hobs | ⟨h', hlt⟩
        · exact .inl (by rw [observe, hobs]; exact List.mem_singleton_self _)
        · rw [List.count_cons_self] at hl
          exact .inr (ih h' (Nat.le_of_lt_succ (hlt.trans_le hl)))
      · rw [List.count_cons_of_ne ha] at hl
        exact .inr (ih (h.step ha) (by rwa [remaining_of_phase (step_phase ha)]))

/-- A thread that is to read `FINISH` returns it, unless it is overwritten before. -/
lemma Pending.finished (h : s.Pending) {l : List ThreadAct} (hn : s.NotOverwritten l)
    (hl : s.remaining ≤ l.count .thread) : .returned .finished ∈ s.observed l := by
  induction l generalizing s with
  | nil =>
      have hpos := remaining_pos h.not_ended
      rw [List.count_nil] at hl
      omega
  | cons a l ih =>
      obtain ⟨hfinish, hrestore, hnext⟩ := hn
      rw [observed_cons, List.mem_append]
      by_cases ha : a = .thread
      · subst ha
        rw [List.count_cons_self] at hl
        rcases h.threadStep with hobs | ⟨hlt, hheld | ⟨hreads, hpending⟩⟩
        · exact .inl (by rw [observe, hobs]; exact List.mem_singleton_self _)
        · exact .inr (Held.finished hheld (Nat.le_of_lt_succ (hlt.trans_le hl)))
        · have hrest := hnext.resolve_left fun h => hreads h.2
          exact .inr (ih hpending hrest (Nat.le_of_lt_succ (hlt.trans_le hl)))
      · rw [List.count_cons_of_ne ha] at hl
        have hrest := hnext.resolve_left fun h => ha h.1
        have hpending : (s.step a).Pending := by
          cases a with
          | thread => exact absurd rfl ha
          | finish => exact absurd rfl hfinish
          | restore => exact absurd rfl hrestore
          | pauseSet pause => exact h
          | delaySet delay => exact h
        exact .inr (ih hpending hrest (by rwa [remaining_of_phase (step_phase ha)]))

/-- A `FINISH` that is cleared before it is read: neither it nor another one is seen. -/
def Lost (s : ThreadClass) : Prop :=
  match s.phase with
  | .getPause command | .getDelay command _ | .clearCommand command _ _ => command ≠ .finish
  | .clearPause command _ _ | .decide command _ _ => command ≠ .finish ∧ s.command ≠ .finish
  | .ended => True
  | _ => s.command ≠ .finish

lemma Lost.threadStep (h : s.Lost) :
    .returned .finished ∉ s.threadObs ∧ s.threadStep.Lost := by
  obtain ⟨command, pause, delay, status, phase⟩ := s
  cases phase with
  | decide c p d =>
      by_cases hp : p = 0
      · cases c <;> simp_all [Lost, threadObs, ThreadClass.threadStep]
      · by_cases hp' : p = -1 <;> cases c <;> simp_all [Lost, threadObs, ThreadClass.threadStep]
  | _ => simp_all [Lost, threadObs, ThreadClass.threadStep]

/-- Left alone, the thread then never returns `FINISHED`. -/
lemma Lost.not_finished (h : s.Lost) (n : ℕ) :
    .returned .finished ∉ s.observed (List.replicate n .thread) := by
  induction n generalizing s with
  | zero => exact List.not_mem_nil
  | succ n ih =>
      obtain ⟨hobs, hlost⟩ := h.threadStep
      rw [List.replicate_succ, observed_cons, List.mem_append, not_or]
      exact ⟨hobs, ih hlost⟩

lemma notOverwritten_replicate (s : ThreadClass) (n : ℕ) :
    s.NotOverwritten (List.replicate n .thread) := by
  induction n generalizing s with
  | zero => trivial
  | succ n ih => exact ⟨nofun, nofun, .inr (ih _)⟩

lemma remaining_le (s : ThreadClass) : s.remaining ≤ patience := by
  rw [remaining, patience]
  split <;> omega

/-- A `Finish` is kept if and only if the thread is not between its two steps on `Command`, or has
read another `FINISH` there. -/
lemma finishKept_iff (hs : s.phase ≠ .ended) : s.FinishKept ↔ s.FinishSafe := by
  constructor
  · intro h
    by_contra hsafe
    have hlost : (s.step .finish).Lost := by
      obtain ⟨command, pause, delay, status, phase⟩ := s
      cases phase <;> simp_all [FinishSafe, Lost, step]
    exact hlost.not_finished patience (h _ (notOverwritten_replicate _ _) (by simp))
  · intro h l hn hl
    have hready : (s.step .finish).Held ∨ (s.step .finish).Pending := by
      obtain ⟨command, pause, delay, status, phase⟩ := s
      cases phase <;> simp_all [FinishSafe, Held, Pending, step]
    have hle := (remaining_le (s.step .finish)).trans hl
    exact hready.elim (fun h => h.finished hle) fun h => h.finished hn hle

/-! ### The pause without an end -/

/-- A `Pause.Set(-1)` is given when the thread clears it before it reads it, or when it has read
`FINISH` or is to read it first. -/
def PauseSafe (s : ThreadClass) : Prop :=
  match s.phase with
  | .getPause command => command = .finish
  | .getDelay _ _ | .clearCommand _ _ _ | .clearPause _ _ _ | .ended => True
  | .decide command _ _ => command = .finish ∨ s.command = .finish
  | _ => s.command = .finish

/-- A call that reads `-1` and returns `RUNNING`, though nobody gives a command or a pause. -/
def Resumes (s : ThreadClass) : Prop :=
  ∃ l, (∀ a ∈ l, Quiet a) ∧ ∃ before during after,
    s.observed l = before ++ .pauseRead (-1) :: (during ++ .returned .running :: after) ∧
      ∀ status, .returned status ∉ during

lemma Resumes.of_threadStep (h : s.threadStep.Resumes) : s.Resumes := by
  obtain ⟨l, hl, before, during, after, hobs, hduring⟩ := h
  refine ⟨.thread :: l, ?_, s.threadObs ++ before, during, after, ?_, hduring⟩
  · intro a ha
    rcases List.mem_cons.mp ha with rfl | ha
    · exact .inl rfl
    · exact hl a ha
  · have hstep : (s.step .thread).observed l = s.threadStep.observed l := rfl
    rw [observed_cons, hstep, hobs, List.append_assoc]
    rfl

/-- The pause is read together with another command than `FINISH`: the loop begins again with the
pause cleared, and the call returns. -/
lemma resumes_getPause {command c : ThreadCommand} {delay : UInt32} {status : ThreadStatus}
    (hc : c ≠ .finish) : Resumes ⟨command, -1, delay, status, .getPause c⟩ := by
  have hquiet : ∀ n, ∀ a ∈ List.replicate n ThreadAct.thread, Quiet a := fun n a ha =>
    .inl (List.eq_of_mem_replicate ha)
  cases c with
  | finish => exact absurd rfl hc
  | restore =>
      exact ⟨List.replicate 5 .thread, hquiet 5, [], [], [], rfl, fun _ => List.not_mem_nil⟩
  | none =>
      refine ⟨List.replicate 13 .thread, hquiet 13, [], [.pauseRead 0], [], rfl, ?_⟩
      intro status h
      simp at h
  | abort =>
      refine ⟨List.replicate 13 .thread, hquiet 13, [], [.pauseRead 0], [], rfl, ?_⟩
      intro status h
      simp at h

/-- From a place that is not safe the thread comes to the pause with no `FINISH`. -/
lemma resumes_of_not_safe (h : ¬ s.PauseSafe) (hp : s.pause = -1) : s.Resumes := by
  obtain ⟨command, pause, delay, status, phase⟩ := s
  obtain rfl : pause = -1 := hp
  have houtside : ∀ status, command ≠ .finish →
      Resumes ⟨command, -1, delay, status, .outside⟩ := fun status hc =>
    .of_threadStep (resumes_getPause hc)
  have hagain : ∀ status, command ≠ .finish →
      Resumes ⟨command, -1, delay, status, .again⟩ := fun status hc =>
    .of_threadStep (resumes_getPause hc)
  have hrunning : ∀ status d, command ≠ .finish →
      Resumes ⟨command, -1, delay, status, .setRunning d⟩ := fun status d hc =>
    .of_threadStep (.of_threadStep (houtside _ hc))
  cases phase with
  | outside => exact houtside _ h
  | again => exact hagain _ h
  | getPause c => exact resumes_getPause h
  | getDelay c p => exact absurd trivial h
  | clearCommand c p d => exact absurd trivial h
  | clearPause c p d => exact absurd trivial h
  | decide c p d =>
      obtain ⟨hc, hcommand⟩ := not_or.mp h
      refine .of_threadStep ?_
      have hnext : Resumes (if p = 0 then ⟨command, -1, delay, status, .setRunning d⟩
          else if p = -1 then ⟨command, -1, delay, .paused, .again⟩
          else ⟨command, -1, delay, .paused, .sleepPause d⟩) := by
        split_ifs
        · exact hrunning status d hcommand
        · exact hagain .paused hcommand
        · exact .of_threadStep (hrunning .paused d hcommand)
      cases c with
      | finish => exact absurd rfl hc
      | restore => exact houtside .running hcommand
      | none => exact hnext
      | abort => exact hnext
  | sleepPause d => exact .of_threadStep (hrunning _ d h)
  | setRunning d => exact hrunning _ d h
  | sleepDelay d => exact .of_threadStep (houtside _ h)
  | ended => exact absurd trivial h

/-- `Pause` will be cleared before it is read. -/
def Spent (s : ThreadClass) : Prop :=
  match s.phase with
  | .getDelay _ _ | .clearCommand _ _ _ | .clearPause _ _ _ | .ended => True
  | _ => s.pause ≠ -1

lemma Spent.step {a : ThreadAct} (ha : Quiet a) (h : s.Spent) :
    .pauseRead (-1) ∉ s.observe a ∧ (s.step a).Spent := by
  rcases ha with rfl | ⟨delay, rfl⟩
  · obtain ⟨command, pause, delay, status, phase⟩ := s
    cases phase with
    | decide c p d =>
        by_cases hp : p = 0
        · cases c <;> simp_all [Spent, observe, threadObs, ThreadClass.step, threadStep]
        · by_cases hp' : p = -1 <;> cases c <;>
            simp_all [Spent, observe, threadObs, ThreadClass.step, threadStep]
    | _ => simp_all [Spent, observe, threadObs, ThreadClass.step, threadStep, eq_comm]
  · exact ⟨List.not_mem_nil, h⟩

lemma Spent.not_read (h : s.Spent) {l : List ThreadAct} (hl : ∀ a ∈ l, Quiet a) :
    .pauseRead (-1) ∉ s.observed l := by
  induction l generalizing s with
  | nil => exact List.not_mem_nil
  | cons a l ih =>
      obtain ⟨hobs, hspent⟩ := h.step (hl a List.mem_cons_self)
      rw [observed_cons, List.mem_append, not_or]
      exact ⟨hobs, ih hspent fun b hb => hl b (List.mem_cons_of_mem a hb)⟩

lemma ended_of_finished (h : s.threadObs = [.returned .finished]) :
    s.threadStep.phase = .ended := by
  obtain ⟨command, pause, delay, status, phase⟩ := s
  cases phase with
  | decide c p d => cases c <;> simp_all [threadObs, threadStep]
  | _ => simp_all [threadObs]

/-- A thread that has read `FINISH` or has ended does not return `RUNNING`. -/
lemma Held.threadStep_late (h : s.Held ∨ s.phase = .ended) :
    .returned .running ∉ s.threadObs ∧ (s.threadStep.Held ∨ s.threadStep.phase = .ended) := by
  rcases h with h | h
  · constructor
    · obtain ⟨command, pause, delay, status, phase⟩ := s
      cases phase <;> simp_all [Held, threadObs]
    · rcases h.threadStep with hfin | ⟨hheld, -⟩
      · exact .inr (ended_of_finished hfin)
      · exact .inl hheld
  · rw [threadObs, ThreadClass.threadStep, h]
    exact ⟨List.not_mem_nil, .inr h⟩

/-- In no run does such a thread return `RUNNING`. -/
lemma Held.not_running (h : s.Held ∨ s.phase = .ended) (l : List ThreadAct) :
    .returned .running ∉ s.observed l := by
  induction l generalizing s with
  | nil => exact List.not_mem_nil
  | cons a l ih =>
      rw [observed_cons, List.mem_append, not_or]
      by_cases ha : a = .thread
      · subst ha
        obtain ⟨hobs, hlate⟩ := Held.threadStep_late h
        exact ⟨hobs, ih hlate⟩
      · constructor
        · cases a <;> first | exact List.not_mem_nil | exact absurd rfl ha
        · refine ih ?_
          rw [step_phase ha]
          exact h.imp_left (Held.step ha)

/-- An element that is not in the first of two lists is found in the second. -/
lemma split_of_notMem {α : Type*} {x y before rest : List α} {a : α} (ha : a ∉ x)
    (h : x ++ y = before ++ a :: rest) : ∃ before', y = before' ++ a :: rest := by
  rcases List.append_eq_append_iff.mp h with ⟨t, rfl, hy⟩ | ⟨t, rfl, ht⟩
  · exact ⟨t, hy⟩
  · cases t with
    | nil => exact ⟨[], ht.symm⟩
    | cons b t =>
        obtain ⟨rfl, -⟩ := List.cons.inj ht
        exact absurd (List.mem_append_right before List.mem_cons_self) ha

/-- The pause is read in one place. -/
lemma phase_of_pauseRead {pause : Int16} (h : .pauseRead pause ∈ s.threadObs) :
    ∃ command, s.phase = .getPause command := by
  rw [threadObs] at h
  split at h
  case h_1 command hphase => exact ⟨command, hphase⟩
  all_goals simp at h

/-- A thread that is to read `FINISH` has it when it reads the pause. -/
lemma Pending.not_running (h : s.Pending) {l : List ThreadAct} (hl : ∀ a ∈ l, Quiet a)
    {before rest : List ThreadObs} (hobs : s.observed l = before ++ .pauseRead (-1) :: rest) :
    .returned .running ∉ rest := by
  induction l generalizing s before with
  | nil => simp at hobs
  | cons a l ih =>
      have hrest : ∀ b ∈ l, Quiet b := fun b hb => hl b (List.mem_cons_of_mem a hb)
      have hnot : .pauseRead (-1) ∉ s.observe a := by
        rcases hl a List.mem_cons_self with rfl | ⟨delay, rfl⟩
        · intro hmem
          obtain ⟨command, hphase⟩ := phase_of_pauseRead hmem
          rw [Pending, hphase] at h
          exact h
        · exact List.not_mem_nil
      rw [observed_cons] at hobs
      obtain ⟨before', hobs'⟩ := split_of_notMem hnot hobs
      have hlate : (s.step a).Held ∨ (s.step a).phase = .ended → .returned .running ∉ rest := by
        intro hheld hmem
        refine Held.not_running hheld l ?_
        rw [hobs']
        exact List.mem_append_right _ (List.mem_cons_of_mem _ hmem)
      rcases hl a List.mem_cons_self with rfl | ⟨delay, rfl⟩
      · rcases h.threadStep with hfin | ⟨-, hheld | ⟨-, hpending⟩⟩
        · exact hlate (.inr (ended_of_finished hfin))
        · exact hlate (.inl hheld)
        · exact ih hpending hrest hobs'
      · exact ih (s := s.step (.delaySet delay)) h hrest hobs'

/-- A `Pause.Set(-1)` is kept if and only if the thread clears it before it reads it, or has read
`FINISH` or is to read it first. -/
lemma pauseKept_iff (s : ThreadClass) : s.PauseKept ↔ s.PauseSafe := by
  constructor
  · intro h
    by_contra hsafe
    have hsafe' : ¬ (s.step (.pauseSet (-1))).PauseSafe := hsafe
    obtain ⟨l, hl, before, during, after, hobs, hduring⟩ := resumes_of_not_safe hsafe' rfl
    exact h l hl before during after .running hobs hduring rfl
  · rintro h l hl before during after status hobs hduring rfl
    have hmem : ThreadObs.returned .running ∈ during ++ .returned .running :: after :=
      List.mem_append_right _ List.mem_cons_self
    have hplace : (s.step (.pauseSet (-1))).Spent ∨ (s.step (.pauseSet (-1))).Held ∨
        (s.step (.pauseSet (-1))).Pending := by
      obtain ⟨command, pause, delay, status, phase⟩ := s
      cases phase <;> simp_all [PauseSafe, Spent, Held, Pending, step]
    rcases hplace with hspent | hheld | hpending
    · refine hspent.not_read hl ?_
      rw [hobs]
      exact List.mem_append_right _ List.mem_cons_self
    · refine Held.not_running (.inl hheld) l ?_
      rw [hobs]
      exact List.mem_append_right _ (List.mem_cons_of_mem _ hmem)
    · exact hpending.not_running hl hobs hmem

/-! ### Runs -/

/-- A `Finish` or a `Pause.Set(-1)` finds the thread where it is safe. -/
def Safe (s : ThreadClass) : ThreadAct → Prop
  | .finish => s.phase ≠ .ended → s.FinishSafe
  | .pauseSet pause => pause = -1 → s.PauseSafe
  | _ => True

/-- In every run of the thread and its callers, every `Finish` and every `Pause.Set(-1)` is kept if
and only if each of them finds the thread where it is safe. -/
theorem commandsKept_iff (delay : UInt32) (l : List ThreadAct) :
    Run.Along step Kept (start delay) l ↔ Run.Along step Safe (start delay) l := by
  rw [Run.along_iff_forall_prefix, Run.along_iff_forall_prefix]
  refine forall₃_congr fun pre a _ => ?_
  cases a with
  | finish => exact forall_congr' fun hs => finishKept_iff hs
  | pauseSet pause => exact forall_congr' fun _ => pauseKept_iff _
  | thread => exact Iff.rfl
  | restore => exact Iff.rfl
  | delaySet delay => exact Iff.rfl

/-- A `Finish` after the thread has read `Command` is cleared with it, and a pause without an end is
over in the next turn of the loop. -/
theorem commandsKept_fails :
    ¬ Run.Along step Kept (start 0) [.thread, .finish] ∧
      ¬ Run.Along step Kept (start 0) [.pauseSet (-1)] := by
  refine ⟨fun h => ?_, fun h => ?_⟩
  · have hfinish : ThreadObs.returned .finished ∈ _ :=
      h.2.1 (by decide) (List.replicate 11 .thread) (notOverwritten_replicate _ _) (by decide)
    exact absurd hfinish (by decide)
  · have hpause := h.1 rfl (List.replicate 14 .thread) fun a ha =>
      .inl (List.eq_of_mem_replicate ha)
    exact absurd (hpause [] [.pauseRead 0] [] .running rfl (by simp)) (by decide)

end ThreadClass

end Tritonn

import Tritonn.Lib.Run
import Tritonn.Shared.TickCount

/-!
`src/shared/thread_class.cpp` and `thread_time.h`: how long a thread works and how long it is idle,
measured by the thread and collected by another one.

* `ThreadTime` is what the measurement keeps, and `ThreadTime.step` a call of one of the three
  functions that share it;
* `ThreadCycle` is a turn of the loop of a thread, with the collections that fall before its work
  and into it;
* `recorded_cycles` says what is recorded, in every interleaving (`InLoop`): an entry for each turn,
  each with its idle time, and with its working time if nobody collects while the thread works;
* `recorded_iff` says when the whole time of a thread is recorded.
-/

namespace Tritonn

/-- `rThreadTimeInfo`. -/
structure ThreadTimeInfo where
  work : UInt32 := 0
  idle : UInt32 := 0
  deriving DecidableEq, Repr

/-- `rThreadClass`, as far as it measures its time. -/
structure ThreadTime where
  timeInfo : List ThreadTimeInfo := []
  lastTick : UInt32
  deriving DecidableEq, Repr

/-- The calls that share the entries, each of which holds `MutexTime`: the two of the thread itself,
at a time in microseconds, and the one of the master. -/
inductive ThreadTimeAct where
  | proccesing (curtime : ℕ)
  | endProccesing (curtime : ℕ)
  | getTimeInfo
  deriving DecidableEq, Repr

namespace ThreadTime

/-- The end of `rThreadClass::Proccesing`: the idle time begins a new entry. -/
def proccesing (t : ThreadTime) (curtime : UInt32) : ThreadTime where
  timeInfo := t.timeInfo ++ [{ idle := curtime - t.lastTick }]
  lastTick := curtime

/-- `rThreadClass::EndProccesing`: the working time belongs to the last entry, if there is one. -/
def endProccesing (t : ThreadTime) (curtime : UInt32) : ThreadTime where
  timeInfo := t.timeInfo.modifyLast fun info => { info with work := curtime - t.lastTick }
  lastTick := curtime

/-- `rThreadClass::GetTimeInfo`, behind which there are no entries. -/
def getTimeInfo (t : ThreadTime) : ThreadTime := { t with timeInfo := [] }

/-- A step. -/
def step (t : ThreadTime) : ThreadTimeAct → ThreadTime
  | .proccesing curtime => t.proccesing (.ofNat curtime)
  | .endProccesing curtime => t.endProccesing (.ofNat curtime)
  | .getTimeInfo => t.getTimeInfo

/-- What a step gives to the master. -/
def out (t : ThreadTime) : ThreadTimeAct → List ThreadTimeInfo
  | .proccesing _ => []
  | .endProccesing _ => []
  | .getTimeInfo => t.timeInfo

/-- All that is recorded in a run: what the master was given, and what waits for it. -/
def recorded (t : ThreadTime) (l : List ThreadTimeAct) : List ThreadTimeInfo :=
  Run.outputs step out t l ++ (l.foldl step t).timeInfo

lemma recorded_cons (t : ThreadTime) (a : ThreadTimeAct) (l : List ThreadTimeAct) :
    t.recorded (a :: l) = t.out a ++ (t.step a).recorded l := by
  rw [recorded, Run.outputs, List.append_assoc, List.foldl_cons, ← recorded]

/-! ### Collections -/

/-- What a number of collections in a row gives to the master. -/
def taken (n : ℕ) (t : ThreadTime) : List ThreadTimeInfo := if n = 0 then [] else t.timeInfo

/-- What they leave. -/
def drained (n : ℕ) (t : ThreadTime) : ThreadTime := if n = 0 then t else t.getTimeInfo

@[simp] lemma drained_lastTick (n : ℕ) (t : ThreadTime) : (drained n t).lastTick = t.lastTick := by
  rw [drained]
  split_ifs <;> rfl

lemma taken_append (n : ℕ) (t : ThreadTime) : taken n t ++ (drained n t).timeInfo = t.timeInfo := by
  rw [taken, drained]
  split_ifs
  · rfl
  · exact List.append_nil _

lemma recorded_collections (n : ℕ) (t : ThreadTime) (l : List ThreadTimeAct) :
    t.recorded (List.replicate n .getTimeInfo ++ l) = taken n t ++ (drained n t).recorded l := by
  cases n with
  | zero => rfl
  | succ n =>
      rw [List.replicate_succ, List.cons_append, recorded_cons]
      refine congrArg (t.timeInfo ++ ·) ?_
      -- the others find nothing
      induction n with
      | zero => rfl
      | succ n ih =>
          rw [List.replicate_succ, List.cons_append, recorded_cons]
          exact ih

/-- A piece of work, with the collections that fall into it: the entry that it has begun gets its
working time only if there are none. -/
lemma taken_endProccesing (n : ℕ) (t : ThreadTime) (info : ThreadTimeInfo) (tick : UInt32)
    (infos : List ThreadTimeInfo) (ht : t.timeInfo = infos ++ [info]) :
    taken n t ++ ((drained n t).endProccesing tick).timeInfo
      = infos ++ [if n = 0 then { info with work := tick - t.lastTick } else info] := by
  rw [taken, drained]
  split_ifs
  · rw [endProccesing, ht, List.modifyLast_concat, List.nil_append]
  · rw [ht]
    exact List.append_nil _

end ThreadTime

/-! ### The turns of a thread -/

/-- A turn of the loop of a thread: the collections before its work, the time at which
`Proccesing` returns, the collections while it works, and the time of `EndProccesing`. -/
structure ThreadCycle where
  before : ℕ := 0
  start : ℕ
  during : ℕ := 0
  finish : ℕ
  deriving DecidableEq, Repr

namespace ThreadCycle

/-- The calls of a turn. -/
def acts (c : ThreadCycle) : List ThreadTimeAct :=
  List.replicate c.before .getTimeInfo ++ .proccesing c.start ::
    (List.replicate c.during .getTimeInfo ++ [.endProccesing c.finish])

/-- The entry of a turn, with the time at which the turn before it has ended. -/
def entry (last : UInt32) (c : ThreadCycle) : ThreadTimeInfo where
  work := if c.during = 0 then .ofNat c.finish - .ofNat c.start else 0
  idle := .ofNat c.start - last

/-- The entries of turns in a row. -/
def entries : UInt32 → List ThreadCycle → List ThreadTimeInfo
  | _, [] => []
  | last, c :: cs => c.entry last :: entries (.ofNat c.finish) cs

end ThreadCycle

namespace ThreadTime

open ThreadCycle

/-- One turn: its entry comes behind the others, wherever these are. -/
lemma recorded_acts (t : ThreadTime) (c : ThreadCycle) (l : List ThreadTimeAct) :
    ∃ (given : List ThreadTimeInfo) (t' : ThreadTime),
      t.recorded (c.acts ++ l) = given ++ t'.recorded l ∧
        given ++ t'.timeInfo = t.timeInfo ++ [c.entry t.lastTick] ∧
        t'.lastTick = .ofNat c.finish := by
  let begun : ThreadTime := (drained c.before t).proccesing (.ofNat c.start)
  let idle : ThreadTimeInfo := { idle := .ofNat c.start - t.lastTick }
  have hbegun : begun.timeInfo = (drained c.before t).timeInfo ++ [idle] := by
    simp only [begun, idle, proccesing, drained_lastTick]
  refine ⟨taken c.before t ++ taken c.during begun,
    (drained c.during begun).endProccesing (.ofNat c.finish), ?_, ?_, rfl⟩
  · rw [acts, List.append_assoc, recorded_collections, List.cons_append, recorded_cons,
      List.append_assoc, List.append_assoc]
    refine congrArg (taken c.before t ++ ·) ?_
    rw [out, List.nil_append, step, recorded_collections, List.singleton_append, recorded_cons]
    rfl
  · rw [List.append_assoc, taken_endProccesing _ _ idle _ _ hbegun, ← List.append_assoc,
      taken_append]
    refine congrArg (fun info => t.timeInfo ++ [info]) ?_
    rw [entry]
    split_ifs <;> rfl

lemma recorded_flatMap (t : ThreadTime) (cs : List ThreadCycle) (n : ℕ) :
    t.recorded (cs.flatMap acts ++ List.replicate n .getTimeInfo)
      = t.timeInfo ++ entries t.lastTick cs := by
  induction cs generalizing t with
  | nil =>
      have hend := recorded_collections n t []
      rw [List.append_nil] at hend
      rw [List.flatMap_nil, List.nil_append, hend, entries, List.append_nil]
      exact taken_append n t
  | cons c cs ih =>
      obtain ⟨given, t', hrun, hgiven, htick⟩ :=
        recorded_acts t c (cs.flatMap acts ++ List.replicate n .getTimeInfo)
      rw [List.flatMap_cons, List.append_assoc, hrun, ih, ← List.append_assoc, hgiven, htick,
        List.append_assoc]
      rfl

/-- A thread in its loop, which works or does not, and a master that collects at any time: the calls
of the thread alternate, and the last of them ends a piece of work. Left out are the return of
`Proccesing` at `RESTORE`, which makes no entry, and the loops of `rOPCUAManager` and
`rModbusTCPSlaveManager`, which call `EndProccesing` only when their timer is finished. -/
def InLoop : Bool → List ThreadTimeAct → Prop
  | working, [] => working = false
  | working, .getTimeInfo :: l => InLoop working l
  | working, .proccesing _ :: l => working = false ∧ InLoop true l
  | working, .endProccesing _ :: l => working = true ∧ InLoop false l

/-- Such a run is one of turns, with collections behind the last of them; one that begins in a piece
of work ends that one first. -/
lemma exists_cycles (l : List ThreadTimeAct) :
    (InLoop false l → ∃ (cs : List ThreadCycle) (n : ℕ),
      l = cs.flatMap acts ++ List.replicate n .getTimeInfo) ∧
    (InLoop true l → ∃ (during finish : ℕ) (cs : List ThreadCycle) (n : ℕ),
      l = List.replicate during .getTimeInfo ++
        .endProccesing finish :: (cs.flatMap acts ++ List.replicate n .getTimeInfo)) := by
  induction l with
  | nil => exact ⟨fun _ => ⟨[], 0, rfl⟩, fun h => absurd h (by simp [InLoop])⟩
  | cons a l ih =>
      obtain ⟨ihRest, ihWork⟩ := ih
      cases a with
      | proccesing start =>
          refine ⟨fun h => ?_, fun h => absurd h.1 (by simp)⟩
          obtain ⟨during, finish, cs, n, rfl⟩ := ihWork h.2
          exact ⟨{ start, during, finish } :: cs, n, by simp [acts]⟩
      | endProccesing finish =>
          refine ⟨fun h => absurd h.1 (by simp), fun h => ?_⟩
          obtain ⟨cs, n, rfl⟩ := ihRest h.2
          exact ⟨0, finish, cs, n, rfl⟩
      | getTimeInfo =>
          refine ⟨fun h => ?_, fun h => ?_⟩
          · obtain ⟨cs, n, rfl⟩ := ihRest h
            cases cs with
            | nil => exact ⟨[], n + 1, rfl⟩
            | cons c cs => exact ⟨{ c with before := c.before + 1 } :: cs, n, rfl⟩
          · obtain ⟨during, finish, cs, n, rfl⟩ := ihWork h
            exact ⟨during + 1, finish, cs, n, rfl⟩

/-- In every interleaving of a thread in its loop with a master: the run is one of turns, and what
is recorded are the entries that there were, and behind them one for each turn in its order, which
has the whole idle time, and the working time if no collection fell into the work. -/
theorem recorded_cycles (t : ThreadTime) {l : List ThreadTimeAct} (h : InLoop false l) :
    ∃ (cs : List ThreadCycle) (n : ℕ), l = cs.flatMap acts ++ List.replicate n .getTimeInfo ∧
      t.recorded l = t.timeInfo ++ entries t.lastTick cs := by
  obtain ⟨cs, n, rfl⟩ := (exists_cycles l).1 h
  exact ⟨cs, n, rfl, recorded_flatMap t cs n⟩

/-- A turn that is collected while it works, and one that is collected behind it. -/
theorem recorded_cycles_sample :
    let l : List ThreadTimeAct := [.proccesing 10, .getTimeInfo, .endProccesing 30,
      .proccesing 40, .endProccesing 90, .getTimeInfo]
    ∃ (cs : List ThreadCycle) (n : ℕ), l = cs.flatMap acts ++ List.replicate n .getTimeInfo ∧
      recorded { lastTick := 0 } l = [] ++ entries 0 cs :=
  recorded_cycles { lastTick := 0 } (by simp [InLoop])

/-! ### The whole time -/

/-- The time of entries in microseconds. -/
def total (infos : List ThreadTimeInfo) : ℕ :=
  (infos.map fun info => info.work.toNat + info.idle.toNat).sum

/-- The times of the turns follow each other, none of them in more than the ticks can tell. -/
def Timed : ℕ → List ThreadCycle → Prop
  | _, [] => True
  | last, c :: cs => (last ≤ c.start ∧ c.start - last < 2 ^ 32) ∧
      (c.start ≤ c.finish ∧ c.finish - c.start < 2 ^ 32) ∧ Timed c.finish cs

/-- The end of the last turn. -/
def finished (last : ℕ) (cs : List ThreadCycle) : ℕ := cs.foldl (fun _ c => c.finish) last

/-- The work into which a collection fell. -/
def lost (cs : List ThreadCycle) : ℕ :=
  (cs.map fun c => if c.during = 0 then 0 else c.finish - c.start).sum

lemma le_finished {last : ℕ} {cs : List ThreadCycle} (h : Timed last cs) :
    last ≤ finished last cs := by
  induction cs generalizing last with
  | nil => exact le_rfl
  | cons c cs ih => exact h.1.1.trans (h.2.1.1.trans (ih h.2.2))

/-- What is recorded and what is lost add up to the time that has passed. -/
lemma total_entries_add_lost {last : ℕ} {cs : List ThreadCycle} (h : Timed last cs) :
    total (entries (.ofNat last) cs) + lost cs = finished last cs - last := by
  induction cs generalizing last with
  | nil => exact (Nat.sub_self last).symm
  | cons c cs ih =>
      obtain ⟨⟨hidle, hidle'⟩, ⟨hwork, hwork'⟩, hcs⟩ := h
      have hrest := ih hcs
      have hle := le_finished hcs
      have hentry : (c.entry (.ofNat last)).work.toNat + (c.entry (.ofNat last)).idle.toNat
          + (if c.during = 0 then 0 else c.finish - c.start) = c.finish - last := by
        rw [entry, TickCount.toNat_ofNat_sub hidle hidle']
        split_ifs
        · rw [TickCount.toNat_ofNat_sub hwork hwork']
          omega
        · rw [UInt32.toNat_zero]
          omega
      have htotal : total (entries (.ofNat last) (c :: cs))
          = (c.entry (.ofNat last)).work.toNat + (c.entry (.ofNat last)).idle.toNat
            + total (entries (.ofNat c.finish) cs) := List.sum_cons
      have hlost : lost (c :: cs)
          = (if c.during = 0 then 0 else c.finish - c.start) + lost cs := List.sum_cons
      have hfinished : finished last (c :: cs) = finished c.finish cs := rfl
      omega

lemma lost_eq_zero (cs : List ThreadCycle) :
    lost cs = 0 ↔ ∀ c ∈ cs, c.during = 0 ∨ c.finish ≤ c.start := by
  rw [lost, List.sum_eq_zero_iff, List.forall_mem_map]
  refine forall₂_congr fun c _ => ?_
  split_ifs with hduring
  · exact iff_of_true rfl (.inl hduring)
  · rw [Nat.sub_eq_zero_iff_le, or_iff_right hduring]

/-- The time that is recorded is never more than the one that has passed, and it is all of it if and
only if no collection fell into a piece of work that took time: such a piece is not recorded at
all. -/
theorem recorded_iff {last : ℕ} {cs : List ThreadCycle} (h : Timed last cs) (n : ℕ) :
    let time := total (recorded { lastTick := .ofNat last }
      (cs.flatMap acts ++ List.replicate n .getTimeInfo))
    time ≤ finished last cs - last ∧
      (time = finished last cs - last ↔ ∀ c ∈ cs, c.during = 0 ∨ c.finish ≤ c.start) := by
  intro time
  have htime : time = total (entries (.ofNat last) cs) :=
    congrArg total (recorded_flatMap { lastTick := .ofNat last } cs n)
  have hsum := total_entries_add_lost h
  rw [← lost_eq_zero, htime]
  omega

/-- The second turn is collected while it works. -/
theorem recorded_iff_sample :
    let cs : List ThreadCycle :=
      [{ start := 10, finish := 30 }, { start := 40, during := 1, finish := 90 }]
    let time := total (recorded { lastTick := .ofNat 0 }
      (cs.flatMap acts ++ List.replicate 1 .getTimeInfo))
    time ≤ finished 0 cs - 0 ∧
      (time = finished 0 cs - 0 ↔ ∀ c ∈ cs, c.during = 0 ∨ c.finish ≤ c.start) :=
  recorded_iff (by simp [Timed]) 1

end ThreadTime

end Tritonn

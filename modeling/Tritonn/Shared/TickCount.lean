import Tritonn.Shared.Common

/-!
`src/shared/tickcount.cpp` and `src/tritonn/compared_values.cpp`: a timer over the tick of the
clock, and a value that is compared with the one of the last cycle.

The tick is the time in milliseconds modulo `2 ^ 32`; a call reads it, so that the model passes it
as an argument.

* `Timeval` is the time of the system, `Timeval.ms` its milliseconds, and `Timeval.tick` the tick of
  the code;
* `TimerCall` are the calls of a timer, and `TimerOk` is what one that runs has to say within
  `2 ^ 32` milliseconds: how many passed, and whether it is finished.

`timer_ok` says that a timer that was started or restarted does so until it is started, restarted or
stopped; `timer_fails` is a timer that is stopped.
-/

namespace Tritonn

/-- `rTickCount`; `tv` is the tick at which it was started. -/
structure TickCount where
  tv : UInt32 := 0
  setting : UInt32 := 0
  isStart : Bool := false
  deriving DecidableEq, Repr

namespace TickCount

/-- `rTickCount::start`, which also restarts a running timer. -/
def start (tick msec : UInt32) : TickCount := ⟨tick, msec, true⟩

/-- `rTickCount::stop`. -/
def stop (t : TickCount) : TickCount := { t with isStart := false }

/-- `rTickCount::count`. -/
def count (t : TickCount) (tick : UInt32) : UInt32 := tick - t.tv

/-- `rTickCount::isFinished`. -/
def isFinished (t : TickCount) (tick : UInt32) : Bool :=
  t.isStart && decide (t.setting ≤ t.count tick)

@[simp] lemma start_isStart (tick msec : UInt32) : (start tick msec).isStart = true := rfl

@[simp] lemma stop_isStart (t : TickCount) : t.stop.isStart = false := rfl

lemma isFinished_start {tick tick' msec : UInt32} :
    (start tick msec).isFinished tick' = true ↔ msec ≤ tick' - tick := by
  rw [isFinished, start_isStart, Bool.true_and, decide_eq_true_iff]
  rfl

/-- The ticks of two times tell what has passed between them, wrapped or not. -/
lemma toNat_ofNat_sub {t₀ t : ℕ} (hle : t₀ ≤ t) (hlt : t - t₀ < 2 ^ 32) :
    (UInt32.ofNat t - UInt32.ofNat t₀).toNat = t - t₀ := by
  rw [UInt32.toNat_sub, UInt32.toNat_ofNat', UInt32.toNat_ofNat']
  omega

/-- `rTickCount::restart`. -/
def restart (t : TickCount) (tick : UInt32) : TickCount := { t with tv := tick, isStart := true }

end TickCount

/-- `timeval`. -/
structure Timeval where
  sec : ℤ
  usec : ℤ

namespace Timeval

/-- The milliseconds of a time. -/
def ms (tv : Timeval) : ℤ := tv.sec * 1000 + tv.usec.tdiv 1000

/-- `rTickCount::Tick`. -/
def tick (tv : Timeval) : UInt32 := UInt32.ofInt tv.ms

/-- The ticks tell the milliseconds between two times, wrapped or not. -/
lemma toNat_tick_sub {tv now : Timeval} (h0 : 0 ≤ now.ms - tv.ms) (h : now.ms - tv.ms < 2 ^ 32) :
    ((now.tick - tv.tick).toNat : ℤ) = now.ms - tv.ms := by
  have hsum : now.tick = UInt32.ofInt (now.ms - tv.ms) + tv.tick := by
    rw [tick, tick, ← UInt32.ofInt_add, Int.sub_add_cancel]
  have hmod : (UInt32.ofInt (now.ms - tv.ms)).toNat = ((now.ms - tv.ms) % 2 ^ 32).toNat % 2 ^ 32 :=
    UInt32.toNat_ofNat'
  rw [hsum, UInt32.add_sub_cancel, hmod]
  omega

end Timeval

/-- A call of a timer. -/
inductive TimerCall where
  | start (msec : UInt32)
  | restart
  | stop
  | count
  | isFinished
  deriving DecidableEq

namespace TimerCall

/-- The timer after a call at a time. -/
def step (t : TickCount) (call : Timeval × TimerCall) : TickCount :=
  match call.2 with
  | .start msec => .start call.1.tick msec
  | .restart => t.restart call.1.tick
  | .stop => t.stop
  | .count => t
  | .isFinished => t

/-- The timer runs from this call on. -/
def Starts (call : TimerCall) : Prop := (∃ msec, call = .start msec) ∨ call = .restart

instance (call : TimerCall) : Decidable call.Starts :=
  match call with
  | .start msec => .isTrue (.inl ⟨msec, rfl⟩)
  | .restart => .isTrue (.inr rfl)
  | .stop | .count | .isFinished => .isFalse (by rintro (⟨_, h⟩ | h) <;> cases h)

/-- The timer is stopped by one of the calls. -/
def Stopped (calls : List (Timeval × TimerCall)) : Prop := .stop ∈ calls.map Prod.snd

instance (calls : List (Timeval × TimerCall)) : Decidable (Stopped calls) :=
  inferInstanceAs (Decidable (_ ∈ _))

end TimerCall

/-- What a timer that was started at `tv`, and stopped since or not, says at the time `now`, and
later. -/
structure TimerOk (t : TickCount) (tv now : Timeval) (stopped : Prop) : Prop where
  count : ((t.count now.tick).toNat : ℤ) = now.ms - tv.ms
  isFinished : t.isFinished now.tick = true ↔ ¬ stopped ∧ (t.setting.toNat : ℤ) ≤ now.ms - tv.ms
  stays : ∀ later : Timeval, now.ms ≤ later.ms → later.ms - tv.ms < 2 ^ 32 →
    t.isFinished now.tick = true → t.isFinished later.tick = true

namespace TickCount

variable {t : TickCount} {tv now : Timeval}

/-- Within the window a timer is finished when it runs and its period has passed. -/
lemma isFinished_iff (htv : t.tv = tv.tick) (h0 : 0 ≤ now.ms - tv.ms)
    (h : now.ms - tv.ms < 2 ^ 32) :
    t.isFinished now.tick = true ↔
      t.isStart = true ∧ (t.setting.toNat : ℤ) ≤ now.ms - tv.ms := by
  rw [isFinished, Bool.and_eq_true, decide_eq_true_iff, count, htv,
    ← Timeval.toNat_tick_sub h0 h, UInt32.le_iff_toNat_le, Int.ofNat_le]

lemma timerOk {stopped : Prop} (htv : t.tv = tv.tick) (hstart : t.isStart = true ↔ ¬ stopped)
    (h0 : 0 ≤ now.ms - tv.ms) (h : now.ms - tv.ms < 2 ^ 32) : TimerOk t tv now stopped where
  count := by rw [count, htv, Timeval.toNat_tick_sub h0 h]
  isFinished := by rw [isFinished_iff htv h0 h, hstart]
  stays later hle hlater hfinished := by
    rw [isFinished_iff htv h0 h] at hfinished
    rw [isFinished_iff htv (by omega) hlater]
    exact ⟨hfinished.1, by omega⟩

end TickCount

/-- A call that does not start the timer may only stop it. -/
lemma TimerCall.foldl_step (t : TickCount) {calls : List (Timeval × TimerCall)}
    (hcalls : ∀ call ∈ calls, ¬ call.2.Starts) :
    calls.foldl TimerCall.step t = if Stopped calls then t.stop else t := by
  induction calls generalizing t with
  | nil => rfl
  | cons call calls ih =>
      have hcall := hcalls call List.mem_cons_self
      have hstopped : Stopped (call :: calls) ↔ call.2 = .stop ∨ Stopped calls := by
        rw [Stopped, List.map_cons, List.mem_cons, eq_comm, Stopped]
      rw [List.foldl_cons, ih _ fun x hx => hcalls x (List.mem_cons_of_mem call hx)]
      obtain ⟨now, call⟩ := call
      cases call with
      | start msec => exact absurd (.inl ⟨msec, rfl⟩) hcall
      | restart => exact absurd (.inr rfl) hcall
      | stop =>
          rw [if_pos (hstopped.mpr (.inl rfl))]
          exact ite_self t.stop
      | count => exact if_congr (by simp [hstopped]) rfl rfl
      | isFinished => exact if_congr (by simp [hstopped]) rfl rfl

/-- A timer that is started or restarted is right until it is started or restarted again: it counts
on when it is stopped, and is not finished then. -/
theorem timer_ok (t : TickCount) (tv : Timeval) {call : TimerCall} (hstart : call.Starts)
    {calls : List (Timeval × TimerCall)} (hcalls : ∀ call ∈ calls, ¬ call.2.Starts)
    {now : Timeval} (h0 : tv.ms ≤ now.ms) (h : now.ms - tv.ms < 2 ^ 32) :
    TimerOk (((tv, call) :: calls).foldl TimerCall.step t) tv now (TimerCall.Stopped calls) := by
  rw [List.foldl_cons, TimerCall.foldl_step _ hcalls]
  split_ifs with hstopped
  · rcases hstart with ⟨msec, rfl⟩ | rfl
    · exact TickCount.timerOk rfl (by simp [hstopped]) (by omega) h
    · exact TickCount.timerOk rfl (by simp [hstopped]) (by omega) h
  · rcases hstart with ⟨msec, rfl⟩ | rfl
    · exact TickCount.timerOk rfl (iff_of_true rfl hstopped) (by omega) h
    · exact TickCount.timerOk rfl (iff_of_true rfl hstopped) (by omega) h

/-- A timer over the wrap of the tick, from `2 ^ 32 - 1` milliseconds on: it is finished in time,
and counts on behind a stop. -/
theorem timer_ok_wrap :
    let calls : List (Timeval × TimerCall) := [(⟨4294967, 298000⟩, .isFinished)]
    let stopped : List (Timeval × TimerCall) := calls ++ [(⟨4294968, 0⟩, .stop)]
    let run := fun calls : List (Timeval × TimerCall) =>
      ((⟨4294967, 295000⟩, .start 5) :: calls).foldl TimerCall.step {}
    TimerOk (run calls) ⟨4294967, 295000⟩ ⟨4294968, 0⟩ (TimerCall.Stopped calls) ∧
      TimerOk (run stopped) ⟨4294967, 295000⟩ ⟨4294968, 500000⟩ (TimerCall.Stopped stopped) ∧
      ¬ TimerCall.Stopped calls ∧ TimerCall.Stopped stopped :=
  ⟨timer_ok {} ⟨4294967, 295000⟩ (.inl ⟨5, rfl⟩) (by decide) (by decide) (by decide),
    timer_ok {} ⟨4294967, 295000⟩ (.inl ⟨5, rfl⟩) (by decide) (by decide) (by decide),
    by decide, by decide⟩

/-- A timer that was finished is not when it is stopped, without a restart. -/
theorem timer_fails :
    (([(⟨0, 0⟩, .start 5)] : List (Timeval × TimerCall)).foldl TimerCall.step {}).isFinished
        (Timeval.tick ⟨0, 10000⟩) = true ∧
      (([(⟨0, 0⟩, .start 5), (⟨0, 10000⟩, .stop)] : List (Timeval × TimerCall)).foldl
        TimerCall.step {}).isFinished (Timeval.tick ⟨0, 10000⟩) = false := by
  decide

/-- `rCmpUINT`. -/
structure CmpUINT where
  value : UInt16 := 0
  saved : UInt16 := 0
  deriving DecidableEq, Repr

namespace CmpUINT

/-- `rCompared::isDiff`. -/
def isDiff (c : CmpUINT) : Bool := c.value != c.saved

/-- What `rCompared::Compare` leaves behind; it sends an event when the values differ. -/
def compare (c : CmpUINT) : CmpUINT := { c with saved := c.value }

/-- The old value is put back. -/
def restore (c : CmpUINT) : CmpUINT := { c with value := c.saved }

end CmpUINT

end Tritonn

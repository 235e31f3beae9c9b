import Tritonn.Lib.Run
import Tritonn.Sampler.Sampler

/-!
The counters of the sampler.

* `Accounts` is the property of a cycle: it completes, in a working state the grabs taken and those
  that remain are the grabs to take and the can holds the grabs taken, and the output is set in the
  cycles that take a grab;
* `Counted` is what holds of a working sampler between two cycles;
* `Clean` says that a cycle does not start by time, starts a test with an empty can only, and takes
  a grab in the cycle in which an input starts it only when none was counted before;
* `accounts_iff` says that in every run the cycles account for the grabs if and only if they are
  clean;
* `accounts_fails` is a second test, and `startBehindTest` a clean run with one.
-/

namespace Tritonn

namespace SamplerState

/-- The states with the handler `onIdle`. -/
def rests : SamplerState → Bool
  | .idle | .finish => true
  | _ => false

lemma isWork_of_rests {s : SamplerState} (h : s.rests = true) : s.isWork = false := by
  cases s <;> first | rfl | cases h

end SamplerState

namespace Sampler

variable {s t r : Sampler} {i : SamplerInput}

/-- The sampler at the beginning of a cycle. -/
def begun (s : Sampler) (i : SamplerInput) : Sampler := { s.load i with grab := 0, isCalc := true }

/-- The sampler behind `checkIO`, as the handler of its state finds it. -/
def entered (s : Sampler) (i : SamplerInput) : Option Sampler := checkIO i (s.begun i)

lemma scan_eq : s.scan i =
    (s.entered i).bind fun t => (t.dispatch i).bind fun r => some { r with command := .none } := rfl

/-- A cycle is its handler, which forgets the command. -/
lemma scan_of_dispatch (ht : s.entered i = some t) (hr : t.dispatch i = some r) :
    s.scan i = some { r with command := .none } := by
  rw [scan_eq, ht, Option.bind_some, hr, Option.bind_some]

/-- A sampler that accounts for its grabs. -/
structure Counted (s : Sampler) : Prop where
  count : s.grabPresent.toNat + s.grabRemain.toNat = s.grabCount.toNat
  can : s.canPresent = s.grabPresent.toNat * s.grabVol

/-- What a cycle that leads from `s`, and from `t` behind `checkIO`, to `r` says of the grabs: they
are accounted for in the working states, the output is set when one is taken, which was there to
take, and by time each of them takes its interval off the time that remains. -/
structure Takes (s t r : Sampler) : Prop where
  counted : r.state.isWork = true → r.Counted
  grab : r.grab = 1 ↔ s.grabPresent < r.grabPresent
  remain : r.grab = 1 → 1 ≤ t.grabRemain
  time : t.state = .worktime → r.grab = 1 →
    r.timeRemain.toNat + r.interval.toUDINT.toNat = t.timeRemain.toNat

/-- A cycle completes, and accounts for the grabs. -/
def Accounts (s : Sampler) (i : SamplerInput) : Prop :=
  ∃ t r, s.entered i = some t ∧ s.scan i = some r ∧ Takes s t r

/-- The settings give at least one grab, for a test and for a start. -/
def HasGrabs (grabVol : LREAL) (i : SamplerInput) : Prop :=
  1 ≤ i.set.probeTest ∧ 1 ≤ toUDINT (i.set.canVolume / grabVol + 1 / 2)

/-- The input that starts rises, and neither is the input that stops set nor did it just stop the
sampler. -/
def startsByInput (i : SamplerInput) (s : Sampler) : Bool :=
  !(s.checkStop i).2 &&
    i.ioStart.any fun value =>
      decide (0 < value) && !(s.checkStop i).1.lockStart && !(s.checkStop i).1.lockStop

/-- A start would be by time. -/
def ByTime (i : SamplerInput) (s : Sampler) : Prop := i.set.select < 2 ∧ s.method = .period

/-- A start by volume or by mass divides the quota by zero: when it is negative, the interval is
over at once, and the handler behind `checkIO` takes a grab. -/
def GrabsAtOnce (i : SamplerInput) (s : Sampler) : Prop :=
  i.set.select < 2 ∧
    (s.method = .volume ∧ i.set.probeVolume < 0 ∨ s.method = .mass ∧ i.set.probeMass < 0) ∧
      s.command ≠ .stop ∧ s.command ≠ .pause

/-- A cycle that does not start by time, that starts a test with an empty can only, and that does
not start by the input and take a grab at once when grabs were counted before. -/
structure Clean (s : Sampler) (i : SamplerInput) : Prop where
  start : startsByInput i (s.begun i) = true ∨
    ((s.begun i).checkStop i).1.state.rests = true ∧ (s.begun i).command = .start →
      ¬ ByTime i (s.begun i)
  test : startsByInput i (s.begun i) = false →
    ((s.begun i).checkStop i).1.state.rests = true → (s.begun i).command = .test →
      s.canPresent = 0
  input : startsByInput i (s.begun i) = true → GrabsAtOnce i (s.begun i) → s.grabPresent = 0

/-! ### The inputs -/

/-- The part of the sampler that `checkIO` leaves alone, but for a start. -/
structure SameCount (s t : Sampler) : Prop where
  command : t.command = s.command
  method : t.method = s.method
  grabVol : t.grabVol = s.grabVol
  canPresent : t.canPresent = s.canPresent
  grabPresent : t.grabPresent = s.grabPresent
  grabRemain : t.grabRemain = s.grabRemain
  grabCount : t.grabCount = s.grabCount
  grab : t.grab = s.grab

lemma SameCount.counted (h : s.SameCount t) (hs : s.Counted) : t.Counted :=
  ⟨by rw [h.grabPresent, h.grabRemain, h.grabCount, hs.count],
    by rw [h.canPresent, h.grabPresent, h.grabVol, hs.can]⟩

lemma SameCount.trans (h : s.SameCount t) (h' : t.SameCount r) : s.SameCount r :=
  ⟨h'.command.trans h.command, h'.method.trans h.method, h'.grabVol.trans h.grabVol,
    h'.canPresent.trans h.canPresent, h'.grabPresent.trans h.grabPresent,
    h'.grabRemain.trans h.grabRemain, h'.grabCount.trans h.grabCount, h'.grab.trans h.grab⟩

/-- The input that stops changes the state to `IDLE` at most. -/
lemma checkStop_sameCount : s.SameCount (s.checkStop i).1 ∧
    ((s.checkStop i).1.state = s.state ∨ (s.checkStop i).1.state = .idle) := by
  rw [checkStop]
  cases i.ioStop with
  | none => exact ⟨⟨rfl, rfl, rfl, rfl, rfl, rfl, rfl, rfl⟩, .inl rfl⟩
  | some value =>
      dsimp only
      split_ifs <;> first
        | exact ⟨⟨rfl, rfl, rfl, rfl, rfl, rfl, rfl, rfl⟩, .inl rfl⟩
        | exact ⟨⟨rfl, rfl, rfl, rfl, rfl, rfl, rfl, rfl⟩, .inr rfl⟩

lemma checkIO_eq : checkIO i s =
    if (s.checkStop i).2 then some (s.checkStop i).1 else (s.checkStop i).1.checkStart i := rfl

/-- Without a start, `checkIO` does what the input that stops does. -/
lemma checkIO_of_not_startsByInput (h : startsByInput i s = false) :
    ∃ t, checkIO i s = some t ∧ s.SameCount t ∧ t.state = (s.checkStop i).1.state := by
  obtain ⟨hsame, -⟩ := checkStop_sameCount (s := s) (i := i)
  rw [checkIO_eq]
  rw [startsByInput] at h
  cases hstop : (s.checkStop i).2 with
  | true => exact ⟨_, if_pos rfl, hsame, rfl⟩
  | false =>
      rw [if_neg Bool.false_ne_true, checkStart]
      cases hstart : i.ioStart with
      | none => exact ⟨_, rfl, hsame, rfl⟩
      | some value =>
          simp only [hstop, hstart, Option.any_some, Bool.not_false, Bool.true_and] at h
          dsimp only
          rw [if_neg (by simp [h])]
          split_ifs <;>
            exact ⟨_, rfl, hsame.trans ⟨rfl, rfl, rfl, rfl, rfl, rfl, rfl, rfl⟩, rfl⟩

/-- With a start, `checkIO` calls `onStart`. -/
lemma checkIO_of_startsByInput (h : startsByInput i s = true) :
    ∃ t, checkIO i s = t.onStart i ∧ s.SameCount t := by
  obtain ⟨hsame, -⟩ := checkStop_sameCount (s := s) (i := i)
  rw [checkIO_eq]
  simp only [startsByInput, Bool.and_eq_true, Bool.not_eq_true'] at h
  obtain ⟨hstop, h⟩ := h
  rw [hstop, if_neg Bool.false_ne_true, checkStart]
  cases hstart : i.ioStart with
  | none => simp [hstart] at h
  | some value =>
      simp only [hstart, Option.any_some] at h
      dsimp only
      rw [if_pos h]
      split_ifs <;> exact ⟨_, rfl, hsame.trans ⟨rfl, rfl, rfl, rfl, rfl, rfl, rfl, rfl⟩⟩

/-! ### Starts -/

/-- A start by time divides by zero. -/
theorem onStart_byTime (h : ByTime i s) : s.onStart i = none := by
  have hmethod : s.clear.method = .period := h.2
  rw [onStart]
  dsimp only
  rw [if_neg (UInt16.not_le.mpr h.1), hmethod]
  rfl

/-- What holds of a sampler between two cycles. -/
structure Sound (s : Sampler) : Prop where
  ne_worktime : s.state ≠ .worktime
  counted : s.state.isWork = true → s.Counted ∧ 1 ≤ s.grabRemain

/-- Any other start clears the counters, and leaves all grabs to take. -/
lemma onStart_of_not_byTime (h : ¬ ByTime i s) (hg : 1 ≤ s.grabs i) :
    ∃ t, s.onStart i = some t ∧ t.Sound ∧ t.state.rests = false ∧ t.grabVol = s.grabVol ∧
      t.grab = s.grab ∧ t.grabPresent = 0 := by
  have hsound (r : Sampler) (hw : r.state ≠ .worktime) (hp : r.grabPresent = 0)
      (hr : r.grabRemain = s.grabs i) (hc : r.grabCount = s.grabs i) (hcan : r.canPresent = 0) :
      r.Sound :=
    ⟨hw, fun _ => ⟨⟨by rw [hp, hr, hc]; simp, by rw [hcan, hp]; simp⟩, by rw [hr]; exact hg⟩⟩
  rw [onStart]
  dsimp only
  split_ifs with hselect
  · exact ⟨_, rfl, ⟨by simp [event], fun hwork => nomatch hwork⟩, rfl, rfl, rfl, rfl⟩
  · cases hm : s.clear.method with
    | period => exact absurd ⟨UInt16.not_le.mp hselect, hm⟩ h
    | volume | mass =>
        exact ⟨_, rfl, hsound _ (by simp [startCount, event]) rfl rfl rfl rfl, rfl, rfl, rfl, rfl⟩
    | other value => exact ⟨_, rfl, ⟨by simp, fun hwork => nomatch hwork⟩, rfl, rfl, rfl, rfl⟩

/-- An interval that is a division by zero is over at once, or never. -/
lemma addLt_div_zero (x base total : LREAL) :
    (Interval.div x 0).addLt base total = decide (x < 0) := by
  rw [Interval.div, if_neg (by simp)]
  split_ifs with h
  · rw [h]
    rfl
  · rfl

/-- What a working handler does with the commands: a stop and a pause end it without a grab, and
with any other one its rest runs. -/
lemma unlessStopped_cases {rest : Sampler → Option Sampler} (hr : unlessStopped rest t = some r) :
    (t.command = .stop ∧ r.state = .finish ∨ t.command = .pause ∧ r.state = .pause) ∧
        t.SameCount r ∨
      (t.command ≠ .stop ∧ t.command ≠ .pause) ∧
        ∃ u, (u = t ∨ u = t.event .dontStop) ∧ rest u = some r := by
  rw [unlessStopped] at hr
  split at hr
  · next hc => exact .inr ⟨⟨by simp [hc], by simp [hc]⟩, t, .inl rfl, hr⟩
  · next hc =>
      cases hr
      exact .inl ⟨.inl ⟨hc, rfl⟩, ⟨rfl, rfl, rfl, rfl, rfl, rfl, rfl, rfl⟩⟩
  · next hc =>
      cases hr
      exact .inl ⟨.inr ⟨hc, rfl⟩, ⟨rfl, rfl, rfl, rfl, rfl, rfl, rfl, rfl⟩⟩
  · next hstop hpause => exact .inr ⟨⟨hstop, hpause⟩, _, .inr rfl, hr⟩

/-- The rest of the handler by the totals asks for a grab, and then for the end of the work. -/
lemma onWorkVolume_cases {isMass : Bool} (hr : t.onWorkVolume isMass i = some r) :
    (t.command = .stop ∧ r.state = .finish ∨ t.command = .pause ∧ r.state = .pause) ∧
        t.SameCount r ∨
      (t.command ≠ .stop ∧ t.command ≠ .pause) ∧ ∃ u ch, (u = t ∨ u = t.event .dontStop) ∧
        (r = u.grabByTotal ch i ∨ r = (u.grabByTotal ch i).finish) := by
  refine (unlessStopped_cases hr).imp_right fun ⟨hc, u, hu, hrest⟩ => ?_
  dsimp only at hrest
  generalize (if isMass then Channel.mass else .volume) = ch at hrest
  refine ⟨hc, u, ch, hu, ?_⟩
  split_ifs at hrest
  · exact .inr (Option.some_inj.mp hrest).symm
  · exact .inl (Option.some_inj.mp hrest).symm

/-- The handler in the cycle of a start by volume or by mass. -/
lemma onWorkVolume_of_start {isMass : Bool} (quota : LREAL)
    (hr : t.onWorkVolume isMass i = some r) (hinterval : t.interval = .div quota 0)
    (h0 : t.grab = 0) (hp : t.grabPresent = 0) :
    (quota < 0 ∧ t.command ≠ .stop ∧ t.command ≠ .pause → r.grab = 1 ∧ r.grabPresent = 1) ∧
      (¬ (quota < 0 ∧ t.command ≠ .stop ∧ t.command ≠ .pause) →
        r.grab = 0 ∧ r.grabPresent = 0) := by
  rcases onWorkVolume_cases hr with ⟨hc, hsame⟩ | ⟨hc, u, ch, hu, hend⟩
  · refine ⟨fun h => absurd (hc.imp And.left And.left) (not_or.mpr h.2), fun _ => ?_⟩
    exact ⟨hsame.grab.trans h0, hsame.grabPresent.trans hp⟩
  · have hstart : u.interval = .div quota 0 ∧ u.grab = 0 ∧ u.grabPresent = 0 := by
      rcases hu with rfl | rfl <;> exact ⟨hinterval, h0, hp⟩
    obtain ⟨hu, hu0, hup⟩ := hstart
    have htakes (h : quota < 0) : (u.grabByTotal ch i).grab = 1 ∧
        (u.grabByTotal ch i).grabPresent = 1 := by
      rw [grabByTotal, hu, addLt_div_zero, if_pos (decide_eq_true h)]
      exact ⟨rfl, by rw [takeGrab, hup]; rfl⟩
    have hkeeps (h : ¬ quota < 0) : (u.grabByTotal ch i).grab = 0 ∧
        (u.grabByTotal ch i).grabPresent = 0 := by
      rw [grabByTotal, hu, addLt_div_zero, if_neg (by rwa [decide_eq_true_iff])]
      exact ⟨hu0, hup⟩
    rcases hend with rfl | rfl <;>
      exact ⟨fun h => htakes h.1, fun h => hkeeps fun hq => h ⟨hq, hc⟩⟩

/-- In the cycle of a start by the input a grab is taken if and only if it is taken at once. -/
lemma dispatch_onStart (h0 : s.grab = 0) (ht : s.onStart i = some t) (hr : t.dispatch i = some r) :
    (GrabsAtOnce i s → r.grab = 1 ∧ r.grabPresent = 1) ∧
      (¬ GrabsAtOnce i s → r.grab = 0 ∧ r.grabPresent = 0) := by
  rw [onStart] at ht
  dsimp only at ht
  split_ifs at ht with hselect
  · cases ht
    have hnever : ¬ GrabsAtOnce i s := fun h => absurd h.1 (UInt16.not_lt.mpr hselect)
    rw [dispatch, event, onWorkError] at hr
    refine ⟨fun h => absurd h hnever, fun _ => ?_⟩
    dsimp only at hr
    split at hr <;> cases hr <;> exact ⟨h0, rfl⟩
  · have hlt : i.set.select < 2 := UInt16.not_le.mp hselect
    have hmethod : s.clear.method = s.method := rfl
    rw [hmethod] at ht
    cases hm : s.method with
    | period =>
        rw [hm] at ht
        cases ht
    | volume =>
        rw [hm] at ht
        cases ht
        have hiff : GrabsAtOnce i s ↔
            i.set.probeVolume < 0 ∧ s.command ≠ .stop ∧ s.command ≠ .pause := by
          simp [GrabsAtOnce, hlt, hm]
        change onWorkVolume false i _ = some r at hr
        rw [hiff]
        have hstart := onWorkVolume_of_start i.set.probeVolume hr
        exact hstart rfl h0 rfl
    | mass =>
        rw [hm] at ht
        cases ht
        have hiff : GrabsAtOnce i s ↔
            i.set.probeMass < 0 ∧ s.command ≠ .stop ∧ s.command ≠ .pause := by
          simp [GrabsAtOnce, hlt, hm]
        change onWorkVolume true i _ = some r at hr
        rw [hiff]
        have hstart := onWorkVolume_of_start i.set.probeMass hr
        exact hstart rfl h0 rfl
    | other value =>
        rw [hm] at ht
        cases ht
        have hnever : ¬ GrabsAtOnce i s := fun h => by simp [GrabsAtOnce, hm] at h
        rw [dispatch, onWorkError] at hr
        refine ⟨fun h => absurd h hnever, fun _ => ?_⟩
        dsimp only at hr
        split at hr <;> cases hr <;> exact ⟨h0, rfl⟩

/-- Behind `checkIO` a clean cycle has a sound sampler, which its handler may start or test. -/
lemma entered_of_clean (hs : s.Sound) (hg : HasGrabs s.grabVol i) (h : s.Clean i) :
    ∃ t, s.entered i = some t ∧ t.Sound ∧ t.grab = 0 ∧ t.grabVol = s.grabVol ∧
      (t.state.rests = true → (t.command = .start → ¬ ByTime i t) ∧
        (t.command = .test → t.canPresent = 0)) := by
  cases hio : startsByInput i (s.begun i) with
  | true =>
      obtain ⟨u, hu, hsame⟩ := checkIO_of_startsByInput hio
      have hvol : u.grabVol = s.grabVol := hsame.grabVol
      have htime : ¬ ByTime i u := by
        rw [ByTime, hsame.method]
        exact h.start (.inl hio)
      obtain ⟨t, ht, hsound, hrests, hv, hgrab, -⟩ :=
        onStart_of_not_byTime htime (by rw [grabs, hvol]; exact hg.2)
      exact ⟨t, hu.trans ht, hsound, hgrab.trans hsame.grab, hv.trans hvol,
        fun hr => by simp [hrests] at hr⟩
  | false =>
      obtain ⟨-, hstate⟩ := checkStop_sameCount (s := s.begun i) (i := i)
      obtain ⟨t, ht, hsame, hts⟩ := checkIO_of_not_startsByInput hio
      have hts' : t.state = s.state ∨ t.state = .idle := by
        rw [hts]
        exact hstate
      refine ⟨t, ht, ⟨?_, fun hw => ?_⟩, hsame.grab, hsame.grabVol,
        fun hr => ⟨fun hc => ?_, fun hc => ?_⟩⟩
      · rcases hts' with hts' | hts' <;> rw [hts']
        · exact hs.ne_worktime
        · simp
      · rcases hts' with hts' | hts' <;> rw [hts'] at hw
        · obtain ⟨hcount, hremain⟩ := hs.counted hw
          refine ⟨hsame.counted ⟨hcount.count, hcount.can⟩, ?_⟩
          rw [hsame.grabRemain]
          exact hremain
        · cases hw
      · rw [ByTime, hsame.method]
        exact h.start (.inr ⟨by rwa [← hts], hsame.command.symm.trans hc⟩)
      · rw [hsame.canPresent]
        exact h.test hio (by rwa [← hts]) (hsame.command.symm.trans hc)

/-! ### The handlers -/

/-- A working handler takes a grab, or leaves the counters alone. -/
inductive Worked (t : Sampler) : Sampler → Prop where
  | keeps {u : Sampler} (h : t.SameCount u) (state : u.state = t.state) : Worked t u
  | takes {u : Sampler} (state : u.state = t.state) (grab : u.grab = 1)
      (grabVol : u.grabVol = t.grabVol) (canPresent : u.canPresent = t.canPresent + t.grabVol)
      (grabPresent : u.grabPresent = t.grabPresent + 1)
      (grabRemain : u.grabRemain = t.grabRemain - 1) (grabCount : u.grabCount = t.grabCount) :
      Worked t u

/-- A grab that is there to take is accounted for. -/
lemma Worked.counted {u : Sampler} (h : Worked t u) (ht : t.Counted) (hr : 1 ≤ t.grabRemain)
    (h0 : t.grab = 0) : u.Counted ∧ u.grabVol = t.grabVol ∧ u.state = t.state ∧
      (u.grab = 1 ↔ t.grabPresent < u.grabPresent) := by
  cases h with
  | keeps h hs =>
      refine ⟨h.counted ht, h.grabVol, hs, ?_⟩
      rw [h.grab, h0, h.grabPresent]
      simp
  | takes hs hgrab hvol hcan hpresent hremain hcount =>
      have hsum := ht.count
      have hlt := t.grabCount.toNat_lt
      have hr' : 1 ≤ t.grabRemain.toNat := UInt32.le_iff_toNat_le.mp hr
      have hp : (t.grabPresent + 1).toNat = t.grabPresent.toNat + 1 := by
        rw [UInt32.toNat_add]
        exact Nat.mod_eq_of_lt (by simp; omega)
      have hm : (t.grabRemain - 1).toNat = t.grabRemain.toNat - 1 := UInt32.toNat_sub_of_le _ _ hr
      refine ⟨⟨?_, ?_⟩, hvol, hs, iff_of_true hgrab ?_⟩
      · rw [hpresent, hremain, hcount, hp, hm]
        omega
      · rw [hcan, hpresent, hvol, hp, ht.can]
        push_cast
        ring
      · rw [hpresent, UInt32.lt_iff_toNat_lt, hp]
        omega

/-- The end of a working handler. -/
lemma Worked.conclude {u r : Sampler} (h : Worked t u) (ht : t.Sound)
    (hw : t.state.isWork = true) (h0 : t.grab = 0)
    (hr : r = u.finish ∨ r = u ∧ u.grabRemain ≠ 0) :
    Takes t t r ∧ r.Sound ∧ r.grabVol = t.grabVol := by
  obtain ⟨hcounted, hremain⟩ := ht.counted hw
  obtain ⟨hc, hvol, hstate, hgrab⟩ := h.counted hcounted hremain h0
  rcases hr with rfl | ⟨rfl, hne⟩
  · exact ⟨⟨fun hf => (nomatch hf), hgrab, fun _ => hremain, fun hf => absurd hf ht.ne_worktime⟩,
      ⟨by simp [finish], fun hf => nomatch hf⟩, hvol⟩
  · refine ⟨⟨fun _ => hc, hgrab, fun _ => hremain, fun hf => absurd hf ht.ne_worktime⟩,
      ⟨by rw [hstate]; exact ht.ne_worktime, fun _ => ⟨hc, ?_⟩⟩, hvol⟩
    rw [UInt32.le_iff_toNat_le]
    exact Nat.one_le_iff_ne_zero.mpr fun h => hne (UInt32.toNat_inj.mp h)

/-- A cycle without a grab and out of the working states. -/
lemma takes_of_not_work {r : Sampler} (hw : r.state.isWork = false) (hgrab : r.grab = 0)
    (hpresent : r.grabPresent ≤ t.grabPresent) : Takes t t r := by
  refine ⟨fun h => by simp [hw] at h, ?_, fun h => by simp [hgrab] at h,
    fun _ h => by simp [hgrab] at h⟩
  simp [hgrab, hpresent]

lemma sound_of_not_work {r : Sampler} (hw : r.state.isWork = false) : r.Sound :=
  ⟨fun h => by simp [h, SamplerState.isWork] at hw, fun h => by simp [hw] at h⟩

/-- The commands in a working state stop it, pause it or let its handler run. -/
lemma unlessStopped_takes {rest : Sampler → Option Sampler} (ht : t.Sound) (h0 : t.grab = 0)
    (hw : t.state.isWork = true)
    (hrest : ∀ u, t.SameCount u → u.state = t.state →
      ∃ v r, Worked t v ∧ rest u = some r ∧ (r = v.finish ∨ r = v ∧ v.grabRemain ≠ 0)) :
    ∃ r, unlessStopped rest t = some r ∧ Takes t t r ∧ r.Sound ∧ r.grabVol = t.grabVol := by
  have hgo (u : Sampler) (hu : t.SameCount u) (hs : u.state = t.state) :
      ∃ r, rest u = some r ∧ Takes t t r ∧ r.Sound ∧ r.grabVol = t.grabVol := by
    obtain ⟨v, r, hv, hr, hend⟩ := hrest u hu hs
    exact ⟨r, hr, hv.conclude ht hw h0 hend⟩
  rw [unlessStopped]
  split
  · exact hgo t ⟨rfl, rfl, rfl, rfl, rfl, rfl, rfl, rfl⟩ rfl
  · exact ⟨_, rfl, takes_of_not_work rfl h0 (UInt32.le_refl _), sound_of_not_work rfl, rfl⟩
  · exact ⟨_, rfl, takes_of_not_work rfl h0 (UInt32.le_refl _), sound_of_not_work rfl, rfl⟩
  · exact hgo (t.event .dontStop) ⟨rfl, rfl, rfl, rfl, rfl, rfl, rfl, rfl⟩ rfl

/-- The question at the end of a working handler. -/
lemma Worked.exists_end {v : Sampler} {c : Prop} [Decidable c] (hv : Worked t v)
    (hc : ¬ c → v.grabRemain ≠ 0) :
    ∃ w r, Worked t w ∧ (if c then some v.finish else some v) = some r ∧
      (r = w.finish ∨ r = w ∧ w.grabRemain ≠ 0) := by
  by_cases h : c
  · exact ⟨v, v.finish, hv, if_pos h, .inl rfl⟩
  · exact ⟨v, v, hv, if_neg h, .inr ⟨rfl, hc h⟩⟩

lemma onWorkTimer_takes (ht : t.Sound) (h0 : t.grab = 0) (hw : t.state.isWork = true) :
    ∃ r, t.onWorkTimer false i = some r ∧ Takes t t r ∧ r.Sound ∧ r.grabVol = t.grabVol := by
  refine unlessStopped_takes ht h0 hw fun u hu hs => ?_
  have hworked : Worked t (u.grabByTime i) := by
    rw [grabByTime]
    split_ifs
    · exact .takes hs rfl hu.grabVol (by simp [takeGrab, hu.canPresent, hu.grabVol])
        (by simp [takeGrab, hu.grabPresent]) (by simp [takeGrab, hu.grabRemain]) hu.grabCount
    · exact .keeps hu hs
  exact hworked.exists_end fun h hzero => h (.inr (.inl hzero))

lemma onWorkVolume_takes {isMass : Bool} (ht : t.Sound) (h0 : t.grab = 0)
    (hw : t.state.isWork = true) :
    ∃ r, t.onWorkVolume isMass i = some r ∧ Takes t t r ∧ r.Sound ∧ r.grabVol = t.grabVol := by
  refine unlessStopped_takes ht h0 hw fun u hu hs => ?_
  have hworked (ch : Channel) : Worked t (u.grabByTotal ch i) := by
    rw [grabByTotal]
    split_ifs
    · exact .takes hs rfl hu.grabVol (by simp [takeGrab, hu.canPresent, hu.grabVol])
        (by simp [takeGrab, hu.grabPresent]) (by simp [takeGrab, hu.grabRemain]) hu.grabCount
    · exact .keeps hu hs
  exact (hworked _).exists_end fun h hzero => h (.inl hzero)

lemma onWorkError_takes (h0 : t.grab = 0) (hw : t.state = .error) :
    Takes t t t.onWorkError ∧ t.onWorkError.Sound ∧ t.onWorkError.grabVol = t.grabVol := by
  rw [onWorkError]
  split
  · exact ⟨takes_of_not_work (by rw [hw]; rfl) h0 (UInt32.le_refl _),
      sound_of_not_work (by rw [hw]; rfl), rfl⟩
  · exact ⟨takes_of_not_work rfl h0 (UInt32.le_refl _), sound_of_not_work rfl, rfl⟩
  · exact ⟨takes_of_not_work (by simp [event, hw, SamplerState.isWork]) h0 (UInt32.le_refl _),
      sound_of_not_work (by simp [event, hw, SamplerState.isWork]), rfl⟩

/-- A sampler at rest has the handler `onIdle`. -/
lemma dispatch_of_rests (h : t.state.rests = true) : t.dispatch i = t.onIdle i := by
  rw [dispatch]
  cases hs : t.state with
  | idle | finish => rfl
  | _ => simp [hs, SamplerState.rests] at h

/-- The handler of a sampler at rest starts it, or leaves it at rest. -/
lemma onIdle_takes (h0 : t.grab = 0) (hr : t.state.rests = true) (hg : HasGrabs t.grabVol i)
    (hstart : t.command = .start → ¬ ByTime i t) (htest : t.command = .test → t.canPresent = 0) :
    ∃ r, t.onIdle i = some r ∧ Takes t t r ∧ r.Sound ∧ r.grabVol = t.grabVol := by
  have hw := SamplerState.isWork_of_rests hr
  rw [onIdle]
  split
  · next hc =>
      obtain ⟨r, hrun, hsound, -, hvol, hgrab, hpresent⟩ := onStart_of_not_byTime (hstart hc) hg.2
      refine ⟨r, hrun, ⟨fun hwork => (hsound.counted hwork).1, ?_, ?_, ?_⟩, hsound, hvol⟩ <;>
        simp [hgrab, h0, hpresent]
  · exact ⟨_, rfl, takes_of_not_work rfl h0 (UInt32.le_refl _), sound_of_not_work rfl, rfl⟩
  · next hc =>
      have hcounted : (t.onStartTest i).Counted :=
        ⟨by simp [onStartTest, event], by simp [onStartTest, event, htest hc]⟩
      refine ⟨_, rfl, ⟨fun _ => hcounted, ?_, ?_, ?_⟩, ⟨nofun, fun _ => ⟨hcounted, hg.1⟩⟩, rfl⟩ <;>
        simp [onStartTest, event, h0]
  all_goals exact ⟨_, rfl, takes_of_not_work hw h0 (UInt32.le_refl _), sound_of_not_work hw, rfl⟩

/-- What a handler does to a sound sampler. -/
theorem dispatch_takes (ht : t.Sound) (h0 : t.grab = 0) (hg : HasGrabs t.grabVol i)
    (hrests : t.state.rests = true → (t.command = .start → ¬ ByTime i t) ∧
      (t.command = .test → t.canPresent = 0)) :
    ∃ r, t.dispatch i = some r ∧ Takes t t r ∧ r.Sound ∧ r.grabVol = t.grabVol := by
  rw [dispatch]
  cases hs : t.state with
  | idle | finish =>
      obtain ⟨hstart, htest⟩ := hrests (by rw [hs]; rfl)
      exact onIdle_takes h0 (by rw [hs]; rfl) hg hstart htest
  | test => exact onWorkTimer_takes ht h0 (by rw [hs]; rfl)
  | worktime => exact absurd hs ht.ne_worktime
  | workvolume => exact onWorkVolume_takes ht h0 (by rw [hs]; rfl)
  | workmass => exact onWorkVolume_takes ht h0 (by rw [hs]; rfl)
  | pause =>
      exact ⟨t, rfl, takes_of_not_work (by rw [hs]; rfl) h0 (UInt32.le_refl _),
        sound_of_not_work (by rw [hs]; rfl), rfl⟩
  | error => exact ⟨_, rfl, onWorkError_takes h0 hs⟩

/-! ### Cycles and runs -/

/-- What a cycle does that the input starts. -/
lemma grab_of_startsByInput (hio : startsByInput i (s.begun i) = true)
    (ht : s.entered i = some t) (hr : t.dispatch i = some r) :
    (GrabsAtOnce i (s.begun i) → r.grab = 1 ∧ r.grabPresent = 1) ∧
      (¬ GrabsAtOnce i (s.begun i) → r.grab = 0 ∧ r.grabPresent = 0) := by
  obtain ⟨u, hu, hsame⟩ := checkIO_of_startsByInput hio
  have hiff : GrabsAtOnce i u ↔ GrabsAtOnce i (s.begun i) := by
    rw [GrabsAtOnce, hsame.method, hsame.command, GrabsAtOnce]
  rw [← hiff]
  exact dispatch_onStart hsame.grab (hu.symm.trans ht) hr

/-- Behind `checkIO` a cycle that the input does not start has the count of before. -/
lemma entered_grabPresent (hio : startsByInput i (s.begun i) = false)
    (ht : s.entered i = some t) : t.grabPresent = s.grabPresent := by
  obtain ⟨u, hu, hsame, -⟩ := checkIO_of_not_startsByInput hio
  cases hu.symm.trans ht
  exact hsame.grabPresent

/-- In a clean cycle the count grows over `checkIO` if it grows behind it. -/
lemma Clean.grab_iff (h : s.Clean i) (ht : s.entered i = some t) (hr : t.dispatch i = some r)
    (hgrab : r.grab = 1 ↔ t.grabPresent < r.grabPresent) :
    r.grab = 1 ↔ s.grabPresent < r.grabPresent := by
  cases hio : startsByInput i (s.begun i) with
  | false => rwa [← entered_grabPresent hio ht]
  | true =>
      obtain ⟨hatOnce, hnever⟩ := grab_of_startsByInput hio ht hr
      by_cases hg : GrabsAtOnce i (s.begun i)
      · obtain ⟨hone, hpresent⟩ := hatOnce hg
        rw [h.input hio hg, hpresent]
        exact iff_of_true hone (by decide)
      · obtain ⟨hzero, hpresent⟩ := hnever hg
        rw [hzero, hpresent]
        exact iff_of_false (by norm_num) (by simp)

/-- A clean cycle accounts for the grabs, and leaves a sound sampler. -/
lemma accounts_of_clean (hs : s.Sound) (hg : HasGrabs s.grabVol i) (h : s.Clean i) :
    s.Accounts i ∧ ∃ r, s.scan i = some r ∧ r.Sound ∧ r.grabVol = s.grabVol := by
  obtain ⟨t, ht, hsound, h0, hvol, hrests⟩ := entered_of_clean hs hg h
  obtain ⟨r, hr, htakes, hr', hvol'⟩ := dispatch_takes hsound h0 (by rwa [hvol]) hrests
  have hscan := scan_of_dispatch ht hr
  have hgrab := h.grab_iff ht hr htakes.grab
  refine ⟨⟨t, _, ht, hscan, ⟨fun hw => ?_, hgrab, htakes.remain, htakes.time⟩⟩, _, hscan,
    ⟨hr'.ne_worktime, fun hw => ?_⟩, hvol'.trans hvol⟩
  · exact ⟨(htakes.counted hw).count, (htakes.counted hw).can⟩
  · obtain ⟨hc, hremain⟩ := hr'.counted hw
    exact ⟨⟨hc.count, hc.can⟩, hremain⟩

/-- A cycle that accounts for the grabs does not start by time. -/
lemma Accounts.not_byTime (h : s.Accounts i)
    (hstart : startsByInput i (s.begun i) = true ∨
      ((s.begun i).checkStop i).1.state.rests = true ∧ (s.begun i).command = .start) :
    ¬ ByTime i (s.begun i) := by
  intro htime
  obtain ⟨t, r, ht, hscan, -⟩ := h
  cases hio : startsByInput i (s.begun i) with
  | true =>
      obtain ⟨u, hu, hsame⟩ := checkIO_of_startsByInput hio
      have hu' : ByTime i u := ⟨htime.1, hsame.method.trans htime.2⟩
      rw [entered, hu, onStart_byTime hu'] at ht
      cases ht
  | false =>
      obtain ⟨hrests, hc⟩ := hstart.resolve_left (by simp [hio])
      obtain ⟨u, hu, hsame, hus⟩ := checkIO_of_not_startsByInput hio
      have hu' : ByTime i u := ⟨htime.1, hsame.method.trans htime.2⟩
      have hdispatch : u.dispatch i = none := by
        rw [dispatch_of_rests (hus ▸ hrests), onIdle, hsame.command.trans hc]
        exact onStart_byTime hu'
      rw [scan_eq, entered, hu, Option.bind_some, hdispatch] at hscan
      cases hscan

/-- A cycle that accounts for the grabs starts a test with an empty can only. -/
lemma Accounts.canPresent_eq_zero (h : s.Accounts i) (hio : startsByInput i (s.begun i) = false)
    (hrests : ((s.begun i).checkStop i).1.state.rests = true) (hc : (s.begun i).command = .test) :
    s.canPresent = 0 := by
  obtain ⟨t, r, ht, hscan, htakes⟩ := h
  obtain ⟨u, hu, hsame, hus⟩ := checkIO_of_not_startsByInput hio
  have hcan : u.canPresent = s.canPresent := hsame.canPresent
  have hdispatch : u.dispatch i = some (u.onStartTest i) := by
    rw [dispatch_of_rests (hus ▸ hrests), onIdle, hsame.command.trans hc]
  rw [scan_eq, entered, hu, Option.bind_some, hdispatch, Option.bind_some,
    Option.some_inj] at hscan
  subst hscan
  have hcounted := (htakes.counted rfl).can
  simpa [onStartTest, event, hcan] using hcounted

/-- A cycle that accounts for the grabs, and takes one as the input starts it, has none before. -/
lemma Accounts.grabPresent_eq_zero (h : s.Accounts i) (hio : startsByInput i (s.begun i) = true)
    (hg : GrabsAtOnce i (s.begun i)) : s.grabPresent = 0 := by
  obtain ⟨t, r, ht, hscan, htakes⟩ := h
  rw [scan_eq, ht, Option.bind_some, Option.bind_eq_some_iff] at hscan
  obtain ⟨u, hu, hr⟩ := hscan
  cases hr
  obtain ⟨hone, hpresent⟩ := (grab_of_startsByInput hio ht hu).1 hg
  have hlt : s.grabPresent < u.grabPresent := htakes.grab.mp hone
  rw [hpresent, UInt32.lt_iff_toNat_lt] at hlt
  exact UInt32.toNat_inj.mp (Nat.lt_one_iff.mp hlt)

/-- A cycle of a sound sampler accounts for the grabs if and only if it is clean. -/
lemma accounts_iff_clean (hs : s.Sound) (hg : HasGrabs s.grabVol i) : s.Accounts i ↔ s.Clean i :=
  ⟨fun h => ⟨h.not_byTime, fun hio hrests hc => h.canPresent_eq_zero hio hrests hc,
    fun hio hg => h.grabPresent_eq_zero hio hg⟩, fun h => (accounts_of_clean hs hg h).1⟩

/-- A scan of a sampler that did not stop the process. -/
def step (s : Option Sampler) (i : SamplerInput) : Option Sampler := s.bind (scan · i)

/-- In every run from a sampler that does not work, with settings that give at least one grab, all
cycles account for the grabs if and only if all cycles are clean. -/
theorem accounts_iff (s : Sampler) (hs : s.state.isWork = false) (l : List SamplerInput)
    (hl : ∀ i ∈ l, HasGrabs s.grabVol i) :
    Run.Along step (fun s i => ∃ t, s = some t ∧ t.Accounts i) (some s) l ↔
      Run.Along step (fun s i => ∃ t, s = some t ∧ t.Clean i) (some s) l := by
  refine Run.along_congr (A := fun _ i => HasGrabs s.grabVol i)
    (fun o => ∃ t, o = some t ∧ t.Sound ∧ t.grabVol = s.grabVol) ?_ ?_
    ⟨s, rfl, sound_of_not_work hs, rfl⟩ ?_
  · rintro _ i ⟨t, rfl, hsound, hvol⟩ hg
    have hiff := accounts_iff_clean hsound (by rwa [hvol])
    simp [hiff]
  · rintro _ i ⟨t, rfl, hsound, hvol⟩ hg ⟨t', ht', h⟩
    cases ht'
    have hclean := (accounts_iff_clean hsound (by rwa [hvol])).mp h
    obtain ⟨-, r, hr, hr', hvol'⟩ := accounts_of_clean hsound (by rwa [hvol]) hclean
    exact ⟨r, hr, hr', hvol'.trans hvol⟩
  · exact Run.along_of_forall_mem fun _ i hi => hl i hi

/-! ### Two tests -/

/-- A cycle at a tick of the clock in milliseconds, with one grab for a test and ten for a start. -/
def cycleAt (tick : UInt32) (command : Option UInt16) : SamplerInput where
  command := command
  set :=
    { probeTest := 1, probeVolume := 100, probeMass := 100, canVolume := 10, can := fun _ => 10 }
  total := ⟨.clear, .clear, .clear, .clear, fun _ => 0⟩
  sysTick := tick
  unixTime := tick / 1000

/-- A test with its grab, and the command for another one. -/
def twoTests : List SamplerInput := [cycleAt 0 (some 3), cycleAt 2000 none, cycleAt 2010 (some 3)]

lemma hasGrabs_cycleAt (tick : UInt32) (command : Option UInt16) :
    HasGrabs 1 (cycleAt tick command) :=
  ⟨UInt32.le_refl 1, show 1 ≤ toUDINT (10 / 1 + 1 / 2) by decide +kernel⟩

/-- The first test of them is finished. -/
lemma test_finished :
    ((step (step (some { method := .volume }) (cycleAt 0 (some 3))) (cycleAt 2000 none)).map
      fun s => (s.state, s.canPresent)) = some (.finish, 1) := by decide +kernel

/-- The second test starts with no grab taken, and the can still holds the one of the first test. -/
theorem accounts_fails :
    (∀ i ∈ twoTests, HasGrabs 1 i) ∧
      ((({ method := .volume } : Sampler).run twoTests).map fun s =>
        (s.state, s.grabPresent, s.canPresent)) = some (.test, 0, 1) ∧
      ¬ Run.Along step (fun s i => ∃ t, s = some t ∧ t.Accounts i)
        (some ({ method := .volume } : Sampler)) twoTests := by
  refine ⟨by simp [twoTests, hasGrabs_cycleAt], by decide +kernel, ?_⟩
  rintro ⟨-, -, ⟨t, ht, haccounts⟩, -⟩
  have hstate := test_finished
  rw [ht, Option.map_some, Option.some_inj, Prod.mk.injEq] at hstate
  have hzero := haccounts.canPresent_eq_zero (by simp [startsByInput, cycleAt])
    (by simp [checkStop, cycleAt, begun, load, hstate.1, SamplerState.rests]) rfl
  rw [hzero] at hstate
  exact zero_ne_one hstate.2

/-! ### A clean run -/

instance (v : LREAL) (i : SamplerInput) : Decidable (HasGrabs v i) :=
  inferInstanceAs (Decidable (_ ∧ _))

instance (i : SamplerInput) (s : Sampler) : Decidable (ByTime i s) :=
  inferInstanceAs (Decidable (_ ∧ _))

instance (i : SamplerInput) (s : Sampler) : Decidable (GrabsAtOnce i s) :=
  inferInstanceAs (Decidable (_ ∧ (_ ∧ _ ∨ _ ∧ _) ∧ _ ∧ _))

instance (s : Sampler) (i : SamplerInput) : Decidable (s.Clean i) :=
  decidable_of_iff
    ((startsByInput i (s.begun i) = true ∨
        ((s.begun i).checkStop i).1.state.rests = true ∧ (s.begun i).command = .start →
          ¬ ByTime i (s.begun i)) ∧
      (startsByInput i (s.begun i) = false →
        ((s.begun i).checkStop i).1.state.rests = true → (s.begun i).command = .test →
          s.canPresent = 0) ∧
      (startsByInput i (s.begun i) = true → GrabsAtOnce i (s.begun i) → s.grabPresent = 0))
    ⟨fun h => ⟨h.1, h.2.1, h.2.2⟩, fun h => ⟨h.start, h.test, h.input⟩⟩

instance (o : Option Sampler) (i : SamplerInput) :
    Decidable (∃ t, o = some t ∧ t.Clean i) :=
  inferInstanceAs (Decidable (∃ t, t ∈ o ∧ t.Clean i))

/-- A test with its grab, a start by the input that empties the can, a stop, and a second test. -/
def startBehindTest : List SamplerInput :=
  [cycleAt 0 (some 3), cycleAt 2000 none, { cycleAt 3000 none with ioStart := some 1 },
    { cycleAt 4000 none with ioStart := some 0 }, cycleAt 5000 (some 2), cycleAt 6000 (some 3),
    cycleAt 8000 none]

theorem accounts_iff_startBehindTest :
    Run.Along step (fun s i => ∃ t, s = some t ∧ t.Accounts i)
      (some ({ method := .volume } : Sampler)) startBehindTest :=
  (accounts_iff { method := .volume } rfl startBehindTest (by decide +kernel)).mpr
    (by decide +kernel)

end Sampler

end Tritonn

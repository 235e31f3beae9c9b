import Tritonn.Io.ModuleFI4
import Tritonn.Lib.Window

/-!
`src/tritonn/io/ai_channel.cpp` and `fi_channel.cpp`: the channels that average what the hardware
gives, and over how many samples they do.

* `AIChannel.processing` and `FIAveraging.processing` are the two routines, and `poll` is the part
  of a poll of the module that concerns a channel: the sample is written and then processed;
* `AIChannel.run_eq` and `FIAveraging.run_eq` say what a channel holds behind any number of polls:
  its list has the last samples of the window, but the mean was taken with one more;
* `AveragesLast` is the property, and `averagesLast_iff` says that it holds if and only if there are
  no more samples than the window has places, or the sample in front of it makes no difference;
* `averagesLast_fails` are two sequences for which it does.
-/

namespace Tritonn

open Window

/-- `static_cast<UINT>` of a value that a `UINT` can hold. -/
def toUINT (value : LREAL) : UInt16 := UInt16.ofNat ⌊value⌋₊

/-! ### Analogue inputs -/

namespace AIMode

/-- `Mode::mA_0_20`. -/
def mA0to20 : UInt8 := 0

/-- `Mode::mA_4_20`. -/
def mA4to20 : UInt8 := 1

/-- `Mode::V_m10_10`. -/
def vM10to10 : UInt8 := 2

/-- `Mode::V_0_10`. -/
def v0to10 : UInt8 := 3

end AIMode

/-- `rIOAIChannel`, as far as `processing` uses it. The mode may be any number that is written into
its variable. -/
structure AIChannel where
  setup : UInt16 := 0
  state : Bool := false
  mode : UInt8 := AIMode.mA4to20
  adc : UInt16 := 0
  hardState : Bool := false
  average : List UInt16 := []
  deriving DecidableEq, Repr

/-- What reaches a channel before it is processed: the code and the state that the module reads, and
the mode, which the operator may write. -/
structure AIPoll where
  mode : UInt8
  adc : UInt16
  hardState : Bool
  deriving DecidableEq, Repr

namespace AIChannel

/-- `rIOAIChannel::Setup::AVERAGE`. -/
def setupAverage : UInt16 := 0x0020

/-- `rIOAIChannel::MAX_AVERAGE`. -/
def maxAverage : ℕ := 3

/-- `rIOAIChannel::getMinValue`. -/
def getMinValue (mode : UInt8) : UInt16 :=
  if mode = AIMode.mA0to20 then 0
  else if mode = AIMode.mA4to20 then 10922
  else if mode = AIMode.vM10to10 then 2979
  else if mode = AIMode.v0to10 then 32767
  else 0

/-- `rIOAIChannel::getMaxValue`. -/
def getMaxValue (mode : UInt8) : UInt16 :=
  if mode = AIMode.mA0to20 then 54612
  else if mode = AIMode.mA4to20 then 54612
  else if mode = AIMode.vM10to10 then 62556
  else if mode = AIMode.v0to10 then 62556
  else 0

/-- The average of the list, which is summed up and divided in `LREAL`. -/
def averageOf (l : List UInt16) : LREAL := (l.map fun adc => (adc.toNat : LREAL)).sum / l.length

/-- `rIOAIChannel::processing`. -/
def processing (c : AIChannel) : AIChannel :=
  if c.adc < getMinValue c.mode ∨ getMaxValue c.mode < c.adc ∨ c.hardState then
    { c with state := true, average := [] }
  else if c.setup &&& setupAverage ≠ 0 then
    -- the sum is over the new list, which is trimmed behind it
    { c with
      state := false
      average := trim maxAverage (c.average ++ [c.adc])
      adc := toUINT (averageOf (c.average ++ [c.adc])) }
  else { c with state := false, average := [] }

/-- What a poll of the module does with the channel. -/
def poll (c : AIChannel) (i : AIPoll) : AIChannel :=
  { c with mode := i.mode, adc := i.adc, hardState := i.hardState }.processing

end AIChannel

/-! ### Frequency inputs -/

/-- `rIOFIChannel` with its list. -/
structure FIAveraging extends FIChannel where
  setup : UInt16
  average : List LREAL

namespace FIAveraging

/-- `rIOFIChannel::Setup::AVERAGE`. -/
def setupAverage : UInt16 := 0x0002

/-- `rIOFIChannel::MAX_AVERAGE`. -/
def maxAverage : ℕ := 5

/-- The average of the list. -/
def averageOf (l : List LREAL) : LREAL := l.sum / l.length

/-- `rIOFIChannel::processing`. -/
def processing (c : FIAveraging) : FIAveraging :=
  if c.setup &&& setupAverage ≠ 0 then
    { c with
      average := trim maxAverage (c.average ++ [c.freq])
      freq := averageOf (c.average ++ [c.freq]) }
  else c

/-- What a poll of the module does with the channel. -/
def poll (c : FIAveraging) (i : FIChannel) : FIAveraging :=
  { c with freq := i.freq, counter := i.counter }.processing

end FIAveraging

/-! ### Runs -/

namespace AIChannel

variable {c : AIChannel} {l : List AIPoll}

/-- The channel averages, and has no sample yet. -/
def Starts (c : AIChannel) : Prop := c.setup &&& setupAverage ≠ 0 ∧ c.average = []

/-- The code is one of the mode, and the hardware reports no fault. -/
def InRange (i : AIPoll) : Prop :=
  getMinValue i.mode ≤ i.adc ∧ i.adc ≤ getMaxValue i.mode ∧ i.hardState = false

instance (i : AIPoll) : Decidable (InRange i) := inferInstanceAs (Decidable (_ ∧ _))

/-- The codes of some polls. -/
def codes (l : List AIPoll) : List UInt16 := l.map AIPoll.adc

lemma poll_of_inRange (hc : c.setup &&& setupAverage ≠ 0) {i : AIPoll} (hi : InRange i) :
    c.poll i = { c with
      mode := i.mode
      hardState := i.hardState
      state := false
      average := trim maxAverage (c.average ++ [i.adc])
      adc := toUINT (averageOf (c.average ++ [i.adc])) } := by
  obtain ⟨hmin, hmax, hhard⟩ := hi
  have hnot : ¬ (i.adc < getMinValue i.mode ∨ getMaxValue i.mode < i.adc ∨ i.hardState) := by
    rw [not_or, not_or, UInt16.not_lt, UInt16.not_lt]
    exact ⟨hmin, hmax, by rw [hhard]; decide⟩
  rw [poll, processing, if_neg hnot, if_pos hc]

/-- The list holds the last samples. -/
theorem run_average (hc : c.Starts) (hl : ∀ i ∈ l, InRange i) :
    (l.foldl poll c).setup = c.setup ∧
      (l.foldl poll c).average = (codes l).rtake maxAverage := by
  induction l using List.reverseRecOn with
  | nil => exact ⟨rfl, by rw [List.foldl_nil, hc.2]; rfl⟩
  | append_singleton l i ih =>
      obtain ⟨hsetup, haverage⟩ := ih fun j hj => hl j (List.mem_append_left [i] hj)
      have havg : (l.foldl poll c).setup &&& setupAverage ≠ 0 := by rw [hsetup]; exact hc.1
      rw [List.foldl_append, List.foldl_cons, List.foldl_nil,
        poll_of_inRange havg (hl i (by simp))]
      refine ⟨hsetup, ?_⟩
      simp only
      rw [haverage, trim_eq_rtake, rtake_rtake_concat, codes, codes, List.map_append,
        List.map_singleton]

/-- The code behind the last poll is the mean of one sample more. -/
theorem run_adc (hc : c.Starts) (hl : ∀ i ∈ l, InRange i) (h0 : l ≠ []) :
    (l.foldl poll c).adc = toUINT (averageOf ((codes l).rtake (maxAverage + 1))) := by
  induction l using List.reverseRecOn with
  | nil => exact absurd rfl h0
  | append_singleton l i _ =>
      obtain ⟨hsetup, haverage⟩ :=
        run_average hc fun j hj => hl j (List.mem_append_left [i] hj)
      have havg : (l.foldl poll c).setup &&& setupAverage ≠ 0 := by rw [hsetup]; exact hc.1
      rw [List.foldl_append, List.foldl_cons, List.foldl_nil,
        poll_of_inRange havg (hl i (by simp))]
      simp only
      rw [haverage, codes, codes, List.map_append, List.map_singleton, List.rtake_concat_succ]

/-- The mean of codes, which fits into a code. -/
lemma toUINT_averageOf (l : List UInt16) :
    (toUINT (averageOf l)).toNat = (l.map UInt16.toNat).sum / l.length := by
  have hsum : (l.map fun adc => (adc.toNat : LREAL)).sum = ((l.map UInt16.toNat).sum : ℕ) := by
    rw [Nat.cast_list_sum, List.map_map]
    rfl
  have hle : (l.map UInt16.toNat).sum ≤ l.length * 65535 := by
    have hmem : ∀ n ∈ l.map UInt16.toNat, n ≤ 65535 := by
      intro n hn
      obtain ⟨u, -, rfl⟩ := List.mem_map.mp hn
      exact Nat.lt_succ_iff.mp u.toNat_lt
    have h := List.sum_le_card_nsmul (l.map UInt16.toNat) 65535 hmem
    rwa [List.length_map, smul_eq_mul] at h
  have hlt : (l.map UInt16.toNat).sum / l.length < 65536 :=
    Nat.lt_succ_iff.mpr (Nat.div_le_of_le_mul hle)
  rw [toUINT, averageOf, hsum, Nat.floor_div_natCast, Nat.floor_natCast, UInt16.toNat_ofNat',
    Nat.mod_eq_of_lt hlt]

/-- The code behind the last poll is the mean of the last samples of the window, rounded down. -/
def AveragesLast (c : AIChannel) (l : List AIPoll) : Prop :=
  (l.foldl poll c).adc.toNat =
    (((codes l).map UInt16.toNat).rtake maxAverage).sum / min maxAverage l.length

/-- It is so if and only if the one more sample is near to the mean. -/
theorem averagesLast_iff_near (hc : c.Starts) (hl : ∀ i ∈ l, InRange i) (h0 : l ≠ []) :
    AveragesLast c l ↔
      l.length ≤ maxAverage ∨ NearQuotient maxAverage ((codes l).map UInt16.toNat) := by
  have hlength : ((codes l).map UInt16.toNat).length = l.length := by
    rw [List.length_map, codes, List.length_map]
  have hrtake : ∀ n, ((codes l).rtake n).map UInt16.toNat = ((codes l).map UInt16.toNat).rtake n :=
    fun n => by rw [List.rtake, List.rtake, List.map_drop, List.length_map]
  have hmin : ∀ n, ((codes l).rtake n).length = min n l.length := fun n => by
    rw [length_rtake, codes, List.length_map]
  rw [AveragesLast, run_adc hc hl h0, toUINT_averageOf, hrtake, hmin, ← hlength]
  exact sum_div_rtake_iff (by decide) _

end AIChannel

namespace FIAveraging

variable {c : FIAveraging} {l : List FIChannel}

/-- The channel averages, and has no sample yet. -/
def Starts (c : FIAveraging) : Prop := c.setup &&& setupAverage ≠ 0 ∧ c.average = []

/-- The frequencies of some polls. -/
def freqs (l : List FIChannel) : List LREAL := l.map FIChannel.freq

lemma poll_of_average (hc : c.setup &&& setupAverage ≠ 0) (i : FIChannel) :
    c.poll i = { c with
      counter := i.counter
      average := trim maxAverage (c.average ++ [i.freq])
      freq := averageOf (c.average ++ [i.freq]) } := by
  rw [poll, processing, if_pos hc]

/-- The list holds the last samples. -/
theorem run_average (hc : c.Starts) (l : List FIChannel) :
    (l.foldl poll c).setup = c.setup ∧
      (l.foldl poll c).average = (freqs l).rtake maxAverage := by
  induction l using List.reverseRecOn with
  | nil => exact ⟨rfl, by rw [List.foldl_nil, hc.2]; rfl⟩
  | append_singleton l i ih =>
      obtain ⟨hsetup, haverage⟩ := ih
      have havg : (l.foldl poll c).setup &&& setupAverage ≠ 0 := by rw [hsetup]; exact hc.1
      rw [List.foldl_append, List.foldl_cons, List.foldl_nil, poll_of_average havg]
      refine ⟨hsetup, ?_⟩
      simp only
      rw [haverage, trim_eq_rtake, rtake_rtake_concat, freqs, freqs, List.map_append,
        List.map_singleton]

/-- The frequency behind the last poll is the mean of one sample more. -/
theorem run_freq (hc : c.Starts) (h0 : l ≠ []) :
    (l.foldl poll c).freq = averageOf ((freqs l).rtake (maxAverage + 1)) := by
  induction l using List.reverseRecOn with
  | nil => exact absurd rfl h0
  | append_singleton l i _ =>
      obtain ⟨hsetup, haverage⟩ := run_average hc l
      have havg : (l.foldl poll c).setup &&& setupAverage ≠ 0 := by rw [hsetup]; exact hc.1
      rw [List.foldl_append, List.foldl_cons, List.foldl_nil, poll_of_average havg]
      simp only
      rw [haverage, freqs, freqs, List.map_append, List.map_singleton, List.rtake_concat_succ]

/-- The frequency behind the last poll is the mean of the last samples of the window. -/
def AveragesLast (c : FIAveraging) (l : List FIChannel) : Prop :=
  (l.foldl poll c).freq =
    ((freqs l).rtake maxAverage).sum / (min maxAverage l.length : ℕ)

/-- It is so if and only if the one more sample is the mean itself. -/
theorem averagesLast_iff_mean (hc : c.Starts) (h0 : l ≠ []) :
    AveragesLast c l ↔ l.length ≤ maxAverage ∨
      (freqs l).getD (l.length - (maxAverage + 1)) 0 =
        ((freqs l).rtake maxAverage).sum / maxAverage := by
  have hlength : (freqs l).length = l.length := List.length_map _
  rw [AveragesLast, run_freq hc h0, averageOf, length_rtake, ← hlength]
  exact mean_rtake_iff (by decide) (freqs l)

end FIAveraging

/-- The channels of both kinds report the mean of the last samples of the window, if and only if
there are no more of them or the one in front of the window makes no difference. -/
theorem averagesLast_iff {c : AIChannel} (hc : c.Starts) {l : List AIPoll}
    (hl : ∀ i ∈ l, AIChannel.InRange i) (h0 : l ≠ []) {d : FIAveraging} (hd : d.Starts)
    {m : List FIChannel} (hm : m ≠ []) :
    (c.AveragesLast l ↔ l.length ≤ AIChannel.maxAverage ∨
      NearQuotient AIChannel.maxAverage ((AIChannel.codes l).map UInt16.toNat)) ∧
    (d.AveragesLast m ↔ m.length ≤ FIAveraging.maxAverage ∨
      (FIAveraging.freqs m).getD (m.length - (FIAveraging.maxAverage + 1)) 0 =
        ((FIAveraging.freqs m).rtake FIAveraging.maxAverage).sum / FIAveraging.maxAverage) :=
  ⟨AIChannel.averagesLast_iff_near hc hl h0, FIAveraging.averagesLast_iff_mean hd hm⟩

/-- The polls of some codes within 4 and 20 mA. -/
def pollsOf (codes : List UInt16) : List AIPoll :=
  codes.map fun adc => ⟨AIMode.mA4to20, adc, false⟩

/-- The polls of some frequencies. -/
def freqsOf (freqs : List LREAL) : List FIChannel := freqs.map fun freq => ⟨freq, 0⟩

/-- A mean over the window of codes that is rounded down, and one of frequencies that are equal. -/
theorem averagesLast_iff_flat :
    AIChannel.AveragesLast { setup := 0x0020 } (pollsOf [20001, 20000, 20001, 20001]) ∧
      FIAveraging.AveragesLast ⟨⟨0, 0⟩, 0x0002, []⟩ (freqsOf [10, 10, 10, 10, 10, 10]) := by
  have h := averagesLast_iff (c := { setup := 0x0020 }) ⟨by decide, rfl⟩
    (l := pollsOf [20001, 20000, 20001, 20001]) (by decide) (by simp [pollsOf])
    (d := ⟨⟨0, 0⟩, 0x0002, []⟩) ⟨by decide, rfl⟩ (m := freqsOf [10, 10, 10, 10, 10, 10])
    (by simp [freqsOf])
  refine ⟨h.1.mpr (.inr (by decide)), h.2.mpr (.inr ?_)⟩
  decide +kernel

/-- A fourth code and a sixth frequency: the sample in front of the window is still part of the
mean. -/
theorem averagesLast_fails :
    (∀ i ∈ pollsOf [20400, 20000, 20000, 20000], AIChannel.InRange i) ∧
      ¬ AIChannel.AveragesLast { setup := 0x0020 } (pollsOf [20400, 20000, 20000, 20000]) ∧
      ¬ FIAveraging.AveragesLast ⟨⟨0, 0⟩, 0x0002, []⟩ (freqsOf [16, 10, 10, 10, 10, 10]) := by
  refine ⟨by decide, ?_, ?_⟩
  · rw [AIChannel.AveragesLast]
    decide +kernel
  · rw [FIAveraging.AveragesLast]
    decide +kernel

end Tritonn

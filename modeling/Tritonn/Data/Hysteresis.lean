import Tritonn.Data.Limit
import Tritonn.Lib.Latch

/-!
The hysteresis of the limits: a signal that moves by no more than it does not make the status
oscillate.

* `Into` says that a value lies beyond the limit of a status, and `rank` orders the statuses by the
  branch that is asked first;
* `latch` says that, for values of an interval no longer than the hysteresis, a status that was
  entered beyond its limit is left for one that is asked before it only, and that one that was left
  for another reason is not entered again;
* `status_not_return` says that in no run with such values the status returns to one that it has
  left.
-/

namespace Tritonn

/-- The place of a status among the branches of `calculate`, the one asked first having the highest
rank. -/
def LimitStatus.rank : LimitStatus → ℕ
  | .hihi => 5
  | .lolo => 4
  | .hi => 3
  | .lo => 2
  | .normal => 1
  | .isnan | .undef => 0

namespace LimitSettings

variable {c : LimitSettings} {a v w : LREAL} {s old : LimitStatus}

/-- A value that lies beyond the limit of a status, which is switched on. -/
def Into (c : LimitSettings) (s : LimitStatus) (v : LREAL) : Prop :=
  match s with
  | .hihi => c.has Limit.setupHihi = true ∧ c.hihi < v
  | .lolo => c.has Limit.setupLolo = true ∧ v < c.lolo
  | .hi => c.has Limit.setupHi = true ∧ c.hi < v
  | .lo => c.has Limit.setupLo = true ∧ v < c.lo
  | .normal => True
  | .isnan | .undef => False

/-- The value lies in an interval as long as the hysteresis. -/
def Near (c : LimitSettings) (a v : LREAL) : Prop := a ≤ v ∧ v ≤ a + c.hysteresis

lemma exceeds_iff {flag : UInt16} {lim : LREAL} :
    c.exceeds flag lim s old v = true ↔
      c.has flag = true ∧ (lim < v ∨ lim - c.hysteresis < v ∧ old = s) := by
  simp [exceeds]

lemma undercuts_iff {flag : UInt16} {lim : LREAL} :
    c.undercuts flag lim s old v = true ↔
      c.has flag = true ∧ (v < lim ∨ v < lim + c.hysteresis ∧ old = s) := by
  simp [undercuts]

/-- What is above an upper limit holds it for all values nearby. -/
lemma exceeds_of_near {flag : UInt16} {lim : LREAL} (hflag : c.has flag = true) (hv : lim < v)
    (hav : c.Near a v) (haw : c.Near a w) : c.exceeds flag lim s s w = true :=
  exceeds_iff.mpr ⟨hflag, .inr ⟨by linarith [hav.2, haw.1], rfl⟩⟩

lemma undercuts_of_near {flag : UInt16} {lim : LREAL} (hflag : c.has flag = true) (hv : v < lim)
    (hav : c.Near a v) (haw : c.Near a w) : c.undercuts flag lim s s w = true :=
  undercuts_iff.mpr ⟨hflag, .inr ⟨by linarith [hav.1, haw.2], rfl⟩⟩

/-- A status that is entered was crossed into. -/
lemma into_statusOf (hne : c.statusOf s v ≠ s) : c.Into (c.statusOf s v) v := by
  rw [statusOf] at hne ⊢
  split_ifs at hne ⊢ with hhihi hlolo hhi hlo
  · exact ⟨(exceeds_iff.mp hhihi).1, lt_of_exceeds hhihi hne.symm⟩
  · exact ⟨(undercuts_iff.mp hlolo).1, lt_of_undercuts hlolo hne.symm⟩
  · exact ⟨(exceeds_iff.mp hhi).1, lt_of_exceeds hhi hne.symm⟩
  · exact ⟨(undercuts_iff.mp hlo).1, lt_of_undercuts hlo hne.symm⟩
  · trivial

/-- Behind its own limit a status is left for one that is asked before it only. -/
lemma statusOf_of_into (hs : c.Into s v) (hv : c.Near a v) (hw : c.Near a w) :
    c.statusOf s w = s ∨ s.rank < (c.statusOf s w).rank := by
  rw [statusOf]
  cases s with
  | undef => exact hs.elim
  | isnan => exact hs.elim
  | hihi => rw [if_pos (exceeds_of_near hs.1 hs.2 hv hw)]; exact .inl rfl
  | lolo =>
      rw [if_pos (undercuts_of_near hs.1 hs.2 hv hw)]
      split_ifs <;> simp [LimitStatus.rank]
  | hi =>
      rw [if_pos (exceeds_of_near hs.1 hs.2 hv hw)]
      split_ifs <;> simp [LimitStatus.rank]
  | lo =>
      rw [if_pos (undercuts_of_near hs.1 hs.2 hv hw)]
      split_ifs <;> simp [LimitStatus.rank]
  | normal => split_ifs <;> simp [LimitStatus.rank]

/-- A status that is left for one that is asked behind it is not crossed into by a value nearby. -/
lemma not_into_of_left (hv : c.Near a v) (hw : c.Near a w) (hne : c.statusOf s v ≠ s) :
    s.rank < (c.statusOf s v).rank ∨ ¬ c.Into s w := by
  rw [statusOf] at hne ⊢
  cases s with
  | undef => exact .inr id
  | isnan => exact .inr id
  | hihi =>
      refine .inr fun hinto => hne ?_
      rw [if_pos (exceeds_of_near hinto.1 hinto.2 hw hv)]
  | lolo =>
      by_cases hinto : c.Into .lolo w
      · rw [if_pos (undercuts_of_near hinto.1 hinto.2 hw hv)] at hne ⊢
        split_ifs at hne ⊢ <;> simp [LimitStatus.rank] at hne ⊢
      · exact .inr hinto
  | hi =>
      by_cases hinto : c.Into .hi w
      · rw [if_pos (exceeds_of_near hinto.1 hinto.2 hw hv)] at hne ⊢
        split_ifs at hne ⊢ <;> simp [LimitStatus.rank] at hne ⊢
      · exact .inr hinto
  | lo =>
      by_cases hinto : c.Into .lo w
      · rw [if_pos (undercuts_of_near hinto.1 hinto.2 hw hv)] at hne ⊢
        split_ifs at hne ⊢ <;> simp [LimitStatus.rank] at hne ⊢
      · exact .inr hinto
  | normal =>
      left
      split_ifs at hne ⊢ <;> simp [LimitStatus.rank] at hne ⊢

end LimitSettings

namespace Limit

variable {c : LimitSettings} {a : LREAL}

/-- A cycle with the setup `c` and a number nearby. -/
def Steady (c : LimitSettings) (a : LREAL) (i : LimitInput) : Prop :=
  i.set = c ∧ ∃ v, i.val = some v ∧ c.Near a v

/-- Among the values nearby, the statuses of the limits form a latch. -/
theorem latch (c : LimitSettings) (a : LREAL) :
    Latch (fun s i => c.nextStatus s i.val i.check) (Steady c a)
      (fun s i => ∃ v, i.val = some v ∧ c.Into s v) LimitStatus.rank where
  enter s i hi hne := by
    obtain ⟨-, v, hv, -⟩ := hi
    rw [hv, LimitSettings.nextStatus] at hne ⊢
    cases hc : i.check <;> rw [hc] at hne
    · exact absurd rfl hne
    · exact ⟨v, rfl, LimitSettings.into_statusOf hne⟩
  hold s i j hs hi hj := by
    obtain ⟨-, w, hw, hnear⟩ := hj
    obtain ⟨v, hv, hinto⟩ := hs
    obtain ⟨-, v', hv', hnear'⟩ := hi
    cases hv.symm.trans hv'
    rw [hw, LimitSettings.nextStatus]
    cases j.check
    · exact .inl rfl
    · exact LimitSettings.statusOf_of_into hinto hnear' hnear
  exit s i j hi hj hne := by
    obtain ⟨-, v, hv, hnear⟩ := hi
    obtain ⟨-, w, hw, hnear'⟩ := hj
    rw [hv, LimitSettings.nextStatus] at hne ⊢
    cases hc : i.check <;> rw [hc] at hne
    · exact absurd rfl hne
    · refine (LimitSettings.not_into_of_left hnear hnear' hne).imp id fun hnot => ?_
      rintro ⟨w', hw', hinto⟩
      cases hw.symm.trans hw'
      exact hnot hinto

/-- With a fixed setup the statuses of a run are those of the latch. -/
lemma foldl_status (l : Limit) {inputs : List LimitInput} (hc : c.IsOn)
    (h : ∀ i ∈ inputs, Steady c a i) :
    (inputs.foldl step l).status =
      inputs.foldl (fun s i => c.nextStatus s i.val i.check) l.status := by
  induction inputs generalizing l with
  | nil => rfl
  | cons i inputs ih =>
      have hset : i.set = c := (h i List.mem_cons_self).1
      rw [List.foldl_cons, List.foldl_cons, ih _ fun j hj => h j (List.mem_cons_of_mem i hj),
        step_status (by rwa [hset]), hset]

/-- The status does not oscillate: in every run with a fixed setup that is not `OFF`, from any
status, over numbers that lie in an interval as long as the hysteresis, a status that was left does
not come back. -/
theorem status_not_return (l : Limit) (c : LimitSettings) (hc : c.IsOn) (a : LREAL)
    (inputs : List LimitInput) (h : ∀ i ∈ inputs, Steady c a i) {pre mid post : List LimitInput}
    (hpre : pre <+: mid) (hmid : mid <+: post) (hpost : post <+: inputs)
    (heq : (pre.foldl step l).status = (post.foldl step l).status) :
    (mid.foldl step l).status = (pre.foldl step l).status := by
  have hsteady {m : List LimitInput} (hm : m <+: inputs) : ∀ i ∈ m, Steady c a i :=
    fun i hi => h i (hm.subset hi)
  have hmid' := hmid.trans hpost
  have hpre' := hpre.trans hmid'
  rw [foldl_status l hc (hsteady hpre'), foldl_status l hc (hsteady hpost)] at heq
  rw [foldl_status l hc (hsteady hmid'), foldl_status l hc (hsteady hpre')]
  exact (latch c a).not_return h hpre hmid hpost heq

/-- Two upper limits closer together than the hysteresis. -/
def closeLimits : LimitSettings := ⟨1, 2, 7, 8, 4, 0x001E⟩

/-- A signal that moves around both of them. -/
def wobble : List LimitInput :=
  [6, 9, 15 / 2, 17 / 2, 6].map fun v => { set := closeLimits, val := some v }

lemma steady_wobble : ∀ i ∈ wobble, Steady closeLimits 6 i := by
  simp only [wobble, List.mem_map, forall_exists_index, and_imp, forall_apply_eq_imp_iff₂]
  intro v hv
  refine ⟨rfl, v, rfl, ?_⟩
  fin_cases hv <;> constructor <;> norm_num [closeLimits]

theorem status_not_return_wobble :
    ((wobble.take 4).foldl step {}).status = ((wobble.take 2).foldl step {}).status :=
  status_not_return {} closeLimits (by decide) 6 wobble steady_wobble
    (List.take_prefix_take_left (by decide : 2 ≤ 4)) (List.take_prefix 4 wobble) List.prefix_rfl
    (by decide +kernel)

end Limit

end Tritonn

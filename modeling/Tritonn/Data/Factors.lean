import Tritonn.Data.Stream

/-!
The factors of a metering line in its configuration, in `rStream::loadFromXML`.

The vector of points has `MAXPOINTS` elements.  The loop over the point elements writes element
`count` and tests `count > MAXPOINTS` before, so that a thirteenth element is written behind it;
the model lists what is written.

* `loadPoints` is the loop, `loadFactors` the part of the function around it;
* `past_iff` and `loadPoints_eq_ok_iff` say when the loop writes behind the vector, and when it
  comes to its end;
* `bounded_iff`: the loop is bounded if and only if there are at most twelve elements, or one of the
  first twelve cannot be read;
* `loadFactors_point`: the table that is loaded from at most twelve elements.
-/

namespace Tritonn

/-- `rFlowFactor::MAXPOINTS`. -/
def maxPoints : ℕ := 12

/-- The error codes `DATACFGERR_STREAM_...` of the factors. -/
inductive StreamCfgErrorCode where
  | streamToManyPoints
  | streamFactors
  deriving DecidableEq

/-- `rError`: the code, the line of the configuration and the text. -/
structure StreamCfgError where
  code : StreamCfgErrorCode
  line : ℤ
  text : String
  deriving DecidableEq

/-- A point element: its line and the texts of its two children, none for one that is missing or
not a number. -/
structure PointElement where
  line : ℤ
  hertz : Option LREAL
  kf : Option LREAL

namespace PointElement

/-- Both children can be read. -/
def isValid (e : PointElement) : Bool := e.hertz.isSome && e.kf.isSome

/-- What `XmlUtils::getTextLREAL` reads, with its default. -/
def point (e : PointElement) : FactorPoint := ⟨e.hertz.getD 0, e.kf.getD 0⟩

end PointElement

/-- The factors element: its line, its keypad factors, and the points with the line of theirs. -/
structure FactorsElement where
  line : ℤ
  keypadKF : Option LREAL
  keypadMF : Option LREAL
  points : Option (ℤ × List PointElement)

/-- A write to the element `index` of `m_point`, which gets it as its `m_id`, too. -/
structure PointWrite where
  index : ℕ
  point : FactorPoint

namespace Stream

/-- The loop over the point elements, from `count` on: what it writes, and how it ends. -/
def loadPoints (line : ℤ) (count : ℕ) :
    List PointElement → List PointWrite × Except StreamCfgError Unit
  | [] => ([], .ok ())
  | e :: es =>
      if maxPoints < count then ([], .error ⟨.streamToManyPoints, line, ""⟩)
      else if e.isValid then
        let rest := loadPoints line (count + 1) es
        (⟨count, e.point⟩ :: rest.1, rest.2)
      else ([⟨count, e.point⟩], .error ⟨.streamFactors, e.line, "fault load point"⟩)

/-- The writes within the vector. -/
def writePoints (point : Fin maxPoints → FactorPoint) (written : List PointWrite) :
    Fin maxPoints → FactorPoint :=
  written.foldl
    (fun f w => if h : w.index < maxPoints then Function.update f ⟨w.index, h⟩ w.point else f) point

/-- The factors in `rStream::loadFromXML`: the writes to the points, and the stream. -/
def loadFactors (s : Stream) (x : FactorsElement) :
    List PointWrite × Except StreamCfgError Stream :=
  if x.keypadKF.isNone || x.keypadMF.isNone then
    ([], .error ⟨.streamFactors, x.line, "fault load keypad factors"⟩)
  else
    let points := x.points.getD (0, [])
    let loaded := loadPoints points.1 0 points.2
    let factor : FlowFactor :=
      ⟨x.keypadKF.getD 0, x.keypadMF.getD 0, writePoints s.setFactor.point loaded.1⟩
    (loaded.1, loaded.2.map fun _ => { s with setFactor := factor, curFactor := factor })

/-- The loop writes to the vector only, accepts the configurations of at most twelve valid points,
and rejects the others. -/
structure Bounded (line : ℤ) (es : List PointElement) : Prop where
  within : ∀ w ∈ (loadPoints line 0 es).1, w.index < maxPoints
  accepts : (loadPoints line 0 es).2 = .ok () ↔ es.length ≤ maxPoints ∧ ∀ e ∈ es, e.isValid = true

/-! ### The loop -/

section Loop

variable {line : ℤ} {count : ℕ} {e : PointElement} {es : List PointElement}

lemma loadPoints_of_lt (h : maxPoints < count) :
    loadPoints line count (e :: es) = ([], .error ⟨.streamToManyPoints, line, ""⟩) := by
  rw [loadPoints, if_pos h]

lemma loadPoints_of_valid (h : count ≤ maxPoints) (he : e.isValid = true) :
    loadPoints line count (e :: es)
      = (⟨count, e.point⟩ :: (loadPoints line (count + 1) es).1,
          (loadPoints line (count + 1) es).2) := by
  rw [loadPoints, if_neg (not_lt.mpr h), if_pos he]

lemma loadPoints_of_invalid (h : count ≤ maxPoints) (he : e.isValid = false) :
    loadPoints line count (e :: es)
      = ([⟨count, e.point⟩], .error ⟨.streamFactors, e.line, "fault load point"⟩) := by
  rw [loadPoints, if_neg (not_lt.mpr h), if_neg (by simp [he])]

/-- The loop writes behind the vector when it gets to a thirteenth element. -/
lemma past_iff (h : count ≤ maxPoints) :
    (∃ w ∈ (loadPoints line count es).1, maxPoints ≤ w.index) ↔
      maxPoints - count < es.length ∧ ∀ e ∈ es.take (maxPoints - count), e.isValid = true := by
  induction es generalizing count with
  | nil => simp [loadPoints]
  | cons e es ih =>
      rcases h.eq_or_lt with rfl | hlt
      · have hwrite : ∃ w ∈ (loadPoints line maxPoints (e :: es)).1, maxPoints ≤ w.index := by
          cases he : e.isValid with
          | true =>
              rw [loadPoints_of_valid le_rfl he]
              exact ⟨_, List.mem_cons_self, le_rfl⟩
          | false =>
              rw [loadPoints_of_invalid le_rfl he]
              exact ⟨_, List.mem_cons_self, le_rfl⟩
        exact iff_of_true hwrite (by simp)
      · obtain ⟨k, hk⟩ : ∃ k, maxPoints - count = k + 1 := ⟨maxPoints - count - 1, by omega⟩
        have hk' : maxPoints - (count + 1) = k := by omega
        rw [hk, List.length_cons, List.take_succ_cons, List.forall_mem_cons]
        cases he : e.isValid with
        | true =>
            rw [loadPoints_of_valid h he, List.exists_mem_cons_iff,
              or_iff_right (not_le.mpr hlt), ih hlt, hk']
            simp
        | false =>
            rw [loadPoints_of_invalid h he]
            simp [hlt]

/-- The loop comes to its end over at most thirteen elements that can all be read. -/
lemma loadPoints_eq_ok_iff (h : count ≤ maxPoints + 1) :
    (loadPoints line count es).2 = .ok () ↔
      count + es.length ≤ maxPoints + 1 ∧ ∀ e ∈ es, e.isValid = true := by
  induction es generalizing count with
  | nil => simpa [loadPoints] using h
  | cons e es ih =>
      rw [List.length_cons, List.forall_mem_cons]
      rcases h.eq_or_lt with rfl | hlt
      · rw [loadPoints_of_lt (Nat.lt_succ_self _)]
        exact iff_of_false nofun fun hle => by omega
      · have hle : count ≤ maxPoints := Nat.le_of_lt_succ hlt
        cases he : e.isValid with
        | true =>
            rw [loadPoints_of_valid hle he, ih hlt, Nat.succ_add_eq_add_succ]
            simp
        | false =>
            rw [loadPoints_of_invalid hle he]
            exact iff_of_false nofun fun hv => absurd hv.2.1 (by decide)

end Loop

/-- The loop over the points is bounded if and only if there are at most twelve of them, or one of
the first twelve cannot be read. -/
theorem bounded_iff (line : ℤ) (es : List PointElement) :
    Bounded line es ↔ es.length ≤ maxPoints ∨ ∃ e ∈ es.take maxPoints, e.isValid = false := by
  have hpast : (∃ w ∈ (loadPoints line 0 es).1, maxPoints ≤ w.index) ↔
      maxPoints < es.length ∧ ∀ e ∈ es.take maxPoints, e.isValid = true :=
    past_iff (Nat.zero_le maxPoints)
  have hok : (loadPoints line 0 es).2 = .ok () ↔
      0 + es.length ≤ maxPoints + 1 ∧ ∀ e ∈ es, e.isValid = true :=
    loadPoints_eq_ok_iff (Nat.zero_le (maxPoints + 1))
  rw [Nat.zero_add] at hok
  constructor
  · intro h
    by_contra hnot
    obtain ⟨hlen, hvalid⟩ := not_or.mp hnot
    obtain ⟨w, hw, hle⟩ := hpast.mpr ⟨not_le.mp hlen, fun e he => by
      by_contra hinv
      exact hvalid ⟨e, he, Bool.not_eq_true _ ▸ hinv⟩⟩
    exact absurd (h.within w hw) (not_lt.mpr hle)
  · rintro (hlen | ⟨e, he, hinv⟩)
    · refine ⟨fun w hw => ?_, ?_⟩
      · by_contra hge
        exact absurd (hpast.mp ⟨w, hw, not_lt.mp hge⟩).1 (not_lt.mpr hlen)
      · rw [hok]
        exact and_congr_left fun _ => ⟨fun _ => hlen, fun _ => Nat.le_succ_of_le hlen⟩
    · refine ⟨fun w hw => ?_, ?_⟩
      · by_contra hge
        have hv := (hpast.mp ⟨w, hw, not_lt.mp hge⟩).2 e he
        exact absurd (hv.symm.trans hinv) (by decide)
      · have hmem : e ∈ es := List.mem_of_mem_take he
        rw [hok]
        exact iff_of_false (fun h => absurd ((h.2 e hmem).symm.trans hinv) (by decide))
          fun h => absurd ((h.2 e hmem).symm.trans hinv) (by decide)

/-- Thirteen points that can be read are accepted, and the last one is written behind the
vector. -/
theorem bounded_fails :
    (loadPoints 0 0 (List.replicate 13 ⟨0, some 1, some 1⟩)).2 = .ok () ∧
      ¬ Bounded 0 (List.replicate 13 ⟨0, some 1, some 1⟩) := by
  have hvalid : ∀ e ∈ List.replicate 13 (⟨0, some 1, some 1⟩ : PointElement),
      e.isValid = true := fun e he => by
    rw [List.eq_of_mem_replicate he]
    rfl
  refine ⟨(loadPoints_eq_ok_iff (Nat.zero_le _)).mpr ⟨by decide, hvalid⟩, fun h => ?_⟩
  obtain ⟨w, hw, hle⟩ := (past_iff (Nat.zero_le maxPoints)).mpr
    ⟨by decide, fun e he => hvalid e (List.mem_of_mem_take he)⟩
  exact absurd (h.within w hw) (not_lt.mpr hle)

/-! ### The table -/

lemma writePoints_cons (f : Fin maxPoints → FactorPoint) (w : PointWrite) (l : List PointWrite)
    (h : w.index < maxPoints) :
    writePoints f (w :: l) = writePoints (Function.update f ⟨w.index, h⟩ w.point) l := by
  rw [writePoints, List.foldl_cons, dif_pos h, writePoints]

/-- The elements from `count` on are the ones read, the others stay. -/
lemma writePoints_loadPoints (line : ℤ) {es : List PointElement} {count : ℕ}
    (hlen : count + es.length ≤ maxPoints) (hvalid : ∀ e ∈ es, e.isValid = true)
    (f : Fin maxPoints → FactorPoint) (i : Fin maxPoints) :
    writePoints f (loadPoints line count es).1 i
      = if count ≤ i then ((es.map PointElement.point)[i - count]?).getD (f i) else f i := by
  induction es generalizing count f with
  | nil => simp [loadPoints, writePoints]
  | cons e es ih =>
      rw [List.length_cons] at hlen
      obtain ⟨he, hes⟩ := List.forall_mem_cons.mp hvalid
      have hcount : count < maxPoints := by omega
      rw [loadPoints_of_valid hcount.le he, writePoints_cons _ _ _ hcount, ih (by omega) hes]
      rcases lt_trichotomy i.val count with hi | hi | hi
      · have hne : i ≠ ⟨count, hcount⟩ := Fin.ne_of_lt hi
        rw [if_neg (by omega), if_neg (by omega), Function.update_of_ne hne]
      · obtain rfl : i = ⟨count, hcount⟩ := Fin.ext hi
        rw [if_neg (by simp), if_pos le_rfl, Function.update_self, Nat.sub_self]
        rfl
      · have hne : i ≠ ⟨count, hcount⟩ := (Fin.ne_of_lt hi).symm
        have hsub : i.val - count = i.val - (count + 1) + 1 := by omega
        rw [if_pos (by omega), if_pos (by omega), Function.update_of_ne hne, hsub, List.map_cons,
          List.getElem?_cons_succ]

/-- A configuration with at most twelve valid points gives both tables its points, in order. -/
theorem loadFactors_point (s : Stream) {line line' : ℤ} {kf mf : LREAL} {es : List PointElement}
    (hlen : es.length ≤ maxPoints) (hvalid : ∀ e ∈ es, e.isValid = true) :
    ∃ s', (s.loadFactors ⟨line, some kf, some mf, some (line', es)⟩).2 = .ok s' ∧
      s'.curFactor = s'.setFactor ∧ s'.setFactor.keypadKF = kf ∧ s'.setFactor.keypadMF = mf ∧
      ∀ i, s'.setFactor.point i
        = ((es.map PointElement.point)[i.val]?).getD (s.setFactor.point i) := by
  have hok : (loadPoints line' 0 es).2 = .ok () :=
    (loadPoints_eq_ok_iff (Nat.zero_le _)).mpr ⟨by omega, hvalid⟩
  have hload : (s.loadFactors ⟨line, some kf, some mf, some (line', es)⟩).2
      = (loadPoints line' 0 es).2.map fun _ =>
          { s with
            setFactor := ⟨kf, mf, writePoints s.setFactor.point (loadPoints line' 0 es).1⟩,
            curFactor := ⟨kf, mf, writePoints s.setFactor.point (loadPoints line' 0 es).1⟩ } := rfl
  refine ⟨_, hload.trans (by rw [hok]; rfl), rfl, rfl, rfl, fun i => ?_⟩
  have hwritten := writePoints_loadPoints line' (by omega : 0 + es.length ≤ maxPoints) hvalid
    s.setFactor.point i
  rwa [if_pos (Nat.zero_le _), Nat.sub_zero] at hwritten

end Stream

end Tritonn

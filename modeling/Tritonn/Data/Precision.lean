import Tritonn.Data.Dump
import Tritonn.Lib.Updates

/-!
The display precisions: `rPrecision` of `src/tritonn/precision.cpp`, with what it uses of
`src/xml/xml_util.cpp`, and `Round` of `src/shared/common.cpp`.

* `Precision.load` is one load of the table from an element; `Precision.loads` are any number of
  them, from the table of the constructor;
* `Precision.configured` reads the precision of a unit off the elements, and `Precision.get_loads`
  says that it is what `get` returns;
* `Rounds` is the property of a value and a precision, and `rounds_iff` says for which tables
  and values it holds;
* `rounds_fails` is a unit with six digits.
-/

namespace Tritonn

open Updates (updates written)

/-- What the loading uses of the libraries: `strtoul` and `QueryIntText`. -/
structure XmlNumbers where
  strtoul : String → UInt64
  toInt : String → Option UInt32

namespace XmlElement

variable (xml : XmlNumbers)

/-- The children that `XML_FOR` goes through. -/
def childElements : XmlElement → String → List XmlElement
  | node _ _ _ children, key => children.filter fun e => e.name = key

/-- `XmlUtils::getAttributeUDINT`. -/
def getAttributeUDINT (e : XmlElement) (name : String) (d : UInt32) : UInt32 :=
  (e.getAttribute name).elim d fun s => (xml.strtoul s).toUInt32

/-- `XmlUtils::getAttributeUSINT`. -/
def getAttributeUSINT (e : XmlElement) (name : String) (d : UInt8) : UInt8 :=
  (getAttributeUDINT xml e name d.toUInt32).toUInt8

/-- `XmlUtils::getTextUDINT` and `XmlUtils::getTextUSINT`; `none` is `err`. -/
def getTextUSINT (e : XmlElement) : Option UInt8 :=
  match e.getText.bind xml.toInt with
  | none => none
  | some value => if 0xFF < value then none else some value.toUInt8

end XmlElement

/-- `DATACFGERR_PREC_ID`. -/
def precIdError : UInt32 := 600

namespace Precision

variable (xml : XmlNumbers)

/-- `rPrecision::reset`. -/
def reset (d : UInt8) : Precision := ⟨fun _ => d, d⟩

/-- The loop of `rPrecision::load`, with the code that is returned. -/
def loadUnits (p : Precision) : List XmlElement → Precision × UInt32
  | [] => (p, 0)
  | e :: elements =>
      let id := XmlElement.getAttributeUDINT xml e "id" 512
      match XmlElement.getTextUSINT xml e with
      | none => (p, precIdError)
      | some val =>
          if h : id.toNat < 512 then
            loadUnits { p with unitPrec := Function.update p.unitPrec ⟨id.toNat, h⟩ val } elements
          else (p, precIdError)

/-- `rPrecision::load`. -/
def load (p : Precision) : Option XmlElement → Precision × UInt32
  | none => (p, 0)
  | some element =>
      loadUnits xml
        { p with defPrec := XmlElement.getAttributeUSINT xml element "default" p.defPrec }
        (element.childElements "unit")

/-- The constructor, and any number of loads after it. -/
def loads (elements : List (Option XmlElement)) : Precision :=
  elements.foldl (fun p element => (p.load xml element).1) (reset 5)

/-! ### The table by the elements -/

/-- What an element writes, unless it ends the loading. -/
def entry (e : XmlElement) : Option (Fin 512 × UInt8) :=
  match XmlElement.getTextUSINT xml e with
  | none => none
  | some val =>
      if h : (XmlElement.getAttributeUDINT xml e "id" 512).toNat < 512 then some (⟨_, h⟩, val)
      else none

/-- What the elements before the first faulty one write. -/
def entries : List XmlElement → List (Fin 512 × UInt8)
  | [] => []
  | e :: elements =>
      match entry xml e with
      | none => []
      | some w => w :: entries elements

/-- What a load writes. -/
def writes (element : Option XmlElement) : List (Fin 512 × UInt8) :=
  element.elim [] fun e => entries xml (e.childElements "unit")

/-- The default that a load finds. -/
def foundDefault (element : Option XmlElement) : Option UInt8 :=
  (element.bind fun e => e.getAttribute "default").map fun s => (xml.strtoul s).toUInt32.toUInt8

/-- The precision of a unit: the last one that was written for it, or the last default for a unit
behind the table, and five where there is none. -/
def configured (elements : List (Option XmlElement)) (unit : UInt32) : UInt8 :=
  if h : unit.toNat < 512 then
    (written (elements.flatMap (writes xml)) ⟨unit.toNat, h⟩).getLast?.getD 5
  else (elements.filterMap (foundDefault xml)).getLast?.getD 5

variable {xml}

lemma loadUnits_eq (p : Precision) (elements : List XmlElement) :
    (loadUnits xml p elements).1 =
      { p with unitPrec := updates p.unitPrec (entries xml elements) } := by
  induction elements generalizing p with
  | nil => rfl
  | cons e elements ih =>
      rw [loadUnits, entries, entry]
      cases htext : XmlElement.getTextUSINT xml e with
      | none => rfl
      | some val =>
          by_cases h : (XmlElement.getAttributeUDINT xml e "id" 512).toNat < 512
          · simp only [dif_pos h]
            rw [ih]
            rfl
          · simp only [dif_neg h]
            rfl

/-- One load. -/
lemma load_eq (p : Precision) (element : Option XmlElement) :
    (p.load xml element).1 =
      ⟨updates p.unitPrec (writes xml element), (foundDefault xml element).getD p.defPrec⟩ := by
  cases element with
  | none => rfl
  | some e =>
      rw [load, loadUnits_eq]
      simp only [writes, foundDefault, XmlElement.getAttributeUSINT, XmlElement.getAttributeUDINT,
        Option.elim_some, Option.bind_some]
      cases e.getAttribute "default" with
      | none => simp
      | some s => rfl

/-- Any number of loads. -/
lemma loads_eq (p : Precision) (elements : List (Option XmlElement)) :
    elements.foldl (fun p element => (p.load xml element).1) p =
      ⟨updates p.unitPrec (elements.flatMap (writes xml)),
        (elements.filterMap (foundDefault xml)).getLast?.getD p.defPrec⟩ := by
  induction elements generalizing p with
  | nil => rfl
  | cons element elements ih =>
      rw [List.foldl_cons, ih, load_eq, List.flatMap_cons, updates, updates, updates,
        ← List.foldl_append]
      cases hdefault : foundDefault xml element with
      | none => rw [List.filterMap_cons_none hdefault, Option.getD_none]
      | some d =>
          rw [List.filterMap_cons_some hdefault, List.getLast?_cons]
          rfl

/-- The table holds what the elements say. -/
theorem get_loads (elements : List (Option XmlElement)) (unit : UInt32) :
    (loads xml elements).get unit = configured xml elements unit := by
  rw [loads, loads_eq, get, configured]
  by_cases h : unit.toNat < 512
  · rw [dif_pos h, dif_pos h]
    exact Updates.updates_apply _ _ _
  · rw [dif_neg h, dif_neg h]
    rfl

end Precision

/-! ### Rounding -/

/-- The table is read within its bounds, and the result is a multiple of the last digit that
differs from the value by half of it at most. -/
def Rounds (env : Env) (val : LREAL) (prec : UInt8) : Prop :=
  (val ≠ 0 → mulIndex prec < mul.length) ∧
    (∃ k : ℤ, round env val prec = k / 10 ^ prec.toNat) ∧
    |round env val prec - val| ≤ 1 / 10 ^ prec.toNat / 2

/-- The number that is rounded to, before the division. -/
def nearest (y : LREAL) : ℤ := if y < 0 then ⌈y - 1 / 2⌉ else ⌊y + 1 / 2⌋

lemma abs_nearest_sub (y : LREAL) : |(nearest y : LREAL) - y| ≤ 1 / 2 := by
  have hfloor : ∀ z : LREAL, |(⌊z + 1 / 2⌋ : LREAL) - z| ≤ 1 / 2 := by
    intro z
    have h := abs_sub_round z
    rwa [round_eq, abs_sub_comm] at h
  rw [nearest]
  split_ifs
  · have h := hfloor (-y)
    have hneg : -y + 1 / 2 = -(y - 1 / 2) := by ring
    rw [hneg, Int.floor_neg, Int.cast_neg, ← abs_neg] at h
    rwa [neg_sub, sub_neg_eq_add, neg_add_eq_sub] at h
  · exact hfloor y

lemma mulIndex_lt_iff (prec : UInt8) : mulIndex prec < mul.length ↔ prec ≤ 5 := by
  have hlength : mul.length = 6 := rfl
  have h5 : prec ≤ 5 ↔ prec.toNat ≤ 5 := UInt8.le_iff_toNat_le
  have h6 : 6 < prec ↔ 6 < prec.toNat := UInt8.lt_iff_toNat_lt
  rw [hlength, mulIndex, h5]
  split_ifs with h
  · rw [h6] at h
    omega
  · rw [h6] at h
    omega

lemma mul_getD {prec : UInt8} (h : prec ≤ 5) (d : LREAL) :
    mul.getD (mulIndex prec) d = 10 ^ prec.toNat := by
  have h5 : prec.toNat ≤ 5 := UInt8.le_iff_toNat_le.mp h
  have h6 : 6 < prec ↔ 6 < prec.toNat := UInt8.lt_iff_toNat_lt
  rw [mulIndex, if_neg (by rw [h6]; omega)]
  generalize prec.toNat = k at h5
  interval_cases k
  all_goals norm_num [mul]

/-- Up to five digits the number in front of the division is the nearest one. -/
lemma round_eq_nearest {prec : UInt8} (h : prec ≤ 5) (env : Env) (val : LREAL) :
    round env val prec = nearest (val * 10 ^ prec.toNat) / 10 ^ prec.toNat := by
  have hpos : (0 : LREAL) < 10 ^ prec.toNat := by positivity
  have hsign : val * 10 ^ prec.toNat < 0 ↔ val < 0 :=
    ⟨fun hlt => not_le.mp fun hle => absurd hlt (not_lt.mpr (mul_nonneg hle hpos.le)),
      fun hlt => mul_neg_of_neg_of_pos hlt hpos⟩
  rw [round, mul_getD h, nearest]
  by_cases h0 : val = 0
  · subst h0
    norm_num
  rw [if_neg h0]
  by_cases hneg : val < 0
  · rw [if_pos hneg, if_pos (hsign.mpr hneg)]
  · rw [if_neg hneg, if_neg (mt hsign.mp hneg)]

lemma rounds_of_le {prec : UInt8} (h : prec ≤ 5) (env : Env) (val : LREAL) :
    Rounds env val prec := by
  have hpos : (0 : LREAL) < 10 ^ prec.toNat := by positivity
  refine ⟨fun _ => (mulIndex_lt_iff prec).mpr h, ⟨_, round_eq_nearest h env val⟩, ?_⟩
  have hnear := abs_nearest_sub (val * 10 ^ prec.toNat)
  have hdiff : round env val prec - val =
      (nearest (val * 10 ^ prec.toNat) - val * 10 ^ prec.toNat) / 10 ^ prec.toNat := by
    rw [round_eq_nearest h, sub_div, mul_div_cancel_right₀ _ hpos.ne']
  calc |round env val prec - val|
      = |(nearest (val * 10 ^ prec.toNat) : LREAL) - val * 10 ^ prec.toNat| / 10 ^ prec.toNat := by
        rw [hdiff, abs_div, abs_of_pos hpos]
    _ ≤ 1 / 2 / 10 ^ prec.toNat := div_le_div_of_nonneg_right hnear hpos.le
    _ = 1 / 10 ^ prec.toNat / 2 := div_right_comm 1 2 _

lemma rounds_zero (env : Env) (prec : UInt8) : Rounds env 0 prec := by
  have hround : round env 0 prec = 0 := by rw [round, if_pos rfl]
  refine ⟨fun h => absurd rfl h, ⟨0, ?_⟩, ?_⟩
  · rw [hround, Int.cast_zero, zero_div]
  · rw [hround, sub_zero, abs_zero]
    positivity

/-- A value is rounded as it should if and only if it is zero or the table has at most five digits
for its unit. -/
theorem rounds_iff (xml : XmlNumbers) (mulEnd : LREAL) (elements : List (Option XmlElement))
    (unit : UInt32) (val : LREAL) :
    Rounds ⟨Precision.loads xml elements, mulEnd⟩ val
        ((Precision.loads xml elements).get unit) ↔
      val = 0 ∨ Precision.configured xml elements unit ≤ 5 := by
  rw [Precision.get_loads]
  constructor
  · rintro ⟨hbounds, -⟩
    by_cases h0 : val = 0
    · exact .inl h0
    · exact .inr ((mulIndex_lt_iff _).mp (hbounds h0))
  · rintro (rfl | h)
    · exact rounds_zero _ _
    · exact rounds_of_le h _ _

/-- A table with six digits for the unit `0`. -/
def sixDigitTable : XmlElement :=
  .node "precision" [] none [.node "unit" [("id", "0")] (some "6") []]

/-- Both numbers in it are read. -/
def sixNumbers : XmlNumbers where
  strtoul _ := 0
  toInt _ := some 6

/-- The entry behind the multipliers is read. -/
theorem rounds_fails : ¬ ∀ (xml : XmlNumbers) (mulEnd : LREAL)
    (elements : List (Option XmlElement)) (unit : UInt32) (val : LREAL),
    Rounds ⟨Precision.loads xml elements, mulEnd⟩ val
      ((Precision.loads xml elements).get unit) := by
  intro h
  have hbounds := (h sixNumbers 0 [some sixDigitTable] 0 1).1 one_ne_zero
  have hget : (Precision.loads sixNumbers [some sixDigitTable]).get 0 = 6 := by rfl
  rw [hget] at hbounds
  exact absurd hbounds (by decide)

end Tritonn

import Tritonn.Data.Dump
import Tritonn.Store.Printed

/-!
Totals that are loaded from a dump: `rTotal::toXml` and `rTotal::fromXml`.

* `TotalPart` is one of the four records of a total, and `Total.base` reads it;
* `Total.fromXmlResult` is what `fromXml` returns, `Total.fromXml` of `Data/Dump` what it leaves;
* `fixed15` is the format `%.15f`, and `DumpEnv.Exact` what is asked of the numbers of tinyxml2;
* `Total.element` is the element whose text `toXml` writes (`written_toXml`).

`load_iff` says when loading is all or nothing, and when it brings back what was written: each
record is replaced as soon as it is read, and a count is written without a sign and read with one.
-/

namespace Tritonn

/-- The four records of a total. -/
inductive TotalPart where
  | past
  | raw
  | inc
  | present
  deriving DecidableEq, Repr

/-- The element of a record. -/
def TotalPart.xmlName : TotalPart → String
  | .past => "past"
  | .raw => "raw"
  | .inc => "inc"
  | .present => "present"

/-! ### Fifteen digits behind the point -/

/-- `%.15f`. -/
def fixed15 (q : LREAL) : String :=
  let n := roundEven (|q| * 10 ^ 15)
  String.ofList (formatSign (q < 0) ++
    (formatDigits (Numeral.allDigits 10 (n / 10 ^ 15)) ++
      '.' :: formatDigits (Numeral.fixedDigits 10 15 (n % 10 ^ 15))))

/-- A decimal with at most fifteen digits behind the point. -/
def Decimal15 (q : LREAL) : Prop := ∃ k : ℤ, q * 10 ^ 15 = k

/-- What is asked of the conversions: the format of the standard library, a query for a number with
a point that reads what the text denotes, and one for an integer that reads the decimal numbers
below `2 ^ 31` and fails or saturates from there on. -/
structure DumpEnv.Exact (env : DumpEnv) : Prop where
  format15f : ∀ q, env.format15f q = fixed15 q
  toDouble : ∀ s x, denoted s = some (.fin x) → env.toDouble s = some x
  toInt : ∀ n < 2 ^ 31, env.toInt (toString n) = some (UInt32.ofNat n)
  toInt_large : ∀ n, 2 ^ 31 ≤ n → n < 2 ^ 32 →
    env.toInt (toString n) = none ∨ env.toInt (toString n) = some 0x7FFFFFFF

/-- A decimal is read as it was. -/
lemma denoted_fixed15 {q : LREAL} (h : Decimal15 q) : denoted (fixed15 q) = some (.fin q) := by
  obtain ⟨k, hk⟩ := h
  have habs : |q| * 10 ^ 15 = (k.natAbs : ℕ) := by
    rw [← abs_of_pos (show (0 : ℚ) < 10 ^ 15 by norm_num), ← abs_mul, hk, ← Int.cast_abs,
      Int.abs_eq_natAbs, Int.cast_natCast]
  have hround : roundEven (|q| * 10 ^ 15) = k.natAbs := by
    rw [habs, roundEven, Nat.floor_natCast, sub_self, if_pos (.inl (by norm_num))]
  have hall : ∀ d ∈ Numeral.allDigits 10 (k.natAbs / 10 ^ 15), d < 10 := fun _ =>
    Numeral.lt_of_mem_fixedDigits (by decide)
  have hfixed : ∀ d ∈ Numeral.fixedDigits 10 15 (k.natAbs % 10 ^ 15), d < 10 := fun _ =>
    Numeral.lt_of_mem_fixedDigits (by decide)
  have hne : Numeral.allDigits 10 (k.natAbs / 10 ^ 15) ≠ [] :=
    List.ne_nil_of_length_pos (by rw [Numeral.allDigits, Numeral.length_fixedDigits]; omega)
  have hread := readMagnitude_point (t := []) hall hne hfixed ⟨rfl, rfl⟩ (e := 0) rfl
  have hvalue : Numeral.value 10 (Numeral.allDigits 10 (k.natAbs / 10 ^ 15) ++
      Numeral.fixedDigits 10 15 (k.natAbs % 10 ^ 15)) = k.natAbs := by
    rw [Numeral.value, List.foldl_append, Numeral.foldl_value, ← Numeral.value,
      Numeral.value_allDigits (by decide), Numeral.value_fixedDigits, Numeral.length_fixedDigits,
      Nat.mod_mod]
    omega
  rw [List.append_nil, hvalue, Numeral.length_fixedDigits] at hread
  rw [fixed15, hround, denoted_sign hread, withSign]
  have hmag : (k.natAbs : ℚ) * 10 ^ (0 - ((15 : ℕ) : ℤ)) = |q| := by
    rw [← habs]
    norm_num
    ring
  rw [hmag]
  by_cases hq : q < 0
  · rw [if_pos (decide_eq_true hq), abs_of_neg hq, neg_neg]
  · rw [if_neg (by rw [decide_eq_true_iff]; exact hq), abs_of_nonneg (not_lt.mp hq)]

/-! ### The element of a total -/

/-- An element of which a text is what is written for it: a text in a tag, or elements in one. -/
inductive XmlElement.Written : XmlElement → String → Prop
  | text (name text : String) : Written (.node name [] (some text) []) (xmlTag name text)
  | children (name : String) {elements : List XmlElement} {texts : List String}
      (h : List.Forall₂ Written elements texts) :
      Written (.node name [] none elements) (xmlTag name (String.join texts))

namespace Total

variable (env : DumpEnv)

/-- A record of a total. -/
def base (t : Total) : TotalPart → BaseTotal
  | .past => t.past
  | .raw => t.raw
  | .inc => t.inc
  | .present => t.present

/-- The real fields of a total are decimals with at most fifteen digits behind the point. -/
def Decimal (t : Total) : Prop := ∀ p ch, Decimal15 ((t.base p).qty ch)

/-- The element of a quantity. -/
def quantityElement (total : BaseTotal) (ch : Channel) : XmlElement :=
  .node ch.xmlName [] (some (env.format15f (total.qty ch))) []

/-- The element that `toXmlBase` writes. -/
def baseElement (name : String) (total : BaseTotal) : XmlElement :=
  .node name [] none [quantityElement env total .mass, quantityElement env total .volume,
    quantityElement env total .volume15, quantityElement env total .volume20,
    .node "count" [] (some (toString total.count.toNat)) []]

/-- The element that `toXml` writes. -/
def element (t : Total) (name : String) : XmlElement :=
  .node name [] none [baseElement env "past" t.past, baseElement env "raw" t.raw,
    baseElement env "inc" t.inc, baseElement env "present" t.present]

lemma written_toXmlBase (name : String) (total : BaseTotal) :
    (baseElement env name total).Written (toXmlBase env name total) := by
  have h : (baseElement env name total).Written (xmlTag name (String.join _)) :=
    .children name (.cons (.text _ _) (.cons (.text _ _) (.cons (.text _ _)
      (.cons (.text _ _) (.cons (.text _ _) .nil)))))
  rw [toXmlBase]
  simpa only [String.join, List.foldl_cons, List.foldl_nil, String.empty_append,
    toXmlBase.quantity] using h

/-- `toXml` writes the text of the element. -/
theorem written_toXml (t : Total) (name : String) :
    (t.element env name).Written (t.toXml env name) := by
  have h : (t.element env name).Written (xmlTag name (String.join _)) :=
    .children name (.cons (written_toXmlBase env _ _) (.cons (written_toXmlBase env _ _)
      (.cons (written_toXmlBase env _ _) (.cons (written_toXmlBase env _ _) .nil))))
  rw [toXml]
  simpa only [String.join, List.foldl_cons, List.foldl_nil, String.empty_append] using h

/-! ### Loading -/

/-- What `fromXml` reads of a record. -/
def readPart (item : XmlElement) (p : TotalPart) : Option BaseTotal :=
  readXmlBase env (item.firstChildElement p.xmlName)

/-- What `rTotal::fromXml` returns: all four records could be read. -/
def fromXmlResult (root : XmlElement) (name : String) : Bool :=
  match root.firstChildElement name with
  | none => false
  | some item => (readPart env item .past).isSome && (readPart env item .raw).isSome &&
      (readPart env item .inc).isSome && (readPart env item .present).isSome

/-- Loading is all or nothing: it returns true and the records are those of the tree, or false and
they stay. -/
def LoadsAtomically (t : Total) (root : XmlElement) (name : String) : Prop :=
  (fromXmlResult env root name = true ∧ ∃ item, root.firstChildElement name = some item ∧
      ∀ p, readPart env item p = some ((fromXml env t root name).base p)) ∨
    (fromXmlResult env root name = false ∧ ∀ p, (fromXml env t root name).base p = t.base p)

/-- What was written is loaded into any total, from any tree that has it. -/
def Reloads (u : Total) (name : String) : Prop :=
  ∀ (t : Total) (root : XmlElement), root.firstChildElement name = some (u.element env name) →
    fromXmlResult env root name = true ∧ ∀ p, (fromXml env t root name).base p = u.base p

/-- The condition on a tree and the total before: there is no element of the total, or all four
records can be read, or those that can be read are already those of the total. -/
def Consistent (t : Total) (root : XmlElement) (name : String) : Prop :=
  ∀ item, root.firstChildElement name = some item →
    (∀ p, (readPart env item p).isSome) ∨ ∀ p b, readPart env item p = some b → b = t.base p

variable {env} {t u : Total} {root item : XmlElement} {name : String}

lemma fromXmlResult_none (h : root.firstChildElement name = none) :
    fromXmlResult env root name = false := by
  rw [fromXmlResult, h]

lemma fromXmlResult_iff (h : root.firstChildElement name = some item) :
    fromXmlResult env root name = true ↔ ∀ p, (readPart env item p).isSome := by
  rw [fromXmlResult, h]
  simp only [Bool.and_eq_true]
  refine ⟨fun ⟨⟨⟨hpast, hraw⟩, hinc⟩, hpresent⟩ p => ?_, fun h => ⟨⟨⟨h _, h _⟩, h _⟩, h _⟩⟩
  cases p with
  | past => exact hpast
  | raw => exact hraw
  | inc => exact hinc
  | present => exact hpresent

/-- A record is replaced if it can be read. -/
lemma base_fromXml (h : root.firstChildElement name = some item) (p : TotalPart) :
    (fromXml env t root name).base p = (readPart env item p).getD (t.base p) := by
  rw [fromXml, h]
  cases p <;> rfl

lemma fromXml_none (h : root.firstChildElement name = none) : fromXml env t root name = t := by
  rw [fromXml, h]

theorem loadsAtomically_iff (env : DumpEnv) (t : Total) (root : XmlElement) (name : String) :
    LoadsAtomically env t root name ↔ Consistent env t root name := by
  cases hitem : root.firstChildElement name with
  | none =>
      refine iff_of_true (.inr ⟨fromXmlResult_none hitem, fun p => ?_⟩) fun item hi => ?_
      · rw [fromXml_none hitem]
      · rw [hitem] at hi
        cases hi
  | some item =>
      have hcond : Consistent env t root name ↔
          (∀ p, (readPart env item p).isSome) ∨ ∀ p b, readPart env item p = some b →
            b = t.base p := by
        rw [Consistent, hitem]
        simp only [Option.some.injEq, forall_eq']
      rw [hcond, ← fromXmlResult_iff hitem]
      constructor
      · rintro (⟨hresult, -⟩ | ⟨-, hkeep⟩)
        · exact .inl hresult
        · refine .inr fun p b hb => ?_
          have hp := hkeep p
          rwa [base_fromXml hitem, hb] at hp
      · intro h
        by_cases hresult : fromXmlResult env root name = true
        · refine .inl ⟨hresult, item, hitem, fun p => ?_⟩
          obtain ⟨b, hb⟩ := Option.isSome_iff_exists.mp ((fromXmlResult_iff hitem).mp hresult p)
          rw [base_fromXml hitem, hb, Option.getD_some]
        · refine .inr ⟨Bool.eq_false_of_not_eq_true hresult, fun p => ?_⟩
          rw [base_fromXml hitem]
          cases hb : readPart env item p with
          | none => rfl
          | some b => exact h.resolve_left hresult p b hb

/-! ### Reading back what was written -/

lemma readPart_element (t : Total) (name : String) (p : TotalPart) :
    readPart env (t.element env name) p =
      readXmlBase env (some (baseElement env p.xmlName (t.base p))) := by
  cases p <;> rfl

/-- A record whose quantities are decimals is read up to its count. -/
lemma readXmlBase_baseElement (henv : env.Exact) (name : String) {total : BaseTotal}
    (h : ∀ ch, Decimal15 (total.qty ch)) :
    readXmlBase env (some (baseElement env name total)) =
      (env.toInt (toString total.count.toNat)).map fun n => ⟨total.qty, n⟩ := by
  have hquantity : ∀ ch, getTextLREAL env ((baseElement env name total).firstChildElement
      ch.xmlName) = some (total.qty ch) := by
    intro ch
    have hdouble := henv.toDouble _ _ (denoted_fixed15 (h ch))
    rw [← henv.format15f] at hdouble
    cases ch <;> exact hdouble
  have hcount : getTextUDINT env ((baseElement env name total).firstChildElement "count") =
      env.toInt (toString total.count.toNat) := rfl
  set root := baseElement env name total
  have hmass : getTextLREAL env (root.firstChildElement "mass") = _ := hquantity .mass
  have hvolume : getTextLREAL env (root.firstChildElement "volume") = _ := hquantity .volume
  have hvolume15 : getTextLREAL env (root.firstChildElement "volume15") = _ := hquantity .volume15
  have hvolume20 : getTextLREAL env (root.firstChildElement "volume20") = _ := hquantity .volume20
  rw [readXmlBase, hmass, hvolume, hvolume15, hvolume20, hcount]
  cases env.toInt (toString total.count.toNat) with
  | none => rfl
  | some n =>
      refine congrArg some (BaseTotal.ext (funext fun ch => ?_) rfl)
      cases ch <;> rfl

theorem reloads_iff (henv : env.Exact) (hu : u.Decimal) (name : String) :
    Reloads env u name ↔ ∀ p, (u.base p).count.toNat < 2 ^ 31 := by
  have hread : ∀ p, readPart env (u.element env name) p =
      (env.toInt (toString (u.base p).count.toNat)).map fun n => ⟨(u.base p).qty, n⟩ :=
    fun p => (readPart_element u name p).trans (readXmlBase_baseElement henv _ (hu p))
  constructor
  · intro h p
    by_contra hlarge
    -- A tree that has nothing else.
    have hroot : (XmlElement.node "" [] none [u.element env name]).firstChildElement name =
        some (u.element env name) := by
      rw [XmlElement.firstChildElement]
      exact List.find?_cons_of_pos (decide_eq_true rfl)
    obtain ⟨hresult, hbase⟩ := h u _ hroot
    have hsome := (fromXmlResult_iff hroot).mp hresult p
    have hp := hbase p
    rw [base_fromXml hroot, hread] at hp
    rw [hread] at hsome
    rcases henv.toInt_large _ (not_lt.mp hlarge) (u.base p).count.toNat_lt with hnone | hmax
    · rw [hnone] at hsome
      exact absurd hsome Bool.false_ne_true
    · rw [hmax] at hp
      have hcount : (0x7FFFFFFF : UInt32) = (u.base p).count := congrArg BaseTotal.count hp
      rw [← hcount] at hlarge
      exact hlarge (by decide)
  · intro h t root hroot
    have hpart : ∀ p, readPart env (u.element env name) p = some (u.base p) := by
      intro p
      rw [hread, henv.toInt _ (h p), Option.map_some, UInt32.ofNat_toNat]
    refine ⟨(fromXmlResult_iff hroot).mpr fun p => by rw [hpart]; rfl, fun p => ?_⟩
    rw [base_fromXml hroot, hpart, Option.getD_some]

/-- Loading is all or nothing, and brings back what was written, if and only if the tree is
consistent with the total and the counts that were written are below `2 ^ 31`. -/
theorem load_iff (henv : env.Exact) (t : Total) (root : XmlElement) (name : String)
    (hu : u.Decimal) (name' : String) :
    LoadsAtomically env t root name ∧ Reloads env u name' ↔
      Consistent env t root name ∧ ∀ p, (u.base p).count.toNat < 2 ^ 31 := by
  rw [loadsAtomically_iff, reloads_iff henv hu]

end Total

/-- The conversions as they are. -/
def exactEnv : DumpEnv where
  parse _ := .error 1
  toDouble s :=
    match denoted s with
    | some (.fin x) => some x
    | _ => none
  toInt s := (s.toNat?.filter (· < 2 ^ 31)).map UInt32.ofNat
  format15f := fixed15
  numbers := noNumbers

lemma exact_exactEnv : exactEnv.Exact where
  format15f _ := rfl
  toDouble s x h := by
    rw [exactEnv]
    simp only [h]
  toInt n hn := by
    have hread : (toString n).toNat? = some n := Nat.toNat?_repr n
    simp only [exactEnv, hread, Option.filter_some, decide_eq_true hn, if_true, Option.map_some]
  toInt_large n hn _ := by
    have hread : (toString n).toNat? = some n := Nat.toNat?_repr n
    left
    simp only [exactEnv, hread, Option.filter_some, decide_eq_false (not_lt.mpr hn),
      Bool.false_eq_true, if_false, Option.map_none]

/-- A total without pulses. -/
def noTotal : Total := ⟨.clear, .clear, .clear, .clear, fun _ => 0⟩

/-- A record in thousandths. -/
def thousandths (mass volume volume15 volume20 : ℤ) (count : UInt32) : BaseTotal where
  qty
    | .mass => mass / 1000
    | .volume => volume / 1000
    | .volume15 => volume15 / 1000
    | .volume20 => volume20 / 1000
  count := count

lemma decimal15_thousandths (mass volume volume15 volume20 : ℤ) (count : UInt32) (ch : Channel) :
    Decimal15 ((thousandths mass volume volume15 volume20 count).qty ch) := by
  have h : ∀ n : ℤ, Decimal15 ((n : ℚ) / 1000) := fun n => ⟨n * 10 ^ 12, by push_cast; ring⟩
  cases ch <;> exact h _

/-- The total of a line that has run for a while. -/
def lineTotal : Total where
  past := thousandths 850123 1000145 1001500 1000145 4095
  raw := thousandths 850130 1000153 1001508 1000153 4096
  inc := thousandths 7 8 8 8 1
  present := thousandths 850130 (-1000153) 1001508 1000153 (2 ^ 31 - 1)
  event := fun _ => 0

lemma decimal_lineTotal : lineTotal.Decimal := fun p ch => by
  cases p <;> exact decimal15_thousandths _ _ _ _ _ ch

/-- The total of a line is loaded into one without pulses, from a tree that has its four records. -/
theorem load_iff_line :
    Total.LoadsAtomically exactEnv noTotal
        (.node "totals" [] none [lineTotal.element exactEnv "line"]) "line" ∧
      Total.Reloads exactEnv lineTotal "line" := by
  have hcounts : ∀ p, (lineTotal.base p).count.toNat < 2 ^ 31 := fun p => by
    cases p <;> decide
  refine (Total.load_iff exact_exactEnv noTotal _ "line" decimal_lineTotal "line").mpr
    ⟨fun item hitem => .inl fun p => ?_, hcounts⟩
  cases hitem
  rw [Total.readPart_element,
    Total.readXmlBase_baseElement exact_exactEnv _ (decimal_lineTotal p),
    exact_exactEnv.toInt _ (hcounts p)]
  rfl

/-- A dump with nothing but the first record: it takes the place of the one of the total, and the
result is `false`. -/
theorem load_fails : ¬ Total.LoadsAtomically exactEnv { noTotal with past := ⟨fun _ => 0, 1⟩ }
    (.node "totals" [] none [.node "line" [] none [Total.baseElement exactEnv "past" .clear]])
    "line" := by
  have hitem : (XmlElement.node "totals" [] none [.node "line" [] none
      [Total.baseElement exactEnv "past" .clear]]).firstChildElement "line" =
        some (.node "line" [] none [Total.baseElement exactEnv "past" .clear]) := rfl
  have hpast : Total.readPart exactEnv (.node "line" [] none
      [Total.baseElement exactEnv "past" .clear]) .past = some .clear := by
    have hdecimal : ∀ ch, Decimal15 (BaseTotal.clear.qty ch) := fun _ => ⟨0, zero_mul _⟩
    have hread := Total.readXmlBase_baseElement exact_exactEnv "past" hdecimal
    have hcount := exact_exactEnv.toInt BaseTotal.clear.count.toNat (by decide)
    rw [hcount] at hread
    exact hread
  rintro (⟨hresult, -⟩ | ⟨-, hkeep⟩)
  · exact absurd ((Total.fromXmlResult_iff hitem).mp hresult .raw) Bool.false_ne_true
  · have hbase := hkeep .past
    rw [Total.base_fromXml hitem, hpast] at hbase
    have hcount : (0 : UInt32) = 1 := congrArg BaseTotal.count hbase
    exact absurd hcount (by decide)

end Tritonn

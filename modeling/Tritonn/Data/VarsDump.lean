import Tritonn.Lib.Utf8
import Tritonn.Data.Restore
import Tritonn.Totals.Load

/-!
The dump of the variables, written and read in one configuration: `saveDataVariables` and
`loadDataVariables` of `src/tritonn/data/manager_dump.cpp` over the conversions of
`src/tritonn/variable_item.cpp`.

* `TextNumbers.Standard` asks that the formats and the conversions of integers are those of the
  standard library, and `TextNumbers.ReadsReal` that a text is read as the nearest number of the
  type, with `std::out_of_range` for an overflow or underflow (`readReal`);
* `DumpConfig.varsElement` is the element that is written, and `DumpedValues` a memory of it;
* `RestoresValues` says that what was written is restored, and `LoadsSafely` that a document does
  not end the program.

`varsDump_iff` says when both are so.  A variable is restored if it is internal and, if it is a real
number, its six significant digits are enough (`Kept`); and a document ends the program as soon as
it has a text for an external variable, or one that the conversion of the type does not take.
-/

namespace Tritonn

/-! ### The conversions -/

/-- The formats and the conversions of integers of the standard library, for a `long` of sixty-four
bits. -/
structure TextNumbers.Standard (text : TextNumbers) : Prop where
  stoul : text.stoul = Tritonn.stoul
  stol : text.stol = Tritonn.stol
  format : text.format = Tritonn.format

/-- The binary floating point number nearest to `x`, the even one of two: of as many bits behind the
point as there are down to the least exponent. -/
def nearest2 (mant bias : ℕ) (x : ℚ) : ℚ :=
  let ulp : ℚ := 2 ^ (max (Int.log 2 |x|) (1 - bias) - mant)
  (if x < 0 then -1 else 1) * roundEven (|x| / ulp) * ulp

/-- What `std::stof` and `std::stod` make of a number: nothing when it is too large, or too small
and not exact. -/
def readReal (type : VType) (x : ℚ) : Option ℚ :=
  let (mant, bias) := if type = .real then (23, 127) else (52, 1023)
  let y := nearest2 mant bias x
  if 2 ^ (bias + 1) ≤ |y| then none
  else if y ≠ x ∧ |y| < 2 ^ (1 - (bias : ℤ)) then none
  else some y

namespace TextNumbers

/-- `std::stof` or `std::stod`. -/
def realData (text : TextNumbers) (type : VType) (s : List UInt8) : Option (List UInt8) :=
  if type = .real then text.stof s else text.stod s

/-- A text that denotes a number is read as the conversion is documented. -/
def ReadsReal (text : TextNumbers) (type : VType) (s : String) : Prop :=
  ∀ x, denoted s = some (.fin x) →
    (text.realData type s.toUTF8.toList).map type.number = (readReal type x).map Extended.fin

/-- The conversion of the type takes the text. -/
def Accepts (text : TextNumbers) (type : VType) (s : List UInt8) : Prop :=
  match type with
  | .undef => True
  | .sint | .int | .dint => (text.stoi s).isSome
  | .real => (text.stof s).isSome
  | .lreal => (text.stod s).isSome
  | _ => (text.stoul s).isSome

end TextNumbers

/-! ### The property -/

/-- The memory of the variables: as many bytes as a variable has, and finite real numbers. -/
structure DumpedValues (c : DumpConfig) where
  pointer : String → List UInt8
  length : ∀ v ∈ c.varList, v.type ≠ .undef → (pointer v.name).length = getTypeSize v.type
  finite : ∀ v ∈ c.varList, v.type ≠ .undef → ∃ x, v.type.number (pointer v.name) = .fin x

/-- The element of a variable: one without a text if the value has none. -/
def Variable.element (text : TextNumbers) (v : Variable) (value : List UInt8) : XmlElement :=
  .node v.name []
    (if v.valueToString text value = "" then none else some (v.valueToString text value)) []

/-- The document that `saveDataVariables` writes. -/
def DumpConfig.varsElement (c : DumpConfig) (pointer : String → List UInt8) : XmlElement :=
  .node "variables" [("hash", c.hashCfg)] none
    ((c.varList.filter Variable.isDumped).map fun v => v.element c.env.numbers (pointer v.name))

/-- Whatever was in the memory, loading the document restores the value of each dumped variable. -/
def RestoresValues (c : DumpConfig) (m : DumpedValues c) : Prop :=
  ∀ s : DumpManager, s.dumpVars.xmlDoc = some (c.varsElement m.pointer) →
    ∃ s', s.loadDataVariables c = some s' ∧ ∀ v ∈ c.varList, v.isDumped = true →
      v.type ≠ .undef → v.type.number (s'.pointer v.name) = v.type.number (m.pointer v.name)

/-- Loading does not end the program, for what `checkFile` made of the file. -/
def LoadsSafely (c : DumpConfig) (doc : Option XmlElement) : Prop :=
  ∀ s : DumpManager, s.dumpVars.xmlDoc = doc → (s.loadDataVariables c).isSome

/-- The six significant digits of a real number are read as the number. -/
def VType.Kept (type : VType) (value : List UInt8) : Prop :=
  ∃ x y, type.number value = .fin x ∧ type.shown value = some (.fin y) ∧ readReal type y = some x

/-- The condition on the variables and their values. -/
def KeepsValues (c : DumpConfig) (m : DumpedValues c) : Prop :=
  ∀ v ∈ c.varList, v.isDumped = true → v.type ≠ .undef →
    v.isExternal = false ∧ (v.type.IsInteger ∨ v.type.Kept (m.pointer v.name))

/-- The condition on the document: each text for a dumped variable is for an internal one, and the
conversion of its type takes it. -/
def Loadable (c : DumpConfig) (doc : Option XmlElement) : Prop :=
  ∀ root ∈ doc, ∀ v ∈ c.varList, v.isDumped = true → v.type ≠ .undef →
    ∀ s, (root.firstChildElement v.name).bind XmlElement.getText = some s →
      v.isExternal = false ∧ c.env.numbers.Accepts v.type s.toUTF8.toList

/-! ### Documents -/

variable {c : DumpConfig}

namespace Variable

variable {text : TextNumbers} {v : Variable} {root : XmlElement} {value : List UInt8}

lemma valueFromXml_none (h : (root.firstChildElement v.name).bind XmlElement.getText = none) :
    v.valueFromXml text root value = some value := by
  rw [valueFromXml, h]

lemma valueFromXml_some {s : String}
    (h : (root.firstChildElement v.name).bind XmlElement.getText = some s) :
    v.valueFromXml text root value = v.stringToValue text value s.toUTF8.toList := by
  rw [valueFromXml, h]

/-- Whether a value can be read does not depend on the one before. -/
lemma isSome_stringToValue_iff (htype : v.type ≠ .undef) (s : List UInt8) :
    (v.stringToValue text value s).isSome ↔ v.isExternal = false ∧ text.Accepts v.type s := by
  obtain ⟨name, type, flags, access⟩ := v
  cases hext : (Variable.mk name type flags access).isExternal <;> cases type <;>
    simp_all [stringToValue, stringToValue.number, TextNumbers.Accepts]

lemma isSome_valueFromXml_iff :
    (v.valueFromXml text root value).isSome ↔
      (v.type ≠ .undef → ∀ s, (root.firstChildElement v.name).bind XmlElement.getText = some s →
        v.isExternal = false ∧ text.Accepts v.type s.toUTF8.toList) := by
  cases hs : (root.firstChildElement v.name).bind XmlElement.getText with
  | none =>
      rw [valueFromXml_none hs]
      exact iff_of_true rfl fun _ s h => by cases h
  | some s =>
      rw [valueFromXml_some hs]
      by_cases htype : v.type = .undef
      · refine iff_of_true ?_ fun h => absurd htype h
        rw [stringToValue, htype]
        rfl
      · rw [isSome_stringToValue_iff htype]
        exact ⟨fun h _ s' hs' => Option.some.inj hs' ▸ h, fun h => h htype s rfl⟩

end Variable

/-- The manager with a document to load. -/
def DumpManager.withDoc (doc : Option XmlElement) : DumpManager where
  live := .running
  halt := false
  listSource := []
  pointer _ := []
  files _ := none
  dumpTotals := {}
  dumpVars := { xmlDoc := doc }
  saveVars := false
  acts := []

theorem loadsSafely_iff (c : DumpConfig) (doc : Option XmlElement) :
    LoadsSafely c doc ↔ Loadable c doc := by
  constructor
  · intro h root hroot v hv hd htype
    have hsome := h (DumpManager.withDoc doc) rfl
    rw [Option.mem_def.mp hroot] at hsome
    obtain ⟨s', hs'⟩ := Option.isSome_iff_exists.mp hsome
    rw [DumpManager.loadDataVariables] at hs'
    obtain ⟨pointer, hpointer, -⟩ := Option.map_eq_some_iff.mp hs'
    obtain ⟨hread, -⟩ := DumpManager.foldlM_readVariable_spec c.varList c.distinct hpointer
    exact Variable.isSome_valueFromXml_iff.mp (by rw [hread v hv hd]; rfl) htype
  · intro h s hs
    cases doc with
    | none =>
        rw [DumpManager.loadDataVariables_none hs]
        rfl
    | some root =>
        obtain ⟨pointer, hpointer⟩ :=
          @DumpManager.foldlM_readVariable c root c.varList (fun v hv hd value =>
            Variable.isSome_valueFromXml_iff.mpr (h root rfl v hv hd)) s.pointer
        rw [DumpManager.loadDataVariables, hs]
        simp only [hpointer, Option.map_some, Option.isSome_some]

/-! ### The texts of integers -/

/-- The byte of a digit. -/
lemma decDigit_digitChar {d : ℕ} (h : d < 10) :
    decDigit (Nat.digitChar d).val.toUInt8 = some d := by
  interval_cases d <;> decide

/-- The bytes of an integer are those of its sign and its digits. -/
lemma subject_formatInt (n : ℤ) :
    subject (String.ofList (formatInt n)).toUTF8.toList = some (decide (n < 0), n.natAbs, []) := by
  set ds := Numeral.allDigits 10 n.natAbs with hds
  have hlt : ∀ d ∈ ds, d < 10 := fun _ => Numeral.lt_of_mem_fixedDigits (by decide)
  have hsize : ∀ c ∈ formatInt n, c.utf8Size = 1 := by
    intro c hc
    rw [formatInt, List.mem_append, formatSign, formatDigits, List.mem_map] at hc
    rcases hc with hc | ⟨d, hd, rfl⟩
    · split at hc
      · rw [List.mem_singleton.mp hc]
        rfl
      · exact absurd hc List.not_mem_nil
    · have hd' := hlt d hd
      interval_cases d <;> rfl
  set bytes := ds.map fun d => (Nat.digitChar d).val.toUInt8 with hbytes
  have htext : (String.ofList (formatInt n)).toUTF8.toList =
      (formatSign (n < 0)).map (fun c => c.val.toUInt8) ++ bytes := by
    rw [Utf8.toList_toUTF8_ofList hsize, formatInt, formatDigits, List.map_append, List.map_map]
    rfl
  have hdigit : ∀ d ∈ ds, decDigit (Nat.digitChar d).val.toUInt8 = some d :=
    fun d hd => decDigit_digitChar (hlt d hd)
  have hdigits : Numeral.digits decDigit bytes = ds := by
    have h := Numeral.digits_map hdigit []
    rwa [List.append_nil, Numeral.digits, List.append_nil] at h
  have hrest : Numeral.rest decDigit bytes = [] := by
    have h := Numeral.rest_map hdigit []
    rwa [List.append_nil, Numeral.rest] at h
  have hne : ds ≠ [] :=
    List.ne_nil_of_length_pos (by rw [hds, Numeral.allDigits, Numeral.length_fixedDigits]; omega)
  have hvalue : Numeral.value 10 ds = n.natAbs := Numeral.value_allDigits (by decide) _
  rw [htext, subject]
  by_cases hn : n < 0
  · have hsign : sign ((((formatSign (n < 0)).map fun c => c.val.toUInt8) ++ bytes).dropWhile
        isSpace) = (true, bytes) := by
      rw [formatSign, if_pos (decide_eq_true hn)]
      rfl
    rw [hsign]
    simp only [hdigits, hrest, hvalue, if_neg hne, hn, decide_true]
  · -- The first byte is that of a digit, neither a space nor a sign.
    have hsign : sign ((((formatSign (n < 0)).map fun c => c.val.toUInt8) ++ bytes).dropWhile
        isSpace) = (false, bytes) := by
      rw [formatSign, if_neg (by rw [decide_eq_true_iff]; exact hn), List.map_nil, List.nil_append]
      obtain ⟨d, ds', hcons⟩ := List.exists_cons_of_ne_nil hne
      have hd : d < 10 := hlt d (by rw [hcons]; exact List.mem_cons_self)
      rw [hbytes, hcons, List.map_cons]
      generalize ds'.map (fun d => (Nat.digitChar d).val.toUInt8) = tail
      interval_cases d <;> rfl
    rw [hsign]
    simp only [hdigits, hrest, hvalue, if_neg hne, hn, decide_false]

/-- The integer that a signed conversion reads. -/
lemma toInt_ofInt {n : ℤ} (h : -2 ^ 63 ≤ n ∧ n < 2 ^ 63) : (UInt64.ofInt n).toInt64.toInt = n := by
  have hnat : (UInt64.ofInt n).toNat = (n % 2 ^ 64).toNat := by
    rw [UInt64.ofInt, UInt64.toNat_ofNat']
    omega
  have hbits : (UInt64.ofInt n).toInt64.toInt = (UInt64.ofInt n).toBitVec.toInt := rfl
  rw [hbits, BitVec.toInt_eq_toNat_cond, UInt64.toNat_toBitVec, hnat]
  split_ifs <;> omega

/-- A conversion of integers is the one of `bits`, within the range of the type. -/
lemma stringToValue_of_bits {text : TextNumbers} (ht : text.Standard) {v : Variable}
    (htype : v.type.IsInteger) (hext : v.isExternal = false) {n : ℤ} (hn : v.type.Fits n)
    {s : List UInt8} (hbits : bits v.type s = some (.ofInt n)) (before : List UInt8) :
    v.stringToValue text before s =
      some (leBytes (getTypeSize v.type) (UInt64.ofInt n).toNat) := by
  have hstoi : v.type.isSigned = true → text.stoi s = some (.ofInt n) := by
    intro hsigned
    have hrange : -2 ^ 31 ≤ n ∧ n < 2 ^ 31 := by
      rw [VType.Fits, if_pos hsigned] at hn
      generalize v.type = type at hn hsigned
      cases type <;> simp only [VType.isSigned, getTypeSize, Bool.false_eq_true] at hn hsigned <;>
        omega
    rw [bits, if_pos hsigned] at hbits
    rw [TextNumbers.stoi, ht.stol, hbits, Option.filter_some, toInt_ofInt (by omega),
      if_pos (decide_eq_true hrange)]
  have hstoul : v.type.isSigned = false → text.stoul s = some (.ofInt n) := by
    intro hsigned
    rw [bits, if_neg (by rw [hsigned]; exact Bool.false_ne_true)] at hbits
    rw [ht.stoul, hbits]
  obtain ⟨name, type, flags, access⟩ := v
  cases type
  case undef => exact absurd rfl htype.1
  case real => exact absurd rfl htype.2.1
  case lreal => exact absurd rfl htype.2.2
  case sint | int | dint =>
    simp only [Variable.stringToValue, hext, Bool.false_eq_true, if_false,
      Variable.stringToValue.number, hstoi rfl, Option.map_some]
  all_goals
    simp only [Variable.stringToValue, hext, Bool.false_eq_true, if_false,
      Variable.stringToValue.number, hstoul rfl, Option.map_some]

/-- An integer is read as it was written. -/
lemma stringToValue_int {text : TextNumbers} (ht : text.Standard) {v : Variable}
    (htype : v.type.IsInteger) (hext : v.isExternal = false) {value : List UInt8}
    (hvalue : value.length = getTypeSize v.type) (before : List UInt8) :
    ∃ data, v.stringToValue text before (format v.type value).toUTF8.toList = some data ∧
      v.type.number data = v.type.number value := by
  have hfits := VType.decode_fits hvalue
  have hformat : format v.type value = String.ofList (formatInt (v.type.decode value)) := by
    obtain ⟨name, type, flags, access⟩ := v
    cases type
    case undef => exact absurd rfl htype.1
    case real => exact absurd rfl htype.2.1
    case lreal => exact absurd rfl htype.2.2
    all_goals rfl
  have hsigned : signed (v.type.decode value < 0) (v.type.decode value).natAbs =
      v.type.decode value := by
    rw [signed]
    split_ifs with h
    · have := of_decide_eq_true h
      omega
    · have := of_decide_eq_false (Bool.eq_false_of_not_eq_true h)
      omega
  have hbits := bits_eq (subject_formatInt (v.type.decode value)) (by rwa [hsigned]) htype
  rw [hsigned] at hbits
  have hdata := VType.decode_bits hfits htype
  have hnumber : ∀ data, v.type.decode data = v.type.decode value →
      v.type.number data = v.type.number value := by
    intro data h
    obtain ⟨name, type, flags, access⟩ := v
    cases type
    case undef => exact absurd rfl htype.1
    case real => exact absurd rfl htype.2.1
    case lreal => exact absurd rfl htype.2.2
    all_goals exact congrArg (fun n : ℤ => Extended.fin (n : ℚ)) h
  refine ⟨_, ?_, hnumber _ hdata⟩
  rw [hformat]
  exact stringToValue_of_bits ht htype hext hfits hbits before

/-! ### The document that is written -/

section Written

variable {text : TextNumbers} {v : Variable} {value : List UInt8}

/-- The text of a value with a type is not empty. -/
lemma format_ne (type : VType) (htype : type ≠ .undef) (value : List UInt8) :
    format type value ≠ "" := by
  intro h
  have hshown := denoted_format type value
  rw [h] at hshown
  have hnone : denoted "" = none := rfl
  rw [hnone] at hshown
  cases type <;> first | exact htype rfl | cases hshown

lemma getText_element (ht : text.Standard) (htype : v.type ≠ .undef) :
    (v.element text value).getText = some (format v.type value) := by
  have hstring : v.valueToString text value = format v.type value := by
    rw [Variable.valueToString, if_neg htype, ht.format]
  rw [Variable.element, hstring, if_neg (format_ne v.type htype value)]
  rfl

/-- Of variables with different names each is found by its name. -/
lemma find?_element {l : List Variable} (hl : (l.map Variable.name).Nodup) (hv : v ∈ l)
    (pointer : String → List UInt8) :
    (l.map fun v => v.element text (pointer v.name)).find? (fun e => e.name = v.name) =
      some (v.element text (pointer v.name)) := by
  induction l with
  | nil => exact absurd hv List.not_mem_nil
  | cons w l ih =>
      rw [List.map_cons, List.nodup_cons] at hl
      rw [List.map_cons]
      rcases List.mem_cons.mp hv with rfl | hv
      · exact List.find?_cons_of_pos (decide_eq_true rfl)
      · have hne : w.name ≠ v.name := fun h => hl.1 (h ▸ List.mem_map_of_mem hv)
        rw [List.find?_cons_of_neg (by
          rw [decide_eq_true_iff]
          exact hne)]
        exact ih hl.2 hv

lemma firstChildElement_varsElement (hv : v ∈ c.varList) (hd : v.isDumped = true)
    (pointer : String → List UInt8) :
    (c.varsElement pointer).firstChildElement v.name =
      some (v.element c.env.numbers (pointer v.name)) := by
  rw [DumpConfig.varsElement, XmlElement.firstChildElement]
  exact find?_element (c.distinct.sublist (List.filter_sublist.map _))
    (List.mem_filter.mpr ⟨hv, hd⟩) pointer

/-- The text in front of the element of a variable. -/
lemma written_element (text : TextNumbers) (v : Variable) (value : List UInt8) :
    (v.element text value).Written (v.valueToXml text value) := by
  rw [Variable.element, Variable.valueToXml]
  split_ifs with h
  · have hjoin : String.join [] = "" := rfl
    rw [h, ← hjoin]
    exact .children v.name .nil
  · exact .text _ _

/-- Leaving out what is empty. -/
lemma join_filter (p : Variable → Bool) (f : Variable → String) (l : List Variable) :
    String.join (l.map fun v => if p v then f v else "") = String.join ((l.filter p).map f) := by
  induction l with
  | nil => rfl
  | cons v l ih =>
      rw [List.map_cons, String.join_cons, ih]
      by_cases hv : p v
      · rw [if_pos hv, List.filter_cons_of_pos hv, List.map_cons, String.join_cons]
      · rw [if_neg hv, List.filter_cons_of_neg hv, String.empty_append]

/-- `saveDataVariables` writes the document: the tag of the root with the hash, and the elements of
the dumped variables. -/
theorem written_varsText (c : DumpConfig) (s : DumpManager) :
    ∃ texts, List.Forall₂ XmlElement.Written
        ((c.varList.filter Variable.isDumped).map fun v =>
          v.element c.env.numbers (s.pointer v.name)) texts ∧
      (s.setTags c).varsText c =
        "<variables hash=\"" ++ c.hashCfg ++ "\">" ++ String.join texts ++ "</variables>" := by
  refine ⟨(c.varList.filter Variable.isDumped).map fun v =>
    v.valueToXml c.env.numbers (s.pointer v.name), ?_, ?_⟩
  · rw [List.forall₂_map_left_iff, List.forall₂_map_right_iff, List.forall₂_same]
    exact fun v _ => written_element _ v _
  · rw [DumpManager.varsText, DumpManager.setTags, ← join_filter]

end Written

/-! ### Restoring -/

variable {m : DumpedValues c} {v : Variable}

/-- What is read of the document for a variable. -/
lemma valueFromXml_varsElement (ht : c.env.numbers.Standard) (hv : v ∈ c.varList)
    (hd : v.isDumped = true) (htype : v.type ≠ .undef) (before : List UInt8) :
    v.valueFromXml c.env.numbers (c.varsElement m.pointer) before =
      v.stringToValue c.env.numbers before (format v.type (m.pointer v.name)).toUTF8.toList := by
  refine Variable.valueFromXml_some ?_
  rw [firstChildElement_varsElement hv hd, Option.bind_some, getText_element ht htype]

/-- A finite real number is shown as one. -/
lemma shown_of_number {type : VType} (htype : type = .real ∨ type = .lreal) {value : List UInt8}
    {x : ℚ} (hx : type.number value = .fin x) : ∃ y, type.shown value = some (.fin y) := by
  have hsign : ∀ (minus : Bool) (z : Extended ℚ), withSign minus z = .fin x →
      ∃ y, some (withSign minus (sixed z)) = some (.fin y) := by
    intro minus z hz
    cases z with
    | nan => cases hz
    | inf _ => cases hz
    | fin z => exact ⟨_, rfl⟩
  rcases htype with rfl | rfl
  · exact hsign _ _ hx
  · exact hsign _ _ hx

/-- A real number is restored if and only if its six significant digits are enough. -/
lemma restored_real_iff (ht : c.env.numbers.Standard) (hv : v ∈ c.varList)
    (hd : v.isDumped = true) (htype : v.type = .real ∨ v.type = .lreal)
    (hext : v.isExternal = false)
    (hread : c.env.numbers.ReadsReal v.type (format v.type (m.pointer v.name)))
    (before : List UInt8) :
    (∃ data, v.valueFromXml c.env.numbers (c.varsElement m.pointer) before = some data ∧
        v.type.number data = v.type.number (m.pointer v.name)) ↔
      v.type.Kept (m.pointer v.name) := by
  have hne : v.type ≠ .undef := by rcases htype with h | h <;> rw [h] <;> decide
  obtain ⟨x, hx⟩ := m.finite v hv hne
  obtain ⟨y, hy⟩ := shown_of_number htype hx
  have hdata := hread y (by rw [denoted_format, hy])
  have hstring : v.valueFromXml c.env.numbers (c.varsElement m.pointer) before =
      c.env.numbers.realData v.type (format v.type (m.pointer v.name)).toUTF8.toList := by
    rw [valueFromXml_varsElement ht hv hd hne]
    obtain ⟨name, type, flags, access⟩ := v
    rcases htype with h | h
    · obtain rfl : type = .real := h
      simp only [Variable.stringToValue, hext, Bool.false_eq_true, if_false,
        Variable.stringToValue.number, TextNumbers.realData, if_true]
    · obtain rfl : type = .lreal := h
      simp only [Variable.stringToValue, hext, Bool.false_eq_true, if_false,
        Variable.stringToValue.number, TextNumbers.realData, reduceCtorEq]
  have hkept : v.type.Kept (m.pointer v.name) ↔ readReal v.type y = some x := by
    refine ⟨fun ⟨x', y', hx', hy', h⟩ => ?_, fun h => ⟨x, y, hx, hy, h⟩⟩
    rw [hx] at hx'
    rw [hy] at hy'
    cases hx'
    cases hy'
    exact h
  rw [hstring, hkept, hx]
  constructor
  · rintro ⟨data, hdata', hnumber⟩
    rw [hdata', Option.map_some, hnumber] at hdata
    cases hr : readReal v.type y with
    | none =>
        rw [hr] at hdata
        cases hdata
    | some z =>
        rw [hr] at hdata
        cases hdata
        rfl
  · intro h
    rw [h, Option.map_some] at hdata
    exact Option.map_eq_some_iff.mp hdata

/-- Each variable is restored if and only if the condition holds of it. -/
lemma restored_iff (ht : c.env.numbers.Standard) (hv : v ∈ c.varList) (hd : v.isDumped = true)
    (htype : v.type ≠ .undef)
    (hread : v.type = .real ∨ v.type = .lreal →
      c.env.numbers.ReadsReal v.type (format v.type (m.pointer v.name)))
    (before : List UInt8) :
    (∃ data, v.valueFromXml c.env.numbers (c.varsElement m.pointer) before = some data ∧
        v.type.number data = v.type.number (m.pointer v.name)) ↔
      v.isExternal = false ∧ (v.type.IsInteger ∨ v.type.Kept (m.pointer v.name)) := by
  cases hext : v.isExternal with
  | true =>
      refine iff_of_false (fun ⟨data, hdata, _⟩ => ?_) fun h => by cases h.1
      have hsome : (v.stringToValue c.env.numbers before
          (format v.type (m.pointer v.name)).toUTF8.toList).isSome := by
        rw [← valueFromXml_varsElement ht hv hd htype, hdata]
        rfl
      rw [Variable.isSome_stringToValue_iff htype, hext] at hsome
      exact absurd hsome.1 (by decide)
  | false =>
      rw [and_iff_right rfl]
      by_cases hint : v.type.IsInteger
      · refine iff_of_true ?_ (.inl hint)
        rw [valueFromXml_varsElement ht hv hd htype]
        exact stringToValue_int ht hint hext (m.length v hv htype) before
      · have hreal : v.type = .real ∨ v.type = .lreal := by
          by_contra hne
          obtain ⟨h1, h2⟩ := not_or.mp hne
          exact hint ⟨htype, h1, h2⟩
        rw [or_iff_right hint]
        exact restored_real_iff ht hv hd hreal hext (hread hreal) before

theorem restoresValues_iff (ht : c.env.numbers.Standard) (m : DumpedValues c)
    (hread : ∀ v ∈ c.varList, v.isDumped = true → v.type = .real ∨ v.type = .lreal →
      c.env.numbers.ReadsReal v.type (format v.type (m.pointer v.name))) :
    RestoresValues c m ↔ KeepsValues c m := by
  constructor
  · intro h v hv hd htype
    obtain ⟨s', hs', hrestored⟩ := h (DumpManager.withDoc (some (c.varsElement m.pointer))) rfl
    rw [DumpManager.loadDataVariables] at hs'
    obtain ⟨pointer, hpointer, rfl⟩ := Option.map_eq_some_iff.mp hs'
    obtain ⟨hvalue, -⟩ := DumpManager.foldlM_readVariable_spec c.varList c.distinct hpointer
    exact (restored_iff ht hv hd htype (hread v hv hd) _).mp
      ⟨_, hvalue v hv hd, hrestored v hv hd htype⟩
  · intro h s hs
    have hall : ∀ v ∈ c.varList, v.isDumped = true → v.type ≠ .undef → ∀ before,
        ∃ data, v.valueFromXml c.env.numbers (c.varsElement m.pointer) before = some data ∧
          v.type.number data = v.type.number (m.pointer v.name) := fun v hv hd htype before =>
      (restored_iff ht hv hd htype (hread v hv hd) before).mpr (h v hv hd htype)
    have hsome : ∀ v ∈ c.varList, v.isDumped = true → ∀ before,
        (v.valueFromXml c.env.numbers (c.varsElement m.pointer) before).isSome := by
      intro v hv hd before
      refine Variable.isSome_valueFromXml_iff.mpr fun htype => ?_
      obtain ⟨data, hdata, -⟩ := hall v hv hd htype before
      exact Variable.isSome_valueFromXml_iff.mp (by rw [hdata]; rfl) htype
    obtain ⟨pointer, hpointer⟩ := DumpManager.foldlM_readVariable c.varList hsome s.pointer
    obtain ⟨hvalue, -⟩ := DumpManager.foldlM_readVariable_spec c.varList c.distinct hpointer
    have hload : s.loadDataVariables c = some { s with
        pointer := pointer
        dumpVars := { s.dumpVars with xmlDoc := none }
        acts := s.acts ++ [.loaded .vars] } := by
      rw [DumpManager.loadDataVariables, hs]
      simp only [hpointer, Option.map_some]
    refine ⟨_, hload, fun v hv hd htype => ?_⟩
    obtain ⟨data, hdata, hnumber⟩ := hall v hv hd htype (s.pointer v.name)
    rw [hvalue v hv hd] at hdata
    cases hdata
    exact hnumber

/-- The dump restores the values and no document ends the program if and only if the values are
kept by their texts and the document has texts that can be loaded. -/
theorem varsDump_iff (ht : c.env.numbers.Standard) (m : DumpedValues c)
    (hread : ∀ v ∈ c.varList, v.isDumped = true → v.type = .real ∨ v.type = .lreal →
      c.env.numbers.ReadsReal v.type (format v.type (m.pointer v.name)))
    (doc : Option XmlElement) :
    RestoresValues c m ∧ LoadsSafely c doc ↔ KeepsValues c m ∧ Loadable c doc := by
  rw [restoresValues_iff ht m hread, loadsSafely_iff]

/-! ### Two variables -/

/-- One and a half as a `double`. -/
def oneAndHalf : List UInt8 := [0, 0, 0, 0, 0, 0, 0xF8, 0x3F]

/-- The bytes of its text. -/
def oneAndHalfText : List UInt8 := [0x31, 0x2E, 0x35, 0x30, 0x30, 0x30, 0x30]

/-- An integer and a real number are dumped. -/
def twoVars : DumpConfig where
  env :=
    { exactEnv with
      numbers :=
        { stoul := stoul
          stol := stol
          stof := fun _ => none
          stod := fun s => if s = oneAndHalfText then some oneAndHalf else none
          toReal := fun _ => []
          format := format } }
  hashCfg := "00112233445566778899aabbccddeeff00112233"
  varList := [⟨"setup", .uint, 0x8003, 0⟩, ⟨"level", .lreal, 0x8003, 0⟩]
  distinct := by decide

/-- Their values are five, and one and a half. -/
def twoValues : DumpedValues twoVars where
  pointer name := if name = "setup" then [5, 0] else oneAndHalf
  length := by decide
  finite := by
    intro v hv _
    rcases List.mem_cons.mp hv with rfl | hv
    · exact ⟨_, rfl⟩
    · obtain rfl := List.mem_singleton.mp hv
      exact ⟨3 / 2, by decide +kernel⟩

lemma standard_twoVars : twoVars.env.numbers.Standard := ⟨rfl, rfl, rfl⟩

/-- One and a half is kept by its six digits. -/
lemma kept_oneAndHalf : VType.Kept .lreal oneAndHalf :=
  ⟨3 / 2, 3 / 2, by decide +kernel, by decide +kernel, by decide +kernel⟩

lemma toUTF8_oneAndHalf : "1.50000".toUTF8.toList = oneAndHalfText := by
  rw [Utf8.toList_toUTF8]
  rfl

lemma realData_oneAndHalf :
    twoVars.env.numbers.realData .lreal "1.50000".toUTF8.toList = some oneAndHalf := by
  rw [toUTF8_oneAndHalf]
  rfl

/-- The text of one and a half is read as it. -/
lemma reads_oneAndHalf : twoVars.env.numbers.ReadsReal .lreal (format .lreal oneAndHalf) := by
  intro x hx
  obtain ⟨x', y, hnumber, hshown, hread⟩ := kept_oneAndHalf
  rw [denoted_format, hshown] at hx
  cases hx
  have hformat : format .lreal oneAndHalf = "1.50000" := by decide +kernel
  rw [hread, hformat, realData_oneAndHalf, Option.map_some, Option.map_some, hnumber]

/-- The two variables are restored, and a document with other texts for them is no harm. -/
theorem varsDump_iff_two : RestoresValues twoVars twoValues ∧
    LoadsSafely twoVars (some (.node "variables" [] none
      [.node "setup" [] (some "7") [], .node "level" [] (some "1.50000") []])) := by
  have hmem : ∀ {v}, v ∈ twoVars.varList → v.type = .real ∨ v.type = .lreal →
      v = ⟨"level", .lreal, 0x8003, 0⟩ := by
    intro v hv htype
    rcases List.mem_cons.mp hv with rfl | hv
    · exact absurd htype (by decide)
    · exact List.mem_singleton.mp hv
  refine (varsDump_iff standard_twoVars twoValues (fun v hv _ htype => ?_) _).mpr ⟨?_, ?_⟩
  · obtain rfl := hmem hv htype
    exact reads_oneAndHalf
  · intro v hv _ htype
    rcases List.mem_cons.mp hv with rfl | hv
    · exact ⟨by decide, .inl (by decide)⟩
    · obtain rfl := List.mem_singleton.mp hv
      exact ⟨by decide, .inr kept_oneAndHalf⟩
  · rintro root ⟨⟩ v hv _ _ s hs
    rcases List.mem_cons.mp hv with rfl | hv
    · cases hs
      have hbytes : "7".toUTF8.toList = [0x37] := by
        rw [Utf8.toList_toUTF8]
        rfl
      have hstoul : (stoul "7".toUTF8.toList).isSome := by
        rw [hbytes]
        decide
      exact ⟨by decide, hstoul⟩
    · obtain rfl := List.mem_singleton.mp hv
      cases hs
      have hstod : (twoVars.env.numbers.stod "1.50000".toUTF8.toList).isSome := by
        rw [toUTF8_oneAndHalf]
        rfl
      exact ⟨by decide, hstod⟩

/-- A document with a text for the integer that is none ends the program. -/
theorem varsDump_fails : ¬ (RestoresValues twoVars twoValues ∧
    LoadsSafely twoVars (some (.node "variables" [] none [.node "setup" [] (some "x") []]))) := by
  rintro ⟨-, hsafe⟩
  obtain ⟨-, haccepts⟩ := (loadsSafely_iff _ _).mp hsafe _ rfl ⟨"setup", .uint, 0x8003, 0⟩
    List.mem_cons_self (by decide) (by decide) "x" rfl
  have hbytes : "x".toUTF8.toList = [0x78] := by
    rw [Utf8.toList_toUTF8]
    rfl
  rw [hbytes] at haccepts
  have hsome : (stoul [0x78]).isSome := haccepts
  exact absurd hsome (by decide)

end Tritonn

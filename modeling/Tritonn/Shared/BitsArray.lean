import Mathlib
import Tritonn.Lib.Keyed

/-!
`src/shared/bits_array.cpp`: tables of named flags, and texts that name some of them.

* `getNameByBits`, `getBit` and `getValue` are the functions of the class, without the comments of
  the flags;
* `words` is a text cut at blanks and bars, and `bitsOf` the flags that a list of words names;
* `getValue_iff`: `getValue` gives a number without an error if and only if the words name it;
* `WellNamed` are tables of single bits with names that can be written behind each other, and
  `namedBits` the bits of a table: `getValue_getNameByBits` says that the names of a number are read
  as its named bits, and that a text with another name is an error.
-/

namespace Tritonn

/-- `rBitsArray::rBitFlag`. -/
structure BitFlag where
  name : String
  value : UInt32

namespace BitsArray

variable (flags : List BitFlag)

/-- `rBitsArray::getNameByBits`. -/
def getNameByBits (value : UInt32) (delim : String) : String :=
  flags.foldl (fun result item =>
    if item.value &&& value ≠ 0 ∧ item.name ≠ "" then
      result ++ ((if result ≠ "" then delim else "") ++ item.name)
    else result) ""

/-- `rBitsArray::getBit`, with `err` as it was and as it is. -/
def getBit (name : String) (err : Bool) : UInt32 × Bool :=
  if err then (0, err)
  else if name = "" then (0, err)
  else
    match flags.find? fun item => item.name = name ∧ item.name ≠ "" with
    | some item => (item.value, err)
    | none => (0, true)

/-- A character between two names. -/
def IsDelim (ch : Char) : Prop := ch = ' ' ∨ ch = '|'

instance (ch : Char) : Decidable (IsDelim ch) := inferInstanceAs (Decidable (_ ∨ _))

/-- The loop of `rBitsArray::getValue` and the name behind it. -/
def getValueLoop : List Char → List Char → UInt32 → Bool → UInt32 × Bool
  | [], name, result, err =>
      if name ≠ [] then
        let (bit, err) := getBit flags (String.ofList name) err
        (result ||| bit, err)
      else (result, err)
  | ch :: str, name, result, err =>
      if IsDelim ch then
        if name ≠ [] then
          let (bit, err) := getBit flags (String.ofList name) err
          if err then (result ||| bit, err) else getValueLoop str [] (result ||| bit) err
        else getValueLoop str name result err
      else getValueLoop str (name ++ [ch]) result err

/-- `rBitsArray::getValue`. -/
def getValue (str : String) (err : Bool) : UInt32 × Bool :=
  if err then (0, err)
  else if str = "" then (0, err)
  else getValueLoop flags str.toList [] 0 err

/-! ### The words of a text -/

/-- The words of a text behind the characters `name` of the first one. -/
def wordsFrom : List Char → List Char → List String
  | name, [] => if name ≠ [] then [String.ofList name] else []
  | name, ch :: str =>
      if IsDelim ch then
        if name ≠ [] then String.ofList name :: wordsFrom [] str else wordsFrom [] str
      else wordsFrom (name ++ [ch]) str

/-- The words of a text. -/
def words (str : String) : List String := wordsFrom [] str.toList

/-- The flags that the words name together; `none` if there is no flag of a name. -/
def bitsOf : List String → Option UInt32
  | [] => some 0
  | word :: rest => do
      let item ← flags.find? fun item => item.name = word ∧ item.name ≠ ""
      let bits ← bitsOf rest
      return item.value ||| bits

variable {flags}

lemma getBit_ofList {name : List Char} (h : name ≠ []) :
    getBit flags (String.ofList name) false =
      match flags.find? fun item => item.name = String.ofList name ∧ item.name ≠ "" with
      | some item => (item.value, false)
      | none => (0, true) := by
  have hname : String.ofList name ≠ "" := fun heq => h (by
    rw [← String.toList_ofList (l := name), heq]
    rfl)
  rw [getBit, if_neg Bool.false_ne_true, if_neg hname]

/-- A name is added to the flags before it, or there is no flag of the name. -/
lemma getBit_bitsOf {name : List Char} (h : name ≠ []) (rest : List String) (result v : UInt32) :
    (∃ bit, getBit flags (String.ofList name) false = (bit, false) ∧
      ∃ bits, bitsOf flags rest = some bits ∧ v = result ||| bit ||| bits) ↔
    ∃ bits, bitsOf flags (String.ofList name :: rest) = some bits ∧ v = result ||| bits := by
  rw [getBit_ofList h, bitsOf]
  cases flags.find? fun item => item.name = String.ofList name ∧ item.name ≠ "" with
  | none => simp
  | some item =>
      cases bitsOf flags rest with
      | none => simp
      | some bits => simp [UInt32.or_assoc]

lemma getValueLoop_iff (str name : List Char) (result v : UInt32) :
    getValueLoop flags str name result false = (v, false) ↔
      ∃ bits, bitsOf flags (wordsFrom name str) = some bits ∧ v = result ||| bits := by
  induction str generalizing name result with
  | nil =>
      rw [getValueLoop, wordsFrom]
      by_cases hname : name ≠ []
      · rw [if_pos hname, if_pos hname, ← getBit_bitsOf hname]
        obtain ⟨bit, err⟩ := getBit flags (String.ofList name) false
        simp only [bitsOf, Prod.mk.injEq, Option.some.injEq, exists_eq_left', UInt32.or_zero]
        constructor
        · rintro ⟨rfl, rfl⟩
          exact ⟨bit, ⟨rfl, rfl⟩, rfl⟩
        · rintro ⟨_, ⟨rfl, rfl⟩, rfl⟩
          exact ⟨rfl, rfl⟩
      · rw [if_neg hname, if_neg hname]
        simp [bitsOf, eq_comm]
  | cons ch str ih =>
      rw [getValueLoop, wordsFrom]
      by_cases hdelim : IsDelim ch
      · rw [if_pos hdelim, if_pos hdelim]
        by_cases hname : name ≠ []
        · rw [if_pos hname, if_pos hname, ← getBit_bitsOf hname]
          obtain ⟨bit, err⟩ := getBit flags (String.ofList name) false
          cases err with
          | true => simp
          | false => simp [ih]
        · rw [if_neg hname, if_neg hname, ih, not_not.mp hname]
      · rw [if_neg hdelim, if_neg hdelim, ih]

/-- `getValue` gives a number without an error if and only if the words of the text name it. -/
theorem getValue_iff (str : String) (v : UInt32) :
    getValue flags str false = (v, false) ↔ bitsOf flags (words str) = some v := by
  rw [getValue, if_neg Bool.false_ne_true, words]
  by_cases hempty : str = ""
  · subst hempty
    have hwords : wordsFrom [] "".toList = [] := rfl
    rw [if_pos rfl, hwords]
    simp [bitsOf]
  · rw [if_neg hempty, getValueLoop_iff]
    simp [eq_comm]

/-- The words name none of the flags in the mask if and only if each of them is a name of a flag
outside of it. -/
lemma bitsOf_and_eq_zero_iff (mask : UInt32) (ws : List String) :
    (∃ v, bitsOf flags ws = some v ∧ v &&& mask = 0) ↔
      ∀ w ∈ ws, ∃ item, (flags.find? fun item => item.name = w ∧ item.name ≠ "") = some item ∧
        item.value &&& mask = 0 := by
  induction ws with
  | nil => simp [bitsOf]
  | cons w ws ih =>
      rw [List.forall_mem_cons, ← ih, bitsOf]
      cases flags.find? fun item => item.name = w ∧ item.name ≠ "" with
      | none => simp
      | some item =>
          cases bitsOf flags ws with
          | none => simp
          | some bits =>
              have hdistrib : (item.value ||| bits) &&& mask =
                  (item.value &&& mask) ||| (bits &&& mask) :=
                UInt32.toBitVec_inj.mp BitVec.and_or_distrib_right
              simp [hdistrib, UInt32.or_eq_zero_iff]

/-! ### Names that are read again -/

/-- The entries have distinct single bits, and distinct names without blanks and bars. -/
structure WellNamed (flags : List BitFlag) : Prop where
  values : (flags.map BitFlag.value).Nodup
  single : ∀ item ∈ flags, ∃ k, item.value.toNat = 2 ^ k
  names : (flags.map BitFlag.name).Nodup
  plain : ∀ item ∈ flags, item.name ≠ "" ∧ ∀ ch ∈ item.name.toList, ¬IsDelim ch

/-- The bits that have a name. -/
def namedBits (flags : List BitFlag) : UInt32 :=
  flags.foldr (fun item bits => item.value ||| bits) 0

lemma toList_ne_nil {s : String} (h : s ≠ "") : s.toList ≠ [] := fun hnil =>
  h (String.toList_inj.mp hnil)

lemma wordsFrom_plain {cs : List Char} (h : ∀ ch ∈ cs, ¬IsDelim ch) (name str : List Char) :
    wordsFrom name (cs ++ str) = wordsFrom (name ++ cs) str := by
  induction cs generalizing name with
  | nil => rw [List.append_nil]; rfl
  | cons ch cs ih =>
      rw [List.cons_append, wordsFrom, if_neg (h ch List.mem_cons_self),
        ih fun x hx => h x (List.mem_cons_of_mem ch hx), List.append_assoc]
      rfl

/-- Behind a bar the words begin again. -/
lemma wordsFrom_append (name str rest : List Char) :
    wordsFrom name (str ++ '|' :: rest) = wordsFrom name str ++ wordsFrom [] rest := by
  have hbar : IsDelim '|' := .inr rfl
  induction str generalizing name with
  | nil =>
      rw [List.nil_append, wordsFrom, wordsFrom, if_pos hbar]
      split_ifs <;> rfl
  | cons ch str ih =>
      rw [List.cons_append, wordsFrom, wordsFrom]
      split_ifs
      · rw [ih, List.cons_append]
      · exact ih []
      · exact ih (name ++ [ch])

/-- A plain name is one word. -/
lemma words_plain {name : String} (hne : name ≠ "") (h : ∀ ch ∈ name.toList, ¬IsDelim ch) :
    wordsFrom [] name.toList = [name] := by
  rw [← List.append_nil name.toList, wordsFrom_plain h, List.nil_append, wordsFrom,
    if_pos (toList_ne_nil hne), String.ofList_toList]

/-- The entries whose names are written. -/
def selected (flags : List BitFlag) (v : UInt32) : List BitFlag :=
  flags.filter fun item => item.value &&& v ≠ 0

lemma selected_cons (item : BitFlag) (flags : List BitFlag) (v : UInt32) :
    selected (item :: flags) v =
      if item.value &&& v ≠ 0 then item :: selected flags v else selected flags v := by
  rw [selected, List.filter_cons]
  simp only [decide_eq_true_eq]
  rfl

lemma mem_of_selected {item : BitFlag} {v : UInt32} (h : item ∈ selected flags v) : item ∈ flags :=
  List.mem_of_mem_filter h

lemma namedBits_cons (item : BitFlag) (flags : List BitFlag) :
    namedBits (item :: flags) = item.value ||| namedBits flags := rfl

/-- The words that are written are the names of the entries. -/
lemma words_foldl (hplain : ∀ item ∈ flags, item.name ≠ "" ∧ ∀ ch ∈ item.name.toList, ¬IsDelim ch)
    (v : UInt32) (result : String) :
    words (flags.foldl (fun result item =>
        if item.value &&& v ≠ 0 ∧ item.name ≠ "" then
          result ++ ((if result ≠ "" then "|" else "") ++ item.name)
        else result) result) = words result ++ (selected flags v).map BitFlag.name := by
  induction flags generalizing result with
  | nil => exact (List.append_nil _).symm
  | cons item flags ih =>
      obtain ⟨hne, hchars⟩ := hplain item List.mem_cons_self
      rw [List.foldl_cons, ih fun x hx => hplain x (List.mem_cons_of_mem item hx),
        selected_cons]
      by_cases hbits : item.value &&& v ≠ 0
      · have hword : words (result ++ ((if result ≠ "" then "|" else "") ++ item.name)) =
            words result ++ [item.name] := by
          rw [words, words, String.toList_append, String.toList_append]
          by_cases hresult : result = ""
          · rw [if_neg (not_not.mpr hresult), hresult]
            exact words_plain hne hchars
          · rw [if_pos hresult, ← words_plain hne hchars, ← wordsFrom_append]
            rfl
        rw [if_pos ⟨hbits, hne⟩, if_pos hbits, hword, List.map_cons, List.append_assoc]
        rfl
      · rw [if_neg fun h => hbits h.1, if_neg hbits]

/-- An entry is found under its name. -/
lemma find_name (h : WellNamed flags) {item : BitFlag} (hitem : item ∈ flags) :
    (flags.find? fun other => other.name = item.name ∧ other.name ≠ "") = some item := by
  have hne := (h.plain item hitem).1
  have hfind := Keyed.find_of_mem h.names hitem
  rw [← hfind]
  congr
  funext other
  exact decide_eq_decide.mpr (and_iff_left_of_imp fun hname => hname ▸ hne)

/-- The names of entries name their bits. -/
lemma bitsOf_names (h : WellNamed flags) {items : List BitFlag} (hitems : ∀ i ∈ items, i ∈ flags) :
    bitsOf flags (items.map BitFlag.name) = some (namedBits items) := by
  induction items with
  | nil => rfl
  | cons item items ih =>
      rw [List.map_cons, bitsOf, find_name h (hitems item List.mem_cons_self),
        ih fun i hi => hitems i (List.mem_cons_of_mem item hi)]
      rfl

/-- A single bit is in a number or not. -/
lemma single_and {a : UInt32} (h : ∃ k, a.toNat = 2 ^ k) (v : UInt32) :
    a &&& v = if a &&& v ≠ 0 then a else 0 := by
  obtain ⟨k, hk⟩ := h
  have hlt : k < 32 := by
    by_contra hle
    have hpow : 2 ^ 32 ≤ 2 ^ k := Nat.pow_le_pow_right Nat.two_pos (Nat.not_lt.mp hle)
    exact absurd a.toNat_lt (by omega)
  have hbits : a.toBitVec = BitVec.twoPow 32 k :=
    BitVec.eq_of_toNat_eq (hk.trans (BitVec.toNat_twoPow_of_lt hlt).symm)
  have hand : a &&& v = a ∨ a &&& v = 0 := by
    have htwo : (a &&& v).toBitVec = if v.toBitVec.getLsbD k then BitVec.twoPow 32 k else 0 := by
      rw [UInt32.toBitVec_and, hbits, BitVec.and_comm, BitVec.and_twoPow]
      rfl
    split at htwo
    · exact .inl (UInt32.toBitVec_inj.mp (htwo.trans hbits.symm))
    · exact .inr (UInt32.toBitVec_inj.mp htwo)
  split_ifs with hne
  · exact hand.resolve_right hne
  · exact not_not.mp hne

/-- The bits of the entries whose names are written. -/
lemma namedBits_selected (hsingle : ∀ item ∈ flags, ∃ k, item.value.toNat = 2 ^ k) (v : UInt32) :
    namedBits (selected flags v) = v &&& namedBits flags := by
  induction flags with
  | nil => exact UInt32.and_zero.symm
  | cons item flags ih =>
      have hdistrib : v &&& (item.value ||| namedBits flags) =
          (item.value &&& v) ||| (v &&& namedBits flags) := by
        rw [UInt32.and_comm item.value v]
        exact UInt32.toBitVec_inj.mp BitVec.and_or_distrib_left
      have hitem := single_and (hsingle item List.mem_cons_self) v
      have ih := ih fun x hx => hsingle x (List.mem_cons_of_mem item hx)
      rw [namedBits_cons, hdistrib, ← ih, selected_cons]
      by_cases hbits : item.value &&& v ≠ 0
      · rw [if_pos hbits] at hitem
        rw [if_pos hbits, namedBits_cons, hitem]
      · rw [if_neg hbits] at hitem
        rw [if_neg hbits, hitem, UInt32.zero_or]

/-- A word that is no name makes the words name nothing. -/
lemma bitsOf_eq_none {ws : List String} {w : String} (hw : w ∈ ws)
    (hno : ∀ item ∈ flags, item.name ≠ w) : bitsOf flags ws = none := by
  induction ws with
  | nil => exact absurd hw List.not_mem_nil
  | cons x ws ih =>
      rw [bitsOf]
      rcases List.mem_cons.mp hw with rfl | hw
      · have hfind : (flags.find? fun item => item.name = w ∧ item.name ≠ "") = none := by
          rw [List.find?_eq_none]
          exact fun item hitem h => hno item hitem (of_decide_eq_true h).1
        rw [hfind]
        rfl
      · rw [ih hw]
        cases flags.find? fun item => item.name = x ∧ item.name ≠ "" <;> rfl

/-- What is written is read again, and a text with another name is an error. -/
theorem getValue_getNameByBits (h : WellNamed flags) :
    (∀ v, getValue flags (getNameByBits flags v "|") false = (v &&& namedBits flags, false)) ∧
      ∀ str, (∃ w ∈ words str, ∀ item ∈ flags, item.name ≠ w) →
        (getValue flags str false).2 = true := by
  refine ⟨fun v => ?_, fun str hstr => ?_⟩
  · have hwords : words (getNameByBits flags v "|") = (selected flags v).map BitFlag.name :=
      words_foldl h.plain v ""
    rw [getValue_iff, hwords, bitsOf_names h fun i hi => mem_of_selected hi,
      namedBits_selected h.single]
  · obtain ⟨w, hw, hno⟩ := hstr
    cases herr : (getValue flags str false).2 with
    | true => rfl
    | false =>
        have hget : getValue flags str false = ((getValue flags str false).1, false) :=
          Prod.ext rfl herr
        rw [getValue_iff, bitsOf_eq_none hw hno] at hget
        exact absurd hget.symm (Option.some_ne_none _)

/-- A table in which one name begins another one. -/
theorem getValue_getNameByBits_prefix :
    getValue [⟨"ab", 1⟩, ⟨"a", 2⟩] (getNameByBits [⟨"ab", 1⟩, ⟨"a", 2⟩] 7 "|") false =
      (7 &&& namedBits [⟨"ab", 1⟩, ⟨"a", 2⟩], false) := by
  have hplain : ∀ ch ∈ ['a', 'b'], ¬IsDelim ch :=
    List.forall_mem_cons.mpr ⟨by decide, List.forall_mem_singleton.mpr (by decide)⟩
  refine (getValue_getNameByBits ⟨by decide, ?_, by decide, ?_⟩).1 7
  · simp only [List.forall_mem_cons, List.not_mem_nil, false_imp_iff, implies_true, and_true]
    exact ⟨⟨0, rfl⟩, 1, rfl⟩
  · refine List.forall_mem_cons.mpr ⟨⟨by decide, hplain⟩, List.forall_mem_singleton.mpr
      ⟨by decide, fun ch hch => hplain ch (List.mem_of_mem_take (i := 1) hch)⟩⟩

end BitsArray

end Tritonn

import Tritonn.Lib.Extended
import Tritonn.Store.TextWrite

/-!
The texts of values: the formats of `rVariable::valueToString`, `%#g` among them.

* `VType.number` is the number that a type reads in the memory, with the infinities and what is no
  number;
* `format` is the text of a value, and `denoted` the number that a text denotes;
* `VType.shown` is the number of a text by the bytes: floating point numbers have six significant
  digits (`sixValue`);
* `denoted_format` says that it is what the text denotes.
-/

namespace Tritonn

open Numeral (digits rest value fixedDigits allDigits)

/-! ### The numbers in the memory -/

/-- The sign of a binary floating point number with `mant` bits behind the point and `ex` bits of
the exponent. -/
def floatSign (mant ex bits : ℕ) : Bool := bits / 2 ^ (mant + ex) % 2 = 1

/-- The number without its sign. -/
def floatMagnitude (mant ex bits : ℕ) : Extended ℚ :=
  let f := bits % 2 ^ mant
  let e := bits / 2 ^ mant % 2 ^ ex
  if e = 2 ^ ex - 1 then (if f = 0 then .inf false else .nan)
  else
    .fin ((if e = 0 then f else 2 ^ mant + f : ℕ) *
      2 ^ ((max e 1 : ℕ) - (2 ^ (ex - 1) - 1) - mant : ℤ))

/-- A number with its sign. -/
def withSign (minus : Bool) : Extended ℚ → Extended ℚ
  | .nan => .nan
  | .inf _ => .inf minus
  | .fin x => .fin (if minus then -x else x)

namespace VType

/-- The number that bytes in the memory are for a type. -/
def number (type : VType) (data : List UInt8) : Extended ℚ :=
  match type with
  | .real => withSign (floatSign 23 8 (leNat data)) (floatMagnitude 23 8 (leNat data))
  | .lreal => withSign (floatSign 52 11 (leNat data)) (floatMagnitude 52 11 (leNat data))
  | type => .fin (type.decode data)

end VType

/-! ### Six digits -/

/-- The nearest natural number, the even one of two. -/
def roundEven (q : ℚ) : ℕ :=
  if q - ⌊q⌋₊ < 1 / 2 ∨ q - ⌊q⌋₊ = 1 / 2 ∧ ⌊q⌋₊ % 2 = 0 then ⌊q⌋₊ else ⌊q⌋₊ + 1

/-- Six significant digits, as a number, and the power of ten of the first one. -/
def sixDigits (x : ℚ) : ℕ × ℤ :=
  if x ≤ 0 then (0, 0)
  else
    let n := roundEven (x / 10 ^ (Int.log 10 x - 5))
    if n = 10 ^ 6 then (10 ^ 5, Int.log 10 x + 1) else (n, Int.log 10 x)

/-- The number with six significant digits. -/
def sixValue (x : ℚ) : ℚ := (sixDigits x).1 * 10 ^ ((sixDigits x).2 - 5)

lemma roundEven_le {q : ℚ} {n : ℕ} (hn : n ≠ 0) (h : q < n) : roundEven q ≤ n := by
  have hfloor : ⌊q⌋₊ < n := (Nat.floor_lt' hn).mpr h
  rw [roundEven]
  split_ifs
  · exact hfloor.le
  · exact hfloor

/-- The digits are six. -/
lemma sixDigits_lt (x : ℚ) : (sixDigits x).1 < 10 ^ 6 := by
  have hpow : (0 : ℚ) < 10 ^ (Int.log 10 x - 5) := by positivity
  have hx : x / 10 ^ (Int.log 10 x - 5) < (10 ^ 6 : ℕ) := by
    have hlog := Int.lt_zpow_succ_log_self (b := 10) (by decide) x
    have hsplit : ((10 : ℕ) : ℚ) ^ (Int.log 10 x + 1) =
        (10 ^ 6 : ℕ) * 10 ^ (Int.log 10 x - 5) := by
      rw [Nat.cast_pow, ← zpow_natCast, Nat.cast_ofNat, ← zpow_add₀ (by norm_num)]
      congr 1
      push_cast
      ring
    rwa [div_lt_iff₀ hpow, ← hsplit]
  rw [sixDigits]
  by_cases h0 : x ≤ 0
  · rw [if_pos h0]
    decide
  rw [if_neg h0]
  by_cases h6 : roundEven (x / 10 ^ (Int.log 10 x - 5)) = 10 ^ 6
  · simp only [if_pos h6]
    decide
  · simp only [if_neg h6]
    exact lt_of_le_of_ne (roundEven_le (by decide) hx) h6

/-! ### The formats -/

/-- A sign in front of a text. -/
def formatSign (minus : Bool) : List Char := if minus then ['-'] else []

/-- The characters of digits. -/
def formatDigits (ds : List ℕ) : List Char := ds.map Nat.digitChar

/-- The digits of an exponent, two at least. -/
def exponentDigits (k : ℕ) : List ℕ := fixedDigits 10 (max 2 (Nat.log 10 k + 1)) k

/-- `%#g` of a number that is not negative. -/
def formatMagnitude (x : ℚ) : List Char :=
  let (n, e) := sixDigits x
  let ds := fixedDigits 10 6 n
  if 0 ≤ e ∧ e < 6 then
    formatDigits (ds.take (e.toNat + 1)) ++ '.' :: formatDigits (ds.drop (e.toNat + 1))
  else if -4 ≤ e ∧ e < 0 then
    formatDigits [0] ++ '.' :: formatDigits (List.replicate (-e - 1).toNat 0 ++ ds)
  else
    formatDigits (ds.take 1) ++ '.' :: (formatDigits (ds.drop 1) ++
      'e' :: (if e < 0 then '-' else '+') :: formatDigits (exponentDigits e.natAbs))

/-- `%#g`. -/
def formatFloat (minus : Bool) : Extended ℚ → List Char
  | .nan => formatSign minus ++ ['n', 'a', 'n']
  | .inf _ => formatSign minus ++ ['i', 'n', 'f']
  | .fin x => formatSign minus ++ formatMagnitude x

/-- `%u` and `%i`. -/
def formatInt (n : ℤ) : List Char :=
  formatSign (n < 0) ++ formatDigits (allDigits 10 n.natAbs)

/-- `String_format` with the format of the type. -/
def format (type : VType) (data : List UInt8) : String :=
  String.ofList (match type with
    | .undef => []
    | .real => formatFloat (floatSign 23 8 (leNat data)) (floatMagnitude 23 8 (leNat data))
    | .lreal => formatFloat (floatSign 52 11 (leNat data)) (floatMagnitude 52 11 (leNat data))
    | type => formatInt (type.decode data))

/-- The conversions with these formats. -/
def TextNumbers.printf (text : TextNumbers) : TextNumbers := { text with format := Tritonn.format }

/-! ### What a text denotes -/

/-- The value of a decimal digit. -/
def charDigit (c : Char) : Option ℕ := if c.isDigit then some (c.toNat - 48) else none

/-- A minus in front of a text, and the text behind it. -/
def readSign : List Char → Bool × List Char
  | [] => (false, [])
  | c :: s => if c = '-' then (true, s) else (false, c :: s)

/-- The digits behind a point, and the text behind them. -/
def readFraction : List Char → List ℕ × List Char
  | [] => ([], [])
  | c :: s => if c = '.' then (digits charDigit s, rest charDigit s) else ([], c :: s)

/-- The exponent at the end of a text, zero where there is none. -/
def readExponent : List Char → Option ℤ
  | [] => some 0
  | [_] => none
  | c :: d :: s =>
      if c = 'e' ∧ (d = '-' ∨ d = '+') then
        (Numeral.number charDigit 10 s).map fun k : ℕ => if d = '-' then -(k : ℤ) else (k : ℤ)
      else none

/-- The number that a text without a sign denotes. -/
def readMagnitude (s : List Char) : Option (Extended ℚ) :=
  if s = ['n', 'a', 'n'] then some .nan
  else if s = ['i', 'n', 'f'] then some (.inf false)
  else
    let whole := digits charDigit s
    let (fraction, s) := readFraction (rest charDigit s)
    if whole = [] then none
    else (readExponent s).map fun e : ℤ =>
      .fin (value 10 (whole ++ fraction) * 10 ^ (e - fraction.length))

/-- The number that a text denotes. -/
def denoted (s : String) : Option (Extended ℚ) :=
  let (minus, s) := readSign s.toList
  (readMagnitude s).map (withSign minus)

/-! ### What the formats denote -/

lemma charDigit_digitChar {d : ℕ} (h : d < 10) : charDigit (Nat.digitChar d) = some d := by
  interval_cases d
  all_goals rfl

variable {ds : List ℕ} {t : List Char}

lemma digits_formatDigits (h : ∀ d ∈ ds, d < 10) (t : List Char) :
    digits charDigit (formatDigits ds ++ t) = ds ++ digits charDigit t :=
  Numeral.digits_map (fun d hd => charDigit_digitChar (h d hd)) t

lemma rest_formatDigits (h : ∀ d ∈ ds, d < 10) (t : List Char) :
    rest charDigit (formatDigits ds ++ t) = rest charDigit t :=
  Numeral.rest_map (fun d hd => charDigit_digitChar (h d hd)) t

lemma number_formatDigits (h : ∀ d ∈ ds, d < 10) (hds : ds ≠ []) :
    Numeral.number charDigit 10 (formatDigits ds) = some (value 10 ds) := by
  have hdigits := digits_formatDigits h []
  have hrest := rest_formatDigits h []
  rw [List.append_nil] at hdigits hrest
  rw [Numeral.number, hdigits, hrest, Numeral.digits_nil, List.append_nil, if_pos ⟨hds, rfl⟩]

/-- A text that begins with a digit begins with nothing else. -/
lemma formatDigits_ne (h : ∀ d ∈ ds, d < 10) (hds : ds ≠ []) {c : Char} (hc : charDigit c = none)
    (s : List Char) : formatDigits ds ++ t ≠ c :: s := by
  cases ds with
  | nil => exact absurd rfl hds
  | cons d ds =>
      intro heq
      have hhead : Nat.digitChar d = c := (List.cons.inj heq).1
      rw [← hhead, charDigit_digitChar (h d List.mem_cons_self)] at hc
      exact absurd hc (Option.some_ne_none d)

/-- Digits, a point and digits, with or without an exponent behind them. -/
lemma readMagnitude_point {fraction : List ℕ} (h : ∀ d ∈ ds, d < 10) (hds : ds ≠ [])
    (hfraction : ∀ d ∈ fraction, d < 10) (ht : digits charDigit t = [] ∧ rest charDigit t = t)
    {e : ℤ} (he : readExponent t = some e) :
    readMagnitude (formatDigits ds ++ '.' :: (formatDigits fraction ++ t)) =
      some (.fin (value 10 (ds ++ fraction) * 10 ^ (e - fraction.length))) := by
  have hpoint : charDigit '.' = none := by decide
  rw [readMagnitude, if_neg (formatDigits_ne h hds (by decide) _),
    if_neg (formatDigits_ne h hds (by decide) _), digits_formatDigits h, rest_formatDigits h,
    Numeral.digits_of_none hpoint, Numeral.rest_of_none hpoint, List.append_nil]
  simp only [readFraction, if_true, digits_formatDigits hfraction, rest_formatDigits hfraction,
    ht.1, ht.2, List.append_nil, if_neg hds, he, Option.map_some]

/-- Digits alone. -/
lemma readMagnitude_digits (h : ∀ d ∈ ds, d < 10) (hds : ds ≠ []) :
    readMagnitude (formatDigits ds) = some (.fin (value 10 ds)) := by
  have hdigits := digits_formatDigits h []
  have hrest := rest_formatDigits h []
  have hnan := formatDigits_ne (t := []) h hds (c := 'n') (by decide) ['a', 'n']
  have hinf := formatDigits_ne (t := []) h hds (c := 'i') (by decide) ['n', 'f']
  rw [List.append_nil] at hdigits hrest hnan hinf
  rw [readMagnitude, if_neg hnan, if_neg hinf, hdigits, hrest]
  simp [readFraction, hds, readExponent]

lemma exponentDigits_lt (k : ℕ) : ∀ d ∈ exponentDigits k, d < 10 :=
  fun _ => Numeral.lt_of_mem_fixedDigits (by decide)

lemma value_exponentDigits (k : ℕ) : value 10 (exponentDigits k) = k := by
  have hlog : k < 10 ^ (Nat.log 10 k + 1) := Nat.lt_pow_succ_log_self (by decide) k
  have hpow : 10 ^ (Nat.log 10 k + 1) ≤ 10 ^ max 2 (Nat.log 10 k + 1) :=
    Nat.pow_le_pow_right (by decide) (le_max_right _ _)
  rw [exponentDigits, Numeral.value_fixedDigits, Nat.mod_eq_of_lt (hlog.trans_le hpow)]

lemma readExponent_format (e : ℤ) :
    readExponent ('e' :: (if e < 0 then '-' else '+') :: formatDigits (exponentDigits e.natAbs)) =
      some e := by
  have hne : exponentDigits e.natAbs ≠ [] :=
    List.ne_nil_of_length_pos (by rw [exponentDigits, Numeral.length_fixedDigits]; omega)
  have hnumber := number_formatDigits (exponentDigits_lt e.natAbs) hne
  rw [value_exponentDigits] at hnumber
  by_cases he : e < 0
  · rw [if_pos he, readExponent, if_pos ⟨rfl, .inl rfl⟩, hnumber, Option.map_some, if_pos rfl]
    congr 1
    omega
  · rw [if_neg he, readExponent, if_pos ⟨rfl, .inr rfl⟩, hnumber, Option.map_some,
      if_neg (by decide)]
    congr 1
    omega

/-- The digits of a magnitude denote the number with six digits. -/
theorem readMagnitude_format (x : ℚ) :
    readMagnitude (formatMagnitude x) = some (.fin (sixValue x)) := by
  have hn := sixDigits_lt x
  rw [formatMagnitude, sixValue]
  generalize sixDigits x = p at hn
  obtain ⟨n, e⟩ := p
  have hlt : ∀ d ∈ fixedDigits 10 6 n, d < 10 := fun _ =>
    Numeral.lt_of_mem_fixedDigits (by decide)
  have hvalue : value 10 (fixedDigits 10 6 n) = n := by
    rw [Numeral.value_fixedDigits, Nat.mod_eq_of_lt hn]
  have hlength := Numeral.length_fixedDigits 10 6 n
  dsimp only
  generalize fixedDigits 10 6 n = ds at hlt hvalue hlength
  have hnil : digits charDigit [] = [] ∧ rest charDigit [] = [] := ⟨rfl, rfl⟩
  have htake : ∀ k, 0 < k → ds.take k ≠ [] := by
    intro k hk
    exact List.ne_nil_of_length_pos (by rw [List.length_take, hlength]; omega)
  have htakelt : ∀ k, ∀ d ∈ ds.take k, d < 10 := fun k d hd => hlt d (List.mem_of_mem_take hd)
  have hdroplt : ∀ k, ∀ d ∈ ds.drop k, d < 10 := fun k d hd => hlt d (List.mem_of_mem_drop hd)
  by_cases hfixed : 0 ≤ e ∧ e < 6
  · -- the point lies within the digits
    have hread := readMagnitude_point (htakelt (e.toNat + 1)) (htake _ (Nat.succ_pos _))
      (hdroplt (e.toNat + 1)) hnil (e := 0) rfl
    rw [List.append_nil, List.take_append_drop, List.length_drop, hlength, hvalue] at hread
    rw [if_pos hfixed, hread]
    congr 4
    omega
  by_cases hsmall : -4 ≤ e ∧ e < 0
  · -- there are zeros in front of them
    have hmem : ∀ d ∈ List.replicate (-e - 1).toNat 0 ++ ds, d < 10 := by
      intro d hd
      rcases List.mem_append.mp hd with hd | hd
      · rw [List.eq_of_mem_replicate hd]
        decide
      · exact hlt d hd
    have hzero : ∀ d ∈ [0], d < 10 := fun d hd => by rw [List.mem_singleton.mp hd]; decide
    have hread := readMagnitude_point hzero (List.cons_ne_nil 0 []) hmem hnil (e := 0) rfl
    rw [List.append_nil, List.singleton_append, Numeral.value_zero_cons,
      Numeral.value_replicate_append, List.length_append, List.length_replicate, hlength,
      hvalue] at hread
    rw [if_neg hfixed, if_pos hsmall, hread]
    congr 4
    omega
  · -- one digit before the point, and an exponent
    have hread := readMagnitude_point (htakelt 1) (htake 1 Nat.one_pos) (hdroplt 1)
      ⟨Numeral.digits_of_none (by decide), Numeral.rest_of_none (by decide)⟩
      (readExponent_format e)
    rw [List.take_append_drop, List.length_drop, hlength, hvalue] at hread
    rw [if_neg hfixed, if_neg hsmall, hread]
    rfl

/-- A magnitude does not begin with a sign. -/
lemma readMagnitude_minus (s : List Char) : readMagnitude ('-' :: s) = none := by
  have hminus : charDigit '-' = none := by decide
  have hnan : '-' :: s ≠ ['n', 'a', 'n'] := fun h => absurd (List.cons.inj h).1 (by decide)
  have hinf : '-' :: s ≠ ['i', 'n', 'f'] := fun h => absurd (List.cons.inj h).1 (by decide)
  rw [readMagnitude, if_neg hnan, if_neg hinf, Numeral.digits_of_none hminus]
  rfl

lemma denoted_sign {s : List Char} {y : Extended ℚ} (h : readMagnitude s = some y) (minus : Bool) :
    denoted (String.ofList (formatSign minus ++ s)) = some (withSign minus y) := by
  have hread : readSign (formatSign minus ++ s) = (minus, s) := by
    cases minus with
    | true => rfl
    | false =>
        cases s with
        | nil => rfl
        | cons c s =>
            have hc : c ≠ '-' := by
              rintro rfl
              rw [readMagnitude_minus] at h
              exact absurd h (Option.some_ne_none y).symm
            exact if_neg hc
  rw [denoted, String.toList_ofList, hread]
  simp only [h, Option.map_some]

/-- A magnitude with six digits. -/
def sixed : Extended ℚ → Extended ℚ
  | .nan => .nan
  | .inf minus => .inf minus
  | .fin x => .fin (sixValue x)

/-- The number that the text of a value shows. -/
def VType.shown (type : VType) (data : List UInt8) : Option (Extended ℚ) :=
  match type with
  | .undef => none
  | .real =>
      some (withSign (floatSign 23 8 (leNat data)) (sixed (floatMagnitude 23 8 (leNat data))))
  | .lreal =>
      some (withSign (floatSign 52 11 (leNat data)) (sixed (floatMagnitude 52 11 (leNat data))))
  | type => some (.fin (type.decode data))

lemma denoted_float (minus : Bool) (y : Extended ℚ) :
    denoted (String.ofList (formatFloat minus y)) = some (withSign minus (sixed y)) := by
  cases y with
  | nan => exact denoted_sign rfl minus
  | inf _ => exact denoted_sign (y := .inf false) rfl minus
  | fin x => exact denoted_sign (readMagnitude_format x) minus

lemma denoted_int (n : ℤ) : denoted (String.ofList (formatInt n)) = some (.fin n) := by
  have hne : allDigits 10 n.natAbs ≠ [] :=
    List.ne_nil_of_length_pos (by rw [allDigits, Numeral.length_fixedDigits]; omega)
  have hlt : ∀ d ∈ allDigits 10 n.natAbs, d < 10 := fun _ =>
    Numeral.lt_of_mem_fixedDigits (by decide)
  have hread := readMagnitude_digits hlt hne
  rw [Numeral.value_allDigits (by decide)] at hread
  rw [formatInt, denoted_sign hread, withSign]
  congr 2
  split_ifs with hneg
  · have habs : -(n.natAbs : ℤ) = n := by
      have hlt := of_decide_eq_true hneg
      omega
    rw [← Int.cast_natCast, ← Int.cast_neg, habs]
  · have habs : (n.natAbs : ℤ) = n := by
      have hle := of_decide_eq_false (Bool.eq_false_of_not_eq_true hneg)
      omega
    rw [← Int.cast_natCast, habs]

/-- The text of a value denotes the number that is shown. -/
theorem denoted_format (type : VType) (data : List UInt8) :
    denoted (format type data) = type.shown data := by
  cases type
  case undef => rfl
  case real | lreal => exact denoted_float _ _
  all_goals exact denoted_int _

end Tritonn

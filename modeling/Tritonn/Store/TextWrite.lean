import Tritonn.Lib.Numeral
import Tritonn.Store.Text

/-!
Texts that are written to integer variables: `rSnapshotItem(var, string)` with `std::stoul` and
`std::stol`.

* `stoul` and `stol` are the functions of the standard library for sixty-four bits, in base ten;
* `denotes` is the number that a whole text denotes, and `VType.decode` the number that a type reads
  in the memory;
* `AllOrNothing` is the property of a variable and a text: the item is an error that writes nothing,
  or it holds the number that the text denotes, whatever the memory held before;
* `allOrNothing_iff` says that it holds if and only if the text meets `Clean`;
* `allOrNothing_fails` is a text with something behind the number.
-/

namespace Tritonn

/-! ### The standard library -/

/-- `isspace`. -/
def isSpace (c : UInt8) : Bool := c = 0x20 || (0x09 ≤ c && c ≤ 0x0D)

/-- The value of a decimal digit. -/
def decDigit (c : UInt8) : Option ℕ :=
  if 0x30 ≤ c ∧ c ≤ 0x39 then some (c.toNat - 0x30) else none

/-- A sign in front of a text, and the text behind it. -/
def sign : List UInt8 → Bool × List UInt8
  | [] => (false, [])
  | c :: s => if c = 0x2D then (true, s) else if c = 0x2B then (false, s) else (false, c :: s)

/-- The number in front of a text, in base ten: whether there is a minus, the digits, and what
follows them. -/
def subject (s : List UInt8) : Option (Bool × ℕ × List UInt8) :=
  let (minus, s) := sign (s.dropWhile isSpace)
  if Numeral.digits decDigit s = [] then none
  else some (minus, Numeral.value 10 (Numeral.digits decDigit s), Numeral.rest decDigit s)

/-- The number with its sign. -/
def signed (minus : Bool) (n : ℕ) : ℤ := if minus then -n else n

/-- `std::stoul`, for a `long` of sixty-four bits: a minus is taken modulo the range of the type. -/
def stoul (s : List UInt8) : Option UInt64 :=
  (subject s).bind fun (minus, n, _) =>
    if n < 2 ^ 64 then some (if minus then -.ofNat n else .ofNat n) else none

/-- `std::stol`, for a `long` of sixty-four bits. -/
def stol (s : List UInt8) : Option UInt64 :=
  (subject s).bind fun (minus, n, _) =>
    if -2 ^ 63 ≤ signed minus n ∧ signed minus n < 2 ^ 63 then some (.ofInt (signed minus n))
    else none

/-- The conversions with these functions. -/
def TextNumbers.standard (text : TextNumbers) : TextNumbers :=
  { text with stoul := Tritonn.stoul, stol := Tritonn.stol }

/-! ### The numbers -/

namespace VType

/-- A type of integers. -/
def IsInteger (type : VType) : Prop := type ≠ .undef ∧ type ≠ .real ∧ type ≠ .lreal

instance (type : VType) : Decidable type.IsInteger := inferInstanceAs (Decidable (_ ∧ _ ∧ _))

/-- A type of integers with a sign. -/
def isSigned : VType → Bool
  | .sint | .int | .dint => true
  | _ => false

/-- The integer that bytes in the memory are for a type. -/
def decode (type : VType) (data : List UInt8) : ℤ :=
  if type.isSigned ∧ 256 ^ getTypeSize type ≤ 2 * leNat data then
    leNat data - 256 ^ getTypeSize type
  else leNat data

/-- The number is one of the type. -/
def Fits (type : VType) (n : ℤ) : Prop :=
  if type.isSigned then
    -256 ^ getTypeSize type ≤ 2 * n ∧ 2 * n < 256 ^ getTypeSize type
  else 0 ≤ n ∧ n < 256 ^ getTypeSize type

instance (type : VType) (n : ℤ) : Decidable (type.Fits n) := inferInstanceAs (Decidable (ite _ _ _))

end VType

/-- The value of a hexadecimal digit. -/
def hexValue (c : UInt8) : Option ℕ := (hexDigit c).map UInt8.toNat

/-- The text is taken for a hexadecimal number. -/
def IsHex (val : List UInt8) : Prop :=
  3 ≤ val.length ∧ val[0]? = some 0x30 ∧ (val[1]? = some 0x78 ∨ val[1]? = some 0x58)

instance (val : List UInt8) : Decidable (IsHex val) := inferInstanceAs (Decidable (_ ∧ _ ∧ _))

/-- The number that a whole text denotes: a hexadecimal one after `0x`, or a decimal one. -/
def denotes (val : List UInt8) : Option ℤ :=
  if IsHex val then
    (Numeral.number hexValue 16 (val.drop 2)).map Nat.cast
  else
    (subject val).bind fun (minus, n, rest) => if rest = [] then some (signed minus n) else none

/-! ### What the functions read -/

lemma decDigit_ne_zero {c : UInt8} {d : ℕ} (h : decDigit c = some d) : decide (c ≠ 0) = true := by
  rw [decide_eq_true_iff]
  rintro rfl
  exact absurd h (Option.some_ne_none d).symm

lemma isSpace_ne_zero {c : UInt8} (h : isSpace c = true) : decide (c ≠ 0) = true := by
  rw [decide_eq_true_iff]
  rintro rfl
  exact absurd h (by decide)

lemma sign_takeWhile (s : List UInt8) :
    sign (s.takeWhile (· ≠ 0)) = ((sign s).1, (sign s).2.takeWhile (· ≠ 0)) := by
  cases s with
  | nil => rfl
  | cons c s =>
      by_cases hminus : c = 0x2D
      · subst hminus
        rfl
      by_cases hplus : c = 0x2B
      · subst hplus
        rfl
      have hsign : sign (c :: s) = (false, c :: s) := by
        rw [sign, if_neg hminus, if_neg hplus]
      rw [hsign, List.takeWhile_cons]
      split_ifs
      · rw [sign, if_neg hminus, if_neg hplus]
      · rfl

/-- A text that ends at its first zero has the same number in front of it. -/
lemma subject_takeWhile (s : List UInt8) :
    subject (s.takeWhile (· ≠ 0)) =
      (subject s).map fun (minus, n, rest) => (minus, n, rest.takeWhile (· ≠ 0)) := by
  rw [subject, subject, Numeral.dropWhile_takeWhile (fun _ => isSpace_ne_zero), sign_takeWhile]
  simp only [Numeral.digits_takeWhile (fun _ _ => decDigit_ne_zero),
    Numeral.rest_takeWhile (fun _ _ => decDigit_ne_zero)]
  split_ifs
  · rfl
  · rfl

/-- The sixty-four bits of the number in front of a text, if there are as many. -/
def bits (type : VType) (val : List UInt8) : Option UInt64 :=
  if type.isSigned then stol val else stoul val

/-- There is no number in front of the text, or it needs more than sixty-four bits. -/
def Rejected (type : VType) (val : List UInt8) : Prop :=
  ∀ minus n rest, subject val = some (minus, n, rest) →
    if type.isSigned then ¬ (-2 ^ 63 ≤ signed minus n ∧ signed minus n < 2 ^ 63) else 2 ^ 64 ≤ n

lemma bits_takeWhile (type : VType) (val : List UInt8) :
    bits type (val.takeWhile (· ≠ 0)) = bits type val := by
  rw [bits, bits, stol, stol, stoul, stoul, subject_takeWhile]
  cases subject val with
  | none => rfl
  | some p => rfl

lemma bits_eq_none_iff (type : VType) (val : List UInt8) :
    bits type val = none ↔ Rejected type val := by
  rw [bits, stol, stoul, Rejected]
  cases subject val with
  | none => simp
  | some p =>
      obtain ⟨minus, n, rest⟩ := p
      split_ifs
      · simp
      · simp

lemma decimalData_eq (text : TextNumbers) {type : VType} (h : type.IsInteger) (val : List UInt8) :
    SnapshotItem.decimalData text.standard type val =
      (bits type val).map fun n => leBytes (getTypeSize type) n.toNat := by
  cases type
  case undef => exact absurd rfl h.1
  case real => exact absurd rfl h.2.1
  case lreal => exact absurd rfl h.2.2
  all_goals rfl

/-! ### What a type reads -/

namespace VType

variable {type : VType} {data : List UInt8} {n : ℤ}

lemma decode_fits (h : data.length = getTypeSize type) : type.Fits (type.decode data) := by
  have hlt := leNat_lt data
  rw [h] at hlt
  have hcast : ((256 ^ getTypeSize type : ℕ) : ℤ) = 256 ^ getTypeSize type := by push_cast; rfl
  rw [decode, Fits, ← hcast]
  generalize 256 ^ getTypeSize type = B at hlt
  cases type.isSigned with
  | false =>
      simp only [Bool.false_eq_true, false_and, if_false]
      omega
  | true =>
      simp only [true_and, if_true]
      split_ifs
      · omega
      · omega

/-- The bytes of a number that is congruent to one of the type. -/
lemma decode_leBytes (h : type.Fits n) {m : ℕ}
    (hm : ((m % 256 ^ getTypeSize type : ℕ) : ℤ) = n ∨
      ((m % 256 ^ getTypeSize type : ℕ) : ℤ) = n + 256 ^ getTypeSize type) :
    type.decode (leBytes (getTypeSize type) m) = n := by
  have hlt : m % 256 ^ getTypeSize type < 256 ^ getTypeSize type :=
    Nat.mod_lt _ (Nat.pow_pos (by decide))
  have hcast : ((256 ^ getTypeSize type : ℕ) : ℤ) = 256 ^ getTypeSize type := by push_cast; rfl
  rw [Fits, ← hcast] at h
  rw [← hcast] at hm
  rw [decode, leNat_leBytes, ← hcast]
  generalize m % 256 ^ getTypeSize type = x at hlt hm
  generalize 256 ^ getTypeSize type = B at hlt hm h
  cases hsigned : type.isSigned with
  | false =>
      simp only [hsigned, Bool.false_eq_true, false_and, if_false] at h ⊢
      omega
  | true =>
      simp only [hsigned, true_and, if_true] at h ⊢
      split_ifs
      · omega
      · omega

/-- The bytes of a number of the type without a sign. -/
lemma decode_natCast {m : ℕ} (h : type.Fits m) :
    type.decode (leBytes (getTypeSize type) m) = m := by
  have hcast : ((256 ^ getTypeSize type : ℕ) : ℤ) = 256 ^ getTypeSize type := by push_cast; rfl
  have hlt : m < 256 ^ getTypeSize type := by
    rw [Fits, ← hcast] at h
    split_ifs at h
    · omega
    · omega
  exact decode_leBytes h (.inl (by rw [Nat.mod_eq_of_lt hlt]))

/-- The low bytes of sixty-four bits. -/
lemma decode_bits (h : type.Fits n) (htype : type.IsInteger) :
    type.decode (leBytes (getTypeSize type) (UInt64.ofInt n).toNat) = n := by
  have hnat : (UInt64.ofInt n).toNat = (n % 2 ^ 64).toNat := by
    rw [UInt64.ofInt, UInt64.toNat_ofNat']
    omega
  refine decode_leBytes h ?_
  rw [hnat]
  rw [Fits] at h
  cases type
  case undef => exact absurd rfl htype.1
  case real => exact absurd rfl htype.2.1
  case lreal => exact absurd rfl htype.2.2
  all_goals
    simp only [isSigned, getTypeSize, if_true, if_false, Bool.false_eq_true] at h ⊢
    omega

end VType

lemma ofInt_natCast (n : ℕ) : UInt64.ofInt n = .ofNat n := by
  apply UInt64.toNat_inj.mp
  rw [UInt64.ofInt, UInt64.toNat_ofNat', UInt64.toNat_ofNat']
  omega

/-- A minus is taken modulo the range of the type. -/
lemma neg_ofNat (minus : Bool) (n : ℕ) :
    (if minus then -UInt64.ofNat n else .ofNat n) = .ofInt (signed minus n) := by
  cases minus
  · exact (ofInt_natCast n).symm
  · rw [signed, if_pos rfl, if_pos rfl, UInt64.ofInt_neg, ofInt_natCast]

lemma bits_eq {type : VType} {val rest : List UInt8} {minus : Bool} {n : ℕ}
    (h : subject val = some (minus, n, rest)) (hfits : type.Fits (signed minus n))
    (htype : type.IsInteger) : bits type val = some (.ofInt (signed minus n)) := by
  rw [bits, stol, stoul, h]
  simp only [Option.bind_some, neg_ofNat]
  have hrange : if type.isSigned then -2 ^ 63 ≤ signed minus n ∧ signed minus n < 2 ^ 63
      else n < 2 ^ 64 := by
    rw [VType.Fits] at hfits
    cases type
    case undef => exact absurd rfl htype.1
    case real => exact absurd rfl htype.2.1
    case lreal => exact absurd rfl htype.2.2
    all_goals
      cases minus
      all_goals
        simp only [VType.isSigned, getTypeSize, signed, if_true, if_false,
          Bool.false_eq_true] at hfits ⊢
        omega
  split_ifs at hrange ⊢
  · rfl
  · rfl

/-! ### Hexadecimal texts -/

lemma hexDigit_lt {c x : UInt8} (h : hexDigit c = some x) : x.toNat < 16 := by
  have hsub : ∀ k m : UInt8, k ≤ c ∧ c ≤ m → m.toNat < k.toNat + 16 → (c - k).toNat < 16 := by
    intro k m hc hm
    have hlow := UInt8.le_iff_toNat_le.mp hc.1
    have hhigh := UInt8.le_iff_toNat_le.mp hc.2
    rw [UInt8.toNat_sub_of_le _ _ hc.1]
    omega
  rw [hexDigit] at h
  split_ifs at h with h0 h1 h2
  · obtain rfl := Option.some.inj h
    exact hsub _ _ h0 (by decide)
  · obtain rfl := Option.some.inj h
    exact hsub 0x37 0x46 ⟨UInt8.le_trans (by decide) h1.1, h1.2⟩ (by decide)
  · obtain rfl := Option.some.inj h
    exact hsub 0x57 0x66 ⟨UInt8.le_trans (by decide) h2.1, h2.2⟩ (by decide)

/-- The loop at digits alone takes eight of them. -/
lemma isValidHexLoop_eq {ds : List UInt8} (h : Numeral.rest hexValue ds = []) {ii : ℕ}
    (hii : ii ≤ 8) {val : UInt32} (hval : val.toNat < 16 ^ ii) :
    (isValidHexLoop ii ds val).map UInt32.toNat =
      if ii + ds.length ≤ 8 then
        some ((Numeral.digits hexValue ds).foldl (fun n d => 16 * n + d) val.toNat)
      else none := by
  induction ds generalizing ii val with
  | nil =>
      rw [isValidHexLoop, List.length_nil, Nat.add_zero, if_pos hii]
      rfl
  | cons c ds ih =>
      cases hc : hexDigit c with
      | none =>
          rw [Numeral.rest_of_none (by rw [hexValue, hc, Option.map_none])] at h
          exact absurd h (List.cons_ne_nil c ds)
      | some x =>
          have hvalue : hexValue c = some x.toNat := by rw [hexValue, hc, Option.map_some]
          have hzero : c ≠ 0 := by
            rintro rfl
            rw [hexDigit_zero] at hc
            exact absurd hc (Option.some_ne_none x).symm
          rw [Numeral.rest_of_some hvalue] at h
          rw [isValidHexLoop, if_neg hzero, hc, Numeral.digits_of_some hvalue, List.foldl_cons,
            List.length_cons]
          by_cases h8 : 8 ≤ ii
          · rw [if_pos h8, if_neg (by omega), Option.map_none]
          · have hx := hexDigit_lt hc
            have hbound : 16 * val.toNat + x.toNat < 16 ^ (ii + 1) := by
              rw [pow_succ']
              omega
            have hmax : (16 : ℕ) ^ (ii + 1) ≤ 16 ^ 8 := Nat.pow_le_pow_right (by decide) (by omega)
            have hnext : ((val <<< 4) + x.toUInt32).toNat = 16 * val.toNat + x.toNat := by
              rw [UInt32.toNat_add, UInt32.toNat_shiftLeft, UInt8.toNat_toUInt32, Nat.shiftLeft_eq]
              simp only [UInt32.reduceToNat, Nat.reduceMod, Nat.reducePow]
              omega
            have hroom : ii + 1 ≤ 8 := by omega
            have hstep := ih h hroom (hnext ▸ hbound)
            rw [if_neg h8, hstep, hnext, Nat.add_assoc, Nat.add_comm 1]

/-- A whole hexadecimal number is found if and only if it has eight digits at most. -/
lemma isValidHex_eq {ds : List UInt8} {m : ℕ} (h : Numeral.number hexValue 16 ds = some m) :
    (isValidHex ds).map UInt32.toNat = if ds.length ≤ 8 then some m else none := by
  rw [Numeral.number] at h
  split_ifs at h with hwhole
  have hstart : (0 : UInt32).toNat < 16 ^ 0 := Nat.one_pos
  have hloop := isValidHexLoop_eq hwhole.2 (Nat.zero_le 8) hstart
  rw [Nat.zero_add] at hloop
  rw [isValidHex, hloop, ← Option.some.inj h]
  rfl

/-! ### The property -/

open SnapshotItem (ofString assignData)

/-- The item of a text is an error that writes nothing, or it is to be written and holds the number
that the whole text denotes, whatever the memory held before. -/
def AllOrNothing (text : TextNumbers) (v : Variable) (val : List UInt8) : Prop :=
  ∀ raw : SnapshotItem,
    ((ofString text.standard raw (some v) val).status = .error ∧
      ∀ (st : Store) (access : UInt32),
        (st.setItem access (ofString text.standard raw (some v) val)).1 = st) ∨
    ((ofString text.standard raw (some v) val).status = .towrite ∧
      (ofString text.standard raw (some v) val).data.length = getTypeSize v.type ∧
      denotes val = some (v.type.decode (ofString text.standard raw (some v) val).data))

/-- The condition: the text is no hexadecimal one and begins with no number of sixty-four bits, or
the type is not `STRID` and the whole text denotes a number of the type, in eight digits at most
where it is hexadecimal. -/
def Clean (type : VType) (val : List UInt8) : Prop :=
  (¬ IsHex val ∧ Rejected type val) ∨
    (type ≠ .strid ∧ (IsHex val → val.length ≤ 10) ∧ ∃ n, denotes val = some n ∧ type.Fits n)

variable {text : TextNumbers} {v : Variable} {val : List UInt8}

lemma setItem_error (st : Store) (access : UInt32) :
    (st.setItem access (SnapshotItem.cleared v)).1 = st := by
  rw [Store.setItem, SnapshotItem.cleared]
  rfl

/-- The item of a hexadecimal text. -/
lemma ofString_hex (htype : v.type.IsInteger) (hex : IsHex val) (raw : SnapshotItem) :
    ofString text.standard raw (some v) val =
      ⟨some v, .towrite, match isValidHex (val.drop 2) with
        | some number => assignData raw v.type (leBytes (getTypeSize v.type) number.toNat)
        | none => raw.data.take (getTypeSize v.type)⟩ := by
  have hdata : ∀ number, SnapshotItem.hexData text.standard v.type number =
      some (leBytes (getTypeSize v.type) number.toNat) := by
    intro number
    rw [VType.IsInteger] at htype
    cases htype' : v.type
    case undef => exact absurd htype' htype.1
    case real => exact absurd htype' htype.2.1
    case lreal => exact absurd htype' htype.2.2
    all_goals rfl
  rw [IsHex] at hex
  rw [ofString, if_pos hex]
  cases isValidHex (val.drop 2) with
  | none => rfl
  | some number => simp only [hdata]

/-- The item of a decimal text. -/
lemma ofString_decimal (htype : v.type.IsInteger) (hex : ¬ IsHex val) (raw : SnapshotItem) :
    ofString text.standard raw (some v) val =
      match bits v.type val with
      | some n => ⟨some v, .towrite, assignData raw v.type (leBytes (getTypeSize v.type) n.toNat)⟩
      | none => SnapshotItem.cleared v := by
  rw [IsHex] at hex
  rw [ofString, if_neg hex, decimalData_eq text htype, bits_takeWhile]
  cases bits v.type val with
  | none => rfl
  | some n => rfl

/-- Data that stay as the memory held them are not the number of a text. -/
lemma not_allOrNothing_of_raw (h : ∀ raw, ofString text.standard raw (some v) val =
    ⟨some v, .towrite, raw.data.take (getTypeSize v.type)⟩) : ¬ AllOrNothing text v val := by
  intro hall
  have hzeros := hall ⟨none, .undef, List.replicate 8 0⟩
  have hones := hall ⟨none, .undef, List.replicate 8 1⟩
  rw [h] at hzeros hones
  simp only [reduceCtorEq, false_and, true_and, false_or] at hzeros hones
  have hsame := hzeros.2.symm.trans hones.2
  cases htype : v.type
  all_goals
    rw [htype] at hsame
    exact absurd hsame (by decide)

/-- A hexadecimal text. -/
lemma allOrNothing_hex (htype : v.type.IsInteger) (hex : IsHex val) :
    AllOrNothing text v val ↔
      v.type ≠ .strid ∧ val.length ≤ 10 ∧ ∃ n, denotes val = some n ∧ v.type.Fits n := by
  have hnumber : ∀ n, denotes val = some n → ∃ m : ℕ, (m : ℤ) = n ∧
      (isValidHex (val.drop 2)).map UInt32.toNat = if val.length ≤ 10 then some m else none := by
    intro n hn
    rw [denotes, if_pos hex] at hn
    obtain ⟨m, hm, rfl⟩ := Option.map_eq_some_iff.mp hn
    refine ⟨m, rfl, ?_⟩
    rw [isValidHex_eq hm, List.length_drop]
    have hlength := hex.1
    simp only [show val.length - 2 ≤ 8 ↔ val.length ≤ 10 by omega]
  constructor
  · intro h
    have hvalid : v.type ≠ .strid ∧ isValidHex (val.drop 2) ≠ none := by
      refine ⟨fun hstrid => ?_, fun hnone => ?_⟩
      · refine not_allOrNothing_of_raw (fun raw => ?_) h
        rw [ofString_hex htype hex]
        simp only [assignData, if_pos hstrid]
        cases isValidHex (val.drop 2) with
        | none => rfl
        | some number => rfl
      · refine not_allOrNothing_of_raw (fun raw => ?_) h
        rw [ofString_hex htype hex, hnone]
    have hitem := h (.cleared v)
    rw [ofString_hex htype hex] at hitem
    simp only [reduceCtorEq, false_and, true_and, false_or] at hitem
    refine ⟨hvalid.1, ?_, _, hitem.2, VType.decode_fits hitem.1⟩
    obtain ⟨m, -, hshort⟩ := hnumber _ hitem.2
    by_contra hlong
    rw [if_neg hlong, Option.map_eq_none_iff] at hshort
    exact hvalid.2 hshort
  · rintro ⟨hstrid, hlength, n, hn, hfits⟩ raw
    obtain ⟨m, rfl, hvalid⟩ := hnumber n hn
    rw [if_pos hlength] at hvalid
    obtain ⟨number, hsome, rfl⟩ := Option.map_eq_some_iff.mp hvalid
    rw [ofString_hex htype hex, hsome]
    simp only [assignData, if_neg hstrid]
    refine .inr ⟨trivial, length_leBytes _ _, ?_⟩
    rw [hn]
    exact congrArg some (VType.decode_natCast hfits).symm

/-- A decimal text. -/
lemma allOrNothing_decimal (htype : v.type.IsInteger) (hex : ¬ IsHex val) :
    AllOrNothing text v val ↔
      Rejected v.type val ∨ v.type ≠ .strid ∧ ∃ n, denotes val = some n ∧ v.type.Fits n := by
  constructor
  · intro h
    have hitem := h (.cleared v)
    rw [ofString_decimal htype hex] at hitem
    cases hbits : bits v.type val with
    | none => exact .inl ((bits_eq_none_iff v.type val).mp hbits)
    | some n =>
        have hstrid : v.type ≠ .strid := by
          intro hstrid
          refine not_allOrNothing_of_raw (fun raw => ?_) h
          rw [ofString_decimal htype hex, hbits]
          simp only [assignData, if_pos hstrid]
        simp only [hbits, reduceCtorEq, false_and, true_and, false_or] at hitem
        exact .inr ⟨hstrid, _, hitem.2, VType.decode_fits hitem.1⟩
  · rintro (hrejected | ⟨hstrid, n, hn, hfits⟩) raw
    · rw [ofString_decimal htype hex, (bits_eq_none_iff v.type val).mpr hrejected]
      exact .inl ⟨rfl, setItem_error⟩
    · have hsubject := hn
      rw [denotes, if_neg hex] at hsubject
      obtain ⟨⟨minus, m, rest⟩, hparse, hrest⟩ := Option.bind_eq_some_iff.mp hsubject
      simp only [Option.ite_none_right_eq_some, Option.some.injEq] at hrest
      obtain ⟨rfl, rfl⟩ := hrest
      rw [ofString_decimal htype hex, bits_eq hparse hfits htype]
      simp only [assignData, if_neg hstrid]
      refine .inr ⟨trivial, length_leBytes _ _, ?_⟩
      rw [hn]
      exact congrArg some (VType.decode_bits hfits htype).symm

/-- A text is written as a whole or not at all if and only if it meets the condition. -/
theorem allOrNothing_iff (text : TextNumbers) (v : Variable) (htype : v.type.IsInteger)
    (val : List UInt8) : AllOrNothing text v val ↔ Clean v.type val := by
  rw [Clean]
  by_cases hex : IsHex val
  · rw [allOrNothing_hex htype hex]
    tauto
  · rw [allOrNothing_decimal htype hex]
    tauto

/-- A variable of one byte. -/
def usintVar : Variable := ⟨"var", .usint, 0, 0⟩

/-- Conversions that integers do not use. -/
def noNumbers : TextNumbers where
  stoul _ := none
  stol _ := none
  stof _ := none
  stod _ := none
  toReal _ := []
  format _ _ := ""

/-- The text `12`, by `allOrNothing_iff`. -/
theorem allOrNothing_iff_twelve : VType.usint.IsInteger ∧
    AllOrNothing noNumbers usintVar [0x31, 0x32] :=
  ⟨by decide, (allOrNothing_iff noNumbers usintVar (by decide) [0x31, 0x32]).mpr
    (.inr ⟨by decide, fun h => absurd h (by decide), 12, by decide, by decide⟩)⟩

/-- The text `300` is written as 44. -/
theorem allOrNothing_fails : ¬ ∀ (text : TextNumbers) (v : Variable) (val : List UInt8),
    v.type.IsInteger → AllOrNothing text v val := by
  intro h
  have hitem := h noNumbers usintVar [0x33, 0x30, 0x30] (by decide) (.cleared usintVar)
  have hdenotes : denotes [0x33, 0x30, 0x30] = some 300 := by decide
  rcases hitem with ⟨hstatus, -⟩ | ⟨-, -, hvalue⟩
  · exact absurd hstatus (by decide)
  · exact absurd (hdenotes.symm.trans hvalue) (by decide)

end Tritonn

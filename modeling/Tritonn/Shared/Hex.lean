import Mathlib

/-!
Hexadecimal texts: `String_ToBuffer`, `String_FromBuffer` and `String_IsValidHex` of
`src/shared/stringex.cpp`.

Texts are the bytes of a C string, without the zero that ends it, and `toInt` is the conversion of
their lengths and places to `int`.

* `stringToBuffer`, `stringFromBuffer` and `isValidHex` are the functions of the source;
* `hexDigits` are the digits at the beginning of a text and `pairBytes` the bytes they make;
  `stringToBuffer_snd` says that the decoder writes these and leaves the rest of the buffer as it
  was, and `stringToBuffer_fst` when its result is the size of the buffer;
* `toBufferIn` is the loop of the decoder for a buffer of any size, undefined when it leaves it;
* `hexDigits_stringFromBuffer` and `pairBytes_nibbles`: what was written is decoded again.
-/

namespace Tritonn

/-! ### Numbers of the type `int` -/

/-- The conversion to `int`. -/
def toInt (n : ℤ) : ℤ := n.bmod 0x100000000

/-- A conversion to `int` keeps the remainder. -/
lemma toInt_spec (n : ℤ) :
    -2 ^ 31 ≤ toInt n ∧ toInt n < 2 ^ 31 ∧ (toInt n - n) % 2 ^ 32 = 0 := by
  rw [toInt, Int.bmod_def]
  split_ifs <;> omega

/-- A number that is an `int`. -/
lemma toInt_of_lt {n : ℤ} (h0 : -2 ^ 31 ≤ n) (h : n < 2 ^ 31) : toInt n = n := by
  have hspec := toInt_spec n
  omega

/-! ### The functions of the source -/

/-- The value of a hexadecimal digit. -/
def hexDigit (c : UInt8) : Option UInt8 :=
  if 0x30 ≤ c ∧ c ≤ 0x39 then some (c - 0x30)
  else if 0x41 ≤ c ∧ c ≤ 0x46 then some (c - 0x37)
  else if 0x61 ≤ c ∧ c ≤ 0x66 then some (c - 0x57)
  else none

/-- The loop of `String_ToBuffer` from the character `ii` on, with what it returns and the
buffer. -/
def toBufferLoop (bufsize : ℕ) : ℕ → List UInt8 → List UInt8 → ℤ × List UInt8
  | ii, [], buf => (if ii < bufsize then ii / 2 else bufsize / 2, buf)
  | ii, c :: str, buf =>
      if bufsize ≤ ii then (bufsize / 2, buf)
      else if c = 0 then (ii / 2, buf)
      else
        match hexDigit c with
        | none => (-1, buf)
        | some val =>
            toBufferLoop bufsize (ii + 1) str
              (if ii % 2 = 1 then buf.modify (ii / 2) (· ||| val)
              else buf.set (ii / 2) (val <<< 4))

/-- `String_ToBuffer`, for a buffer with its earlier contents. -/
def stringToBuffer (str buf : List UInt8) : ℤ × List UInt8 :=
  if buf = [] then (-2, buf) else toBufferLoop (2 * buf.length % 2 ^ 32) 0 str buf

/-- The loop of `String_IsValidHex` from the character `ii` on. -/
def isValidHexLoop : ℕ → List UInt8 → UInt32 → Option UInt32
  | _, [], val => some val
  | ii, c :: str, val =>
      if c = 0 then some val
      else if 8 ≤ ii then none
      else
        match hexDigit c with
        | none => none
        | some xx => isValidHexLoop (ii + 1) str ((val <<< 4) + xx.toUInt32)

/-- The digit of `%02X`. -/
def hexUpper (d : UInt8) : UInt8 := if d < 10 then 0x30 + d else 0x37 + d

/-- `String_FromBuffer`. -/
def stringFromBuffer (buf : List UInt8) : List UInt8 :=
  buf.flatMap fun b : UInt8 => [hexUpper (b >>> 4), hexUpper (b &&& 0x0F)]

/-- `String_IsValidHex`: the number, when the text is one. -/
def isValidHex (str : List UInt8) : Option UInt32 := isValidHexLoop 0 str 0

/-! ### What is decoded -/

/-- The values of the digits at the beginning of a text. -/
def hexDigits : List UInt8 → List UInt8
  | [] => []
  | c :: str => ((hexDigit c).map (· :: hexDigits str)).getD []

/-- The bytes of digits, two to a byte; an odd last one is a high half. -/
def pairBytes : List UInt8 → List UInt8
  | [] => []
  | [high] => [high <<< 4]
  | high :: low :: digits => (high <<< 4 ||| low) :: pairBytes digits

lemma hexDigits_of_none {c : UInt8} (h : hexDigit c = none) (str : List UInt8) :
    hexDigits (c :: str) = [] := by
  rw [hexDigits, h]
  rfl

lemma hexDigits_of_some {c val : UInt8} (h : hexDigit c = some val) (str : List UInt8) :
    hexDigits (c :: str) = val :: hexDigits str := by
  rw [hexDigits, h]
  rfl

/-- The end of a text is no digit. -/
lemma hexDigit_zero : hexDigit 0 = none := by decide

lemma length_pairBytes : ∀ digits : List UInt8,
    (pairBytes digits).length = (digits.length + 1) / 2
  | [] => rfl
  | [_] => by simp [pairBytes]
  | _ :: _ :: digits => by
      rw [pairBytes, List.length_cons, length_pairBytes digits]
      simp only [List.length_cons]
      omega

/-- The loop behind the buffer. -/
lemma toBufferLoop_of_le {bufsize ii : ℕ} (h : bufsize ≤ ii) (str buf : List UInt8) :
    toBufferLoop bufsize ii str buf = ((bufsize / 2 : ℤ), buf) := by
  cases str with
  | nil => rw [toBufferLoop, if_neg (Nat.not_lt.mpr h)]
  | cons c str => rw [toBufferLoop, if_pos h]

/-- The loop within the buffer, at what is no digit. -/
lemma toBufferLoop_stop {bufsize ii : ℕ} (h : ii / 2 < bufsize / 2) {str : List UInt8}
    (hstr : hexDigits str = []) (buf : List UInt8) :
    (toBufferLoop bufsize ii str buf).2 = buf ∧
      (toBufferLoop bufsize ii str buf).1 < (bufsize / 2 : ℕ) := by
  cases str with
  | nil =>
      rw [toBufferLoop]
      split_ifs <;> exact ⟨rfl, by push_cast; omega⟩
  | cons c str =>
      have hc : hexDigit c = none := by
        cases hc : hexDigit c with
        | none => rfl
        | some val => simp [hexDigits_of_some hc] at hstr
      rw [toBufferLoop, if_neg (by omega), hc]
      split_ifs <;> exact ⟨rfl, by push_cast; omega⟩

/-- The loop within the buffer, at a digit. -/
lemma toBufferLoop_digit {bufsize ii : ℕ} (h : ii < bufsize) {c val : UInt8}
    (hc : hexDigit c = some val) (str buf : List UInt8) :
    toBufferLoop bufsize ii (c :: str) buf =
      toBufferLoop bufsize (ii + 1) str
        (if ii % 2 = 1 then buf.modify (ii / 2) (· ||| val) else buf.set (ii / 2) (val <<< 4)) := by
  have hzero : c ≠ 0 := by
    rintro rfl
    simp [hexDigit_zero] at hc
  rw [toBufferLoop, if_neg (Nat.not_le.mpr h), if_neg hzero, hc]

/-- The text begins with no digit or with one. -/
lemma hexDigits_cases (str : List UInt8) :
    hexDigits str = [] ∨
      ∃ c val rest, str = c :: rest ∧ hexDigit c = some val ∧
        hexDigits str = val :: hexDigits rest := by
  cases str with
  | nil => exact .inl rfl
  | cons c rest =>
      cases hc : hexDigit c with
      | none => exact .inl (hexDigits_of_none hc rest)
      | some val => exact .inr ⟨c, val, rest, rfl, hc, hexDigits_of_some hc rest⟩

/-- The loop from a whole byte on, with the part of the buffer that is written. -/
lemma toBufferLoop_spec (str done rest : List UInt8) :
    (toBufferLoop (2 * (done.length + rest.length)) (2 * done.length) str (done ++ rest)).2 =
        done ++ (pairBytes ((hexDigits str).take (2 * rest.length)) ++
          rest.drop (pairBytes ((hexDigits str).take (2 * rest.length))).length) ∧
      ((toBufferLoop (2 * (done.length + rest.length)) (2 * done.length) str (done ++ rest)).1
          = (done.length + rest.length : ℕ) ↔ 2 * rest.length ≤ (hexDigits str).length) := by
  induction rest generalizing str done with
  | nil =>
      rw [toBufferLoop_of_le (by simp)]
      simp [pairBytes]
  | cons r rest ih =>
      rw [List.length_cons]
      rcases hexDigits_cases str with h | ⟨c, high, str, rfl, hc, h⟩
      · obtain ⟨hbuf, hlt⟩ := toBufferLoop_stop
          (show 2 * done.length / 2 < 2 * (done.length + (rest.length + 1)) / 2 by omega) h
          (done ++ r :: rest)
        rw [hbuf, h]
        refine ⟨by simp [pairBytes], ?_⟩
        simp only [List.length_nil]
        constructor <;> intro h' <;> omega
      · rw [toBufferLoop_digit (by omega) hc, if_neg (by omega), Nat.mul_div_cancel_left _ two_pos,
          List.set_append_right _ _ le_rfl, Nat.sub_self, List.set_cons_zero, h]
        rcases hexDigits_cases str with h' | ⟨d, low, str, rfl, hd, h'⟩
        · obtain ⟨hbuf, hlt⟩ := toBufferLoop_stop
            (show (2 * done.length + 1) / 2 < 2 * (done.length + (rest.length + 1)) / 2 by omega) h'
            (done ++ high <<< 4 :: rest)
          rw [hbuf, h']
          have htake : List.take (2 * (rest.length + 1)) [high] = [high] :=
            List.take_of_length_le (by simp; omega)
          refine ⟨by rw [htake]; rfl, ?_⟩
          simp only [List.length_cons, List.length_nil]
          constructor <;> intro h' <;> omega
        · have hmodify : (done ++ high <<< 4 :: rest).modify done.length (· ||| low)
              = (done ++ [high <<< 4 ||| low]) ++ rest := by
            rw [List.modify_eq_take_cons_drop (by simp)]
            simp
          have hstep := ih str (done ++ [high <<< 4 ||| low])
          rw [toBufferLoop_digit (by omega) hd, if_pos (by omega),
            show (2 * done.length + 1) / 2 = done.length by omega, hmodify, h']
          rw [List.length_append, List.length_singleton] at hstep
          have htake : (high :: low :: hexDigits str).take (2 * (rest.length + 1))
              = high :: low :: (hexDigits str).take (2 * rest.length) := rfl
          rw [show 2 * done.length + 1 + 1 = 2 * (done.length + 1) by ring,
            show done.length + (rest.length + 1) = done.length + 1 + rest.length by ring, htake]
          refine ⟨hstep.1.trans (by simp [pairBytes]), hstep.2.trans ?_⟩
          simp only [List.length_cons]
          constructor <;> intro h' <;> omega

/-- The decoder writes the bytes of the digits, and leaves the rest of the buffer as it was. -/
theorem stringToBuffer_snd {buf : List UInt8} (hbuf : 0 < buf.length) (hlen : buf.length < 2 ^ 31)
    (str : List UInt8) :
    (stringToBuffer str buf).2 =
      pairBytes ((hexDigits str).take (2 * buf.length)) ++
        buf.drop (pairBytes ((hexDigits str).take (2 * buf.length))).length := by
  have hloop := (toBufferLoop_spec str [] buf).1
  simp only [List.length_nil, Nat.zero_add, Nat.mul_zero, List.nil_append] at hloop
  rw [stringToBuffer, if_neg (List.ne_nil_of_length_pos hbuf), Nat.mod_eq_of_lt (by omega), hloop]

/-- Its result is the size of the buffer if and only if there are digits for all of it. -/
theorem stringToBuffer_fst {buf : List UInt8} (hbuf : 0 < buf.length) (hlen : buf.length < 2 ^ 31)
    (str : List UInt8) :
    (stringToBuffer str buf).1 = buf.length ↔ 2 * buf.length ≤ (hexDigits str).length := by
  have hloop := (toBufferLoop_spec str [] buf).2
  simp only [List.length_nil, Nat.zero_add, Nat.mul_zero, List.nil_append] at hloop
  rw [stringToBuffer, if_neg (List.ne_nil_of_length_pos hbuf), Nat.mod_eq_of_lt (by omega), hloop]

/-! ### A buffer of another size -/

/-- The loop of `String_ToBuffer` for a buffer whose size need not be the one that is given;
undefined when a byte outside of the buffer is written. -/
def toBufferIn (bufsize : ℕ) : ℕ → List UInt8 → List UInt8 → Option (ℤ × List UInt8)
  | ii, [], buf => some (if ii < bufsize then ii / 2 else bufsize / 2, buf)
  | ii, c :: str, buf =>
      if bufsize ≤ ii then some (bufsize / 2, buf)
      else if c = 0 then some (ii / 2, buf)
      else
        match hexDigit c with
        | none => some (-1, buf)
        | some val =>
            if ii / 2 < buf.length then
              toBufferIn bufsize (ii + 1) str
                (if ii % 2 = 1 then buf.modify (ii / 2) (· ||| val)
                else buf.set (ii / 2) (val <<< 4))
            else none

/-- A buffer that is large enough is not left, and what is behind the given size stays. -/
lemma toBufferIn_append {bufsize : ℕ} (ii : ℕ) (str : List UInt8) {buf : List UInt8}
    (h : bufsize ≤ 2 * buf.length) (extra : List UInt8) :
    toBufferIn bufsize ii str (buf ++ extra) =
      some ((toBufferLoop bufsize ii str buf).1, (toBufferLoop bufsize ii str buf).2 ++ extra) := by
  induction str generalizing ii buf with
  | nil => rfl
  | cons c str ih =>
      rw [toBufferIn, toBufferLoop]
      by_cases hend : bufsize ≤ ii
      · rw [if_pos hend, if_pos hend]
      by_cases hzero : c = 0
      · rw [if_neg hend, if_neg hend, if_pos hzero, if_pos hzero]
      rw [if_neg hend, if_neg hend, if_neg hzero, if_neg hzero]
      cases hexDigit c with
      | none => rfl
      | some val =>
          have hin : ii / 2 < buf.length := by omega
          have hwrite : (if ii % 2 = 1 then (buf ++ extra).modify (ii / 2) (· ||| val)
              else (buf ++ extra).set (ii / 2) (val <<< 4)) =
              (if ii % 2 = 1 then buf.modify (ii / 2) (· ||| val)
              else buf.set (ii / 2) (val <<< 4)) ++ extra := by
            split
            · rw [List.modify_eq_take_cons_drop hin, List.modify_eq_take_cons_drop
                (by rw [List.length_append]; omega), List.take_append_of_le_length hin.le,
                List.drop_append_of_le_length hin, List.getElem_append_left hin,
                List.append_assoc, List.cons_append]
            · exact List.set_append_left _ _ hin
          have hlength : (if ii % 2 = 1 then buf.modify (ii / 2) (· ||| val)
              else buf.set (ii / 2) (val <<< 4)).length = buf.length := by
            split <;> simp
          simp only [hwrite]
          rw [if_pos (by rw [List.length_append]; omega)]
          exact ih (ii + 1) (by rwa [hlength])

/-! ### What was written -/

/-- The halves of the bytes. -/
def nibbles (bytes : List UInt8) : List UInt8 :=
  bytes.flatMap fun b : UInt8 => [b >>> 4, b &&& 0x0F]

lemma length_stringFromBuffer (bytes : List UInt8) :
    (stringFromBuffer bytes).length = 2 * bytes.length := by
  induction bytes with
  | nil => rfl
  | cons b bytes ih =>
      rw [stringFromBuffer, List.flatMap_cons, List.length_append, ← stringFromBuffer, ih]
      simp only [List.length_cons, List.length_nil]
      omega

lemma hexDigit_hexUpper : ∀ d : UInt8, d < 16 → hexDigit (hexUpper d) = some d := by decide +kernel

lemma hexDigits_stringFromBuffer (bytes : List UInt8) :
    hexDigits (stringFromBuffer bytes) = nibbles bytes := by
  induction bytes with
  | nil => rfl
  | cons b bytes ih =>
      have hhigh : b >>> 4 < 16 := by
        have hlt : ∀ b : UInt8, b >>> 4 < 16 := by decide +kernel
        exact hlt b
      have hlow : b &&& 0x0F < 16 := by
        have hlt : ∀ b : UInt8, b &&& 0x0F < 16 := by decide +kernel
        exact hlt b
      rw [stringFromBuffer, nibbles, List.flatMap_cons, List.flatMap_cons, ← stringFromBuffer,
        ← nibbles, List.cons_append, List.cons_append, List.nil_append,
        hexDigits_of_some (hexDigit_hexUpper _ hhigh), hexDigits_of_some (hexDigit_hexUpper _ hlow),
        ih]
      rfl

lemma pairBytes_nibbles (bytes : List UInt8) : pairBytes (nibbles bytes) = bytes := by
  have hbyte : ∀ b : UInt8, b >>> 4 <<< 4 ||| b &&& 0x0F = b := by decide +kernel
  induction bytes with
  | nil => rfl
  | cons b bytes ih =>
      rw [nibbles, List.flatMap_cons, ← nibbles, List.cons_append, List.cons_append,
        List.nil_append, pairBytes, ih, hbyte]

lemma length_nibbles (bytes : List UInt8) : (nibbles bytes).length = 2 * bytes.length := by
  induction bytes with
  | nil => rfl
  | cons b bytes ih =>
      rw [nibbles, List.flatMap_cons, ← nibbles, List.length_append, ih]
      simp only [List.length_cons, List.length_nil]
      omega

/-- What was written is decoded into the front of a buffer. -/
theorem toBufferIn_stringFromBuffer {bytes buf : List UInt8} (h : buf.length = bytes.length)
    (extra : List UInt8) :
    ∃ r, toBufferIn (2 * bytes.length) 0 (stringFromBuffer bytes) (buf ++ extra) =
      some (r, bytes ++ extra) := by
  have hloop := (toBufferLoop_spec (stringFromBuffer bytes) [] buf).1
  simp only [List.length_nil, Nat.zero_add, Nat.mul_zero, List.nil_append] at hloop
  have htake : (nibbles bytes).take (2 * buf.length) = nibbles bytes :=
    List.take_of_length_le (by rw [length_nibbles, h])
  rw [hexDigits_stringFromBuffer, htake, pairBytes_nibbles, List.drop_of_length_le h.le,
    List.append_nil, h] at hloop
  refine ⟨(toBufferLoop (2 * bytes.length) 0 (stringFromBuffer bytes) buf).1, ?_⟩
  rw [toBufferIn_append 0 _ (by rw [h]), hloop]

end Tritonn

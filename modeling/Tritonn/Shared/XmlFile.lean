import Tritonn.Lib.Buffer
import Tritonn.Lib.Quoted
import Tritonn.Lib.Result
import Tritonn.Shared.Hex
import Tritonn.Shared.Users

/-!
Signed files: `findSignature`, `xmlFileCheck` and `xmlFileSave` of `src/xml/xmlfile.cpp`, with
`simpleFileLoad` of `src/shared/simplefile.cpp` and `GetStrHash` of `src/shared/hash.cpp`.

* `SigningEnv` is what they use of the libraries: the parser and the hash;
* `findSignature_spec` says what the three searches of `findSignature` find, and
  `findSignature_parts` that the range is the one of the value in `Quoted.Parts`;
* `saltedText_eq_ok_iff`, `xmlFileCheck_eq_ok_iff` and `xmlFileSave_eq_ok_iff` say when the calls
  come to a good end, and with what;
* `savesAndChecks_of_fits` and `fits_of_savesAndChecks` are about a document that is saved and
  checked, `equalExcept_iff` about two files that are accepted;
* `signed_iff` puts them together.

A place in a text is an `int`: one that does not fit is negative, and a read there is outside.
-/

namespace Tritonn

open Quoted (search firstOf Parts)

/-- What is used of the libraries: the attributes of the root of a text, or the error of the parser,
and `EVP_sha1`. A document need not have a root. -/
structure SigningEnv where
  parse : List UInt8 → Except ℕ (Option (List UInt8 → Option (List UInt8)))
  sha1 : List UInt8 → Buffer UInt8 maxHashSize

/-- How a call ends otherwise than with `TRITONN_RESULT_OK`: a character that is not in the text is
read or a byte behind the buffer is written, a loop goes on, the root that is missing is used, or
one of the results. -/
inductive SigningStop where
  | outside
  | running
  | nullRoot
  | isEmpty
  | ioError
  | parse (errorID : ℕ)
  | nfhash
  | badhash
  | encryptError
  | notequal
  deriving DecidableEq, Repr

/-- The character `=`. -/
def equalSign : UInt8 := 0x3D

/-- The character `"`. -/
def quoteSign : UInt8 := 0x22

/-! ### `findSignature` -/

/-- `text[pos]`; the character behind the last one is a zero. -/
def readAt (text : List UInt8) (pos : ℤ) : Except SigningStop UInt8 :=
  if 0 ≤ pos ∧ pos ≤ text.length then .ok (text.getD pos.toNat 0) else .error .outside

/-- `while (text[pos] != ch && pos < text.size())`, at most `fuel` times. -/
def scanTo (text : List UInt8) (ch : UInt8) : ℕ → ℤ → Except SigningStop ℤ
  | 0, _ => .error .running
  | fuel + 1, pos => do
      let c ← readAt text pos
      if c ≠ ch ∧ pos < text.length then scanTo text ch fuel (toInt (pos + 1)) else .ok pos

/-- `pos >= text.size()`: a negative place is a large number. -/
def Beyond (text : List UInt8) (pos : ℤ) : Prop := pos < 0 ∨ text.length ≤ pos

instance (text : List UInt8) (pos : ℤ) : Decidable (Beyond text pos) :=
  inferInstanceAs (Decidable (_ ∨ _))

/-- `findSignature`: the result, `pos_begin` and `pos_end`. -/
def findSignature (fuel : ℕ) (pos : ℤ) (text : List UInt8) :
    Except SigningStop (Bool × ℤ × ℤ) := do
  let pos ← scanTo text equalSign fuel pos
  if Beyond text pos then .ok (false, -1, -1)
  else do
    let pos ← scanTo text quoteSign fuel pos
    let posBegin := toInt (pos + 1)
    if Beyond text posBegin then .ok (false, posBegin, -1)
    else do
      let posEnd ← scanTo text quoteSign fuel posBegin
      if Beyond text posEnd then .ok (false, posBegin, posEnd) else .ok (true, posBegin, posEnd)

/-! ### Loading, checking and saving -/

/-- The text that is loaded: the size is an `unsigned int`, and the text ends at a zero. -/
def loadedText (file : List UInt8) : List UInt8 :=
  (file.take (file.length % 2 ^ 32)).takeWhile (· ≠ 0)

/-- `simpleFileLoad` for a file that can be read: the buffer has `size + 1` bytes, an
`unsigned int` as well. -/
def simpleFileLoad (file : List UInt8) : Except SigningStop (List UInt8) :=
  if file.length % 2 ^ 32 = 0 then .error .isEmpty
  else if (file.length % 2 ^ 32 + 1) % 2 ^ 32 = 0 then .error .outside
  else .ok (loadedText file)

/-- `simpleFileSave` for a file that can be written, with what is in it then: the number of bytes
that `fwrite` gives back is kept in an `unsigned int`. -/
def simpleFileSave (text : List UInt8) : Except SigningStop (List UInt8) :=
  if text.length % 2 ^ 32 ≠ text.length then .error .ioError else .ok text

/-- The bytes that `GetStrHash` hands over: their number is a `UDINT`. -/
def hashInput (text : List UInt8) : List UInt8 := text.take (text.length % 2 ^ 32)

/-- `GetStrHash`. -/
def getStrHash (env : SigningEnv) (text : List UInt8) : List UInt8 :=
  (env.sha1 (hashInput text)).content

/-- `std::string::find`, as an `int`. -/
def findPos (text marker : List UInt8) : ℤ :=
  toInt (match firstOf marker text with
    | some i => i
    | none => -1)

/-- `std::string::replace`. -/
def replaceRange (text : List UInt8) (posBegin posEnd : ℤ) (s : List UInt8) : List UInt8 :=
  text.take posBegin.toNat ++ (s ++ text.drop posEnd.toNat)

/-- The value of the signature in the tree. -/
def signatureValue (env : SigningEnv) (text signature : List UInt8) :
    Except SigningStop (List UInt8) :=
  match env.parse text with
  | .error errorID => .error (.parse errorID)
  | .ok none => .error .nullRoot
  | .ok (some attr) =>
      match attr signature with
      | none => .error .nfhash
      | some strhash => if strhash.length ≠ 2 * maxHashSize then .error .nfhash else .ok strhash

/-- The text with the salt in the place of the signature. -/
def saltedText (text signature salt : List UInt8) : Except SigningStop (List UInt8) :=
  if findPos text signature ≤ 0 then .error .badhash
  else do
    let found ← findSignature (text.length + 1)
      (toInt (findPos text signature + signature.length)) text
    if found.1 then .ok (replaceRange text found.2.1 found.2.2 salt) else .error .encryptError

/-- `xmlFileCheck` for what is in the file. -/
def xmlFileCheck (env : SigningEnv) (file signature salt : List UInt8) :
    Except SigningStop Unit := do
  let text ← simpleFileLoad file
  let strhash ← signatureValue env text signature
  let salted ← saltedText text signature salt
  let fhash := (stringToBuffer strhash (List.replicate maxHashSize 0)).2
  if fhash = getStrHash env salted then .ok () else .error .notequal

/-- `xmlFileSave`, with what is written. -/
def xmlFileSave (env : SigningEnv) (text marker : List UInt8) : Except SigningStop (List UInt8) :=
  if findPos text marker = -1 then simpleFileSave text
  else do
    let found ← findSignature (text.length + 1) (toInt (findPos text marker + marker.length)) text
    if found.1 then
      simpleFileSave
        (replaceRange text found.2.1 found.2.2 (stringFromBuffer (getStrHash env text)))
    else .error .encryptError

/-! ### What is claimed of them -/

/-- `findSignature` comes to its end and reads nothing outside, and the range that it finds is the
text between two quotes without a quote in it. -/
def ScansInside (text : List UInt8) (pos : ℤ) : Prop :=
  ∃ found posBegin posEnd,
    findSignature (text.length + 1) pos text = .ok (found, posBegin, posEnd) ∧
      (found = true → ∃ before value after,
        text = before ++ quoteSign :: (value ++ quoteSign :: after) ∧ quoteSign ∉ value ∧
          posBegin = before.length + 1 ∧ posEnd = before.length + 1 + value.length)

/-- The files are the same up to the quoted value that follows the first occurrence of the
marker. -/
def EqualExcept (marker file file' : List UInt8) : Prop :=
  ∃ p p' : Parts UInt8, p.Valid marker equalSign quoteSign ∧ p'.Valid marker equalSign quoteSign ∧
    p.text marker equalSign quoteSign = file ∧ p'.text marker equalSign quoteSign = file' ∧
      p' = { p with value := p'.value }

/-- A text of hexadecimal digits. -/
def HexText (value : List UInt8) : Prop := ∀ c ∈ value, hexDigit c ≠ none

/-- The text with another value is taken by the parser, and has a root. -/
def WellFormed (env : SigningEnv) (marker : List UInt8) (p : Parts UInt8) (value : List UInt8) :
    Prop :=
  ∃ attr, env.parse ({ p with value := value }.text marker equalSign quoteSign) = .ok (some attr)

/-- A well-formed document in which the first occurrence of the marker is the name of an attribute
of the root, whose value is the salt. It stays well-formed with digits for the value, and the parser
gives them as they are written. -/
structure IsDocument (env : SigningEnv) (marker salt : List UInt8) (p : Parts UInt8) : Prop where
  valid : p.Valid marker equalSign quoteSign
  value : p.value = salt
  front : p.front ≠ []
  noZero : 0 ∉ p.text marker equalSign quoteSign
  wellFormed : WellFormed env marker p salt
  sameForm : ∀ value, HexText value → (WellFormed env marker p value ↔ WellFormed env marker p salt)
  asWritten : ∀ value attr, HexText value →
    env.parse ({ p with value := value }.text marker equalSign quoteSign) = .ok (some attr) →
      attr marker = some value

/-- The file that is saved for a document is accepted. -/
def SavesAndChecks (env : SigningEnv) (marker salt : List UInt8) (p : Parts UInt8) : Prop :=
  ∃ file, xmlFileSave env (p.text marker equalSign quoteSign) marker = .ok file ∧
    xmlFileCheck env file marker salt = .ok ()

/-! ### The searches -/

lemma readAt_of_le {text : List UInt8} {pos : ℕ} (h : pos ≤ text.length) :
    readAt text pos = .ok (text.getD pos 0) := by
  rw [readAt, if_pos ⟨Int.natCast_nonneg pos, by exact_mod_cast h⟩, Int.toNat_natCast]

lemma readAt_of_neg {text : List UInt8} {pos : ℤ} (h : pos < 0) :
    readAt text pos = .error .outside := if_neg fun h' => absurd h'.1 (not_le.mpr h)

lemma scanTo_of_neg {text : List UInt8} {pos : ℤ} (h : pos < 0) (ch : UInt8) {fuel : ℕ}
    (hfuel : 0 < fuel) : scanTo text ch fuel pos = .error .outside := by
  obtain ⟨n, rfl⟩ := Nat.exists_eq_succ_of_ne_zero hfuel.ne'
  rw [scanTo, readAt_of_neg h, Result.error_bind]

/-- A place that is no `int` is negative. -/
lemma toInt_pow : toInt (2 ^ 31) < 0 := by
  have hspec := toInt_spec (2 ^ 31)
  omega

/-- The loop finds the next character, unless it comes to a place that is no `int`. -/
lemma scanTo_spec {text : List UInt8} (ch : UInt8) {pos fuel : ℕ} (hpos : pos ≤ text.length)
    (h31 : pos < 2 ^ 31) (hfuel : text.length - pos < fuel) :
    scanTo text ch fuel pos =
      if search ch text pos < 2 ^ 31 then .ok (search ch text pos : ℤ) else .error .outside := by
  induction fuel generalizing pos with
  | zero => omega
  | succ fuel ih =>
      rw [scanTo, readAt_of_le hpos, Result.ok_bind]
      rcases hpos.lt_or_eq with hlt | rfl
      · rw [List.getD_eq_getElem _ _ hlt]
        by_cases hc : text[pos] = ch
        · rw [if_neg (fun h => h.1 hc), Quoted.search_of_eq hlt hc, if_pos h31]
        · rw [if_pos ⟨hc, by exact_mod_cast hlt⟩, Quoted.search_of_ne hlt hc]
          by_cases hnext : pos + 1 < 2 ^ 31
          · have hint : toInt ((pos : ℤ) + 1) = ((pos + 1 : ℕ) : ℤ) :=
              toInt_of_lt (by omega) (by omega)
            rw [hint]
            exact ih hlt hnext (by omega)
          · have hint : toInt ((pos : ℤ) + 1) < 0 := by
              rw [show (pos : ℤ) + 1 = 2 ^ 31 by omega]
              exact toInt_pow
            have hle := Quoted.le_search ch text (pos + 1)
            rw [scanTo_of_neg hint ch (by omega), if_neg (by omega)]
      · rw [if_neg (fun h => lt_irrefl _ h.2), Quoted.search_length, if_pos h31]

lemma beyond_natCast (text : List UInt8) (pos : ℕ) : Beyond text pos ↔ text.length ≤ pos := by
  rw [Beyond]
  omega

/-- The place of the separator, of the first quote and of the second one. -/
def separatorAt (text : List UInt8) (pos : ℕ) : ℕ := search equalSign text pos

@[inherit_doc separatorAt]
def quoteAt (text : List UInt8) (pos : ℕ) : ℕ := search quoteSign text (separatorAt text pos)

@[inherit_doc separatorAt]
def endAt (text : List UInt8) (pos : ℕ) : ℕ := search quoteSign text (quoteAt text pos + 1)

/-- The searches of `findSignature` stop at places that are `int`. -/
structure SearchesFit (text : List UInt8) (pos : ℕ) : Prop where
  separator : separatorAt text pos < 2 ^ 31
  quote : separatorAt text pos < text.length → quoteAt text pos < 2 ^ 31
  value : separatorAt text pos < text.length → quoteAt text pos + 1 < text.length →
    quoteAt text pos + 1 < 2 ^ 31 → endAt text pos < 2 ^ 31

/-- What `findSignature` gives. -/
lemma findSignature_spec {text : List UInt8} {pos : ℕ} (hpos : pos ≤ text.length)
    (h31 : pos < 2 ^ 31) :
    findSignature (text.length + 1) pos text =
      if ¬separatorAt text pos < 2 ^ 31 then .error .outside
      else if ¬separatorAt text pos < text.length then .ok (false, -1, -1)
      else if ¬quoteAt text pos < 2 ^ 31 then .error .outside
      else if ¬(quoteAt text pos + 1 < text.length ∧ quoteAt text pos + 1 < 2 ^ 31) then
        .ok (false, toInt (quoteAt text pos + 1), -1)
      else if ¬endAt text pos < 2 ^ 31 then .error .outside
      else .ok (decide (endAt text pos < text.length), (quoteAt text pos + 1 : ℕ),
        (endAt text pos : ℕ)) := by
  rw [findSignature, scanTo_spec equalSign hpos h31 (by omega), ← separatorAt]
  by_cases hsep : separatorAt text pos < 2 ^ 31
  case neg => rw [if_neg hsep, if_pos hsep, Result.error_bind]
  rw [if_pos hsep, if_neg (not_not.mpr hsep), Result.ok_bind]
  by_cases hsep' : separatorAt text pos < text.length
  case neg => rw [if_pos ((beyond_natCast _ _).mpr (not_lt.mp hsep')), if_pos hsep']
  rw [if_neg (fun h => hsep'.not_ge ((beyond_natCast _ _).mp h)), if_neg (not_not.mpr hsep'),
    scanTo_spec quoteSign hsep'.le hsep (by omega), ← quoteAt]
  by_cases hquote : quoteAt text pos < 2 ^ 31
  case neg => rw [if_neg hquote, if_pos hquote, Result.error_bind]
  rw [if_pos hquote, if_neg (not_not.mpr hquote), Result.ok_bind]
  by_cases hbegin : quoteAt text pos + 1 < text.length ∧ quoteAt text pos + 1 < 2 ^ 31
  case neg =>
    have hbeyond : Beyond text (toInt ((quoteAt text pos : ℤ) + 1)) := by
      rw [Beyond]
      have hspec := toInt_spec ((quoteAt text pos : ℤ) + 1)
      omega
    rw [if_pos hbegin]
    exact if_pos hbeyond
  have hint : toInt ((quoteAt text pos : ℤ) + 1) = ((quoteAt text pos + 1 : ℕ) : ℤ) :=
    toInt_of_lt (by omega) (by omega)
  simp only [hint]
  rw [if_neg (fun h => hbegin.1.not_ge ((beyond_natCast _ _).mp h)), if_neg (not_not.mpr hbegin),
    scanTo_spec quoteSign hbegin.1.le hbegin.2 (by omega), ← endAt]
  by_cases hend : endAt text pos < 2 ^ 31
  case neg => rw [if_neg hend, if_pos hend, Result.error_bind]
  rw [if_pos hend, if_neg (not_not.mpr hend), Result.ok_bind]
  by_cases hend' : endAt text pos < text.length
  · rw [if_neg (fun h => hend'.not_ge ((beyond_natCast _ _).mp h)), decide_eq_true hend']
  · rw [if_pos ((beyond_natCast _ _).mpr (not_lt.mp hend')), decide_eq_false hend']

lemma separatorAt_le_quoteAt (text : List UInt8) (pos : ℕ) :
    separatorAt text pos ≤ quoteAt text pos := Quoted.le_search _ _ _

lemma quoteAt_lt_endAt (text : List UInt8) (pos : ℕ) : quoteAt text pos + 1 ≤ endAt text pos :=
  Quoted.le_search _ _ _

/-- A range is found if and only if the searches stop before the end, at places that are `int`. -/
lemma findSignature_found_iff {text : List UInt8} {pos : ℕ} (hpos : pos ≤ text.length)
    (h31 : pos < 2 ^ 31) {posBegin posEnd : ℤ} :
    findSignature (text.length + 1) pos text = .ok (true, posBegin, posEnd) ↔
      (separatorAt text pos < text.length ∧ quoteAt text pos + 1 < text.length ∧
        endAt text pos < text.length ∧ endAt text pos < 2 ^ 31) ∧
      posBegin = (quoteAt text pos + 1 : ℕ) ∧ posEnd = endAt text pos := by
  have hle := separatorAt_le_quoteAt text pos
  have hlt := quoteAt_lt_endAt text pos
  rw [findSignature_spec hpos h31]
  constructor
  · intro h
    by_cases hsep : ¬separatorAt text pos < 2 ^ 31
    case pos => rw [if_pos hsep] at h; cases h
    by_cases hsep' : ¬separatorAt text pos < text.length
    case pos => rw [if_neg hsep, if_pos hsep'] at h; cases h
    by_cases hquote : ¬quoteAt text pos < 2 ^ 31
    case pos => rw [if_neg hsep, if_neg hsep', if_pos hquote] at h; cases h
    rw [if_neg hsep, if_neg hsep', if_neg hquote] at h
    by_cases hbegin : ¬(quoteAt text pos + 1 < text.length ∧ quoteAt text pos + 1 < 2 ^ 31)
    case pos => rw [if_pos hbegin] at h; cases h
    by_cases hend : ¬endAt text pos < 2 ^ 31
    case pos => rw [if_neg hbegin, if_pos hend] at h; cases h
    rw [if_neg hbegin, if_neg hend, Except.ok.injEq, Prod.mk.injEq, Prod.mk.injEq] at h
    have hend' := of_decide_eq_true h.1
    exact ⟨by omega, h.2.1.symm, h.2.2.symm⟩
  · rintro ⟨⟨hsep, hquote, hend, hend'⟩, rfl, rfl⟩
    rw [if_neg (by omega), if_neg (by omega), if_neg (by omega), if_neg (by omega),
      if_neg (by omega), decide_eq_true hend]

section Places

variable {a gap gap' value : List UInt8}

lemma separatorAt_eq (hgap : equalSign ∉ gap) (rest : List UInt8) :
    separatorAt (a ++ (gap ++ equalSign :: rest)) a.length = a.length + gap.length :=
  Quoted.search_append hgap a rest

lemma quoteAt_eq (hgap : equalSign ∉ gap) (hgap' : quoteSign ∉ gap') (rest : List UInt8) :
    quoteAt (a ++ (gap ++ equalSign :: (gap' ++ quoteSign :: rest))) a.length =
      a.length + gap.length + gap'.length + 1 := by
  have hfound := Quoted.search_append (c := quoteSign) (b := equalSign :: gap')
    (by simpa [equalSign, quoteSign] using hgap') (a ++ gap) rest
  rw [quoteAt, separatorAt_eq hgap]
  simpa [Nat.add_assoc] using hfound

lemma endAt_eq (hgap : equalSign ∉ gap) (hgap' : quoteSign ∉ gap') (hvalue : quoteSign ∉ value)
    (rest : List UInt8) :
    endAt (a ++ (gap ++ equalSign :: (gap' ++ quoteSign :: (value ++ quoteSign :: rest))))
        a.length =
      a.length + gap.length + gap'.length + 2 + value.length := by
  have hfound := Quoted.search_append hvalue (a ++ (gap ++ equalSign :: (gap' ++ [quoteSign]))) rest
  have hlength : (a ++ (gap ++ equalSign :: (gap' ++ [quoteSign]))).length =
      a.length + gap.length + gap'.length + 2 := by
    simp only [List.length_append, List.length_cons, List.length_nil]
    omega
  rw [endAt, quoteAt_eq hgap hgap']
  rw [hlength] at hfound
  simpa using hfound

end Places

/-- What is found when all of it is: the parts of the text from the place on. -/
lemma exists_value {a b : List UInt8} (h : separatorAt (a ++ b) a.length < (a ++ b).length)
    (h' : quoteAt (a ++ b) a.length + 1 < (a ++ b).length)
    (h'' : endAt (a ++ b) a.length < (a ++ b).length) :
    ∃ gap gap' value back, b = gap ++ equalSign :: (gap' ++ quoteSign :: (value ++
        quoteSign :: back)) ∧ equalSign ∉ gap ∧ quoteSign ∉ gap' ∧ quoteSign ∉ value := by
  -- each search stops at its character, since it stops before the end
  obtain ⟨gap, rest, hgap, rfl⟩ := Quoted.exists_of_search_lt h
  have hsep := separatorAt_eq (a := a) hgap rest
  have hquote : search quoteSign ((a ++ gap) ++ equalSign :: rest) (a ++ gap).length =
      quoteAt (a ++ (gap ++ equalSign :: rest)) a.length := by
    rw [quoteAt, hsep, List.append_assoc, List.length_append]
  have hquoteLt : search quoteSign ((a ++ gap) ++ equalSign :: rest) (a ++ gap).length <
      ((a ++ gap) ++ equalSign :: rest).length := by
    rw [hquote, List.append_assoc]
    omega
  obtain ⟨start, rest', hstart, hrest⟩ := Quoted.exists_of_search_lt hquoteLt
  obtain ⟨gap', hgap', rfl⟩ : ∃ gap', quoteSign ∉ gap' ∧ rest = gap' ++ quoteSign :: rest' := by
    cases start with
    | nil => exact absurd (List.head_eq_of_cons_eq hrest) (by decide)
    | cons c gap' =>
        exact ⟨gap', fun hmem => hstart (List.mem_cons_of_mem c hmem),
          List.tail_eq_of_cons_eq hrest⟩
  have hlength : (a ++ (gap ++ equalSign :: (gap' ++ [quoteSign]))).length =
      a.length + gap.length + gap'.length + 1 + 1 := by
    simp only [List.length_append, List.length_cons, List.length_nil]
    omega
  have hend : search quoteSign ((a ++ (gap ++ equalSign :: (gap' ++ [quoteSign]))) ++ rest')
      (a ++ (gap ++ equalSign :: (gap' ++ [quoteSign]))).length =
        endAt (a ++ (gap ++ equalSign :: (gap' ++ quoteSign :: rest'))) a.length := by
    rw [endAt, quoteAt_eq hgap hgap', hlength]
    simp
  have hendLt : search quoteSign ((a ++ (gap ++ equalSign :: (gap' ++ [quoteSign]))) ++ rest')
      (a ++ (gap ++ equalSign :: (gap' ++ [quoteSign]))).length <
        ((a ++ (gap ++ equalSign :: (gap' ++ [quoteSign]))) ++ rest').length := by
    rw [hend]
    simpa using h''
  obtain ⟨value, back, hvalue, rfl⟩ := Quoted.exists_of_search_lt hendLt
  exact ⟨gap, gap', value, back, rfl, hgap, hgap', hvalue⟩

/-- A range that is found is the text between two quotes. -/
lemma exists_range {text : List UInt8} {pos : ℕ} (hpos : pos ≤ text.length)
    (hsep : separatorAt text pos < text.length) (hquote : quoteAt text pos + 1 < text.length)
    (hend : endAt text pos < text.length) :
    ∃ before value after, text = before ++ quoteSign :: (value ++ quoteSign :: after) ∧
      quoteSign ∉ value ∧ quoteAt text pos = before.length ∧
        endAt text pos = before.length + 1 + value.length := by
  obtain ⟨a, b, rfl, rfl⟩ : ∃ a b, text = a ++ b ∧ pos = a.length :=
    ⟨text.take pos, text.drop pos, (List.take_append_drop pos text).symm,
      (List.length_take_of_le hpos).symm⟩
  obtain ⟨gap, gap', value, back, rfl, hgap, hgap', hvalue⟩ := exists_value hsep hquote hend
  refine ⟨a ++ (gap ++ equalSign :: gap'), value, back, by simp, hvalue, ?_, ?_⟩
  · rw [quoteAt_eq hgap hgap']
    simp only [List.length_append, List.length_cons]
    omega
  · rw [endAt_eq hgap hgap' hvalue]
    simp only [List.length_append, List.length_cons]
    omega

/-- All is as it should be if and only if the places are. -/
lemma scansInside_iff {text : List UInt8} {pos : ℕ} (hpos : pos ≤ text.length)
    (h31 : pos < 2 ^ 31) : ScansInside text pos ↔ SearchesFit text pos := by
  rw [ScansInside, findSignature_spec hpos h31]
  constructor
  · rintro ⟨found, posBegin, posEnd, hresult, -⟩
    have hsep : separatorAt text pos < 2 ^ 31 := by
      by_contra h
      rw [if_pos h] at hresult
      cases hresult
    rw [if_neg (not_not.mpr hsep)] at hresult
    refine ⟨hsep, fun hlt => ?_, fun hlt hbegin hbegin' => ?_⟩
    · rw [if_neg (not_not.mpr hlt)] at hresult
      by_contra h
      rw [if_pos h] at hresult
      cases hresult
    · rw [if_neg (not_not.mpr hlt), if_neg (by omega), if_neg (by omega)] at hresult
      by_contra h
      rw [if_pos h] at hresult
      cases hresult
  · intro hfit
    rw [if_neg (not_not.mpr hfit.separator)]
    by_cases hsep : separatorAt text pos < text.length
    case neg => exact ⟨false, -1, -1, if_pos hsep, nofun⟩
    rw [if_neg (not_not.mpr hsep), if_neg (not_not.mpr (hfit.quote hsep))]
    by_cases hbegin : quoteAt text pos + 1 < text.length ∧ quoteAt text pos + 1 < 2 ^ 31
    case neg => exact ⟨false, _, -1, if_pos hbegin, nofun⟩
    rw [if_neg (not_not.mpr hbegin),
      if_neg (not_not.mpr (hfit.value hsep hbegin.1 hbegin.2))]
    refine ⟨_, _, _, rfl, fun hfound => ?_⟩
    obtain ⟨before, value, after, htext, hvalue, hquote, hend⟩ :=
      exists_range hpos hsep hbegin.1 (of_decide_eq_true hfound)
    exact ⟨before, value, after, htext, hvalue, by omega, by omega⟩

/-- A negative place is outside. -/
lemma findSignature_of_neg {text : List UInt8} {pos : ℤ} (h : pos < 0) :
    findSignature (text.length + 1) pos text = .error .outside := by
  rw [findSignature, scanTo_of_neg h _ (by omega), Result.error_bind]

/-! ### The range of the signature -/

section Range

variable {marker salt : List UInt8} {p : Parts UInt8}

/-- The place behind the marker. -/
def markerEnd (marker : List UInt8) (p : Parts UInt8) : ℕ := p.front.length + marker.length

/-- The place behind the value. -/
def valueEnd (marker : List UInt8) (p : Parts UInt8) : ℕ :=
  (p.head marker equalSign quoteSign).length + p.value.length

lemma length_head (marker : List UInt8) (p : Parts UInt8) :
    (p.head marker equalSign quoteSign).length =
      markerEnd marker p + p.gap.length + p.gap'.length + 2 := by
  rw [markerEnd]
  simp only [Parts.head, List.length_append, List.length_cons, List.length_nil]
  omega

lemma length_text (marker : List UInt8) (p : Parts UInt8) :
    (p.text marker equalSign quoteSign).length = valueEnd marker p + 1 + p.back.length := by
  rw [valueEnd]
  simp only [Parts.text, List.length_append, List.length_cons]
  omega

/-- The text, from the place behind the marker on. -/
lemma text_eq (marker : List UInt8) (p : Parts UInt8) :
    p.text marker equalSign quoteSign = (p.front ++ marker) ++ (p.gap ++ equalSign :: (p.gap' ++
      quoteSign :: (p.value ++ quoteSign :: p.back))) := by
  simp [Parts.text, Parts.head]

/-- The places that `findSignature` comes to. -/
lemma places_eq (hp : p.Valid marker equalSign quoteSign) :
    separatorAt (p.text marker equalSign quoteSign) (markerEnd marker p) + p.gap'.length + 2 =
        (p.head marker equalSign quoteSign).length ∧
      quoteAt (p.text marker equalSign quoteSign) (markerEnd marker p) + 1 =
        (p.head marker equalSign quoteSign).length ∧
      endAt (p.text marker equalSign quoteSign) (markerEnd marker p) = valueEnd marker p := by
  have hlength : (p.front ++ marker).length = markerEnd marker p := by
    rw [markerEnd, List.length_append]
  rw [valueEnd, length_head, text_eq, ← hlength, separatorAt_eq hp.gap, quoteAt_eq hp.gap hp.gap',
    endAt_eq hp.gap hp.gap' hp.value]
  omega

/-- The value is found if and only if its end is an `int`. -/
lemma findSignature_parts (hp : p.Valid marker equalSign quoteSign)
    (h31 : markerEnd marker p < 2 ^ 31) {posBegin posEnd : ℤ} :
    findSignature ((p.text marker equalSign quoteSign).length + 1) (markerEnd marker p)
        (p.text marker equalSign quoteSign) = .ok (true, posBegin, posEnd) ↔
      valueEnd marker p < 2 ^ 31 ∧ posBegin = (p.head marker equalSign quoteSign).length ∧
        posEnd = valueEnd marker p := by
  obtain ⟨hsep, hquote, hend⟩ := places_eq hp
  have htext := length_text marker p
  have hhead := length_head marker p
  have hvalue : (p.head marker equalSign quoteSign).length ≤ valueEnd marker p :=
    Nat.le_add_right _ _
  rw [findSignature_found_iff (by omega) h31, hquote, hend]
  refine and_congr_left fun _ => ⟨fun h => h.2.2.2, fun h => ?_⟩
  omega

/-- When the value is found behind the first occurrence of the marker, these are the parts. -/
lemma exists_parts {front x : List UInt8}
    (hfirst : ∀ j < front.length, ¬marker <+: (front ++ marker).drop j)
    (h31 : (front ++ marker).length < 2 ^ 31) {posBegin posEnd : ℤ}
    (h : findSignature ((front ++ (marker ++ x)).length + 1) ((front ++ marker).length : ℕ)
      (front ++ (marker ++ x)) = .ok (true, posBegin, posEnd)) :
    ∃ p : Parts UInt8, p.Valid marker equalSign quoteSign ∧ p.front = front ∧
      p.text marker equalSign quoteSign = front ++ (marker ++ x) := by
  rw [← List.append_assoc] at h ⊢
  obtain ⟨hsep, hquote, hend, -⟩ := ((findSignature_found_iff (by simp) h31).mp h).1
  obtain ⟨gap, gap', value, back, rfl, hgap, hgap', hvalue⟩ := exists_value hsep hquote hend
  exact ⟨⟨front, gap, gap', value, back⟩, ⟨hfirst, hgap, hgap', hvalue⟩, rfl, text_eq _ _⟩

/-- The marker is found at its first occurrence. -/
lemma findPos_parts (hp : p.Valid marker equalSign quoteSign) :
    findPos (p.text marker equalSign quoteSign) marker = toInt p.front.length := by
  rw [findPos, text_eq, List.append_assoc, hp.firstOf]

/-- What is behind the parts in front of the value is replaced. -/
lemma replaceRange_parts (marker : List UInt8) (p : Parts UInt8) (s : List UInt8) :
    replaceRange (p.text marker equalSign quoteSign)
        (p.head marker equalSign quoteSign).length (valueEnd marker p) s =
      { p with value := s }.text marker equalSign quoteSign := by
  have hsplit : p.text marker equalSign quoteSign =
      (p.head marker equalSign quoteSign ++ p.value) ++ quoteSign :: p.back := by
    rw [Parts.text, List.append_assoc]
  have hlength : (p.head marker equalSign quoteSign ++ p.value).length = valueEnd marker p := by
    rw [valueEnd, List.length_append]
  rw [replaceRange, Int.toNat_natCast, Int.toNat_natCast, hsplit, List.drop_left' hlength,
    List.append_assoc, List.take_left]
  rfl

end Range

/-- What the callers do with a range that is found. -/
lemma bind_found_eq_ok_iff {x : Except SigningStop (Bool × ℤ × ℤ)}
    {A : ℤ → ℤ → Except SigningStop (List UInt8)} {s : List UInt8} :
    (x >>= fun found => if found.1 then A found.2.1 found.2.2 else .error .encryptError) = .ok s ↔
      ∃ posBegin posEnd, x = .ok (true, posBegin, posEnd) ∧ A posBegin posEnd = .ok s := by
  rw [Result.bind_eq_ok]
  constructor
  · rintro ⟨⟨found, posBegin, posEnd⟩, hx, h⟩
    cases found with
    | true => exact ⟨posBegin, posEnd, hx, h⟩
    | false => cases h
  · rintro ⟨posBegin, posEnd, hx, h⟩
    exact ⟨_, hx, h⟩

/-- A marker behind the beginning splits the text at a place that is an `int`. -/
lemma exists_of_findPos_pos {text marker : List UInt8} (h32 : text.length < 2 ^ 32)
    (hpos : 0 < findPos text marker) :
    ∃ front x, text = front ++ (marker ++ x) ∧ front ≠ [] ∧ findPos text marker = front.length ∧
      ∀ j < front.length, ¬marker <+: (front ++ marker).drop j := by
  cases hfirst : firstOf marker text with
  | none =>
      rw [findPos, hfirst] at hpos
      exact absurd hpos (by decide)
  | some i =>
      obtain ⟨front, x, rfl, rfl, hfront⟩ := Quoted.exists_front hfirst
      have hfind : findPos (front ++ (marker ++ x)) marker = toInt front.length := by
        rw [findPos, hfirst]
      have hspec := toInt_spec front.length
      have hlength : (front ++ (marker ++ x)).length = front.length + (marker ++ x).length :=
        List.length_append
      have hint : toInt front.length = front.length := by omega
      refine ⟨front, x, rfl, ?_, hfind.trans hint, hfront⟩
      rintro rfl
      rw [hfind, hint] at hpos
      exact lt_irrefl _ hpos

/-- A value is found behind a marker only if the place behind it is an `int`. -/
lemma markerEnd_lt_of_found {text : List UInt8} {n : ℕ} (h32 : n < 2 ^ 32) {posBegin posEnd : ℤ}
    (h : findSignature (text.length + 1) (toInt n) text = .ok (true, posBegin, posEnd)) :
    toInt n = n ∧ n < 2 ^ 31 := by
  have hspec := toInt_spec n
  have hlt : n < 2 ^ 31 := by
    by_contra hge
    rw [findSignature_of_neg (by omega)] at h
    cases h
  exact ⟨by omega, hlt⟩

/-- Where the salt is put in there is a marker with a value. -/
lemma exists_of_saltedText {text marker salt s : List UInt8} (h32 : text.length < 2 ^ 32)
    (h : saltedText text marker salt = .ok s) :
    ∃ p : Parts UInt8, p.Valid marker equalSign quoteSign ∧
      p.text marker equalSign quoteSign = text ∧ p.front ≠ [] ∧ valueEnd marker p < 2 ^ 31 ∧
        s = { p with value := salt }.text marker equalSign quoteSign := by
  rw [saltedText] at h
  by_cases hpos : findPos text marker ≤ 0
  · rw [if_pos hpos] at h
    cases h
  rw [if_neg hpos] at h
  obtain ⟨front, x, rfl, hne, hfind, hfront⟩ := exists_of_findPos_pos h32 (not_le.mp hpos)
  obtain ⟨posBegin, posEnd, hfound, h⟩ := (bind_found_eq_ok_iff
    (A := fun b e => .ok (replaceRange (front ++ (marker ++ x)) b e salt))).mp h
  have hlength : (front ++ (marker ++ x)).length = (front ++ marker).length + x.length := by
    rw [← List.append_assoc, List.length_append]
  have hplace : (front.length : ℤ) + marker.length = ((front ++ marker).length : ℕ) := by
    rw [List.length_append, Nat.cast_add]
  rw [hfind, hplace] at hfound
  obtain ⟨hint, h31⟩ := markerEnd_lt_of_found (by omega) hfound
  rw [hint] at hfound
  obtain ⟨p, hp, rfl, htext⟩ := exists_parts hfront h31 hfound
  have hend : (p.front ++ marker).length = markerEnd marker p := List.length_append
  rw [← htext, hend] at hfound
  obtain ⟨hvalue, rfl, rfl⟩ := (findSignature_parts hp (hend ▸ h31)).mp hfound
  refine ⟨p, hp, htext, hne, hvalue, ?_⟩
  rw [← replaceRange_parts, htext]
  exact (Except.ok.inj h).symm

/-- A marker with a value gets the salt. -/
lemma saltedText_parts {marker : List UInt8} {p : Parts UInt8}
    (hp : p.Valid marker equalSign quoteSign) (hfront : p.front ≠ [])
    (hend : valueEnd marker p < 2 ^ 31) (salt : List UInt8) :
    saltedText (p.text marker equalSign quoteSign) marker salt =
      .ok ({ p with value := salt }.text marker equalSign quoteSign) := by
  have hhead := length_head marker p
  have hmarker : markerEnd marker p = p.front.length + marker.length := rfl
  have hvalue : (p.head marker equalSign quoteSign).length ≤ valueEnd marker p :=
    Nat.le_add_right _ _
  have hpos : 0 < p.front.length := List.length_pos_of_ne_nil hfront
  have hfind : findPos (p.text marker equalSign quoteSign) marker = p.front.length := by
    rw [findPos_parts hp, toInt_of_lt (by omega) (by omega)]
  have hint : toInt (p.front.length + marker.length) = (markerEnd marker p : ℕ) := by
    rw [toInt_of_lt (by omega) (by omega), hmarker, Nat.cast_add]
  have hfound := (findSignature_parts hp (by omega)).mpr ⟨hend, rfl, rfl⟩
  rw [saltedText, hfind, if_neg (not_le.mpr (by exact_mod_cast hpos)), hint]
  exact (bind_found_eq_ok_iff (A := fun b e => .ok (replaceRange _ b e salt))).mpr
    ⟨_, _, hfound, by rw [replaceRange_parts]⟩

/-- The salt is put in if and only if there is a marker, not at the beginning, with a value whose
end is an `int`. -/
theorem saltedText_eq_ok_iff {text marker : List UInt8} (h32 : text.length < 2 ^ 32)
    (salt s : List UInt8) :
    saltedText text marker salt = .ok s ↔
      ∃ p : Parts UInt8, p.Valid marker equalSign quoteSign ∧
        p.text marker equalSign quoteSign = text ∧ p.front ≠ [] ∧ valueEnd marker p < 2 ^ 31 ∧
          s = { p with value := salt }.text marker equalSign quoteSign := by
  refine ⟨exists_of_saltedText h32, ?_⟩
  rintro ⟨p, hp, rfl, hfront, hend, rfl⟩
  exact saltedText_parts hp hfront hend salt

/-! ### The check -/

section Check

variable {env : SigningEnv} {marker salt : List UInt8}

/-- The file is loaded: there is something in it, and the buffer has place for it. -/
structure Loads (file : List UInt8) : Prop where
  nonempty : file.length % 2 ^ 32 ≠ 0
  buffer : (file.length % 2 ^ 32 + 1) % 2 ^ 32 ≠ 0

lemma simpleFileLoad_eq_ok_iff {file text : List UInt8} :
    simpleFileLoad file = .ok text ↔ Loads file ∧ text = loadedText file := by
  rw [simpleFileLoad]
  split_ifs with hempty hbuffer
  · exact ⟨nofun, fun h => absurd hempty h.1.nonempty⟩
  · exact ⟨nofun, fun h => absurd hbuffer h.1.buffer⟩
  · exact ⟨fun h => ⟨⟨hempty, hbuffer⟩, (Except.ok.inj h).symm⟩, fun h => by rw [h.2]⟩

lemma length_loadedText_lt (file : List UInt8) : (loadedText file).length < 2 ^ 32 := by
  have hle := (List.takeWhile_sublist (· ≠ 0) (l := file.take (file.length % 2 ^ 32))).length_le
  rw [List.length_take] at hle
  rw [loadedText]
  omega

/-- A file is accepted if and only if its signature is the hash of the text with the salt. -/
theorem xmlFileCheck_eq_ok_iff {file : List UInt8} :
    xmlFileCheck env file marker salt = .ok () ↔
      Loads file ∧ ∃ (p : Parts UInt8) (strhash : List UInt8), p.Valid marker equalSign quoteSign ∧
        p.text marker equalSign quoteSign = loadedText file ∧ p.front ≠ [] ∧
        valueEnd marker p < 2 ^ 31 ∧ signatureValue env (loadedText file) marker = .ok strhash ∧
          (stringToBuffer strhash (List.replicate maxHashSize 0)).2 =
            getStrHash env ({ p with value := salt }.text marker equalSign quoteSign) := by
  rw [xmlFileCheck]
  simp only [Result.bind_eq_ok, simpleFileLoad_eq_ok_iff]
  constructor
  · rintro ⟨text, ⟨hloads, rfl⟩, strhash, hstrhash, salted, hsalted, h⟩
    obtain ⟨p, hp, htext, hfront, hend, rfl⟩ :=
      (saltedText_eq_ok_iff (length_loadedText_lt file) salt salted).mp hsalted
    refine ⟨hloads, p, strhash, hp, htext, hfront, hend, hstrhash, ?_⟩
    by_contra hne
    rw [if_neg hne] at h
    cases h
  · rintro ⟨hloads, p, strhash, hp, htext, hfront, hend, hstrhash, hhash⟩
    have hsalted := (saltedText_eq_ok_iff (length_loadedText_lt file) salt _).mpr
      ⟨p, hp, htext, hfront, hend, rfl⟩
    exact ⟨_, ⟨hloads, rfl⟩, strhash, hstrhash, _, hsalted, if_pos hhash⟩

lemma getStrHash_inj {text text' : List UInt8}
    (hsha1 : Set.InjOn env.sha1 {hashInput text, hashInput text'})
    (h : getStrHash env text = getStrHash env text') : hashInput text = hashInput text' :=
  hsha1 (Set.mem_insert _ _) (Set.mem_insert_of_mem _ rfl) (Buffer.ext h)

/-! ### A document that is saved -/

lemma isHex_stringFromBuffer (bytes : List UInt8) : HexText (stringFromBuffer bytes) := by
  have hhigh : ∀ b : UInt8, b >>> 4 < 16 := by decide +kernel
  have hlow : ∀ b : UInt8, b &&& 0x0F < 16 := by decide +kernel
  intro c hc
  simp only [stringFromBuffer, List.mem_flatMap, List.mem_cons, List.not_mem_nil, or_false] at hc
  obtain ⟨b, -, rfl | rfl⟩ := hc
  · rw [hexDigit_hexUpper _ (hhigh b)]
    exact Option.some_ne_none _
  · rw [hexDigit_hexUpper _ (hlow b)]
    exact Option.some_ne_none _

lemma HexText.notMem {value : List UInt8} (h : HexText value) {c : UInt8} (hc : hexDigit c = none) :
    c ∉ value := fun hmem => h c hmem hc

/-- A signature of a hash is decoded to it. -/
lemma stringToBuffer_signature (text : List UInt8) :
    (stringToBuffer (stringFromBuffer (getStrHash env text)) (List.replicate maxHashSize 0)).2 =
      getStrHash env text := by
  have hlength : (getStrHash env text).length = maxHashSize := (env.sha1 _).length_content
  have hzeros : (List.replicate maxHashSize (0 : UInt8)).length = maxHashSize :=
    List.length_replicate
  rw [stringToBuffer_snd (by rw [hzeros]; decide) (by rw [hzeros]; decide),
    hexDigits_stringFromBuffer, List.take_of_length_le (by rw [length_nibbles, hlength, hzeros]),
    pairBytes_nibbles, hlength, List.drop_of_length_le hzeros.le, List.append_nil]

/-- The document with its signature in the place of the salt. -/
def withSignature (env : SigningEnv) (marker : List UInt8) (p : Parts UInt8) : Parts UInt8 :=
  { p with
    value := stringFromBuffer (getStrHash env (p.text marker equalSign quoteSign)) }

lemma length_signature (env : SigningEnv) (marker : List UInt8) (p : Parts UInt8) :
    (withSignature env marker p).value.length = 2 * maxHashSize := by
  rw [withSignature, length_stringFromBuffer, getStrHash, (env.sha1 _).length_content]

lemma withSignature_valid {p : Parts UInt8} (hp : p.Valid marker equalSign quoteSign) :
    (withSignature env marker p).Valid marker equalSign quoteSign :=
  ⟨hp.first, hp.gap, hp.gap', (isHex_stringFromBuffer _).notMem (by decide)⟩

/-- What is saved and loaded again fits: the ends of the value, with the salt and with the
signature, are `int`, and the size of the file with one byte more is an `unsigned int`. -/
structure FitsSigned (env : SigningEnv) (marker : List UInt8) (p : Parts UInt8) : Prop where
  salt : valueEnd marker p < 2 ^ 31
  signature : valueEnd marker (withSignature env marker p) < 2 ^ 31
  size : ((withSignature env marker p).text marker equalSign quoteSign).length + 1 < 2 ^ 32

lemma simpleFileSave_eq_ok_iff {text file : List UInt8} :
    simpleFileSave text = .ok file ↔ text.length < 2 ^ 32 ∧ file = text := by
  rw [simpleFileSave]
  split_ifs with h
  · exact ⟨nofun, fun h' => absurd (Nat.mod_eq_of_lt h'.1) h⟩
  · refine ⟨fun h' => ⟨by omega, (Except.ok.inj h').symm⟩, fun h' => by rw [h'.2]⟩

/-- A document is saved with its signature if and only if the end of the value is an `int` and the
size an `unsigned int`. -/
lemma xmlFileSave_eq_ok_iff {p : Parts UInt8} (hp : p.Valid marker equalSign quoteSign)
    (hfront : p.front ≠ []) (h32 : markerEnd marker p < 2 ^ 32) {file : List UInt8} :
    xmlFileSave env (p.text marker equalSign quoteSign) marker = .ok file ↔
      valueEnd marker p < 2 ^ 31 ∧
        ((withSignature env marker p).text marker equalSign quoteSign).length < 2 ^ 32 ∧
          file = (withSignature env marker p).text marker equalSign quoteSign := by
  have hmarker : marker ≠ [] := by
    rintro rfl
    exact hp.first 0 (List.length_pos_of_ne_nil hfront) List.nil_prefix
  have hlength := List.length_pos_of_ne_nil hmarker
  have hend : markerEnd marker p = p.front.length + marker.length := rfl
  have hspec := toInt_spec p.front.length
  have hspec' := toInt_spec (toInt p.front.length + marker.length)
  have hne : toInt p.front.length ≠ -1 := by omega
  rw [xmlFileSave, findPos_parts hp, if_neg hne]
  by_cases h31 : markerEnd marker p < 2 ^ 31
  case neg =>
    rw [findSignature_of_neg (by omega), Result.error_bind]
    refine ⟨nofun, fun h => absurd h.1 ?_⟩
    have hhead := length_head marker p
    rw [valueEnd]
    omega
  have hint : toInt (toInt p.front.length + marker.length) = (markerEnd marker p : ℕ) := by omega
  rw [hint]
  refine (bind_found_eq_ok_iff (A := fun b e => simpleFileSave (replaceRange _ b e _))).trans ?_
  constructor
  · rintro ⟨posBegin, posEnd, hfound, h⟩
    obtain ⟨hvalue, rfl, rfl⟩ := (findSignature_parts hp h31).mp hfound
    rw [replaceRange_parts, simpleFileSave_eq_ok_iff] at h
    exact ⟨hvalue, h⟩
  · rintro ⟨hvalue, hsize, rfl⟩
    refine ⟨_, _, (findSignature_parts hp h31).mpr ⟨hvalue, rfl, rfl⟩, ?_⟩
    rw [replaceRange_parts]
    exact simpleFileSave_eq_ok_iff.mpr ⟨hsize, rfl⟩

lemma loadedText_eq {file : List UInt8} (h : file.length < 2 ^ 32) (hzero : 0 ∉ file) :
    loadedText file = file := by
  rw [loadedText, Nat.mod_eq_of_lt h, List.take_length, List.takeWhile_eq_self_iff]
  exact fun c hc => decide_eq_true fun heq => hzero (heq ▸ hc)

lemma IsDocument.noZero_withSignature {p : Parts UInt8} (h : IsDocument env marker salt p) :
    0 ∉ (withSignature env marker p).text marker equalSign quoteSign := by
  have hzero := h.noZero
  have hvalue : 0 ∉ (withSignature env marker p).value :=
    (isHex_stringFromBuffer _).notMem hexDigit_zero
  have hhead : (withSignature env marker p).head marker equalSign quoteSign =
      p.head marker equalSign quoteSign := rfl
  simp only [Parts.text, List.mem_append, List.mem_cons, not_or] at hzero ⊢
  exact ⟨hhead ▸ hzero.1, hvalue, hzero.2.2⟩

/-- What fits is saved and accepted. -/
theorem savesAndChecks_of_fits {p : Parts UInt8} (h : IsDocument env marker salt p)
    (hfits : FitsSigned env marker p) : SavesAndChecks env marker salt p := by
  have hsize := hfits.size
  have hlength := length_text marker (withSignature env marker p)
  have hhead := length_head marker p
  have hend := hfits.salt
  rw [valueEnd] at hend
  have hsave := (@xmlFileSave_eq_ok_iff env _ _ h.valid h.front (by omega) _).mpr
    ⟨hfits.salt, Nat.lt_of_succ_lt hsize, rfl⟩
  refine ⟨_, hsave, xmlFileCheck_eq_ok_iff.mpr ?_⟩
  have hload := loadedText_eq (Nat.lt_of_succ_lt hsize) h.noZero_withSignature
  have hhex : HexText (withSignature env marker p).value := isHex_stringFromBuffer _
  obtain ⟨attr, hparse⟩ := (h.sameForm _ hhex).mpr h.wellFormed
  have hsigned : { p with value := (withSignature env marker p).value } =
      withSignature env marker p := rfl
  have hsalt : { withSignature env marker p with value := salt } = p := by
    rw [← h.value]
    rfl
  have hwritten := h.asWritten _ attr hhex hparse
  rw [hsigned] at hparse
  refine ⟨⟨?_, ?_⟩, withSignature env marker p, (withSignature env marker p).value,
    withSignature_valid h.valid, hload.symm, h.front, hfits.signature, ?_, ?_⟩
  · omega
  · omega
  · rw [hload, signatureValue, hparse]
    simp only [hwritten, length_signature, ne_eq, not_true_eq_false, if_false]
  · rw [hsalt]
    exact stringToBuffer_signature _

/-- What is saved and accepted fits. -/
theorem fits_of_savesAndChecks {p : Parts UInt8} (h : IsDocument env marker salt p)
    (h32 : markerEnd marker p < 2 ^ 32) (hchecks : SavesAndChecks env marker salt p) :
    FitsSigned env marker p := by
  obtain ⟨file, hsave, hcheck⟩ := hchecks
  obtain ⟨hend, hsize, rfl⟩ := (xmlFileSave_eq_ok_iff h.valid h.front h32).mp hsave
  obtain ⟨hloads, q, strhash, hq, htext, -, hend', -, -⟩ := xmlFileCheck_eq_ok_iff.mp hcheck
  rw [loadedText_eq hsize h.noZero_withSignature] at htext
  obtain ⟨hfront, hgap, hgap', hrest⟩ := Parts.head_unique hq (withSignature_valid h.valid) htext
  obtain ⟨hvalue, -⟩ := Quoted.append_cons_inj hq.value (withSignature_valid h.valid).value hrest
  refine ⟨hend, ?_, ?_⟩
  · rw [valueEnd, length_head, markerEnd] at hend' ⊢
    rw [← hfront, ← hgap, ← hgap', ← hvalue]
    exact hend'
  · have hbuffer := hloads.buffer
    omega

/-! ### Two files that are accepted -/

/-- The text that is checked: the loaded one with the salt. -/
def checkedText (marker salt file : List UInt8) : List UInt8 :=
  (saltedText (loadedText file) marker salt).toOption.getD []

/-- What the hash leaves out: the part of the checked text that is not handed over, and the part of
the file that is not loaded. -/
def notHashed (marker salt file : List UInt8) : List UInt8 :=
  (checkedText marker salt file).drop ((checkedText marker salt file).length % 2 ^ 32) ++
    file.drop (loadedText file).length

lemma loadedText_append (file : List UInt8) :
    loadedText file ++ file.drop (loadedText file).length = file := by
  have hprefix : loadedText file <+: file :=
    (List.takeWhile_prefix _).trans (List.take_prefix _ _)
  exact (List.prefix_iff_eq_append.mp hprefix)

/-- The parts of a file that is accepted: the signature is the hash of what is hashed, and with the
salt the file is that and what is left out. -/
lemma exists_fileParts {file strhash : List UInt8} (h : xmlFileCheck env file marker salt = .ok ())
    (hstrhash : signatureValue env (loadedText file) marker = .ok strhash) :
    ∃ p : Parts UInt8, p.Valid marker equalSign quoteSign ∧
      p.text marker equalSign quoteSign = file ∧
      { p with value := salt }.text marker equalSign quoteSign =
        hashInput (checkedText marker salt file) ++ notHashed marker salt file ∧
      (stringToBuffer strhash (List.replicate maxHashSize 0)).2 =
        getStrHash env (checkedText marker salt file) := by
  obtain ⟨-, q, strhash', hq, htext, hfront, hend, hstrhash', hhash⟩ :=
    xmlFileCheck_eq_ok_iff.mp h
  obtain rfl : strhash = strhash' := Except.ok.inj (hstrhash.symm.trans hstrhash')
  have hsalted := (saltedText_eq_ok_iff (length_loadedText_lt file) salt _).mpr
    ⟨q, hq, htext, hfront, hend, rfl⟩
  have hchecked : checkedText marker salt file =
      { q with value := salt }.text marker equalSign quoteSign := by
    rw [checkedText, hsalted]
    rfl
  -- what is not loaded is behind the value
  have hsplit : ∀ value rest, { q with value := value, back := q.back ++ rest }.text marker
      equalSign quoteSign = { q with value := value }.text marker equalSign quoteSign ++ rest := by
    intro value rest
    simp only [Parts.text, Parts.head, List.append_assoc, List.cons_append]
  refine ⟨{ q with back := q.back ++ file.drop (loadedText file).length },
    ⟨hq.first, hq.gap, hq.gap', hq.value⟩, ?_, ?_, hchecked ▸ hhash⟩
  · exact (hsplit q.value _).trans (htext ▸ loadedText_append file)
  · rw [notHashed, hashInput, ← List.append_assoc, List.take_append_drop, hchecked]
    exact hsplit salt _

/-- Two files with one signature are the same up to the quoted value if and only if what is left out
is the same. -/
theorem equalExcept_iff {file file' strhash : List UInt8}
    (h : xmlFileCheck env file marker salt = .ok ())
    (h' : xmlFileCheck env file' marker salt = .ok ())
    (hstrhash : signatureValue env (loadedText file) marker = .ok strhash)
    (hstrhash' : signatureValue env (loadedText file') marker = .ok strhash)
    (hsha1 : Set.InjOn env.sha1
      {hashInput (checkedText marker salt file), hashInput (checkedText marker salt file')}) :
    EqualExcept marker file file' ↔ notHashed marker salt file = notHashed marker salt file' := by
  obtain ⟨p, hp, rfl, hsalted, hhash⟩ := exists_fileParts h hstrhash
  obtain ⟨p', hp', rfl, hsalted', hhash'⟩ := exists_fileParts h' hstrhash'
  have hinput := getStrHash_inj hsha1 (hhash.symm.trans hhash')
  rw [hinput] at hsalted
  constructor
  · rintro ⟨q, q', hq, hq', htext, htext', heq⟩
    obtain rfl := Parts.text_unique hq hp htext
    obtain rfl := Parts.text_unique hq' hp' htext'
    have hsame : { q with value := salt } = { q' with value := salt } := by rw [heq]
    rw [hsame, hsalted'] at hsalted
    exact (List.append_cancel_left hsalted).symm
  · intro hrest
    rw [hrest, ← hsalted'] at hsalted
    obtain ⟨hfront, hgap, hgap', hback⟩ := Parts.head_unique hp hp' hsalted
    have hback' := List.tail_eq_of_cons_eq (List.append_cancel_left hback)
    refine ⟨p, p', hp, hp', rfl, rfl, ?_⟩
    rw [hfront, hgap, hgap', hback']

end Check

/-! ### All of it -/

/-- A document is saved and accepted if and only if it fits; of two accepted files with one
signature the hash leaves out the same if and only if they are the same up to the value; and
`findSignature` ends inside the text if and only if the places it comes to are `int`. -/
theorem signed_iff (env : SigningEnv) (marker salt : List UInt8) :
    (∀ p, IsDocument env marker salt p →
      (FitsSigned env marker p → SavesAndChecks env marker salt p) ∧
        (markerEnd marker p < 2 ^ 32 →
          (SavesAndChecks env marker salt p ↔ FitsSigned env marker p))) ∧
    (∀ file file' strhash, xmlFileCheck env file marker salt = .ok () →
      xmlFileCheck env file' marker salt = .ok () →
      signatureValue env (loadedText file) marker = .ok strhash →
      signatureValue env (loadedText file') marker = .ok strhash →
      Set.InjOn env.sha1
        {hashInput (checkedText marker salt file), hashInput (checkedText marker salt file')} →
      (EqualExcept marker file file' ↔
        notHashed marker salt file = notHashed marker salt file')) ∧
    ∀ (text : List UInt8) (pos : ℤ), pos ≤ text.length → pos < 2 ^ 31 →
      (ScansInside text pos ↔ 0 ≤ pos ∧ SearchesFit text pos.toNat) := by
  refine ⟨fun p h => ⟨savesAndChecks_of_fits h, fun h32 =>
    ⟨fits_of_savesAndChecks h h32, savesAndChecks_of_fits h⟩⟩, ?_, ?_⟩
  · intro file file' strhash h h' hstrhash hstrhash' hsha1
    exact equalExcept_iff h h' hstrhash hstrhash' hsha1
  · intro text pos hpos h31
    by_cases hneg : pos < 0
    · refine ⟨?_, fun h => absurd h.1 (not_le.mpr hneg)⟩
      rintro ⟨found, posBegin, posEnd, hresult, -⟩
      rw [findSignature_of_neg hneg] at hresult
      cases hresult
    · have hnonneg : 0 ≤ pos := not_lt.mp hneg
      obtain ⟨n, rfl⟩ := Int.eq_ofNat_of_zero_le hnonneg
      rw [Int.toNat_natCast, scansInside_iff (by exact_mod_cast hpos) (by exact_mod_cast h31)]
      exact ⟨fun h => ⟨hnonneg, h⟩, fun h => h.2⟩

/-! ### A small document -/

/-- The parts of `<r h="s"/>`. -/
def partsR : Parts UInt8 := ⟨[0x3C, 0x72, 0x20], [], [], [0x73], [0x2F, 0x3E]⟩

/-- The name of its attribute. -/
def markerR : List UInt8 := [0x68]

/-- The parser for texts of this form, and the hash of this text. -/
def envR : SigningEnv where
  parse text :=
    let rest := text.drop 6
    if text.take 6 = partsR.head markerR equalSign quoteSign ∧
        rest.dropWhile (· ≠ quoteSign) = quoteSign :: partsR.back then
      .ok (some fun name => if name = markerR then some (rest.takeWhile (· ≠ quoteSign)) else none)
    else .error 1
  sha1 text :=
    if text = partsR.text markerR equalSign quoteSign then
      ⟨[0xC8, 0x0A, 0xD3, 0x77, 0x53, 0x42, 0x3A, 0x09, 0xF2, 0x28, 0xA0, 0x7F, 0xEA, 0xE9, 0xFC,
        0xE4, 0xA2, 0x4A, 0x42, 0x15], rfl⟩
    else Buffer.fill maxHashSize 0

lemma parse_envR {value : List UInt8} (h : quoteSign ∉ value) :
    envR.parse ({ partsR with value := value }.text markerR equalSign quoteSign) =
      .ok (some fun name => if name = markerR then some value else none) := by
  have hpos : ∀ c ∈ value, decide (c ≠ quoteSign) = true := fun c hc =>
    decide_eq_true fun heq => h (heq ▸ hc)
  have hrest : ({ partsR with value := value }.text markerR equalSign quoteSign).drop 6 =
      value ++ quoteSign :: partsR.back := rfl
  have hhead : ({ partsR with value := value }.text markerR equalSign quoteSign).take 6 =
      partsR.head markerR equalSign quoteSign := rfl
  have htake : (value ++ quoteSign :: partsR.back).takeWhile (· ≠ quoteSign) = value := by
    rw [List.takeWhile_append_of_pos hpos, List.takeWhile_cons_of_neg (by simp), List.append_nil]
  have hdrop : (value ++ quoteSign :: partsR.back).dropWhile (· ≠ quoteSign) =
      quoteSign :: partsR.back := by
    rw [List.dropWhile_append_of_pos hpos, List.dropWhile_cons_of_neg (by simp)]
  simp only [envR, hrest, hhead, htake, hdrop, and_self, if_true]

lemma isDocument_partsR : IsDocument envR markerR [0x73] partsR where
  valid := ⟨by decide, by decide, by decide, by decide⟩
  value := rfl
  front := by decide
  noZero := by decide
  wellFormed := ⟨_, parse_envR (by decide)⟩
  sameForm value h := by
    have hvalue : quoteSign ∉ value := h.notMem (by decide)
    exact ⟨fun _ => ⟨_, parse_envR (by decide)⟩, fun _ => ⟨_, parse_envR hvalue⟩⟩
  asWritten value attr h hparse := by
    rw [parse_envR (h.notMem (by decide))] at hparse
    cases hparse
    exact if_pos rfl

/-- The file that is saved for it, `<r h="C80AD37753423A09F228A07FEAE9FCE4A24A4215"/>`. -/
def fileR : List UInt8 := (withSignature envR markerR partsR).text markerR equalSign quoteSign

/-- The file with a zero and another byte behind it. -/
def longR : List UInt8 := fileR ++ [0, 0x41]

lemma check_fileR : xmlFileCheck envR fileR markerR [0x73] = .ok () ∧
    signatureValue envR (loadedText fileR) markerR =
      .ok (withSignature envR markerR partsR).value := by decide +kernel

lemma check_longR : xmlFileCheck envR longR markerR [0x73] = .ok () ∧
    signatureValue envR (loadedText longR) markerR =
      .ok (withSignature envR markerR partsR).value := by decide +kernel

/-- For both of them the same text is hashed. -/
lemma injOn_sha1_R : Set.InjOn envR.sha1 {hashInput (checkedText markerR [0x73] fileR),
    hashInput (checkedText markerR [0x73] longR)} := by
  have hsame : hashInput (checkedText markerR [0x73] longR) =
      hashInput (checkedText markerR [0x73] fileR) := by decide +kernel
  rw [hsame, Set.pair_eq_singleton]
  exact Set.injOn_singleton _ _

/-- The document is saved and accepted; what is behind the zero is left out of the hash. -/
theorem signed_iff_R : SavesAndChecks envR markerR [0x73] partsR ∧
    (EqualExcept markerR fileR longR ↔
      notHashed markerR [0x73] fileR = notHashed markerR [0x73] longR) ∧
    ScansInside fileR 4 := by
  obtain ⟨hdocument, hfiles, hscan⟩ := signed_iff envR markerR [0x73]
  refine ⟨(hdocument _ isDocument_partsR).1 ⟨by decide, by decide, by decide⟩, ?_, ?_⟩
  · exact hfiles _ _ _ check_fileR.1 check_longR.1 check_fileR.2 check_longR.2 injOn_sha1_R
  · exact (hscan fileR 4 (by decide) (by decide)).mpr
      ⟨by decide, by decide +kernel, by decide +kernel, by decide +kernel⟩

/-- The file with a byte behind a zero is accepted with the signature of the one without. -/
theorem signed_fails : ¬ ∀ (env : SigningEnv) (marker salt : List UInt8),
    (∀ p, IsDocument env marker salt p → SavesAndChecks env marker salt p) ∧
    (∀ file file' strhash, xmlFileCheck env file marker salt = .ok () →
      xmlFileCheck env file' marker salt = .ok () →
      signatureValue env (loadedText file) marker = .ok strhash →
      signatureValue env (loadedText file') marker = .ok strhash →
      Set.InjOn env.sha1
        {hashInput (checkedText marker salt file), hashInput (checkedText marker salt file')} →
      EqualExcept marker file file') ∧
    ∀ (text : List UInt8) (pos : ℤ), 0 ≤ pos → pos ≤ text.length → pos < 2 ^ 31 →
      ScansInside text pos := by
  intro h
  obtain ⟨p, p', hp, hp', htext, htext', heq⟩ := (h envR markerR [0x73]).2.1 _ _ _ check_fileR.1
    check_longR.1 check_fileR.2 check_longR.2 injOn_sha1_R
  -- the parts of the two files are known, and they do not end with the same text
  have hsigned : (withSignature envR markerR partsR).Valid markerR equalSign quoteSign :=
    withSignature_valid isDocument_partsR.valid
  have hlong : ({ withSignature envR markerR partsR with back := [0x2F, 0x3E, 0, 0x41] } :
      Parts UInt8).Valid markerR equalSign quoteSign :=
    ⟨hsigned.first, hsigned.gap, hsigned.gap', hsigned.value⟩
  obtain rfl := Parts.text_unique hp hsigned htext
  obtain rfl := Parts.text_unique hp' hlong htext'
  have hback := congrArg Parts.back heq
  exact absurd hback (by decide)

end Tritonn

import Tritonn.Event.Parameters
import Tritonn.Shared.Common
import Tritonn.Shared.Hex
import Tritonn.Store.Printed
import Tritonn.Store.TextWrite

/-!
The text of an event: `rEventManager::getDescr` with `parseParameter` and `parseNumber` of
`src/tritonn/event/manager.cpp`.

* `parseNumber` is the scanner behind a dollar, which reads the memory from the digit on; the memory
  ends with the zero of the string, and a read behind it gives no result;
* `parseParameter` is the text of a parameter, and `getDescr` the one of an event; `fuel` bounds the
  turns of its loop, whose counter has thirty-two bits;
* `IsSpec` is the grammar of the comment, `$1, $2.3, $4.e5, $6.e`, with the digits of the number and
  of the precision;
* `ParseOk` says of a string that the scanner takes the longest beginning that is in the grammar,
  and `Describes` what a template has to become: other text is copied, `$$` is a dollar, and at a
  specifier stands what `parseParameter` gives there.

`descr_ok` says that the scanner does so on every string, and that the text of every event is the
one that `Describes` its template.  `descr_fails` are inputs on which more was expected: a precision
before the letter, a template without a character, and one whose length is no `UDINT`.
-/

namespace Tritonn

/-- `isdigit`. -/
def isDigit (c : UInt8) : Bool := 0x30 ≤ c && c ≤ 0x39

/-- `atoi` of digits: a `long`, here one of sixty-four bits, that is cut to an `int`. -/
def atoi (s : List UInt8) : UInt32 :=
  UInt32.ofNat (min (Numeral.value 10 (Numeral.digits decDigit s)) (2 ^ 63 - 1))

/-- The bytes of a text. -/
def asciiBytes (s : String) : List UInt8 := s.toList.map fun c => UInt8.ofNat c.toNat

/-! ### The functions of the source -/

/-- The states of `parseNumber`. -/
inductive NumberState where
  | number
  | dot
  | exp
  | prec
  deriving DecidableEq

/-- What `parseNumber` fills in. -/
@[ext]
structure NumberFields where
  num : UInt32
  prec : UInt32
  exp : UInt32
  deriving DecidableEq

namespace NumberFields

/-- The number is set, unless there are no digits. -/
def setNum (f : NumberFields) (strNum : List UInt8) : NumberFields :=
  { f with num := if strNum ≠ [] then atoi strNum else f.num }

/-- The precision is set, unless there are no digits. -/
def setPrec (f : NumberFields) (strNum : List UInt8) : NumberFields :=
  { f with prec := if strNum ≠ [] then atoi strNum else f.prec }

end NumberFields

/-- The loop of `parseNumber`: `curch` is the memory from the character on, `n` characters behind
the first. -/
def parseNumberLoop : ℕ → NumberState → List UInt8 → ℕ → List UInt8 → NumberFields →
    Option (UInt32 × NumberFields)
  | 0, _, _, _, _, _ => none
  | fuel + 1, state, strNum, n, curch, f => do
      let c ← curch.head?
      if c = 0 then
        if state = .number then some (UInt32.ofNat n, f.setNum strNum)
        else some (UInt32.ofNat n, f.setPrec strNum)
      else
        match state with
        | .number =>
            if c = 0x2E then
              if strNum = [] then some (0, f)
              else parseNumberLoop fuel .dot [] n curch (f.setNum strNum)
            else if isDigit c then
              parseNumberLoop fuel .number (strNum ++ [c]) (n + 1) curch.tail f
            else some (UInt32.ofNat n, f.setNum strNum)
        | .dot => do
            let d ← curch.tail.head?
            if d = 0x65 ∨ d = 0x45 then parseNumberLoop fuel .exp strNum (n + 1) curch.tail f
            else if isDigit d then parseNumberLoop fuel .prec strNum (n + 1) curch.tail f
            else some (UInt32.ofNat n, f)
        | .exp => do
            let d ← curch.tail.head?
            -- The letter that is tested is the character behind the one that led here.
            let f := { f with exp := if d = 0x65 then 1 else 2 }
            if isDigit d then parseNumberLoop fuel .prec [] (n + 1) curch.tail f
            else some (UInt32.ofNat (n + 1), f)
        | .prec =>
            if isDigit c then parseNumberLoop fuel .prec (strNum ++ [c]) (n + 1) curch.tail f
            else some (UInt32.ofNat n, f.setPrec strNum)

/-- `rEventManager::parseNumber`: what it returns and what it fills in. -/
def parseNumber (str : List UInt8) (f : NumberFields) : Option (UInt32 × NumberFields) :=
  parseNumberLoop (str.length + 2) .number [] 0 str f

/-- What the texts of events are made from: the templates of `m_texts` and the strings of
`rTextManager` in their current languages, `rPrecision`, and the formats of real numbers. -/
structure DescrEnv where
  texts : EID → Option (List UInt8)
  strings : UInt32 → Option (List UInt8)
  precision : Precision
  formatReal : String → UInt32 → VType → List UInt8 → List UInt8

namespace DescrEnv

variable (env : DescrEnv) (e : REvent)

/-- `floatformat`. -/
def floatformat : List String := ["%.*f", "%.*e", "%.*E"]

/-- The loop for a precision: the unit of the nearest parameter that has one, in front of the
parameter `jj`. -/
def unitPrec : ℕ → Option UInt32
  | 0 => some 5
  | jj + 1 => do
      match ← e.getParamByID (UInt32.ofNat jj) with
      | some (type, pos) =>
          if type = VType.strid.code then do
            let sid ← e.data.load pos 4
            if leNat sid < 512 then
              some (env.precision.get (UInt32.ofNat (leNat sid))).toUInt32
            else unitPrec jj
          else unitPrec jj
      | none => unitPrec jj

/-- The switch of `parseParameter`. -/
def typeText (f : NumberFields) (type : UInt8) (pos : ℕ) : Option (List UInt8) :=
  if 10 ≤ type then some (asciiBytes "<unknow type>")
  else
    match VType.ofCode type with
    | .undef => some (asciiBytes "<undefine type>")
    | .strid => do
        let data ← e.data.load pos 4
        match env.strings (UInt32.ofNat (leNat data)) with
        | none =>
            some (asciiBytes ("<unknow sid " ++ String.ofList (formatInt (leNat data)) ++ ">"))
        | some str => some str
    | .real => do
        let data ← e.data.load pos 4
        let format ← floatformat[f.exp.toNat]?
        some (env.formatReal format f.prec .real data)
    | .lreal => do
        let data ← e.data.load pos 8
        let format ← floatformat[f.exp.toNat]?
        some (env.formatReal format f.prec .lreal data)
    | type => do
        let data ← e.data.load pos (getTypeSize type)
        some (asciiBytes (String.ofList (formatInt (type.decode data))))

/-- `rEventManager::parseParameter`: the text of the parameter, and by how much `offset` grows. -/
def parseParameter (str : List UInt8) : Option (List UInt8 × UInt32) := do
  let (n, f) ← parseNumber str ⟨0, 0xFFFFFFFF, 0⟩
  match ← e.getParamByID (f.num - 1) with
  | none => some (asciiBytes "<?>", n)
  | some (type, pos) => do
      let prec ←
        if f.prec = 0xFFFFFFFF ∧ (type = VType.lreal.code ∨ type = VType.real.code) then
          unitPrec env e (toInt (f.num - 2).toNat + 1).toNat
        else some f.prec
      let shown ← typeText env e { f with prec := prec } type pos
      some (shown, n)

/-- The loop of `getDescr`. -/
def getDescrLoop (text : List UInt8) : ℕ → UInt32 → List UInt8 → Option (List UInt8)
  | 0, _, _ => none
  | fuel + 1, ii, result =>
      if ii.toNat < text.length then do
        let c ← text[ii.toNat]?
        if c ≠ 0x24 ∨ ii.toNat = text.length - 1 then
          getDescrLoop text fuel (ii + 1) (result ++ [c])
        else do
          let d ← text[(ii + 1).toNat]?
          if d = 0x24 then getDescrLoop text fuel (ii + 1 + 1) (result ++ [0x24])
          else if !isDigit d then getDescrLoop text fuel (ii + 1) (result ++ [c])
          else do
            let (shown, n) ← parseParameter env e ((text ++ [0]).drop (ii.toNat + 1))
            getDescrLoop text fuel (ii + n + 1) (result ++ shown)
      else some result

/-- `rEventManager::getDescr`. -/
def getDescr (fuel : ℕ) : Option (List UInt8) :=
  match env.texts e.eid with
  | none =>
      some (asciiBytes ("Event " ++ String.ofList (formatInt e.eid.toNat) ++ " does not exist"))
  | some text =>
      if text = [] then
        some (asciiBytes
          ("Event " ++ String.ofList (formatInt e.eid.toNat) ++ " have not decription"))
      else getDescrLoop env e text fuel 0 []

end DescrEnv

/-! ### What is expected -/

/-- The grammar of a specifier, with the digits of the number and of the precision. -/
inductive IsSpec : List UInt8 → List UInt8 → List UInt8 → Prop
  | number {num} (hnum : num ≠ [] ∧ ∀ c ∈ num, isDigit c) : IsSpec num num []
  | prec {num prec} (hnum : num ≠ [] ∧ ∀ c ∈ num, isDigit c)
      (hprec : prec ≠ [] ∧ ∀ c ∈ prec, isDigit c) : IsSpec (num ++ 0x2E :: prec) num prec
  | exp {num letter prec} (hnum : num ≠ [] ∧ ∀ c ∈ num, isDigit c)
      (hletter : letter = 0x65 ∨ letter = 0x45) (hprec : ∀ c ∈ prec, isDigit c) :
      IsSpec (num ++ 0x2E :: letter :: prec) num prec

/-- No beginning of a text that is in the grammar has more than `n` characters. -/
def NoLonger (str : List UInt8) (n : ℕ) : Prop :=
  ∀ pre num prec, pre <+: str → IsSpec pre num prec → pre.length ≤ n

/-- The scanner takes the longest beginning of a string that is in the grammar, and fills in the
number and the precision; without one it takes nothing. -/
def ParseOk (str : List UInt8) (f : NumberFields) : Prop :=
  ∃ (n : UInt32) (f' : NumberFields), parseNumber (str ++ [0]) f = some (n, f') ∧
    NoLonger str n.toNat ∧ (f'.exp = f.exp ∨ f'.exp = 1 ∨ f'.exp = 2) ∧
    (n = 0 ∧ f' = f ∨
      ∃ num prec, IsSpec (str.take n.toNat) num prec ∧ n.toNat ≤ str.length ∧
        f'.num = atoi num ∧ f'.prec = if prec = [] then f.prec else atoi prec)

/-- What the text of an event is for a template. -/
inductive Describes (env : DescrEnv) (e : REvent) : List UInt8 → List UInt8 → Prop
  | nil : Describes env e [] []
  | copy {c rest result} (hc : c = 0x24 → ∀ d ∈ rest.head?, d ≠ 0x24 ∧ isDigit d = false)
      (hrest : Describes env e rest result) : Describes env e (c :: rest) (c :: result)
  | dollar {rest result} (hrest : Describes env e rest result) :
      Describes env e (0x24 :: 0x24 :: rest) (0x24 :: result)
  | param {spec num prec rest shown n result} (hspec : IsSpec spec num prec)
      (hlongest : NoLonger (spec ++ rest) spec.length)
      (hshown : env.parseParameter e (spec ++ rest ++ [0]) = some (shown, n))
      (hn : n.toNat = spec.length) (hrest : Describes env e rest result) :
      Describes env e (0x24 :: (spec ++ rest)) (shown ++ result)

/-! ### The scanner -/

section scanner

variable {c d : UInt8} {str num prec ds rest t : List UInt8} {fuel n : ℕ} {f : NumberFields}
  {state : NumberState}

lemma ne_of_isDigit (hc : isDigit c = true) :
    c ≠ 0 ∧ c ≠ 0x2E ∧ c ≠ 0x65 ∧ c ≠ 0x45 := by
  refine ⟨?_, ?_, ?_, ?_⟩ <;> (rintro rfl; exact absurd hc (by decide))

/-- A digit of the number or of the precision. -/
lemma loop_digit (hstate : state = .number ∨ state = .prec) (hc : isDigit c = true) :
    parseNumberLoop (fuel + 1) state str n (c :: rest) f =
      parseNumberLoop fuel state (str ++ [c]) (n + 1) rest f := by
  obtain ⟨hzero, hdot, -, -⟩ := ne_of_isDigit hc
  rw [parseNumberLoop]
  simp only [List.head?_cons, Option.bind_eq_bind, Option.bind_some, if_neg hzero]
  rcases hstate with rfl | rfl
  · simp only [if_neg hdot, if_pos hc, List.tail_cons]
  · simp only [if_pos hc, List.tail_cons]

lemma loop_digits (hstate : state = .number ∨ state = .prec) (hds : ∀ c ∈ ds, isDigit c = true) :
    parseNumberLoop (fuel + ds.length) state str n (ds ++ rest) f =
      parseNumberLoop fuel state (str ++ ds) (n + ds.length) rest f := by
  induction ds generalizing str n with
  | nil => rw [List.append_nil]; rfl
  | cons c ds ih =>
      rw [List.length_cons, ← Nat.add_assoc, List.cons_append,
        loop_digit hstate (hds c List.mem_cons_self),
        ih fun x hx => hds x (List.mem_cons_of_mem c hx), List.append_assoc]
      rw [Nat.add_right_comm n, Nat.add_assoc n]
      rfl

/-- The number ends without a point. -/
lemma loop_number_end (hc : isDigit c = false) (hdot : c ≠ 0x2E) :
    parseNumberLoop (fuel + 1) .number str n (c :: rest) f =
      some (UInt32.ofNat n, f.setNum str) := by
  rw [parseNumberLoop]
  simp only [List.head?_cons, Option.bind_eq_bind, Option.bind_some, if_neg hdot, hc]
  split <;> rfl

/-- A point behind the number. -/
lemma loop_number_dot (hstr : str ≠ []) :
    parseNumberLoop (fuel + 1) .number str n (0x2E :: rest) f =
      parseNumberLoop fuel .dot [] n (0x2E :: rest) (f.setNum str) := by
  rw [parseNumberLoop]
  simp only [List.head?_cons, Option.bind_eq_bind, Option.bind_some, if_neg hstr]
  rfl

/-- The character behind the point. -/
lemma loop_dot :
    parseNumberLoop (fuel + 1) .dot str n (0x2E :: d :: rest) f =
      if d = 0x65 ∨ d = 0x45 then parseNumberLoop fuel .exp str (n + 1) (d :: rest) f
      else if isDigit d then parseNumberLoop fuel .prec str (n + 1) (d :: rest) f
      else some (UInt32.ofNat n, f) := by
  rw [parseNumberLoop]
  simp only [List.head?_cons, Option.bind_eq_bind, Option.bind_some, List.tail_cons]
  rfl

/-- The character behind the letter. -/
lemma loop_exp (hc : c ≠ 0) :
    parseNumberLoop (fuel + 1) .exp str n (c :: d :: rest) f =
      if isDigit d then
        parseNumberLoop fuel .prec [] (n + 1) (d :: rest)
          { f with exp := if d = 0x65 then 1 else 2 }
      else some (UInt32.ofNat (n + 1), { f with exp := if d = 0x65 then 1 else 2 }) := by
  rw [parseNumberLoop]
  simp only [List.head?_cons, Option.bind_eq_bind, Option.bind_some, List.tail_cons, if_neg hc]

/-- The precision ends. -/
lemma loop_prec_end (hc : isDigit c = false) :
    parseNumberLoop (fuel + 1) .prec str n (c :: rest) f =
      some (UInt32.ofNat n, f.setPrec str) := by
  rw [parseNumberLoop]
  simp only [List.head?_cons, Option.bind_eq_bind, Option.bind_some, hc]
  split <;> rfl

/-- The digits at the beginning of a text. -/
lemma exists_digits (str : List UInt8) :
    ∃ ds rest, str = ds ++ rest ∧ (∀ c ∈ ds, isDigit c = true) ∧
      ∀ c ∈ rest.head?, isDigit c = false := by
  refine ⟨str.takeWhile isDigit, str.dropWhile isDigit, List.takeWhile_append_dropWhile.symm,
    fun c hc => List.mem_takeWhile_imp hc, fun c hc => ?_⟩
  have hhead := List.head?_dropWhile_not isDigit str
  rw [Option.mem_def.mp hc] at hhead
  exact hhead

/-- The end of the digits in the memory. -/
lemma head_append_zero (hrest : ∀ c ∈ rest.head?, isDigit c = false) :
    ∃ c mem, rest ++ [0] = c :: mem ∧ isDigit c = false := by
  cases rest with
  | nil => exact ⟨0, [], rfl, rfl⟩
  | cons c rest => exact ⟨c, rest ++ [0], rfl, hrest c rfl⟩

/-- Digits at the beginning of a text are among the first ones. -/
lemma length_le_of_isPrefix (hnum : ∀ c ∈ num, isDigit c = true)
    (hrest : ∀ c ∈ rest.head?, isDigit c = false) (h : num <+: ds ++ rest) :
    num.length ≤ ds.length := by
  obtain ⟨u, hu⟩ := h
  rcases List.append_eq_append_iff.mp hu with ⟨a, rfl, -⟩ | ⟨a, rfl, ha⟩
  · rw [List.length_append]
    exact Nat.le_add_right _ _
  · cases a with
    | nil => rw [List.append_nil]
    | cons x a =>
        have hx := hnum x (List.mem_append_right _ List.mem_cons_self)
        rw [hrest x (by rw [ha]; rfl)] at hx
        exact absurd hx Bool.false_ne_true

/-- Digits with something else behind them are the first ones. -/
lemma eq_of_isPrefix (hnum : ∀ c ∈ num, isDigit c = true) (hds : ∀ c ∈ ds, isDigit c = true)
    (hrest : ∀ c ∈ rest.head?, isDigit c = false) (hd : isDigit d = false)
    (h : num ++ d :: t <+: ds ++ rest) : num = ds ∧ d :: t <+: rest := by
  obtain ⟨u, hu⟩ := h
  rw [List.append_assoc] at hu
  rcases List.append_eq_append_iff.mp hu with ⟨a, rfl, ha⟩ | ⟨a, rfl, ha⟩
  · cases a with
    | nil => exact ⟨(List.append_nil num).symm, u, ha⟩
    | cons x a =>
        obtain ⟨rfl, -⟩ := List.cons.inj ha
        rw [hds d (List.mem_append_right _ List.mem_cons_self)] at hd
        exact absurd hd.symm Bool.false_ne_true
  · cases a with
    | nil => exact ⟨List.append_nil ds, u, ha.symm⟩
    | cons x a =>
        have hx := hnum x (List.mem_append_right _ List.mem_cons_self)
        rw [hrest x (by rw [ha]; rfl)] at hx
        exact absurd hx Bool.false_ne_true

/-- What may stand behind the point: digits, or a letter and perhaps digits. -/
def IsTail (t : List UInt8) : Prop :=
  (t ≠ [] ∧ ∀ c ∈ t, isDigit c = true) ∨
    ∃ letter prec, t = letter :: prec ∧ (letter = 0x65 ∨ letter = 0x45) ∧
      ∀ c ∈ prec, isDigit c = true

/-- The bound has to be met by the digits alone, and by what may stand behind a point. -/
lemma noLonger_of (hds : ∀ c ∈ ds, isDigit c = true) (hrest : ∀ c ∈ rest.head?, isDigit c = false)
    (hn : ds.length ≤ n)
    (hdot : ds ≠ [] → ∀ t, 0x2E :: t <+: rest → IsTail t → ds.length + (t.length + 1) ≤ n) :
    NoLonger (ds ++ rest) n := by
  intro pre num prec hpre hspec
  cases hspec with
  | number hnum => exact (length_le_of_isPrefix hnum.2 hrest hpre).trans hn
  | prec hnum hprec =>
      obtain ⟨rfl, ht⟩ := eq_of_isPrefix hnum.2 hds hrest rfl hpre
      rw [List.length_append, List.length_cons]
      exact hdot hnum.1 prec ht (.inl hprec)
  | exp hnum hletter hprec =>
      obtain ⟨rfl, ht⟩ := eq_of_isPrefix hnum.2 hds hrest rfl hpre
      rw [List.length_append, List.length_cons]
      exact hdot hnum.1 _ ht (.inr ⟨_, _, rfl, hletter, hprec⟩)

lemma parseNumber_digits (hds : ∀ c ∈ ds, isDigit c = true) :
    parseNumber (ds ++ rest ++ [0]) f =
      parseNumberLoop (rest.length + 3) .number ds ds.length (rest ++ [0]) f := by
  have hfuel : (ds ++ rest ++ [0]).length + 2 = rest.length + 3 + ds.length := by
    rw [List.length_append, List.length_append, List.length_singleton]
    omega
  rw [parseNumber, hfuel, List.append_assoc, loop_digits (.inl rfl) hds, List.nil_append,
    Nat.zero_add]

lemma parseNumber_dot (hds : ∀ c ∈ ds, isDigit c = true) (hne : ds ≠ []) :
    parseNumber (ds ++ 0x2E :: rest ++ [0]) f =
      parseNumberLoop (rest.length + 3) .dot [] ds.length (0x2E :: (rest ++ [0]))
        (f.setNum ds) := by
  rw [parseNumber_digits hds, List.cons_append, loop_number_dot hne]
  rfl

/-- What the scanner took, when it took something. -/
lemma parseOk_of (hspec : IsSpec t num prec) (hlen : t.length < 2 ^ 32)
    (hlong : NoLonger (t ++ rest) t.length) (f' : NumberFields)
    (hparse : parseNumber (t ++ rest ++ [0]) f = some (UInt32.ofNat t.length, f'))
    (hexp : f'.exp = f.exp ∨ f'.exp = 1 ∨ f'.exp = 2) (hnum : f'.num = atoi num)
    (hprec : f'.prec = if prec = [] then f.prec else atoi prec) : ParseOk (t ++ rest) f := by
  have hn : (UInt32.ofNat t.length).toNat = t.length := UInt32.toNat_ofNat_of_lt' hlen
  refine ⟨UInt32.ofNat t.length, f', hparse, by rwa [hn], hexp,
    .inr ⟨num, prec, ?_, ?_, hnum, hprec⟩⟩
  · rwa [hn, List.take_left]
  · rw [hn, List.length_append]
    exact Nat.le_add_right _ _

/-- There are no digits at the beginning. -/
lemma parseOk_nil (hrest : ∀ c ∈ rest.head?, isDigit c = false) : ParseOk rest f := by
  have hlong : NoLonger ([] ++ rest) 0 :=
    noLonger_of (fun c hc => absurd hc List.not_mem_nil) hrest (Nat.le_refl 0)
      fun h => absurd rfl h
  have hparse : parseNumber ([] ++ rest ++ [0]) f = some (0, f) := by
    rw [parseNumber_digits fun c hc => absurd hc List.not_mem_nil]
    obtain ⟨c, mem, hmem, hc⟩ := head_append_zero hrest
    rw [hmem]
    by_cases hdot : c = 0x2E
    · subst hdot
      rfl
    · rw [loop_number_end hc hdot]
      rfl
  exact ⟨0, f, hparse, hlong, .inl rfl, .inl ⟨rfl, rfl⟩⟩

/-- There is a number without a point behind it. -/
lemma parseOk_number (hlen : ds.length < 2 ^ 32) (hds : ∀ c ∈ ds, isDigit c = true) (hne : ds ≠ [])
    (hrest : ∀ c ∈ rest.head?, isDigit c = false) (hdot : ∀ t, rest ≠ 0x2E :: t) :
    ParseOk (ds ++ rest) f := by
  refine parseOk_of (.number ⟨hne, hds⟩) hlen ?_ (f.setNum ds) ?_ (.inl rfl)
    (if_pos hne) (if_pos rfl).symm
  · refine noLonger_of hds hrest le_rfl fun _ t ht _ => ?_
    obtain ⟨u, hu⟩ := ht
    exact absurd hu.symm (hdot _)
  · rw [parseNumber_digits hds]
    obtain ⟨c, mem, hmem, hc⟩ := head_append_zero hrest
    rw [hmem, loop_number_end hc]
    rintro rfl
    cases rest with
    | nil => exact absurd (List.cons.inj hmem).1 (by decide)
    | cons x rest =>
        obtain ⟨rfl, -⟩ := List.cons.inj hmem
        exact hdot rest rfl

/-- The point behind the number belongs to the text. -/
lemma parseOk_dot (hlen : ds.length < 2 ^ 32) (hds : ∀ c ∈ ds, isDigit c = true) (hne : ds ≠ [])
    (hrest : ∀ c ∈ rest.head?, isDigit c = false ∧ c ≠ 0x65 ∧ c ≠ 0x45) :
    ParseOk (ds ++ 0x2E :: rest) f := by
  refine parseOk_of (.number ⟨hne, hds⟩) hlen ?_ (f.setNum ds) ?_ (.inl rfl)
    (if_pos hne) (if_pos rfl).symm
  · refine noLonger_of hds (by rintro _ ⟨⟩; rfl) le_rfl fun _ t ht htail => ?_
    have ht := (List.cons_prefix_cons.mp ht).2
    rcases htail with ⟨htne, hdigits⟩ | ⟨letter, prec, rfl, hletter, -⟩
    · obtain ⟨x, t, rfl⟩ := List.exists_cons_of_ne_nil htne
      obtain ⟨u, rfl⟩ := ht
      have hx := (hrest x rfl).1
      rw [hdigits x List.mem_cons_self] at hx
      exact absurd hx.symm Bool.false_ne_true
    · obtain ⟨u, rfl⟩ := ht
      have hx := (hrest letter rfl).2
      exact absurd hletter (not_or.mpr hx)
  · rw [parseNumber_dot hds hne]
    have hdigit : ∀ c ∈ rest.head?, isDigit c = false := fun c hc => (hrest c hc).1
    obtain ⟨c, mem, hmem, hc⟩ := head_append_zero hdigit
    have hletter : ¬(c = 0x65 ∨ c = 0x45) := by
      cases rest with
      | nil =>
          obtain ⟨rfl, -⟩ := List.cons.inj hmem
          decide
      | cons x rest =>
          obtain ⟨rfl, -⟩ := List.cons.inj hmem
          exact not_or.mpr (hrest x rfl).2
    rw [hmem, loop_dot, if_neg hletter, hc, if_neg Bool.false_ne_true]

/-- There are digits behind the point. -/
lemma parseOk_prec (hlen : (ds ++ 0x2E :: prec).length < 2 ^ 32)
    (hds : ∀ c ∈ ds, isDigit c = true) (hne : ds ≠ []) (hprec : ∀ c ∈ prec, isDigit c = true)
    (hpne : prec ≠ []) (hrest : ∀ c ∈ rest.head?, isDigit c = false) :
    ParseOk (ds ++ 0x2E :: prec ++ rest) f := by
  refine parseOk_of (.prec ⟨hne, hds⟩ ⟨hpne, hprec⟩) hlen ?_
    ((f.setNum ds).setPrec prec) ?_ (.inl rfl) (if_pos hne)
    (by rw [if_neg hpne]; exact if_pos hpne)
  · rw [List.append_assoc, List.cons_append, List.length_append]
    refine noLonger_of hds (by rintro _ ⟨⟩; rfl) (Nat.le_add_right _ _) fun _ t ht htail => ?_
    have ht := (List.cons_prefix_cons.mp ht).2
    rcases htail with ⟨-, hdigits⟩ | ⟨letter, t, rfl, hletter, -⟩
    · have hle := length_le_of_isPrefix hdigits hrest ht
      rw [List.length_cons]
      omega
    · obtain ⟨x, prec, rfl⟩ := List.exists_cons_of_ne_nil hpne
      obtain ⟨u, hu⟩ := ht
      obtain ⟨rfl, -⟩ := List.cons.inj hu
      have hx := (ne_of_isDigit (hprec letter List.mem_cons_self)).2.2
      exact absurd hletter (not_or.mpr hx)
  · rw [List.append_assoc ds, List.cons_append, parseNumber_dot hds hne]
    obtain ⟨c, mem, hmem, hc⟩ := head_append_zero hrest
    obtain ⟨x, es, rfl⟩ := List.exists_cons_of_ne_nil hpne
    have hx := hprec x List.mem_cons_self
    have hfuel : (x :: es ++ rest).length + 3 = rest.length + 1 + 1 + (x :: es).length + 1 := by
      rw [List.length_append]
      omega
    have hstr : x :: es ++ rest ++ [0] = x :: es ++ c :: mem := by rw [List.append_assoc, hmem]
    have hn : ds.length + 1 + (x :: es).length = (ds ++ 0x2E :: x :: es).length := by
      rw [List.length_append, List.length_cons (a := 0x2E)]
      omega
    rw [hstr, hfuel, List.cons_append (a := x), loop_dot,
      if_neg (not_or.mpr (ne_of_isDigit hx).2.2), if_pos hx, ← List.cons_append,
      loop_digits (.inr rfl) hprec, loop_prec_end hc, hn]
    rfl

/-- Nothing in the grammar goes beyond the digits behind a letter. -/
lemma noLonger_exp (hds : ∀ c ∈ ds, isDigit c = true) (hd : d = 0x65 ∨ d = 0x45)
    (hrest : ∀ c ∈ rest.head?, isDigit c = false) :
    NoLonger (ds ++ 0x2E :: d :: prec ++ rest) (ds ++ 0x2E :: d :: prec).length := by
  have hdd : isDigit d = false := by rcases hd with rfl | rfl <;> rfl
  rw [List.append_assoc, List.cons_append, List.length_append]
  refine noLonger_of hds (by rintro _ ⟨⟩; rfl) (Nat.le_add_right _ _) fun _ t ht htail => ?_
  have ht := (List.cons_prefix_cons.mp ht).2
  rcases htail with ⟨htne, hdigits⟩ | ⟨letter, t, rfl, -, hdigits⟩
  · obtain ⟨x, t, rfl⟩ := List.exists_cons_of_ne_nil htne
    obtain ⟨u, hu⟩ := ht
    obtain ⟨rfl, -⟩ := List.cons.inj hu
    rw [hdigits x List.mem_cons_self] at hdd
    exact absurd hdd.symm Bool.false_ne_true
  · have hle := length_le_of_isPrefix hdigits hrest (List.cons_prefix_cons.mp ht).2
    rw [List.length_cons, List.length_cons, List.length_cons]
    omega

/-- There is a letter behind the point. -/
lemma parseOk_exp (hlen : (ds ++ 0x2E :: d :: prec).length < 2 ^ 32)
    (hds : ∀ c ∈ ds, isDigit c = true) (hne : ds ≠ []) (hd : d = 0x65 ∨ d = 0x45)
    (hprec : ∀ c ∈ prec, isDigit c = true) (hrest : ∀ c ∈ rest.head?, isDigit c = false) :
    ParseOk (ds ++ 0x2E :: d :: prec ++ rest) f := by
  have hd0 : d ≠ 0 := by rcases hd with rfl | rfl <;> decide
  have hlong : NoLonger (ds ++ 0x2E :: d :: prec ++ rest) (ds ++ 0x2E :: d :: prec).length :=
    noLonger_exp hds hd hrest
  obtain ⟨c, mem, hmem, hc⟩ := head_append_zero hrest
  have hstart : parseNumber (ds ++ 0x2E :: d :: prec ++ rest ++ [0]) f =
      parseNumberLoop (prec.length + rest.length + 3) .exp [] (ds.length + 1)
        (d :: (prec ++ rest ++ [0])) (f.setNum ds) := by
    have hfuel : (d :: (prec ++ rest)).length + 2 = prec.length + rest.length + 3 := by
      rw [List.length_cons, List.length_append]
    rw [List.append_assoc ds, List.cons_append, List.cons_append, parseNumber_dot hds hne,
      List.cons_append, loop_dot, if_pos hd, hfuel]
  have hn : ds.length + 1 + 1 + prec.length = (ds ++ 0x2E :: d :: prec).length := by
    rw [List.length_append, List.length_cons, List.length_cons]
    omega
  cases prec with
  | nil =>
      refine parseOk_of (.exp ⟨hne, hds⟩ hd hprec) hlen hlong
        { f.setNum ds with exp := if c = 0x65 then 1 else 2 } ?_
        (.inr (ite_eq_or_eq _ _ _)) (if_pos hne) (if_pos rfl).symm
      rw [hstart, List.nil_append, hmem, loop_exp hd0, hc, if_neg Bool.false_ne_true, ← hn]
      rfl
  | cons x es =>
      have hx := hprec x List.mem_cons_self
      refine parseOk_of (.exp ⟨hne, hds⟩ hd hprec) hlen hlong
        { (f.setNum ds).setPrec (x :: es) with exp := if x = 0x65 then 1 else 2 } ?_
        (.inr (ite_eq_or_eq _ _ _)) (if_pos hne) rfl
      have hfuel : (x :: es).length + rest.length + 3 =
          rest.length + 1 + 1 + (x :: es).length + 1 := by omega
      rw [hstart, hfuel, List.append_assoc, hmem, List.cons_append (a := x), loop_exp hd0,
        if_pos hx, ← List.cons_append, loop_digits (.inr rfl) hprec, loop_prec_end hc, hn]
      rfl

/-- The scanner is right on every string. -/
lemma parseOk (hlen : str.length < 2 ^ 32) (f : NumberFields) : ParseOk str f := by
  obtain ⟨ds, rest, rfl, hds, hrest⟩ := exists_digits str
  have hdsLen : ds.length < 2 ^ 32 := by
    rw [List.length_append] at hlen
    omega
  by_cases hne : ds = []
  · rw [hne]
    exact parseOk_nil hrest
  by_cases hdot : ∃ r, rest = 0x2E :: r
  · obtain ⟨r, rfl⟩ := hdot
    by_cases hletter : ∃ d r', r = d :: r' ∧ (d = 0x65 ∨ d = 0x45)
    · obtain ⟨d, r', rfl, hd⟩ := hletter
      obtain ⟨prec, rest, rfl, hprec, hrest⟩ := exists_digits r'
      have heq : ds ++ 0x2E :: d :: (prec ++ rest) = ds ++ 0x2E :: d :: prec ++ rest := by simp
      rw [heq] at hlen ⊢
      rw [List.length_append] at hlen
      exact parseOk_exp (by omega) hds hne hd hprec hrest
    · obtain ⟨prec, rest, rfl, hprec, hrest⟩ := exists_digits r
      by_cases hpne : prec = []
      · refine parseOk_dot hdsLen hds hne fun c hc => ?_
        rw [hpne, List.nil_append] at hc hletter
        refine ⟨hrest c hc, not_or.mp fun h => hletter ⟨c, rest.tail, ?_, h⟩⟩
        exact (List.eq_cons_of_mem_head? hc)
      · have heq : ds ++ 0x2E :: (prec ++ rest) = ds ++ 0x2E :: prec ++ rest := by simp
        rw [heq] at hlen ⊢
        rw [List.length_append] at hlen
        exact parseOk_prec (by omega) hds hne hprec hpne hrest
  · exact parseOk_number hdsLen hds hne hrest fun t ht => hdot ⟨t, ht⟩

/-- A specifier begins with a digit. -/
lemma IsSpec.exists_cons (h : IsSpec str num prec) : ∃ d t, str = d :: t ∧ isDigit d = true := by
  have hfirst : ∀ num : List UInt8, num ≠ [] ∧ (∀ c ∈ num, isDigit c = true) → ∀ t,
      ∃ d t', num ++ t = d :: t' ∧ isDigit d = true := by
    rintro num ⟨hne, hnum⟩ t
    obtain ⟨d, num, rfl⟩ := List.exists_cons_of_ne_nil hne
    exact ⟨d, num ++ t, rfl, hnum d List.mem_cons_self⟩
  cases h with
  | number hnum => simpa using hfirst _ hnum []
  | prec hnum hprec => exact hfirst num hnum _
  | exp hnum hletter hprec => exact hfirst num hnum _

/-- At a digit the scanner takes something. -/
lemma ParseOk.exists_spec (h : ParseOk (d :: rest) f) (hd : isDigit d = true) :
    ∃ (n : UInt32) (f' : NumberFields) (spec num prec t : List UInt8),
      parseNumber (d :: rest ++ [0]) f = some (n, f') ∧ IsSpec spec num prec ∧
        d :: rest = spec ++ t ∧ n.toNat = spec.length ∧ NoLonger (d :: rest) spec.length ∧
        (f'.exp = f.exp ∨ f'.exp = 1 ∨ f'.exp = 2) := by
  obtain ⟨n, f', hparse, hlong, hexp, ⟨rfl, -⟩ | ⟨num, prec, hspec, hle, -, -⟩⟩ := h
  · have hone := hlong [d] [d] [] (List.cons_prefix_cons.mpr ⟨rfl, List.nil_prefix⟩)
      (.number ⟨List.cons_ne_nil d [], fun c hc => by rwa [List.mem_singleton.mp hc]⟩)
    exact absurd hone (Nat.not_succ_le_zero 0)
  · have hn : n.toNat = ((d :: rest).take n.toNat).length := by
      rw [List.length_take, Nat.min_eq_left hle]
    exact ⟨n, f', _, num, prec, (d :: rest).drop n.toNat, hparse, hspec,
      (List.take_append_drop _ _).symm, hn, by rwa [← hn], hexp⟩

end scanner

/-! ### The parameters -/

namespace DescrEnv

variable {env : DescrEnv} {e : REvent} {ps : List EventParam} {f : NumberFields}

/-- A number is the one of no parameter, or of one that can be read. -/
lemma getParamByID_cases (h : e.Holds ps) (id : UInt32) :
    e.getParamByID id = some none ∨ ∃ (p : EventParam) (pos : ℕ),
      e.getParamByID id = some (some (p.type.code, pos)) ∧
        e.data.load pos (getTypeSize p.type) = some p.bytes := by
  have hget := h.getParamByID id
  cases hp : ps[id.toNat]? with
  | none =>
      rw [hp] at hget
      exact .inl hget
  | some p =>
      rw [hp] at hget
      obtain ⟨pos, hpos⟩ := hget
      exact .inr ⟨p, pos, hpos⟩

lemma code_injective {s t : VType} (h : s.code = t.code) : s = t := by
  rw [← VType.ofCode_code s, h, VType.ofCode_code]

/-- The precision of the units is found. -/
lemma exists_unitPrec (h : e.Holds ps) (jj : ℕ) : ∃ prec, unitPrec env e jj = some prec := by
  induction jj with
  | zero => exact ⟨5, rfl⟩
  | succ jj ih =>
      rw [unitPrec]
      rcases getParamByID_cases h (UInt32.ofNat jj) with hget | ⟨p, pos, hget, hload⟩
      · rw [hget]
        exact ih
      · rw [hget]
        simp only [Option.bind_eq_bind, Option.bind_some]
        split_ifs with htype
        · rw [code_injective htype] at hload
          have hload : e.data.load pos 4 = some p.bytes := hload
          rw [hload]
          simp only [Option.bind_some]
          split_ifs
          · exact ⟨_, rfl⟩
          · exact ih
        · exact ih

/-- The value of a parameter has a text. -/
lemma exists_typeText (p : EventParam) {pos : ℕ}
    (hload : e.data.load pos (getTypeSize p.type) = some p.bytes) (hexp : f.exp.toNat < 3) :
    ∃ shown, typeText env e f p.type.code pos = some shown := by
  have hformat : ∃ format, floatformat[f.exp.toNat]? = some format :=
    ⟨_, List.getElem?_eq_getElem hexp⟩
  obtain ⟨format, hformat⟩ := hformat
  have hcode : ¬10 ≤ p.type.code := by cases p.type <;> decide
  rw [typeText, if_neg hcode, VType.ofCode_code]
  cases htype : p.type with
  | undef => exact ⟨_, rfl⟩
  | strid =>
      rw [htype] at hload
      have hload : e.data.load pos 4 = some p.bytes := hload
      simp only [hload, Option.bind_eq_bind, Option.bind_some]
      split <;> exact ⟨_, rfl⟩
  | real =>
      rw [htype] at hload
      have hload : e.data.load pos 4 = some p.bytes := hload
      simp only [hload, hformat, Option.bind_eq_bind, Option.bind_some]
      exact ⟨_, rfl⟩
  | lreal =>
      rw [htype] at hload
      have hload : e.data.load pos 8 = some p.bytes := hload
      simp only [hload, hformat, Option.bind_eq_bind, Option.bind_some]
      exact ⟨_, rfl⟩
  | _ =>
      rw [htype] at hload
      simp only [hload, Option.bind_eq_bind, Option.bind_some]
      exact ⟨_, rfl⟩

/-- Behind the scanner a parameter has a text. -/
lemma exists_parseParameter (h : e.Holds ps) {str : List UInt8} {n : UInt32}
    (hparse : parseNumber str ⟨0, 0xFFFFFFFF, 0⟩ = some (n, f)) (hexp : f.exp.toNat < 3) :
    ∃ shown, env.parseParameter e str = some (shown, n) := by
  rw [parseParameter, hparse]
  simp only [Option.bind_eq_bind, Option.bind_some]
  rcases getParamByID_cases h (f.num - 1) with hget | ⟨p, pos, hget, hload⟩
  · rw [hget]
    exact ⟨_, rfl⟩
  · have htext : ∀ prec, ∃ shown,
        typeText env e { f with prec := prec } p.type.code pos = some shown :=
      fun prec => exists_typeText p hload hexp
    by_cases hunit : f.prec = 0xFFFFFFFF ∧
        (p.type.code = VType.lreal.code ∨ p.type.code = VType.real.code)
    · obtain ⟨prec, hprec⟩ :
          ∃ prec, unitPrec env e (toInt (f.num - 2).toNat + 1).toNat = some prec :=
        exists_unitPrec h _
      obtain ⟨shown, hshown⟩ := htext prec
      refine ⟨shown, ?_⟩
      simp only [hget, Option.bind_some, if_pos hunit, hprec, hshown]
    · obtain ⟨shown, hshown⟩ := htext f.prec
      refine ⟨shown, ?_⟩
      simp only [hget, Option.bind_some, if_neg hunit, hshown]

/-! ### The loop -/

variable {text rest result acc : List UInt8} {c d : UInt8} {ii : UInt32} {fuel : ℕ}

/-- The rest of a template begins at the counter. -/
lemma getElem_of_drop (h : text.drop ii.toNat = c :: rest) :
    ii.toNat < text.length ∧ text[ii.toNat]? = some c ∧ text.drop (ii.toNat + 1) = rest := by
  have hlt : ii.toNat < text.length := by
    by_contra hle
    rw [List.drop_of_length_le (Nat.not_lt.mp hle)] at h
    exact List.cons_ne_nil c rest h.symm
  rw [List.drop_eq_getElem_cons hlt] at h
  obtain ⟨hc, hrest⟩ := List.cons.inj h
  exact ⟨hlt, by rw [List.getElem?_eq_getElem hlt, hc], hrest⟩

lemma toNat_succ (hlen : text.length < 2 ^ 32) (hlt : ii.toNat < text.length) :
    (ii + 1).toNat = ii.toNat + 1 := by
  rw [UInt32.toNat_add, UInt32.toNat_one]
  exact Nat.mod_eq_of_lt (by omega)

/-- A character that is copied. -/
lemma getDescrLoop_copy (hlen : text.length < 2 ^ 32) (h : text.drop ii.toNat = c :: rest)
    (hc : c = 0x24 → ∀ d ∈ rest.head?, d ≠ 0x24 ∧ isDigit d = false) :
    getDescrLoop env e text (fuel + 1) ii acc =
      getDescrLoop env e text fuel (ii + 1) (acc ++ [c]) := by
  obtain ⟨hlt, hget, hrest⟩ := getElem_of_drop h
  rw [getDescrLoop, if_pos hlt, hget]
  simp only [Option.bind_eq_bind, Option.bind_some]
  split_ifs with hfirst
  · rfl
  · obtain ⟨hdollar, hlast⟩ := not_or.mp hfirst
    have hnext : rest.head? = text[(ii + 1).toNat]? := by
      rw [← hrest, List.head?_drop, toNat_succ hlen hlt]
    have hin : (ii + 1).toNat < text.length := by
      rw [toNat_succ hlen hlt]
      omega
    rw [List.getElem?_eq_getElem hin] at hnext ⊢
    obtain ⟨hne, hdigit⟩ := hc (not_not.mp hdollar) _ hnext
    simp only [Option.bind_some, if_neg hne, hdigit]
    rfl

/-- A double dollar. -/
lemma getDescrLoop_dollar (hlen : text.length < 2 ^ 32)
    (h : text.drop ii.toNat = 0x24 :: 0x24 :: rest) :
    getDescrLoop env e text (fuel + 1) ii acc =
      getDescrLoop env e text fuel (ii + 1 + 1) (acc ++ [0x24]) := by
  obtain ⟨hlt, hget, hrest⟩ := getElem_of_drop h
  rw [← toNat_succ hlen hlt] at hrest
  obtain ⟨hlt', hget', -⟩ := getElem_of_drop hrest
  rw [toNat_succ hlen hlt] at hlt'
  rw [getDescrLoop, if_pos hlt, hget]
  simp only [Option.bind_eq_bind, Option.bind_some]
  rw [if_neg (not_or.mpr ⟨not_not.mpr rfl, by omega⟩), hget']
  rfl

/-- A parameter. -/
lemma getDescrLoop_param (hlen : text.length < 2 ^ 32)
    (h : text.drop ii.toNat = 0x24 :: d :: rest) (hd : isDigit d = true) {shown : List UInt8}
    {n : UInt32} (hshown : env.parseParameter e (d :: rest ++ [0]) = some (shown, n)) :
    getDescrLoop env e text (fuel + 1) ii acc =
      getDescrLoop env e text fuel (ii + n + 1) (acc ++ shown) := by
  obtain ⟨hlt, hget, hrest⟩ := getElem_of_drop h
  have hmem : (text ++ [0]).drop (ii.toNat + 1) = d :: rest ++ [0] := by
    rw [List.drop_append_of_le_length (by omega), hrest]
  rw [← toNat_succ hlen hlt] at hrest
  obtain ⟨hlt', hget', -⟩ := getElem_of_drop hrest
  rw [toNat_succ hlen hlt] at hlt'
  have hne : d ≠ 0x24 := by
    rintro rfl
    exact absurd hd (by decide)
  rw [getDescrLoop, if_pos hlt, hget]
  simp only [Option.bind_eq_bind, Option.bind_some]
  rw [if_neg (not_or.mpr ⟨not_not.mpr rfl, by omega⟩), hget', hmem]
  simp only [Option.bind_some, if_neg hne, hd, hshown]
  rfl

/-- The loop makes what `Describes` the rest of the template. -/
lemma getDescrLoop_describes (hlen : text.length < 2 ^ 32) {suffix : List UInt8}
    (h : Describes env e suffix result) (hii : text.drop ii.toNat = suffix)
    (hfuel : suffix.length < fuel) :
    getDescrLoop env e text fuel ii acc = some (acc ++ result) := by
  induction h generalizing fuel ii acc with
  | nil =>
      obtain ⟨fuel, rfl⟩ := Nat.exists_eq_succ_of_ne_zero (Nat.ne_zero_of_lt hfuel)
      have hle : ¬ii.toNat < text.length := Nat.not_lt.mpr (List.drop_eq_nil_iff.mp hii)
      rw [getDescrLoop, if_neg hle, List.append_nil]
  | @copy c rest result hc hrest ih =>
      obtain ⟨fuel, rfl⟩ := Nat.exists_eq_succ_of_ne_zero (Nat.ne_zero_of_lt hfuel)
      obtain ⟨hlt, -, hdrop⟩ := getElem_of_drop hii
      rw [List.length_cons] at hfuel
      rw [getDescrLoop_copy hlen hii hc, ih (by rw [toNat_succ hlen hlt, hdrop]) (by omega),
        List.append_assoc]
      rfl
  | @dollar rest result hrest ih =>
      obtain ⟨fuel, rfl⟩ := Nat.exists_eq_succ_of_ne_zero (Nat.ne_zero_of_lt hfuel)
      obtain ⟨hlt, -, hdrop⟩ := getElem_of_drop hii
      rw [← toNat_succ hlen hlt] at hdrop
      obtain ⟨hlt', -, hdrop⟩ := getElem_of_drop hdrop
      rw [List.length_cons, List.length_cons] at hfuel
      rw [getDescrLoop_dollar hlen hii, ih (by rw [toNat_succ hlen hlt', hdrop]) (by omega),
        List.append_assoc]
      rfl
  | @param spec num prec rest shown n result hspec hlongest hshown hn hrest ih =>
      obtain ⟨fuel, rfl⟩ := Nat.exists_eq_succ_of_ne_zero (Nat.ne_zero_of_lt hfuel)
      obtain ⟨hlt, -, hdrop⟩ := getElem_of_drop hii
      obtain ⟨d, t, rfl, hd⟩ := hspec.exists_cons
      have hsum : (d :: t ++ rest).length = text.length - (ii.toNat + 1) := by
        rw [← hdrop, List.length_drop]
      rw [List.length_append] at hsum
      have hnext : (ii + n + 1).toNat = ii.toNat + 1 + (d :: t).length := by
        have hadd : (ii + n).toNat = ii.toNat + (d :: t).length := by
          rw [UInt32.toNat_add, hn]
          exact Nat.mod_eq_of_lt (by omega)
        rw [UInt32.toNat_add, hadd, UInt32.toNat_one, Nat.mod_eq_of_lt (by omega)]
        omega
      rw [List.length_cons, List.length_append] at hfuel
      rw [getDescrLoop_param hlen hii hd hshown, ih _ (by omega), List.append_assoc]
      rw [hnext, ← List.drop_drop, hdrop, List.drop_left]

/-- There is something that a template has to become. -/
lemma exists_describes (h : e.Holds ps) :
    ∀ text : List UInt8, text.length < 2 ^ 32 → ∃ result, Describes env e text result := by
  intro text
  induction hk : text.length using Nat.strong_induction_on generalizing text with
  | _ k ih =>
      intro hlen
      cases text with
      | nil => exact ⟨[], .nil⟩
      | cons c rest =>
          rw [List.length_cons] at hk
          have hcopy : (c = 0x24 → ∀ d ∈ rest.head?, d ≠ 0x24 ∧ isDigit d = false) →
              ∃ result, Describes env e (c :: rest) result := fun hc => by
            obtain ⟨result, hresult⟩ := ih rest.length (by omega) rest rfl (by omega)
            exact ⟨c :: result, .copy hc hresult⟩
          by_cases hc : c = 0x24
          · subst hc
            cases rest with
            | nil => exact hcopy fun _ d hd => absurd hd (Option.not_mem_none d)
            | cons d rest =>
                rw [List.length_cons] at hk
                by_cases hd : d = 0x24
                · subst hd
                  obtain ⟨result, hresult⟩ := ih rest.length (by omega) rest rfl (by omega)
                  exact ⟨0x24 :: result, .dollar hresult⟩
                by_cases hdigit : isDigit d = true
                · have hlt : (d :: rest).length < 2 ^ 32 := by
                    rw [List.length_cons]
                    omega
                  obtain ⟨n, f', spec, num, prec, t, hparse, hspec, heq, hn, hlong, hexp⟩ :=
                    (parseOk hlt ⟨0, 0xFFFFFFFF, 0⟩).exists_spec hdigit
                  have hexp : f'.exp.toNat < 3 := by
                    rcases hexp with h | h | h <;> (rw [h]; decide)
                  obtain ⟨shown, hshown⟩ := exists_parseParameter h hparse hexp
                  rw [heq] at hshown hlong ⊢
                  have hshort : t.length ≤ rest.length := by
                    obtain ⟨x, s, rfl, -⟩ := hspec.exists_cons
                    have hrest : rest = s ++ t := (List.cons.inj heq).2
                    rw [hrest, List.length_append]
                    exact Nat.le_add_left _ _
                  obtain ⟨result, hresult⟩ := ih t.length (by omega) t rfl (by omega)
                  exact ⟨shown ++ result, .param hspec hlong hshown hn hresult⟩
                · refine hcopy fun _ x hx => ?_
                  obtain rfl := Option.some.inj hx
                  exact ⟨hd, Bool.eq_false_of_not_eq_true hdigit⟩
          · exact hcopy fun h => absurd h hc

/-- A counter of thirty-two bits does not reach the end of a longer template. -/
lemma getDescrLoop_eq_none (hlen : 2 ^ 32 ≤ text.length) :
    getDescrLoop env e text fuel ii acc = none := by
  induction fuel generalizing ii acc with
  | zero => rfl
  | succ fuel ih =>
      have hlt : ii.toNat < text.length := ii.toNat_lt.trans_le hlen
      rw [getDescrLoop, if_pos hlt]
      cases text[ii.toNat]? with
      | none => rfl
      | some c =>
          simp only [Option.bind_eq_bind, Option.bind_some]
          split_ifs
          · exact ih
          · cases text[(ii + 1).toNat]? with
            | none => rfl
            | some d =>
                simp only [Option.bind_some]
                split_ifs
                · exact ih
                · exact ih
                · cases env.parseParameter e ((text ++ [0]).drop (ii.toNat + 1)) with
                  | none => rfl
                  | some p => exact ih

lemma getDescr_eq_none (htext : env.texts e.eid = some text) (hlen : 2 ^ 32 ≤ text.length)
    (fuel : ℕ) : env.getDescr e fuel = none := by
  have hne : text ≠ [] := List.ne_nil_of_length_pos (Nat.lt_of_lt_of_le (Nat.two_pow_pos 32) hlen)
  rw [getDescr, htext]
  simp only [if_neg hne]
  exact getDescrLoop_eq_none hlen

end DescrEnv

/-- What a template is for the event that is described by it. -/
structure DescrOk (env : DescrEnv) (e : REvent) (text : List UInt8) : Prop where
  ends : ∃ result, ∀ fuel, text.length < fuel → env.getDescr e fuel = some result
  text : ∀ fuel result, text.length < fuel →
    (env.getDescr e fuel = some result ↔ Describes env e text result)

lemma descrOk {env : DescrEnv} {e : REvent} {ps : List EventParam} {text : List UInt8}
    (h : e.Holds ps) (htext : env.texts e.eid = some text) (hne : text ≠ [])
    (hlen : text.length < 2 ^ 32) : DescrOk env e text := by
  have hloop : ∀ result, Describes env e text result → ∀ fuel, text.length < fuel →
      env.getDescr e fuel = some result := by
    intro result hresult fuel hfuel
    rw [DescrEnv.getDescr, htext]
    simp only [if_neg hne]
    exact DescrEnv.getDescrLoop_describes hlen hresult List.drop_zero hfuel
  obtain ⟨result, hresult⟩ : ∃ result, Describes env e text result :=
    DescrEnv.exists_describes h text hlen
  refine ⟨⟨result, hloop result hresult⟩, fun fuel result' hfuel => ⟨fun hget => ?_, fun h' => ?_⟩⟩
  · rw [hloop result hresult fuel hfuel] at hget
    rwa [← Option.some.inj hget]
  · exact hloop result' h' fuel hfuel

/-- The scanner takes from every string what the grammar of the comment allows, and the text of
every event is made from its template. -/
theorem descr_ok (env : DescrEnv) (calls : List EventCall) (e : REvent) (ps : List EventParam)
    (hcalls : runCalls calls = some (e, ps)) :
    (∀ (str : List UInt8) (f : NumberFields), str.length < 2 ^ 32 → ParseOk str f) ∧
      ∀ text, env.texts e.eid = some text → text ≠ [] → text.length < 2 ^ 32 →
        DescrOk env e text := by
  refine ⟨fun str f hlen => parseOk hlen f, fun text htext hne hlen => ?_⟩
  obtain ⟨s, hs, hold⟩ := runCalls_holds (s := (REvent.new, [])) (REvent.holds_nil rfl) calls
  rw [runCalls, hs] at hcalls
  obtain rfl := Option.some.inj hcalls
  exact descrOk hold htext hne hlen

/-- An environment with one template. -/
def DescrEnv.ofTemplate (text : List UInt8) : DescrEnv where
  texts _ := some text
  strings _ := none
  precision := ⟨fun _ => 5, 5⟩
  formatReal _ _ _ _ := []

/-- `$1. $$` for an event with a `UDINT`. -/
theorem descr_ok_udint : ∃ e ps, runCalls [.add (.ofNat .udint 7)] = some (e, ps) ∧
    DescrOk (.ofTemplate [0x24, 0x31, 0x2E, 0x20, 0x24, 0x24]) e
      [0x24, 0x31, 0x2E, 0x20, 0x24, 0x24] := by
  obtain ⟨s, hs, -⟩ := runCalls_holds (s := (REvent.new, [])) (REvent.holds_nil rfl)
    [.add (.ofNat .udint 7)]
  exact ⟨s.1, s.2, hs, (descr_ok _ _ s.1 s.2 hs).2 _ rfl (List.cons_ne_nil _ _) (by decide)⟩

/-- `1.3e5` ends for the scanner behind the three and `1e5` behind the one, `1.e5` and `1.E5` are
the same for it, an empty template becomes a message, and a template of `2 ^ 32` characters has no
end. -/
theorem descr_fails :
    parseNumber [0x31, 0x2E, 0x33, 0x65, 0x35, 0] ⟨0, 0xFFFFFFFF, 0⟩ = some (3, ⟨1, 3, 0⟩) ∧
      parseNumber [0x31, 0x65, 0x35, 0] ⟨0, 0xFFFFFFFF, 0⟩ = some (1, ⟨1, 0xFFFFFFFF, 0⟩) ∧
      parseNumber [0x31, 0x2E, 0x65, 0x35, 0] ⟨0, 0xFFFFFFFF, 0⟩ =
        parseNumber [0x31, 0x2E, 0x45, 0x35, 0] ⟨0, 0xFFFFFFFF, 0⟩ ∧
      (DescrEnv.ofTemplate []).getDescr .new 1 ≠ some [] ∧
      ∀ fuel, (DescrEnv.ofTemplate (List.replicate (2 ^ 32) 0x61)).getDescr .new fuel = none := by
  refine ⟨by decide +kernel, by decide +kernel, by decide +kernel, fun h => ?_, fun fuel => ?_⟩
  · have hnil := congrArg List.length (Option.some.inj h)
    simp [asciiBytes] at hnil
  · have htext : (DescrEnv.ofTemplate (List.replicate (2 ^ 32) 0x61)).texts REvent.new.eid =
        some (List.replicate (2 ^ 32) 0x61) := rfl
    refine DescrEnv.getDescr_eq_none htext ?_ fuel
    rw [List.length_replicate]

end Tritonn

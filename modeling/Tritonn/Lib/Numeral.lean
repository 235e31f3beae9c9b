import Mathlib

/-!
Numerals in texts, over any characters and any base.

* `digits` are the digits at the beginning of a text, and `rest` is what follows them;
* `value` is the number that digits denote, and `number` the one that a whole text denotes;
* `digits_takeWhile` and `rest_takeWhile` say what a text that ends early keeps of them;
* `fixedDigits` are the last digits of a number and `allDigits` all of them, of which `value` is the
  number again; `digits_map` says that they are found in front of a text.
-/

namespace Numeral

variable {α : Type*}

/-- The digits at the beginning of a text. -/
def digits (digit : α → Option ℕ) : List α → List ℕ
  | [] => []
  | c :: s =>
      match digit c with
      | some d => d :: digits digit s
      | none => []

/-- What follows the digits. -/
def rest (digit : α → Option ℕ) : List α → List α
  | [] => []
  | c :: s =>
      match digit c with
      | some _ => rest digit s
      | none => c :: s

/-- The number of digits. -/
def value (b : ℕ) (ds : List ℕ) : ℕ := ds.foldl (fun n d => b * n + d) 0

/-- The number that a whole text denotes. -/
def number (digit : α → Option ℕ) (b : ℕ) (s : List α) : Option ℕ :=
  if digits digit s ≠ [] ∧ rest digit s = [] then some (value b (digits digit s)) else none

variable {digit : α → Option ℕ} {c : α} {s : List α}

@[simp] lemma digits_nil : digits digit ([] : List α) = [] := rfl

@[simp] lemma rest_nil : rest digit ([] : List α) = [] := rfl

lemma digits_of_some {d : ℕ} (h : digit c = some d) :
    digits digit (c :: s) = d :: digits digit s := by
  rw [digits, h]

lemma digits_of_none (h : digit c = none) : digits digit (c :: s) = [] := by
  rw [digits, h]

lemma rest_of_some {d : ℕ} (h : digit c = some d) : rest digit (c :: s) = rest digit s := by
  rw [rest, h]

lemma rest_of_none (h : digit c = none) : rest digit (c :: s) = c :: s := by
  rw [rest, h]

lemma foldl_value (b n : ℕ) (ds : List ℕ) :
    ds.foldl (fun n d => b * n + d) n = n * b ^ ds.length + value b ds := by
  induction ds generalizing n with
  | nil => simp [value]
  | cons d ds ih =>
      rw [value, List.foldl_cons, List.foldl_cons, ih, ih (b * 0 + d), List.length_cons]
      ring

lemma value_cons (b d : ℕ) (ds : List ℕ) : value b (d :: ds) = d * b ^ ds.length + value b ds := by
  rw [value, List.foldl_cons, Nat.mul_zero, Nat.zero_add, foldl_value]

/-! ### Texts that end early -/

variable {p : α → Bool}

lemma digits_takeWhile (h : ∀ c d, digit c = some d → p c = true) (s : List α) :
    digits digit (s.takeWhile p) = digits digit s := by
  induction s with
  | nil => rfl
  | cons c s ih =>
      cases hc : digit c with
      | none =>
          rw [digits_of_none hc, List.takeWhile_cons]
          split_ifs
          · exact digits_of_none hc
          · rfl
      | some d =>
          rw [List.takeWhile_cons_of_pos (h c d hc), digits_of_some hc, digits_of_some hc, ih]

lemma rest_takeWhile (h : ∀ c d, digit c = some d → p c = true) (s : List α) :
    rest digit (s.takeWhile p) = (rest digit s).takeWhile p := by
  induction s with
  | nil => rfl
  | cons c s ih =>
      cases hc : digit c with
      | none =>
          rw [rest_of_none hc, List.takeWhile_cons]
          split_ifs
          · exact rest_of_none hc
          · rfl
      | some d =>
          rw [List.takeWhile_cons_of_pos (h c d hc), rest_of_some hc, rest_of_some hc, ih]

/-- Dropping what a text that ends early keeps. -/
lemma dropWhile_takeWhile {q : α → Bool} (h : ∀ c, q c = true → p c = true) (s : List α) :
    (s.takeWhile p).dropWhile q = (s.dropWhile q).takeWhile p := by
  induction s with
  | nil => rfl
  | cons c s ih =>
      by_cases hc : q c = true
      · rw [List.takeWhile_cons_of_pos (h c hc), List.dropWhile_cons_of_pos hc,
          List.dropWhile_cons_of_pos hc, ih]
      · rw [List.dropWhile_cons_of_neg hc, List.takeWhile_cons]
        split_ifs
        · exact List.dropWhile_cons_of_neg hc
        · rfl

/-! ### Digits of a number -/

variable {b : ℕ}

/-- The last `k` digits of a number. -/
def fixedDigits (b : ℕ) : ℕ → ℕ → List ℕ
  | 0, _ => []
  | k + 1, n => fixedDigits b k (n / b) ++ [n % b]

/-- The digits of a number, one for zero. -/
def allDigits (b n : ℕ) : List ℕ := fixedDigits b (Nat.log b n + 1) n

@[simp] lemma length_fixedDigits (b k n : ℕ) : (fixedDigits b k n).length = k := by
  induction k generalizing n with
  | zero => rfl
  | succ k ih => rw [fixedDigits, List.length_append, ih, List.length_singleton]

lemma lt_of_mem_fixedDigits (hb : 0 < b) {k n d : ℕ} (h : d ∈ fixedDigits b k n) : d < b := by
  induction k generalizing n with
  | zero => exact absurd h List.not_mem_nil
  | succ k ih =>
      rw [fixedDigits, List.mem_append, List.mem_singleton] at h
      rcases h with h | rfl
      · exact ih h
      · exact Nat.mod_lt n hb

lemma value_append_one (b : ℕ) (ds : List ℕ) (d : ℕ) :
    value b (ds ++ [d]) = b * value b ds + d := by
  rw [value, List.foldl_append]
  rfl

theorem value_fixedDigits (b k n : ℕ) : value b (fixedDigits b k n) = n % b ^ k := by
  induction k generalizing n with
  | zero =>
      rw [pow_zero, Nat.mod_one]
      rfl
  | succ k ih =>
      rw [fixedDigits, value_append_one, ih, pow_succ', Nat.mod_mul]
      ring

lemma value_allDigits (hb : 1 < b) (n : ℕ) : value b (allDigits b n) = n := by
  rw [allDigits, value_fixedDigits, Nat.mod_eq_of_lt (Nat.lt_pow_succ_log_self hb n)]

lemma value_zero_cons (b : ℕ) (ds : List ℕ) : value b (0 :: ds) = value b ds := by
  rw [value_cons, Nat.zero_mul, Nat.zero_add]

lemma value_replicate_append (b k : ℕ) (ds : List ℕ) :
    value b (List.replicate k 0 ++ ds) = value b ds := by
  induction k with
  | zero => rfl
  | succ k ih => rw [List.replicate_succ, List.cons_append, value_zero_cons, ih]

/-- Digits that are written in front of a text are found there. -/
theorem digits_map {ch : ℕ → α} {ds : List ℕ} (h : ∀ d ∈ ds, digit (ch d) = some d) (t : List α) :
    digits digit (ds.map ch ++ t) = ds ++ digits digit t := by
  induction ds with
  | nil => rfl
  | cons d ds ih =>
      rw [List.map_cons, List.cons_append, digits_of_some (h d List.mem_cons_self),
        ih fun x hx => h x (List.mem_cons_of_mem d hx), List.cons_append]

theorem rest_map {ch : ℕ → α} {ds : List ℕ} (h : ∀ d ∈ ds, digit (ch d) = some d) (t : List α) :
    rest digit (ds.map ch ++ t) = rest digit t := by
  induction ds with
  | nil => rfl
  | cons d ds ih =>
      rw [List.map_cons, List.cons_append, rest_of_some (h d List.mem_cons_self),
        ih fun x hx => h x (List.mem_cons_of_mem d hx)]

end Numeral

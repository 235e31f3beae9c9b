import Tritonn.Lib.Iteration
import Tritonn.Lib.Result
import Mathlib

/-!
The density at 15 °C: `rDensSol::calculate` of `src/tritonn/data_denssol.cpp` from the first
`getTypeProduct` on, with `src/tritonn/density.cpp` and `rSource::checkExpr`.

The groups of products have the numbers 0 to 5; `getTypeProduct` gives the one of a density.

* `DensEnv` is `exp`, `getY` and the coefficients of the groups; numbers are those of an ordered
  field;
* `densPass` is one pass of the inner loop, `productLoop` the outer one, `calculate` all of it;
* `attempt` are the groups that are tried, each with the passes that the earlier ones have used up;
* `productLoop_spec` says where the outer loop ends; `fault_iff`, `coefs_iff` and `limits_iff` say
  when the flag, the coefficients and the places in the limits are right, and `reduction_iff` puts
  them together.

What is no number is `none`.
-/

namespace Tritonn

/-- How a call ends without a result: a place outside of a table is read, or a loop goes on. -/
inductive DensStop where
  | outside
  | running
  deriving DecidableEq, Repr

/-- The events of the two checks. -/
inductive DensSolEvent (K : Type) where
  | faultIteration
  | goodIteration
  | faultValue (dens15 : Option K)
  | goodValue (dens15 : Option K)
  deriving DecidableEq, Repr

/-- `m_k0`, `m_k1` and `m_k2`. -/
@[ext]
structure DensCoef (K : Type) where
  k0 : K
  k1 : K
  k2 : K
  deriving DecidableEq, Repr

/-- The functions and the tables of `rDensity`. -/
structure DensEnv (K : Type) where
  exp : K → K
  getY : K → K → K
  k0 : Fin 6 → K
  k1 : Fin 6 → K
  k2 : Fin 6 → K

/-- `rDensity::getY` and the tables of `rDensity`. -/
def DensEnv.ofExp {K : Type} [Field K] (exp : K → K) : DensEnv K where
  exp := exp
  getY dens15 temp := 0.001 *
    exp (-1.62080 + 0.00021592 * temp + (870960 + 4209.2 * temp) / (dens15 * dens15))
  k0 := ![613.9723, 346.42280, 2690.7440, 594.5418, 186.9696, 0]
  k1 := ![0, 0.43884, 0, 0, 0.4862, 0.6278]
  k2 := ![0, 0, -0.0033762, 0, 0, 0]

/-- What is reduced: `m_dens`, `m_temp`, `m_pres` and the product of the station. -/
structure DensInput (K : Type) where
  dens : K
  temp : K
  pres : K
  product : UInt8

/-- The members that a pass writes, apart from `m_dens15`. -/
structure DensDerived (K : Type) where
  b15 : K
  b : K
  y15 : K
  y : K
  cpl : K
  ctl : K
  deriving DecidableEq, Repr

/-- `OldD15`, `m_dens15` and the other members. -/
structure DensPass (K : Type) where
  old : K
  dens15 : K
  derived : Option (DensDerived K)
  deriving DecidableEq, Repr

/-- What `calculate` leaves in the object and sends. -/
structure DensSol (K : Type) where
  dens : Option K
  dens15 : Option K
  dens20 : Option K
  derived : Option (DensDerived K)
  coef : Option (DensCoef K)
  fault : UInt32
  lockErr : UInt32
  out : List (DensSolEvent K)
  deriving DecidableEq, Repr

variable {K : Type} [Field K] [LinearOrder K]

/-! ### `rDensity` -/

/-- `rDensity::getTypeProduct`, with the numbers of `rDensity::Product`. -/
def getTypeProduct (dens : K) (product : UInt8) : UInt8 :=
  match product with
  | 0 => 0
  | 1 => 1
  | 2 => 2
  | 3 => 3
  | 4 => 4
  | 5 =>
      if dens < 770.9 then 1
      else if dens < 788.0 then 2
      else if dens < 838.7 then 3
      else 4
  | 6 => 5
  | _ => 0xFF

/-- `rDensity::CONVERGENCE`. -/
def convergence : K := 0.0005

/-- `rDensity::Limit`. -/
def densLimit : Fin 7 → Fin 2 → K :=
  ![![611.2, 1163.8], ![611.2, 770.9], ![770.9, 788.0], ![788.0, 838.7], ![838.7, 1163.9],
    ![611.2, 1163.9], ![801.3, 1163.9]]

/-- `rDensity::Limit[row][column]`. -/
def limitAt (row : Fin 7) (column : UInt8) : Except DensStop K :=
  if h : column.toNat < 2 then .ok (densLimit row ⟨column.toNat, h⟩) else .error .outside

namespace DensEnv

variable (env : DensEnv K)

/-- `rDensity::getY15`. -/
def getY15 (dens15 : K) : K := env.getY dens15 15

/-- `rDensity::getDens20`. -/
def getDens20 (dens15 b15 : K) : K := dens15 * env.exp (-5 * b15 * (1 + 4 * b15))

/-- The coefficients of a group. -/
def coefOf (group : Fin 6) : DensCoef K := ⟨env.k0 group, env.k1 group, env.k2 group⟩

/-- `K0[oil_id]`, `K1[oil_id]` and `K2[oil_id]`. -/
def coefAt (oilId : UInt8) : Except DensStop (DensCoef K) :=
  if h : oilId.toNat < 6 then .ok (env.coefOf ⟨oilId.toNat, h⟩) else .error .outside

end DensEnv

/-! ### `rDensSol::calculate` -/

/-- `std::abs(OldD15 - m_dens15.m_value) > rDensity::CONVERGENCE` does not hold. -/
def DensPass.Converged (p : DensPass K) : Prop := ¬convergence < |p.old - p.dens15|

instance : DecidablePred (DensPass.Converged (K := K)) := fun _ => inferInstanceAs (Decidable (¬_))

/-- One pass of the inner loop. -/
def densPass (env : DensEnv K) (i : DensInput K) (coef : DensCoef K) (p : DensPass K) :
    DensPass K :=
  let dTemp := i.temp - 15
  let d15_2 := p.dens15 * p.dens15
  let b15 := (coef.k0 + coef.k1 * p.dens15) / d15_2 + coef.k2
  let b := b15 + 1.6 * b15 * b15 * dTemp
  let y15 := env.getY15 p.dens15
  let y := env.getY p.dens15 i.temp
  let cpl := 1 / (1 - y * i.pres)
  let ctl := env.exp (-b15 * dTemp * (1 + 0.8 * b15 * dTemp))
  { old := p.dens15
    dens15 := i.dens / cpl / ctl
    derived := some ⟨b15, b, y15, y, cpl, ctl⟩ }

/-- The bound of `count_iteration`. -/
def maxIteration : ℕ := 20

/-- The bound of `count_product`. -/
def maxProduct : ℕ := 3

/-- `DENSSOL_LE_ITERATION`. -/
def lEIteration : UInt32 := 0x00000010

/-- `DENSSOL_LE_VALUE`. -/
def lEValue : UInt32 := 0x00000004

namespace DensSol

/-- `rSource::checkExpr`, which gives the expression back. -/
def checkExpr (s : DensSol K) (expr : Prop) [Decidable expr] (flag : UInt32)
    (eventFault eventSuccess : DensSolEvent K) : DensSol K :=
  if expr then
    if s.lockErr &&& flag = 0 then
      { s with lockErr := s.lockErr ||| flag, out := s.out ++ [eventFault] }
    else s
  else
    if s.lockErr &&& flag ≠ 0 then
      { s with lockErr := s.lockErr &&& ~~~flag, out := s.out ++ [eventSuccess] }
    else s

/-- `rDensSol::setFault`. -/
def setFault (s : DensSol K) : DensSol K :=
  { s with dens := none, dens15 := none, dens20 := none, derived := none, coef := none, fault := 1 }

/-- What the passes with the coefficients leave, and the check behind them. -/
def afterPass (s : DensSol K) (coef : DensCoef K) (countIteration : ℕ) (p : DensPass K) :
    DensSol K :=
  { s with
    dens15 := some p.dens15
    derived := p.derived
    coef := some coef }.checkExpr (maxIteration ≤ countIteration) lEIteration .faultIteration
      .goodIteration

end DensSol

/-- The outer loop; with the state, whether `calculate` has returned in it. -/
def productLoop (env : DensEnv K) (i : DensInput K) (iterations : ℕ) :
    ℕ → ℕ → ℕ → UInt8 → DensSol K → Except DensStop (DensSol K × Bool)
  | 0, _, _, _, _ => .error .running
  | fuel + 1, countIteration, countProduct, oilId, s =>
      if maxProduct ≤ countProduct then .ok (s, false)
      else do
        let coef ← env.coefAt oilId
        match Iteration.loop (densPass env i coef) DensPass.Converged maxIteration iterations
            countIteration ⟨-100000, i.dens, s.derived⟩ with
        | none => .error .running
        | some (count, p) =>
            if maxIteration ≤ count then .ok ((s.afterPass coef count p).setFault, true)
            else if oilId = getTypeProduct p.dens15 i.product then
              .ok (s.afterPass coef count p, false)
            else
              productLoop env i iterations fuel count (countProduct + 1)
                (getTypeProduct p.dens15 i.product) (s.afterPass coef count p)

/-- The reduction to 15 °C. -/
def reduce (env : DensEnv K) (fuel : ℕ) (i : DensInput K) (s : DensSol K) :
    Except DensStop (DensSol K × Bool) :=
  productLoop env i fuel fuel 0 0 (getTypeProduct i.dens i.product) { s with dens := some i.dens }

/-- `Limit[0][product_id] <= m_dens15 && m_dens15 < Limit[1][product_id]`. -/
def inLimit (dens15 : Option K) (productId : UInt8) : Except DensStop Bool := do
  let min : K ← limitAt 0 productId
  if dens15.any (min ≤ ·) then do
    let max : K ← limitAt 1 productId
    .ok (dens15.any (· < max))
  else .ok false

/-- `rDensSol::calculate` from the reduction on, up to `postCalculate`. -/
def calculateDensSol (env : DensEnv K) (fuel : ℕ) (i : DensInput K) (s : DensSol K) :
    Except DensStop (DensSol K) := do
  let (s, returned) ← reduce env fuel i s
  if returned then .ok s
  else do
    let limit ← inLimit s.dens15 i.product
    let s := s.checkExpr (limit = false) lEValue (.faultValue s.dens15) (.goodValue s.dens15)
    let s := if limit then s else { s with fault := 1 }
    .ok { s with
      dens20 := do
        let dens15 ← s.dens15
        let derived ← s.derived
        some (env.getDens20 dens15 derived.b15) }

/-! ### The groups that are tried -/

lemma product_cases : ∀ product : UInt8, product ≤ 6 → product = 0 ∨ product = 1 ∨ product = 2 ∨
    product = 3 ∨ product = 4 ∨ product = 5 ∨ product = 6 := by decide +kernel

lemma getTypeProduct_lt (dens : K) {product : UInt8} (h : product ≤ 6) :
    (getTypeProduct dens product).toNat < 6 := by
  rw [getTypeProduct.eq_def]
  split
  case h_6 => split_ifs <;> decide
  case h_8 =>
    rcases product_cases product h with rfl | rfl | rfl | rfl | rfl | rfl | rfl <;> contradiction
  all_goals decide

/-- A byte that is no product has no group. -/
lemma getTypeProduct_of_lt (dens : K) {product : UInt8} (h : 6 < product) :
    getTypeProduct dens product = 0xFF := by
  rw [getTypeProduct.eq_def]
  split
  case h_8 => rfl
  all_goals exact absurd h (by decide)

/-- The group of a density. -/
def DensInput.groupOf (i : DensInput K) (h : i.product ≤ 6) (dens : K) : Fin 6 :=
  ⟨(getTypeProduct dens i.product).toNat, getTypeProduct_lt dens h⟩

section Attempts

variable (env : DensEnv K) (i : DensInput K)

/-- What the iteration of a group has come to after `n` passes. -/
def densAt (group : Fin 6) (n : ℕ) : DensPass K :=
  (densPass env i (env.coefOf group))^[n] ⟨-100000, i.dens, none⟩

/-- The number of the passes after which the iteration of a group is done, below a bound. -/
def passesIn (group : Fin 6) (bound : ℕ) : Option ℕ :=
  Iteration.firstIn (densPass env i (env.coefOf group)) DensPass.Converged bound
    ⟨-100000, i.dens, none⟩

/-- The iteration of a group converges within its 20 steps. -/
def Converges (group : Fin 6) : Prop := ∃ n ≤ maxIteration, (densAt env i group n).Converged

/-- The groups that are tried, each with the passes of those in front of it. -/
def attempt (h : i.product ≤ 6) : ℕ → Option (Fin 6 × ℕ)
  | 0 => some (i.groupOf h i.dens, 0)
  | j + 1 => do
      let (group, count) ← attempt h j
      let n ← passesIn env i group (maxIteration - count)
      let next := i.groupOf h (densAt env i group n).dens15
      if next = group then none else some (next, count + n)

end Attempts

/-! ### Flags -/

/-- A flag that has been set is set, and one that has been cleared is not. -/
lemma flag_set (x flag : UInt32) : (x ||| flag) &&& flag = flag := by
  apply UInt32.toBitVec_inj.mp
  rw [UInt32.toBitVec_and, UInt32.toBitVec_or]
  ext j hj
  simpa using fun h => Or.inr h

@[inherit_doc flag_set]
lemma flag_clear (x flag : UInt32) : (x &&& ~~~flag) &&& flag = 0 := by
  apply UInt32.toBitVec_inj.mp
  rw [UInt32.toBitVec_and, UInt32.toBitVec_and, UInt32.toBitVec_not]
  ext j hj
  simp

namespace DensSol

omit [Field K] [LinearOrder K]

/-- After a check the flag tells how it went. -/
lemma checkExpr_flag (s : DensSol K) (expr : Prop) [Decidable expr] {flag : UInt32}
    (hflag : flag ≠ 0) (ef es : DensSolEvent K) :
    (s.checkExpr expr flag ef es).lockErr &&& flag ≠ 0 ↔ expr := by
  rw [checkExpr]
  split_ifs with hexpr hlock hlock
  · exact ⟨fun _ => hexpr, fun _ => by rwa [flag_set]⟩
  · exact ⟨fun _ => hexpr, fun _ => hlock⟩
  · exact ⟨fun h => absurd (flag_clear _ _) h, fun h => absurd h hexpr⟩
  · exact ⟨fun h => absurd h hlock, fun h => absurd h hexpr⟩

/-- A check changes nothing but the flags and what is sent. -/
lemma checkExpr_eq (s : DensSol K) (expr : Prop) [Decidable expr] (flag : UInt32)
    (ef es : DensSolEvent K) :
    s.checkExpr expr flag ef es =
      { s with
        lockErr := (s.checkExpr expr flag ef es).lockErr
        out := (s.checkExpr expr flag ef es).out } := by
  rw [checkExpr]
  split_ifs <;> rfl

variable (s : DensSol K) (coef : DensCoef K) (count : ℕ) (p : DensPass K)

lemma afterPass_flag :
    (s.afterPass coef count p).lockErr &&& lEIteration ≠ 0 ↔ maxIteration ≤ count :=
  checkExpr_flag _ _ (by decide) _ _

lemma afterPass_dens15 : (s.afterPass coef count p).dens15 = some p.dens15 := by
  rw [afterPass, checkExpr_eq]

lemma afterPass_coef : (s.afterPass coef count p).coef = some coef := by
  rw [afterPass, checkExpr_eq]

end DensSol

/-! ### The inner loop -/

section Spec

variable (env : DensEnv K) (i : DensInput K)

omit [LinearOrder K] in
/-- What the other members were makes no difference. -/
lemma iterate_densPass (coef : DensCoef K) (derived : Option (DensDerived K)) (n : ℕ) :
    ((densPass env i coef)^[n] ⟨-100000, i.dens, derived⟩).old =
        ((densPass env i coef)^[n] ⟨-100000, i.dens, none⟩).old ∧
      ((densPass env i coef)^[n] ⟨-100000, i.dens, derived⟩).dens15 =
        ((densPass env i coef)^[n] ⟨-100000, i.dens, none⟩).dens15 := by
  cases n with
  | zero => exact ⟨rfl, rfl⟩
  | succ n => exact ⟨rfl, rfl⟩

lemma firstIn_densPass (group : Fin 6) (derived : Option (DensDerived K)) (bound : ℕ) :
    Iteration.firstIn (densPass env i (env.coefOf group)) DensPass.Converged bound
        ⟨-100000, i.dens, derived⟩ = passesIn env i group bound := by
  have hsame : ∀ n, ((densPass env i (env.coefOf group))^[n] ⟨-100000, i.dens, derived⟩).Converged ↔
      (densAt env i group n).Converged := by
    intro n
    obtain ⟨hold, hdens⟩ := iterate_densPass env i (env.coefOf group) derived n
    rw [DensPass.Converged, DensPass.Converged, hold, hdens, densAt]
  rw [passesIn, Iteration.firstIn, Iteration.firstIn]
  congr 1
  funext n
  exact decide_eq_decide.mpr (hsame n)

variable {env i}

omit [Field K] [LinearOrder K] in
lemma coefAt_eq {oilId : UInt8} {group : Fin 6} (h : oilId.toNat = group) :
    env.coefAt oilId = .ok (env.coefOf group) := by
  have hlt : oilId.toNat < 6 := by omega
  rw [DensEnv.coefAt, dif_pos hlt]
  congr 2
  exact Fin.ext h

/-! ### The outer loop -/

variable {h : i.product ≤ 6} {j n count : ℕ} {group : Fin 6}

lemma attempt_succ (hat : attempt env i h j = some (group, count)) :
    attempt env i h (j + 1) =
      (passesIn env i group (maxIteration - count)).bind fun n =>
        if i.groupOf h (densAt env i group n).dens15 = group then none
        else some (i.groupOf h (densAt env i group n).dens15, count + n) := by
  rw [attempt, hat]
  rfl

lemma attempt_succ_of_none (hat : attempt env i h j = none) : attempt env i h (j + 1) = none := by
  rw [attempt, hat]
  rfl

/-- Every group is tried with passes left. -/
lemma attempt_lt (hat : attempt env i h j = some (group, count)) : count < maxIteration := by
  cases j with
  | zero =>
      obtain ⟨-, rfl⟩ := Prod.mk.inj (Option.some.inj hat)
      decide
  | succ j =>
      cases hprev : attempt env i h j with
      | none =>
          rw [attempt_succ_of_none hprev] at hat
          cases hat
      | some t =>
          obtain ⟨group', count'⟩ := t
          rw [attempt_succ hprev, Option.bind_eq_some_iff] at hat
          obtain ⟨n, hn, hat⟩ := hat
          split_ifs at hat
          obtain ⟨-, rfl⟩ := Prod.mk.inj (Option.some.inj hat)
          have hlt := (Iteration.firstIn_eq_some_iff.mp hn).1
          omega

/-- How the outer loop ends: the last group that is tried does not converge in the passes that are
left, or it converges and is the right one or the third. -/
inductive Ends (env : DensEnv K) (i : DensInput K) (h : i.product ≤ 6) :
    DensSol K × Bool → Prop where
  | stuck {m count : ℕ} {group : Fin 6} {s : DensSol K} (hm : m < maxProduct)
      (hat : attempt env i h m = some (group, count))
      (hstuck : passesIn env i group (maxIteration - count) = none)
      (hflag : s.lockErr &&& lEIteration ≠ 0) : Ends env i h (s.setFault, true)
  | settled {m count n : ℕ} {group : Fin 6} {s : DensSol K} (hm : m < maxProduct)
      (hat : attempt env i h m = some (group, count))
      (hn : passesIn env i group (maxIteration - count) = some n)
      (hlast : i.groupOf h (densAt env i group n).dens15 = group ∨ m + 1 = maxProduct)
      (hflag : s.lockErr &&& lEIteration = 0)
      (hdens : s.dens15 = some (densAt env i group n).dens15)
      (hcoef : s.coef = some (env.coefOf group)) : Ends env i h (s, false)

/-- The outer loop comes to an end, and reads the tables inside. -/
theorem productLoop_spec {iterations : ℕ} (hiterations : maxIteration < iterations) {fuel : ℕ}
    (hj : j < maxProduct) (hfuel : maxProduct - j < fuel)
    (hat : attempt env i h j = some (group, count)) {oilId : UInt8} (hoil : oilId.toNat = group)
    (s : DensSol K) :
    ∃ r, productLoop env i iterations fuel count j oilId s = .ok r ∧ Ends env i h r := by
  induction fuel generalizing j group count oilId s with
  | zero => omega
  | succ fuel ih =>
      have hcount := attempt_lt hat
      rw [productLoop, if_neg (not_le.mpr hj), coefAt_eq hoil, Result.ok_bind]
      have hfirst := firstIn_densPass env i group s.derived (maxIteration - count)
      cases hn : passesIn env i group (maxIteration - count) with
      | none =>
          rw [Iteration.loop_of_firstIn_eq_none hcount (hfirst.trans hn) (by omega)]
          dsimp only
          rw [if_pos le_rfl]
          exact ⟨_, rfl, .stuck hj hat hn ((DensSol.afterPass_flag _ _ _ _).mpr le_rfl)⟩
      | some n =>
          have hlt := (Iteration.firstIn_eq_some_iff.mp hn).1
          have hmax : ¬maxIteration ≤ count + n := by omega
          have hdens := (iterate_densPass env i (env.coefOf group) s.derived n).2
          rw [Iteration.loop_of_firstIn (hfirst.trans hn) (by omega)]
          generalize (densPass env i (env.coefOf group))^[n] ⟨-100000, i.dens, s.derived⟩ = p
            at hdens
          replace hdens : p.dens15 = (densAt env i group n).dens15 := hdens
          have hflag := not_ne_iff.mp fun hne =>
            hmax ((s.afterPass_flag (env.coefOf group) (count + n) p).mp hne)
          have hleft : (s.afterPass (env.coefOf group) (count + n) p).dens15 =
              some (densAt env i group n).dens15 := by rw [DensSol.afterPass_dens15, hdens]
          have hcoef := s.afterPass_coef (env.coefOf group) (count + n) p
          dsimp only
          rw [if_neg hmax, hdens]
          by_cases hgroup : i.groupOf h (densAt env i group n).dens15 = group
          · -- the group is the one of the density
            have hsame : oilId = getTypeProduct (densAt env i group n).dens15 i.product :=
              UInt8.toNat_inj.mp (hoil.trans (congrArg Fin.val hgroup).symm)
            rw [if_pos hsame]
            exact ⟨_, rfl, .settled hj hat hn (.inl hgroup) hflag hleft hcoef⟩
          have hother : oilId ≠ getTypeProduct (densAt env i group n).dens15 i.product :=
            fun heq => hgroup (Fin.ext (by rw [← hoil, heq]; rfl))
          rw [if_neg hother]
          by_cases hlast : j + 1 < maxProduct
          · -- the next group is tried
            have hnext : attempt env i h (j + 1) =
                some (i.groupOf h (densAt env i group n).dens15, count + n) := by
              rw [attempt_succ hat, hn, Option.bind_some, if_neg hgroup]
            exact ih hlast (by omega) hnext rfl _
          · obtain ⟨fuel, rfl⟩ := Nat.exists_eq_succ_of_ne_zero (by omega : fuel ≠ 0)
            rw [productLoop, if_pos (not_lt.mp hlast)]
            exact ⟨_, rfl, .settled hj hat hn (.inr (by omega)) hflag hleft hcoef⟩

/-! ### What is tried in a run -/

lemma attempt_eq_none {m : ℕ} (hat : attempt env i h j = none) (hle : j ≤ m) :
    attempt env i h m = none := by
  induction m, hle using Nat.le_induction with
  | base => exact hat
  | succ m _ ih => exact attempt_succ_of_none ih

/-- Behind a group without passes left no other is tried. -/
lemma attempt_of_stuck (hat : attempt env i h j = some (group, count))
    (hstuck : passesIn env i group (maxIteration - count) = none) {m : ℕ} (hlt : j < m) :
    attempt env i h m = none := by
  refine attempt_eq_none ?_ hlt
  rw [attempt_succ hat, hstuck, Option.bind_none]

/-- Nor behind the right one. -/
lemma attempt_of_settled (hat : attempt env i h j = some (group, count))
    (hn : passesIn env i group (maxIteration - count) = some n)
    (hgroup : i.groupOf h (densAt env i group n).dens15 = group) {m : ℕ} (hlt : j < m) :
    attempt env i h m = none := by
  refine attempt_eq_none ?_ hlt
  rw [attempt_succ hat, hn, Option.bind_some, if_pos hgroup]

/-- A group is tried that has no passes left before it converges. -/
def Exhausts (env : DensEnv K) (i : DensInput K) (h : i.product ≤ 6) : Prop :=
  ∃ m < maxProduct, ∃ group count, attempt env i h m = some (group, count) ∧
    passesIn env i group (maxIteration - count) = none

/-- A group is tried that does not converge within its steps. -/
def Diverges (env : DensEnv K) (i : DensInput K) (h : i.product ≤ 6) : Prop :=
  ∃ m < maxProduct, ∃ group count, attempt env i h m = some (group, count) ∧
    ¬Converges env i group

lemma converges_of_passesIn {bound : ℕ} (hbound : bound ≤ maxIteration + 1)
    (hn : passesIn env i group bound = some n) : Converges env i group := by
  obtain ⟨hlt, hdone, -⟩ := Iteration.firstIn_eq_some_iff.mp hn
  exact ⟨n, by omega, hdone⟩

lemma passesIn_of_not_converges {bound : ℕ} (hbound : bound ≤ maxIteration + 1)
    (hnot : ¬Converges env i group) : passesIn env i group bound = none := by
  cases hn : passesIn env i group bound with
  | none => rfl
  | some n => exact absurd (converges_of_passesIn hbound hn) hnot

lemma Diverges.exhausts (hdiv : Diverges env i h) : Exhausts env i h := by
  obtain ⟨m, hm, group, count, hat, hnot⟩ := hdiv
  exact ⟨m, hm, group, count, hat, passesIn_of_not_converges (by omega) hnot⟩

/-- Only one group has no passes left. -/
lemma stuck_unique {m m' count' : ℕ} {group' : Fin 6}
    (hat : attempt env i h m = some (group, count))
    (hstuck : passesIn env i group (maxIteration - count) = none)
    (hat' : attempt env i h m' = some (group', count'))
    (hstuck' : passesIn env i group' (maxIteration - count') = none) : group = group' := by
  rcases lt_trichotomy m m' with hlt | rfl | hlt
  · rw [attempt_of_stuck hat hstuck hlt] at hat'
    cases hat'
  · exact (Prod.mk.inj (Option.some.inj (hat.symm.trans hat'))).1
  · rw [attempt_of_stuck hat' hstuck' hlt] at hat
    cases hat

/-- The group that is given up is the one that diverges. -/
lemma Diverges.given_up (hdiv : Diverges env i h) {m count : ℕ} {group : Fin 6}
    (hat : attempt env i h m = some (group, count))
    (hstuck : passesIn env i group (maxIteration - count) = none) : ¬Converges env i group := by
  obtain ⟨m', hm', group', count', hat', hnot⟩ := hdiv
  have hstuck' : passesIn env i group' (maxIteration - count') = none :=
    passesIn_of_not_converges (by omega) hnot
  rwa [stuck_unique hat hstuck hat' hstuck']

/-- `calculate` returns in the loop if and only if a group has no passes left. -/
lemma Ends.returned_iff {r : DensSol K × Bool} (hends : Ends env i h r) :
    r.2 = true ↔ Exhausts env i h := by
  cases hends with
  | @stuck m count group s hm hat hstuck hflag =>
      exact ⟨fun _ => ⟨m, hm, group, count, hat, hstuck⟩, fun _ => rfl⟩
  | @settled m count n group s hm hat hn hlast hflag hdens hcoef =>
      refine ⟨nofun, fun ⟨m', hm', group', count', hat', hstuck'⟩ => ?_⟩
      rcases lt_trichotomy m m' with hlt | rfl | hlt
      · rcases hlast with hgroup | hthird
        · rw [attempt_of_settled hat hn hgroup hlt] at hat'
          cases hat'
        · omega
      · obtain ⟨rfl, rfl⟩ := Prod.mk.inj (Option.some.inj (hat.symm.trans hat'))
        rw [hn] at hstuck'
        cases hstuck'
      · rw [attempt_of_stuck hat' hstuck' hlt] at hat
        cases hat

lemma Ends.flag_iff {r : DensSol K × Bool} (hends : Ends env i h r) :
    r.1.lockErr &&& lEIteration ≠ 0 ↔ Exhausts env i h := by
  rw [← hends.returned_iff]
  cases hends with
  | stuck hm hat hstuck hflag => exact ⟨fun _ => rfl, fun _ => hflag⟩
  | settled hm hat hn hlast hflag hdens hcoef => exact ⟨fun hne => absurd hflag hne, nofun⟩

end Spec

/-! ### What is claimed of it -/

/-- The loops end and read the tables inside; the flag of the iteration is set if and only if a
group that is tried does not converge within its 20 steps; and the coefficients in the end are those
of the group of the density at 15 °C. -/
structure ReducesAsClaimed (env : DensEnv K) (fuel : ℕ) (i : DensInput K) (s : DensSol K) :
    Prop where
  ends : reduce env fuel i s ≠ .error .running
  tables : reduce env fuel i s ≠ .error .outside
  limits : calculateDensSol env fuel i s ≠ .error .outside
  fault : ∀ (h : i.product ≤ 6) r, reduce env fuel i s = .ok r →
    (r.1.lockErr &&& lEIteration ≠ 0 ↔ Diverges env i h)
  coefs : ∀ s', reduce env fuel i s = .ok (s', false) → ∃ dens15, s'.dens15 = some dens15 ∧
    ∃ coef, env.coefAt (getTypeProduct dens15 i.product) = .ok coef ∧ s'.coef = some coef

/-- A group that is tried does not converge within its steps, and is given up with the fault; or the
product is one of the first two, which have a single group and their place in the limits, and it
converges before its last step. -/
def Reducible (env : DensEnv K) (i : DensInput K) (h : i.product ≤ 6) : Prop :=
  Diverges env i h ∨
    i.product ≤ 1 ∧ ∃ n < maxIteration, (densAt env i (i.groupOf h i.dens) n).Converged

section Results

variable {env : DensEnv K} {i : DensInput K} {h : i.product ≤ 6}

/-- The flag is right if and only if no group is given up that would converge. -/
theorem fault_iff {r : DensSol K × Bool} (hends : Ends env i h r) :
    (r.1.lockErr &&& lEIteration ≠ 0 ↔ Diverges env i h) ↔
      ∀ m < maxProduct, ∀ group count, attempt env i h m = some (group, count) →
        passesIn env i group (maxIteration - count) = none → ¬Converges env i group := by
  rw [hends.flag_iff]
  constructor
  · intro hiff m hm group count hat hstuck
    exact (hiff.mp ⟨m, hm, group, count, hat, hstuck⟩).given_up hat hstuck
  · intro hall
    refine ⟨fun ⟨m, hm, group, count, hat, hstuck⟩ => ?_, Diverges.exhausts⟩
    exact ⟨m, hm, group, count, hat, hall m hm group count hat hstuck⟩

/-- The coefficients are right if and only if a fourth group has those of the third. -/
theorem coefs_iff {r : DensSol K × Bool} (hends : Ends env i h r) :
    (∀ s', r = (s', false) → ∃ dens15, s'.dens15 = some dens15 ∧
        ∃ coef, env.coefAt (getTypeProduct dens15 i.product) = .ok coef ∧ s'.coef = some coef) ↔
      ∀ group count, attempt env i h maxProduct = some (group, count) →
        ∃ group' count', attempt env i h (maxProduct - 1) = some (group', count') ∧
          env.coefOf group' = env.coefOf group := by
  cases hends with
  | @stuck m count group s hm hat hstuck hflag =>
      refine ⟨fun _ group' count' hat' => ?_, fun _ s' heq => ?_⟩
      · rw [attempt_of_stuck hat hstuck hm] at hat'
        cases hat'
      · exact Bool.noConfusion (congrArg Prod.snd heq : true = false)
  | @settled m count n group s hm hat hn hlast hflag hdens hcoef =>
      have htype : env.coefAt (getTypeProduct (densAt env i group n).dens15 i.product) =
          .ok (env.coefOf (i.groupOf h (densAt env i group n).dens15)) := coefAt_eq rfl
      by_cases hgroup : i.groupOf h (densAt env i group n).dens15 = group
      · refine ⟨fun _ group' count' hat' => ?_, fun _ s' heq => ?_⟩
        · rw [attempt_of_settled hat hn hgroup hm] at hat'
          cases hat'
        · obtain rfl : s = s' := congrArg Prod.fst heq
          exact ⟨_, hdens, _, htype, by rw [hcoef, hgroup]⟩
      · -- the loop is left behind the third group
        have hthird := hlast.resolve_left hgroup
        have hfourth : attempt env i h maxProduct =
            some (i.groupOf h (densAt env i group n).dens15, count + n) := by
          rw [← hthird, attempt_succ hat, hn, Option.bind_some, if_neg hgroup]
        have hprev : attempt env i h (maxProduct - 1) = some (group, count) := by
          rw [← hthird, Nat.add_sub_cancel, hat]
        constructor
        · intro hcoefs group' count' hat'
          obtain ⟨dens15, hdens', coef, hcoef', hsame⟩ := hcoefs s rfl
          obtain rfl := Option.some.inj (hdens.symm.trans hdens')
          obtain rfl := Except.ok.inj (htype.symm.trans hcoef')
          obtain ⟨rfl, rfl⟩ := Prod.mk.inj (Option.some.inj (hfourth.symm.trans hat'))
          exact ⟨group, count, hprev, Option.some.inj (hcoef.symm.trans hsame)⟩
        · intro hall s' heq
          obtain rfl : s = s' := congrArg Prod.fst heq
          obtain ⟨group', count', hat', hsame⟩ := hall _ _ hfourth
          obtain ⟨rfl, rfl⟩ := Prod.mk.inj (Option.some.inj (hprev.symm.trans hat'))
          exact ⟨_, hdens, _, htype, by rw [hcoef, hsame]⟩

/-- A product that is none stops the call outside of the tables. -/
lemma reduce_of_lt {fuel : ℕ} (hfuel : 0 < fuel) (hproduct : 6 < i.product) (s : DensSol K) :
    reduce env fuel i s = .error .outside := by
  obtain ⟨fuel, rfl⟩ := Nat.exists_eq_succ_of_ne_zero hfuel.ne'
  rw [reduce, getTypeProduct_of_lt _ hproduct, productLoop, if_neg (by decide)]
  rfl

/-- The call comes to the end of the loops for every product. -/
theorem reduce_spec (env : DensEnv K) {fuel : ℕ} (hfuel : maxIteration < fuel)
    (h : i.product ≤ 6) (s : DensSol K) : ∃ r, reduce env fuel i s = .ok r ∧ Ends env i h r :=
  productLoop_spec hfuel (by decide) (by rw [maxIteration] at hfuel; rw [maxProduct]; omega)
    (by rfl) rfl _

omit [LinearOrder K] in
lemma limitAt_of_le (row : Fin 7) {product : UInt8} (h : product ≤ 1) :
    ∃ x : K, limitAt row product = .ok x := by
  have hlt : product.toNat < 2 := Nat.lt_succ_of_le (UInt8.le_iff_toNat_le.mp h)
  exact ⟨_, dif_pos hlt⟩

lemma inLimit_of_le (dens15 : Option K) {product : UInt8} (h : product ≤ 1) :
    ∃ limit, inLimit dens15 product = .ok limit := by
  obtain ⟨min, hmin⟩ := limitAt_of_le (K := K) 0 h
  obtain ⟨max, hmax⟩ := limitAt_of_le (K := K) 1 h
  rw [inLimit, hmin, Result.ok_bind]
  split
  · exact ⟨_, by rw [hmax, Result.ok_bind]⟩
  · exact ⟨_, rfl⟩

lemma inLimit_of_lt (dens15 : Option K) {product : UInt8} (h : 1 < product) :
    inLimit dens15 product = .error .outside := by
  have hle : ¬product.toNat < 2 := fun hlt =>
    absurd (UInt8.lt_iff_toNat_lt.mp h) (Nat.not_lt.mpr (Nat.le_of_lt_succ hlt))
  rw [inLimit, limitAt, dif_neg hle, Result.error_bind]

/-- The limits are read inside if and only if the product is one of the first two, or there is no
result. -/
theorem limits_iff {fuel : ℕ} (hfuel : maxIteration < fuel) (h : i.product ≤ 6) (s : DensSol K) :
    calculateDensSol env fuel i s ≠ .error .outside ↔ i.product ≤ 1 ∨ Exhausts env i h := by
  obtain ⟨⟨s', returned⟩, hreduce, hends⟩ := reduce_spec env hfuel h s
  rw [calculateDensSol, hreduce, Result.ok_bind, ← hends.returned_iff]
  cases returned with
  | true => exact ⟨fun _ => .inr rfl, fun _ => nofun⟩
  | false =>
      by_cases hproduct : i.product ≤ 1
      · obtain ⟨limit, hlimit⟩ := inLimit_of_le s'.dens15 hproduct
        refine ⟨fun _ => .inl hproduct, fun _ => ?_⟩
        simp only [Bool.false_eq_true, if_false]
        rw [hlimit, Result.ok_bind]
        nofun
      · have hlimit := inLimit_of_lt s'.dens15 (UInt8.not_le.mp hproduct)
        simp only [Bool.false_eq_true, if_false]
        rw [hlimit, Result.error_bind]
        exact ⟨fun hne => absurd rfl hne, fun hor => absurd (hor.resolve_left hproduct) nofun⟩

/-- The first two products have one group. -/
lemma groupOf_eq (hproduct : i.product ≤ 1) (dens dens' : K) :
    i.groupOf h dens = i.groupOf h dens' := by
  have hbyte : i.product = 0 ∨ i.product = 1 := by
    revert hproduct
    generalize i.product = product
    revert product
    decide +kernel
  refine Fin.ext ?_
  change (getTypeProduct dens i.product).toNat = (getTypeProduct dens' i.product).toNat
  rcases hbyte with hbyte | hbyte <;> rw [hbyte] <;> rfl

/-- A group of its own is the only one that is tried. -/
lemma attempt_of_le (hproduct : i.product ≤ 1) {m : ℕ} (hm : 0 < m) : attempt env i h m = none := by
  have hat : attempt env i h 0 = some (i.groupOf h i.dens, 0) := rfl
  cases hn : passesIn env i (i.groupOf h i.dens) (maxIteration - 0) with
  | none => exact attempt_of_stuck hat hn hm
  | some n => exact attempt_of_settled hat hn (groupOf_eq hproduct _ _) hm

lemma exists_passesIn {n bound : ℕ} {group : Fin 6} (hn : n < bound)
    (hdone : (densAt env i group n).Converged) : ∃ m, passesIn env i group bound = some m := by
  rw [← Option.isSome_iff_exists, ← Option.ne_none_iff_isSome]
  exact fun hnone => Iteration.firstIn_eq_none_iff.mp hnone n hn hdone

/-- Behind a group that diverges no other is tried. -/
lemma Diverges.fourth (hdiv : Diverges env i h) : attempt env i h maxProduct = none := by
  obtain ⟨m, hm, group, count, hat, hstuck⟩ := hdiv.exhausts
  exact attempt_of_stuck hat hstuck hm

/-- The condition by the product says that the limits, the flag and the coefficients are right. -/
lemma reducible_iff : Reducible env i h ↔ (i.product ≤ 1 ∨ Exhausts env i h) ∧
    (∀ m < maxProduct, ∀ group count, attempt env i h m = some (group, count) →
      passesIn env i group (maxIteration - count) = none → ¬Converges env i group) ∧
    ∀ group count, attempt env i h maxProduct = some (group, count) →
      ∃ group' count', attempt env i h (maxProduct - 1) = some (group', count') ∧
        env.coefOf group' = env.coefOf group := by
  constructor
  · rintro (hdiv | ⟨hproduct, n, hn, hdone⟩)
    · refine ⟨.inr hdiv.exhausts, fun m _ group count hat hstuck => hdiv.given_up hat hstuck,
        fun group count hat => ?_⟩
      rw [hdiv.fourth] at hat
      cases hat
    · refine ⟨.inl hproduct, fun m _ group count hat hstuck => ?_, fun group count hat => ?_⟩
      · rcases Nat.eq_zero_or_pos m with rfl | hm
        · obtain ⟨rfl, rfl⟩ := Prod.mk.inj (Option.some.inj hat)
          obtain ⟨m, hm⟩ := exists_passesIn hn hdone
          rw [Nat.sub_zero, hm] at hstuck
          cases hstuck
        · rw [attempt_of_le hproduct hm] at hat
          cases hat
      · rw [attempt_of_le hproduct (by decide)] at hat
        cases hat
  · rintro ⟨hlimits, hfault, -⟩
    by_cases hex : Exhausts env i h
    · obtain ⟨m, hm, group, count, hat, hstuck⟩ := hex
      exact .inl ⟨m, hm, group, count, hat, hfault m hm group count hat hstuck⟩
    · -- the only group has passes left
      refine .inr ⟨hlimits.resolve_right hex, ?_⟩
      cases hn : passesIn env i (i.groupOf h i.dens) maxIteration with
      | none => exact absurd ⟨0, by decide, _, 0, rfl, hn⟩ hex
      | some n =>
          obtain ⟨hlt, hdone, -⟩ := Iteration.firstIn_eq_some_iff.mp hn
          exact ⟨n, hlt, hdone⟩

/-- The reduction does what is claimed if and only if the byte is a product and it can be done. -/
theorem reduction_iff {fuel : ℕ} (hfuel : maxIteration < fuel) (env : DensEnv K) (i : DensInput K)
    (s : DensSol K) :
    ReducesAsClaimed env fuel i s ↔ ∃ h : i.product ≤ 6, Reducible env i h := by
  constructor
  · intro hclaim
    have h : i.product ≤ 6 := by
      by_contra hnot
      exact hclaim.tables (reduce_of_lt (by omega) (UInt8.not_le.mp hnot) s)
    obtain ⟨r, hreduce, hends⟩ := reduce_spec env hfuel h s
    refine ⟨h, reducible_iff.mpr ⟨(limits_iff hfuel h s).mp hclaim.limits, ?_, ?_⟩⟩
    · exact (fault_iff hends).mp (hclaim.fault h r hreduce)
    · exact (coefs_iff hends).mp fun s' hr => hclaim.coefs s' (hr ▸ hreduce)
  · rintro ⟨h, hcan⟩
    obtain ⟨hlimits, hfault, hcoefs⟩ := reducible_iff.mp hcan
    obtain ⟨r, hreduce, hends⟩ := reduce_spec env hfuel h s
    refine ⟨?_, ?_, (limits_iff hfuel h s).mpr hlimits, ?_, ?_⟩
    · rw [hreduce]
      nofun
    · rw [hreduce]
      nofun
    · intro _ r' hr'
      obtain rfl := Except.ok.inj (hreduce.symm.trans hr')
      exact (fault_iff hends).mpr hfault
    · intro s' hr'
      exact (coefs_iff hends).mpr hcoefs s' (Except.ok.inj (hreduce.symm.trans hr'))

end Results

/-! ### Petroleum, and a byte that is no product -/

/-- Petroleum of 850 kg/m³ at 60 °C and 2 MPa. -/
def petroleum : DensInput ℚ := ⟨850, 60, 2, 0⟩

/-- The exponential function of small numbers, to six digits. -/
def expP (x : ℚ) : ℚ :=
  ⌊10 ^ 6 * (1 + x * (1 + x / 2 * (1 + x / 3 * (1 + x / 4 * (1 + x / 5 * (1 + x / 6)))))) +
    1 / 2⌋ / 10 ^ 6

@[inherit_doc expP]
def envP : DensEnv ℚ := .ofExp expP

/-- The object before its first scan. -/
def newDensSol (K : Type) : DensSol K := ⟨none, none, none, none, none, 0, 0, []⟩

/-- Its reduction is done after several passes. -/
lemma passesIn_petroleum : passesIn envP petroleum 0 maxIteration = some 5 := by decide +kernel

/-- It does what is claimed, and no fault is raised. -/
theorem reduction_iff_petroleum : ReducesAsClaimed envP 21 petroleum (newDensSol ℚ) := by
  obtain ⟨hlt, hdone, -⟩ := Iteration.firstIn_eq_some_iff.mp passesIn_petroleum
  exact (reduction_iff (by decide) envP petroleum (newDensSol ℚ)).mpr
    ⟨by decide, .inr ⟨by decide, 5, hlt, hdone⟩⟩

/-- The byte 7 is no product: the coefficients are read outside of the tables. -/
theorem reduction_fails : ¬ ∀ (env : DensEnv ℝ) (fuel : ℕ), maxIteration < fuel →
    ∀ (i : DensInput ℝ) (s : DensSol ℝ), ReducesAsClaimed env fuel i s := by
  intro hall
  have hclaim := hall (.ofExp Real.exp) 21 (by decide) ⟨850, 15, 0, 7⟩ (newDensSol ℝ)
  exact hclaim.tables (reduce_of_lt (by decide) (by decide) _)

end Tritonn

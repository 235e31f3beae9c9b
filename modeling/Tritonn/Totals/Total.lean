import Tritonn.Shared.Common

/-!
`src/tritonn/total.cpp`: the running totals of a stream or a station.

The four real fields of `rBaseTotal` are read through `Channel`, since every function of the class
treats them alike; the precision of the displayed value is the only thing that depends on the
channel (`ObjUnit.unit`).

* `Total.calculate` is one cycle: round and add the increment, wrap at the limit with an event,
  display.  Its second result lists, channel by channel, the events handed to the event manager.
* `Total.sub` is the difference of two totals across at most one wrap.
-/

namespace Tritonn

open Wrap (carry)

/-- The four quantities of `rBaseTotal`. -/
inductive Channel where
  | mass
  | volume
  | volume15
  | volume20
  deriving DecidableEq, Repr

/-- `rBaseTotal`: the four quantities and the pulse count. -/
@[ext]
structure BaseTotal where
  qty : Channel → LREAL
  count : UInt32

/-- `rTotal::clear`. -/
def BaseTotal.clear : BaseTotal := ⟨fun _ => 0, 0⟩

@[simp] lemma BaseTotal.clear_qty (ch : Channel) : BaseTotal.clear.qty ch = 0 := rfl

/-- `rObjUnit`: the units of mass and volume of a station. -/
structure ObjUnit where
  mass : UInt32
  volume : UInt32

/-- The unit in which a channel is displayed: `getMass` or `getVolume`. -/
def ObjUnit.unit (u : ObjUnit) : Channel → UInt32
  | .mass => u.mass
  | _ => u.volume

/-- `rTotal`: the totals of the last scan, the raw totals, the increment of this scan, the
displayed totals, and for each channel the event of an overflow. -/
structure Total where
  past : BaseTotal
  raw : BaseTotal
  inc : BaseTotal
  present : BaseTotal
  event : Channel → EID

namespace Total

/-- `rTotal::reset`. -/
def reset (t : Total) : Total :=
  { t with past := .clear, raw := .clear, inc := .clear, present := .clear }

/-- `rTotal::inc`: a cleared increment with the pulses of this scan. -/
def setInc (t : Total) (impulse : UInt32) : Total :=
  { t with inc := { BaseTotal.clear with count := impulse } }

/-- One of the four blocks of `rTotal::checkMax`: a total that reached the limit is reduced by it,
and the event of the channel is added if there is one. -/
def checkMaxOne (event : EID) (raw : LREAL) : LREAL × List EID :=
  if maxTotalLimit ≤ raw then (raw - maxTotalLimit, if event = 0 then [] else [event])
  else (raw, [])

/-- `rTotal::checkMax`, with the events added for each channel. -/
def checkMax (t : Total) : Total × (Channel → List EID) :=
  ({ t with raw := { t.raw with qty := fun ch => (checkMaxOne (t.event ch) (t.raw.qty ch)).1 } },
    fun ch => (checkMaxOne (t.event ch) (t.raw.qty ch)).2)

/-- The raw totals after the rounded addition of the increment, before `checkMax`. -/
def addInc (env : Env) (raw inc : BaseTotal) : BaseTotal :=
  ⟨fun ch => round env (raw.qty ch + inc.qty ch) 5, raw.count + inc.count⟩

/-- The displayed totals of the raw ones. -/
def display (env : Env) (unit : ObjUnit) (raw : BaseTotal) : BaseTotal :=
  ⟨fun ch => round env (raw.qty ch) (env.precision.get (unit.unit ch)), raw.count⟩

/-- `rTotal::calculate`, with the events added for each channel. -/
def calculate (env : Env) (unit : ObjUnit) (t : Total) : Total × (Channel → List EID) :=
  let t₁ := { t with past := t.present, raw := addInc env t.raw t.inc }
  let (t₂, events) := t₁.checkMax
  ({ t₂ with present := display env unit t₂.raw }, events)

/-- `rTotal::sub`, the difference of totals with a wrap at the limit taken into account. -/
def sub (sub1 sub2 : LREAL) : LREAL :=
  let result := sub1 - sub2
  if 0 ≤ result then result else -result + (maxTotalLimit - sub2)

/-! ### What one cycle does -/

section Calculate

variable (env : Env) (unit : ObjUnit) (t : Total)

@[simp] lemma calculate_past : (t.calculate env unit).1.past = t.present := rfl

@[simp] lemma calculate_inc : (t.calculate env unit).1.inc = t.inc := rfl

@[simp] lemma calculate_raw_count :
    (t.calculate env unit).1.raw.count = t.raw.count + t.inc.count := rfl

lemma checkMaxOne_fst (event : EID) (x : LREAL) :
    (checkMaxOne event x).1 = (carry maxTotalLimit x).1 := by
  rw [checkMaxOne, carry]
  split <;> rfl

/-- A channel with an event adds one event for each subtraction of the limit. -/
lemma length_checkMaxOne {event : EID} (he : event ≠ 0) (x : LREAL) :
    (checkMaxOne event x).2.length = (carry maxTotalLimit x).2 := by
  rw [checkMaxOne, carry, if_neg he]
  split <;> rfl

/-- The raw total of a channel after one cycle: add, round, wrap. -/
lemma calculate_raw_qty (ch : Channel) :
    (t.calculate env unit).1.raw.qty ch
      = (carry maxTotalLimit (round env (t.raw.qty ch + t.inc.qty ch) 5)).1 :=
  checkMaxOne_fst _ _

lemma length_calculate_events {ch : Channel} (he : t.event ch ≠ 0) :
    ((t.calculate env unit).2 ch).length
      = (carry maxTotalLimit (round env (t.raw.qty ch + t.inc.qty ch) 5)).2 :=
  length_checkMaxOne he _

end Calculate

/-! ### Differences of totals -/

/-- Without a wrap the difference is the plain one. -/
lemma sub_of_le {a b : LREAL} (h : b ≤ a) : sub a b = a - b :=
  if_pos (sub_nonneg.mpr h)

@[simp] lemma sub_same (a : LREAL) : sub a a = 0 := by simp [sub]

end Total

end Tritonn

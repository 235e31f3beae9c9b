import Mathlib

/-!
The variable store: `src/shared/types.cpp`, `src/tritonn/variable_item.h`,
`src/tritonn/data_snapshot_item.cpp`, `src/tritonn/data_snapshot.cpp` and the write path of
`src/tritonn/variable_class.cpp`.

* a `Variable` is what the store knows of a value, and a `SnapshotItem` a request to write it;
* `SnapshotItem.ofUINT` and `SnapshotItem.ofBuffer` are the two constructors the Modbus server
  uses;
* `Store.set` writes the items of a snapshot and leaves in each what became of it;
* `set_writable` says that a variable the access mask allows takes the bytes of its item.
-/

namespace Tritonn

/-- `TYPE`. -/
inductive VType where
  | undef
  | sint
  | usint
  | int
  | uint
  | dint
  | udint
  | real
  | lreal
  | strid
  deriving DecidableEq, Repr

/-- `getTypeSize`, in bytes. -/
def getTypeSize : VType → ℕ
  | .sint => 1
  | .usint => 1
  | .int => 2
  | .uint => 2
  | .dint => 4
  | .udint => 4
  | .real => 4
  | .lreal => 8
  | .strid => 4
  | .undef => 255

/-- `ACCESS_SA`. -/
def accessSA : UInt32 := 0x80000000

/-- `ACCESS_MASK_SA`. -/
def accessMaskSA : UInt32 := 0xDFFFFFFF

/-- `ACCESS_MASK_VIEWHIDE`. -/
def accessMaskViewHide : UInt32 := 0xC0000000

/-- `rVariable`: the name, in lower case, the type, the flags and the access a write needs. -/
structure Variable where
  name : String
  type : VType
  flags : UInt16
  access : UInt32
  deriving DecidableEq

namespace Variable

/-- `rVariable::isReadonly`. -/
def isReadonly (v : Variable) : Bool := v.flags &&& 0x0001 ≠ 0

/-- `rVariable::isSUWrite`. -/
def isSUWrite (v : Variable) : Bool := v.flags &&& 0x0002 ≠ 0

/-- `rVariable::isHide`. -/
def isHide (v : Variable) : Bool := v.flags &&& 0x0004 ≠ 0

/-- `rVariable::isExternal`. -/
def isExternal (v : Variable) : Bool := v.flags &&& 0x4000 ≠ 0

/-- `rVariable::isDumped`. -/
def isDumped (v : Variable) : Bool := v.flags &&& 0x8000 ≠ 0

end Variable

/-- `rSnapshotItem::Status`. -/
inductive ItemStatus where
  | undef
  | notfound
  | readonly
  | accessdenied
  | toassign
  | assigned
  | towrite
  | writed
  | error
  deriving DecidableEq, Repr

/-- `rSnapshotItem`: the variable, if it was found, the status and the bytes of the value. -/
structure SnapshotItem where
  var : Option Variable
  status : ItemStatus
  data : List UInt8

/-- The bytes of a number in the order of the host, the lowest first. -/
def leBytes : ℕ → ℕ → List UInt8
  | 0, _ => []
  | w + 1, n => UInt8.ofNat (n % 256) :: leBytes w (n / 256)

/-- The number whose bytes are given, the lowest first. -/
def leNat (b : List UInt8) : ℕ := b.foldr (fun x n => x.toNat + 256 * n) 0

lemma length_leBytes (w n : ℕ) : (leBytes w n).length = w := by
  induction w generalizing n with
  | zero => rfl
  | succ w ih => rw [leBytes, List.length_cons, ih]

/-- The bytes of a number are those of its remainder. -/
theorem leNat_leBytes (w n : ℕ) : leNat (leBytes w n) = n % 256 ^ w := by
  induction w generalizing n with
  | zero => rw [pow_zero, Nat.mod_one]; rfl
  | succ w ih =>
      have hcons : leNat (leBytes (w + 1) n) = n % 256 + 256 * leNat (leBytes w (n / 256)) := by
        rw [leBytes, leNat, List.foldr_cons, UInt8.toNat_ofNat', Nat.mod_mod]
        rfl
      rw [hcons, ih, pow_succ', Nat.mod_mul]

lemma leNat_lt (b : List UInt8) : leNat b < 256 ^ b.length := by
  induction b with
  | nil => exact Nat.one_pos
  | cons x b ih =>
      have hx := x.toNat_lt
      have hcons : leNat (x :: b) = x.toNat + 256 * leNat b := rfl
      rw [hcons, List.length_cons, pow_succ']
      omega

/-- A list of bytes is that of its number. -/
theorem leBytes_leNat (b : List UInt8) : leBytes b.length (leNat b) = b := by
  induction b with
  | nil => rfl
  | cons x b ih =>
      have hx := x.toNat_lt
      have hcons : leNat (x :: b) = x.toNat + 256 * leNat b := rfl
      have hmod : leNat (x :: b) % 256 = x.toNat := by omega
      have hdiv : leNat (x :: b) / 256 = leNat b := by omega
      rw [List.length_cons, leBytes, hmod, hdiv, ih, UInt8.ofNat_toNat]

/-- The bits of a positive integer as a binary floating point number with `mant` bits behind the
point, which the integer needs not exceed. -/
def floatBits (mant bias n : ℕ) : ℕ :=
  if n = 0 then 0 else (bias + n.log2) * 2 ^ mant + (n - 2 ^ n.log2) * 2 ^ (mant - n.log2)

/-- The value of a `UINT` in the representation of a type, `static_cast` into `m_data`. -/
def castUINT (type : VType) (val : UInt16) : List UInt8 :=
  match type with
  | .real => leBytes 4 (floatBits 23 127 val.toNat)
  | .lreal => leBytes 8 (floatBits 52 1023 val.toNat)
  | _ => leBytes (getTypeSize type) val.toNat

namespace SnapshotItem

/-- `rSnapshotItem(var, UINT)`. -/
def ofUINT (var : Option Variable) (val : UInt16) : SnapshotItem :=
  match var with
  | none => ⟨none, .notfound, []⟩
  | some v =>
      if v.type = .undef then ⟨some v, .error, List.replicate 8 0⟩
      else ⟨some v, .towrite, castUINT v.type val⟩

/-- `rSnapshotItem(var, void *)`, from the bytes that the buffer holds. -/
def ofBuffer (var : Option Variable) (buf : List UInt8) : SnapshotItem :=
  match var with
  | none => ⟨none, .undef, []⟩
  | some v => ⟨some v, .towrite, buf.take (getTypeSize v.type)⟩

end SnapshotItem

/-- `rSnapshot`: the items and the access with which they are written. -/
structure Snapshot where
  list : List SnapshotItem
  access : UInt32

/-- `rSnapshot::add` of an item that is built. -/
def Snapshot.add (s : Snapshot) (item : SnapshotItem) : Snapshot :=
  { s with list := s.list ++ [item] }

/-- `rVariableClass`: the variables, the memory behind the local ones, the buffers in which writes
of external ones wait for their owner, and the request to save the variables. -/
structure Store where
  vars : List Variable
  pointer : String → List UInt8
  extWrite : String → List UInt8
  isWrited : String → Bool
  saveVars : Bool

namespace Store

/-- `rVariableList::find`. -/
def findVar (st : Store) (name : String) : Option Variable :=
  st.vars.find? fun v => v.name = name.toLower

/-- What `rVariableClass::set` answers to a write of a variable: the checks in their order. -/
def checkSet (access : UInt32) (v : Variable) : ItemStatus :=
  if v.isHide && (access &&& accessMaskViewHide = 0) then .notfound
  else if v.isReadonly && !(v.isSUWrite && (access &&& accessSA ≠ 0)) then .readonly
  else if v.access &&& access ≠ v.access then .accessdenied
  else .writed

/-- The bytes of an item are copied to the variable. -/
def write (st : Store) (v : Variable) (data : List UInt8) : Store :=
  { st with
    pointer := if v.isExternal then st.pointer else Function.update st.pointer v.name data
    extWrite := if v.isExternal then Function.update st.extWrite v.name data else st.extWrite
    isWrited := if v.isExternal then Function.update st.isWrited v.name true else st.isWrited
    saveVars := st.saveVars || v.isDumped }

/-- One turn of the loop of `rVariableClass::set`. -/
def setItem (st : Store) (access : UInt32) (item : SnapshotItem) : Store × SnapshotItem :=
  match item.var with
  | none => (st, item)
  | some v =>
      if item.status ≠ .towrite then (st, item)
      else if checkSet access v = .writed then
        (st.write v item.data, { item with status := .writed })
      else (st, { item with status := checkSet access v })

/-- The loop of `rVariableClass::set`. -/
def setItems (st : Store) (access : UInt32) : List SnapshotItem → Store × List SnapshotItem
  | [] => (st, [])
  | item :: items =>
      let (st₁, item₁) := st.setItem access item
      let (st₂, items₂) := st₁.setItems access items
      (st₂, item₁ :: items₂)

/-- `rVariableClass::set`. -/
def set (st : Store) (s : Snapshot) : Store × Snapshot :=
  let (st₁, items) := st.setItems s.access s.list
  (st₁, { s with list := items })

/-- A write of the variable with the access `access` is allowed. -/
def Writable (access : UInt32) (v : Variable) : Prop := checkSet access v = .writed

/-- A snapshot of one item that is ready to be written, for a writable variable. -/
lemma set_writable (st : Store) {access : UInt32} {v : Variable} (hv : Writable access v)
    (data : List UInt8) :
    st.set ⟨[⟨some v, .towrite, data⟩], access⟩
      = (st.write v data, ⟨[⟨some v, .writed, data⟩], access⟩) := by
  simp [set, setItems, setItem, show checkSet access v = .writed from hv]

end Store

end Tritonn

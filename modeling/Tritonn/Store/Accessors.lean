import Tritonn.Store.Printed

/-!
The accessors of an item that was read: `SNAPSHOT_GET`, `getBuffer` and `getValueString` of
`src/tritonn/data_snapshot_item.cpp`.

* `SnapshotItem.getValue` are the typed accessors, one for each type, and
  `SnapshotItem.getBuffer` is `getBuffer`;
* `IsSnapshot` is the property of an item that was read and of the store at a later time: all
  accessors return the value that was captured;
* `isSnapshot_iff` says that it holds if and only if the variable is no `STRID` and the text of its
  present value shows the number that was captured;
* `isSnapshot_fails` is a variable that was changed after it was read.
-/

namespace Tritonn

/-- A `static_cast` between two types, by the bytes. `c` are the conversions from and to floating
point numbers. -/
def castData (c : VType → VType → List UInt8 → List UInt8) (source target : VType)
    (data : List UInt8) : List UInt8 :=
  if source = target then data
  else if source.IsInteger ∧ target.IsInteger then
    leBytes (getTypeSize target) (source.decode data % 2 ^ 64).toNat
  else c source target data

namespace SnapshotItem

variable (c : VType → VType → List UInt8 → List UInt8)

/-- `getSizeVar`. -/
def getSizeVar (item : SnapshotItem) : ℕ := (item.var.map fun v => getTypeSize v.type).getD 0

/-- `SNAPSHOT_GET`, for the accessor of the type `x`, with the item that it leaves. `behind` are the
bytes behind `m_data`, where it finds the number of a `STRID`. -/
def getValue (behind : List UInt8) (x : VType) (item : SnapshotItem) : List UInt8 × SnapshotItem :=
  match item.var with
  | none => (List.replicate (getTypeSize x) 0, item)
  | some v =>
      if item.status ≠ .assigned ∧ item.status ≠ .writed then
        (List.replicate (getTypeSize x) 0, item)
      else if v.type = .undef then
        (List.replicate (getTypeSize x) 0, { item with status := .error })
      else (castData c v.type x (if v.type = .strid then behind else item.data), item)

/-- `getBuffer`: the bytes that are copied, unless it returns `false`. -/
def getBuffer (item : SnapshotItem) : Option (List UInt8) :=
  if item.status = .assigned then some (item.data.take item.getSizeVar) else none

end SnapshotItem

/-- The accessors of the item of the variable `v` return the value `data` when the store is `st`,
the string a text that denotes its number, which is the one that the accessor of the type of the
variable returns. -/
structure IsSnapshot (c : VType → VType → List UInt8 → List UInt8) (text : TextNumbers)
    (v : Variable) (data : List UInt8) (item : SnapshotItem) (st : VarStore) : Prop where
  typed : ∀ behind x, item.getValue c behind x = (castData c v.type x data, item)
  buffer : item.getBuffer = some (data.take (getTypeSize v.type))
  string : denoted (item.getValueString text.printf st) = some (v.type.number data)
  same : ∀ behind, denoted (item.getValueString text.printf st) =
    some (v.type.number (item.getValue c behind v.type).1)

variable {c : VType → VType → List UInt8 → List UInt8} {v : Variable}

/-- What a read leaves of an item that was to be assigned. -/
lemma getItem_assigned {st : VarStore} {access : UInt32} {raw : SnapshotItem}
    (hvar : raw.var = some v) (hstatus : raw.status = .toassign)
    (hget : (st.getItem access raw).status = .assigned) :
    st.getItem access raw = ⟨some v, .assigned, st.value v⟩ := by
  rw [VarStore.getItem, hvar] at hget ⊢
  simp only [hstatus, ne_eq, not_true_eq_false, if_false] at hget ⊢
  split_ifs at hget ⊢
  rfl

/-- The texts show the present value. -/
lemma denoted_getValueString (text : TextNumbers) (item : SnapshotItem) (hvar : item.var = some v)
    (hstatus : item.status = .assigned) (st : VarStore) :
    denoted (item.getValueString text.printf st) = v.type.shown (st.value v) := by
  rw [SnapshotItem.getValueString, hvar]
  simp only [hstatus, ne_eq, not_true_eq_false, false_and, if_false]
  by_cases hundef : v.type = .undef
  · rw [if_pos hundef, hundef]
    rfl
  · rw [if_neg hundef]
    exact denoted_format v.type (st.value v)

lemma getValue_assigned (hundef : v.type ≠ .undef) (behind data : List UInt8) (x : VType) :
    SnapshotItem.getValue c behind x ⟨some v, .assigned, data⟩ =
      (castData c v.type x (if v.type = .strid then behind else data),
        ⟨some v, .assigned, data⟩) := by
  rw [SnapshotItem.getValue]
  exact if_neg hundef

/-- The accessors of an item that was read return the captured value if and only if the variable is
no `STRID` and the text of its present value shows the captured number. -/
theorem isSnapshot_iff (c : VType → VType → List UInt8 → List UInt8) (text : TextNumbers)
    {st : VarStore} {access : UInt32} {raw : SnapshotItem} (hvar : raw.var = some v)
    (hstatus : raw.status = .toassign) (hget : (st.getItem access raw).status = .assigned)
    (later : VarStore) :
    IsSnapshot c text v (st.value v) (st.getItem access raw) later ↔
      v.type ≠ .strid ∧ v.type.shown (later.value v) = some (v.type.number (st.value v)) := by
  rw [getItem_assigned hvar hstatus hget]
  have htext := denoted_getValueString text ⟨some v, .assigned, st.value v⟩ rfl rfl later
  constructor
  · intro h
    refine ⟨fun hstrid => ?_, htext.symm.trans h.string⟩
    -- the accessor reads what lies behind the data
    have hbehind := congrArg Prod.fst (h.typed (0 :: st.value v) .strid)
    rw [getValue_assigned (by rw [hstrid]; decide), if_pos hstrid, hstrid] at hbehind
    exact List.cons_ne_self 0 (st.value v) hbehind
  · rintro ⟨hstrid, hshown⟩
    have hundef : v.type ≠ .undef := by
      intro hundef
      rw [hundef] at hshown
      exact absurd hshown (Option.some_ne_none _).symm
    have hvalue : ∀ behind x, SnapshotItem.getValue c behind x ⟨some v, .assigned, st.value v⟩ =
        (castData c v.type x (st.value v), ⟨some v, .assigned, st.value v⟩) := by
      intro behind x
      rw [getValue_assigned hundef, if_neg hstrid]
    refine ⟨hvalue, rfl, htext.trans hshown, fun behind => ?_⟩
    rw [hvalue, castData, if_pos rfl]
    exact htext.trans hshown

/-- A store in which the variable `usintVar` has the value `n`. -/
def usintStore (n : UInt8) : VarStore where
  vars := [usintVar]
  pointer _ := [n]
  extWrite _ := []
  isWrited _ := false
  saveVars := false
  extRead _ := []

/-- A variable that keeps its value, by `isSnapshot_iff`. -/
theorem isSnapshot_iff_kept :
    IsSnapshot (fun _ _ data => data) noNumbers usintVar [7]
      ((usintStore 7).getItem 0 ⟨some usintVar, .toassign, []⟩) (usintStore 7) :=
  (isSnapshot_iff (fun _ _ data => data) noNumbers (v := usintVar) rfl rfl rfl (usintStore 7)).mpr
    ⟨by decide, rfl⟩

/-- A variable that is 7 when it is read and 8 afterwards. -/
theorem isSnapshot_fails :
    ¬ ∀ (c : VType → VType → List UInt8 → List UInt8) (text : TextNumbers) (v : Variable)
      (st later : VarStore) (access : UInt32) (raw : SnapshotItem), raw.var = some v →
      raw.status = .toassign → (st.getItem access raw).status = .assigned →
      IsSnapshot c text v (st.value v) (st.getItem access raw) later := by
  intro h
  have hsnapshot := h (fun _ _ data => data) noNumbers usintVar (usintStore 7) (usintStore 8) 0
    ⟨some usintVar, .toassign, []⟩ rfl rfl rfl
  have hshown : denoted (SnapshotItem.getValueString noNumbers.printf (usintStore 8)
      ((usintStore 7).getItem 0 ⟨some usintVar, .toassign, []⟩)) = some (.fin 8) :=
    denoted_getValueString (v := usintVar) noNumbers _ rfl rfl _
  have hcaptured : usintVar.type.number ((usintStore 7).value usintVar) = .fin 7 := rfl
  have hboth := hshown.symm.trans hsnapshot.string
  rw [hcaptured] at hboth
  exact absurd (Extended.fin.inj (Option.some.inj hboth)) (by norm_num)

end Tritonn

import Tritonn.Lib.Keyed
import Tritonn.Lib.Updates
import Tritonn.Store.Variable

/-!
Access control of the variable store: `rVariableClass::get` and `rVariableClass::set` over whole
snapshots.

* `VarStore` is the store with the values of the external variables that clients read, and
  `VarStore.get` is `rVariableClass::get`;
* `Allowed` says in words of the flags which variables the access mask allows to write, and
  `allowed_iff` that these are the ones that `Store.set` writes;
* `carried` is the list of the writes that `Store.set` carries out (`set_fst`), and `answer` what
  it makes of an item (`set_list`);
* `SetControlled` and `GetControlled` are the properties, which `access_controlled` proves for every
  store, every snapshot and every mask; `get_hidden` says the same of `get` as a statement about
  two stores.
-/

namespace Tritonn

open Updates (updates written)

/-! ### Reading -/

/-- `rVariableClass` with the buffers `m_read` of the external variables. -/
structure VarStore extends Store where
  extRead : String → List UInt8

namespace VarStore

/-- The bytes that a read of the variable copies. -/
def value (st : VarStore) (v : Variable) : List UInt8 :=
  if v.isExternal then st.extRead v.name else st.pointer v.name

/-- One turn of the loop of `rVariableClass::get`. -/
def getItem (st : VarStore) (access : UInt32) (item : SnapshotItem) : SnapshotItem :=
  match item.var with
  | none => item
  | some v =>
      if item.status ≠ .toassign then item
      else if v.isHide && (access &&& accessMaskViewHide = 0) then { item with status := .notfound }
      else { item with status := .assigned, data := st.value v }

/-- `rVariableClass::get`. -/
def get (st : VarStore) (s : Snapshot) : Snapshot :=
  { s with list := s.list.map (st.getItem s.access) }

end VarStore

/-! ### The variables of a store -/

/-- `rVariableList::add`: a variable whose name is there is not added. -/
def Store.add (st : Store) (v : Variable) : Store :=
  if st.findVar v.name = none then
    { st with vars := st.vars ++ [{ v with name := v.name.toLower }] }
  else st

/-- The names of the variables differ. -/
def Store.Distinct (st : Store) : Prop := (st.vars.map Variable.name).Nodup

/-- The items of the snapshot are about variables of the store. -/
def Snapshot.Of (s : Snapshot) (st : Store) : Prop :=
  ∀ item ∈ s.list, ∀ v, item.var = some v → v ∈ st.vars

lemma Store.add_distinct {st : Store} (h : st.Distinct) (v : Variable) : (st.add v).Distinct := by
  rw [Store.add]
  split_ifs with hfind
  · rw [findVar, Keyed.find_eq_none_iff] at hfind
    exact Keyed.nodup_concat h hfind
  · exact h

/-- Variables of the store with one name are the same. -/
lemma Store.Distinct.eq {st : Store} (h : st.Distinct) {v w : Variable} (hv : v ∈ st.vars)
    (hw : w ∈ st.vars) (hn : v.name = w.name) : v = w :=
  Keyed.eq_of_key h hv hw hn

/-! ### Writing -/

/-- The access mask allows to write the variable: it is not hidden, or the mask allows to see hidden
variables; it is not read-only, or the super-user may write it and the mask is his; and the mask has
all the access that the variable needs. -/
def Allowed (access : UInt32) (v : Variable) : Prop :=
  (v.isHide = true → access &&& accessMaskViewHide ≠ 0) ∧
    (v.isReadonly = true → v.isSUWrite = true ∧ access &&& accessSA ≠ 0) ∧
    v.access &&& access = v.access

instance (access : UInt32) (v : Variable) : Decidable (Allowed access v) :=
  inferInstanceAs (Decidable (_ ∧ _ ∧ _))

namespace Store

lemma allowed_iff {access : UInt32} {v : Variable} : Allowed access v ↔ Writable access v := by
  rw [Writable, checkSet, Allowed]
  cases v.isHide <;> cases v.isReadonly <;> cases v.isSUWrite <;>
    by_cases h1 : access &&& accessMaskViewHide = 0 <;>
    by_cases h2 : access &&& accessSA = 0 <;>
    by_cases h3 : v.access &&& access = v.access <;> simp [h1, h2, h3]

/-- The writes that `rVariableClass::set` carries out. -/
def carried (access : UInt32) (items : List SnapshotItem) : List (Variable × List UInt8) :=
  items.filterMap fun item =>
    match item.var with
    | none => none
    | some v => if item.status = .towrite ∧ Allowed access v then some (v, item.data) else none

/-- What `rVariableClass::set` makes of an item. -/
def answer (access : UInt32) (item : SnapshotItem) : SnapshotItem :=
  match item.var with
  | none => item
  | some v => if item.status = .towrite then { item with status := checkSet access v } else item

lemma setItem_eq (st : Store) (access : UInt32) (item : SnapshotItem) :
    st.setItem access item
      = ((carried access [item]).foldl (fun st w => st.write w.1 w.2) st, answer access item) := by
  rw [setItem, answer, carried]
  cases hv : item.var with
  | none => simp [hv]
  | some v =>
      by_cases ht : item.status = .towrite
      · by_cases hw : checkSet access v = .writed
        · have ha : Allowed access v := allowed_iff.mpr hw
          simp [hv, ht, hw, ha]
        · have ha : ¬ Allowed access v := fun h => hw (allowed_iff.mp h)
          simp [hv, ht, hw, ha]
      · simp [hv, ht]

lemma setItems_eq (st : Store) (access : UInt32) (items : List SnapshotItem) :
    st.setItems access items
      = ((carried access items).foldl (fun st w => st.write w.1 w.2) st,
          items.map (answer access)) := by
  induction items generalizing st with
  | nil => rfl
  | cons item items ih =>
      have hcons : carried access (item :: items)
          = carried access [item] ++ carried access items := by
        simp only [carried, ← List.filterMap_append, List.singleton_append]
      rw [setItems, setItem_eq, hcons, List.foldl_append, List.map_cons]
      simp only [ih]

/-- `rVariableClass::set` carries the writes out in their order. -/
lemma set_fst (st : Store) (s : Snapshot) :
    (st.set s).1 = (carried s.access s.list).foldl (fun st w => st.write w.1 w.2) st := by
  rw [set, setItems_eq]

lemma set_list (st : Store) (s : Snapshot) :
    (st.set s).2.list = s.list.map (answer s.access) := by
  rw [set, setItems_eq]

/-! ### The cells of the variables -/

/-- The bytes that a write of the variable replaces: the buffer in which it waits for the owner, if
the variable is external. -/
def stored (st : Store) (v : Variable) : List UInt8 :=
  if v.isExternal then st.extWrite v.name else st.pointer v.name

/-- The data of the items that are to be written to the variable and may be, in their order. -/
def writesTo (access : UInt32) (items : List SnapshotItem) (v : Variable) : List (List UInt8) :=
  items.filterMap fun item =>
    if item.var = some v ∧ item.status = .towrite ∧ Allowed access v then some item.data else none

/-- The writes of the local variables, or of the external ones, by their names. -/
def cells (external : Bool) (ws : List (Variable × List UInt8)) : List (String × List UInt8) :=
  (ws.filter fun w => w.1.isExternal == external).map fun w => (w.1.name, w.2)

lemma foldl_write (st : Store) (ws : List (Variable × List UInt8)) :
    (ws.foldl (fun st w => st.write w.1 w.2) st).pointer = updates st.pointer (cells false ws) ∧
      (ws.foldl (fun st w => st.write w.1 w.2) st).extWrite
        = updates st.extWrite (cells true ws) ∧
      (ws.foldl (fun st w => st.write w.1 w.2) st).isWrited
        = updates st.isWrited ((cells true ws).map fun c => (c.1, true)) := by
  induction ws generalizing st with
  | nil => exact ⟨rfl, rfl, rfl⟩
  | cons w ws ih =>
      obtain ⟨h1, h2, h3⟩ := ih (st.write w.1 w.2)
      rw [List.foldl_cons, h1, h2, h3]
      cases hw : w.1.isExternal <;> simp [cells, write, hw]

/-- What is written to the cell of a variable is what the items for the variable carry. -/
lemma written_cells {st : Store} (hst : st.Distinct) (access : UInt32) {items : List SnapshotItem}
    (hitems : ∀ item ∈ items, ∀ v, item.var = some v → v ∈ st.vars) {v : Variable}
    (hv : v ∈ st.vars) :
    written (cells v.isExternal (carried access items)) v.name = writesTo access items v := by
  induction items with
  | nil => rfl
  | cons item items ih =>
      obtain ⟨hitem, hitems⟩ := List.forall_mem_cons.mp hitems
      have ih := ih hitems
      rw [carried, List.filterMap_cons, writesTo, List.filterMap_cons, ← carried, ← writesTo]
      cases hvar : item.var with
      | none => simpa using ih
      | some w =>
          by_cases hw : item.status = .towrite ∧ Allowed access w
          · simp only [if_pos hw, Option.some.injEq]
            by_cases hwv : w = v
            · subst hwv
              simp only [true_and, if_pos hw]
              simp [cells, Updates.written_cons, ← ih]
            · -- Another variable has another name.
              have hname : w.name ≠ v.name := fun hn => hwv (hst.eq (hitem w hvar) hv hn)
              rw [if_neg (fun h => hwv h.1), ← ih]
              cases hext : w.isExternal == v.isExternal <;>
                simp [cells, hext, Updates.written_cons, hname]
          · have hw' : ¬ (some w = some v ∧ item.status = .towrite ∧ Allowed access v) := by
              rintro ⟨hwv, h⟩
              cases hwv
              exact hw h
            simpa only [if_neg hw, if_neg hw'] using ih

/-! ### The properties -/

/-- What `rVariableClass::set` is to do to a store and a snapshot. -/
structure SetControlled (st : Store) (s : Snapshot) (st' : Store) (s' : Snapshot) : Prop where
  /-- A variable holds what the last allowed item for it carries, and is unchanged without one. -/
  value : ∀ v ∈ st.vars, st'.stored v = (writesTo s.access s.list v).getLast?.getD (st.stored v)
  /-- A write of an external variable waits for its owner. -/
  pending : ∀ v ∈ st.vars, v.isExternal = true →
    (st'.isWrited v.name = true ↔ st.isWrited v.name = true ∨ writesTo s.access s.list v ≠ [])
  /-- Nothing but the cells of the variables that are written changes. -/
  frame : ∀ v ∈ st.vars, writesTo s.access s.list v = [] →
    st'.pointer v.name = st.pointer v.name ∧ st'.extWrite v.name = st.extWrite v.name ∧
      st'.isWrited v.name = st.isWrited v.name
  /-- An item that was to be written ends written exactly when it is allowed, and the others stay
  as they are. -/
  status : ∀ (i : ℕ) (item : SnapshotItem), s.list[i]? = some item →
    ∃ item' : SnapshotItem, s'.list[i]? = some item' ∧
      item'.var = item.var ∧ item'.data = item.data ∧
      (item.status = .towrite →
        (item'.status = .writed ↔ ∃ v, item.var = some v ∧ Allowed s.access v)) ∧
      (item.status ≠ .towrite → item' = item)
  /-- The writes that are carried out are those of the items that end written, in their order. -/
  carriedOut : st' = ((s.list.zip s'.list).filterMap fun p =>
      if p.1.status = .towrite ∧ p.2.status = .writed then p.1.var.map fun v => (v, p.1.data)
      else none).foldl (fun st w => st.write w.1 w.2) st

lemma answer_var (access : UInt32) (item : SnapshotItem) :
    (answer access item).var = item.var ∧ (answer access item).data = item.data := by
  rw [answer]
  split
  · exact ⟨rfl, rfl⟩
  · split_ifs <;> exact ⟨rfl, rfl⟩

lemma answer_writed {access : UInt32} {item : SnapshotItem} (h : item.status = .towrite) :
    (answer access item).status = .writed ↔ ∃ v, item.var = some v ∧ Allowed access v := by
  rw [answer]
  cases hvar : item.var with
  | none => simp [h]
  | some v => simp [h, allowed_iff, Writable]

lemma answer_of_ne {access : UInt32} {item : SnapshotItem} (h : item.status ≠ .towrite) :
    answer access item = item := by
  rw [answer]
  split
  · rfl
  · rw [if_neg h]

/-- The items that end written are the writes that are carried out. -/
lemma carried_eq (access : UInt32) (items : List SnapshotItem) :
    ((items.zip (items.map (answer access))).filterMap fun p =>
      if p.1.status = .towrite ∧ p.2.status = .writed then p.1.var.map fun v => (v, p.1.data)
      else none) = carried access items := by
  induction items with
  | nil => rfl
  | cons item items ih =>
      rw [List.map_cons, List.zip_cons_cons, List.filterMap_cons, ih, carried, carried,
        List.filterMap_cons]
      by_cases ht : item.status = .towrite
      · simp only [ht, true_and, answer_writed ht]
        cases hvar : item.var with
        | none => simp
        | some v => by_cases ha : Allowed access v <;> simp [ha]
      · simp only [ht, false_and, if_false]
        cases hvar : item.var <;> simp

lemma updates_of_written_eq_nil {α : Type} {f : String → α} {l : List (String × α)} {k : String}
    (h : written l k = []) : updates f l k = f k := by
  rw [Updates.updates_apply, h]
  rfl

/-- Nothing is written under the name of a variable without an allowed item for it. -/
lemma written_cells_eq_nil {st : Store} (hst : st.Distinct) {access : UInt32}
    {items : List SnapshotItem}
    (hitems : ∀ item ∈ items, ∀ v, item.var = some v → v ∈ st.vars) {v : Variable}
    (hv : v ∈ st.vars) (h : writesTo access items v = []) (external : Bool) :
    written (cells external (carried access items)) v.name = [] := by
  by_cases hext : external = v.isExternal
  · rw [hext, written_cells hst access hitems hv, h]
  · -- A variable of this name is the variable itself, which is not of this kind.
    rw [written, List.filterMap_eq_nil_iff]
    intro c hc
    obtain ⟨w, hw, rfl⟩ := List.mem_map.mp hc
    obtain ⟨hw, hkind⟩ := List.mem_filter.mp hw
    refine if_neg fun hname => hext ?_
    obtain ⟨item, hitem, hcar⟩ := List.mem_filterMap.mp hw
    cases hvar : item.var with
    | none => simp [hvar] at hcar
    | some u =>
        simp only [hvar] at hcar
        split_ifs at hcar
        cases hcar
        have := hst.eq (hitems item hitem u hvar) hv hname
        rw [← this]
        exact (eq_of_beq hkind).symm

/-- `rVariableClass::set` controls the access to the variables of a store. -/
theorem set_controlled {st : Store} (hst : st.Distinct) {s : Snapshot} (hs : s.Of st) :
    SetControlled st s (st.set s).1 (st.set s).2 := by
  obtain ⟨hp, he, hw⟩ := foldl_write st (carried s.access s.list)
  rw [← set_fst] at hp he hw
  constructor
  · intro v hv
    have hcells := written_cells hst s.access hs hv
    cases hext : v.isExternal <;> rw [hext] at hcells <;>
      simp [stored, hext, hp, he, Updates.updates_apply, hcells]
  · intro v hv hext
    have hcells := written_cells hst s.access hs hv
    rw [hext] at hcells
    have hflag : written ((cells true (carried s.access s.list)).map fun c => (c.1, true)) v.name
        = (writesTo s.access s.list v).map fun _ => true := by
      rw [← hcells, written, written, List.filterMap_map, List.map_filterMap]
      refine List.filterMap_congr fun c _ => ?_
      by_cases hc : c.1 = v.name <;> simp [hc]
    rw [hw, Updates.updates_apply, hflag, List.getLast?_map]
    cases hlast : (writesTo s.access s.list v).getLast? with
    | none => simp [List.getLast?_eq_none_iff.mp hlast]
    | some d =>
        have hne : writesTo s.access s.list v ≠ [] := fun h0 => by simp [h0] at hlast
        simp [hne]
  · intro v hv hnone
    have hnil := written_cells_eq_nil hst hs hv hnone
    refine ⟨?_, ?_, ?_⟩
    · rw [hp, updates_of_written_eq_nil (hnil false)]
    · rw [he, updates_of_written_eq_nil (hnil true)]
    · rw [hw]
      refine updates_of_written_eq_nil ?_
      have := hnil true
      rw [written, List.filterMap_eq_nil_iff] at this ⊢
      intro c hc
      obtain ⟨c', hc', rfl⟩ := List.mem_map.mp hc
      have := this c' hc'
      by_cases hn : c'.1 = v.name <;> simp_all
  · intro i item hi
    refine ⟨answer s.access item, by rw [set_list, List.getElem?_map, hi]; rfl,
      (answer_var _ _).1, (answer_var _ _).2, answer_writed, answer_of_ne⟩
  · rw [set_list, carried_eq, set_fst]

end Store

/-! ### Reading hidden variables -/

namespace VarStore

/-- What `rVariableClass::get` is to do to a snapshot: an item for a hidden variable keeps its data
unless the mask allows to see hidden variables, and is not found if it was to be assigned. -/
structure GetControlled (s s' : Snapshot) : Prop where
  hidden : ∀ (i : ℕ) (item : SnapshotItem) (v : Variable), s.list[i]? = some item →
    item.var = some v → v.isHide = true → s.access &&& accessMaskViewHide = 0 →
    ∃ item' : SnapshotItem, s'.list[i]? = some item' ∧ item'.data = item.data ∧
      (item.status = .toassign → item'.status = .notfound)

lemma getItem_hidden (st : VarStore) {access : UInt32} {item : SnapshotItem} {v : Variable}
    (hv : item.var = some v) (hhide : v.isHide = true) (hacc : access &&& accessMaskViewHide = 0) :
    st.getItem access item
      = if item.status = .toassign then { item with status := .notfound } else item := by
  rw [getItem, hv]
  by_cases h : item.status = .toassign <;> simp [h, hhide, hacc]

theorem get_controlled (st : VarStore) (s : Snapshot) : GetControlled s (st.get s) := by
  refine ⟨fun i item v hi hv hhide hacc => ?_⟩
  refine ⟨st.getItem s.access item, by rw [get, List.getElem?_map, hi]; rfl, ?_⟩
  rw [getItem_hidden st hv hhide hacc]
  by_cases h : item.status = .toassign <;> simp [h]

/-- Two stores that differ in the values of hidden variables only give a client that may not see
hidden variables the same answer. -/
theorem get_hidden (st st' : VarStore) (s : Snapshot) (hacc : s.access &&& accessMaskViewHide = 0)
    (h : ∀ item ∈ s.list, ∀ v, item.var = some v → v.isHide = false → st.value v = st'.value v) :
    st.get s = st'.get s := by
  rw [get, get]
  congr 1
  refine List.map_congr_left fun item hitem => ?_
  rw [getItem, getItem]
  cases hv : item.var with
  | none => rfl
  | some v =>
      cases hhide : v.isHide with
      | true => simp [hhide, hacc]
      | false => simp [h item hitem v hv hhide]

end VarStore

/-- For every store whose variables have different names, every snapshot of its variables and every
access mask, `rVariableClass::set` and `rVariableClass::get` control the access to the variables. -/
theorem access_controlled (st : VarStore) (hst : st.Distinct) (s : Snapshot)
    (hs : s.Of st.toStore) :
    Store.SetControlled st.toStore s (st.set s).1 (st.set s).2 ∧
      VarStore.GetControlled s (st.get s) :=
  ⟨Store.set_controlled hst hs, VarStore.get_controlled st s⟩

/-- A store of three variables: a hidden one, one that can be read only, and one that needs access
to be written. -/
def guardedStore : VarStore where
  vars := [⟨"hidden", .uint, 0x0004, 0⟩, ⟨"fixed", .uint, 0x0001, 0⟩, ⟨"open", .uint, 0, 1⟩]
  pointer name := if name = "hidden" then [9, 0] else [7, 0]
  extWrite _ := []
  isWrited _ := false
  saveVars := false
  extRead _ := []

/-- The client with the access that is needed writes all of them, the last one twice, and reads the
hidden one and the last. -/
def guardedItems : Snapshot where
  list := [⟨some ⟨"hidden", .uint, 0x0004, 0⟩, .towrite, [1, 0]⟩,
    ⟨some ⟨"open", .uint, 0, 1⟩, .towrite, [2, 0]⟩,
    ⟨some ⟨"fixed", .uint, 0x0001, 0⟩, .towrite, [3, 0]⟩,
    ⟨some ⟨"open", .uint, 0, 1⟩, .towrite, [4, 0]⟩,
    ⟨some ⟨"hidden", .uint, 0x0004, 0⟩, .toassign, []⟩,
    ⟨some ⟨"open", .uint, 0, 1⟩, .toassign, []⟩]
  access := 1

example : ((guardedStore.set guardedItems).2.list.map SnapshotItem.status,
    (guardedStore.set guardedItems).1.pointer "open", (guardedStore.get guardedItems).list.map
      SnapshotItem.data) =
    ([.notfound, .writed, .readonly, .writed, .toassign, .toassign], [4, 0],
      [[1, 0], [2, 0], [3, 0], [4, 0], [], [7, 0]]) := by decide

/-- Two writes are carried out and two denied, and only the last variable is read. -/
theorem access_controlled_hidden :
    Store.SetControlled guardedStore.toStore guardedItems (guardedStore.set guardedItems).1
        (guardedStore.set guardedItems).2 ∧
      VarStore.GetControlled guardedItems (guardedStore.get guardedItems) := by
  refine access_controlled guardedStore ?_ guardedItems ?_
  · simp [Store.Distinct, guardedStore]
  · simp [Snapshot.Of, guardedStore, guardedItems]

end Tritonn

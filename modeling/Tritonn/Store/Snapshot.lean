import Tritonn.Store.Accessors

/-!
Snapshots from their first item on: `rSnapshot::add` of `src/tritonn/data_snapshot.cpp`, with the
constructors of `src/tritonn/data_snapshot_item.cpp`, before `rVariableClass::get` and
`rVariableClass::set`.

* `SnapshotItem.assign` are the nine typed constructors (`assign_uint` is the one of a `UINT`),
  `SnapshotItem.ofMemory` is the one of a buffer, and `AddCall.item` the item of any call of `add`;
  all of them are built in a memory with some contents;
* `Snapshot.adds` is any sequence of calls, and `adds_list` its items;
* `Final` is the property of a sequence of calls, for any two contents of the memory;
* `final_iff` says that it holds if and only if each of the calls is `Fine`;
* `final_fails` is the read of an unknown name.
-/

namespace Tritonn

/-! ### The constructors -/

namespace SnapshotItem

/-- `rSnapshotItem(var, val)` for a value of the type `source`, in a memory that held `raw`. -/
def assign (c : VType → VType → List UInt8 → List UInt8) (raw : SnapshotItem)
    (var : Option Variable) (source : VType) (val : List UInt8) : SnapshotItem :=
  match var with
  | none => ⟨none, .notfound, raw.data⟩
  | some v =>
      if v.type = .undef then cleared v
      else ⟨some v, .towrite, assignData raw v.type (castData c source v.type val)⟩

/-- `rSnapshotItem(var, void *)`, in a memory that held `raw`. -/
def ofMemory (raw : SnapshotItem) (var : Option Variable) (buf : List UInt8) : SnapshotItem :=
  match var with
  | none => raw
  | some v => ofBuffer (some v) buf

/-- A `UINT` for a variable of integers. -/
lemma assign_uint (c : VType → VType → List UInt8 → List UInt8) (raw : SnapshotItem) {v : Variable}
    (htype : v.type.IsInteger) (hstrid : v.type ≠ .strid) (val : UInt16) :
    assign c raw (some v) .uint (leBytes 2 val.toNat) = ofUINT (some v) val := by
  have hdecode : VType.uint.decode (leBytes 2 val.toNat) = val.toNat :=
    VType.decode_natCast ⟨Int.natCast_nonneg _, Int.ofNat_lt.mpr val.toNat_lt⟩
  have hbits : ((val.toNat : ℤ) % 2 ^ 64).toNat = val.toNat := by
    have := val.toNat_lt
    omega
  have hcast : castUINT v.type val = leBytes (getTypeSize v.type) val.toNat := by
    cases hv : v.type
    case real => exact absurd hv htype.2.1
    case lreal => exact absurd hv htype.2.2
    all_goals rfl
  rw [assign, ofUINT, if_neg htype.1, if_neg htype.1, assignData, if_neg hstrid, castData, hcast]
  by_cases huint : VType.uint = v.type
  · rw [if_pos huint, ← huint]
    rfl
  · rw [if_neg huint, if_pos ⟨by decide, htype⟩, hdecode, hbits]

end SnapshotItem

/-- What is added with a name: a read, or a write of a typed value, of a text or of a buffer. -/
inductive AddKind where
  | read
  | typed (source : VType) (val : List UInt8)
  | text (val : List UInt8)
  | buffer (buf : List UInt8)

/-- A call of `rSnapshot::add`. -/
structure AddCall where
  name : String
  kind : AddKind

/-- The conversions of the language and of the library that the constructors use. -/
structure AddEnv where
  cast : VType → VType → List UInt8 → List UInt8
  text : TextNumbers

/-- The item of a call, in a memory that held `raw`. -/
def AddCall.item (env : AddEnv) (st : VarStore) (raw : SnapshotItem) (a : AddCall) : SnapshotItem :=
  match a.kind with
  | .read => .ofVar raw (st.findVar a.name)
  | .typed source val => .assign env.cast raw (st.findVar a.name) source val
  | .text val => .ofString env.text.standard raw (st.findVar a.name) val
  | .buffer buf => .ofMemory raw (st.findVar a.name) buf

/-- The calls in their order; `mem i` is what the memory of the item number `i` held. -/
def Snapshot.adds (env : AddEnv) (st : VarStore) (mem : ℕ → SnapshotItem) :
    Snapshot → List AddCall → Snapshot
  | s, [] => s
  | s, a :: calls => adds env st mem (s.add (a.item env st (mem s.list.length))) calls

/-- The items of the calls, in their order. -/
lemma adds_list (env : AddEnv) (st : VarStore) (mem : ℕ → SnapshotItem) (s : Snapshot)
    (calls : List AddCall) :
    (s.adds env st mem calls).list =
      s.list ++ calls.mapIdx fun i a => a.item env st (mem (s.list.length + i)) := by
  induction calls generalizing s with
  | nil => simp [Snapshot.adds]
  | cons a calls ih =>
      rw [Snapshot.adds, ih, List.mapIdx_cons]
      simp only [Snapshot.add, List.append_assoc, List.length_append, List.length_singleton,
        List.singleton_append, Nat.add_zero, Nat.add_assoc, Nat.add_comm 1]

lemma adds_access (env : AddEnv) (st : VarStore) (mem : ℕ → SnapshotItem) (s : Snapshot)
    (calls : List AddCall) : (s.adds env st mem calls).access = s.access := by
  induction calls generalizing s with
  | nil => rfl
  | cons a calls ih => exact ih _

/-! ### The property -/

/-- What an item shows: the variable, the status, and the value where the status says that there is
one. -/
def SnapshotItem.observe (item : SnapshotItem) :
    Option Variable × ItemStatus × Option (List UInt8) :=
  (item.var, item.status,
    if item.status = .towrite ∨ item.status = .assigned ∨ item.status = .writed then some item.data
    else none)

/-- The snapshots show the same. -/
def Snapshot.Same (s s' : Snapshot) : Prop :=
  s.list.map SnapshotItem.observe = s'.list.map SnapshotItem.observe

/-- The snapshots of the same calls in two memories. -/
structure FinalIn (st : VarStore) (calls : List AddCall) (s s' : Snapshot) : Prop where
  aligned : s.list.map SnapshotItem.var = calls.map fun a : AddCall => st.findVar a.name
  unknown : ∀ (i : ℕ) (a : AddCall) (item : SnapshotItem), calls[i]? = some a →
    s.list[i]? = some item → st.findVar a.name = none →
    item.status = .notfound ∧ item.var = none
  get : ∀ item ∈ (st.get s).list, item.status ≠ .toassign
  set : ∀ item ∈ (st.set s).2.list, item.status ≠ .towrite
  same : s.Same s'
  sameGet : (st.get s).Same (st.get s')
  sameSet : (st.set s).2.Same (st.set s').2

/-- The statuses are final and the items belong to the calls, whatever the memory held. -/
def Final (env : AddEnv) (st : VarStore) (access : UInt32) (calls : List AddCall) : Prop :=
  ∀ mem mem', FinalIn st calls (Snapshot.adds env st mem ⟨[], access⟩ calls)
    (Snapshot.adds env st mem' ⟨[], access⟩ calls)

/-- A text for a variable of the type leaves nothing of the memory in its item: it is none that is
begun as a hexadecimal one and not finished, and a `STRID` takes no text that is not refused. -/
def Determined (type : VType) (val : List UInt8) : Prop :=
  if IsHex val then type ≠ .strid ∧ isValidHex (val.drop 2) ≠ none
  else type = .strid → Rejected .strid val

/-- The condition on a call: a name that is not found comes with a typed value, and a `STRID` takes
no typed value. -/
def Fine (st : VarStore) (a : AddCall) : Prop :=
  match st.findVar a.name, a.kind with
  | none, .typed _ _ => True
  | none, _ => False
  | some v, .typed _ _ => v.type ≠ .strid
  | some v, .text val => Determined v.type val
  | some _, _ => True

/-! ### One item -/

/-- The items of one call in two memories, for a name that stands for `var`. -/
structure FinalItem (st : VarStore) (access : UInt32) (var : Option Variable)
    (item item' : SnapshotItem) : Prop where
  aligned : item.var = var
  unknown : var = none → item.status = .notfound ∧ item.var = none
  get : (st.getItem access item).status ≠ .toassign
  set : (Store.answer access item).status ≠ .towrite
  same : item.observe = item'.observe
  sameGet : (st.getItem access item).observe = (st.getItem access item').observe
  sameSet : (Store.answer access item).observe = (Store.answer access item').observe

section MapIdx

variable {α β γ : Type*} {l : List α} {f f' : ℕ → α → β}

lemma map_mapIdx (g : β → γ) : (l.mapIdx f).map g = l.mapIdx fun i a => g (f i a) := by
  refine List.ext_getElem (by simp) fun i _ _ => ?_
  rw [List.getElem_map, List.getElem_mapIdx, List.getElem_mapIdx]

lemma map_mapIdx_eq_map_iff (g : β → γ) (h : α → γ) :
    (l.mapIdx f).map g = l.map h ↔ ∀ (i : ℕ) (hi : i < l.length), g (f i l[i]) = h l[i] := by
  have hmap : l.map h = l.mapIdx fun _ a => h a := by
    refine List.ext_getElem (by simp) fun i _ _ => ?_
    rw [List.getElem_map, List.getElem_mapIdx]
  rw [map_mapIdx, hmap, List.mapIdx_eq_mapIdx_iff]

lemma map_mapIdx_eq_iff (g : β → γ) :
    (l.mapIdx f).map g = (l.mapIdx f').map g ↔
      ∀ (i : ℕ) (hi : i < l.length), g (f i l[i]) = g (f' i l[i]) := by
  rw [map_mapIdx, map_mapIdx, List.mapIdx_eq_mapIdx_iff]

lemma forall_map_mapIdx_iff (g : β → γ) (P : γ → Prop) :
    (∀ x ∈ (l.mapIdx f).map g, P x) ↔ ∀ (i : ℕ) (hi : i < l.length), P (g (f i l[i])) := by
  rw [map_mapIdx]
  constructor
  · intro h i hi
    exact h _ (List.mem_mapIdx.mpr ⟨i, hi, rfl⟩)
  · intro h x hx
    obtain ⟨i, hi, rfl⟩ := List.mem_mapIdx.mp hx
    exact h i hi

end MapIdx

/-- The property of the snapshots is that of their items. -/
lemma finalIn_iff {st : VarStore} {access : UInt32} {calls : List AddCall}
    (f f' : ℕ → AddCall → SnapshotItem) :
    FinalIn st calls ⟨calls.mapIdx f, access⟩ ⟨calls.mapIdx f', access⟩ ↔
      ∀ (i : ℕ) (hi : i < calls.length),
        FinalItem st access (st.findVar calls[i].name) (f i calls[i]) (f' i calls[i]) := by
  have hset : ∀ g, (st.set ⟨calls.mapIdx g, access⟩).2.list =
      (calls.mapIdx g).map (Store.answer access) := fun g => Store.set_list _ _
  have hobserve : ∀ g : SnapshotItem → SnapshotItem,
      ((calls.mapIdx f).map g).map SnapshotItem.observe =
          ((calls.mapIdx f').map g).map SnapshotItem.observe ↔
        ∀ (i : ℕ) (hi : i < calls.length),
          (g (f i calls[i])).observe = (g (f' i calls[i])).observe := by
    intro g
    rw [List.map_map, List.map_map]
    exact map_mapIdx_eq_iff _
  constructor
  · rintro ⟨haligned, hunknown, hget, hset', hsame, hsameGet, hsameSet⟩ i hi
    rw [hset] at hset'
    rw [Snapshot.Same, hset, hset, hobserve] at hsameSet
    refine ⟨(map_mapIdx_eq_map_iff _ _).mp haligned i hi, fun hnone => ?_,
      (forall_map_mapIdx_iff _ _).mp hget i hi, (forall_map_mapIdx_iff _ _).mp hset' i hi,
      (map_mapIdx_eq_iff _).mp hsame i hi, (hobserve _).mp hsameGet i hi, hsameSet i hi⟩
    exact hunknown i calls[i] _ (List.getElem?_eq_getElem hi) (by simp [hi]) hnone
  · intro h
    refine ⟨(map_mapIdx_eq_map_iff _ _).mpr fun i hi => (h i hi).aligned, ?_,
      (forall_map_mapIdx_iff _ _).mpr fun i hi => (h i hi).get, ?_,
      (map_mapIdx_eq_iff _).mpr fun i hi => (h i hi).same,
      (hobserve _).mpr fun i hi => (h i hi).sameGet, ?_⟩
    · intro i a item ha hitem hnone
      obtain ⟨hi, rfl⟩ := List.getElem?_eq_some_iff.mp ha
      obtain ⟨_, rfl⟩ := List.getElem?_eq_some_iff.mp hitem
      rw [List.getElem_mapIdx]
      exact (h i hi).unknown hnone
    · rw [hset]
      exact (forall_map_mapIdx_iff _ _).mpr fun i hi => (h i hi).set
    · rw [Snapshot.Same, hset, hset, hobserve]
      exact fun i hi => (h i hi).sameSet

/-! ### The items of the calls -/

variable {st : VarStore} {access : UInt32} {v : Variable} {val : List UInt8}

lemma checkSet_ne_towrite : Store.checkSet access v ≠ .towrite := by
  rw [Store.checkSet]
  split_ifs <;> exact ItemStatus.noConfusion

/-- An item that holds nothing of the memory. -/
lemma finalItem_of_eq {item : SnapshotItem} (hvar : item.var = some v)
    (hstatus : item.status = .error ∨ item.status = .towrite) :
    FinalItem st access (some v) item item := by
  refine ⟨hvar, fun h => absurd h (Option.some_ne_none v), ?_, ?_, rfl, rfl, rfl⟩
  · have hstatus : item.status ≠ .toassign := by
      rcases hstatus with h | h <;> rw [h] <;> exact ItemStatus.noConfusion
    rw [VarStore.getItem, hvar]
    simp only [if_pos hstatus]
    exact hstatus
  · rw [Store.answer, hvar]
    by_cases htowrite : item.status = .towrite
    · simp only [if_pos htowrite]
      exact checkSet_ne_towrite
    · simp only [if_neg htowrite]
      exact htowrite

lemma getItem_ofVar (raw : SnapshotItem) :
    st.getItem access (.ofVar raw (some v)) =
      if v.isHide && (access &&& accessMaskViewHide = 0) then ⟨some v, .notfound, raw.data⟩
      else ⟨some v, .assigned, st.value v⟩ := by
  rw [VarStore.getItem]
  exact if_neg (not_not_intro rfl)

/-- The item of a read. -/
lemma finalItem_read (raw raw' : SnapshotItem) :
    FinalItem st access (some v) (.ofVar raw (some v)) (.ofVar raw' (some v)) := by
  refine ⟨rfl, fun h => absurd h (Option.some_ne_none v), ?_, ItemStatus.noConfusion, rfl, ?_, rfl⟩
  · rw [getItem_ofVar]
    split_ifs <;> exact ItemStatus.noConfusion
  · rw [getItem_ofVar, getItem_ofVar]
    split_ifs <;> rfl

/-- The item of a typed value for an unknown name. -/
lemma finalItem_notfound (raw raw' : SnapshotItem) :
    FinalItem st access none ⟨none, .notfound, raw.data⟩ ⟨none, .notfound, raw'.data⟩ :=
  ⟨rfl, fun _ => ⟨rfl, rfl⟩, ItemStatus.noConfusion, ItemStatus.noConfusion, rfl, rfl, rfl⟩

/-- Data that stay as the memory held them. -/
lemma not_finalItem_of_raw {item : SnapshotItem → SnapshotItem}
    (h : ∀ raw, item raw = ⟨some v, .towrite, raw.data.take (getTypeSize v.type)⟩) :
    ¬ ∀ raw raw', FinalItem st access (some v) (item raw) (item raw') := by
  intro hall
  have hsame := (hall ⟨none, .undef, [0]⟩ ⟨none, .undef, [1]⟩).same
  rw [h, h] at hsame
  have hdata : List.take (getTypeSize v.type) [0] = List.take (getTypeSize v.type) [(1 : UInt8)] :=
    Option.some.inj (congrArg (fun p => p.2.2) hsame)
  cases htype : v.type
  all_goals
    rw [htype] at hdata
    exact absurd hdata (by decide)

/-- A text that leaves the memory as it was. -/
lemma ofString_raw {text : TextNumbers} (h : ¬ Determined v.type val) (raw : SnapshotItem) :
    SnapshotItem.ofString text.standard raw (some v) val =
      ⟨some v, .towrite, raw.data.take (getTypeSize v.type)⟩ := by
  rw [Determined] at h
  by_cases hex : IsHex val
  · rw [if_pos hex, not_and_or, not_not, not_not] at h
    rw [IsHex] at hex
    rw [SnapshotItem.ofString, if_pos hex]
    cases hnumber : isValidHex (val.drop 2) with
    | none => rfl
    | some number =>
        have hstrid : v.type = .strid :=
          h.resolve_right fun hnone => absurd (hnumber.symm.trans hnone) (Option.some_ne_none _)
        simp only [hstrid, SnapshotItem.hexData, SnapshotItem.assignData, if_true]
  · rw [if_neg hex, Classical.not_imp] at h
    obtain ⟨hstrid, hread⟩ := h
    rw [ofString_decimal (by rw [hstrid]; decide) hex]
    cases hbits : bits v.type val with
    | none =>
        rw [bits_eq_none_iff, hstrid] at hbits
        exact absurd hbits hread
    | some n => simp only [hstrid, SnapshotItem.assignData, if_true]

/-- The item of a text that leaves nothing of the memory in it. -/
lemma ofString_determined (text : TextNumbers) (h : Determined v.type val) :
    ∃ item : SnapshotItem, item.var = some v ∧ (item.status = .error ∨ item.status = .towrite) ∧
      ∀ raw, SnapshotItem.ofString text.standard raw (some v) val = item := by
  rw [Determined] at h
  by_cases hex : IsHex val
  · rw [if_pos hex] at h
    obtain ⟨number, hnumber⟩ := Option.ne_none_iff_exists'.mp h.2
    rw [IsHex] at hex
    simp only [SnapshotItem.ofString, if_pos hex, hnumber]
    cases hdata : SnapshotItem.hexData text.standard v.type number with
    | none => exact ⟨.cleared v, rfl, .inl rfl, fun _ => rfl⟩
    | some data =>
        refine ⟨⟨some v, .towrite, data⟩, rfl, .inr rfl, fun raw => ?_⟩
        simp only [SnapshotItem.assignData, if_neg h.1]
  · rw [if_neg hex] at h
    by_cases hstrid : v.type = .strid
    · refine ⟨.cleared v, rfl, .inl rfl, fun raw => ?_⟩
      have hbits := (bits_eq_none_iff v.type val).mpr (hstrid ▸ h hstrid)
      rw [ofString_decimal (by rw [hstrid]; decide) hex, hbits]
    · rw [IsHex] at hex
      simp only [SnapshotItem.ofString, if_neg hex]
      cases hdata : SnapshotItem.decimalData text.standard v.type (val.takeWhile (· ≠ 0)) with
      | none => exact ⟨.cleared v, rfl, .inl rfl, fun _ => rfl⟩
      | some data =>
          refine ⟨⟨some v, .towrite, data⟩, rfl, .inr rfl, fun raw => ?_⟩
          simp only [SnapshotItem.assignData, if_neg hstrid]

/-- The item of a typed value. -/
lemma finalItem_assign_iff (c : VType → VType → List UInt8 → List UInt8) (source : VType) :
    (∀ raw raw', FinalItem st access (some v) (.assign c raw (some v) source val)
      (.assign c raw' (some v) source val)) ↔ v.type ≠ .strid := by
  constructor
  · intro h hstrid
    refine not_finalItem_of_raw (fun raw => ?_) h
    rw [SnapshotItem.assign, SnapshotItem.assignData, hstrid]
    rfl
  · intro hstrid raw raw'
    simp only [SnapshotItem.assign, SnapshotItem.assignData, if_neg hstrid]
    split_ifs
    · exact finalItem_of_eq rfl (.inl rfl)
    · exact finalItem_of_eq rfl (.inr rfl)

/-- The item of a text. -/
lemma finalItem_text_iff (text : TextNumbers) :
    (∀ raw raw', FinalItem st access (some v) (.ofString text.standard raw (some v) val)
      (.ofString text.standard raw' (some v) val)) ↔ Determined v.type val := by
  constructor
  · intro h
    by_contra hraw
    exact not_finalItem_of_raw (ofString_raw hraw) h
  · intro h raw raw'
    obtain ⟨item, hvar, hstatus, heq⟩ := ofString_determined text h
    rw [heq, heq]
    exact finalItem_of_eq hvar hstatus

/-- The items of a call are final in any two memories if and only if the call is fine. -/
lemma finalItem_iff (env : AddEnv) (access : UInt32) (a : AddCall) :
    (∀ raw raw', FinalItem st access (st.findVar a.name) (a.item env st raw) (a.item env st raw')) ↔
      Fine st a := by
  obtain ⟨name, kind⟩ := a
  simp only [AddCall.item, Fine]
  cases hfind : st.findVar name with
  | none =>
      -- the other constructors leave the status of the memory, or set one that is not `NOTFOUND`
      have hnot : ∀ item : SnapshotItem, item.status ≠ .notfound →
          ¬ FinalItem st access none item item :=
        fun item hstatus h => hstatus (h.unknown rfl).1
      let raw := SnapshotItem.cleared usintVar
      cases kind with
      | typed source val => exact iff_of_true finalItem_notfound trivial
      | read => exact iff_of_false (fun h => hnot _ ItemStatus.noConfusion (h raw raw)) id
      | text val => exact iff_of_false (fun h => hnot _ ItemStatus.noConfusion (h raw raw)) id
      | buffer buf => exact iff_of_false (fun h => hnot _ ItemStatus.noConfusion (h raw raw)) id
  | some v =>
      cases kind with
      | read => exact iff_of_true finalItem_read trivial
      | typed source val => exact finalItem_assign_iff env.cast source
      | text val => exact finalItem_text_iff env.text
      | buffer buf => exact iff_of_true (fun _ _ => finalItem_of_eq rfl (.inr rfl)) trivial

/-- The snapshots of the calls are final if and only if each of the calls is fine. -/
theorem final_iff (env : AddEnv) (st : VarStore) (access : UInt32) (calls : List AddCall) :
    Final env st access calls ↔ ∀ a ∈ calls, Fine st a := by
  have hadds : ∀ mem, Snapshot.adds env st mem ⟨[], access⟩ calls =
      ⟨calls.mapIdx fun i a => a.item env st (mem i), access⟩ := by
    intro mem
    have hlist := adds_list env st mem ⟨[], access⟩ calls
    simp only [List.nil_append, List.length_nil, Nat.zero_add] at hlist
    have haccess := adds_access env st mem ⟨[], access⟩ calls
    calc Snapshot.adds env st mem ⟨[], access⟩ calls
        = ⟨(Snapshot.adds env st mem ⟨[], access⟩ calls).list,
            (Snapshot.adds env st mem ⟨[], access⟩ calls).access⟩ := rfl
      _ = ⟨calls.mapIdx fun i a => a.item env st (mem i), access⟩ := by rw [hlist, haccess]
  simp only [Final, hadds, finalIn_iff]
  constructor
  · intro h a ha
    obtain ⟨i, hi, rfl⟩ := List.mem_iff_getElem.mp ha
    exact (finalItem_iff env access _).mp fun raw raw' =>
      h (fun _ => raw) (fun _ => raw') i hi
  · intro h mem mem' i hi
    exact (finalItem_iff env access _).mpr (h _ (List.getElem_mem hi)) (mem i) (mem' i)

/-- The read of a name that is not found has the status `TOASSIGN`. -/
theorem final_fails : ¬ ∀ (env : AddEnv) (st : VarStore) (access : UInt32) (calls : List AddCall),
    Final env st access calls := by
  intro h
  have hfinal := h ⟨fun _ _ data => data, noNumbers⟩ (usintStore 7) 0 [⟨"", .read⟩]
    (fun _ => .cleared usintVar) (fun _ => .cleared usintVar)
  have hunknown : (usintStore 7).findVar "" = none := by decide +kernel
  exact ItemStatus.noConfusion (hfinal.unknown 0 ⟨"", .read⟩ _ rfl rfl hunknown).1

end Tritonn

import Tritonn.Store.Access
import Tritonn.Modbus.Layout

/-!
The register image: whether the registers hold the values of the linked variables.

* `Refresher` is the Modbus server as the cycle of `rModbusTCPSlaveManager::Proccesing` sees it, and
  `Refresher.proccesing` the cycle, from the snapshot on;
* `encode` is the registers that a value takes, converted and swapped, and `Holds` says that the
  registers of a link hold a value;
* `FreshAlong` is the property: after every cycle of a run, the registers of every linked readable
  variable hold the value that it had when the cycle took its snapshot;
* `proccesing_eq` says what a cycle does, and `freshAlong_iff` for which runs the property holds;
* `freshAlong_fails` is one cycle after a variable has changed.

The bytes of a value of one type in the representation of another, the `static_cast`s of
`rSnapshotItem::getValue...`, are a parameter.
-/

namespace Tritonn

/-- The server: the swap setting, the snapshot and its links, the registers and the variables of
the data manager. -/
structure Refresher where
  swap : Swap
  snapshot : Snapshot
  modbusLink : List MapLink
  modbus : UInt16 → UInt16
  store : VarStore

/-- `rSnapshot::resetAssign`. -/
def Snapshot.resetAssign (s : Snapshot) : Snapshot :=
  { s with list := s.list.map fun item => { item with status := .toassign } }

/-- The registers whose bytes are given; a byte that is left is the low one of a register. -/
def toWords : List UInt8 → List UInt16
  | [] => []
  | [a] => [UInt16.ofNat (leNat [a])]
  | a :: b :: rest => UInt16.ofNat (leNat [a, b]) :: toWords rest

/-- `memcpy` to the registers from an address on. -/
def putWords (modbus : UInt16 → UInt16) (address : UInt16) (words : List UInt16) :
    Except Fault (UInt16 → UInt16) :=
  if address.toNat + words.length ≤ 65536 then
    .ok fun i => if address ≤ i then (words[i.toNat - address.toNat]?).getD (modbus i) else modbus i
  else .error (.reg 65536)

variable (staticCast : VType → VType → List UInt8 → List UInt8)

/-- The registers that the value of a variable of the type `native` takes: converted, if the link
has a convert type, and swapped. -/
def encode (swap : Swap) (convert native : VType) (value : List UInt8) :
    Except Fault (List UInt16) := do
  let type := if convert = .undef then native else convert
  let raw := if convert = .undef then value else staticCast native convert value
  let b ← swap.swapBuffer .reg raw 0 (getTypeSize type)
  return toWords b

/-- One turn of the loop of `Proccesing` over the links. -/
def refreshLink (swap : Swap) (items : List SnapshotItem) (modbus : UInt16 → UInt16)
    (link : MapLink) : Except Fault (UInt16 → UInt16) :=
  match items[link.item]? with
  | none => .ok modbus
  | some item =>
      if item.status ≠ .assigned then .ok modbus
      else
        match item.var with
        | none => .ok modbus
        | some v => do
            let words ← encode staticCast swap link.convert v.type item.data
            putWords (Function.update modbus link.address 0) link.address words

namespace Refresher

/-- A cycle of `Proccesing` after the requests of the clients: the snapshot is made ready to be
assigned and given to `rDataManager::set`, and the links are walked over. -/
def proccesing (s : Refresher) : Except Fault Refresher := do
  let (store, snapshot) := s.store.set s.snapshot.resetAssign
  let modbus ← s.modbusLink.foldlM (refreshLink staticCast s.swap snapshot.list) s.modbus
  return { s with snapshot, modbus, store := { s.store with toStore := store } }

/-- What happens to the server: the variables take other values, the request of a client leaves
other registers, or a cycle runs. -/
inductive Event where
  | change (pointer extRead : String → List UInt8)
  | request (modbus : UInt16 → UInt16)
  | cycle

/-- The variables take other values. -/
def change (store : VarStore) (pointer extRead : String → List UInt8) : VarStore :=
  { store with pointer, extRead }

/-- The variables after the changes of a run. -/
def values (store : VarStore) : List Event → VarStore
  | [] => store
  | .change pointer extRead :: l => values (change store pointer extRead) l
  | .request _ :: l => values store l
  | .cycle :: l => values store l

/-- The registers as the requests of a run leave them. -/
def requested (modbus : UInt16 → UInt16) : List Event → UInt16 → UInt16
  | [] => modbus
  | .change _ _ :: l => requested modbus l
  | .request modbus' :: l => requested modbus' l
  | .cycle :: l => requested modbus l

/-- A client without access may read the variable: the snapshot of the server has none. -/
def Readable (v : Variable) : Prop := v.isHide = false

/-- The registers of the link hold the value. -/
def Holds (swap : Swap) (modbus : UInt16 → UInt16) (link : MapLink) (value : List UInt8) : Prop :=
  ∃ words, encode staticCast swap link.convert link.var.type value = .ok words ∧
    ∀ k w, words[k]? = some w →
      link.address.toNat + k < 65536 ∧ modbus (UInt16.ofNat (link.address.toNat + k)) = w

/-- The registers of every linked readable variable hold its value. -/
def Image (swap : Swap) (modbus : UInt16 → UInt16) (links : List MapLink) (store : VarStore) :
    Prop :=
  ∀ link ∈ links, Readable link.var → Holds staticCast swap modbus link (store.value link.var)

/-- After every cycle of the run, the registers hold the values that the variables had when the
cycle took its snapshot. -/
def FreshAlong : Refresher → List Event → Prop
  | _, [] => True
  | s, .change pointer extRead :: l =>
      FreshAlong { s with store := change s.store pointer extRead } l
  | s, .request modbus :: l => FreshAlong { s with modbus } l
  | s, .cycle :: l => ∃ s', s.proccesing staticCast = .ok s' ∧
      Image staticCast s.swap s'.modbus s.modbusLink s.store ∧ FreshAlong s' l

variable {staticCast}

/-! ### A cycle -/

/-- The items that wait to be assigned are not looked at. -/
lemma foldlM_toassign {swap : Swap} {items : List SnapshotItem}
    (h : ∀ item ∈ items, item.status = .toassign) (links : List MapLink)
    (modbus : UInt16 → UInt16) :
    links.foldlM (refreshLink staticCast swap items) modbus = .ok modbus := by
  induction links with
  | nil => rfl
  | cons link links ih =>
      have hlink : refreshLink staticCast swap items modbus link = .ok modbus := by
        rw [refreshLink]
        cases hi : items[link.item]? with
        | none => rfl
        | some item =>
            have := h item (List.mem_of_getElem? hi)
            simp [this]
      rw [List.foldlM_cons, hlink]
      exact ih

/-- A cycle leaves the registers and the variables as they are: `rDataManager::set` passes over
items that wait to be assigned. -/
theorem proccesing_eq (s : Refresher) :
    s.proccesing staticCast = .ok { s with snapshot := s.snapshot.resetAssign } := by
  have hlist : (s.store.set s.snapshot.resetAssign).2 = s.snapshot.resetAssign := by
    rw [Store.set, Store.setItems_eq]
    simp [Snapshot.resetAssign, Store.answer_of_ne]
  have hstore : (s.store.set s.snapshot.resetAssign).1 = s.store.toStore := by
    rw [Store.set_fst, Store.carried, List.filterMap_eq_nil_iff.mpr, List.foldl_nil]
    intro item hitem
    obtain ⟨item', -, rfl⟩ := List.mem_map.mp hitem
    cases item'.var <;> simp
  rw [proccesing]
  simp only [hlist, hstore]
  rw [foldlM_toassign]
  · rfl
  · intro item hitem
    obtain ⟨item', -, rfl⟩ := List.mem_map.mp hitem
    rfl

/-! ### A run -/

/-- A condition on the beginnings of a run that end in a cycle, when the run begins otherwise. -/
lemma forall_prefix_cons {P : List Event → Prop} {e : Event} (he : e ≠ .cycle) {l : List Event} :
    (∀ pre, pre ++ [.cycle] <+: e :: l → P pre) ↔ ∀ pre, pre ++ [.cycle] <+: l → P (e :: pre) := by
  constructor
  · intro h pre hpre
    exact h (e :: pre) (List.cons_prefix_cons.mpr ⟨rfl, hpre⟩)
  · intro h pre hpre
    cases pre with
    | nil => exact absurd (List.cons_prefix_cons.mp hpre).1.symm he
    | cons e' pre =>
        rw [List.cons_append, List.cons_prefix_cons] at hpre
        obtain ⟨rfl, hpre⟩ := hpre
        exact h pre hpre

lemma forall_prefix_cycle {P : List Event → Prop} {l : List Event} :
    (∀ pre, pre ++ [.cycle] <+: .cycle :: l → P pre) ↔
      P [] ∧ ∀ pre, pre ++ [.cycle] <+: l → P (.cycle :: pre) := by
  constructor
  · intro h
    exact ⟨h [] (by simp), fun pre hpre =>
      h (.cycle :: pre) (List.cons_prefix_cons.mpr ⟨rfl, hpre⟩)⟩
  · rintro ⟨h0, h⟩ pre hpre
    cases pre with
    | nil => exact h0
    | cons e pre =>
        rw [List.cons_append, List.cons_prefix_cons] at hpre
        obtain ⟨rfl, hpre⟩ := hpre
        exact h pre hpre

/-- The registers are fresh after every cycle of a run if and only if, in every cycle, the linked
readable variables have the values that their registers hold since the clients wrote to them last,
or since before the run. -/
theorem freshAlong_iff (s : Refresher) (l : List Event) :
    s.FreshAlong staticCast l ↔
      ∀ pre, pre ++ [.cycle] <+: l →
        Image staticCast s.swap (requested s.modbus pre) s.modbusLink (values s.store pre) := by
  induction l generalizing s with
  | nil => simp [FreshAlong]
  | cons e l ih =>
      cases e with
      | change pointer extRead =>
          rw [FreshAlong, ih, forall_prefix_cons (by simp)]
          rfl
      | request modbus =>
          rw [FreshAlong, ih, forall_prefix_cons (by simp)]
          rfl
      | cycle =>
          rw [FreshAlong, forall_prefix_cycle]
          simp only [proccesing_eq, Except.ok.injEq, exists_eq_left', ih]
          rfl

/-! ### A variable that changes -/

/-- A variable of sixteen bits at the register `0`, and registers that hold `0`. -/
def fresh : Refresher where
  swap := {}
  snapshot := ⟨[⟨some ⟨"a", .uint, 0, 0⟩, .toassign, []⟩], 0⟩
  modbusLink := [⟨⟨0, ⟨"a", .uint, 0, 0⟩⟩, 0, .undef⟩]
  modbus := fun _ => 0
  store := ⟨oneUint, fun _ => []⟩

/-- The variable takes the value `7` and a cycle runs: the register still holds `0`. -/
theorem freshAlong_fails :
    ¬ fresh.FreshAlong (fun _ _ value => value)
      [.change (fun _ => [7, 0]) (fun _ => []), .cycle] := by
  rintro ⟨s', hs', himage, -⟩
  rw [proccesing_eq] at hs'
  cases hs'
  obtain ⟨words, hwords, hreg⟩ := himage _ List.mem_cons_self rfl
  have hval : words = [7] := by
    have : encode (fun _ _ value => value) fresh.swap .undef .uint [7, 0] = .ok [7] := by rfl
    exact Except.ok.inj (hwords.symm.trans this)
  subst hval
  have := (hreg 0 7 rfl).2
  simp [fresh] at this

end Refresher

end Tritonn

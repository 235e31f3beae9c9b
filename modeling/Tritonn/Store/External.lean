import Tritonn.Store.Access

/-!
External variables: `linkToExternal`, `processing`, `writeExt` and `readExt` of
`src/tritonn/variable_class.cpp`, and the constructor of `rVariable` that makes a mirror.

* `Linkage` is the store of the data manager with the owners whose variables it mirrors, and
  `linkToExternal` links an owner to it;
* `writeExt` and `readExt` are the two phases of `processing` of an owner, each of which runs under
  the lock of the store;
* `Linkage.step` is one event: a client writes a snapshot, the thread of an owner changes a
  variable or runs a phase of `processing`, or the data manager changes a variable of its own.
-/

namespace Tritonn

/-- `rVariable(rVariable *var)`: the mirror of a variable. -/
def Variable.mirror (v : Variable) : Variable := { v with flags := v.flags ||| 0x4000 }

@[simp] lemma Variable.mirror_name (v : Variable) : v.mirror.name = v.name := rfl

lemma Variable.mirror_isExternal (v : Variable) : v.mirror.isExternal = true := by
  have h : (v.flags ||| 0x4000) &&& 0x4000 = 0x4000 := by
    apply UInt16.eq_of_toBitVec_eq
    ext i
    simpa using fun h => .inr h
  simp only [isExternal, mirror, h]
  decide

/-- The store of the data manager and the owners that are linked to it. Of an owner there are the
list of its variables, the memory behind them, the variables that have an `rExternal` whose partner
points back, and whether its `processing` is between the two phases. -/
structure Linkage where
  store : VarStore
  varList : ℕ → List Variable
  pointer : ℕ → String → List UInt8
  external : ℕ → String → Bool
  between : ℕ → Bool

namespace Linkage

/-! ### Linking -/

/-- One turn of the loop of `addExternal`, for a variable of the owner `i`: it is mirrored unless
the store has a variable of its name. -/
def addExternalVar (i : ℕ) (s : Linkage) (v : Variable) : Linkage :=
  if (s.store.findVar v.name).isSome then s
  else
    { s with
      store := { s.store with
        vars := s.store.vars ++ [v.mirror]
        extWrite := Function.update s.store.extWrite v.name (List.replicate 8 0)
        isWrited := Function.update s.store.isWrited v.name false
        extRead := Function.update s.store.extRead v.name (List.replicate 8 0) }
      external := Function.update s.external i (Function.update (s.external i) v.name true) }

/-- `linkToExternal` of the owner `i`, with the loop of `addExternal`. -/
def linkToExternal (s : Linkage) (i : ℕ) : Linkage := (s.varList i).foldl (addExternalVar i) s

/-! ### The phases of `processing` -/

/-- `writeExt`, called with the variables of the owner `i`. -/
def writeExt (s : Linkage) (i : ℕ) : Linkage :=
  { s with
    store := { s.store with
      extRead := (s.varList i).foldl (fun extRead v =>
        if s.external i v.name then Function.update extRead v.name (s.pointer i v.name)
        else extRead) s.store.extRead }
    between := Function.update s.between i true }

/-- One turn of the loop of `readExt`. -/
def readExtVar (i : ℕ) (s : Linkage) (v : Variable) : Linkage :=
  if s.external i v.name && s.store.isWrited v.name then
    { s with
      store := { s.store with isWrited := Function.update s.store.isWrited v.name false }
      pointer := Function.update s.pointer i
        (Function.update (s.pointer i) v.name (s.store.extWrite v.name)) }
  else s

/-- The loop of `readExt`. -/
def readExtLoop (i : ℕ) (s : Linkage) (vars : List Variable) : Linkage :=
  vars.foldl (readExtVar i) s

/-- `readExt`, called with the variables of the owner `i`. -/
def readExt (s : Linkage) (i : ℕ) : Linkage :=
  { s.readExtLoop i (s.varList i) with between := Function.update s.between i false }

/-! ### Events -/

/-- What can happen: a client writes a snapshot of items for the variables with the given names, an
owner changes a variable, an owner runs a phase of `processing`, or the data manager changes a
variable of its own. -/
inductive Event where
  | set (access : UInt32) (items : List (String × ItemStatus × List UInt8))
  | change (i : ℕ) (name : String) (value : List UInt8)
  | writeExt (i : ℕ)
  | readExt (i : ℕ)
  | own (name : String) (value : List UInt8)

/-- The snapshot of a client. -/
def snapshot (s : Linkage) (access : UInt32) (items : List (String × ItemStatus × List UInt8)) :
    Snapshot :=
  ⟨items.map fun item => ⟨s.store.findVar item.1, item.2.1, item.2.2⟩, access⟩

/-- One event. The thread of an owner runs the phases in turn and changes no variable between
them. -/
def step (s : Linkage) : Event → Linkage
  | .set access items =>
      { s with store := { s.store with
        toStore := (s.store.toStore.set (s.snapshot access items)).1 } }
  | .change i name value =>
      if s.between i then s
      else { s with
        pointer := Function.update s.pointer i (Function.update (s.pointer i) name value) }
  | .writeExt i => if s.between i then s else s.writeExt i
  | .readExt i => if s.between i then s.readExt i else s
  | .own name value =>
      { s with store := { s.store with pointer := Function.update s.store.pointer name value } }

/-- The events of a run. -/
def run (s : Linkage) (l : List Event) : Linkage := l.foldl step s

/-! ### What the phases do -/

lemma writeExt_between (s : Linkage) (i : ℕ) :
    (s.writeExt i).between = Function.update s.between i true := rfl

lemma readExt_between (s : Linkage) (i : ℕ) :
    (s.readExt i).between = Function.update s.between i false := rfl

/-- The loop of `writeExt`. -/
lemma writeExt_extRead (s : Linkage) (i : ℕ) (name : String) :
    (s.writeExt i).store.extRead name
      = if s.external i name = true ∧ name ∈ (s.varList i).map Variable.name then s.pointer i name
        else s.store.extRead name := by
  rw [writeExt]
  dsimp only
  generalize s.store.extRead = extRead
  induction s.varList i generalizing extRead with
  | nil => simp
  | cons v vars ih =>
      rw [List.foldl_cons, ih]
      simp only [List.map_cons, List.mem_cons]
      by_cases hname : name = v.name
      · subst hname
        by_cases hext : s.external i v.name = true <;> simp [hext]
      · by_cases hext : s.external i v.name = true <;> simp [hext, hname]

/-- The loop of `readExt` changes no other fields than these two. -/
lemma readExtLoop_frame (i : ℕ) (s : Linkage) (vars : List Variable) :
    s.readExtLoop i vars =
      { s with
        store := { s.store with isWrited := (s.readExtLoop i vars).store.isWrited }
        pointer := Function.update s.pointer i ((s.readExtLoop i vars).pointer i) } := by
  induction vars generalizing s with
  | nil => simp [readExtLoop]
  | cons v vars ih =>
      rw [readExtLoop, List.foldl_cons, ← readExtLoop, ih, readExtVar]
      split_ifs <;> simp

/-- The loop of `readExt`. -/
lemma readExtLoop_apply (i : ℕ) (s : Linkage) (vars : List Variable) (name : String) :
    (s.readExtLoop i vars).store.isWrited name
        = (if s.external i name = true ∧ name ∈ vars.map Variable.name then false
          else s.store.isWrited name) ∧
      (s.readExtLoop i vars).pointer i name
        = if s.external i name = true ∧ name ∈ vars.map Variable.name ∧
            s.store.isWrited name = true then s.store.extWrite name
          else s.pointer i name := by
  induction vars generalizing s with
  | nil => simp [readExtLoop]
  | cons v vars ih =>
      obtain ⟨hw, hp⟩ := ih (readExtVar i s v)
      rw [readExtLoop, List.foldl_cons, ← readExtLoop, hw, hp, readExtVar]
      simp only [List.map_cons, List.mem_cons]
      by_cases hname : name = v.name
      · subst hname
        cases hext : s.external i v.name <;> cases hwr : s.store.isWrited v.name <;>
          simp [hext, hwr]
      · cases hext : s.external i v.name <;> cases hwr : s.store.isWrited v.name <;>
          simp [hname]

end Linkage

end Tritonn

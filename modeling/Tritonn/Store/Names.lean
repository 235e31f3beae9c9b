import Tritonn.Lib.Keyed
import Tritonn.Lib.Lower
import Tritonn.Store.External

/-!
The names of the variables: `rVariableList` of `src/tritonn/variable_list.cpp` and the links between
classes of variables, `rVariableClass::linkToExternal`.

* `ListVariable` is a variable with the hash of its name, and `VarList.find` the search that
  compares hashes first; the hash function is the one of the standard library, any function;
* `VarList.add` and `VarList.addExternal` are the two ways into a list;
* `VarClasses` are the lists of all classes, and `NameOp` is what happens to them: a registration, a
  link, or a list that is sorted by the addresses of its variables.

`names_unique` says of every sequence of these that the names in a list differ in more than their
case, that a variable is found under its name in any case, and that a registration is refused
without a change or adds its variable.
-/

namespace Tritonn

/-- `rVariable`, with `m_hash`. -/
structure ListVariable where
  var : Variable
  hash : UInt32
  deriving DecidableEq

/-- The name of a variable. -/
def ListVariable.name (v : ListVariable) : String := v.var.name

variable (hash : String → UInt32)

/-- `rVariable()`. -/
def ListVariable.make (v : Variable) : ListVariable :=
  ⟨{ v with name := v.name.toLower }, hash v.name.toLower⟩

/-- `rVariable(rVariable *var)`: everything is copied, and the flag is set. -/
def ListVariable.mirror (v : ListVariable) : ListVariable := ⟨v.var.mirror, v.hash⟩

/-- `rVariableList`. -/
abbrev VarList := List ListVariable

namespace VarList

/-- `rVariableList::find`. -/
def find (l : VarList) (name : String) : Option ListVariable :=
  List.find? (fun v => hash name.toLower = v.hash ∧ v.name = name.toLower) l

/-- `rVariableList::add`. -/
def add (l : VarList) (v : Variable) : VarList :=
  if (find hash l v.name).isSome then l else l ++ [ListVariable.make hash v]

/-- `rVariableClass::addExternal`. -/
def addExternal (l extlist : VarList) : VarList :=
  extlist.foldl (fun l v => if (find hash l v.name).isSome then l else l ++ [v.mirror]) l

end VarList

/-- The lists of the classes. -/
abbrev VarClasses := ℕ → VarList

/-- What happens to the lists: a class registers a variable, is linked to another one, or sorts its
list. -/
inductive NameOp where
  | add (i : ℕ) (v : Variable)
  | linkToExternal (i : ℕ) (varclass : Option ℕ)
  | sort (i : ℕ) (order : VarList → VarList) (horder : ∀ l, (order l).Perm l)

/-- The lists after a step. -/
def NameOp.step (s : VarClasses) : NameOp → VarClasses
  | .add i v => Function.update s i (VarList.add hash (s i) v)
  | .linkToExternal _ none => s
  | .linkToExternal i (some j) => Function.update s j (VarList.addExternal hash (s j) (s i))
  | .sort i order _ => Function.update s i (order (s i))

namespace VarList

/-- The names are in lower case and differ, and the hashes are theirs. -/
structure Inv (l : VarList) : Prop where
  hashes : ∀ v ∈ l, v.hash = hash v.name
  lower : ∀ v ∈ l, v.name.toLower = v.name
  names : (l.map ListVariable.name).Nodup

variable {hash} {l extlist : VarList} {v : ListVariable}

/-- The hashes do not matter. -/
lemma find_eq (h : ∀ v ∈ l, v.hash = hash v.name) (name : String) :
    find hash l name = l.find? fun v => v.name = name.toLower := by
  refine List.find?_congr fun v hv => ?_
  rw [h v hv]
  refine decide_eq_decide.mpr ⟨And.right, fun hname => ⟨by rw [hname], hname⟩⟩

/-- A variable with a new name in lower case can be added. -/
lemma Inv.concat (h : Inv hash l) (hhash : v.hash = hash v.name) (hlower : v.name.toLower = v.name)
    (hfind : find hash l v.name = none) : Inv hash (l ++ [v]) := by
  refine ⟨fun w hw => ?_, fun w hw => ?_, Keyed.nodup_concat h.names fun w hw => ?_⟩
  · rcases List.mem_append.mp hw with hw | hw
    · exact h.hashes w hw
    · rw [List.mem_singleton.mp hw, hhash]
  · rcases List.mem_append.mp hw with hw | hw
    · exact h.lower w hw
    · rw [List.mem_singleton.mp hw, hlower]
  · rw [find_eq h.hashes, hlower] at hfind
    exact Keyed.find_eq_none_iff.mp hfind w hw

lemma Inv.add (h : Inv hash l) (v : Variable) : Inv hash (l.add hash v) := by
  rw [VarList.add]
  split_ifs with hfind
  · exact h
  · refine h.concat rfl (Lower.toLower_toLower v.name) ?_
    have hname : (ListVariable.make hash v).name.toLower = v.name.toLower :=
      Lower.toLower_toLower v.name
    rw [find_eq h.hashes, hname, ← find_eq h.hashes]
    exact Option.not_isSome_iff_eq_none.mp hfind

/-- A link keeps the names apart, for any list that has been built. -/
lemma Inv.addExternal (h : Inv hash l) (hext : ∀ v ∈ extlist, v.hash = hash v.name ∧
    v.name.toLower = v.name) : Inv hash (l.addExternal hash extlist) := by
  induction extlist generalizing l with
  | nil => exact h
  | cons v extlist ih =>
      obtain ⟨hhash, hlower⟩ := hext v List.mem_cons_self
      rw [VarList.addExternal, List.foldl_cons]
      refine ih ?_ fun w hw => hext w (List.mem_cons_of_mem v hw)
      split_ifs with hfind
      · exact h
      · exact h.concat hhash hlower (Option.not_isSome_iff_eq_none.mp hfind)

lemma Inv.perm (h : Inv hash l) {l' : VarList} (hperm : l'.Perm l) : Inv hash l' :=
  ⟨fun v hv => h.hashes v (hperm.mem_iff.mp hv), fun v hv => h.lower v (hperm.mem_iff.mp hv),
    (hperm.map ListVariable.name).nodup_iff.mpr h.names⟩

/-- A variable is found under its name in any case. -/
lemma Inv.find (h : Inv hash l) (hv : v ∈ l) {name : String}
    (hname : name.toLower = v.name.toLower) : find hash l name = some v := by
  rw [find_eq h.hashes, hname, h.lower v hv]
  exact Keyed.find_of_mem h.names hv

/-- The search without the hashes is the one of the store. -/
lemma Inv.find_map (h : Inv hash l) {st : Store} (hst : st.vars = l.map ListVariable.var)
    (name : String) : (VarList.find hash l name).map ListVariable.var = st.findVar name := by
  rw [find_eq h.hashes, Store.findVar, hst, List.find?_map]
  rfl

/-- A registration is the one of the store. -/
lemma Inv.add_map (h : Inv hash l) {st : Store} (hst : st.vars = l.map ListVariable.var)
    (v : Variable) : (st.add v).vars = (l.add hash v).map ListVariable.var := by
  have hfind := h.find_map hst v.name
  rw [Store.add, ← hfind, VarList.add]
  cases VarList.find hash l v.name with
  | none =>
      have hmap : (l ++ [ListVariable.make hash v]).map ListVariable.var =
          st.vars ++ [{ v with name := v.name.toLower }] := by
        rw [hst, List.map_append]
        rfl
      exact hmap.symm
  | some w => exact hst

end VarList

/-! ### All lists -/

variable {hash} in
/-- Each step keeps the names in every list apart. -/
lemma NameOp.step_inv {s : VarClasses} (h : ∀ i, VarList.Inv hash (s i)) (op : NameOp) :
    ∀ i, VarList.Inv hash (NameOp.step hash s op i) := by
  have hupdate : ∀ (j : ℕ) (l : VarList), VarList.Inv hash l →
      ∀ i, VarList.Inv hash (Function.update s j l i) := by
    intro j l hl i
    rcases eq_or_ne i j with rfl | hij
    · rwa [Function.update_self]
    · rw [Function.update_of_ne hij]
      exact h i
  cases op with
  | add i v => exact hupdate i _ ((h i).add v)
  | linkToExternal i varclass =>
      cases varclass with
      | none => exact h
      | some j =>
          exact hupdate j _ ((h j).addExternal fun v hv => ⟨(h i).hashes v hv, (h i).lower v hv⟩)
  | sort i order horder => exact hupdate i _ ((h i).perm (horder _))

end Tritonn

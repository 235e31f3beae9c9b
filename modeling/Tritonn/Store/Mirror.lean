import Tritonn.Lib.Mailbox
import Tritonn.Lib.Run
import Tritonn.Store.External

/-!
The protocol of external variables: what becomes of the writes of clients and of the values of an
owner.

* `Setup` is what there is at start-up, and `Setup.start` the state after the owners are linked;
  `Wf` is what linking leaves (`start_wf`) and no event changes (`step_wf`);
* `ops` is what an event does to a variable of an owner, as operations on a mailbox: a write of a
  client that is answered written, the value at which `processing` begins, and what `readExt` takes;
  `history` are the operations of a run;
* `Kept` is what an event does to the owner's variable and to the mirror, and `Proto` the invariant;
  `step_proto` shows both for one event;
* `mirrored` says that in every run the operations belong together as in a mailbox, and that every
  event keeps to them.
-/

namespace Tritonn

namespace Linkage

/-! ### Start-up -/

/-- The variables of the data manager and of the owners at start-up, as `rVariableList::add` makes
the lists: their names are in lower case and differ. -/
structure Setup where
  store : VarStore
  varList : ℕ → List Variable
  distinct : store.Distinct
  names : ∀ i, ((varList i).map Variable.name).Nodup
  lower : ∀ i, ∀ v ∈ varList i, v.name.toLower = v.name

/-- The owners of the list are linked in turn. -/
def Setup.start (d : Setup) (pointer : ℕ → String → List UInt8) (order : List ℕ) : Linkage :=
  order.foldl linkToExternal ⟨d.store, d.varList, pointer, fun _ _ => false, fun _ => false⟩

/-- What linking leaves: a variable with an `rExternal` has its mirror in the store, and no other
owner has one of its name. -/
structure Wf (s : Linkage) : Prop where
  distinct : s.store.Distinct
  names : ∀ i, ((s.varList i).map Variable.name).Nodup
  lower : ∀ i, ∀ v ∈ s.varList i, v.name.toLower = v.name
  mirror : ∀ i, ∀ v ∈ s.varList i, s.external i v.name = true → v.mirror ∈ s.store.vars
  present : ∀ i name, s.external i name = true → ∃ w ∈ s.store.vars, w.name = name
  owner : ∀ i j name, s.external i name = true → s.external j name = true → i = j

lemma addExternalVar_wf {s : Linkage} (h : s.Wf) {i : ℕ} {v : Variable} (hv : v ∈ s.varList i) :
    (addExternalVar i s v).Wf := by
  rw [addExternalVar]
  split_ifs with hfind
  · exact h
  have hnew : ∀ w ∈ s.store.vars, w.name ≠ v.name := by
    rw [Option.isSome_iff_ne_none, not_not, Store.findVar, Keyed.find_eq_none_iff,
      h.lower i v hv] at hfind
    exact hfind
  -- A variable with an `rExternal` is the new one, or had it before.
  have hext : ∀ j name, Function.update s.external i
      (Function.update (s.external i) v.name true) j name = true →
      j = i ∧ name = v.name ∨ s.external j name = true := by
    intro j name hj
    by_cases hji : j = i
    · subst hji
      rw [Function.update_self] at hj
      by_cases hname : name = v.name
      · exact .inl ⟨rfl, hname⟩
      · rw [Function.update_of_ne hname] at hj
        exact .inr hj
    · rw [Function.update_of_ne hji] at hj
      exact .inr hj
  refine ⟨?_, h.names, h.lower, fun j u hu hj => ?_, fun j name hj => ?_, fun j k name hj hk => ?_⟩
  · exact Keyed.nodup_concat h.distinct hnew
  · rcases hext j u.name hj with ⟨rfl, hname⟩ | hold
    · rw [Keyed.eq_of_key (h.names j) hu hv hname]
      exact List.mem_append_right _ (List.mem_singleton_self _)
    · exact List.mem_append_left _ (h.mirror j u hu hold)
  · rcases hext j name hj with ⟨rfl, rfl⟩ | hold
    · exact ⟨v.mirror, List.mem_append_right _ (List.mem_singleton_self _), rfl⟩
    · obtain ⟨w, hw, hwn⟩ := h.present j name hold
      exact ⟨w, List.mem_append_left _ hw, hwn⟩
  · have hno : ∀ m, s.external m v.name ≠ true := by
      intro m hm
      obtain ⟨w, hw, hwn⟩ := h.present m v.name hm
      exact hnew w hw hwn
    rcases hext j name hj with ⟨rfl, rfl⟩ | hj'
    · rcases hext k _ hk with ⟨rfl, -⟩ | hk'
      · rfl
      · exact absurd hk' (hno k)
    · rcases hext k name hk with ⟨rfl, rfl⟩ | hk'
      · exact absurd hj' (hno j)
      · exact h.owner j k name hj' hk'

lemma addExternalVar_varList (i : ℕ) (s : Linkage) (v : Variable) :
    (addExternalVar i s v).varList = s.varList := by
  rw [addExternalVar]
  split_ifs <;> rfl

/-- What every turn of the loop of `addExternal` keeps, linking the owners keeps. -/
lemma link_induction {P : Linkage → Prop}
    (hP : ∀ s i v, v ∈ s.varList i → P s → P (addExternalVar i s v)) (order : List ℕ)
    {s : Linkage} (hs : P s) : P (order.foldl linkToExternal s) := by
  have hfold : ∀ (i : ℕ) (vars : List Variable) (s : Linkage), P s →
      (∀ v ∈ vars, v ∈ s.varList i) → P (vars.foldl (addExternalVar i) s) := by
    intro i vars
    induction vars with
    | nil => exact fun s hs _ => hs
    | cons v vars ih =>
        intro s hs hvars
        refine ih _ (hP s i v (hvars v List.mem_cons_self) hs) fun w hw => ?_
        rw [addExternalVar_varList]
        exact hvars w (List.mem_cons_of_mem _ hw)
  induction order generalizing s with
  | nil => exact hs
  | cons i order ih => exact ih (hfold i _ s hs fun _ hv => hv)

theorem start_wf (d : Setup) (pointer : ℕ → String → List UInt8) (order : List ℕ) :
    (d.start pointer order).Wf := by
  refine link_induction (fun s i v hv hs => addExternalVar_wf hs hv) order
    ⟨d.distinct, d.names, d.lower, ?_, ?_, ?_⟩
  · exact fun _ _ _ h => (by cases h)
  · exact fun _ _ h => (by cases h)
  · exact fun _ _ _ h => (by cases h)

/-- No write is pending after start-up, and no `processing` runs. -/
structure Clean (d : Setup) (s : Linkage) : Prop where
  varList : s.varList = d.varList
  isWrited : ∀ i name, s.external i name = true → s.store.isWrited name = false
  between : ∀ i, s.between i = false

lemma start_clean (d : Setup) (pointer : ℕ → String → List UInt8) (order : List ℕ) :
    Clean d (d.start pointer order) := by
  refine link_induction (fun s i v _ hs => ?_) order ⟨rfl, fun _ _ h => (by cases h), fun _ => rfl⟩
  rw [addExternalVar]
  split_ifs with hfind
  · exact hs
  refine ⟨hs.varList, fun j name hj => ?_, hs.between⟩
  dsimp only at hj ⊢
  by_cases hname : name = v.name
  · rw [hname, Function.update_self]
  · rw [Function.update_of_ne hname]
    refine hs.isWrited j name ?_
    by_cases hji : j = i
    · subst hji
      rw [Function.update_self, Function.update_of_ne hname] at hj
      exact hj
    · rw [Function.update_of_ne hji] at hj
      exact hj

/-! ### What an event does to a variable -/

/-- The operations of an event on the variable `v` of the owner `i`. -/
def ops (s : Linkage) (i : ℕ) (v : Variable) : Event → List (Mailbox.Op (List UInt8))
  | .set access items =>
      let snapshot := s.snapshot access items
      (snapshot.list.zip (s.store.toStore.set snapshot).2.list).filterMap fun p =>
        if p.1.var = some v.mirror ∧ p.1.status = .towrite ∧ p.2.status = .writed then
          some (.put p.1.data)
        else none
  | .writeExt j => if j = i ∧ s.between i = false then [.look (s.pointer i v.name)] else []
  | .readExt j =>
      if j = i ∧ s.between i = true then
        [.take (if s.external i v.name && s.store.isWrited v.name then
          some (s.store.extWrite v.name) else none)]
      else []
  | .change _ _ _ => []
  | .own _ _ => []

/-- The operations of a run. -/
def history (s : Linkage) (i : ℕ) (v : Variable) : List Event → List (Mailbox.Op (List UInt8))
  | [] => []
  | e :: l => s.ops i v e ++ (s.step e).history i v l

/-- What an event does to the variable `v` of the owner `i`, after the operations `h`. -/
structure Kept (i : ℕ) (v : Variable) (h : List (Mailbox.Op (List UInt8))) (s : Linkage)
    (e : Event) : Prop where
  /-- A write that `readExt` takes is stored in the variable. -/
  taken : ∀ d, .take (some d) ∈ s.ops i v e → (s.step e).pointer i v.name = d
  /-- Nothing else changes the variable but its owner. -/
  unchanged : (∀ d, .take (some d) ∉ s.ops i v e) → (∀ value, e ≠ .change i v.name value) →
    (s.step e).pointer i v.name = s.pointer i v.name
  /-- After `processing`, clients read the value at which it began. -/
  mirror : ∀ a, .take a ∈ s.ops i v e →
    some ((s.step e).store.extRead v.name) = Mailbox.lastLook h
  /-- This is the present value, if no write was taken. -/
  current : .take none ∈ s.ops i v e →
    (s.step e).store.extRead v.name = (s.step e).pointer i v.name

/-- The invariant of the variable `v` of the owner `i`, after the operations `h`: the write that is
pending is the one that waits, and between the phases of `processing` the variable and the mirror
have the value at which it began. -/
structure Proto (i : ℕ) (v : Variable) (h : List (Mailbox.Op (List UInt8))) (s : Linkage) :
    Prop where
  wf : s.Wf
  mem : v ∈ s.varList i
  external : s.external i v.name = true
  honest : Mailbox.Honest h
  pending : (if s.store.isWrited v.name then some (s.store.extWrite v.name) else none)
    = Mailbox.pending h
  look : s.between i = true → Mailbox.lastLook h = some (s.pointer i v.name) ∧
    s.store.extRead v.name = s.pointer i v.name

lemma set_vars (st : Store) (snapshot : Snapshot) : (st.set snapshot).1.vars = st.vars := by
  rw [Store.set_fst]
  generalize Store.carried snapshot.access snapshot.list = ws
  induction ws generalizing st with
  | nil => rfl
  | cons w ws ih => exact ih (st.write w.1 w.2)

/-- No event changes the lists of variables and the links. -/
lemma step_wf {s : Linkage} (h : s.Wf) (e : Event) :
    (s.step e).Wf ∧ (s.step e).varList = s.varList ∧ (s.step e).external = s.external := by
  have of_eq : ∀ s' : Linkage, s'.store.vars = s.store.vars → s'.varList = s.varList →
      s'.external = s.external → s'.Wf ∧ s'.varList = s.varList ∧ s'.external = s.external := by
    intro s' hvars hlist hext
    refine ⟨⟨?_, ?_, ?_, ?_, ?_, ?_⟩, hlist, hext⟩
    · rw [Store.Distinct, hvars]
      exact h.distinct
    · rw [hlist]
      exact h.names
    · rw [hlist]
      exact h.lower
    · rw [hlist, hext, hvars]
      exact h.mirror
    · rw [hext, hvars]
      exact h.present
    · rw [hext]
      exact h.owner
  cases e with
  | set access items => exact of_eq _ (set_vars _ _) rfl rfl
  | change i name value =>
      rw [step]
      split_ifs <;> exact of_eq _ rfl rfl rfl
  | writeExt i =>
      rw [step]
      split_ifs <;> exact of_eq _ rfl rfl rfl
  | readExt i =>
      rw [step]
      split_ifs
      · rw [readExt, readExtLoop_frame]
        exact of_eq _ rfl rfl rfl
      · exact of_eq _ rfl rfl rfl
  | own name value => exact of_eq _ rfl rfl rfl

/-! ### One event -/

variable {i : ℕ} {v : Variable} {h : List (Mailbox.Op (List UInt8))} {s : Linkage}

/-- The writes of a client that are answered written are the allowed ones for the mirror. -/
lemma set_ops (s : Linkage) (i : ℕ) (v : Variable) (access : UInt32)
    (items : List (String × ItemStatus × List UInt8)) :
    s.ops i v (.set access items)
      = (Store.writesTo access (s.snapshot access items).list v.mirror).map .put := by
  simp only [ops, Store.set_list, snapshot]
  generalize (items.map fun item =>
    (⟨s.store.findVar item.1, item.2.1, item.2.2⟩ : SnapshotItem)) = list
  induction list with
  | nil => rfl
  | cons item list ih =>
      rw [List.map_cons, List.zip_cons_cons, List.filterMap_cons, ih, Store.writesTo,
        Store.writesTo, List.filterMap_cons]
      have hiff : item.var = some v.mirror ∧ item.status = .towrite ∧
          (Store.answer access item).status = .writed ↔
            item.var = some v.mirror ∧ item.status = .towrite ∧ Allowed access v.mirror := by
        refine and_congr_right fun hvar => and_congr_right fun hst => ?_
        rw [Store.answer_writed hst, hvar]
        simp
      by_cases hw : item.var = some v.mirror ∧ item.status = .towrite ∧ Allowed access v.mirror
      · rw [if_pos hw, if_pos (hiff.mpr hw)]
        rfl
      · rw [if_neg hw, if_neg (fun h => hw (hiff.mp h))]

/-- An event that does nothing to the variable, the mirror and the write that is pending. -/
lemma Proto.silent (hp : Proto i v h s) {e : Event} (hops : s.ops i v e = [])
    (hpointer : (∀ value, e ≠ .change i v.name value) →
      (s.step e).pointer i v.name = s.pointer i v.name)
    (hwrited : (s.step e).store.isWrited v.name = s.store.isWrited v.name)
    (hwrite : (s.step e).store.extWrite v.name = s.store.extWrite v.name)
    (hread : (s.step e).store.extRead v.name = s.store.extRead v.name)
    (hbetween : (s.step e).between i = true → s.between i = true ∧
      (s.step e).pointer i v.name = s.pointer i v.name) :
    Proto i v (h ++ s.ops i v e) (s.step e) ∧ Kept i v h s e := by
  obtain ⟨hwf, hlist, hext⟩ := step_wf hp.wf e
  rw [hops, List.append_nil]
  refine ⟨⟨hwf, hlist ▸ hp.mem, hext ▸ hp.external, hp.honest, ?_, fun hb => ?_⟩, ?_⟩
  · rw [hwrited, hwrite, hp.pending]
  · obtain ⟨hb, hsame⟩ := hbetween hb
    rw [hsame, hread]
    exact hp.look hb
  · constructor
    · exact fun d hd => (by rw [hops] at hd; cases hd)
    · exact fun _ hne => hpointer hne
    · exact fun a ha => (by rw [hops] at ha; cases ha)
    · exact fun ha => (by rw [hops] at ha; cases ha)

/-- A client writes a snapshot. -/
lemma Proto.set (hp : Proto i v h s) (access : UInt32)
    (items : List (String × ItemStatus × List UInt8)) :
    Proto i v (h ++ s.ops i v (.set access items)) (s.step (.set access items)) ∧
      Kept i v h s (.set access items) := by
  obtain ⟨hwf, hlist, hext⟩ := step_wf hp.wf (.set access items)
  have hof : (s.snapshot access items).Of s.store.toStore := by
    intro item hitem w hw
    obtain ⟨x, -, rfl⟩ := List.mem_map.mp hitem
    exact List.mem_of_find?_eq_some hw
  have hmirror := hp.wf.mirror i v hp.mem hp.external
  have hset := Store.set_controlled hp.wf.distinct hof
  have hacc : (s.snapshot access items).access = access := rfl
  have hvalue := hset.value v.mirror hmirror
  have hpending := hset.pending v.mirror hmirror v.mirror_isExternal
  rw [Store.stored, if_pos v.mirror_isExternal, Store.stored, if_pos v.mirror_isExternal,
    Variable.mirror_name, hacc] at hvalue
  rw [Variable.mirror_name, hacc] at hpending
  have hnot : ∀ a, .take a ∉ s.ops i v (.set access items) := by
    intro a ha
    rw [set_ops] at ha
    obtain ⟨d, -, hd⟩ := List.mem_map.mp ha
    cases hd
  refine ⟨⟨hwf, hlist ▸ hp.mem, hext ▸ hp.external, ?_, ?_, ?_⟩, ?_⟩
  · rw [set_ops]
    exact hp.honest.append_puts _
  · -- The last of the writes of the client is pending, or the old one if there are none.
    rw [set_ops, Mailbox.pending_append_puts, ← hp.pending]
    generalize Store.writesTo access (s.snapshot access items).list v.mirror = ds at hvalue hpending
    change (if (s.store.set (s.snapshot access items)).1.isWrited v.name = true then
      some ((s.store.set (s.snapshot access items)).1.extWrite v.name) else none) = _
    rw [hvalue]
    cases hlast : ds.getLast? with
    | none =>
        rw [List.getLast?_eq_none_iff.mp hlast] at hpending
        simp only [ne_eq, not_true_eq_false, or_false, Bool.coe_iff_coe] at hpending
        rw [hpending]
        rfl
    | some d =>
        have hne : ds ≠ [] := fun h0 => (by rw [h0] at hlast; cases hlast)
        rw [if_pos (hpending.mpr (.inr hne))]
        rfl
  · rw [set_ops, Mailbox.lastLook_append_puts]
    exact hp.look
  · exact ⟨fun d hd => absurd hd (hnot _), fun _ _ => rfl, fun a ha => absurd ha (hnot a),
      fun ha => absurd ha (hnot none)⟩

/-- The thread of an owner changes a variable. -/
lemma Proto.change (hp : Proto i v h s) (j : ℕ) (name : String) (value : List UInt8) :
    Proto i v (h ++ s.ops i v (.change j name value)) (s.step (.change j name value)) ∧
      Kept i v h s (.change j name value) := by
  by_cases hb : s.between j = true
  · have hstep : s.step (.change j name value) = s := by rw [step, if_pos hb]
    refine hp.silent rfl (fun _ => ?_) ?_ ?_ ?_ (fun hbi => ?_) <;> rw [hstep]
    exact ⟨hstep ▸ hbi, rfl⟩
  · have hstep : s.step (.change j name value) = { s with
        pointer := Function.update s.pointer j (Function.update (s.pointer j) name value) } := by
      rw [step, if_neg hb]
    refine hp.silent rfl (fun hne => ?_) ?_ ?_ ?_ (fun hbi => ?_) <;> rw [hstep]
    · dsimp only
      by_cases hj : i = j
      · subst hj
        rw [Function.update_self]
        refine Function.update_of_ne (fun hname => hne value ?_) _ _
        rw [hname]
      · rw [Function.update_of_ne hj]
    · -- The owner whose `processing` runs is another one.
      rw [hstep] at hbi
      have hj : i ≠ j := fun hij => hb (hij ▸ hbi)
      exact ⟨hbi, by dsimp only; rw [Function.update_of_ne hj]⟩

/-- The data manager changes a variable of its own. -/
lemma Proto.own (hp : Proto i v h s) (name : String) (value : List UInt8) :
    Proto i v (h ++ s.ops i v (.own name value)) (s.step (.own name value)) ∧
      Kept i v h s (.own name value) :=
  hp.silent rfl (fun _ => rfl) rfl rfl rfl fun hb => ⟨hb, rfl⟩

/-- The name of the variable is linked by no other owner. -/
lemma Proto.other (hp : Proto i v h s) {j : ℕ} (hj : j ≠ i) : s.external j v.name ≠ true :=
  fun hext => hj (hp.wf.owner j i v.name hext hp.external)

lemma Proto.mem_names (hp : Proto i v h s) : v.name ∈ (s.varList i).map Variable.name :=
  List.mem_map_of_mem hp.mem

/-- An event that is not enabled. -/
lemma Proto.skip (hp : Proto i v h s) {e : Event} (hops : s.ops i v e = []) (hstep : s.step e = s) :
    Proto i v (h ++ s.ops i v e) (s.step e) ∧ Kept i v h s e :=
  hp.silent hops (fun _ => by rw [hstep]) (by rw [hstep]) (by rw [hstep]) (by rw [hstep])
    fun hb => by
      rw [hstep] at hb ⊢
      exact ⟨hb, rfl⟩

/-- The first phase of the `processing` of an owner. -/
lemma Proto.writeExt (hp : Proto i v h s) (j : ℕ) :
    Proto i v (h ++ s.ops i v (.writeExt j)) (s.step (.writeExt j)) ∧
      Kept i v h s (.writeExt j) := by
  by_cases hb : s.between j = true
  · refine hp.skip ?_ (by rw [step, if_pos hb])
    rw [ops, if_neg]
    rintro ⟨rfl, hf⟩
    rw [hb] at hf
    cases hf
  have hstep : s.step (.writeExt j) = s.writeExt j := by rw [step, if_neg hb]
  by_cases hj : j = i
  · subst hj
    have hops : s.ops j v (.writeExt j) = [.look (s.pointer j v.name)] := by
      rw [ops, if_pos ⟨rfl, by simpa using hb⟩]
    have hread : (s.writeExt j).store.extRead v.name = s.pointer j v.name := by
      rw [writeExt_extRead, if_pos ⟨hp.external, hp.mem_names⟩]
    rw [hops, hstep]
    have hwf := (step_wf hp.wf (.writeExt j)).1
    rw [hstep] at hwf
    refine ⟨⟨hwf, hp.mem, hp.external, ?_, ?_, fun _ => ⟨?_, hread⟩⟩, ?_⟩
    · exact hp.honest.concat fun a ha => (by cases ha)
    · rw [Mailbox.pending_concat]
      exact hp.pending
    · rw [Mailbox.lastLook_concat]
      rfl
    · constructor
      · exact fun d hd => (by simp [hops] at hd)
      · intro _ _
        rw [hstep]
        rfl
      · exact fun a ha => (by simp [hops] at ha)
      · exact fun ha => (by simp [hops] at ha)
  · refine hp.silent (by rw [ops, if_neg (fun hji => hj hji.1)]) ?_ ?_ ?_ ?_ ?_ <;> rw [hstep]
    · exact fun _ => rfl
    · rfl
    · rfl
    · rw [writeExt_extRead, if_neg (fun hext => hp.other hj hext.1)]
    · refine fun hbi => ⟨?_, rfl⟩
      rw [writeExt_between, Function.update_of_ne (Ne.symm hj)] at hbi
      exact hbi

/-- The second phase of the `processing` of an owner. -/
lemma Proto.readExt (hp : Proto i v h s) (j : ℕ) :
    Proto i v (h ++ s.ops i v (.readExt j)) (s.step (.readExt j)) ∧
      Kept i v h s (.readExt j) := by
  by_cases hb : s.between j = true
  swap
  · refine hp.skip ?_ (by rw [step, if_neg hb])
    rw [ops, if_neg]
    rintro ⟨rfl, ht⟩
    exact hb ht
  have hstep : s.step (.readExt j) = s.readExt j := by rw [step, if_pos hb]
  obtain ⟨hw, hptr⟩ := readExtLoop_apply j s (s.varList j) v.name
  have hframe := readExtLoop_frame j s (s.varList j)
  have hwrite : (s.readExt j).store.extWrite v.name = s.store.extWrite v.name := by
    rw [Linkage.readExt, hframe]
  have hread : (s.readExt j).store.extRead v.name = s.store.extRead v.name := by
    rw [Linkage.readExt, hframe]
  by_cases hj : j = i
  · subst hj
    rw [if_pos ⟨hp.external, hp.mem_names⟩] at hw
    have hwrited : (s.readExt j).store.isWrited v.name = false := hw
    have hpointer : (s.readExt j).pointer j v.name
        = if s.store.isWrited v.name = true then s.store.extWrite v.name
          else s.pointer j v.name := by
      refine hptr.trans ?_
      simp only [hp.external, hp.mem_names, true_and]
    have hops : s.ops j v (.readExt j) = [.take (Mailbox.pending h)] := by
      rw [ops, if_pos ⟨rfl, hb⟩, hp.external, Bool.true_and, hp.pending]
    obtain ⟨hlook, hmirror⟩ := hp.look hb
    obtain ⟨hwf, hlist, hext⟩ := step_wf hp.wf (.readExt j)
    rw [hstep] at hwf hlist hext
    rw [hops, hstep]
    refine ⟨⟨hwf, hlist ▸ hp.mem, hext ▸ hp.external, ?_, ?_, fun hbj => ?_⟩, ?_⟩
    · exact hp.honest.concat fun a ha => (by cases ha; rfl)
    · rw [Mailbox.pending_concat, hwrited]
      rfl
    · rw [readExt_between, Function.update_self] at hbj
      cases hbj
    · constructor
      · intro d hd
        rw [hops, List.mem_singleton, Mailbox.Op.take.injEq, ← hp.pending] at hd
        rw [hstep, hpointer]
        split_ifs at hd ⊢
        exact (Option.some.inj hd).symm
      · intro hno _
        rw [hops] at hno
        rw [hstep, hpointer, if_neg]
        intro hwr
        rw [← hp.pending, if_pos hwr] at hno
        exact hno _ (List.mem_singleton_self _)
      · intro a _
        rw [hstep, hread, hmirror, hlook]
      · intro hnone
        rw [hops, List.mem_singleton, Mailbox.Op.take.injEq, ← hp.pending] at hnone
        rw [hstep, hread, hmirror, hpointer]
        split_ifs at hnone ⊢
        rfl
  · refine hp.silent (by rw [ops, if_neg (fun hji => hj hji.1)]) ?_ ?_ ?_ ?_ ?_ <;> rw [hstep]
    · intro _
      rw [Linkage.readExt, hframe]
      dsimp only
      rw [Function.update_of_ne (Ne.symm hj)]
    · rw [if_neg (fun hext => hp.other hj hext.1)] at hw
      exact hw
    · exact hwrite
    · exact hread
    · intro hbi
      rw [readExt_between, Function.update_of_ne (Ne.symm hj)] at hbi
      refine ⟨hbi, ?_⟩
      rw [Linkage.readExt, hframe]
      dsimp only
      rw [Function.update_of_ne (Ne.symm hj)]

/-- One event. -/
theorem Proto.step (hp : Proto i v h s) (e : Event) :
    Proto i v (h ++ s.ops i v e) (s.step e) ∧ Kept i v h s e := by
  cases e with
  | set access items => exact hp.set access items
  | change j name value => exact hp.change j name value
  | writeExt j => exact hp.writeExt j
  | readExt j => exact hp.readExt j
  | own name value => exact hp.own name value

/-! ### Runs -/

lemma Proto.run (hp : Proto i v h s) (l : List Event) :
    Proto i v (h ++ s.history i v l) (s.run l) := by
  induction l generalizing h s with
  | nil =>
      rw [history, List.append_nil]
      exact hp
  | cons e l ih =>
      rw [history, ← List.append_assoc]
      exact ih (hp.step e).1

lemma start_proto (d : Setup) (pointer : ℕ → String → List UInt8) (order : List ℕ)
    (hv : v ∈ d.varList i) (hext : (d.start pointer order).external i v.name = true) :
    Proto i v [] (d.start pointer order) := by
  have hclean := start_clean d pointer order
  refine ⟨start_wf d pointer order, hclean.varList ▸ hv, hext, Mailbox.honest_nil, ?_, fun hb => ?_⟩
  · rw [hclean.isWrited i v.name hext]
    rfl
  · rw [hclean.between i] at hb
    cases hb

/-- For every variable that is linked at start-up and every run of events, in any order: the writes
of clients that are answered written and what `readExt` takes belong together as in a mailbox. A
write is taken by the next `readExt`, if no other write comes before that, and by no other; what is
taken is stored in the owner's variable, which is otherwise changed by its owner only; and after
`processing` clients read the value at which it began. -/
theorem mirrored (d : Setup) (pointer : ℕ → String → List UInt8) (order : List ℕ) (i : ℕ)
    (v : Variable) (hv : v ∈ d.varList i)
    (hext : (d.start pointer order).external i v.name = true) (l : List Event) :
    Mailbox.Exact ((d.start pointer order).history i v l) ∧
      ∀ pre e, pre ++ [e] <+: l →
        Kept i v ((d.start pointer order).history i v pre) ((d.start pointer order).run pre) e := by
  have hstart := start_proto d pointer order hv hext
  exact ⟨(hstart.run l).honest.exact, fun pre e _ => ((hstart.run pre).step e).2⟩

/-! ### A write between the phases -/

/-- An owner with one variable of sixteen bits, and a data manager without variables. -/
def oneOwner : Setup where
  store := ⟨⟨[], fun _ => [], fun _ => [], fun _ => false, false⟩, fun _ => []⟩
  varList := fun i => if i = 0 then [⟨"a", .uint, 0, 0⟩] else []
  distinct := List.nodup_nil
  names := fun i => by split_ifs <;> simp
  lower := fun i v hv => by
    split_ifs at hv
    · rw [List.mem_singleton.mp hv]
      decide +kernel
    · cases hv

/-- The first write of the run, the `processing` with a second write between its phases. -/
def betweenPhases : List Event :=
  [.set 0 [("a", .towrite, [1, 0])], .writeExt 0, .set 0 [("a", .towrite, [2, 0])], .readExt 0]

/-- The protocol of the variable in this run, by `mirrored`. -/
theorem mirrored_between :
    Mailbox.Exact ((oneOwner.start (fun _ _ => [0, 0]) [0]).history 0 ⟨"a", .uint, 0, 0⟩
        betweenPhases) ∧
      ∀ pre e, pre ++ [e] <+: betweenPhases →
        Kept 0 ⟨"a", .uint, 0, 0⟩
          ((oneOwner.start (fun _ _ => [0, 0]) [0]).history 0 ⟨"a", .uint, 0, 0⟩ pre)
          ((oneOwner.start (fun _ _ => [0, 0]) [0]).run pre) e :=
  mirrored oneOwner (fun _ _ => [0, 0]) [0] 0 ⟨"a", .uint, 0, 0⟩ (by simp [oneOwner])
    (by decide +kernel) betweenPhases

/-- A write is taken, if no other write comes before the next `processing` begins. -/
def Prompt (l : List (Mailbox.Op (List UInt8))) : Prop :=
  ∀ p b q d x a, l[p]? = some (.put d) → p < b → l[b]? = some (.look x) → b < q →
    l[q]? = some (.take a) →
    (∀ r, p < r → r < b → (∀ d', l[r]? ≠ some (.put d')) ∧ ∀ x', l[r]? ≠ some (.look x')) →
    (∀ r a', b < r → r < q → l[r]? ≠ some (.take a')) → ∃ q', Mailbox.Applied l p q'

/-- The first write is answered written, and no other write comes before `processing` begins; the
second one, between the phases, replaces it. -/
theorem mirrored_fails :
    ¬ Prompt ((oneOwner.start (fun _ _ => [0, 0]) [0]).history 0 ⟨"a", .uint, 0, 0⟩
      betweenPhases) := by
  have hhistory : (oneOwner.start (fun _ _ => [0, 0]) [0]).history 0 ⟨"a", .uint, 0, 0⟩
      betweenPhases = [.put [1, 0], .look [0, 0], .put [2, 0], .take (some [2, 0])] := by
    decide +kernel
  rw [hhistory]
  intro h
  obtain ⟨q, hq, -, ⟨d, hd⟩, hno⟩ := h 0 1 3 [1, 0] [0, 0] (some [2, 0]) rfl (by decide) rfl
    (by decide) rfl (fun r h1 h2 => by omega) (fun r a h1 h2 => by
      obtain rfl : r = 2 := by omega
      simp)
  -- The only read is behind the second write.
  have hlt : q < 4 := (List.getElem?_eq_some_iff.mp hd).1
  obtain rfl | rfl | rfl : q = 1 ∨ q = 2 ∨ q = 3 := by omega
  · cases hd
  · cases hd
  · exact hno 2 [2, 0] (by decide) (by decide) rfl

end Linkage

end Tritonn

import Tritonn.Data.ManagerDump

/-!
What the start of the program makes of the two dumps.

* `TotalsRestored` and `VarsRestored` say of a state that the totals and the variables are those of
  the dumps that had to be loaded, and `Restores` of a start that this is so whenever the status
  becomes `RUNNING`, that it is never stuck before, and that no dump is written over unseen;
* `AwaitsTotals`, `AwaitsVars` and `Up` are the phases of a start, each with a lemma about a step;
* `restores_iff`: a start restores if and only if one of the dumps is missing or both have the hash
  of the running configuration;
* `restores_fails` is a start with two dumps of an earlier configuration.
-/

namespace Tritonn

/-! ### The variables of a dump -/

/-- The memory `after` is `before` with the values of the dump in the dumped variables. -/
structure VarsRead (c : DumpConfig) (root : XmlElement) (before after : String → List UInt8) :
    Prop where
  dumped : ∀ v ∈ c.varList, v.isDumped = true →
    v.valueFromXml c.env.numbers root (before v.name) = some (after v.name)
  others : ∀ name, (∀ v ∈ c.varList, v.isDumped = true → v.name ≠ name) → after name = before name

namespace DumpManager

variable {c : DumpConfig} {root : XmlElement}

/-- The loop of `loadDataVariables` reads every variable that it comes to. -/
lemma foldlM_readVariable (l : List Variable)
    (h : ∀ v ∈ l, v.isDumped = true → ∀ value,
      (v.valueFromXml c.env.numbers root value).isSome) (before : String → List UInt8) :
    ∃ after, l.foldlM (readVariable c root) before = some after := by
  induction l generalizing before with
  | nil => exact ⟨before, rfl⟩
  | cons v l ih =>
      have hread : ∃ p, readVariable c root before v = some p := by
        rw [readVariable]
        by_cases hv : v.isDumped = true
        · obtain ⟨value, hvalue⟩ :=
            Option.isSome_iff_exists.mp (h v List.mem_cons_self hv (before v.name))
          simp [hv, hvalue]
        · simp [hv]
      obtain ⟨p, hp⟩ := hread
      obtain ⟨after, hafter⟩ := ih (fun w hw => h w (List.mem_cons_of_mem v hw)) p
      exact ⟨after, by simp [List.foldlM_cons, hp, hafter]⟩

/-- What the loop has read, when no two variables have the same name. -/
lemma foldlM_readVariable_spec (l : List Variable) (hl : (l.map Variable.name).Nodup)
    {before after : String → List UInt8}
    (h : l.foldlM (readVariable c root) before = some after) :
    (∀ v ∈ l, v.isDumped = true →
      v.valueFromXml c.env.numbers root (before v.name) = some (after v.name)) ∧
    ∀ name, (∀ v ∈ l, v.isDumped = true → v.name ≠ name) → after name = before name := by
  induction l generalizing before with
  | nil =>
      obtain rfl : before = after := by simpa using h
      exact ⟨by simp, fun _ _ => rfl⟩
  | cons v l ih =>
      rw [List.map_cons, List.nodup_cons] at hl
      rw [List.foldlM_cons, Option.bind_eq_bind, Option.bind_eq_some_iff] at h
      obtain ⟨p, hp, hrest⟩ := h
      obtain ⟨hdumped, hothers⟩ := ih hl.2 hrest
      have hhead : ∀ w ∈ l, w.name ≠ v.name := fun w hw he =>
        hl.1 (he ▸ List.mem_map_of_mem hw)
      have hkeep : after v.name = p v.name := hothers v.name fun w hw _ => hhead w hw
      rw [readVariable] at hp
      by_cases hv : v.isDumped = true
      · rw [if_pos hv, Option.map_eq_some_iff] at hp
        obtain ⟨value, hvalue, rfl⟩ := hp
        refine ⟨fun w hw hwd => ?_, fun name hname => ?_⟩
        · rcases List.mem_cons.mp hw with rfl | hw
          · rw [hvalue, hkeep, Function.update_self]
          · have := hdumped w hw hwd
            rwa [Function.update_of_ne (hhead w hw)] at this
        · rw [hothers name fun w hw => hname w (List.mem_cons_of_mem v hw),
            Function.update_of_ne (hname v List.mem_cons_self hv).symm]
      · rw [if_neg hv] at hp
        obtain rfl := Option.some.inj hp
        refine ⟨fun w hw hwd => ?_, fun name hname => ?_⟩
        · rcases List.mem_cons.mp hw with rfl | hw
          · exact absurd hwd hv
          · exact hdumped w hw hwd
        · exact hothers name fun w hw => hname w (List.mem_cons_of_mem v hw)

/-- `loadDataVariables` of a well-formed dump. -/
lemma loadDataVariables_some {s : DumpManager} (d : VarsText c)
    (hs : s.dumpVars.xmlDoc = some d.root) :
    ∃ pointer, VarsRead c d.root s.pointer pointer ∧
      s.loadDataVariables c = some { s with
        pointer := pointer
        dumpVars := { s.dumpVars with xmlDoc := none }
        acts := s.acts ++ [.loaded .vars] } := by
  obtain ⟨pointer, hpointer⟩ := foldlM_readVariable c.varList d.readable s.pointer
  obtain ⟨hdumped, hothers⟩ := foldlM_readVariable_spec c.varList c.distinct hpointer
  refine ⟨pointer, ⟨hdumped, hothers⟩, ?_⟩
  rw [loadDataVariables, hs]
  simp only [hpointer, Option.map_some]

lemma loadDataVariables_none {s : DumpManager} (hs : s.dumpVars.xmlDoc = none) :
    s.loadDataVariables c = some s := by
  rw [loadDataVariables, hs]

lemma loadDataTotals_some {s : DumpManager} (hs : s.dumpTotals.xmlDoc = some root) :
    s.loadDataTotals c = { s with
      listSource := readTotals c root s.listSource
      dumpTotals := { s.dumpTotals with xmlDoc := none }
      acts := s.acts ++ [.loaded .totals] } := by
  rw [loadDataTotals, hs]

lemma loadDataTotals_none {s : DumpManager} (hs : s.dumpTotals.xmlDoc = none) :
    s.loadDataTotals c = s := by
  rw [loadDataTotals, hs]

lemma setLiveStatus_eq {s : DumpManager} (hs : s.live ≠ .halt) (status : Live) :
    s.setLiveStatus status = { s with live := status } := if_pos hs

end DumpManager

/-! ### The property -/

/-- The dump has been loaded or rejected. -/
def Settled (kind : DumpKind) (acts : List DumpAct) : Prop :=
  .loaded kind ∈ acts ∨ .rejected kind ∈ acts

lemma Settled.append {kind : DumpKind} {acts : List DumpAct} (h : Settled kind acts)
    (l : List DumpAct) : Settled kind (acts ++ l) :=
  h.imp (List.mem_append_left l) (List.mem_append_left l)

namespace StartUp

variable {c : DumpConfig} (u : StartUp c)

/-- The dump is there at the start. -/
def Has : DumpKind → Prop
  | .totals => u.totals.isSome
  | .vars => u.vars.isSome

/-- The totals of the sources are those of the dump if its hash is the one of the configuration or
the operator accepted it, and untouched otherwise. -/
structure TotalsRestored (s : DumpManager) : Prop where
  loaded : ∀ d ∈ u.totals, d.hash = c.hashCfg ∨ .accepted .totals ∈ s.acts →
    s.listSource = DumpManager.readTotals c d.root u.listSource
  untouched : (∀ d ∈ u.totals, d.hash ≠ c.hashCfg ∧ .accepted .totals ∉ s.acts) →
    s.listSource = u.listSource

/-- The same for the variables and their dump. -/
structure VarsRestored (s : DumpManager) : Prop where
  loaded : ∀ d ∈ u.vars, d.hash = c.hashCfg ∨ .accepted .vars ∈ s.acts →
    VarsRead c d.root u.pointer s.pointer
  untouched : (∀ d ∈ u.vars, d.hash ≠ c.hashCfg ∧ .accepted .vars ∉ s.acts) →
    s.pointer = u.pointer

/-- With the last of the events, or with the start, the status has become `RUNNING`. -/
def BecomesRunning (l : List DumpInput) (s : DumpManager) : Prop :=
  u.run l = some s ∧ s.live = .running ∧
    (l = [] ∨ ∃ m i s', l = m ++ [i] ∧ u.run m = some s' ∧ s'.live ≠ .running)

/-- The program never ends by itself; the dumps are restored whenever the status becomes `RUNNING`;
as long as it has not been so, there are answers that lead there; and no file of a dump is written
before the dump was loaded or rejected. -/
structure Restores : Prop where
  alive : ∀ l, ∃ s, u.run l = some s
  restored : ∀ l s, u.BecomesRunning l s → u.TotalsRestored s ∧ u.VarsRestored s
  resolves : ∀ l s, u.run l = some s →
    (∀ pre s', pre <+: l → u.run pre = some s' → s'.live ≠ .running) →
    ∃ m s', (∀ i ∈ m, i.IsAnswer) ∧ u.run (l ++ m) = some s' ∧ s'.live = .running
  spares : ∀ l s pre kind, u.run l = some s → pre ++ [.saved kind] <+: s.acts → u.Has kind →
    Settled kind pre

variable {u}

lemma run_append (l m : List DumpInput) :
    u.run (l ++ m) = u.run l >>= fun s => m.foldlM (DumpManager.step c) s := by
  simp only [run, List.foldlM_append, bind_assoc]

lemma run_concat {l : List DumpInput} {s : DumpManager} (h : u.run l = some s) (i : DumpInput) :
    u.run (l ++ [i]) = s.step c i := by
  rw [run_append, h]
  simp

/-! ### The start -/

lemma files_totals : u.files fileDumpTotals = u.totals.map fun d => d.text := by
  rw [files, Function.update_of_ne (by decide), Function.update_self]

lemma files_vars : u.files fileDumpVariables = u.vars.map fun d => d.text := by
  rw [files, Function.update_self]

variable (u) in
/-- The manager when the dump of the totals has been looked at. -/
def checkedTotals : DumpManager :=
  { u.starting.setTags c with
    dumpTotals := (u.starting.setTags c).dumpTotals.checkFile c.env fileDumpTotals
      (u.files fileDumpTotals) c.hashCfg }

variable (u) in
/-- The manager when both dumps have been looked at. -/
def checkedVars : DumpManager :=
  { u.checkedTotals with
    dumpVars := u.checkedTotals.dumpVars.checkFile c.env fileDumpVariables
      (u.files fileDumpVariables) c.hashCfg }

lemma checkedTotals_none (h : u.totals = none) :
    u.checkedTotals.dumpTotals.result = .notfound ∧ u.checkedTotals.dumpTotals.xmlDoc = none := by
  rw [checkedTotals, files_totals, h, Option.map_none, DumpFile.checkFile_none]
  exact ⟨rfl, rfl⟩

lemma checkedTotals_some {d : DumpText c.env} (h : u.totals = some d) :
    u.checkedTotals.dumpTotals.result = (if d.hash = c.hashCfg then .ok else .notequal) ∧
      u.checkedTotals.dumpTotals.xmlDoc = some d.root := by
  rw [checkedTotals, files_totals, h, Option.map_some, DumpFile.checkFile_some]
  exact ⟨rfl, rfl⟩

lemma checkedVars_none (h : u.vars = none) :
    u.checkedVars.dumpVars.result = .notfound ∧ u.checkedVars.dumpVars.xmlDoc = none := by
  rw [checkedVars, files_vars, h, Option.map_none, DumpFile.checkFile_none]
  exact ⟨rfl, rfl⟩

lemma checkedVars_some {d : VarsText c} (h : u.vars = some d) :
    u.checkedVars.dumpVars.result = (if d.hash = c.hashCfg then .ok else .notequal) ∧
      u.checkedVars.dumpVars.xmlDoc = some d.root := by
  rw [checkedVars, files_vars, h, Option.map_some, DumpFile.checkFile_some]
  exact ⟨rfl, rfl⟩

/-- A dump of the totals with another hash: the operator is asked, and the dump of the variables is
not looked at. -/
lemma loadDumps_totals {d : DumpText c.env} (hd : u.totals = some d) (h : d.hash ≠ c.hashCfg) :
    u.starting.loadDumps c = some { u.checkedTotals with live := .dumpTotals } := by
  have hresult : u.checkedTotals.dumpTotals.result = .notequal := by
    rw [(checkedTotals_some hd).1, if_neg h]
  exact DumpManager.loadDumps_of_notequal rfl rfl hresult

/-- Otherwise the dump of the variables decides. -/
lemma loadDumps_eq (hd : ∀ d ∈ u.totals, d.hash = c.hashCfg) :
    u.starting.loadDumps c = u.checkedTotals.loadDumpsVars c := by
  have hresult : u.checkedTotals.dumpTotals.result = .ok ∨
      u.checkedTotals.dumpTotals.result = .notfound := by
    cases ht : u.totals with
    | none => exact .inr (checkedTotals_none ht).1
    | some d => exact .inl (by rw [(checkedTotals_some ht).1, if_pos (hd d ht)])
  exact DumpManager.loadDumps_of_found rfl rfl hresult

/-- A dump of the variables with another hash: the operator is asked, and the totals are not
loaded. -/
lemma loadDumps_vars (hd : ∀ d ∈ u.totals, d.hash = c.hashCfg) {e : VarsText c}
    (he : u.vars = some e) (h : e.hash ≠ c.hashCfg) :
    u.starting.loadDumps c = some { u.checkedVars with live := .dumpVars } := by
  have hresult : u.checkedVars.dumpVars.result = .notequal := by
    rw [(checkedVars_some he).1, if_neg h]
  rw [loadDumps_eq hd]
  exact DumpManager.loadDumpsVars_of_notequal rfl hresult

/-- No dump with another hash: both are loaded. -/
lemma loadDumps_both (hd : ∀ d ∈ u.totals, d.hash = c.hashCfg)
    (he : ∀ e ∈ u.vars, e.hash = c.hashCfg) :
    u.starting.loadDumps c = ((u.checkedVars.loadDataTotals c).loadDataVariables c).map
      fun s => s.setLiveStatus .running := by
  have hresult : u.checkedVars.dumpVars.result = .ok ∨
      u.checkedVars.dumpVars.result = .notfound := by
    cases hv : u.vars with
    | none => exact .inr (checkedVars_none hv).1
    | some e => exact .inl (by rw [(checkedVars_some hv).1, if_pos (he e hv)])
  rw [loadDumps_eq hd]
  exact DumpManager.loadDumpsVars_of_found rfl hresult

end StartUp

/-! ### The answers -/

namespace DumpManager

variable {c : DumpConfig} {s : DumpManager}

lemma forceLoadDumpTotals_true {root : XmlElement} (hlive : s.live = .dumpTotals)
    (hresult : s.dumpVars.result = .ok) (hdoc : s.dumpTotals.xmlDoc = some root) :
    s.forceLoadDumpTotals c true = { s with
      live := .dumpVars
      listSource := readTotals c root s.listSource
      dumpTotals := { s.dumpTotals with xmlDoc := none }
      acts := s.acts ++ [.accepted .totals] ++ [.loaded .totals] } := by
  simp [forceLoadDumpTotals, answer, loadDataTotals, setLiveStatus, hlive, hresult, hdoc]

lemma forceLoadDumpTotals_false (hlive : s.live = .dumpTotals)
    (hresult : s.dumpVars.result = .ok) :
    s.forceLoadDumpTotals c false = { s with
      live := .dumpVars
      files := Function.update s.files s.dumpTotals.filename none
      acts := s.acts ++ [.rejected .totals] } := by
  simp [forceLoadDumpTotals, answer, simpleFileDelete, setLiveStatus, hlive, hresult]

lemma forceLoadDumpVars_false (hlive : s.live = .dumpVars) :
    s.forceLoadDumpVars c false = some { s with
      live := .running
      files := Function.update s.files s.dumpVars.filename none
      acts := s.acts ++ [.rejected .vars] } := by
  simp [forceLoadDumpVars, answer, simpleFileDelete, setLiveStatus, hlive]

/-- Before the status is `RUNNING`, nothing but the awaited answer changes more than the request to
save the variables. -/
lemma step_other (hlive : s.live ≠ .running) {i : DumpInput}
    (ht : s.live = .dumpTotals → ∀ forceload, i ≠ .forceLoadDumpTotals forceload)
    (hv : s.live = .dumpVars → ∀ forceload, i ≠ .forceLoadDumpVars forceload) :
    s.step c i = some s ∨ s.step c i = some { s with saveVars := true } := by
  cases i with
  | forceLoadDumpTotals forceload =>
      left
      rw [step, forceLoadDumpTotals, if_pos fun h => ht h forceload rfl]
  | forceLoadDumpVars forceload =>
      left
      rw [step, forceLoadDumpVars, if_pos fun h => hv h forceload rfl]
  | doSaveVars => exact .inr rfl
  | proccesing turn =>
      left
      rw [step, proccesing, if_neg hlive]

end DumpManager

namespace StartUp

variable {c : DumpConfig} {u : StartUp c} {s s' : DumpManager}

/-! ### The phases of a start -/

variable (u) in
/-- The operator is asked about the dump of the totals. The dump of the variables has not been
looked at: its result is the one that a `rDumpFile` has from the beginning. -/
structure AwaitsTotals (s : DumpManager) : Prop where
  live : s.live = .dumpTotals
  dump : ∃ d, u.totals = some d ∧ d.hash ≠ c.hashCfg ∧ s.dumpTotals.xmlDoc = some d.root
  result : s.dumpVars.result = .ok
  doc : s.dumpVars.xmlDoc = none
  listSource : s.listSource = u.listSource
  pointer : s.pointer = u.pointer
  acts : s.acts = []

variable (u) in
/-- The operator is asked about the dump of the variables, and the totals are restored. -/
structure AwaitsVars (s : DumpManager) : Prop where
  live : s.live = .dumpVars
  hash : ∀ d ∈ u.vars, d.hash ≠ c.hashCfg
  doc : s.dumpVars.xmlDoc = u.vars.map fun d => d.root
  totals : u.TotalsRestored s
  pointer : s.pointer = u.pointer
  settled : u.totals.isSome → Settled .totals s.acts
  unsaved : ∀ kind, .saved kind ∉ s.acts
  unanswered : .accepted .vars ∉ s.acts

variable (u) in
/-- The manager has been `RUNNING`, and no dump is lost. -/
structure Up (s : DumpManager) : Prop where
  live : s.live = .running ∨ s.live = .halt
  settled : ∀ kind, u.Has kind → Settled kind s.acts
  spares : ∀ pre kind, pre ++ [.saved kind] <+: s.acts → u.Has kind → Settled kind pre

/-- A state in which every dump is settled and nothing has been saved. -/
lemma Up.of_unsaved (hlive : s.live = .running) (h : ∀ kind, u.Has kind → Settled kind s.acts)
    (hs : ∀ kind, .saved kind ∉ s.acts) : u.Up s where
  live := .inl hlive
  settled := h
  spares pre kind hpre _ := absurd (hpre.subset (by simp)) (hs kind)

lemma Up.congr (hs : u.Up s) (hlive : s'.live = .running ∨ s'.live = .halt)
    (hacts : s'.acts = s.acts) : u.Up s' where
  live := hlive
  settled := hacts ▸ hs.settled
  spares := hacts ▸ hs.spares

/-- A dump is saved. -/
lemma Up.saved (hs : u.Up s) {kind : DumpKind} (hlive : s'.live = s.live)
    (hacts : s'.acts = s.acts ++ [.saved kind]) : u.Up s' where
  live := hlive ▸ hs.live
  settled k hk := hacts ▸ (hs.settled k hk).append _
  spares pre k hpre hk := by
    rw [hacts] at hpre
    rcases List.prefix_concat_iff.mp hpre with h | h
    · exact (List.append_inj_left' h rfl) ▸ hs.settled k hk
    · exact hs.spares pre k h hk

lemma Up.doHalt (hs : u.Up s) : u.Up s.doHalt := by
  rw [DumpManager.doHalt]
  split_ifs
  · exact hs
  · exact hs.congr (.inr rfl) rfl

lemma Up.haltIfFailed (hs : u.Up s) (saving : Saving) : u.Up (s.haltIfFailed saving) := by
  cases saving with
  | whole => exact hs
  | failed left => exact hs.doHalt

lemma Up.saveDataVariables (hs : u.Up s) (saving : Saving) :
    u.Up (s.saveDataVariables c saving) :=
  (hs.saved (by cases saving <;> rfl) rfl).haltIfFailed saving

lemma Up.saveDataTotals (hs : u.Up s) (saving : Saving) : u.Up (s.saveDataTotals c saving) :=
  (hs.saved (by cases saving <;> rfl) rfl).haltIfFailed saving

lemma Up.scan (hs : u.Up s) (turn : DumpTurn) : u.Up (s.scan turn) := by
  have hscan : u.Up { s with
      listSource := (turn.calculate (s.listSource, s.pointer)).1
      pointer := (turn.calculate (s.listSource, s.pointer)).2 } := hs.congr hs.live rfl
  rw [DumpManager.scan]
  split_ifs
  · exact hscan.doHalt
  · exact hscan

lemma Up.saves (hs : u.Up s) (turn : DumpTurn) : u.Up (s.saves c turn) := by
  have hvars : u.Up (if s.saveVars then s.saveDataVariables c turn.savingVars else s) := by
    split_ifs
    · exact hs.saveDataVariables turn.savingVars
    · exact hs
  dsimp only [DumpManager.saves]
  by_cases htimer : turn.timerTotal = true
  · rw [if_pos htimer]
    exact hvars.saveDataTotals turn.savingTotals
  · rw [if_neg htimer]
    exact hvars

/-- One event after the manager has been `RUNNING`: the status does not become so again. -/
lemma Up.step (hs : u.Up s) (i : DumpInput) :
    ∃ s', s.step c i = some s' ∧ u.Up s' ∧ (s'.live = .running → s.live = .running) := by
  by_cases hlive : s.live = .running
  · cases i with
    | forceLoadDumpTotals forceload =>
        exact ⟨s, by simp [DumpManager.step, DumpManager.forceLoadDumpTotals, hlive], hs, id⟩
    | forceLoadDumpVars forceload =>
        exact ⟨s, by simp [DumpManager.step, DumpManager.forceLoadDumpVars, hlive], hs, id⟩
    | doSaveVars => exact ⟨_, rfl, hs.congr hs.live rfl, id⟩
    | proccesing turn =>
        refine ⟨_, rfl, ?_, fun _ => hlive⟩
        rw [DumpManager.proccesing, if_pos hlive]
        dsimp only
        split_ifs
        · exact (hs.scan turn).saves turn
        · exact hs.scan turn
  · have hhalt := hs.live.resolve_left hlive
    rcases DumpManager.step_other hlive (i := i) (by simp [hhalt]) (by simp [hhalt]) with h | h
    · exact ⟨s, h, hs, id⟩
    · exact ⟨_, h, hs.congr hs.live rfl, id⟩

lemma TotalsRestored.congr (hs : u.TotalsRestored s) (hlist : s'.listSource = s.listSource)
    (hacts : .accepted .totals ∈ s'.acts ↔ .accepted .totals ∈ s.acts) : u.TotalsRestored s' where
  loaded d hd h := hlist.trans (hs.loaded d hd (h.imp_right hacts.mp))
  untouched h := hlist.trans (hs.untouched fun d hd => ⟨(h d hd).1, fun ha =>
    (h d hd).2 (hacts.mpr ha)⟩)

/-- The dump of the variables is loaded as the last thing before the status is `RUNNING`. -/
lemma load_vars (hlive : s.live ≠ .halt)
    (hdoc : s.dumpVars.xmlDoc = u.vars.map fun d => d.root) (htotals : u.TotalsRestored s)
    (hpointer : s.pointer = u.pointer) (hsettled : u.totals.isSome → Settled .totals s.acts)
    (hunsaved : ∀ kind, .saved kind ∉ s.acts)
    (hall : ∀ d ∈ u.vars, d.hash = c.hashCfg ∨ .accepted .vars ∈ s.acts) :
    ∃ s', ((s.loadDataVariables c).map fun s => s.setLiveStatus .running) = some s' ∧
      u.Up s' ∧ s'.live = .running ∧ u.TotalsRestored s' ∧ u.VarsRestored s' := by
  cases hv : u.vars with
  | none =>
      rw [DumpManager.loadDataVariables_none (by rw [hdoc, hv, Option.map_none]), Option.map_some,
        DumpManager.setLiveStatus_eq hlive]
      refine ⟨_, rfl, .of_unsaved rfl (fun kind hk => ?_) hunsaved, rfl,
        htotals.congr rfl Iff.rfl, ⟨fun d hd => by simp [hv] at hd, fun _ => hpointer⟩⟩
      cases kind with
      | totals => exact hsettled hk
      | vars => simp [Has, hv] at hk
  | some d =>
      have hroot : s.dumpVars.xmlDoc = some d.root := by rw [hdoc, hv, Option.map_some]
      obtain ⟨pointer, hread, hload⟩ := DumpManager.loadDataVariables_some d hroot
      rw [hload, Option.map_some, DumpManager.setLiveStatus_eq (by exact hlive)]
      refine ⟨_, rfl, .of_unsaved rfl (fun kind hk => ?_) fun kind => by simp [hunsaved kind], rfl,
        htotals.congr rfl (by simp), ⟨fun e he _ => ?_, fun h => ?_⟩⟩
      · cases kind with
        | totals => exact (hsettled hk).append _
        | vars => exact .inl (by simp)
      · obtain rfl : d = e := Option.some.inj (hv.symm.trans he)
        exact hpointer ▸ hread
      · obtain ⟨hhash, hacts⟩ := h d hv
        exact absurd (hall d hv) (by simpa [hhash] using hacts)

/-- One event while the operator is asked about the variables: unless it is his answer, he is still
asked, and with it everything is restored. -/
lemma AwaitsVars.step (hs : u.AwaitsVars s) (i : DumpInput) :
    ∃ s', s.step c i = some s' ∧
      (u.AwaitsVars s' ∨
        u.Up s' ∧ s'.live = .running ∧ u.TotalsRestored s' ∧ u.VarsRestored s') := by
  by_cases hi : ∃ forceload, i = .forceLoadDumpVars forceload
  · obtain ⟨forceload, rfl⟩ := hi
    cases forceload with
    | false =>
        refine ⟨_, DumpManager.forceLoadDumpVars_false hs.live, .inr ⟨?_, rfl, ?_, ?_⟩⟩
        · refine .of_unsaved rfl (fun kind hk => ?_) fun kind => by simp [hs.unsaved kind]
          cases kind with
          | totals => exact (hs.settled hk).append _
          | vars => exact .inr (by simp)
        · exact hs.totals.congr rfl (by simp)
        · exact ⟨fun d hd h => absurd h (by simp [hs.hash d hd, hs.unanswered]),
            fun _ => hs.pointer⟩
    | true =>
        have hload := load_vars (u := u) (s := s.answer .vars true)
          (by simp [DumpManager.answer, hs.live]) hs.doc
          (hs.totals.congr rfl (by simp [DumpManager.answer])) hs.pointer
          (fun h => (hs.settled h).append _) (fun kind => by simp [DumpManager.answer, hs.unsaved])
          (fun d _ => .inr (by simp [DumpManager.answer]))
        obtain ⟨s', hs', h⟩ := hload
        refine ⟨s', ?_, .inr h⟩
        rw [DumpManager.step, DumpManager.forceLoadDumpVars, if_neg (by simp [hs.live])]
        exact hs'
  · rcases DumpManager.step_other (c := c) (s := s) (i := i) (by simp [hs.live]) (by simp [hs.live])
      (fun _ forceload he => hi ⟨forceload, he⟩) with h | h
    · exact ⟨s, h, .inl hs⟩
    · exact ⟨_, h, .inl ⟨hs.live, hs.hash, hs.doc, hs.totals.congr rfl Iff.rfl, hs.pointer,
        hs.settled, hs.unsaved, hs.unanswered⟩⟩

/-- One event while the operator is asked about the totals, when there is no dump of the
variables. -/
lemma AwaitsTotals.step (hs : u.AwaitsTotals s) (hv : u.vars = none) (i : DumpInput) :
    ∃ s', s.step c i = some s' ∧ (u.AwaitsTotals s' ∨ u.AwaitsVars s') := by
  obtain ⟨d, hd, hhash, hroot⟩ := hs.dump
  have honly : ∀ e ∈ u.totals, e = d := fun e he => Option.some.inj (he.symm.trans hd)
  by_cases hi : ∃ forceload, i = .forceLoadDumpTotals forceload
  · obtain ⟨forceload, rfl⟩ := hi
    cases forceload with
    | false =>
        refine ⟨_, congrArg some (DumpManager.forceLoadDumpTotals_false hs.live hs.result), .inr ?_⟩
        refine ⟨rfl, by simp [hv], by simp [hv, hs.doc], ⟨fun e he h => ?_, fun _ => hs.listSource⟩,
          hs.pointer, fun _ => .inr (by simp), by simp [hs.acts], by simp [hs.acts]⟩
        obtain rfl := honly e he
        exact absurd h (by simp [hhash, hs.acts])
    | true =>
        refine ⟨_, congrArg some (DumpManager.forceLoadDumpTotals_true hs.live hs.result hroot),
          .inr ?_⟩
        refine ⟨rfl, by simp [hv], by simp [hv, hs.doc], ⟨fun e he _ => ?_, fun h => ?_⟩,
          hs.pointer, fun _ => .inl (by simp), by simp [hs.acts], by simp [hs.acts]⟩
        · obtain rfl := honly e he
          rw [← hs.listSource]
        · exact absurd (h d hd).2 (by simp)
  · rcases DumpManager.step_other (c := c) (s := s) (i := i) (by simp [hs.live])
      (fun _ forceload he => hi ⟨forceload, he⟩) (by simp [hs.live]) with h | h
    · exact ⟨s, h, .inl hs⟩
    · exact ⟨_, h, .inl ⟨hs.live, hs.dump, hs.result, hs.doc, hs.listSource, hs.pointer, hs.acts⟩⟩

/-! ### Starts that restore -/

/-- The state in which the start leaves the manager. -/
lemma run_nil (h : ∀ d ∈ u.totals, ∀ e ∈ u.vars, d.hash = c.hashCfg ∧ e.hash = c.hashCfg) :
    ∃ s, u.run [] = some s ∧
      (u.AwaitsTotals s ∧ u.vars = none ∨ u.AwaitsVars s ∨
        u.Up s ∧ s.live = .running ∧ u.TotalsRestored s ∧ u.VarsRestored s) := by
  have hrun : u.run [] = u.starting.loadDumps c := by simp [run]
  rw [hrun]
  by_cases ht : ∀ d ∈ u.totals, d.hash = c.hashCfg
  · by_cases hv : ∀ e ∈ u.vars, e.hash = c.hashCfg
    · -- Nothing is asked, and both are loaded.
      rw [loadDumps_both ht hv]
      have hdoc : u.checkedVars.dumpVars.xmlDoc = u.vars.map fun d => d.root := by
        cases he : u.vars with
        | none => exact (checkedVars_none he).2
        | some e => exact (checkedVars_some he).2
      have hload : ∃ s', (((u.checkedVars.loadDataTotals c).loadDataVariables c).map fun s =>
          s.setLiveStatus .running) = some s' ∧
          u.Up s' ∧ s'.live = .running ∧ u.TotalsRestored s' ∧ u.VarsRestored s' := by
        cases hd : u.totals with
        | none =>
            rw [DumpManager.loadDataTotals_none (s := u.checkedVars) (checkedTotals_none hd).2]
            exact load_vars nofun hdoc ⟨by simp [hd], fun _ => rfl⟩ rfl
              (by simp [hd]) (fun _ => List.not_mem_nil) fun e he => .inl (hv e he)
        | some d =>
            rw [DumpManager.loadDataTotals_some (s := u.checkedVars) (checkedTotals_some hd).2]
            refine load_vars nofun hdoc ⟨fun e he _ => ?_, fun h => ?_⟩ rfl (fun _ => .inl ?_)
              (fun kind => ?_) fun e he => .inl (hv e he)
            · obtain rfl : d = e := Option.some.inj (hd.symm.trans he)
              rfl
            · exact absurd (ht d hd) (h d hd).1
            · exact List.mem_append_right _ (List.mem_singleton_self _)
            · exact fun hm => by simpa using (List.mem_append.mp hm).resolve_left List.not_mem_nil
      obtain ⟨s', hs', hup⟩ := hload
      exact ⟨s', hs', .inr (.inr hup)⟩
    · push Not at hv
      obtain ⟨e, he, hhash⟩ := hv
      have hnone : u.totals = none := Option.eq_none_iff_forall_not_mem.mpr fun d hd =>
        hhash (h d hd e he).2
      refine ⟨_, loadDumps_vars ht he hhash, .inr (.inl ?_)⟩
      have honly : ∀ e' ∈ u.vars, e' = e := fun e' he' => Option.some.inj (he'.symm.trans he)
      exact {
        live := rfl
        hash := fun e' he' => honly e' he' ▸ hhash
        doc := by
          rw [he]
          exact (checkedVars_some he).2
        totals := ⟨by simp [hnone], fun _ => rfl⟩
        pointer := rfl
        settled := by simp [hnone]
        unsaved := fun _ => List.not_mem_nil
        unanswered := List.not_mem_nil }
  · push Not at ht
    obtain ⟨d, hd, hhash⟩ := ht
    have hnone : u.vars = none := Option.eq_none_iff_forall_not_mem.mpr fun e he =>
      hhash (h d hd e he).1
    refine ⟨_, loadDumps_totals hd hhash, .inl ⟨?_, hnone⟩⟩
    exact ⟨rfl, ⟨d, hd, hhash, (checkedTotals_some hd).2⟩, rfl, rfl, rfl, rfl, rfl⟩

/-- The phases of a run: as long as the manager has not been `RUNNING`, the operator is asked. -/
lemma run_phase (h : ∀ d ∈ u.totals, ∀ e ∈ u.vars, d.hash = c.hashCfg ∧ e.hash = c.hashCfg)
    (l : List DumpInput) :
    ∃ s, u.run l = some s ∧
      (u.AwaitsTotals s ∧ u.vars = none ∨ u.AwaitsVars s ∨
        u.Up s ∧ ∃ pre s', pre <+: l ∧ u.run pre = some s' ∧ s'.live = .running) := by
  induction l using List.reverseRecOn with
  | nil =>
      obtain ⟨s, hs, hphase⟩ := run_nil h
      exact ⟨s, hs, hphase.imp_right (Or.imp_right fun hup =>
        ⟨hup.1, [], s, List.nil_prefix, hs, hup.2.1⟩)⟩
  | append_singleton l i ih =>
      obtain ⟨s, hs, ⟨ht, hv⟩ | hv | ⟨hup, pre, s₁, hpre, hs₁, hlive⟩⟩ := ih
      · obtain ⟨s', hs', hphase⟩ := ht.step hv i
        exact ⟨s', (run_concat hs i).trans hs', hphase.imp (⟨·, hv⟩) .inl⟩
      · obtain ⟨s', hs', hphase⟩ := hv.step i
        have hrun := (run_concat hs i).trans hs'
        exact ⟨s', hrun, .inr (hphase.imp_right fun hup =>
          ⟨hup.1, l ++ [i], s', List.prefix_rfl, hrun, hup.2.1⟩)⟩
      · obtain ⟨s', hs', hup', -⟩ := hup.step i
        exact ⟨s', (run_concat hs i).trans hs', .inr (.inr
          ⟨hup', pre, s₁, hpre.trans (List.prefix_append l [i]), hs₁, hlive⟩)⟩

/-- With the status becoming `RUNNING`, the dumps are restored. -/
lemma restored_of_becomes
    (h : ∀ d ∈ u.totals, ∀ e ∈ u.vars, d.hash = c.hashCfg ∧ e.hash = c.hashCfg)
    {l : List DumpInput} (hl : u.BecomesRunning l s) : u.TotalsRestored s ∧ u.VarsRestored s := by
  obtain ⟨hs, hlive, rfl | ⟨m, i, s₀, rfl, hs₀, hlive₀⟩⟩ := hl
  · obtain ⟨s', hs', hphase⟩ := run_nil h
    obtain rfl : s' = s := Option.some.inj (hs'.symm.trans hs)
    rcases hphase with ⟨ht, -⟩ | hv | hup
    · exact absurd (ht.live.symm.trans hlive) nofun
    · exact absurd (hv.live.symm.trans hlive) nofun
    · exact hup.2.2
  · rw [run_concat hs₀] at hs
    obtain ⟨s', hs', hphase⟩ := run_phase h m
    obtain rfl : s' = s₀ := Option.some.inj (hs'.symm.trans hs₀)
    rcases hphase with ⟨ht, hv⟩ | hv | ⟨hup, -⟩
    · obtain ⟨s₁, hs₁, hphase⟩ := ht.step hv i
      obtain rfl : s₁ = s := Option.some.inj (hs₁.symm.trans hs)
      rcases hphase with ht | hv
      · exact absurd (ht.live.symm.trans hlive) nofun
      · exact absurd (hv.live.symm.trans hlive) nofun
    · obtain ⟨s₁, hs₁, hphase⟩ := hv.step i
      obtain rfl : s₁ = s := Option.some.inj (hs₁.symm.trans hs)
      rcases hphase with hv | hup
      · exact absurd (hv.live.symm.trans hlive) nofun
      · exact hup.2.2
    · obtain ⟨s₁, hs₁, -, hback⟩ := hup.step i
      obtain rfl : s₁ = s := Option.some.inj (hs₁.symm.trans hs)
      exact absurd (hback hlive) hlive₀

/-- A rejection ends the start that asks about the variables. -/
lemma step_reject (hlive : s.live = .dumpVars) :
    ∃ s', s.step c (.forceLoadDumpVars false) = some s' ∧ s'.live = .running :=
  ⟨_, DumpManager.forceLoadDumpVars_false hlive, rfl⟩

lemma restores_of (h : ∀ d ∈ u.totals, ∀ e ∈ u.vars, d.hash = c.hashCfg ∧ e.hash = c.hashCfg) :
    u.Restores where
  alive l := (run_phase h l).imp fun _ hs => hs.1
  restored _ _ hl := restored_of_becomes h hl
  resolves l s hs hbefore := by
    obtain ⟨s', hs', ⟨ht, hv⟩ | hv | ⟨-, pre, s₁, hpre, hs₁, hlive⟩⟩ := run_phase h l
    · have hrun := run_concat hs' (.forceLoadDumpTotals false)
      obtain ⟨s₁, hs₁, hlive⟩ : ∃ s₁, s'.step c (.forceLoadDumpTotals false) = some s₁ ∧
          s₁.live = .dumpVars :=
        ⟨_, congrArg some (DumpManager.forceLoadDumpTotals_false ht.live ht.result), rfl⟩
      rw [hs₁] at hrun
      obtain ⟨s₂, hs₂, hrunning⟩ := step_reject hlive
      refine ⟨[.forceLoadDumpTotals false, .forceLoadDumpVars false], s₂, ?_, ?_, hrunning⟩
      · simp [DumpInput.IsAnswer]
      · rw [List.append_cons, run_concat hrun]
        exact hs₂
    · obtain ⟨s₁, hs₁, hlive⟩ := step_reject hv.live
      exact ⟨[.forceLoadDumpVars false], s₁, by simp [DumpInput.IsAnswer],
        (run_concat hs' _).trans hs₁, hlive⟩
    · exact absurd hlive (hbefore pre s₁ hpre hs₁)
  spares l s pre kind hs hpre hk := by
    have hsaved : .saved kind ∈ s.acts := hpre.subset (by simp)
    obtain ⟨s', hs', hphase⟩ := run_phase h l
    obtain rfl : s' = s := Option.some.inj (hs'.symm.trans hs)
    rcases hphase with ⟨ht, -⟩ | hv | ⟨hup, -⟩
    · simp [ht.acts] at hsaved
    · exact absurd hsaved (hv.unsaved kind)
    · exact hup.spares pre kind hpre hk

/-! ### Starts that do not -/

/-- A turn that changes nothing and in which the timer of the totals is finished. -/
def saveTurn : DumpTurn := ⟨id, false, true, .whole, .whole⟩

lemma acts_saveTurn (hlive : s.live = .running) :
    (s.proccesing c saveTurn).acts
      = s.acts ++ (if s.saveVars then [.saved .vars] else []) ++ [.saved .totals] := by
  cases hsave : s.saveVars <;>
    simp [DumpManager.proccesing, DumpManager.scan, DumpManager.saves, saveTurn, hlive, hsave,
      DumpManager.saveDataVariables, DumpManager.saveDataTotals, DumpManager.haltIfFailed,
      DumpManager.simpleFileSave]

/-- With a good dump of the totals and a dump of the variables that the operator is asked about, the
totals are never loaded, and soon saved. -/
lemma not_restores_totals (hd : ∀ d ∈ u.totals, d.hash = c.hashCfg) (hhas : u.totals.isSome)
    {e : VarsText c} (he : u.vars = some e) (h : e.hash ≠ c.hashCfg) : ¬ u.Restores := by
  intro hr
  have hrun : u.run [.forceLoadDumpVars false, .proccesing saveTurn] = some
      (({ u.checkedVars with
        live := .running
        files := Function.update u.checkedVars.files u.checkedVars.dumpVars.filename none
        acts := [.rejected .vars] } : DumpManager).proccesing c saveTurn) := by
    rw [run, loadDumps_vars hd he h]
    rfl
  have hsettled := hr.spares _ _ [.rejected .vars] .totals hrun
    (by rw [acts_saveTurn rfl]; exact List.prefix_rfl) hhas
  simp [Settled] at hsettled

/-- With a dump of the totals that the operator is asked about, a dump of the variables is never
loaded, although he may accept it, and may be saved. -/
lemma not_restores_vars {d : DumpText c.env} (hd : u.totals = some d) (h : d.hash ≠ c.hashCfg)
    (hhas : u.vars.isSome) : ¬ u.Restores := by
  intro hr
  have hrun : u.run [.forceLoadDumpTotals false, .forceLoadDumpVars true, .doSaveVars,
      .proccesing saveTurn] = some
      (({ u.checkedTotals with
        live := .running
        files := Function.update u.checkedTotals.files u.checkedTotals.dumpTotals.filename none
        saveVars := true
        acts := [.rejected .totals, .accepted .vars] } : DumpManager).proccesing c saveTurn) := by
    rw [run, loadDumps_totals hd h]
    rfl
  have hsettled := hr.spares _ _ [.rejected .totals, .accepted .vars] .vars hrun
    (by rw [acts_saveTurn rfl]; exact List.prefix_append _ [DumpAct.saved .totals]) hhas
  simp [Settled] at hsettled

/-- A start restores the dumps if and only if one of them is missing or both have the hash of the
running configuration. -/
theorem restores_iff (u : StartUp c) :
    u.Restores ↔ ∀ d ∈ u.totals, ∀ e ∈ u.vars, d.hash = c.hashCfg ∧ e.hash = c.hashCfg := by
  refine ⟨fun hr d hd e he => ?_, restores_of⟩
  have honly : ∀ d' ∈ u.totals, d' = d := fun d' hd' => Option.some.inj (hd'.symm.trans hd)
  have htotals : d.hash = c.hashCfg := by
    by_contra h
    exact not_restores_vars hd h (Option.isSome_iff_exists.mpr ⟨e, he⟩) hr
  refine ⟨htotals, ?_⟩
  by_contra h
  exact not_restores_totals (fun d' hd' => honly d' hd' ▸ htotals)
    (Option.isSome_iff_exists.mpr ⟨d, hd⟩) he h hr

/-! ### Two dumps of an earlier configuration -/

/-- The hash of an earlier configuration. -/
def oldHash : String := "ffeeddccbbaa99887766554433221100ffeeddcc"

/-- A dump of the totals without sources. -/
def oldTotals : String := "<totals hash=\"ffeeddccbbaa99887766554433221100ffeeddcc\"></totals>"

/-- A dump of one variable. -/
def oldVars : String :=
  "<variables hash=\"ffeeddccbbaa99887766554433221100ffeeddcc\"><setup>5</setup></variables>"

/-- The root of `oldTotals`. -/
def oldTotalsRoot : XmlElement := .node "totals" [("hash", oldHash)] none []

/-- The root of `oldVars`. -/
def oldVarsRoot : XmlElement :=
  .node "variables" [("hash", oldHash)] none [.node "setup" [] (some "5") []]

/-- The configuration has one variable, which is dumped. -/
def newConfig : DumpConfig where
  env :=
    { parse := fun text =>
        if text = oldTotals then .ok oldTotalsRoot
        else if text = oldVars then .ok oldVarsRoot
        else .error 1
      toDouble := fun _ => none
      toInt := fun _ => none
      format15f := fun _ => ""
      numbers :=
        { stoul := fun _ => some 5
          stol := fun _ => none
          stof := fun _ => none
          stod := fun _ => none
          toReal := fun _ => []
          format := fun _ _ => "5" } }
  hashCfg := "00112233445566778899aabbccddeeff00112233"
  varList := [⟨"setup", .uint, 0x8003, 0⟩]
  distinct := List.nodup_singleton _

/-- The program starts with it and finds the two dumps. -/
def oldDumps : StartUp newConfig where
  totals := some ⟨oldTotals, oldTotalsRoot, oldHash, by decide, rfl, rfl, by decide⟩
  vars := some
    { text := oldVars
      root := oldVarsRoot
      hash := oldHash
      nonempty := by decide
      parsed := rfl
      hashed := rfl
      size := by decide
      readable := by
        intro v hv _ value
        obtain rfl := List.mem_singleton.mp hv
        rfl }
  listSource := []
  pointer := fun _ => [0, 0]
  disk := fun _ => none

/-- The operator accepts both dumps, the variables are to be saved, and a turn saves. -/
def acceptBoth : List DumpInput :=
  [.forceLoadDumpTotals true, .forceLoadDumpVars true, .doSaveVars, .proccesing saveTurn]

/-- The variables are not loaded, and their dump is written over. -/
theorem restores_fails :
    ((oldDumps.run acceptBoth).map fun s => (s.acts, s.pointer "setup"))
        = some ([.accepted .totals, .loaded .totals, .accepted .vars, .saved .vars,
          .saved .totals], [0, 0]) ∧
      ¬ oldDumps.Restores := by
  have hrun : ((oldDumps.run acceptBoth).map fun s => (s.acts, s.pointer "setup"))
      = some ([.accepted .totals, .loaded .totals, .accepted .vars, .saved .vars,
        .saved .totals], [0, 0]) := by rfl
  refine ⟨hrun, fun hr => ?_⟩
  obtain ⟨s, hs, heq⟩ := Option.map_eq_some_iff.mp hrun
  have hacts := congrArg Prod.fst heq
  dsimp only at hacts
  have hsettled := hr.spares _ s [.accepted .totals, .loaded .totals, .accepted .vars] .vars hs
    (by rw [hacts]; exact List.prefix_append _ [DumpAct.saved .totals]) rfl
  simp [Settled] at hsettled

end StartUp

end Tritonn

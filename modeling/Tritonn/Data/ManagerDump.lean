import Tritonn.Data.Dump
import Tritonn.Json.Manager

/-!
`src/tritonn/data/manager_dump.cpp`: the dumps of `rDataManager`, from the start of the program on.

* `DumpConfig` is the running configuration with the libraries, `DumpManager` what the dumps use of
  `rDataManager`, with a record of what was done to the two files;
* `loadDumps`, `forceLoadDumpTotals`, `forceLoadDumpVars`, `saveDataTotals` and `saveDataVariables`
  are the functions of the source, and `proccesing` is one turn of `rDataManager::Proccesing`;
* `StartUp` is what the program finds when it starts, `DumpManager.step` one event after that, and
  `StartUp.run` the state after a list of events.

The program is started without its argument `NoDump`, which leaves the dumps out.
-/

namespace Tritonn

/-- `FILE_RESTART`. -/
def fileRestart : String := "./tritonn.restart"

/-- The running configuration: its hash and the variables of the program, whose names differ, since
`rVariableList::add` takes no name twice. -/
structure DumpConfig where
  env : DumpEnv
  hashCfg : String
  varList : List Variable
  distinct : (varList.map Variable.name).Nodup

/-- The two dumps. -/
inductive DumpKind where
  | totals
  | vars
  deriving DecidableEq, Repr

/-- What was done about a dump: it was accepted or rejected by the operator, it was loaded, or its
file was written. -/
inductive DumpAct where
  | accepted (kind : DumpKind)
  | rejected (kind : DumpKind)
  | loaded (kind : DumpKind)
  | saved (kind : DumpKind)
  deriving DecidableEq, Repr

/-- What `simpleFileSave` did: the file is written, or the writing failed and left something. -/
inductive Saving where
  | whole
  | failed (left : Option String)

/-- `rDataManager`, as far as the dumps go: the status, `Halt`, the sources with their totals, the
memory of the variables, the files, the two dumps, `m_doSaveVars`, and what was done. -/
structure DumpManager where
  live : Live
  halt : Bool
  listSource : List (String × Option Total)
  pointer : String → List UInt8
  files : String → Option String
  dumpTotals : DumpFile
  dumpVars : DumpFile
  saveVars : Bool
  acts : List DumpAct

namespace DumpManager

variable (c : DumpConfig)

/-- `setLiveStatus`. -/
def setLiveStatus (s : DumpManager) (status : Live) : DumpManager :=
  if s.live ≠ .halt then { s with live := status } else s

/-- `DoHalt`. -/
def doHalt (s : DumpManager) : DumpManager :=
  if s.halt then s
  else
    { s with
      halt := true
      live := .halt
      files := Function.update s.files fileRestart (some "cold") }

/-- `simpleFileDelete`. -/
def simpleFileDelete (s : DumpManager) (filename : String) : DumpManager :=
  { s with files := Function.update s.files filename none }

/-- `simpleFileSave`. -/
def simpleFileSave (s : DumpManager) (filename text : String) : Saving → DumpManager
  | .whole => { s with files := Function.update s.files filename (some text) }
  | .failed left => { s with files := Function.update s.files filename left }

/-- What `saveDataVariables` and `saveDataTotals` do after the writing. -/
def haltIfFailed (s : DumpManager) : Saving → DumpManager
  | .whole => s
  | .failed _ => s.doHalt

/-- The text that `saveDataVariables` writes. -/
def varsText (s : DumpManager) : String :=
  s.dumpVars.prefixText ++
    String.join (c.varList.map fun v =>
      if v.isDumped then v.valueToXml c.env.numbers (s.pointer v.name) else "") ++
    s.dumpVars.suffixText

/-- `saveDataVariables`. -/
def saveDataVariables (s : DumpManager) (saving : Saving) : DumpManager :=
  haltIfFailed
    { { s with saveVars := false }.simpleFileSave fileDumpVariables (s.varsText c) saving with
      acts := s.acts ++ [.saved .vars] } saving

/-- The text that `saveDataTotals` writes. -/
def totalsText (s : DumpManager) : String :=
  s.dumpTotals.prefixText ++
    String.join (s.listSource.map fun item =>
      match item.2 with
      | none => ""
      | some total => total.toXml c.env item.1) ++
    s.dumpTotals.suffixText

/-- `saveDataTotals`. -/
def saveDataTotals (s : DumpManager) (saving : Saving) : DumpManager :=
  haltIfFailed
    { s.simpleFileSave fileDumpTotals (s.totalsText c) saving with
      acts := s.acts ++ [.saved .totals] } saving

/-- The loop of `loadDataTotals`. -/
def readTotals (root : XmlElement) (listSource : List (String × Option Total)) :
    List (String × Option Total) :=
  listSource.map fun item => (item.1, item.2.map fun total => total.fromXml c.env root item.1)

/-- `loadDataTotals`. -/
def loadDataTotals (s : DumpManager) : DumpManager :=
  match s.dumpTotals.xmlDoc with
  | none => s
  | some root =>
      { s with
        listSource := readTotals c root s.listSource
        dumpTotals := { s.dumpTotals with xmlDoc := none }
        acts := s.acts ++ [.loaded .totals] }

/-- One turn of the loop of `loadDataVariables`. -/
def readVariable (root : XmlElement) (pointer : String → List UInt8) (v : Variable) :
    Option (String → List UInt8) :=
  if v.isDumped then
    (v.valueFromXml c.env.numbers root (pointer v.name)).map (Function.update pointer v.name)
  else some pointer

/-- `loadDataVariables`; `none` is the end of the program. -/
def loadDataVariables (s : DumpManager) : Option DumpManager :=
  match s.dumpVars.xmlDoc with
  | none => some s
  | some root =>
      (c.varList.foldlM (readVariable c root) s.pointer).map fun pointer =>
        { s with
          pointer := pointer
          dumpVars := { s.dumpVars with xmlDoc := none }
          acts := s.acts ++ [.loaded .vars] }

/-- The opening and the closing of the two dumps, with which `loadDumps` begins. -/
def setTags (s : DumpManager) : DumpManager :=
  { s with
    dumpVars := { s.dumpVars with
      prefixText := "<variables hash=\"" ++ c.hashCfg ++ "\">"
      suffixText := "</variables>" }
    dumpTotals := { s.dumpTotals with
      prefixText := "<totals hash=\"" ++ c.hashCfg ++ "\">"
      suffixText := "</totals>" } }

/-- The part of `loadDumps` that finds out about the dump of the variables, and its end. -/
def loadDumpsVars (s : DumpManager) : Option DumpManager :=
  let s := { s with dumpVars :=
    s.dumpVars.checkFile c.env fileDumpVariables (s.files fileDumpVariables) c.hashCfg }
  match s.dumpVars.result with
  | .ok | .notfound =>
      (s.loadDataTotals c).loadDataVariables c |>.map fun s => s.setLiveStatus .running
  | .notequal => some (s.setLiveStatus .dumpVars)
  | _ => some (s.simpleFileDelete s.dumpVars.filename).doHalt

/-- `loadDumps`. -/
def loadDumps (s : DumpManager) : Option DumpManager :=
  let s := s.setTags c
  if s.live ≠ .starting then some s
  else
    let s := { s with dumpTotals :=
      s.dumpTotals.checkFile c.env fileDumpTotals (s.files fileDumpTotals) c.hashCfg }
    match s.dumpTotals.result with
    | .ok | .notfound => s.loadDumpsVars c
    | .notequal => some (s.setLiveStatus .dumpTotals)
    | _ => some (s.simpleFileDelete s.dumpTotals.filename).doHalt

/-- The answer of the operator about a dump that he is asked about. -/
def answer (s : DumpManager) (kind : DumpKind) (forceload : Bool) : DumpManager :=
  { s with acts := s.acts ++ [if forceload then .accepted kind else .rejected kind] }

/-- `forceLoadDumpVars`. -/
def forceLoadDumpVars (s : DumpManager) (forceload : Bool) : Option DumpManager :=
  if s.live ≠ .dumpVars then some s
  else
    let s := s.answer .vars forceload
    (if forceload then s.loadDataVariables c
      else some (s.simpleFileDelete s.dumpVars.filename)).map fun s => s.setLiveStatus .running

/-- `forceLoadDumpTotals`. -/
def forceLoadDumpTotals (s : DumpManager) (forceload : Bool) : DumpManager :=
  if s.live ≠ .dumpTotals then s
  else
    let s := s.answer .totals forceload
    let s := if forceload then s.loadDataTotals c
      else s.simpleFileDelete s.dumpTotals.filename
    if s.dumpVars.result = .ok ∨ s.dumpVars.result = .notequal then s.setLiveStatus .dumpVars
    else s.setLiveStatus .starting

end DumpManager

/-- What a turn of `Proccesing` meets: the sources and the memory after the calculations, whether
one of them halted the manager, whether `m_timerTotal` is finished, and how the files are
written. -/
structure DumpTurn where
  calculate : List (String × Option Total) × (String → List UInt8) →
    List (String × Option Total) × (String → List UInt8)
  halts : Bool
  timerTotal : Bool
  savingVars : Saving
  savingTotals : Saving

/-- One event after the start: an answer of the operator, a request to save the variables, or a turn
of the data manager. -/
inductive DumpInput where
  | forceLoadDumpTotals (forceload : Bool)
  | forceLoadDumpVars (forceload : Bool)
  | doSaveVars
  | proccesing (turn : DumpTurn)

/-- The input is an answer of the operator. -/
def DumpInput.IsAnswer : DumpInput → Prop
  | forceLoadDumpTotals _ => True
  | forceLoadDumpVars _ => True
  | _ => False

namespace DumpManager

variable (c : DumpConfig)

/-- The calculations of a turn. -/
def scan (s : DumpManager) (turn : DumpTurn) : DumpManager :=
  let (listSource, pointer) := turn.calculate (s.listSource, s.pointer)
  let s := { s with listSource := listSource, pointer := pointer }
  if turn.halts then s.doHalt else s

/-- The saves of a turn: after a writing that failed the other is not left out. -/
def saves (s : DumpManager) (turn : DumpTurn) : DumpManager :=
  let s := if s.saveVars then s.saveDataVariables c turn.savingVars else s
  if turn.timerTotal then s.saveDataTotals c turn.savingTotals else s

/-- One turn of `Proccesing`. -/
def proccesing (s : DumpManager) (turn : DumpTurn) : DumpManager :=
  if s.live = .running then
    let s := s.scan turn
    if s.live = .running then s.saves c turn else s
  else s

/-- One event. -/
def step (s : DumpManager) : DumpInput → Option DumpManager
  | .forceLoadDumpTotals forceload => some (s.forceLoadDumpTotals c forceload)
  | .forceLoadDumpVars forceload => s.forceLoadDumpVars c forceload
  | .doSaveVars => some { s with saveVars := true }
  | .proccesing turn => some (s.proccesing c turn)

/-! ### How `loadDumps` goes on -/

section LoadDumps

variable {c} {s : DumpManager} {f : DumpFile}

lemma loadDumpsVars_of_found
    (hf : s.dumpVars.checkFile c.env fileDumpVariables (s.files fileDumpVariables) c.hashCfg = f)
    (h : f.result = .ok ∨ f.result = .notfound) :
    s.loadDumpsVars c = (({ s with dumpVars := f }.loadDataTotals c).loadDataVariables c).map
      fun t : DumpManager => t.setLiveStatus .running := by
  rcases h with h | h <;> simp only [loadDumpsVars, hf, h]

lemma loadDumpsVars_of_notequal
    (hf : s.dumpVars.checkFile c.env fileDumpVariables (s.files fileDumpVariables) c.hashCfg = f)
    (h : f.result = .notequal) :
    s.loadDumpsVars c = some ({ s with dumpVars := f }.setLiveStatus .dumpVars) := by
  simp only [loadDumpsVars, hf, h]

lemma loadDumps_of_found (hlive : (s.setTags c).live = .starting)
    (hf : (s.setTags c).dumpTotals.checkFile c.env fileDumpTotals
      ((s.setTags c).files fileDumpTotals) c.hashCfg = f)
    (h : f.result = .ok ∨ f.result = .notfound) :
    s.loadDumps c = { s.setTags c with dumpTotals := f }.loadDumpsVars c := by
  rcases h with h | h <;>
    simp only [loadDumps, hlive, hf, h, ne_eq, not_true_eq_false, if_false]

lemma loadDumps_of_notequal (hlive : (s.setTags c).live = .starting)
    (hf : (s.setTags c).dumpTotals.checkFile c.env fileDumpTotals
      ((s.setTags c).files fileDumpTotals) c.hashCfg = f)
    (h : f.result = .notequal) :
    s.loadDumps c = some ({ s.setTags c with dumpTotals := f }.setLiveStatus .dumpTotals) := by
  simp only [loadDumps, hlive, hf, h, ne_eq, not_true_eq_false, if_false]

end LoadDumps

end DumpManager

/-- A well-formed dump of the variables: the value of every dumped variable in it can be read. -/
structure VarsText (c : DumpConfig) extends DumpText c.env where
  readable : ∀ v ∈ c.varList, v.isDumped = true → ∀ value,
    (v.valueFromXml c.env.numbers root value).isSome

/-- What the program finds when it starts: the two dumps, which may be missing, the sources and the
variables of the configuration, and the other files. -/
structure StartUp (c : DumpConfig) where
  totals : Option (DumpText c.env)
  vars : Option (VarsText c)
  listSource : List (String × Option Total)
  pointer : String → List UInt8
  disk : String → Option String

namespace StartUp

variable {c : DumpConfig} (u : StartUp c)

/-- The files at the start. -/
def files : String → Option String :=
  Function.update (Function.update u.disk fileDumpTotals (u.totals.map fun d => d.text))
    fileDumpVariables (u.vars.map fun d => d.text)

/-- The manager when `LoadConfig` calls `loadDumps`. -/
def starting : DumpManager where
  live := .starting
  halt := false
  listSource := u.listSource
  pointer := u.pointer
  files := u.files
  dumpTotals := {}
  dumpVars := {}
  saveVars := false
  acts := []

/-- The state after the start and a list of events; `none` if the program has ended. -/
def run (l : List DumpInput) : Option DumpManager :=
  u.starting.loadDumps c >>= fun s => l.foldlM (DumpManager.step c) s

end StartUp

end Tritonn

import Tritonn.Lib.Result
import Tritonn.Modbus.Manager

/-!
`src/tritonn/interface/modbustcpslave_manager.cpp`: the register map, from the configuration to the
links of registers to variables.

* an `AddressBlock` is an element of the address map, an `Element` one of a data block, and a
  `Block` what `loadFromXML` makes of an address block: a list of `TempLink`s, of which only the
  first carries the address;
* `loadFromXML` reads the address map, `loadStandartModbus` the file of the standard links, and
  `checkVars` walks over the flat list of temporary links and lays out the registers;
  `checkVars_error_iff` says which errors it can return, and where it reads a deleted link instead;
* `loadFromXML_marked` says which address every temporary link carries.
-/

namespace Tritonn

/-- The error codes `DATACFGERR_INTERFACES_...` of the register map. -/
inductive CfgErrorCode where
  | badAddr
  | badBlock
  | badVar
  | nfStdVar
  | badWs
  | unknowVar
  | badConvert
  deriving DecidableEq, Repr

/-- `rError`: the code, the line of the configuration and the text. -/
structure CfgError where
  code : CfgErrorCode
  line : ℕ
  text : String
  deriving DecidableEq, Repr

/-- `getTypeByName`. -/
def getTypeByName (str : String) : VType :=
  if str = "usint" then .usint
  else if str = "sint" then .sint
  else if str = "uint" then .uint
  else if str = "int" then .int
  else if str = "udint" then .udint
  else if str = "dint" then .dint
  else if str = "real" then .real
  else if str = "lreal" then .lreal
  else if str = "strid" then .strid
  else VType.undef

/-! ### Loading -/

/-- An element of a data block: its line, its name in lower case, its text, if it has one, and the
attributes `convert` and `native` in lower case, which are empty when they are missing. -/
structure Element where
  line : ℕ
  name : String
  text : Option String
  convert : String := ""
  native : String := ""

/-- An element of the address map: its line, the attribute `begin`, which is `0xFFFFFFFF` when it
is missing, and the text, the name of a data block. -/
structure AddressBlock where
  line : ℕ
  begin : UInt32
  text : Option String

/-- `rTempLink`. -/
structure TempLink where
  varName : String
  address : ℕ
  lineNum : ℕ
  type : VType
  deriving DecidableEq

/-- The temporary links that an address block gives, and the register at which it begins. -/
structure Block where
  begin : ℕ
  items : List TempLink

/-- One turn of the loop of `loadFromXML` over a data block. -/
def loadElement (address : ℕ) (e : Element) : Except CfgError TempLink :=
  if e.name = "variable" then
    match e.text with
    | none => .error ⟨.badVar, e.line, ""⟩
    | some varName =>
        if e.convert = "" then .ok ⟨varName, address, e.line, .undef⟩
        else if getTypeByName e.convert = .undef then
          .error ⟨.badConvert, e.line, "incorrect convert type '" ++ e.convert ++ "'"⟩
        else .ok ⟨varName, address, e.line, getTypeByName e.convert⟩
  else if e.name = "whitespace" then
    if getTypeByName e.native = .undef then
      .error ⟨.badWs, e.line, "incorrect native type '" ++ e.native ++ "'"⟩
    else .ok ⟨"", address, e.line, getTypeByName e.native⟩
  else .error ⟨.unknowVar, e.line, e.name⟩

/-- The loop of `loadFromXML` over a data block. The address is `0` after the first element. -/
def loadElements (address : ℕ) : List Element → Except CfgError (List TempLink)
  | [] => .ok []
  | e :: es => do
      let t ← loadElement address e
      let ts ← loadElements 0 es
      return t :: ts

/-- One turn of the loop of `loadFromXML` over the address map; `find` is `rDataBlock::Find`, and
`line` the line of the map. -/
def loadBlock (find : String → Option (List Element)) (line : ℕ) (b : AddressBlock) :
    Except CfgError Block :=
  match b.text with
  | none => .error ⟨.badBlock, b.line, "fault blockname"⟩
  | some blockname =>
      if b.begin < 400000 ∨ 465535 < b.begin then
        .error ⟨.badAddr, b.line, "Invalide address " ++ toString b.begin.toNat⟩
      else
        let address := (b.begin - 400000).toNat
        match find blockname with
        | none => .error ⟨.badBlock, line, blockname⟩
        | some es => do
            let items ← loadElements address es
            return ⟨address, items⟩

/-- `loadFromXML`, from the address map on. -/
def loadFromXML (find : String → Option (List Element)) (line : ℕ) (adrmap : List AddressBlock) :
    Except CfgError (List Block) :=
  adrmap.mapM (loadBlock find line)

/-! ### The links -/

/-- `rModbusLink`: a link with the place of its item in the snapshot and the type its value is
converted to, `undef` for none. -/
structure MapLink extends Link where
  item : ℕ
  convert : VType

/-- The type whose bytes the registers of a link hold. -/
def MapLink.type (l : MapLink) : VType := if l.convert = .undef then l.var.type else l.convert

/-- The variables of `checkVars`: the address, the snapshot and the links. -/
structure RegisterMap where
  address : ℕ
  snapshot : Snapshot
  modbusLink : List MapLink

/-- `m_snapshot.add(name)`. -/
def Snapshot.addVar (s : Snapshot) (var : Option Variable) : Snapshot := s.add ⟨var, .toassign, []⟩

/-- An element of the file of the standard links: its line, its text and the attribute `addr`,
which is `0xFFFF` when it is missing. -/
structure StdItem where
  line : ℕ
  name : String
  addr : UInt32

/-- One turn of the loop of `LoadStandartModbus`. -/
def loadStandartItem (store : Store) (m : RegisterMap) (i : StdItem) :
    Except CfgError RegisterMap :=
  let address := i.addr.toUInt16
  if 100 < address then
    .error ⟨.nfStdVar, i.line, "incorrect address " ++ toString address.toNat⟩
  else
    match store.findVar i.name with
    | none => .error ⟨.nfStdVar, i.line, i.name⟩
    | some v =>
        .ok { m with
          snapshot := m.snapshot.addVar (some v)
          modbusLink := m.modbusLink ++ [⟨⟨address, v⟩, m.snapshot.list.length, .undef⟩] }

/-- `LoadStandartModbus`, from the parsed file on. -/
def loadStandartModbus (store : Store) (items : List StdItem) (m : RegisterMap) :
    Except CfgError RegisterMap :=
  items.foldlM (loadStandartItem store) m

/-- How `checkVars` ends when it refuses a configuration. -/
inductive CheckStop where
  /-- An error is returned. -/
  | error (err : CfgError)
  /-- The line and the name of a temporary link are read for an error behind `clearTempList`, which
  has deleted the link: undefined. -/
  | deleted
  deriving DecidableEq, Repr

/-- `address += TypeCountReg(type)` and the check of the address after it. -/
def advance (type : VType) (m : RegisterMap) : Except CheckStop RegisterMap :=
  if 0xFFFF < m.address + typeCountReg type then .error .deleted
  else .ok { m with address := m.address + typeCountReg type }

/-- One turn of the loop of `checkVars`. The address of a whitespace is not looked at. -/
def checkVarsStep (store : Store) (m : RegisterMap) (t : TempLink) :
    Except CheckStop RegisterMap :=
  if t.varName ≠ "" then
    match store.findVar t.varName with
    | none => .error .deleted
    | some v =>
        let address := if t.address ≠ 0 then t.address else m.address
        advance v.type
          { address
            snapshot := m.snapshot.addVar (some v)
            modbusLink := m.modbusLink ++
              [⟨⟨UInt16.ofNat address, v⟩, m.snapshot.list.length, t.type⟩] }
  else advance t.type m

/-- `checkVars`, with an empty snapshot that has no access. -/
def checkVars (store : Store) (standart : List StdItem) (temp : List TempLink) :
    Except CheckStop RegisterMap :=
  match loadStandartModbus store standart ⟨0, ⟨[], 0⟩, []⟩ with
  | .error err => .error (.error err)
  | .ok m => temp.foldlM (checkVarsStep store) m

/-! ### What is refused -/

/-- No turn of the loop returns an error. -/
lemma checkVarsStep_error {store : Store} {m : RegisterMap} {t : TempLink} {stop : CheckStop}
    (h : checkVarsStep store m t = .error stop) : stop = .deleted := by
  have hadvance : ∀ (type : VType) (m : RegisterMap), advance type m = .error stop →
      stop = .deleted := fun type m h => by
    rw [advance] at h
    split_ifs at h
    cases h
    rfl
  rw [checkVarsStep] at h
  by_cases hname : t.varName = ""
  · rw [if_neg (not_not.mpr hname)] at h
    exact hadvance _ _ h
  · rw [if_pos hname] at h
    cases hfind : store.findVar t.varName with
    | none =>
        rw [hfind] at h
        cases h
        rfl
    | some v =>
        rw [hfind] at h
        exact hadvance _ _ h

lemma foldlM_checkVarsStep_error {store : Store} {temp : List TempLink} {m : RegisterMap}
    {stop : CheckStop} (h : temp.foldlM (checkVarsStep store) m = .error stop) :
    stop = .deleted := by
  induction temp generalizing m with
  | nil => cases h
  | cons t temp ih =>
      rw [List.foldlM_cons] at h
      cases ht : checkVarsStep store m t with
      | error stop' =>
          rw [ht] at h
          cases h
          exact checkVarsStep_error ht
      | ok m' =>
          rw [ht] at h
          exact ih h

/-- The errors that `checkVars` returns are those of the standard links: for each item of a block
that it refuses, it reads a link that is no longer there. -/
theorem checkVars_error_iff {store : Store} {standart : List StdItem} {temp : List TempLink}
    {err : CfgError} : checkVars store standart temp = .error (.error err) ↔
      loadStandartModbus store standart ⟨0, ⟨[], 0⟩, []⟩ = .error err := by
  rw [checkVars]
  cases hload : loadStandartModbus store standart ⟨0, ⟨[], 0⟩, []⟩ with
  | error err' => simp
  | ok m =>
      refine iff_of_false (fun h => ?_) (by simp)
      cases foldlM_checkVarsStep_error h

lemma checkVars_ok {store : Store} {standart : List StdItem} {temp : List TempLink}
    {m : RegisterMap} (h : checkVars store standart temp = .ok m) :
    ∃ m₁, loadStandartModbus store standart ⟨0, ⟨[], 0⟩, []⟩ = .ok m₁ ∧
      temp.foldlM (checkVarsStep store) m₁ = .ok m := by
  rw [checkVars] at h
  cases hload : loadStandartModbus store standart ⟨0, ⟨[], 0⟩, []⟩ with
  | error err =>
      rw [hload] at h
      cases h
  | ok m₁ =>
      rw [hload] at h
      exact ⟨m₁, rfl, h⟩

/-! ### The address of a block -/

/-- Only the first temporary link of a block carries the address at which it begins. -/
structure Block.Marked (b : Block) : Prop where
  begin_lt : b.begin < 65536
  head : ∀ t ts, b.items = t :: ts → t.address = b.begin ∧ ∀ t' ∈ ts, t'.address = 0

lemma loadElement_address {address : ℕ} {e : Element} {t : TempLink}
    (h : loadElement address e = .ok t) : t.address = address := by
  rw [loadElement] at h
  by_cases hvar : e.name = "variable"
  · rw [if_pos hvar] at h
    cases ht : e.text with
    | none => rw [ht] at h; cases h
    | some varName =>
        simp only [ht] at h
        split at h
        · cases h; rfl
        · split at h <;> cases h
          rfl
  · rw [if_neg hvar] at h
    split at h
    · split at h <;> cases h
      rfl
    · cases h

lemma loadElements_zero {es : List Element} {ts : List TempLink} (h : loadElements 0 es = .ok ts) :
    ∀ t ∈ ts, t.address = 0 := by
  induction es generalizing ts with
  | nil => cases h; simp
  | cons e es ih =>
      obtain ⟨t, ht, h⟩ := Result.bind_eq_ok.mp h
      obtain ⟨ts', hts, h⟩ := Result.bind_eq_ok.mp h
      cases h
      exact List.forall_mem_cons.mpr ⟨loadElement_address ht, ih hts⟩

lemma loadBlock_marked {find : String → Option (List Element)} {line : ℕ} {a : AddressBlock}
    {b : Block} (h : loadBlock find line a = .ok b) : b.Marked := by
  rw [loadBlock] at h
  cases ht : a.text with
  | none => simp [ht] at h
  | some name =>
      simp only [ht] at h
      split_ifs at h with hrange
      cases hf : find name with
      | none => simp [hf] at h
      | some es =>
          simp only [hf] at h
          obtain ⟨items, hitems, h⟩ := Result.bind_eq_ok.mp h
          cases h
          refine ⟨?_, fun t ts hcons => ?_⟩
          · simp only [not_or, UInt32.not_lt, UInt32.le_iff_toNat_le] at hrange
            have hsub := UInt32.toNat_sub_of_le a.begin 400000
              (UInt32.le_iff_toNat_le.mpr hrange.1)
            have h1 : (400000 : UInt32).toNat = 400000 := rfl
            have h2 : (465535 : UInt32).toNat = 465535 := rfl
            simp only [hsub]
            omega
          · cases es with
            | nil => cases hitems; cases hcons
            | cons e es =>
                obtain ⟨t', ht', hitems⟩ := Result.bind_eq_ok.mp hitems
                obtain ⟨ts', hts', hitems⟩ := Result.bind_eq_ok.mp hitems
                cases hitems
                cases hcons
                exact ⟨loadElement_address ht', loadElements_zero hts'⟩

/-- Every block that is loaded carries its address with its first element only. -/
theorem loadFromXML_marked {find : String → Option (List Element)} {line : ℕ}
    {adrmap : List AddressBlock} {blocks : List Block}
    (h : loadFromXML find line adrmap = .ok blocks) : ∀ b ∈ blocks, b.Marked := by
  induction adrmap generalizing blocks with
  | nil => cases h; simp
  | cons a adrmap ih =>
      rw [loadFromXML, List.mapM_cons] at h
      obtain ⟨b, hb, h⟩ := Result.bind_eq_ok.mp h
      obtain ⟨bs, hbs, h⟩ := Result.bind_eq_ok.mp h
      cases h
      exact List.forall_mem_cons.mpr ⟨loadBlock_marked hb, ih hbs⟩

end Tritonn

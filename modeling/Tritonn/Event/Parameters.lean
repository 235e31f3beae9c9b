import Tritonn.Lib.Buffer
import Tritonn.Lib.Tagged
import Tritonn.Shared.Common
import Tritonn.Store.Variable

/-!
The parameters of an event: `src/tritonn/event/event.h` and `event.cpp`.

* `REvent` is `rEvent` without the bytes that only align it; its parameters are packed in a buffer
  of 64 bytes, each with a byte for its type in front;
* `REvent.addData` is `EVENT_ADDDATA`, with the members `addSINT` to `addSTR` beside it, and
  `REvent.getParamByID` the walk that finds a parameter again; both are undefined where the code
  would leave the buffer;
* `EventCall` is a call of the interface that changes an event, and `runCalls` what a sequence of
  them leaves, together with the parameters that were accepted.

`event_parameters` says of every sequence of calls that the parameters accepted are found under
their numbers, with their types and bytes, that nothing else is found, and that a parameter is
accepted if and only if it fits.
-/

namespace Tritonn

/-- The number of a `TYPE`. -/
def VType.code : VType → UInt8
  | .undef => 0
  | .sint => 1
  | .usint => 2
  | .int => 3
  | .uint => 4
  | .dint => 5
  | .udint => 6
  | .real => 7
  | .lreal => 8
  | .strid => 9

/-- The `TYPE` with a number; a number without one has the size of `UNDEF`. -/
def VType.ofCode (code : UInt8) : VType :=
  [.undef, .sint, .usint, .int, .uint, .dint, .udint, .real, .lreal, .strid].getD code.toNat
    .undef

@[simp] lemma VType.ofCode_code (type : VType) : VType.ofCode type.code = type := by
  cases type <;> rfl

/-- `getTypeSize` of the number of a type. -/
def codeSize (code : UInt8) : ℕ := getTypeSize (VType.ofCode code)

/-- `DATA_SIZE`. -/
def REvent.dataSize : ℕ := 64

/-- `rEvent`, in which a `long` of the time has the four bytes of the 32-bit build. -/
@[ext]
structure REvent where
  magic : UInt32
  version : UInt8
  size : UInt8
  tvSec : Int32
  tvUsec : Int32
  eid : EID
  data : Buffer UInt8 REvent.dataSize
  deriving DecidableEq

/-- A typed parameter: its bytes are as many as its type says. -/
structure EventParam where
  type : VType
  bytes : List UInt8
  length_bytes : bytes.length = getTypeSize type
  deriving DecidableEq

/-- A parameter in the buffer: the type and the value. -/
def EventParam.block (p : EventParam) : List UInt8 := p.type.code :: p.bytes

/-- The bytes of a number as the value of a type. -/
def EventParam.ofNat (type : VType) (val : ℕ) : EventParam :=
  ⟨type, leBytes (getTypeSize type) val, length_leBytes _ _⟩

namespace REvent

/-- `EVENT_ADDDATA`: whether the parameter was accepted, and the event. -/
def addData (e : REvent) (p : EventParam) : Option (Bool × REvent) :=
  let ts := getTypeSize p.type
  if dataSize ≤ e.size.toNat + ts then some (false, e)
  else do
    let data ← e.data.store e.size.toNat [p.type.code]
    let size := e.size + 1
    let data ← data.store size.toNat p.bytes
    some (true, { e with data := data, size := size + UInt8.ofNat ts })

/-- `addSINT`. -/
def addSINT (e : REvent) (val : Int8) := e.addData (.ofNat .sint val.toUInt8.toNat)

/-- `addUSINT`. -/
def addUSINT (e : REvent) (val : UInt8) := e.addData (.ofNat .usint val.toNat)

/-- `addINT`. -/
def addINT (e : REvent) (val : Int16) := e.addData (.ofNat .int val.toUInt16.toNat)

/-- `addUINT`. -/
def addUINT (e : REvent) (val : UInt16) := e.addData (.ofNat .uint val.toNat)

/-- `addDINT`. -/
def addDINT (e : REvent) (val : Int32) := e.addData (.ofNat .dint val.toUInt32.toNat)

/-- `addUDINT`. -/
def addUDINT (e : REvent) (val : UInt32) := e.addData (.ofNat .udint val.toNat)

/-- `addREAL`, of the bits of the number. -/
def addREAL (e : REvent) (val : UInt32) := e.addData (.ofNat .real val.toNat)

/-- `addLREAL`, of the bits of the number. -/
def addLREAL (e : REvent) (val : UInt64) := e.addData (.ofNat .lreal val.toNat)

/-- `addSTR`, of the number of the text. -/
def addSTR (e : REvent) (val : UInt32) := e.addData (.ofNat .strid val.toNat)

/-- `clear`. -/
def clear (e : REvent) : REvent :=
  { e with size := 0, eid := 0, data := Buffer.fill _ 0, tvSec := 0, tvUsec := 0 }

/-- `reinit`, at the time it is called. -/
def reinit (e : REvent) (eid : EID) (now : Int32 × Int32) : REvent :=
  { e with eid := eid, size := 0, tvSec := now.1, tvUsec := now.2, data := Buffer.fill _ 0 }

/-- `rEvent()`. -/
def new : REvent :=
  { magic := 0xFFEEDDCC, version := 1, size := 0, tvSec := 0, tvUsec := 0, eid := 0
    data := Buffer.fill _ 0 }

/-- `getParamByID`: the type and the place of the value. -/
def getParamByID (e : REvent) (id : UInt32) : Option (Option (UInt8 × ℕ)) := do
  match ← Tagged.find codeSize e.data.content e.size.toNat id.toNat 0 with
  | none => some none
  | some pos => do
      let type ← e.data.content[pos]?
      some (some (type, pos + 1))

end REvent

/-- A call that changes an event. -/
inductive EventCall where
  | add (p : EventParam)
  | clear
  | reinit (eid : EID) (now : Int32 × Int32)

/-- An event and the parameters it accepted since it was empty, after a call. -/
def EventCall.apply (s : REvent × List EventParam) : EventCall → Option (REvent × List EventParam)
  | .add p => do
      let (accepted, e) ← s.1.addData p
      some (e, if accepted then s.2 ++ [p] else s.2)
  | .clear => some (s.1.clear, [])
  | .reinit eid now => some (s.1.reinit eid now, [])

/-- A new event after a sequence of calls. -/
def runCalls (calls : List EventCall) : Option (REvent × List EventParam) :=
  calls.foldlM EventCall.apply (REvent.new, [])

namespace REvent

/-- The parameters are packed at the beginning of the buffer. -/
structure Holds (e : REvent) (ps : List EventParam) : Prop where
  size : e.size.toNat = (ps.map EventParam.block).flatten.length
  le : e.size.toNat ≤ dataSize
  content : e.data.content.take e.size.toNat = (ps.map EventParam.block).flatten

lemma length_block (p : EventParam) : p.block.length = getTypeSize p.type + 1 := by
  rw [EventParam.block, List.length_cons, p.length_bytes]

lemma record_block {ps : List EventParam} :
    ∀ b ∈ ps.map EventParam.block, Tagged.Record codeSize b := by
  intro b hb
  obtain ⟨p, -, rfl⟩ := List.mem_map.mp hb
  exact ⟨p.type.code, p.bytes, rfl, by rw [p.length_bytes, codeSize, VType.ofCode_code]⟩

variable {e : REvent} {ps : List EventParam} {p : EventParam}

/-- A parameter that does not fit is refused, and nothing changes. -/
lemma addData_full (h : ¬ e.size.toNat + (1 + getTypeSize p.type) ≤ dataSize) :
    e.addData p = some (false, e) := if_pos (by omega)

/-- A parameter that fits is written behind the others. -/
lemma addData_fits (h : e.size.toNat + (1 + getTypeSize p.type) ≤ dataSize) :
    ∃ e', e.addData p = some (true, e') ∧
      e'.size.toNat = e.size.toNat + p.block.length ∧
      e'.data.content.take e'.size.toNat = e.data.content.take e.size.toNat ++ p.block := by
  have h64 : dataSize = 64 := rfl
  have hsucc : (e.size + 1).toNat = e.size.toNat + 1 := by
    rw [UInt8.toNat_add, UInt8.toNat_one]
    exact Nat.mod_eq_of_lt (by omega)
  obtain ⟨m, hm⟩ : ∃ m, e.data.store e.size.toNat [p.type.code] = some m :=
    e.data.store_of_le (by rw [List.length_singleton]; omega)
  obtain ⟨m', hm'⟩ : ∃ m', m.store (e.size.toNat + [p.type.code].length) p.bytes = some m' :=
    m.store_of_le (by rw [List.length_singleton, p.length_bytes]; omega)
  have hsize : (e.size + 1 + UInt8.ofNat (getTypeSize p.type)).toNat =
      e.size.toNat + p.block.length := by
    rw [UInt8.toNat_add, UInt8.toNat_ofNat', hsucc, length_block]
    omega
  refine ⟨{ e with data := m', size := e.size + 1 + UInt8.ofNat (getTypeSize p.type) }, ?_, hsize,
    ?_⟩
  · rw [addData, if_neg (by omega), hm]
    refine Eq.trans (b := (m.store (e.size + 1).toNat p.bytes).bind _) rfl ?_
    rw [hsucc, ← List.length_singleton (a := p.type.code), hm']
    rfl
  · rw [hsize]
    exact Buffer.take_store_store hm hm'

lemma holds_nil (h : e.size = 0) : e.Holds [] := by
  have h0 : e.size.toNat = 0 := by rw [h]; rfl
  exact ⟨h0, h0.trans_le (Nat.zero_le _), by rw [h0]; rfl⟩

/-- A parameter that fits is added to those the event holds. -/
lemma Holds.addData (h : e.Holds ps) (hp : e.size.toNat + (1 + getTypeSize p.type) ≤ dataSize) :
    ∃ e', e.addData p = some (true, e') ∧ e'.Holds (ps ++ [p]) := by
  obtain ⟨e', he', hsize, hcontent⟩ := addData_fits hp
  have hflat : ((ps ++ [p]).map EventParam.block).flatten =
      (ps.map EventParam.block).flatten ++ p.block := by
    rw [List.map_append, List.flatten_append, List.map_singleton, List.flatten_singleton]
  refine ⟨e', he', ?_, ?_, ?_⟩
  · rw [hsize, h.size, hflat, List.length_append]
  · rw [hsize, length_block]
    omega
  · rw [hcontent, h.content, hflat]

/-- A parameter is found again if and only if the event holds it. -/
lemma Holds.getParamByID (h : e.Holds ps) (id : UInt32) :
    match ps[id.toNat]? with
    | none => e.getParamByID id = some none
    | some p => ∃ pos, e.getParamByID id = some (some (p.type.code, pos)) ∧
        e.data.load pos (getTypeSize p.type) = some p.bytes := by
  set blocks := ps.map EventParam.block with hblocks
  have hmem : e.data.content = blocks.flatten ++ e.data.content.drop e.size.toNat := by
    rw [← h.content, List.take_append_drop]
  have hfind : Tagged.find codeSize e.data.content e.size.toNat id.toNat 0 =
      some (blocks[id.toNat]?.map fun _ => (blocks.take id.toNat).flatten.length) := by
    rw [h.size, hmem]
    exact Tagged.find_flatten record_block _ _
  rcases hp : ps[id.toNat]? with _ | p
  · have hb : blocks[id.toNat]? = none := by rw [hblocks, List.getElem?_map, hp]; rfl
    rw [hb] at hfind
    rw [REvent.getParamByID, hfind]
    rfl
  · have hb : blocks[id.toNat]? = some p.block := by rw [hblocks, List.getElem?_map, hp]; rfl
    rw [hb] at hfind
    set pos := (blocks.take id.toNat).flatten.length with hpos
    -- The block of the parameter is at the place that was found.
    have hdrop := Tagged.drop_flatten hb (e.data.content.drop e.size.toNat)
    rw [← hmem, ← hpos, EventParam.block, List.cons_append] at hdrop
    have htype : e.data.content[pos]? = some p.type.code := by
      rw [← Nat.add_zero pos, ← List.getElem?_drop, hdrop]
      rfl
    have hval : e.data.content.drop (pos + 1) =
        p.bytes ++ ((blocks.drop (id.toNat + 1)).flatten ++ e.data.content.drop e.size.toNat) := by
      rw [← List.drop_drop, hdrop]
      rfl
    have hle : pos + 1 + getTypeSize p.type ≤ dataSize := by
      have hlen := congrArg List.length hval
      have hlt : pos < e.data.content.length := (List.getElem?_eq_some_iff.mp htype).1
      rw [List.length_drop, List.length_append, p.length_bytes, e.data.length_content] at hlen
      rw [e.data.length_content] at hlt
      omega
    refine ⟨pos + 1, ?_, ?_⟩
    · rw [REvent.getParamByID, hfind]
      refine Eq.trans (b := e.data.content[pos]?.bind _) rfl ?_
      rw [htype]
      rfl
    · rw [Buffer.load_of_le _ hle, hval]
      exact congrArg some (List.take_left' p.length_bytes)

end REvent

/-- What an event has to be after it accepted the parameters `ps`. -/
structure ParametersOk (e : REvent) (ps : List EventParam) : Prop where
  size : e.size.toNat ≤ REvent.dataSize
  found : ∀ (id : UInt32) (h : id.toNat < ps.length), ∃ pos,
    e.getParamByID id = some (some (ps[id.toNat].type.code, pos)) ∧
      e.data.load pos (getTypeSize ps[id.toNat].type) = some ps[id.toNat].bytes
  beyond : ∀ id : UInt32, ps.length ≤ id.toNat → e.getParamByID id = some none
  accepted : ∀ p : EventParam, e.size.toNat + (1 + getTypeSize p.type) ≤ REvent.dataSize →
    ∃ e', e.addData p = some (true, e')
  refused : ∀ p : EventParam, ¬ e.size.toNat + (1 + getTypeSize p.type) ≤ REvent.dataSize →
    e.addData p = some (false, e)

lemma REvent.Holds.parametersOk {e : REvent} {ps : List EventParam} (h : e.Holds ps) :
    ParametersOk e ps where
  size := h.le
  found id hid := by
    have hget := h.getParamByID id
    rw [List.getElem?_eq_getElem hid] at hget
    exact hget
  beyond id hid := by
    have hget := h.getParamByID id
    rw [List.getElem?_eq_none hid] at hget
    exact hget
  accepted p hp := by
    obtain ⟨e', he', -⟩ := h.addData hp
    exact ⟨e', he'⟩
  refused _ hp := REvent.addData_full hp

/-- Each call keeps the parameters packed. -/
lemma EventCall.apply_holds {s : REvent × List EventParam} (h : s.1.Holds s.2) (c : EventCall) :
    ∃ s', c.apply s = some s' ∧ s'.1.Holds s'.2 := by
  cases c with
  | add p =>
      by_cases hp : s.1.size.toNat + (1 + getTypeSize p.type) ≤ REvent.dataSize
      · obtain ⟨e', he', hold⟩ := h.addData hp
        refine ⟨(e', s.2 ++ [p]), ?_, hold⟩
        rw [EventCall.apply, he']
        rfl
      · refine ⟨s, ?_, h⟩
        rw [EventCall.apply, REvent.addData_full hp]
        rfl
  | clear => exact ⟨_, rfl, REvent.holds_nil rfl⟩
  | reinit eid now => exact ⟨_, rfl, REvent.holds_nil rfl⟩

lemma runCalls_holds {s : REvent × List EventParam} (h : s.1.Holds s.2) (calls : List EventCall) :
    ∃ s', calls.foldlM EventCall.apply s = some s' ∧ s'.1.Holds s'.2 := by
  induction calls generalizing s with
  | nil => exact ⟨s, rfl, h⟩
  | cons c calls ih =>
      obtain ⟨s', hs', h'⟩ := c.apply_holds h
      rw [List.foldlM_cons, hs']
      exact ih h'

/-- After every sequence of calls the event holds the parameters it accepted, and no call leaves
its buffer. -/
theorem event_parameters (calls : List EventCall) :
    ∃ e ps, runCalls calls = some (e, ps) ∧ ParametersOk e ps := by
  obtain ⟨s, hs, h⟩ := runCalls_holds (s := (REvent.new, [])) (REvent.holds_nil rfl) calls
  exact ⟨s.1, s.2, hs, h.parametersOk⟩

/-- The buffer can be filled to its last byte. -/
example : (runCalls (List.replicate 6 (.add (.ofNat .lreal 1)) ++
    List.replicate 3 (.add (.ofNat .udint 2)))).map (fun s => (s.1.size, s.2.length)) =
      some (64, 8) := by
  decide

end Tritonn

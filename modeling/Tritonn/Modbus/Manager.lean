import Tritonn.Lib.Exchange
import Tritonn.Store.Variable
import Tritonn.Modbus.Client

/-!
`src/tritonn/interface/modbustcpslave_manager.cpp`: the Modbus server, from the body of a frame to
the answer.

* `Slave` is the server: its unit, the swap setting, the links of registers to variables, the
  register array and the variable store behind it;
* `swapBuffer` is `SwapBuffer`, written as the list of its exchanges;
* `func0x03`, `func0x06`, `func0x10` and `funcError` are the handlers, `handle` the switch over the
  function code and `dispatch` the check of the unit before it;
* `Connection.clientRecv` is `ClientRecv`, which dispatches every frame of a chunk, and
  `Connection.readAll` runs it over the chunks that arrive.

A handler reads the body through `readBytes`, which fails at an index that is not below the length
of the frame, and the register array through `readRegs` and `writeReg`, which fail outside it.
-/

namespace Tritonn

/-- `MODBUS_ERROR_FUNC`. -/
def modbusErrorFunc : UInt8 := 0x01

/-- `MODBUS_ERROR_DATA`. -/
def modbusErrorData : UInt8 := 0x03

/-- The number whose bytes are given, the highest first. -/
def beNat (b : List UInt8) : ℕ := leNat b.reverse

/-- The two bytes of a register on the wire, the high one first. -/
def wireBytes (r : UInt16) : List UInt8 := (leBytes 2 r.toNat).reverse

/-- `rModbusSwap`. -/
structure Swap where
  byte : UInt8 := 1
  word : UInt8 := 0
  dword : UInt8 := 0

namespace Swap

/-- The exchanges of bytes of `SwapBuffer` on `size` bytes: two `UDINT`s, then the neighbours among
the first `size - 2` `UINT`s, then the neighbours among the first `size - 2` bytes. -/
def exchanges (swap : Swap) (size : ℕ) : List (ℕ × ℕ) :=
  (if swap.dword ≠ 0 ∧ size % 8 = 0 ∧ 8 ≤ size then Exchange.widen 4 [(0, 1)] else []) ++
  ((if swap.word ≠ 0 ∧ size % 4 = 0 ∧ 4 ≤ size then
      Exchange.widen 2 (Exchange.pairs ((size - 2) / 2)) else []) ++
    if swap.byte ≠ 0 ∧ size % 2 = 0 ∧ 2 ≤ size then Exchange.pairs ((size - 2) / 2) else [])

/-- `SwapBuffer(b + base, size)`; `fault` tells which memory `b` is. -/
def swapBuffer (swap : Swap) (fault : ℕ → Fault) (b : List UInt8) (base size : ℕ) :
    Except Fault (List UInt8) :=
  (Exchange.exchanges (Exchange.shift base (swap.exchanges size)) b).mapError fault

end Swap

/-- `TypeCountReg`. -/
def typeCountReg : VType → ℕ
  | .sint => 1
  | .usint => 1
  | .int => 1
  | .uint => 1
  | .dint => 2
  | .udint => 2
  | .real => 2
  | .lreal => 4
  | .strid => 2
  | .undef => 0xFFFF

/-- `rModbusLink`: the register at which a variable begins. -/
structure Link where
  address : UInt16
  var : Variable

/-- `rModbusTCPSlaveManager`. -/
structure Slave where
  slaveID : UInt8
  swap : Swap
  modbusLink : List Link
  modbus : UInt16 → UInt16
  store : Store

/-- The server as its constructor leaves it, with a store that has no variables. -/
def Slave.init : Slave :=
  ⟨0, {}, [], fun _ => 0, ⟨[], fun _ => [], fun _ => [], fun _ => false, false⟩⟩

/-- What a handler leaves: the server, the items of the snapshot after they are written, and the
body of the answer that is sent, if there is one. -/
structure Answer where
  slave : Slave
  written : List SnapshotItem
  reply : Option (List UInt8)

/-- `memcpy` of `n` bytes of the body of a frame, from the index `i` on. -/
def readBytes (b : List UInt8) (i n : ℕ) : Except Fault (List UInt8) :=
  if i + n ≤ b.length then .ok ((b.drop i).take n) else .error (.buff b.length)

/-- `Buff[i + 1] + (Buff[i] << 8)`. -/
def readWord (b : List UInt8) (i : ℕ) : Except Fault UInt16 := do
  let w ← readBytes b i 2
  return UInt16.ofNat (beNat w)

/-- The bytes that `rSnapshotItem(var, void *)` copies, when the variable is found. -/
def readValue (b : List UInt8) (i : ℕ) : Option Variable → Except Fault (List UInt8)
  | none => .ok []
  | some v => readBytes b i (getTypeSize v.type)

namespace Slave

/-- `memcpy` of `count` registers, from the index `adr` on. -/
def readRegs (s : Slave) (adr count : ℕ) : Except Fault (List UInt8) :=
  if adr + count ≤ 65536 then
    .ok ((List.range count).flatMap fun i => leBytes 2 (s.modbus (UInt16.ofNat (adr + i))).toNat)
  else .error (.reg 65536)

/-- `memcpy` of the bytes of a register to the index `i`. -/
def writeReg (s : Slave) (i : ℕ) (b : List UInt8) : Except Fault Slave :=
  if i < 65536 then
    .ok { s with modbus := Function.update s.modbus (UInt16.ofNat i) (UInt16.ofNat (leNat b)) }
  else .error (.reg i)

/-- `FindSnapshotItem`: the variable of the first link at the address. -/
def findSnapshotItem (s : Slave) (addr : UInt16) : Option Variable :=
  (s.modbusLink.find? fun l => l.address = addr).map Link.var

/-- `Func_Error`. -/
def funcError (s : Slave) (buff : List UInt8) (err : UInt8) : Except Fault Answer := do
  let head ← readBytes buff 0 2
  return ⟨s, [], some [head.getD 0 0, head.getD 1 0 ||| 0x80, err]⟩

/-- `Func_0x03`. The answer is built in 256 bytes of the stack; the bytes beyond it are not set
before `SwapBuffer` runs over them. -/
def func0x03 (s : Slave) (buff : List UInt8) : Except Fault Answer := do
  let adr ← readWord buff 2
  let quantity ← readWord buff 4
  let count := quantity.toUInt8
  let size := 3 + count * 2
  if 121 < count then s.funcError buff modbusErrorData
  else
    let head ← readBytes buff 0 2
    let regs ← s.readRegs adr.toNat count.toNat
    let answe := (head ++ [size] ++ regs).rightpad 256 0
    let answe ← s.swap.swapBuffer .stack answe 3 (count.toNat * 2)
    return ⟨s, [], some (answe.take size.toNat)⟩

/-- `Func_0x06`. Without a link the snapshot stays empty, and nothing is written through it. -/
def func0x06 (s : Slave) (buff : List UInt8) : Except Fault Answer := do
  let adr ← readWord buff 2
  let val ← readWord buff 4
  match s.findSnapshotItem adr with
  | none =>
      let s ← s.writeReg adr.toNat (leBytes 2 val.toNat)
      let answe ← readBytes buff 0 6
      return ⟨s, [], some answe⟩
  | some v =>
      let countregs := typeCountReg v.type
      let snapshot : Snapshot ←
        if countregs = 1 then do
          let val ← s.swap.swapBuffer .stack (leBytes 2 val.toNat) 0 (countregs * 2)
          pure (Snapshot.add ⟨[], accessMaskSA⟩
            (.ofUINT (s.store.findVar v.name) (UInt16.ofNat (leNat val))))
        else pure ⟨[], accessMaskSA⟩
      let (store, snapshot) := s.store.set snapshot
      let answe ← readBytes buff 0 6
      return ⟨{ s with store }, snapshot.list, some answe⟩

/-- The variables of the loop of `Func_0x10`; `SwapBuffer` works on the body in place. -/
structure Writing where
  slave : Slave
  buff : List UInt8
  snapshot : Snapshot
  ii : ℕ

/-- One turn of the loop of `Func_0x10`. Both `continue`s leave `ii` as it is. -/
def func0x10Step (adr count : UInt16) (w : Writing) : Except Fault Writing :=
  match w.slave.findSnapshotItem (adr + UInt16.ofNat w.ii) with
  | none => do
      let value ← readBytes w.buff (7 + w.ii * 2) 2
      let slave ← w.slave.writeReg (adr.toNat + w.ii) value
      return { w with slave }
  | some v =>
      let countregs := typeCountReg v.type
      if count.toNat ≤ countregs + w.ii then .ok w
      else do
        let buff ← w.slave.swap.swapBuffer .buff w.buff (7 + w.ii * 2) (countregs * 2)
        let var := w.slave.store.findVar v.name
        let value ← readValue buff (7 + w.ii * 2) var
        return { w with buff, snapshot := w.snapshot.add (.ofBuffer var value),
                        ii := w.ii + countregs }

/-- The loop of `Func_0x10`, for at most `fuel` turns. -/
def func0x10Loop (adr count : UInt16) : ℕ → Writing → Except Fault Writing
  | 0, w => if w.ii < count.toNat then .error .hang else .ok w
  | fuel + 1, w =>
      if w.ii < count.toNat then func0x10Step adr count w >>= func0x10Loop adr count fuel else .ok w

/-- `Func_0x10`. -/
def func0x10 (fuel : ℕ) (s : Slave) (buff : List UInt8) : Except Fault Answer := do
  let adr ← readWord buff 2
  let count ← readWord buff 4
  let bytes ← readBytes buff 6 1
  if count.toNat * 2 ≠ leNat bytes then s.funcError buff modbusErrorData
  else
    let w ← func0x10Loop adr count fuel ⟨s, buff, ⟨[], accessMaskSA⟩, 0⟩
    let (store, snapshot) := w.slave.store.set w.snapshot
    let answe ← readBytes w.buff 0 4
    return ⟨{ w.slave with store }, snapshot.list, some (answe ++ bytes ++ [0])⟩

/-- The switch over the function code. -/
def handle (fuel : ℕ) (s : Slave) (buff : List UInt8) : Except Fault Answer := do
  let func ← readBytes buff 1 1
  match leNat func with
  | 0x03 => s.func0x03 buff
  | 0x06 => s.func0x06 buff
  | 0x10 => s.func0x10 fuel buff
  | _ => s.funcError buff modbusErrorFunc

/-- The unit is checked, and the frame handled if it is this one. -/
def dispatch (fuel : ℕ) (s : Slave) (buff : List UInt8) : Except Fault Answer := do
  let unit ← readBytes buff 0 1
  if leNat unit = s.slaveID.toNat ∨ s.slaveID = 0 then s.handle fuel buff else .ok ⟨s, [], none⟩

end Slave

/-- A connection: the server, the client, the bodies that were dispatched and the answers that were
sent, in their order. -/
structure Connection where
  slave : Slave
  client : ModbusClient
  dispatched : List (List UInt8)
  sent : List (List UInt8)

namespace Connection

/-- The frame that `client` has read is dispatched and the answer sent. -/
def dispatch (fuel : ℕ) (k : Connection) (client : ModbusClient) : Except Fault Connection := do
  let a ← k.slave.dispatch fuel client.buff
  return ⟨a.slave, client, k.dispatched ++ [client.buff],
    k.sent ++ (a.reply.map client.send).toList⟩

/-- `ClientRecv`; the second result is `0` when the connection is to be closed. -/
def clientRecv (fuel : ℕ) (k : Connection) (chunk : List UInt8) : Except Fault (Connection × ℕ) :=
  match _h : k.client.recv chunk with
  | .error f => .error f
  | .ok (client, false) => .ok ({ k with client }, 0)
  | .ok (client, true) =>
      match k.dispatch fuel client with
      | .error f => .error f
      | .ok k =>
          let packetLen := client.buff.length + client.headerRead
          if packetLen < chunk.length then k.clientRecv fuel (chunk.drop packetLen) else .ok (k, 1)
termination_by chunk.length
decreasing_by
  have := ModbusClient.six_le_of_recv ‹_›
  rw [List.length_drop]
  omega

/-- `ReadFromClient` for the chunks that `recv` returns, until the connection is closed. -/
def readAll (fuel : ℕ) (k : Connection) : List (List UInt8) → Except Fault (Connection × ℕ)
  | [] => .ok (k, 1)
  | chunk :: chunks =>
      match k.clientRecv fuel chunk with
      | .error f => .error f
      | .ok (k, 0) => .ok (k, 0)
      | .ok (k, _ + 1) => k.readAll fuel chunks

end Connection

end Tritonn

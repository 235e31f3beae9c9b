import Mathlib

/-!
The JSON server as it receives: `src/tritonn/json_client.cpp` and `rJSONManager::ClientRecv`.

* `JsonClient` is a client with its buffers, `checkBrace` looks for the end of a packet in it, and
  `JsonClient.recv` takes a chunk;
* `JsonConn` is a connection with the texts that `ParsingJSON` was given; `JsonConn.clientRecv` is
  `ClientRecv`, and `JsonConn.readAll` runs it over the chunks that arrive.

`ParsingJSON` looks at the text itself when `cJSON_Parse` fails, which it does on a pointer that is
null: `none` stands for the read through that pointer.
-/

namespace Tritonn

/-- `MAX_TCPCLIENT_BUFF`, the most that `recv` returns at once. -/
def maxTcpClientBuff : ℕ := 4 * (16 * 1024)

/-- The byte of an opening brace. -/
def openBrace : UInt8 := 0x7B

/-- The byte of a closing brace. -/
def closeBrace : UInt8 := 0x7D

/-- The loop of `CheckBrace` from the place `ii` on, with the two counters. -/
def checkBraceLoop : ℕ → UInt32 → UInt32 → List UInt8 → ℕ
  | _, _, _, [] => 0
  | ii, openbrace, closebrace, c :: str =>
      let openbrace := if c = openBrace then openbrace + 1 else openbrace
      let closebrace := if c = closeBrace then closebrace + 1 else closebrace
      if openbrace ≠ 0 ∧ closebrace ≠ 0 ∧ openbrace = closebrace then ii
      else checkBraceLoop (ii + 1) openbrace closebrace str

/-- `rJSONClient::CheckBrace`: the place of the brace that ends a packet, or `0`. -/
def checkBrace (buff : List UInt8) : ℕ := checkBraceLoop 0 0 0 buff

/-- `rJSONClient`: the bytes of a packet that is not complete, and the last complete one. -/
structure JsonClient where
  buff : Option (List UInt8)
  packet : Option (List UInt8)

/-- What `Recv` returns: `JSONCLNT_RECV_ERROR`, `JSONCLNT_RECV_SUCCESS` or
`JSONCLNT_RECV_PROCESS`. -/
inductive JsonRecv where
  | error
  | success
  | process
  deriving DecidableEq, Repr

namespace JsonClient

/-- `rJSONClient(socket, addr)`. -/
def new : JsonClient := ⟨none, none⟩

/-- `rJSONClient::Recv`. -/
def recv (k : JsonClient) (chunk : List UInt8) : JsonClient × JsonRecv :=
  let buff := k.buff.getD [] ++ chunk
  let pos := checkBrace buff
  if pos ≠ 0 then (⟨none, some (buff.take (pos + 1))⟩, .success)
  else (⟨some buff, k.packet⟩, .process)

end JsonClient

/-- A connection: the client, and the texts that `ParsingJSON` was given. -/
structure JsonConn where
  client : JsonClient
  executed : List (List UInt8)

namespace JsonConn

/-- A connection that was just accepted. -/
def new : JsonConn := ⟨.new, []⟩

/-- The call of `ParsingJSON`: its text ends at the first zero. -/
def parsingJSON (k : JsonConn) (text : Option (List UInt8)) : Option JsonConn :=
  text.map fun text => { k with executed := k.executed ++ [text.takeWhile (· ≠ 0)] }

/-- `rJSONManager::ClientRecv`. -/
def clientRecv (k : JsonConn) (chunk : List UInt8) : Option (JsonConn × ℕ) :=
  let (client, data) := k.client.recv chunk
  let k := { k with client }
  if data = .error then some (k, 0)
  -- The same test again, where the source speaks of a packet that is not complete.
  else if data = .error then some (k, 1)
  else (k.parsingJSON client.packet).map fun k => (k, 0)

/-- `ReadFromClient` for the chunks that `recv` returns, until the connection is closed. -/
def readAll (k : JsonConn) : List (List UInt8) → Option (JsonConn × ℕ)
  | [] => some (k, 1)
  | chunk :: chunks =>
      match k.clientRecv chunk with
      | none => none
      | some (k, 0) => some (k, 0)
      | some (k, _ + 1) => k.readAll chunks

end JsonConn

end Tritonn

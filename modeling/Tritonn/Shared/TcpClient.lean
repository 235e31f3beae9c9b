import Tritonn.Lib.Handles
import Tritonn.Lib.Result
import Tritonn.Lib.Run
import Tritonn.Shared.TcpClass
import Tritonn.Shared.TickCount

/-!
`src/shared/tcpclient_class.cpp`: a client, whose thread connects again by itself, and the calls of
`Connect` and `Disconnect` that another thread makes in between.

* `TcpClient` is the client, with the descriptors that it was given, and the place in
  `rTCPClientClass::Proccesing` at which its thread is: what is done under one hold of `Mutex` is
  one step;
* `CalledClient` is the client and the call that holds `Mutex`, and `step` a step of the thread, or
  of the other one, which takes `Mutex` for a call and gives it back at its end;
* `run_handles` says what becomes of the descriptors, in every order of steps: a connection that is
  refused costs one;
* `disconnects_kept_iff` says where the thread must be when the client is disconnected, for it not
  to connect again;
* `left_alone_iff` and `server_down_iff` say when a client that is to connect again gives that up.

A cycle with a socket gives `Mutex` back twice, by `Unlock` and by the end of its `rLocker`. The
second time does nothing when `Mutex` is free, which is so of a client that is left alone; when a
call has taken it in between, the call goes on without it, and the run is not followed any further.
-/

namespace Tritonn

/-- What the system says to the calls of `Connect`: the first of them that fails, or the time at
which the last one has succeeded. -/
inductive ConnectAnswer where
  | noSocket
  | noSendBuffer
  | noRecvBuffer
  | noNodelay
  | refused
  | accepted (tick : UInt32)
  deriving DecidableEq, Repr

/-- What `rTCPClientClass::Connect` returns. -/
def ConnectAnswer.result : ConnectAnswer → UInt32
  | .accepted _ => 0
  | .noSocket => 1
  | .noSendBuffer => 2
  | .noRecvBuffer => 3
  | .noNodelay => 4
  | .refused => 5

/-- The attempt has come as far as the server. -/
def ConnectAnswer.answered : ConnectAnswer → Bool
  | .refused | .accepted _ => true
  | _ => false

/-- Where the thread is in its cycle: at its beginning, behind the look at `Connected`, about to
connect again, about to wait for the server, or behind `Unlock`, with `Mutex` to give back a second
time. -/
inductive ClientPhase where
  | outside
  | checked
  | reconnect
  | serve
  | unlocked
  deriving DecidableEq, Repr

/-- `rTCPClientClass` with its `rClientTCP`, and what `RecvFromServer` works on. -/
structure TcpClient (ω : Type*) where
  socket : Option ℕ := none
  connected : Bool := false
  noReconnect : Bool := false
  reconnetTime : UInt32 := 1000
  pause : Int16 := 0
  ip : String := ""
  port : UInt16 := 0
  timerKeepAlive : TickCount := {}
  handles : Handles := {}
  phase : ClientPhase := .outside
  shared : ω

/-- What the system says in one cycle: to an attempt to connect, to `select` and `recv`, the time,
and whether an empty packet cannot be sent. -/
structure CycleAnswer where
  connect : ConnectAnswer
  ready : Ready
  tick : UInt32
  sendFails : Bool

/-- A call that another thread makes. -/
inductive ClientCall where
  | connect (ip : String) (port : UInt16) (answer : ConnectAnswer)
  | disconnect

/-- What came of the attempts to connect that a call makes. -/
def ClientCall.attempts : ClientCall → List ConnectAnswer
  | .connect _ _ answer => [answer]
  | .disconnect => []

namespace TcpClient

variable {ω : Type*}

/-- `rTCPClientClass::Destroy`, which does nothing when there is no socket. -/
def destroy (s : TcpClient ω) : TcpClient ω :=
  match s.socket with
  | some fd => { s with connected := false, handles := s.handles.release fd, socket := none }
  | none => s

/-- The call of `socket` has succeeded. -/
def openSocket (s : TcpClient ω) : TcpClient ω :=
  { s with socket := some s.handles.opened, handles := s.handles.acquire }

/-- `rTCPClientClass::Connect`. -/
def connect (s : TcpClient ω) (ip : String) (port : UInt16) (a : ConnectAnswer) : TcpClient ω :=
  let s := { s.destroy with ip, port }
  match a with
  | .noSocket => { s with connected := false }
  | .noSendBuffer | .noRecvBuffer | .noNodelay => s.openSocket.destroy
  -- the socket is forgotten, and not closed
  | .refused => { s.openSocket with connected := !s.noReconnect, socket := none }
  | .accepted tick =>
      { s.openSocket with timerKeepAlive := .start tick 1000, connected := true }

/-- `rTCPClientClass::Disconnect`. -/
def disconnect (s : TcpClient ω) : TcpClient ω :=
  { s with timerKeepAlive := s.timerKeepAlive.stop }.destroy

/-- The thread is to rest before it connects again. -/
def setPause (s : TcpClient ω) : TcpClient ω := { s with pause := s.reconnetTime.toUInt16.toInt16 }

variable (recvFromServer : ω → List UInt8 → ω × UInt32)

/-- `rTCPClientClass::ReadFromServer` and the look at the sets of `select`: the state, and whether
the connection is lost. The end of the stream is not taken for one. -/
def readFromServer (s : TcpClient ω) : Ready → TcpClient ω × Bool
  | .idle | .closed => (s, false)
  | .except => (s, true)
  | .data chunk =>
      let (shared, result) := recvFromServer s.shared chunk
      ({ s with shared }, result != 0)
  | .error again => (s, !again)

/-- The empty packet that is sent every second: the state, and whether it could not be sent. -/
def keepAlive (s : TcpClient ω) (tick : UInt32) (sendFails : Bool) : TcpClient ω × Bool :=
  if s.timerKeepAlive.isFinished tick then
    if sendFails then (s, true)
    else ({ s with timerKeepAlive := s.timerKeepAlive.restart tick }, false)
  else (s, false)

/-- What the cycle does when the connection is lost. -/
def lost (s : TcpClient ω) : TcpClient ω :=
  if s.noReconnect then { s.destroy with connected := false }
  else { s.destroy.setPause with connected := true }

/-- The part of the cycle that has a socket. -/
def serve (s : TcpClient ω) (a : CycleAnswer) : TcpClient ω :=
  let read := s.readFromServer recvFromServer a.ready
  let sent := read.1.keepAlive a.tick a.sendFails
  if read.2 || sent.2 then sent.1.lost else sent.1

/-- The thread has no socket where it needs one: what `FD_SET` does then is undefined. -/
def Faulty (s : TcpClient ω) : Prop := s.phase = .serve ∧ s.socket = none

/-- The next step of the thread in `rTCPClientClass::Proccesing`; one whose behaviour is undefined
is not taken. -/
def threadStep (s : TcpClient ω) (a : CycleAnswer) : TcpClient ω :=
  match s.phase with
  | .outside => if s.connected then { s with phase := .checked } else s
  | .checked => { s with phase := if s.socket.isNone then .reconnect else .serve }
  | .reconnect =>
      let s := s.connect s.ip s.port a.connect
      if a.connect.result ≠ 0 then { s.setPause with phase := .outside }
      else { s with phase := .serve }
  | .serve =>
      if s.socket.isNone then s else { s.serve recvFromServer a with phase := .unlocked }
  | .unlocked => { s with phase := .outside }

/-- What a call does. -/
def call (s : TcpClient ω) : ClientCall → TcpClient ω
  | .connect ip port answer => s.connect ip port answer
  | .disconnect => s.disconnect

/-- What came of the attempts to connect that a step of the thread makes. -/
def attempts (s : TcpClient ω) (a : CycleAnswer) : List ConnectAnswer :=
  if s.phase = .reconnect then [a.connect] else []

/-- A run of the thread alone. -/
def alone (s : TcpClient ω) (l : List CycleAnswer) : TcpClient ω :=
  l.foldl (threadStep recvFromServer) s

/-! ### The descriptors -/

/-- What becomes of the descriptors, when the attempts to connect have come to this: each is closed
at most once, the socket is one that is open, and of the others those that are open are the ones of
the attempts that were refused. -/
structure Accounted (s : TcpClient ω) (attempts : List ConnectAnswer) : Prop where
  ok : s.handles.Ok
  opened : s.handles.opened = attempts.countP (· ≠ .noSocket)
  socket : ∀ fd ∈ s.socket, fd ∈ s.handles.live
  length : s.handles.live.length = attempts.count .refused + s.socket.toList.length

variable {s s' : TcpClient ω} {as : List ConnectAnswer}

lemma Accounted.congr (h : s.Accounted as) (hhandles : s'.handles = s.handles)
    (hsocket : s'.socket = s.socket) : s'.Accounted as := by
  obtain ⟨hok, hopened, hmem, hlength⟩ := h
  rw [← hhandles] at hok hopened hmem hlength
  rw [← hsocket] at hmem hlength
  exact ⟨hok, hopened, hmem, hlength⟩

@[simp] lemma destroy_socket (s : TcpClient ω) : s.destroy.socket = none := by
  rw [destroy]
  split
  · rfl
  · assumption

@[simp] lemma destroy_opened (s : TcpClient ω) : s.destroy.handles.opened = s.handles.opened := by
  rw [destroy]
  split <;> rfl

@[simp] lemma destroy_noReconnect (s : TcpClient ω) : s.destroy.noReconnect = s.noReconnect := by
  rw [destroy]
  split <;> rfl

@[simp] lemma destroy_phase (s : TcpClient ω) : s.destroy.phase = s.phase := by
  rw [destroy]
  split <;> rfl

lemma Accounted.destroy (h : s.Accounted as) : s.destroy.Accounted as := by
  rw [TcpClient.destroy]
  split
  · next fd hfd =>
      have hmem : fd ∈ s.handles.live := h.socket fd hfd
      have hlength := h.length
      have hrelease := Handles.release_length hmem
      rw [hfd, Option.toList_some, List.length_singleton] at hlength
      refine ⟨h.ok.release hmem, h.opened, nofun, ?_⟩
      show (s.handles.release fd).live.length = as.count .refused + 0
      omega
  · exact h

/-- A socket that is open after an attempt, or was closed or lost in it. -/
lemma Accounted.connect (h : s.Accounted as) (ip : String) (port : UInt16) (a : ConnectAnswer) :
    (s.connect ip port a).Accounted (as ++ [a]) := by
  obtain ⟨hok, hopened, -, hlength⟩ := h.destroy
  rw [destroy_socket, Option.toList_none, List.length_nil] at hlength
  have hacquire := s.destroy.handles.acquire_length
  cases a with
  | noSocket =>
      refine ⟨hok, ?_, ?_, ?_⟩
      · rw [List.countP_append, ← hopened]
        rfl
      · rintro fd hfd
        exact absurd hfd (by simp [TcpClient.connect])
      · rw [List.count_append]
        simpa [TcpClient.connect] using hlength
  | refused =>
      refine ⟨hok.acquire, ?_, nofun, ?_⟩
      · rw [List.countP_append, ← hopened]
        rfl
      · rw [List.count_append, List.count_singleton_self]
        exact hacquire.trans (by rw [hlength]; rfl)
  | accepted tick =>
      refine ⟨hok.acquire, ?_, ?_, ?_⟩
      · rw [List.countP_append, ← hopened]
        rfl
      · rintro fd hfd
        rw [← Option.some.inj hfd]
        exact Handles.mem_acquire s.destroy.handles
      · rw [List.count_append]
        exact hacquire.trans (by rw [hlength]; rfl)
  | _ =>
      refine ⟨hok.acquire.release (Handles.mem_acquire _), ?_, nofun, ?_⟩
      · rw [List.countP_append, ← hopened]
        rfl
      · rw [List.count_append]
        exact (congrArg List.length (Handles.acquire_release s.destroy.handles)).trans hlength

variable {recvFromServer}

lemma Accounted.disconnect (h : s.Accounted as) : s.disconnect.Accounted as :=
  Accounted.destroy (h.congr rfl rfl)

lemma Accounted.lost (h : s.Accounted as) : s.lost.Accounted as := by
  rw [TcpClient.lost]
  split
  · exact h.destroy.congr rfl rfl
  · exact h.destroy.congr rfl rfl

variable (recvFromServer) in
lemma readFromServer_fst (s : TcpClient ω) (r : Ready) :
    ∃ shared, (s.readFromServer recvFromServer r).1 = { s with shared } := by
  cases r <;> exact ⟨_, rfl⟩

lemma keepAlive_fst (s : TcpClient ω) (tick : UInt32) (sendFails : Bool) :
    ∃ timerKeepAlive, (s.keepAlive tick sendFails).1 = { s with timerKeepAlive } := by
  rw [keepAlive]
  split_ifs <;> exact ⟨_, rfl⟩

variable (recvFromServer) in
/-- What the part of the cycle with a socket does: it works on its data, and may lose the socket. -/
lemma serve_eq (s : TcpClient ω) (a : CycleAnswer) : ∃ shared timerKeepAlive,
    s.serve recvFromServer a = { s with shared, timerKeepAlive } ∨
      s.serve recvFromServer a = TcpClient.lost { s with shared, timerKeepAlive } := by
  obtain ⟨shared, hread⟩ := s.readFromServer_fst recvFromServer a.ready
  obtain ⟨timerKeepAlive, hkeep⟩ := keepAlive_fst { s with shared } a.tick a.sendFails
  refine ⟨shared, timerKeepAlive, ?_⟩
  rw [serve, hread, hkeep]
  dsimp only
  split_ifs
  · exact .inr rfl
  · exact .inl rfl

lemma Accounted.serve (h : s.Accounted as) (a : CycleAnswer) :
    (s.serve recvFromServer a).Accounted as := by
  obtain ⟨shared, timerKeepAlive, hserve | hserve⟩ := s.serve_eq recvFromServer a
  · rw [hserve]
    exact h.congr rfl rfl
  · rw [hserve]
    exact Accounted.lost (h.congr rfl rfl)

lemma threadStep_outside (hphase : s.phase = .outside) (a : CycleAnswer) :
    s.threadStep recvFromServer a = if s.connected then { s with phase := .checked } else s := by
  rw [threadStep, hphase]

lemma threadStep_checked (hphase : s.phase = .checked) (a : CycleAnswer) :
    s.threadStep recvFromServer a =
      { s with phase := if s.socket.isNone then .reconnect else .serve } := by
  rw [threadStep, hphase]

lemma threadStep_reconnect (hphase : s.phase = .reconnect) (a : CycleAnswer) :
    s.threadStep recvFromServer a =
      if a.connect.result ≠ 0 then
        { (s.connect s.ip s.port a.connect).setPause with phase := .outside }
      else { s.connect s.ip s.port a.connect with phase := .serve } := by
  rw [threadStep, hphase]

lemma threadStep_serve (hphase : s.phase = .serve) (a : CycleAnswer) :
    s.threadStep recvFromServer a =
      if s.socket.isNone then s else { s.serve recvFromServer a with phase := .unlocked } := by
  rw [threadStep, hphase]

lemma threadStep_unlocked (hphase : s.phase = .unlocked) (a : CycleAnswer) :
    s.threadStep recvFromServer a = { s with phase := .outside } := by
  rw [threadStep, hphase]

lemma attempts_reconnect (hphase : s.phase = .reconnect) (a : CycleAnswer) :
    s.attempts a = [a.connect] := if_pos hphase

lemma attempts_of_ne (hphase : s.phase ≠ .reconnect) (a : CycleAnswer) :
    s.attempts a = [] := if_neg hphase

lemma Accounted.threadStep (h : s.Accounted as) (a : CycleAnswer) :
    (s.threadStep recvFromServer a).Accounted (as ++ s.attempts a) := by
  cases hphase : s.phase with
  | outside =>
      rw [threadStep_outside hphase, attempts_of_ne (by simp [hphase]), List.append_nil]
      split_ifs
      · exact h.congr rfl rfl
      · exact h
  | checked =>
      rw [threadStep_checked hphase, attempts_of_ne (by simp [hphase]), List.append_nil]
      exact h.congr rfl rfl
  | reconnect =>
      have hconnect := h.connect s.ip s.port a.connect
      rw [threadStep_reconnect hphase, attempts_reconnect hphase]
      split_ifs
      · exact hconnect.congr rfl rfl
      · exact hconnect.congr rfl rfl
  | serve =>
      rw [threadStep_serve hphase, attempts_of_ne (by simp [hphase]), List.append_nil]
      split_ifs
      · exact h
      · exact (h.serve a).congr rfl rfl
  | unlocked =>
      rw [threadStep_unlocked hphase, attempts_of_ne (by simp [hphase]), List.append_nil]
      exact h.congr rfl rfl

lemma Accounted.call (h : s.Accounted as) (c : ClientCall) :
    (s.call c).Accounted (as ++ c.attempts) := by
  cases c with
  | connect ip port answer => exact h.connect ip port answer
  | disconnect =>
      rw [ClientCall.attempts, List.append_nil]
      exact h.disconnect

lemma accounted_start (noReconnect : Bool) (w : ω) :
    Accounted { noReconnect, shared := w } [] :=
  ⟨Handles.ok_empty, rfl, nofun, rfl⟩

/-! ### A client that is disconnected -/

variable (recvFromServer) in
/-- A client that is disconnected and then left alone opens no connection, and its thread does not
look for a socket that it has not. -/
def DisconnectKept (s : TcpClient ω) : Prop :=
  ∀ l, (s.disconnect.alone recvFromServer l).handles.opened = s.handles.opened ∧
    ¬ (s.disconnect.alone recvFromServer l).Faulty

@[simp] lemma disconnect_socket (s : TcpClient ω) : s.disconnect.socket = none := destroy_socket _

@[simp] lemma disconnect_phase (s : TcpClient ω) : s.disconnect.phase = s.phase := destroy_phase _

@[simp] lemma disconnect_opened (s : TcpClient ω) :
    s.disconnect.handles.opened = s.handles.opened := destroy_opened _

/-- `Disconnect` has no effect on `Connected` when there is no socket. -/
lemma disconnect_connected (s : TcpClient ω) :
    s.disconnect.connected = (s.connected && s.socket.isNone) := by
  rw [disconnect, destroy]
  cases hsocket : s.socket with
  | none => simp
  | some fd => simp

/-- An attempt to connect that is refused. -/
def refusal : CycleAnswer := ⟨.refused, .idle, 0, false⟩

lemma connect_refused_opened (s : TcpClient ω) (ip : String) (port : UInt16) :
    (s.connect ip port .refused).handles.opened = s.handles.opened + 1 := by
  rw [connect]
  exact congrArg (· + 1) s.destroy_opened

variable (recvFromServer) in
lemma reconnect_refused (hphase : s.phase = .reconnect) :
    (s.threadStep recvFromServer refusal).handles.opened = s.handles.opened + 1 := by
  rw [threadStep_reconnect hphase, if_pos (by decide)]
  exact s.connect_refused_opened s.ip s.port

variable (recvFromServer) in
lemma checked_refused (hphase : s.phase = .checked) (hsocket : s.socket = none) :
    (s.alone recvFromServer [refusal, refusal]).handles.opened = s.handles.opened + 1 := by
  have hstep : s.threadStep recvFromServer refusal = { s with phase := .reconnect } := by
    rw [threadStep_checked hphase, hsocket]
    rfl
  rw [alone, List.foldl_cons, hstep]
  exact reconnect_refused recvFromServer (s := { s with phase := .reconnect }) rfl

lemma alone_of_fixed (h : ∀ a, s.threadStep recvFromServer a = s) (l : List CycleAnswer) :
    s.alone recvFromServer l = s := by
  induction l with
  | nil => rfl
  | cons a l ih => rw [alone, List.foldl_cons, h, ← alone, ih]

/-- A client that is not connected does nothing at the beginning of its cycle. -/
lemma alone_of_not_connected (hphase : s.phase = .outside) (hconnected : s.connected = false)
    (l : List CycleAnswer) : s.alone recvFromServer l = s :=
  alone_of_fixed (fun a => by rw [threadStep_outside hphase, hconnected, if_neg nofun]) l

variable (recvFromServer) in
/-- Behind `Unlock`, it only has `Mutex` to give back a second time. -/
lemma alone_unlocked (hphase : s.phase = .unlocked) (hconnected : s.connected = false)
    (l : List CycleAnswer) :
    (s.alone recvFromServer l).handles = s.handles ∧
      (s.alone recvFromServer l).phase ≠ .serve := by
  cases l with
  | nil =>
      refine ⟨rfl, ?_⟩
      rw [alone, List.foldl_nil, hphase]
      nofun
  | cons a l =>
      have hnext : s.alone recvFromServer (a :: l) = { s with phase := .outside } := by
        rw [alone, List.foldl_cons, threadStep_unlocked hphase]
        exact alone_of_not_connected (s := { s with phase := .outside }) rfl hconnected l
      rw [hnext]
      exact ⟨rfl, nofun⟩

/-- The thread is between two cycles, or behind the work of one. -/
def Idle (s : TcpClient ω) : Prop := s.phase = .outside ∨ s.phase = .unlocked

instance (s : TcpClient ω) : Decidable s.Idle := inferInstanceAs (Decidable (_ ∨ _))

/-- A client that does not wait to connect again stays disconnected if and only if its thread is
idle. -/
lemma disconnectKept_iff (hwaits : s.connected = true → s.socket.isSome = true) :
    s.DisconnectKept recvFromServer ↔ s.Idle := by
  have hconnected : s.disconnect.connected = false := by
    rw [disconnect_connected]
    cases hc : s.connected with
    | false => rfl
    | true => rw [Bool.true_and, ← Option.not_isSome, hwaits hc, Bool.not_true]
  constructor
  · intro h
    have hopened : ∀ l, (s.disconnect.alone recvFromServer l).handles.opened ≠
        s.disconnect.handles.opened + 1 := fun l hl => by
      rw [(h l).1, disconnect_opened] at hl
      omega
    cases hphase : s.phase with
    | outside => exact .inl hphase
    | unlocked => exact .inr hphase
    | checked =>
        have hphase' := (disconnect_phase s).trans hphase
        exact absurd (checked_refused recvFromServer hphase' (disconnect_socket s)) (hopened _)
    | reconnect =>
        have hphase' := (disconnect_phase s).trans hphase
        exact absurd (reconnect_refused recvFromServer hphase') (hopened [refusal])
    | serve => exact absurd ⟨(disconnect_phase s).trans hphase, disconnect_socket s⟩ (h []).2
  · rintro (hphase | hphase) l
    · have hphase' := (disconnect_phase s).trans hphase
      rw [alone_of_not_connected hphase' hconnected, Faulty, hphase']
      exact ⟨disconnect_opened s, fun h => nomatch h.1⟩
    · obtain ⟨hhandles, hserve⟩ := alone_unlocked recvFromServer
        ((disconnect_phase s).trans hphase) hconnected l
      rw [hhandles]
      exact ⟨disconnect_opened s, fun h => hserve h.1⟩

/-- A client that is not to connect again, and has a socket when it is connected. -/
structure Settled (s : TcpClient ω) : Prop where
  noReconnect : s.noReconnect = true
  socket : s.connected = true → s.socket.isSome = true

lemma Settled.destroy (h : s.Settled) : s.destroy.Settled := by
  rw [TcpClient.destroy]
  split
  · exact ⟨h.noReconnect, nofun⟩
  · exact h

lemma Settled.connect (h : s.Settled) (ip : String) (port : UInt16) (a : ConnectAnswer) :
    (s.connect ip port a).Settled := by
  have hset : s.destroy.noReconnect = true := s.destroy_noReconnect.trans h.noReconnect
  cases a with
  | refused =>
      have hconnected : (s.connect ip port .refused).connected = !s.destroy.noReconnect := rfl
      rw [hset] at hconnected
      exact ⟨hset, fun hc => absurd (hconnected.symm.trans hc) Bool.false_ne_true⟩
  | accepted tick => exact ⟨hset, fun _ => rfl⟩
  | _ => exact ⟨hset, nofun⟩

lemma Settled.serve (h : s.Settled) (a : CycleAnswer) : (s.serve recvFromServer a).Settled := by
  obtain ⟨shared, timerKeepAlive, hserve | hserve⟩ := s.serve_eq recvFromServer a
  · rw [hserve]
    exact ⟨h.noReconnect, h.socket⟩
  · rw [hserve, lost, if_pos h.noReconnect]
    exact ⟨(destroy_noReconnect _).trans h.noReconnect, nofun⟩

lemma Settled.call (h : s.Settled) (c : ClientCall) : (s.call c).Settled := by
  cases c with
  | connect ip port answer => exact h.connect ip port answer
  | disconnect => exact Settled.destroy ⟨h.noReconnect, h.socket⟩

lemma Settled.threadStep (h : s.Settled) (a : CycleAnswer) :
    (s.threadStep recvFromServer a).Settled := by
  cases hphase : s.phase with
  | outside =>
      rw [threadStep_outside hphase]
      split_ifs
      · exact ⟨h.noReconnect, h.socket⟩
      · exact h
  | checked =>
      rw [threadStep_checked hphase]
      exact ⟨h.noReconnect, h.socket⟩
  | reconnect =>
      have hconnect := h.connect s.ip s.port a.connect
      rw [threadStep_reconnect hphase]
      split_ifs
      · exact ⟨hconnect.noReconnect, hconnect.socket⟩
      · exact ⟨hconnect.noReconnect, hconnect.socket⟩
  | serve =>
      have hserve : (s.serve recvFromServer a).Settled := h.serve a
      rw [threadStep_serve hphase]
      split_ifs
      · exact h
      · exact ⟨hserve.noReconnect, hserve.socket⟩
  | unlocked =>
      rw [threadStep_unlocked hphase]
      exact ⟨h.noReconnect, h.socket⟩

/-! ### A client that is to connect again -/

variable (recvFromServer) in
/-- What came of the attempts that a client makes that is left alone. -/
def attemptsAlone (s : TcpClient ω) (l : List CycleAnswer) : List ConnectAnswer :=
  Run.outputs (threadStep recvFromServer) attempts s l

/-- A client that is to connect again, and does. -/
structure Trying (s : TcpClient ω) : Prop where
  noReconnect : s.noReconnect = false
  connected : s.connected = true
  serve : s.phase = .serve → s.socket.isSome = true

lemma Trying.of_outside (hset : s.noReconnect = false) (hphase : s.phase = .outside)
    (hconnected : s.connected = true) : s.Trying where
  noReconnect := hset
  connected := hconnected
  serve hserve := by
    rw [hphase] at hserve
    cases hserve

variable (recvFromServer) in
lemma Trying.serve_state (h : s.Trying) (a : CycleAnswer) :
    (s.serve recvFromServer a).noReconnect = false ∧
      (s.serve recvFromServer a).connected = true := by
  obtain ⟨shared, timerKeepAlive, hserve | hserve⟩ := s.serve_eq recvFromServer a
  · rw [hserve]
    exact ⟨h.noReconnect, h.connected⟩
  · rw [hserve, lost, if_neg (by simp [h.noReconnect])]
    exact ⟨(destroy_noReconnect _).trans h.noReconnect, rfl⟩

variable (recvFromServer) in
/-- A step of such a client leaves it as it is, or is an attempt that does not come as far as the
server. -/
lemma Trying.threadStep (h : s.Trying) (a : CycleAnswer) :
    (∀ answer ∈ s.attempts a, answer.answered = true) ∧
        (s.threadStep recvFromServer a).Trying ∨
      (∃ answer ∈ s.attempts a, answer.answered = false) ∧
        (s.threadStep recvFromServer a).phase = .outside ∧
        (s.threadStep recvFromServer a).connected = false := by
  have hquiet : s.phase ≠ .reconnect →
      ∀ answer ∈ s.attempts a, answer.answered = true := fun hphase answer hanswer => by
    rw [attempts_of_ne hphase] at hanswer
    exact absurd hanswer List.not_mem_nil
  cases hphase : s.phase with
  | outside =>
      refine .inl ⟨hquiet (by simp [hphase]), ?_⟩
      rw [threadStep_outside hphase, if_pos h.connected]
      exact ⟨h.noReconnect, h.connected, nofun⟩
  | checked =>
      refine .inl ⟨hquiet (by simp [hphase]), ?_⟩
      rw [threadStep_checked hphase]
      refine ⟨h.noReconnect, h.connected, fun hserve => ?_⟩
      cases hsocket : s.socket with
      | none => simp [hsocket] at hserve
      | some fd => rfl
  | reconnect =>
      have hset : s.destroy.noReconnect = false := s.destroy_noReconnect.trans h.noReconnect
      rw [attempts_reconnect hphase, threadStep_reconnect hphase]
      cases hanswer : a.connect with
      | accepted tick =>
          exact .inl ⟨by simp [ConnectAnswer.answered], hset, rfl, fun _ => rfl⟩
      | refused =>
          refine .inl ⟨by simp [ConnectAnswer.answered], hset, ?_, nofun⟩
          show (!s.destroy.noReconnect) = true
          rw [hset, Bool.not_false]
      | _ => exact .inr ⟨⟨_, List.mem_singleton_self _, rfl⟩, rfl, rfl⟩
  | serve =>
      refine .inl ⟨hquiet (by simp [hphase]), ?_⟩
      obtain ⟨hset, hconnected⟩ := h.serve_state recvFromServer a
      have hsome : s.socket.isNone = false := by
        rw [← Option.not_isSome, h.serve hphase, Bool.not_true]
      rw [threadStep_serve hphase, hsome, if_neg nofun]
      exact ⟨hset, hconnected, nofun⟩
  | unlocked =>
      refine .inl ⟨hquiet (by simp [hphase]), ?_⟩
      rw [threadStep_unlocked hphase]
      exact ⟨h.noReconnect, h.connected, nofun⟩

/-- A client that is to connect again, left alone, gives up if and only if an attempt of it does not
come as far as the server. -/
theorem left_alone_iff (hset : s.noReconnect = false) (hphase : s.phase = .outside)
    (hconnected : s.connected = true) (l : List CycleAnswer) :
    (s.alone recvFromServer l).connected = true ↔
      ∀ answer ∈ s.attemptsAlone recvFromServer l, answer.answered = true := by
  have hs : s.Trying := .of_outside hset hphase hconnected
  clear hset hphase hconnected
  induction l generalizing s with
  | nil => simp [alone, attemptsAlone, Run.outputs, hs.connected]
  | cons a l ih =>
      rw [alone, List.foldl_cons, ← alone, attemptsAlone, Run.outputs, ← attemptsAlone]
      rcases hs.threadStep recvFromServer a with
        ⟨hanswered, hnext⟩ | ⟨⟨answer, hmem, hfailed⟩, hphase, hconnected⟩
      · rw [List.forall_mem_append]
        exact (ih hnext).trans (and_iff_right hanswered).symm
      · rw [alone_of_not_connected hphase hconnected, hconnected]
        refine iff_of_false Bool.false_ne_true fun h => ?_
        have htrue := h answer (List.mem_append_left _ hmem)
        rw [hfailed] at htrue
        exact Bool.false_ne_true htrue

/-- A client that gives up, at its second attempt. -/
theorem left_alone_iff_sample :
    let recvFromServer : Unit → List UInt8 → Unit × UInt32 := fun w _ => (w, 1)
    let s : TcpClient Unit := { connected := true, shared := () }
    let l := [refusal, refusal, refusal, refusal, refusal, { refusal with connect := .noSocket }]
    s.attemptsAlone recvFromServer l = [.refused, .noSocket] ∧
      ((s.alone recvFromServer l).connected = true ↔
        ∀ answer ∈ s.attemptsAlone recvFromServer l, answer.answered = true) :=
  ⟨rfl, left_alone_iff rfl rfl rfl _⟩

/-- A client that waits to connect again. -/
structure Waiting (s : TcpClient ω) : Prop where
  noReconnect : s.noReconnect = false
  phase : s.phase = .outside
  connected : s.connected = true
  socket : s.socket = none

/-- What a system that gives `limit` descriptors, and whose server refuses every connection, says to
an attempt. -/
def down (limit : ℕ) (s : TcpClient ω) : CycleAnswer :=
  { refusal with connect := if s.handles.live.length < limit then .refused else .noSocket }

variable (recvFromServer) in
/-- A step of the thread in such a system. -/
def downStep (limit : ℕ) (s : TcpClient ω) : TcpClient ω :=
  s.threadStep recvFromServer (s.down limit)

variable {limit : ℕ}

variable (recvFromServer limit) in
/-- The two steps before the attempt. -/
lemma Waiting.downStep (h : s.Waiting) :
    s.downStep recvFromServer limit = { s with phase := .checked } ∧
      TcpClient.downStep recvFromServer limit { s with phase := .checked }
        = { s with phase := .reconnect } := by
  rw [TcpClient.downStep, TcpClient.downStep, threadStep_outside h.phase, if_pos h.connected,
    threadStep_checked rfl, h.socket]
  exact ⟨rfl, rfl⟩

lemma Waiting.destroy (h : s.Waiting) (phase : ClientPhase) :
    TcpClient.destroy { s with phase } = { s with phase } := by
  rw [TcpClient.destroy, h.socket]

variable (recvFromServer) in
/-- One turn in which there is a descriptor left. -/
lemma Waiting.turn (h : s.Waiting) (hlive : s.handles.live.length < limit) :
    (TcpClient.downStep recvFromServer limit { s with phase := .reconnect }).Waiting ∧
      (TcpClient.downStep recvFromServer limit { s with phase := .reconnect }).handles.live.length
        = s.handles.live.length + 1 := by
  rw [TcpClient.downStep, threadStep_reconnect rfl, down, if_pos hlive, if_pos (by decide), connect,
    h.destroy]
  refine ⟨⟨h.noReconnect, rfl, ?_, rfl⟩, rfl⟩
  show (!s.noReconnect) = true
  rw [h.noReconnect, Bool.not_false]

variable (recvFromServer) in
/-- The turn in which there is none. -/
lemma Waiting.giveUp (h : s.Waiting) (hlive : s.handles.live.length = limit) :
    (TcpClient.downStep recvFromServer limit { s with phase := .reconnect }).phase = .outside ∧
      (TcpClient.downStep recvFromServer limit { s with phase := .reconnect }).connected
        = false := by
  rw [TcpClient.downStep, threadStep_reconnect rfl, down, if_neg (Nat.not_lt.mpr hlive.ge),
    if_pos (by decide), connect, h.destroy]
  exact ⟨rfl, rfl⟩

lemma Waiting.early (h : s.Waiting) {n : ℕ} (hn : n < 3) :
    ((TcpClient.downStep recvFromServer limit)^[n] s).connected = true := by
  obtain ⟨hfirst, hsecond⟩ := h.downStep recvFromServer limit
  match n, hn with
  | 0, _ => exact h.connected
  | 1, _ =>
      rw [Function.iterate_one, hfirst]
      exact h.connected
  | 2, _ =>
      rw [Function.iterate_succ_apply, hfirst, Function.iterate_one, hsecond]
      exact h.connected

lemma Waiting.iterate (h : s.Waiting) (m : ℕ) :
    (TcpClient.downStep recvFromServer limit)^[m + 3] s =
      (TcpClient.downStep recvFromServer limit)^[m]
        (TcpClient.downStep recvFromServer limit { s with phase := .reconnect }) := by
  obtain ⟨hfirst, hsecond⟩ := h.downStep recvFromServer limit
  rw [Function.iterate_succ_apply, Function.iterate_succ_apply, Function.iterate_succ_apply, hfirst,
    hsecond]

lemma down_of_not_connected (hphase : s.phase = .outside) (hconnected : s.connected = false)
    (m : ℕ) : (TcpClient.downStep recvFromServer limit)^[m] s = s := by
  have hfixed : TcpClient.downStep recvFromServer limit s = s := by
    rw [TcpClient.downStep, threadStep_outside hphase, hconnected, if_neg nofun]
  exact Function.iterate_fixed hfixed m

/-- A client that is to connect again, and whose server is down, gives up: each attempt costs a
descriptor, and the first one for which there is none is the last one. -/
theorem server_down_iff (hset : s.noReconnect = false) (hphase : s.phase = .outside)
    (hconnected : s.connected = true) (hsocket : s.socket = none)
    (hlive : s.handles.live.length ≤ limit) (n : ℕ) :
    ((TcpClient.downStep recvFromServer limit)^[n] s).connected = true ↔
      n < 3 * (limit - s.handles.live.length + 1) := by
  have hs : s.Waiting := ⟨hset, hphase, hconnected, hsocket⟩
  clear hset hphase hconnected hsocket
  induction hk : limit - s.handles.live.length generalizing s n with
  | zero =>
      rcases Nat.lt_or_ge n 3 with hn | hn
      · exact iff_of_true (hs.early hn) hn
      · obtain ⟨m, rfl⟩ := Nat.exists_eq_add_of_le' hn
        have hfull : s.handles.live.length = limit := by omega
        obtain ⟨hphase, hconnected⟩ := hs.giveUp recvFromServer hfull
        rw [hs.iterate, down_of_not_connected hphase hconnected, hconnected]
        exact iff_of_false Bool.false_ne_true (by omega)
  | succ k ih =>
      rcases Nat.lt_or_ge n 3 with hn | hn
      · exact iff_of_true (hs.early hn) (by omega)
      · obtain ⟨m, rfl⟩ := Nat.exists_eq_add_of_le' hn
        have hleft : s.handles.live.length < limit := by omega
        obtain ⟨hnext, hlength⟩ := hs.turn recvFromServer hleft
        rw [hs.iterate]
        refine (ih (by omega) m hnext (by omega)).trans ?_
        omega

/-- With one descriptor, the second attempt is the last one. -/
theorem server_down_iff_sample :
    let recvFromServer : Unit → List UInt8 → Unit × UInt32 := fun w _ => (w, 1)
    let s : TcpClient Unit := { connected := true, shared := () }
    ((downStep recvFromServer 1)^[5] s).connected = true ↔
      5 < 3 * (1 - s.handles.live.length + 1) :=
  server_down_iff rfl rfl rfl rfl (by decide) 5

end TcpClient

/-! ### A client that is called -/

/-- A step: the other thread takes `Mutex` for a call, or ends the call and gives `Mutex` back, or
the thread of the client goes on. -/
inductive ClientAct where
  | enter (call : ClientCall)
  | leave
  | thread (answer : CycleAnswer)

/-- A client that is called: the call that holds `Mutex`, and what came of the attempts to connect
so far. -/
structure CalledClient (ω : Type*) where
  client : TcpClient ω
  holder : Option ClientCall := none
  attempts : List ConnectAnswer := []

/-- What a run comes to when it is not followed any further: the thread, which gives `Mutex` back
twice, has taken it away from a call, or it looks for a socket that it has not. -/
inductive ClientFault where
  | released
  | noSocket

namespace CalledClient

variable {ω : Type*} (recvFromServer : ω → List UInt8 → ω × UInt32)

/-- The next step of the thread of the client. It waits for `Mutex`, but for the look at
`Connected`. -/
def thread (s : CalledClient ω) (a : CycleAnswer) : Except ClientFault (CalledClient ω) :=
  if s.client.phase = .outside ∨ s.holder.isNone then
    if s.client.phase = .serve ∧ s.client.socket.isNone then .error .noSocket
    else
      .ok { s with client := s.client.threadStep recvFromServer a
                   attempts := s.attempts ++ s.client.attempts a }
  else if s.client.phase = .unlocked then .error .released
  else .ok s

/-- A step; one that cannot be taken now leaves everything as it is. -/
def step (s : CalledClient ω) : ClientAct → Except ClientFault (CalledClient ω)
  | .enter call => .ok (if s.holder.isNone then { s with holder := some call } else s)
  | .leave =>
      match s.holder with
      | some call =>
          .ok
            { client := s.client.call call
              holder := none
              attempts := s.attempts ++ call.attempts }
      | none => .ok s
  | .thread answer => s.thread recvFromServer answer

/-- A run of a client that was just built. -/
def run (noReconnect : Bool) (w : ω) (l : List ClientAct) : Except ClientFault (CalledClient ω) :=
  l.foldlM (step recvFromServer) { client := { noReconnect, shared := w } }

variable {recvFromServer} {s s' : CalledClient ω}

/-- What the thread and every call keep of the client, and of what came of the attempts. -/
structure Keeps (recvFromServer : ω → List UInt8 → ω × UInt32)
    (P : TcpClient ω → List ConnectAnswer → Prop) : Prop where
  thread : ∀ c as a, P c as → P (c.threadStep recvFromServer a) (as ++ c.attempts a)
  call : ∀ c as call, P c as → P (c.call call) (as ++ call.attempts)

variable {P : TcpClient ω → List ConnectAnswer → Prop}

lemma Keeps.step (hP : Keeps recvFromServer P) (a : ClientAct)
    (h : s.step recvFromServer a = .ok s') (hs : P s.client s.attempts) :
    P s'.client s'.attempts := by
  cases a with
  | enter call =>
      rw [CalledClient.step, Except.ok.injEq] at h
      rw [← h]
      split_ifs
      · exact hs
      · exact hs
  | leave =>
      rw [CalledClient.step] at h
      split at h
      · cases h
        exact hP.call _ _ _ hs
      · cases h
        exact hs
  | thread answer =>
      rw [CalledClient.step, CalledClient.thread] at h
      split_ifs at h
      · cases h
        exact hP.thread _ _ _ hs
      · cases h
        exact hs

/-- It is so of every run, when it is so of the client that was just built. -/
lemma Keeps.run (hP : Keeps recvFromServer P) {noReconnect : Bool} {w : ω} {l : List ClientAct}
    (h : run recvFromServer noReconnect w l = .ok s) (hstart : P { noReconnect, shared := w } []) :
    P s.client s.attempts := by
  rw [CalledClient.run] at h
  refine Result.foldlM_keeps (P := fun s : CalledClient ω => P s.client s.attempts)
    (fun a _ _ _ => hP.step a) h ?_
  exact hstart

/-- The descriptors of a client, after every sequence of steps of its thread and of calls of another
one: none is closed twice, none is used that is closed, and those that are open are the one of the
socket and, for good, those of the attempts that were refused. -/
theorem run_handles (noReconnect : Bool) (w : ω) (l : List ClientAct)
    (h : run recvFromServer noReconnect w l = .ok s) : s.client.Accounted s.attempts := by
  have hkeeps : Keeps recvFromServer TcpClient.Accounted :=
    ⟨fun _ _ a hc => hc.threadStep a, fun _ _ c hc => hc.call c⟩
  exact hkeeps.run h (TcpClient.accounted_start noReconnect w)

/-- A client whose thread waits while it is connected for the first time, and behind the lost
connection connects again, waits for the server, and finds itself disconnected. -/
theorem run_handles_sample :
    let receive : Unit → List UInt8 → Unit × UInt32 := fun w _ => (w, 1)
    let lost : CycleAnswer := ⟨.accepted 5, .except, 7, false⟩
    let again : CycleAnswer := ⟨.accepted 5, .idle, 7, false⟩
    let l : List ClientAct := [.enter (.connect "10.0.0.1" 5000 .refused), .thread lost, .leave,
      .enter (.connect "10.0.0.1" 5000 (.accepted 0)), .leave, .thread lost, .thread lost,
      .thread lost, .thread lost, .thread again, .thread again, .thread again, .thread again,
      .enter .disconnect, .leave, .thread again]
    let s : CalledClient Unit :=
      { client := { pause := 1000, ip := "10.0.0.1", port := 5000, shared := ()
                    timerKeepAlive := ⟨5, 1000, false⟩, handles := ⟨3, [0], [2, 1]⟩ }
        attempts := [.refused, .accepted 0, .accepted 5] }
    run receive false () l = .ok s ∧ s.client.Accounted s.attempts := by
  intro receive lost again l s
  have hrun : run receive false () l = .ok s := by
    -- the unifier does not look through the names
    subst receive lost again l s
    rfl
  exact ⟨hrun, run_handles false () l hrun⟩

/-- In every run of a client that is not to connect again: whoever disconnects it is obeyed every
time if and only if it is done each time when its thread is idle. In the midst of its cycle the
thread connects again, or goes on without a socket. -/
theorem disconnects_kept_iff (w : ω) (l : List ClientAct) :
    (∀ pre s, pre ++ [.leave] <+: l → run recvFromServer true w pre = .ok s →
        s.holder = some .disconnect → s.client.DisconnectKept recvFromServer) ↔
      ∀ pre s, pre ++ [.leave] <+: l → run recvFromServer true w pre = .ok s →
        s.holder = some .disconnect → s.client.Idle := by
  have hkeeps : Keeps recvFromServer fun (c : TcpClient ω) _ => c.Settled :=
    ⟨fun _ _ a hc => hc.threadStep a, fun _ _ c hc => hc.call c⟩
  refine forall₂_congr fun pre s => imp_congr_right fun _ => forall_congr' fun hrun => ?_
  have hs : s.client.Settled := hkeeps.run hrun ⟨rfl, fun hc => absurd hc Bool.false_ne_true⟩
  rw [TcpClient.disconnectKept_iff hs.socket]

end CalledClient

end Tritonn

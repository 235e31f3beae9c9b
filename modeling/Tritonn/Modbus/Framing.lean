import Tritonn.Lib.Segment
import Tritonn.Modbus.Handlers

/-!
Framing: whether the frames of a connection are dispatched however they are cut into chunks.

* `Serves` is what the server does with a list of bodies, without the framing, and `serves_iff`
  says when it comes to the end of them;
* `Framed` is the property: all chunks are read, every frame is dispatched once and in order, and
  the connection is not closed;
* `clientRecv_frame` is one turn of the loop of `ClientRecv`, `served_of_clientRecv` and
  `clientRecv_part` a whole chunk of it: a group of whole frames, or one that ends inside a frame;
* `framed_iff` says that the frames are dispatched if and only if every chunk is a group of whole
  frames, and they are frames on which the handlers return;
* `framed_fails` is a frame in two chunks.
-/

namespace Tritonn

open Segment (Grouped Part)

/-- The server handles the bodies in turn and reaches the state `s'`. -/
def Slave.Serves (fuel : ℕ) (s : Slave) (bodies : List (List UInt8)) (s' : Slave) : Prop :=
  bodies.foldlM (fun s b => (s.dispatch fuel b).map Answer.slave) s = .ok s'

/-- The server comes to the end of the bodies when the handlers return on each of them. -/
lemma Slave.serves_iff {fuel : ℕ} {s : Slave} {frames : List Frame} :
    (∃ s', s.Serves fuel (frames.map Frame.body) s') ↔
      ∀ f ∈ frames, Returns s.slaveID s.swap f.body := by
  induction frames generalizing s with
  | nil => exact iff_of_true ⟨s, rfl⟩ (by simp)
  | cons f frames ih =>
      have hf : (∃ a, s.dispatch fuel f.body = .ok a) ↔ Returns s.slaveID s.swap f.body :=
        dispatch_ok_iff f.six_le
      simp only [Serves, List.map_cons, List.foldlM_cons, List.forall_mem_cons] at ih ⊢
      cases ha : s.dispatch fuel f.body with
      | error e =>
          rw [ha] at hf
          refine iff_of_false (fun ⟨s', h⟩ => nomatch h) fun h => ?_
          obtain ⟨a, ha⟩ := hf.mpr h.1
          cases ha
      | ok a =>
          -- The unit and the swap setting are those of the state before.
          obtain ⟨hid, hswap⟩ := dispatch_frame f.six_le ha
          have hret : Returns s.slaveID s.swap f.body := hf.mp ⟨a, ha⟩
          refine (ih (s := a.slave)).trans ?_
          rw [hid, hswap, and_iff_right hret]

namespace Connection

/-- The state of a connection after the frames: the server has handled them, they are the ones that
were dispatched, and the client is at the boundary of a frame again. -/
structure Served (fuel : ℕ) (k : Connection) (frames : List Frame) (k' : Connection) : Prop where
  serves : k.slave.Serves fuel (frames.map Frame.body) k'.slave
  dispatched : k'.dispatched = k.dispatched ++ frames.map Frame.body
  atBoundary : k'.client.AtBoundary

/-- The chunks are read, each frame is dispatched once and in order, and the connection is never
reported for closing. -/
def Framed (fuel : ℕ) (k : Connection) (frames : List Frame) (chunks : List (List UInt8)) : Prop :=
  ∃ k', k.readAll fuel chunks = .ok (k', 1) ∧
    k'.dispatched = k.dispatched ++ frames.map Frame.body

variable {fuel : ℕ} {k k₁ k₂ : Connection}

/-! ### What is dispatched -/

lemma Served.nil (h : k.client.AtBoundary) : Served fuel k [] k := ⟨rfl, by simp, h⟩

lemma Served.append {fs gs : List Frame} (h₁ : Served fuel k fs k₁) (h₂ : Served fuel k₁ gs k₂) :
    Served fuel k (fs ++ gs) k₂ := by
  refine ⟨?_, ?_, h₂.atBoundary⟩
  · have hs := h₁.serves
    rw [Slave.Serves] at hs ⊢
    rw [List.map_append, List.foldlM_append, hs]
    exact h₂.serves
  · rw [h₂.dispatched, h₁.dispatched, List.map_append, List.append_assoc]

/-- A frame that the client has read is dispatched. -/
lemma served_dispatch {client : ModbusClient} (hb : client.AtBoundary) {f : Frame}
    (hf : client.buff = f.body) (h : k.dispatch fuel client = .ok k₁) : Served fuel k [f] k₁ := by
  rw [dispatch, hf] at h
  cases ha : k.slave.dispatch fuel f.body with
  | error e => rw [ha] at h; cases h
  | ok a =>
      rw [ha] at h
      cases h
      refine ⟨?_, by simp, hb⟩
      rw [Slave.Serves, List.map_cons, List.map_nil, List.foldlM_cons, ha]
      rfl

/-- The server that handles a body handles the frame that the client has read. -/
lemma dispatch_of_serves {client : ModbusClient} {f : Frame} (hf : client.buff = f.body)
    {bodies : List (List UInt8)} {s : Slave} (h : k.slave.Serves fuel (f.body :: bodies) s) :
    ∃ k₁, k.dispatch fuel client = .ok k₁ ∧ k₁.slave.Serves fuel bodies s := by
  rw [dispatch, hf]
  rw [Slave.Serves, List.foldlM_cons] at h
  cases ha : k.slave.dispatch fuel f.body with
  | error e => rw [ha] at h; cases h
  | ok a =>
      rw [ha] at h
      exact ⟨_, rfl, h⟩

/-! ### A chunk -/

lemma flatten_bytes_eq_nil {g : List Frame} : (g.map Frame.bytes).flatten = [] ↔ g = [] := by
  rw [List.flatten_eq_nil_iff]
  cases g with
  | nil => simp
  | cons f g =>
      have h := f.length_bytes
      have hne : f.bytes ≠ [] := by
        rw [← List.length_pos_iff]
        omega
      simp [hne]

/-- One turn of the loop of `ClientRecv`: a chunk that begins with a whole frame. -/
lemma clientRecv_frame (hk : k.client.AtBoundary) (f : Frame) (rest : List UInt8) :
    ∃ client : ModbusClient, client.AtBoundary ∧ client.buff = f.body ∧
      k.clientRecv fuel (f.bytes ++ rest) = match k.dispatch fuel client with
        | .error e => .error e
        | .ok k₁ => if rest = [] then .ok (k₁, 1) else k₁.clientRecv fuel rest := by
  obtain ⟨client, hrecv, hbuff, hread, hb⟩ := ModbusClient.recv_whole hk f rest
  refine ⟨client, hb, hbuff, ?_⟩
  rw [clientRecv]
  split
  next e he => rw [hrecv] at he; cases he
  next c he => rw [hrecv] at he; cases he
  next c he =>
    rw [hrecv] at he
    cases he
    cases k.dispatch fuel client with
    | error e => rfl
    | ok k₁ =>
        -- The cursor of the caller moves over the frame, whose length is the reader's `Size`.
        have hlen : client.buff.length + client.headerRead = f.bytes.length := by
          rw [hbuff, hread, Frame.length_bytes, Nat.add_comm]
        simp only [hlen, List.length_append, List.drop_left]
        by_cases hr : rest = []
        · simp [hr]
        · rw [if_neg hr, if_pos (by have := List.length_pos_iff.mpr hr; omega)]

/-- A chunk that ends inside a frame: the connection is reported for closing. -/
lemma clientRecv_part (hk : k.client.AtBoundary) (g : List Frame) (f : Frame) {part : List UInt8}
    (hp : Part part f.bytes) {n : ℕ}
    (h : k.clientRecv fuel ((g.map Frame.bytes).flatten ++ part) = .ok (k₁, n)) : n = 0 := by
  induction g generalizing k with
  | nil =>
      obtain ⟨client, hrecv⟩ := ModbusClient.recv_part hk f hp
      rw [List.map_nil, List.flatten_nil, List.nil_append, clientRecv] at h
      split at h
      next e he => cases h
      next c he => cases h; rfl
      next c he => rw [hrecv] at he; cases he
  | cons f' g ih =>
      rw [List.map_cons, List.flatten_cons, List.append_assoc] at h
      obtain ⟨client, hb, hbuff, heq⟩ :=
        clientRecv_frame hk f' ((g.map Frame.bytes).flatten ++ part)
      rw [heq] at h
      cases hd : k.dispatch fuel client with
      | error e => rw [hd] at h; cases h
      | ok k₂ =>
          rw [hd] at h
          simp only [List.append_eq_nil_iff, hp.ne_nil, and_false, if_false] at h
          exact ih (served_dispatch hb hbuff hd).atBoundary h

/-- A chunk that is a group of whole frames and is read: the frames are served. -/
lemma served_of_clientRecv (hk : k.client.AtBoundary) {g : List Frame} (hg : g ≠ []) {n : ℕ}
    (h : k.clientRecv fuel (g.map Frame.bytes).flatten = .ok (k₁, n)) :
    n = 1 ∧ Served fuel k g k₁ := by
  induction g generalizing k with
  | nil => exact absurd rfl hg
  | cons f g ih =>
      rw [List.map_cons, List.flatten_cons] at h
      obtain ⟨client, hb, hbuff, heq⟩ :=
        clientRecv_frame hk f (g.map Frame.bytes).flatten
      rw [heq] at h
      cases hd : k.dispatch fuel client with
      | error e => rw [hd] at h; cases h
      | ok k₂ =>
          have hf := served_dispatch hb hbuff hd
          rw [hd] at h
          by_cases hg' : g = []
          · subst hg'
            cases h
            exact ⟨rfl, hf⟩
          · simp only [flatten_bytes_eq_nil, hg', if_false] at h
            obtain ⟨hn, hs⟩ := ih hf.atBoundary hg' h
            exact ⟨hn, hf.append hs⟩

/-- A chunk that is a group of whole frames is read if the handlers return. -/
lemma clientRecv_of_serves (hk : k.client.AtBoundary) {g : List Frame} (hg : g ≠ []) {s : Slave}
    (h : k.slave.Serves fuel (g.map Frame.body) s) :
    ∃ k₁ n, k.clientRecv fuel (g.map Frame.bytes).flatten = .ok (k₁, n) := by
  induction g generalizing k with
  | nil => exact absurd rfl hg
  | cons f g ih =>
      rw [List.map_cons, List.flatten_cons]
      obtain ⟨client, hb, hbuff, heq⟩ :=
        clientRecv_frame hk f (g.map Frame.bytes).flatten
      obtain ⟨k₂, hd, hs⟩ := dispatch_of_serves hbuff h
      rw [heq, hd]
      by_cases hg' : g = []
      · subst hg'
        exact ⟨k₂, 1, rfl⟩
      · simp only [flatten_bytes_eq_nil, hg', if_false]
        exact ih (served_dispatch hb hbuff hd).atBoundary hg' hs

/-! ### The chunks of a connection -/

lemma readAll_cons_ok {chunk : List UInt8} {chunks : List (List UInt8)}
    (h : k.readAll fuel (chunk :: chunks) = .ok (k₂, 1)) :
    ∃ k₁ n, k.clientRecv fuel chunk = .ok (k₁, n + 1) ∧ k₁.readAll fuel chunks = .ok (k₂, 1) := by
  rw [readAll] at h
  cases hr : k.clientRecv fuel chunk with
  | error e => rw [hr] at h; cases h
  | ok r =>
      obtain ⟨k₁, n⟩ := r
      rw [hr] at h
      cases n with
      | zero => cases h
      | succ n => exact ⟨k₁, n, rfl, h⟩

/-- Chunks that are groups of whole frames are read if the handlers return. -/
lemma readAll_of_grouped (hk : k.client.AtBoundary) {groups : List (List Frame)}
    (hne : ∀ g ∈ groups, g ≠ []) {s : Slave}
    (h : k.slave.Serves fuel (groups.flatten.map Frame.body) s) :
    ∃ k', k.readAll fuel (groups.map fun g => (g.map Frame.bytes).flatten) = .ok (k', 1) ∧
      Served fuel k groups.flatten k' := by
  induction groups generalizing k with
  | nil => exact ⟨k, rfl, .nil hk⟩
  | cons g groups ih =>
      have hg : g ≠ [] := hne g List.mem_cons_self
      rw [List.flatten_cons, List.map_append, Slave.Serves, List.foldlM_append] at h
      cases hs : List.foldlM (fun s b => (s.dispatch fuel b).map Answer.slave) k.slave
          (g.map Frame.body) with
      | error e => rw [hs] at h; cases h
      | ok s₁ =>
          rw [hs] at h
          obtain ⟨k₁, n, hr⟩ := clientRecv_of_serves hk hg hs
          obtain ⟨rfl, hserved⟩ := served_of_clientRecv hk hg hr
          -- The handlers of the first chunk leave the state that the others begin from.
          obtain rfl : s₁ = k₁.slave := by
            have := hs.symm.trans hserved.serves
            cases this
            rfl
          obtain ⟨k', hread, hrest⟩ :=
            ih hserved.atBoundary (fun g' hg' => hne g' (List.mem_cons_of_mem _ hg')) h
          refine ⟨k', ?_, hserved.append hrest⟩
          rw [List.map_cons, readAll, hr]
          exact hread

/-- Chunks that are all read are groups of whole frames. -/
lemma grouped_of_readAll (hk : k.client.AtBoundary) {frames : List Frame}
    {chunks : List (List UInt8)} (hne : ∀ chunk ∈ chunks, chunk ≠ [])
    (hcut : chunks.flatten = (frames.map Frame.bytes).flatten)
    (h : k.readAll fuel chunks = .ok (k₂, 1)) :
    Grouped (frames.map Frame.bytes) chunks ∧ Served fuel k frames k₂ := by
  induction chunks generalizing k frames with
  | nil =>
      obtain rfl : frames = [] := flatten_bytes_eq_nil.mp hcut.symm
      cases h
      exact ⟨Segment.grouped_nil, .nil hk⟩
  | cons chunk chunks ih =>
      obtain ⟨k₁, n, hr, hrest⟩ := readAll_cons_ok h
      rw [List.flatten_cons] at hcut
      obtain ⟨gb, rb, hsplit, hchunk⟩ := Segment.prefix_flatten ⟨_, hcut⟩
      obtain ⟨g, r, rfl, rfl, rfl⟩ := List.map_eq_append_iff.mp hsplit
      rcases hchunk with rfl | ⟨block, rest, part, hblock, rfl, hpart⟩
      · -- A group of whole frames.
        have hg : g ≠ [] := fun h0 => hne _ List.mem_cons_self (flatten_bytes_eq_nil.mpr h0)
        obtain ⟨-, hserved⟩ := served_of_clientRecv hk hg hr
        rw [List.map_append, List.flatten_append] at hcut
        obtain ⟨hgr, hs⟩ := ih hserved.atBoundary
          (fun c hc => hne c (List.mem_cons_of_mem _ hc)) (List.append_cancel_left hcut) hrest
        exact ⟨by rw [List.map_append]; exact hgr.cons, hserved.append hs⟩
      · -- The chunk ends inside a frame.
        cases r with
        | nil => cases hblock
        | cons f r =>
            rw [List.map_cons, List.cons.injEq] at hblock
            have := clientRecv_part hk g f (hblock.1 ▸ hpart) hr
            omega

/-- For every list of well-formed frames and every way of cutting their bytes into chunks, the
frames are dispatched, each once and in order, and the connection is not closed, if and only if
every chunk ends at the end of a frame and the handlers return on these frames. -/
theorem framed_iff (hk : k.client.AtBoundary) (frames : List Frame) (chunks : List (List UInt8))
    (hne : ∀ chunk ∈ chunks, chunk ≠ [])
    (hcut : chunks.flatten = (frames.map Frame.bytes).flatten) :
    Framed fuel k frames chunks ↔
      Grouped (frames.map Frame.bytes) chunks ∧
        ∀ f ∈ frames, Slave.Returns k.slave.slaveID k.slave.swap f.body := by
  rw [← Slave.serves_iff]
  constructor
  · rintro ⟨k', hread, -⟩
    obtain ⟨hgr, hs⟩ := grouped_of_readAll hk hne hcut hread
    exact ⟨hgr, k'.slave, hs.serves⟩
  · rintro ⟨hgr, s, hs⟩
    obtain ⟨groups, rfl, rfl⟩ := hgr.of_map
    -- No chunk is empty, and so no group is.
    have hg : ∀ g ∈ groups, g ≠ [] := fun g hg h0 =>
      hne _ (List.mem_map_of_mem hg) (flatten_bytes_eq_nil.mpr h0)
    obtain ⟨k', hread, hserved⟩ := readAll_of_grouped hk hg hs
    exact ⟨k', hread, hserved.dispatched⟩

/-! ### A frame in two chunks -/

/-- A client that has not received anything yet. -/
def idle : ModbusClient := ⟨List.replicate 6 0, 0, []⟩

/-- A request to read one register. -/
def readOne : Frame := ⟨(0, 1), (0, 0), [1, 3, 0, 0, 0, 1], by decide, by decide⟩

/-- The first byte of the frame arrives alone: the connection is reported for closing. -/
theorem framed_fails :
    [[0], readOne.bytes.tail].flatten = [readOne.bytes].flatten ∧
      ¬ Framed 0 ⟨Slave.init, idle, [], []⟩ [readOne] [[0], readOne.bytes.tail] := by
  refine ⟨rfl, ?_⟩
  rintro ⟨k', hread, -⟩
  obtain ⟨k₁, n, hr, -⟩ := readAll_cons_ok hread
  have hb : idle.AtBoundary := ⟨rfl, rfl⟩
  have hp : Part [0] readOne.bytes := ⟨⟨readOne.bytes.tail, rfl⟩, by simp, by decide⟩
  have := clientRecv_part (k := ⟨Slave.init, idle, [], []⟩) hb [] readOne hp hr
  omega

/-- A request to write one register, for another transaction. -/
def writeOne : Frame := ⟨(0, 2), (0, 0), [1, 6, 0, 2, 0, 5], by decide, by decide⟩

/-- A request to read three registers. -/
def readThree : Frame := ⟨(0, 3), (0, 0), [1, 3, 0, 0, 0, 3], by decide, by decide⟩

/-- Three frames, the first two in one chunk: all are dispatched. -/
theorem framed_iff_whole :
    Framed 0 ⟨Slave.init, idle, [], []⟩ [readOne, writeOne, readThree]
      [readOne.bytes ++ writeOne.bytes, readThree.bytes] := by
  have hidle : idle.AtBoundary := ⟨rfl, rfl⟩
  refine (framed_iff (k := ⟨Slave.init, idle, [], []⟩) hidle [readOne, writeOne, readThree]
    [readOne.bytes ++ writeOne.bytes, readThree.bytes] ?_ rfl).mpr ⟨?_, ?_⟩
  · simp [Frame.bytes, Frame.header]
  · exact ⟨[[readOne.bytes, writeOne.bytes], [readThree.bytes]], rfl, by simp⟩
  · intro f hf
    rw [List.mem_cons, List.mem_cons, List.mem_singleton] at hf
    rcases hf with rfl | rfl | rfl
    · exact .inr (.inr ⟨by decide, by decide⟩)
    · exact .inr trivial
    · exact .inr (.inr ⟨by decide, by decide⟩)

end Connection

end Tritonn

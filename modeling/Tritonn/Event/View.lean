import Tritonn.Event.Codec
import Tritonn.Shared.BufferClient

/-!
The client of the event server: `rEventManager::RecvFromServer` of
`src/testevent/event_manager.cpp`, with the buffer of its socket and a container over it.

* `EventView.showLoop` is the loop that reads events out of the container, and
  `EventView.recvFromServer` the call for a piece of the stream; both give the events whose texts
  are printed;
* `events` are the whole events in some bytes, and `Told` what a call does with the bytes that it
  holds: it shows the events in front of the first that has another magic, and drops everything if
  there is one.

The end of the loop asks the container to go back to the last whole event, and `setReadPos` goes to
the beginning, so that nothing is ever taken off the buffer.  `run_told` says what a run does over
any stream, and `stream_repeats` that over a stream of events every call shows all of those that
are there: each event is shown once if and only if none is whole before the last call.
-/

namespace Tritonn

/-- `rEvent::Packet::MAGIC`. -/
def REvent.packetMagic : UInt32 := 0xFFEEDDCC

namespace EventView

open RTCPBufferClient

/-! ### The functions of the source -/

/-- The loop of `RecvFromServer`: the events that it shows, and the container unless an event has
another magic; without result if it takes more turns. -/
def showLoop : ℕ → REvent → Container → Option (List REvent × Option Container)
  | 0, _, _ => none
  | n + 1, event, cnt =>
      if cnt.isEOF then some ([], some cnt)
      else do
        let pos := cnt.readpos
        let (event, cnt) ← event.fromContainer cnt
        if cnt.isEOF then some ([], some (cnt.setReadPos pos))
        else if event.magic ≠ REvent.packetMagic then some ([], none)
        else do
          let (shown, cnt) ← showLoop n event cnt
          some (event :: shown, cnt)

/-- `RecvFromServer`: the events that are shown and the buffer afterwards. -/
def recvFromServer (client : RTCPBufferClient) (chunk : Chunk) :
    Option (List REvent × RTCPBufferClient) := do
  let (_, client) ← client.recv chunk
  if client.len = 0 then some ([], client)
  else do
    let bytes ← client.contents
    let cnt ← (Container.empty false).add bytes
    match ← showLoop (bytes.length + 1) .new cnt with
    | (shown, none) => some (shown, client.dropBuffer)
    | (shown, some cnt) => do
        let client ← client.popFrontBuffer (UInt32.ofNat cnt.readpos)
        some (shown, client)

/-- A call in a run, which is over with the first undefined one. -/
def step (s : Option (List REvent × RTCPBufferClient)) (chunk : Chunk) :
    Option (List REvent × RTCPBufferClient) := do
  let (shown, client) ← s
  let (more, client) ← recvFromServer client chunk
  some (shown ++ more, client)

/-- The calls for the pieces of a stream, from the static storage that is zero. -/
def run (chunks : List Chunk) : Option (List REvent × RTCPBufferClient) :=
  chunks.foldl step (some ([], (Constructor.default 0).make))

/-! ### What is shown -/

/-- The `i`-th event in some bytes. -/
def eventAt (bytes : List UInt8) (i : ℕ) : REvent :=
  (Fields.decode REvent.fields (bytes.drop (82 * i)) .new).1

/-- The whole events in some bytes. -/
def events (bytes : List UInt8) : List REvent :=
  (List.range (bytes.length / 82)).map (eventAt bytes)

/-- What is held and what has been shown. -/
structure Told where
  shown : List REvent
  held : List UInt8

/-- More bytes are there: the events in front of the first that has another magic are shown, and
all bytes are dropped if there is such an event. -/
def Told.step (t : Told) (chunk : Chunk) : Told :=
  let bytes := t.held ++ chunk.bytes
  ⟨t.shown ++ (events bytes).takeWhile fun e => e.magic = REvent.packetMagic,
    if ∀ e ∈ events bytes, e.magic = REvent.packetMagic then bytes else []⟩

/-! ### The events in some bytes -/

variable {bytes : List UInt8}

lemma events_of_lt (h : bytes.length < 82) : events bytes = [] := by
  rw [events, Nat.div_eq_of_lt h]
  rfl

lemma events_of_le (h : 82 ≤ bytes.length) :
    events bytes = eventAt bytes 0 :: events (bytes.drop 82) := by
  have hdiv : bytes.length / 82 = (bytes.drop 82).length / 82 + 1 := by
    rw [List.length_drop]
    omega
  have hat (i : ℕ) : eventAt bytes (i + 1) = eventAt (bytes.drop 82) i := by
    rw [eventAt, eventAt, List.drop_drop, Nat.mul_add, Nat.add_comm]
  rw [events, hdiv, List.range_succ_eq_map, List.map_cons, List.map_map]
  exact congrArg _ (List.map_congr_left fun i _ => hat i)

/-- An event that is read as a whole does not depend on the one before. -/
lemma decode_eq_eventAt (h : 82 ≤ bytes.length) (e : REvent) :
    (Fields.decode REvent.fields bytes e).1 = eventAt bytes 0 :=
  REvent.eq_of_fields (Fields.get_decode_congr REvent.independent_fields h e .new)

/-! ### The loop -/

/-- The loop shows the events in front of the first with another magic, and without one the
container is at its beginning behind it. -/
lemma showLoop_eq {n : ℕ} {e : REvent} (cnt : Container) (hc : cnt.isEOF = false)
    (hpos : cnt.readpos ≤ cnt.data.length) (hlt : cnt.data.length + 82 < 2 ^ 32)
    (hn : cnt.rest.length / 82 < n) :
    ∃ r, showLoop n e cnt =
        some ((events cnt.rest).takeWhile fun e => e.magic = REvent.packetMagic, r) ∧
      if ∀ e ∈ events cnt.rest, e.magic = REvent.packetMagic then
        ∃ c, r = some c ∧ c.readpos = 0
      else r = none := by
  induction n generalizing e cnt with
  | zero => exact absurd hn (Nat.not_lt_zero _)
  | succ n ih =>
      have hwidth : cnt.readpos + Fields.width REvent.fields < 2 ^ 32 := by
        rw [REvent.width_fields]
        omega
      obtain ⟨c', hread, hdata, hend⟩ := Container.read_eq hc hpos hwidth e
      rw [Fields.decode_snd, REvent.width_fields] at hend
      rw [showLoop, hc, REvent.fromContainer, hread]
      by_cases hle : 82 ≤ cnt.rest.length
      · rw [if_pos hle] at hend
        obtain ⟨hc', hrest', -, hpos'⟩ := hend
        have hn' : c'.rest.length / 82 < n := by
          rw [hrest', List.length_drop]
          omega
        obtain ⟨r, hshow, hr⟩ := @ih (eventAt cnt.rest 0) c' hc' hpos' (by rwa [hdata]) hn'
        rw [hrest'] at hshow hr
        rw [decode_eq_eventAt hle, events_of_le hle]
        by_cases hmagic : (eventAt cnt.rest 0).magic = REvent.packetMagic
        · refine ⟨r, ?_, ?_⟩
          · rw [List.takeWhile_cons_of_pos (by simpa using hmagic)]
            simp only [Bool.false_eq_true, if_false, Option.bind_eq_bind, Option.bind_some, hc',
              hmagic, not_true_eq_false, ne_eq, hshow]
          · simpa only [List.forall_mem_cons, hmagic, true_and] using hr
        · refine ⟨none, ?_, ?_⟩
          · rw [List.takeWhile_cons_of_neg (by simpa using hmagic)]
            simp only [Bool.false_eq_true, if_false, Option.bind_eq_bind, Option.bind_some, hc',
              hmagic, not_false_eq_true, ne_eq, if_true]
          · rw [if_neg fun h => hmagic (h _ List.mem_cons_self)]
      · rw [if_neg hle] at hend
        rw [events_of_lt (Nat.not_le.mp hle)]
        refine ⟨some (c'.setReadPos cnt.readpos), ?_, ?_⟩
        · simp only [Bool.false_eq_true, if_false, Option.bind_eq_bind, Option.bind_some,
            show c'.isEOF = true from hend, if_true, List.takeWhile_nil]
        · rw [if_pos fun e he => absurd he List.not_mem_nil]
          exact ⟨_, rfl, rfl⟩

/-! ### The calls -/

/-- A call shows the events in what is held then, and keeps all of it unless one has another
magic. -/
lemma recvFromServer_eq {client : RTCPBufferClient} {t : Told} (chunk : Chunk)
    (h : client.Represents t.held) (hlt : t.held.length + chunk.bytes.length + 82 < 2 ^ 32) :
    ∃ more client', recvFromServer client chunk = some (more, client') ∧
      (t.step chunk).shown = t.shown ++ more ∧ client'.Represents (t.step chunk).held := by
  obtain ⟨client₁, hrecv, hrep⟩ := recv_of_fits h
    (show t.held.length + chunk.bytes.length < 2 ^ 32 by omega)
  rw [Told.step]
  set bytes := t.held ++ chunk.bytes with hbytes
  have hlen : bytes.length + 82 < 2 ^ 32 := by rwa [hbytes, List.length_append]
  rw [recvFromServer, hrecv, Option.bind_eq_bind, Option.bind_some]
  dsimp only
  by_cases hzero : client₁.len = 0
  · have hnil : bytes = [] := by
      rw [← List.length_eq_zero_iff, ← hrep.len_eq, hzero]
      rfl
    rw [if_pos hzero]
    refine ⟨[], client₁, rfl, ?_, ?_⟩
    · rw [events_of_lt (by rw [hnil]; decide), List.takeWhile_nil]
    · rw [events_of_lt (by rw [hnil]; decide), if_pos fun e he => absurd he List.not_mem_nil]
      exact hrep
  · have hcnt : (Container.empty false).add bytes =
        some ⟨bytes, 0, false, (Nat.le_add_right _ _).trans_lt hlen⟩ :=
      Container.add_of_lt (c := Container.empty false) (b := bytes) _
    have hshow := showLoop_eq (n := bytes.length + 1) (e := .new)
      ⟨bytes, 0, false, (Nat.le_add_right _ _).trans_lt hlen⟩ rfl (Nat.zero_le _) hlen
      (Nat.lt_succ_of_le (Nat.div_le_self _ _))
    rw [show Container.rest ⟨bytes, 0, false, _⟩ = bytes from rfl] at hshow
    obtain ⟨r, hshow, hr⟩ := hshow
    rw [if_neg hzero, hrep.contents_eq]
    simp only [Option.bind_eq_bind, Option.bind_some, hcnt, hshow]
    split_ifs at hr ⊢ with hgood
    · obtain ⟨c, rfl, hpos⟩ := hr
      obtain ⟨client', hpop, hrep'⟩ := popFrontBuffer_eq hrep (UInt32.ofNat c.readpos)
      refine ⟨_, client', ?_, rfl, ?_⟩
      · simp only [hpop, Option.bind_some]
      · rw [hpos] at hrep'
        exact hrep'
    · subst hr
      exact ⟨_, client₁.dropBuffer, rfl, rfl, represents_null⟩

/-- The pieces of a stream, put together. -/
def stream (chunks : List Chunk) : List UInt8 := chunks.flatMap Chunk.bytes

lemma length_held_step (t : Told) (chunk : Chunk) :
    (t.step chunk).held.length ≤ t.held.length + chunk.bytes.length := by
  rw [Told.step]
  dsimp only
  split_ifs
  · rw [List.length_append]
  · exact Nat.zero_le _

/-- Over a stream that fits into the buffer the calls show what is to be shown, and hold what is to
be held. -/
theorem run_told {client : RTCPBufferClient} {t : Told} (h : client.Represents t.held)
    {chunks : List Chunk} (hlt : t.held.length + (stream chunks).length + 82 < 2 ^ 32) :
    ∃ client', chunks.foldl step (some (t.shown, client)) =
        some ((chunks.foldl Told.step t).shown, client') ∧
      client'.Represents (chunks.foldl Told.step t).held := by
  induction chunks generalizing client t with
  | nil => exact ⟨client, rfl, h⟩
  | cons chunk chunks ih =>
      rw [stream, List.flatMap_cons, List.length_append, ← stream] at hlt
      obtain ⟨more, client₁, hrecv, hshown, hrep⟩ := recvFromServer_eq chunk h (by omega)
      have hheld := length_held_step t chunk
      obtain ⟨client', hrun, hrep'⟩ := ih hrep (by omega)
      have hstep : step (some (t.shown, client)) chunk = some ((t.step chunk).shown, client₁) := by
        rw [step, hshown]
        simp only [Option.bind_eq_bind, Option.bind_some, hrecv]
      refine ⟨client', ?_, hrep'⟩
      rw [List.foldl_cons, List.foldl_cons, ← hrun, hstep]

/-! ### A stream of events -/

/-- The bytes of events. -/
def encoded (es : List REvent) : List UInt8 := es.flatMap (Fields.encode REvent.fields)

/-- In the beginning of a stream of events the whole events are those that are sent first. -/
lemma events_take_encoded (es : List REvent) (n : ℕ) :
    events ((encoded es).take n) = es.take (n / 82) := by
  induction es generalizing n with
  | nil => rw [encoded, List.flatMap_nil, List.take_nil, List.take_nil]; rfl
  | cons e es ih =>
      have hlen : (Fields.encode REvent.fields e).length = 82 := by
        rw [Fields.length_encode, REvent.width_fields]
      have hcons : encoded (e :: es) = Fields.encode REvent.fields e ++ encoded es :=
        List.flatMap_cons
      rcases Nat.lt_or_ge n 82 with hlt | hge
      · rw [Nat.div_eq_of_lt hlt, List.take_zero]
        refine events_of_lt ?_
        rw [List.length_take]
        omega
      · have htake : (encoded (e :: es)).take n =
            Fields.encode REvent.fields e ++ (encoded es).take (n - 82) := by
          rw [hcons, List.take_append, hlen, List.take_of_length_le (hlen.trans_le hge)]
        obtain ⟨-, hget⟩ := Fields.decode_encode REvent.independent_fields e .new
          ((encoded es).take (n - 82))
        have hfirst : eventAt ((encoded (e :: es)).take n) 0 = e := by
          rw [eventAt, Nat.mul_zero, List.drop_zero, htake]
          exact REvent.eq_of_fields hget
        have hdiv : n / 82 = (n - 82) / 82 + 1 := by omega
        rw [events_of_le, hfirst, htake, List.drop_left' hlen, ih, hdiv, List.take_succ_cons]
        rw [htake, List.length_append, hlen]
        exact Nat.le_add_right _ _

/-- Over a stream of events with the magic every call shows all that are whole then. -/
lemma told_encoded {es : List REvent} (hmagic : ∀ e ∈ es, e.magic = REvent.packetMagic)
    {chunks : List Chunk} (hpre : stream chunks <+: encoded es) :
    chunks.foldl Told.step ⟨[], []⟩ =
      ⟨(List.range chunks.length).flatMap fun k =>
        es.take ((stream (chunks.take (k + 1))).length / 82), stream chunks⟩ := by
  induction chunks using List.reverseRecOn with
  | nil => rfl
  | append_singleton chunks chunk ih =>
      have hstream : stream (chunks ++ [chunk]) = stream chunks ++ chunk.bytes := by
        rw [stream, List.flatMap_append, List.flatMap_singleton, stream]
      have hevents : events (stream (chunks ++ [chunk])) =
          es.take ((stream (chunks ++ [chunk])).length / 82) := by
        rw [← events_take_encoded, ← List.prefix_iff_eq_take.mp hpre]
      have hgood : ∀ e ∈ events (stream (chunks ++ [chunk])), e.magic = REvent.packetMagic := by
        rw [hevents]
        exact fun e he => hmagic e (List.mem_of_mem_take he)
      have hfront : ∀ k ∈ List.range chunks.length,
          es.take ((stream ((chunks ++ [chunk]).take (k + 1))).length / 82) =
            es.take ((stream (chunks.take (k + 1))).length / 82) := by
        intro k hk
        rw [List.take_append_of_le_length (List.mem_range.mp hk)]
      have hlast : (chunks ++ [chunk]).take (chunks.length + 1) = chunks ++ [chunk] :=
        List.take_of_length_le (List.length_append.le)
      rw [List.foldl_concat, ih ((hstream ▸ List.prefix_append _ _).trans hpre), Told.step]
      dsimp only
      rw [← hstream, if_pos hgood, List.takeWhile_eq_self_iff.mpr (by simpa using hgood), hevents,
        List.length_append, List.length_singleton, List.range_succ, List.flatMap_append,
        List.flatMap_singleton, List.flatMap_congr hfront, hlast]

/-- The beginnings that are repeated are empty if and only if no event is whole before the last
call. -/
lemma flatMap_eq_self_iff {es : List REvent} {chunks : List Chunk}
    (hstream : stream chunks = encoded es) :
    ((List.range chunks.length).flatMap fun k =>
        es.take ((stream (chunks.take (k + 1))).length / 82)) = es ↔
      ∀ k < chunks.length, (stream (chunks.take k)).length < 82 := by
  have hlen : (stream chunks).length = 82 * es.length := by
    rw [hstream, encoded, REvent.length_flatMap_encode]
  have hle (k : ℕ) : (stream (chunks.take k)).length ≤ 82 * es.length := by
    rw [← hlen]
    exact (List.Sublist.flatMap (List.take_sublist k chunks) Chunk.bytes).length_le
  rcases Nat.eq_zero_or_pos chunks.length with hzero | hpos
  · obtain rfl := List.length_eq_zero_iff.mp hzero
    have hnil : es = [] := by
      rw [stream, List.flatMap_nil, List.length_nil] at hlen
      exact List.length_eq_zero_iff.mp (by omega)
    rw [hnil]
    simp
  · obtain ⟨n, hn⟩ : ∃ n, chunks.length = n + 1 := ⟨chunks.length - 1, by omega⟩
    have hlast : es.take ((stream (chunks.take (n + 1))).length / 82) = es := by
      rw [← hn, List.take_length, hlen, Nat.mul_div_cancel_left _ (by decide), List.take_length]
    rw [hn, List.range_succ, List.flatMap_append, List.flatMap_singleton, hlast,
      List.append_left_eq_self, List.flatMap_eq_nil_iff, Nat.forall_lt_succ_left]
    refine ⟨fun h => ⟨Nat.succ_pos 81, fun k hk => ?_⟩, fun h k hk => ?_⟩
    · rcases List.take_eq_nil_iff.mp (h k (List.mem_range.mpr hk)) with hdiv | hnil
      · exact (Nat.div_eq_zero_iff.mp hdiv).resolve_left (by decide)
      · have := hle (k + 1)
        rw [hnil, List.length_nil] at this
        omega
    · rw [Nat.div_eq_of_lt (h.2 k (List.mem_range.mp hk)), List.take_zero]

/-- Over a stream of events every call shows all events that are whole then, and nothing is taken
off the buffer: each event is shown once if and only if none is whole before the last call. -/
theorem stream_repeats (es : List REvent) (chunks : List Chunk)
    (hmagic : ∀ e ∈ es, e.magic = REvent.packetMagic) (hstream : stream chunks = encoded es)
    (hlt : 82 * es.length + 82 < 2 ^ 32) :
    ∃ shown client, run chunks = some (shown, client) ∧
      shown = ((List.range chunks.length).flatMap fun k =>
        es.take ((stream (chunks.take (k + 1))).length / 82)) ∧
      client.contents = some (encoded es) ∧
      (shown = es ↔ ∀ k < chunks.length, (stream (chunks.take k)).length < 82) := by
  have hlen : (stream chunks).length = 82 * es.length := by
    rw [hstream, encoded, REvent.length_flatMap_encode]
  have hmade : (Constructor.default 0).make.Represents (Told.mk [] []).held := represents_null
  have hfits : (Told.mk [] []).held.length + (stream chunks).length + 82 < 2 ^ 32 := by
    rw [List.length_nil, hlen]
    omega
  obtain ⟨client, hrun, hrep⟩ := run_told hmade hfits
  rw [told_encoded hmagic (hstream ▸ List.prefix_rfl)] at hrun hrep
  refine ⟨_, client, hrun, rfl, ?_, flatMap_eq_self_iff hstream⟩
  rw [hrep.contents_eq, hstream]

/-- A piece with one event. -/
def oneEvent : Chunk := ⟨encoded [.new], by rw [encoded, REvent.length_flatMap_encode]; decide⟩

/-- Of two events that come one after the other the first is shown twice. -/
theorem stream_repeats_two : ∃ shown client,
    run [oneEvent, oneEvent] = some (shown, client) ∧ shown = [.new, .new, .new] := by
  obtain ⟨shown, client, hrun, hshown, -⟩ :=
    stream_repeats [.new, .new] [oneEvent, oneEvent] (by decide) rfl (by decide)
  exact ⟨shown, client, hrun, hshown.trans (by decide +kernel)⟩

end EventView

end Tritonn

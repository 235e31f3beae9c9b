import Tritonn.Lib.Buffer
import Tritonn.Lib.Run

/-!
The receive buffer of a client: `rTCPBufferClient` of `src/shared/tcpbuff_client.cpp`.

* `RTCPBufferClient` is the block that holds the bytes and their number; a byte of a block that has
  not been written since `new` is `none`, and a call that leaves a block is undefined;
* `recv`, `popFrontBuffer` and `dropBuffer` are the calls, and `contents` is what `getData` and
  `getSize` show;
* `Received` is what has been received since the last drop, with the number of the bytes that are
  popped from its front.

`Represents` says when a buffer holds some bytes; `run_represents` carries it through a run.
`fifo_iff` says that the buffer shows, after every call, the rest of what it has received if and
only if its length is initialised, which the constructor without arguments does not do, and stays
below `2 ^ 32`.
-/

namespace Tritonn

/-- The `read_buff` and the `read_size` of a call. -/
structure Chunk where
  bytes : List UInt8
  length_lt : bytes.length < 2 ^ 32

/-- The `read_size`. -/
def Chunk.size (chunk : Chunk) : UInt32 := UInt32.ofNat chunk.bytes.length

/-- `rTCPBufferClient`: its `m_data`, which may be null, and its `m_len`. -/
structure RTCPBufferClient where
  data : Option (Σ n, Buffer (Option UInt8) n)
  len : UInt32

/-- The constructors. -/
inductive Constructor where
  | default (indeterminate : UInt32)
  | socket

/-- The one without arguments sets `m_data` twice, so that `m_len` is what the storage holds. -/
def Constructor.make : Constructor → RTCPBufferClient
  | .default indeterminate => ⟨none, indeterminate⟩
  | .socket => ⟨none, 0⟩

namespace RTCPBufferClient

/-- The new block of `resizeBuffer`, with a copy of the old one if there is one. -/
def copied (s : RTCPBufferClient) (n : ℕ) : Option (Buffer (Option UInt8) n) :=
  match s.data with
  | some data => (data.2.load 0 s.len.toNat).bind ((Buffer.fill n none).store 0)
  | none => some (Buffer.fill n none)

/-- `rTCPBufferClient::resizeBuffer`. -/
def resizeBuffer (s : RTCPBufferClient) (chunk : Chunk) : Option RTCPBufferClient := do
  let tmp ← s.copied (s.len + chunk.size).toNat
  let tmp ← tmp.store s.len.toNat (chunk.bytes.map some)
  return ⟨some ⟨_, tmp⟩, s.len + chunk.size⟩

/-- `rTCPBufferClient::Recv`: the block that it returns, where none is `CLIENT_RECV_ERROR`. -/
def recv (s : RTCPBufferClient) (chunk : Chunk) :
    Option (Option (Σ n, Buffer (Option UInt8) n) × RTCPBufferClient) :=
  if chunk.size = 0 then some (none, s)
  else (s.resizeBuffer chunk).map fun s => (s.data, s)

/-- `rTCPBufferClient::dropBuffer`. -/
def dropBuffer (_ : RTCPBufferClient) : RTCPBufferClient := ⟨none, 0⟩

/-- `rTCPBufferClient::popFrontBuffer`. -/
def popFrontBuffer (s : RTCPBufferClient) (size : UInt32) : Option RTCPBufferClient :=
  match s.data with
  | none => some { s with len := 0 }
  | some data =>
      let size := if s.len < size then s.len else size
      if s.len = size then some s.dropBuffer
      else do
        let tmp : Buffer (Option UInt8) (s.len - size).toNat := Buffer.fill _ none
        let rest ← data.2.load size.toNat (s.len - size).toNat
        let tmp ← tmp.store 0 rest
        return ⟨some ⟨_, tmp⟩, s.len - size⟩

/-- The `getSize` bytes at `getData`; undefined if the block ends before or one is not written. -/
def contents (s : RTCPBufferClient) : Option (List UInt8) :=
  match s.data with
  | none => if s.len = 0 then some [] else none
  | some data => (data.2.load 0 s.len.toNat).bind (List.mapM id)

/-- A call on the buffer. -/
inductive Call where
  | recv (chunk : Chunk)
  | popFront (size : UInt32)
  | drop

/-- What a call makes of the buffer. -/
def call (s : RTCPBufferClient) : Call → Option RTCPBufferClient
  | .recv chunk => (s.recv chunk).map Prod.snd
  | .popFront size => s.popFrontBuffer size
  | .drop => some s.dropBuffer

/-- A call in a run, which is over with the first undefined one. -/
def step (s : Option RTCPBufferClient) (c : Call) : Option RTCPBufferClient := s.bind (·.call c)

end RTCPBufferClient

/-! ### What is expected -/

/-- What has been received since the last drop, and how much of it is popped. -/
structure Received where
  received : List UInt8
  popped : ℕ
  popped_le : popped ≤ received.length

namespace Received

/-- Nothing has been received. -/
def empty : Received := ⟨[], 0, Nat.le_refl 0⟩

/-- What is received and not popped. -/
def rest (t : Received) : List UInt8 := t.received.drop t.popped

/-- More is received, more is popped, as far as there is something, or all is dropped. -/
def step (t : Received) : RTCPBufferClient.Call → Received
  | .recv chunk => ⟨t.received ++ chunk.bytes, t.popped, by
      rw [List.length_append]
      exact Nat.le_add_right_of_le t.popped_le⟩
  | .popFront size => ⟨t.received, min (t.popped + size.toNat) t.received.length,
      Nat.min_le_right _ _⟩
  | .drop => empty

end Received

/-! ### What has been received -/

namespace Received

lemma rest_recv (t : Received) (chunk : Chunk) :
    (t.step (.recv chunk)).rest = t.rest ++ chunk.bytes :=
  List.drop_append_of_le_length t.popped_le

lemma rest_popFront (t : Received) (size : UInt32) :
    (t.step (.popFront size)).rest = t.rest.drop size.toNat := by
  rw [rest, rest, List.drop_drop]
  rcases Nat.le_total (t.popped + size.toNat) t.received.length with h | h
  · exact congrArg (t.received.drop ·) (Nat.min_eq_left h)
  · rw [List.drop_eq_nil_of_le h]
    exact List.drop_eq_nil_of_le (Nat.min_eq_right h).ge

end Received

namespace RTCPBufferClient

/-! ### The calls -/

/-- The buffer holds the bytes, in a block of their number. -/
structure Represents (s : RTCPBufferClient) (content : List UInt8) : Prop where
  len_eq : s.len.toNat = content.length
  null_iff : s.data = none ↔ content = []
  bytes : ∀ data, s.data = some data → data.2.content = content.map some

variable {s : RTCPBufferClient} {content : List UInt8} {chunk : Chunk} {size : UInt32}

lemma represents_null : Represents ⟨none, 0⟩ [] := ⟨rfl, iff_of_true rfl rfl, by simp⟩

/-- The block is as long as the content. -/
lemma Represents.size_eq (h : s.Represents content) {n : ℕ} {b : Buffer (Option UInt8) n}
    (hdata : s.data = some ⟨n, b⟩) : n = content.length := by
  rw [← b.length_content, h.bytes _ hdata, List.length_map]

/-- A part of the content is read from the block. -/
lemma Represents.load (h : s.Represents content) {n : ℕ} {b : Buffer (Option UInt8) n}
    (hdata : s.data = some ⟨n, b⟩) {pos len : ℕ} (hle : pos + len ≤ content.length) :
    b.load pos len = some (((content.drop pos).take len).map some) := by
  rw [Buffer.load_of_le _ (hle.trans (h.size_eq hdata).ge), h.bytes _ hdata, ← List.map_drop,
    ← List.map_take]

lemma Represents.load_all (h : s.Represents content) {n : ℕ} {b : Buffer (Option UInt8) n}
    (hdata : s.data = some ⟨n, b⟩) : b.load 0 s.len.toNat = some (content.map some) := by
  rw [h.load hdata (by rw [h.len_eq, Nat.zero_add]), List.drop_zero, h.len_eq, List.take_length]

/-- A buffer shows what it holds. -/
lemma Represents.contents_eq (h : s.Represents content) : s.contents = some content := by
  rcases hdata : s.data with - | ⟨n, b⟩
  · have hnil : content = [] := h.null_iff.mp hdata
    have hlen : s.len = 0 := UInt32.toNat_inj.mp (by rw [h.len_eq, hnil]; rfl)
    rw [contents, hdata, hnil]
    exact if_pos hlen
  · rw [contents, hdata]
    simp only [h.load_all hdata, Option.bind_some]
    rw [List.mapM_map]
    exact List.mapM_pure.trans (congrArg some (List.map_id content))

lemma size_toNat (chunk : Chunk) : chunk.size.toNat = chunk.bytes.length :=
  UInt32.toNat_ofNat_of_lt' chunk.length_lt

lemma size_eq_zero_iff : chunk.size = 0 ↔ chunk.bytes = [] := by
  rw [← UInt32.toNat_inj, size_toNat]
  exact List.length_eq_zero_iff

lemma toNat_grown (h : s.Represents content)
    (hfit : content.length + chunk.bytes.length < 2 ^ 32) :
    (s.len + chunk.size).toNat = content.length + chunk.bytes.length := by
  rw [UInt32.toNat_add, h.len_eq, size_toNat, Nat.mod_eq_of_lt hfit]

/-- The new block begins with a copy of the old one. -/
lemma exists_copied (h : s.Represents content) {n : ℕ} (hle : content.length ≤ n) :
    ∃ tmp, s.copied n = some tmp ∧ tmp.content.take content.length = content.map some := by
  rcases hdata : s.data with - | ⟨m, b⟩
  · have hnil : content = [] := h.null_iff.mp hdata
    refine ⟨Buffer.fill n none, ?_, ?_⟩
    · rw [copied, hdata]
    · rw [hnil]
      rfl
  · have hfits : 0 + (content.map some).length ≤ n := by rwa [Nat.zero_add, List.length_map]
    obtain ⟨tmp, htmp⟩ := Buffer.store_of_le (Buffer.fill n (none : Option UInt8)) hfits
    refine ⟨tmp, ?_, ?_⟩
    · rw [copied, hdata]
      simp only [h.load_all hdata, Option.bind_some, htmp]
    · have htake := Buffer.take_store htmp
      rwa [Nat.zero_add, List.length_map] at htake

/-- A chunk is put behind the content if their length is a `UDINT`. -/
lemma resizeBuffer_of_fits (h : s.Represents content) (hne : chunk.bytes ≠ [])
    (hfit : content.length + chunk.bytes.length < 2 ^ 32) :
    ∃ s', s.resizeBuffer chunk = some s' ∧ s'.Represents (content ++ chunk.bytes) := by
  have hsize := toNat_grown h hfit
  obtain ⟨tmp, htmp, htake⟩ := exists_copied h ((Nat.le_add_right _ _).trans hsize.ge)
  have hend : s.len.toNat + (chunk.bytes.map some).length = (s.len + chunk.size).toNat := by
    rw [List.length_map, h.len_eq, hsize]
  obtain ⟨tmp', htmp'⟩ := Buffer.store_of_le tmp hend.le
  refine ⟨⟨some ⟨_, tmp'⟩, s.len + chunk.size⟩, ?_, ?_, ?_, ?_⟩
  · rw [resizeBuffer, htmp, Option.bind_eq_bind, Option.bind_some, htmp']
    rfl
  · rw [hsize, List.length_append]
  · exact iff_of_false (Option.some_ne_none _) (List.append_ne_nil_of_right_ne_nil content hne)
  · intro data hdata
    obtain rfl := Option.some.inj hdata
    have hstore := Buffer.content_store htmp' hend
    rwa [h.len_eq, htake, ← List.map_append] at hstore

/-- Otherwise the copy goes beyond the new block. -/
lemma resizeBuffer_of_overflow (h : s.Represents content)
    (hover : ¬content.length + chunk.bytes.length < 2 ^ 32) : s.resizeBuffer chunk = none := by
  have hsmall : (s.len + chunk.size).toNat < s.len.toNat + (chunk.bytes.map some).length := by
    rw [List.length_map, h.len_eq]
    exact (UInt32.toNat_lt _).trans_le (Nat.not_lt.mp hover)
  rw [resizeBuffer]
  cases s.copied (s.len + chunk.size).toNat with
  | none => rfl
  | some tmp =>
      rw [Option.bind_eq_bind, Option.bind_some, Buffer.store_of_lt tmp hsmall]
      rfl

/-- `Recv` fails for nothing, and returns the block with the chunk behind the content otherwise. -/
lemma recv_of_fits (h : s.Represents content)
    (hfit : content.length + chunk.bytes.length < 2 ^ 32) :
    ∃ s', s.recv chunk = some (if chunk.bytes = [] then none else s'.data, s') ∧
      s'.Represents (content ++ chunk.bytes) := by
  rw [recv]
  by_cases hnil : chunk.bytes = []
  · refine ⟨s, ?_, ?_⟩
    · rw [if_pos (size_eq_zero_iff.mpr hnil), if_pos hnil]
    · rwa [hnil, List.append_nil]
  · obtain ⟨s', hs', hrep⟩ := resizeBuffer_of_fits h hnil hfit
    refine ⟨s', ?_, hrep⟩
    rw [if_neg (mt size_eq_zero_iff.mp hnil), if_neg hnil, hs', Option.map_some]

lemma recv_of_overflow (h : s.Represents content)
    (hover : ¬content.length + chunk.bytes.length < 2 ^ 32) : s.recv chunk = none := by
  have hne : chunk.bytes ≠ [] := by
    intro hnil
    rw [hnil, List.length_nil, Nat.add_zero, ← h.len_eq] at hover
    exact hover (UInt32.toNat_lt _)
  rw [recv, if_neg (mt size_eq_zero_iff.mp hne), resizeBuffer_of_overflow h hover, Option.map_none]

/-- The front of a longer content is moved out. -/
lemma popFrontBuffer_of_lt (h : s.Represents content) (hlt : size.toNat < content.length) :
    ∃ s', s.popFrontBuffer size = some s' ∧ s'.Represents (content.drop size.toNat) := by
  rcases hdata : s.data with - | ⟨n, b⟩
  · rw [h.null_iff.mp hdata] at hlt
    exact absurd hlt (Nat.not_lt_zero _)
  · have hsize : size < s.len := UInt32.lt_iff_toNat_lt.mpr (hlt.trans_eq h.len_eq.symm)
    have hlen : (s.len - size).toNat = (content.drop size.toNat).length := by
      rw [UInt32.toNat_sub_of_le _ _ (UInt32.le_of_lt hsize), h.len_eq, List.length_drop]
    have hload : b.load size.toNat (s.len - size).toNat =
        some ((content.drop size.toNat).map some) := by
      rw [hlen, h.load hdata, List.take_length]
      rw [List.length_drop]
      omega
    have hend : 0 + ((content.drop size.toNat).map some).length = (s.len - size).toNat := by
      rw [Nat.zero_add, List.length_map, hlen]
    obtain ⟨tmp, htmp⟩ := Buffer.store_of_le
      (Buffer.fill (s.len - size).toNat (none : Option UInt8)) hend.le
    refine ⟨⟨some ⟨_, tmp⟩, s.len - size⟩, ?_, hlen, ?_, ?_⟩
    · rw [popFrontBuffer, hdata]
      dsimp only
      rw [if_neg (UInt32.not_lt.mpr (UInt32.le_of_lt hsize)), if_neg (UInt32.ne_of_lt hsize).symm,
        hload, Option.bind_eq_bind, Option.bind_some, htmp]
      rfl
    · exact iff_of_false (Option.some_ne_none _) (List.drop_eq_nil_iff.not.mpr (Nat.not_le.mpr hlt))
    · intro data hdata
      obtain rfl := Option.some.inj hdata
      exact Buffer.content_store htmp hend

/-- The front of the content is taken off, and all of it if there is not more. -/
lemma popFrontBuffer_eq (h : s.Represents content) (size : UInt32) :
    ∃ s', s.popFrontBuffer size = some s' ∧ s'.Represents (content.drop size.toNat) := by
  rcases Nat.lt_or_ge size.toNat content.length with hlt | hge
  · exact popFrontBuffer_of_lt h hlt
  · refine ⟨⟨none, 0⟩, ?_, ?_⟩
    · have hle : s.len ≤ size := UInt32.le_iff_toNat_le.mpr (h.len_eq.trans_le hge)
      have hmin : (if s.len < size then s.len else size) = s.len := by
        split_ifs with hlt
        · rfl
        · exact (UInt32.le_antisymm hle (UInt32.not_lt.mp hlt)).symm
      rw [popFrontBuffer]
      cases s.data with
      | none => rfl
      | some data => simp only [hmin, if_true, dropBuffer]
    · rw [List.drop_eq_nil_of_le hge]
      exact represents_null

/-! ### The runs -/

/-- The bytes of a call get in: with them the length is still a `UDINT`. -/
def Fits (t : Received) : Call → Prop
  | .recv chunk => t.rest.length + chunk.bytes.length < 2 ^ 32
  | _ => True

/-- A call whose bytes get in keeps to what has been received. -/
lemma call_represents {t : Received} (h : s.Represents t.rest) {c : Call} (hfits : Fits t c) :
    ∃ s', s.call c = some s' ∧ s'.Represents (t.step c).rest := by
  cases c with
  | recv chunk =>
      obtain ⟨s', hs', hrep⟩ := recv_of_fits h hfits
      refine ⟨s', ?_, by rwa [Received.rest_recv]⟩
      rw [call, hs', Option.map_some]
  | popFront size =>
      obtain ⟨s', hs', hrep⟩ := popFrontBuffer_eq h size
      exact ⟨s', hs', by rwa [Received.rest_popFront]⟩
  | drop => exact ⟨⟨none, 0⟩, rfl, represents_null⟩

lemma call_of_not_fits {t : Received} (h : s.Represents t.rest) {c : Call} (hfits : ¬Fits t c) :
    s.call c = none := by
  cases c with
  | recv chunk => rw [call, recv_of_overflow h hfits, Option.map_none]
  | popFront size => exact absurd trivial hfits
  | drop => exact absurd trivial hfits

/-- The length is initialised: by the constructor, or as the storage is zero. -/
def Initialised : Constructor → Prop
  | .default indeterminate => indeterminate = 0
  | .socket => True

/-- After the calls the buffer shows the rest of what has been received. -/
def Shows (made : Constructor) (calls : List Call) : Prop :=
  (calls.foldl step (some made.make)).bind contents = some (calls.foldl Received.step .empty).rest

lemma make_represents {made : Constructor} (h : Initialised made) :
    made.make.Represents Received.empty.rest := by
  cases made with
  | default indeterminate =>
      rw [Constructor.make, show indeterminate = 0 from h]
      exact represents_null
  | socket => exact represents_null

/-- A length that is not initialised shows before the first call. -/
lemma initialised_of_shows {made : Constructor} (h : Shows made []) : Initialised made := by
  cases made with
  | default indeterminate =>
      by_contra hne
      have hnone : (Constructor.default indeterminate).make.contents = none := if_neg hne
      exact Option.some_ne_none _ (h.symm.trans hnone)
  | socket => trivial

/-- One more call shows the rest of what has been received if and only if its bytes get in. -/
lemma shows_call_iff {t : Received} (h : s.Represents t.rest) {c : Call} :
    (step (some s) c).bind contents = some (t.step c).rest ↔ Fits t c := by
  rw [step, Option.bind_some]
  constructor
  · intro hshows
    by_contra hfits
    rw [call_of_not_fits h hfits] at hshows
    exact Option.some_ne_none _ hshows.symm
  · intro hfits
    obtain ⟨s', hs', hrep⟩ := call_represents h hfits
    rw [hs', Option.bind_some, hrep.contents_eq]

/-- After a run whose bytes get in a buffer holds the rest of what has been received. -/
theorem run_represents {s : RTCPBufferClient} {t : Received} (h : s.Represents t.rest)
    {calls : List Call} (hfits : Run.Along Received.step Fits t calls) :
    ∃ s', calls.foldl step (some s) = some s' ∧
      s'.Represents (calls.foldl Received.step t).rest := by
  induction calls generalizing s t with
  | nil => exact ⟨s, rfl, h⟩
  | cons c calls ih =>
      obtain ⟨s₁, hs₁, hrep⟩ := call_represents h hfits.1
      obtain ⟨s', hs', hrep'⟩ := ih hrep hfits.2
      refine ⟨s', ?_, hrep'⟩
      rw [List.foldl_cons, step, Option.bind_some, hs₁, hs']

end RTCPBufferClient

open RTCPBufferClient

/-- The buffer shows the rest of what it has received after every call of a run if and only if its
length is initialised and all bytes get in. -/
theorem fifo_iff (made : Constructor) (calls : List Call) :
    (∀ pre, pre <+: calls → Shows made pre) ↔
      Initialised made ∧ Run.Along Received.step Fits .empty calls := by
  by_cases hinit : Initialised made
  · rw [and_iff_right hinit]
    have hmade := make_represents hinit
    refine Run.forall_prefix_iff_along (Run.Along Received.step Fits .empty)
      ⟨trivial, hmade.contents_eq⟩ (fun pre c hfits => ?_) calls
    obtain ⟨s, hs, hrep⟩ := run_represents hmade hfits
    refine ⟨?_, fun hc => (Run.along_concat _ pre c).mpr ⟨hfits, hc⟩⟩
    rw [Shows, List.foldl_concat, List.foldl_concat, hs]
    exact shows_call_iff hrep
  · refine iff_of_false (fun h => hinit ?_) (mt And.left hinit)
    exact initialised_of_shows (h [] List.nil_prefix)

/-- A buffer of the constructor without arguments takes in two bytes and shows more. -/
theorem fifo_fails : ¬∀ (made : Constructor) (calls : List Call) (pre : List Call),
    pre <+: calls → Shows made pre := by
  intro h
  have hshows := h (.default 1) [.recv ⟨[1, 2], by decide⟩] _ List.prefix_rfl
  have hnone : ([Call.recv ⟨[1, 2], by decide⟩].foldl step
      (some (Constructor.default 1).make)).bind contents = none := by decide +kernel
  rw [Shows, hnone] at hshows
  exact Option.some_ne_none _ hshows.symm

end Tritonn

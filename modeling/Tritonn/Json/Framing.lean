import Tritonn.Json.Client

/-!
Framing of the JSON server: whether the requests of a connection are executed however they are cut
into chunks.

* `Scan` reads a text as JSON does, with its strings, and a `JsonRequest` is a text that is
  complete where its object is closed;
* `Balanced` is what `CheckBrace` looks for (`checkBrace_end_iff`), which does not know strings;
* `Executes` is the property, `clientRecv_eq` what a chunk does on a new connection, and
  `executes_iff` says when the property holds: for one request at most, that arrives in one chunk
  and whose braces balance at its end for the first time.
-/

namespace Tritonn

/-! ### Requests -/

/-- How far a text of JSON was read: the depth of its objects, and whether the place is in a string
or behind the backslash of one. -/
structure Scan where
  depth : ℕ
  inString : Bool
  escape : Bool

namespace Scan

/-- The next byte. -/
def step (s : Scan) (c : UInt8) : Scan :=
  if s.inString then
    if s.escape then { s with escape := false }
    else if c = 0x5C then { s with escape := true }
    else if c = 0x22 then { s with inString := false }
    else s
  else if c = 0x22 then { s with inString := true }
  else if c = openBrace then { s with depth := s.depth + 1 }
  else if c = closeBrace then { s with depth := s.depth - 1 }
  else s

/-- The text is read from its beginning. -/
def read (text : List UInt8) : Scan := text.foldl step ⟨0, false, false⟩

end Scan

/-- A request that is syntactically complete: the text of an object, which is closed by its last
byte and not before. -/
structure JsonRequest where
  bytes : List UInt8
  head : bytes.head? = some openBrace
  inside : ∀ i < bytes.length, i ≠ 0 → (Scan.read (bytes.take i)).depth ≠ 0
  closed : (Scan.read bytes).depth = 0
  noZero : 0 ∉ bytes

lemma JsonRequest.ne_nil (r : JsonRequest) : r.bytes ≠ [] := by
  intro h
  have := r.head
  rw [h] at this
  cases this

/-- The bytes of the requests are cut into chunks as `recv` returns them. -/
structure Cut (requests : List JsonRequest) (chunks : List (List UInt8)) : Prop where
  flatten : chunks.flatten = (requests.map JsonRequest.bytes).flatten
  ne_nil : ∀ chunk ∈ chunks, chunk ≠ []
  le : ∀ chunk ∈ chunks, chunk.length ≤ maxTcpClientBuff

/-- After every chunk, the requests that were executed are the first ones, each once, in order and
complete by then, and after the last chunk they are all. -/
def Executes (requests : List JsonRequest) (chunks : List (List UInt8)) : Prop :=
  ∀ pre, pre <+: chunks → ∃ k result done, JsonConn.new.readAll pre = some (k, result) ∧
    done <+: requests ∧ k.executed = done.map JsonRequest.bytes ∧
    (done.map JsonRequest.bytes).flatten <+: pre.flatten ∧ (pre = chunks → done = requests)

/-! ### Counting braces -/

/-- There are as many closing braces as opening ones, and some. -/
def Balanced (p : List UInt8) : Prop :=
  p.count openBrace ≠ 0 ∧ p.count openBrace = p.count closeBrace

/-- The braces balance at the end of the text for the first time. -/
def FirstBalanced (p : List UInt8) : Prop :=
  Balanced p ∧ ∀ q, q <+: p → q ≠ p → ¬ Balanced q

lemma count_concat (p : List UInt8) (c b : UInt8) :
    (p ++ [c]).count b = p.count b + if c = b then 1 else 0 := by
  rw [List.count_append, List.count_singleton]
  by_cases h : c = b <;> simp [h]

/-- The counters of `CheckBrace` after one more byte. -/
lemma counter_concat (p : List UInt8) (c b : UInt8) :
    (if c = b then UInt32.ofNat (p.count b) + 1 else UInt32.ofNat (p.count b))
      = UInt32.ofNat ((p ++ [c]).count b) := by
  rw [count_concat]
  split_ifs
  · rw [UInt32.ofNat_add]
    rfl
  · rfl

lemma ofNat_inj {a b : ℕ} (ha : a < 2 ^ 32) (hb : b < 2 ^ 32) :
    UInt32.ofNat a = UInt32.ofNat b ↔ a = b := by
  refine ⟨fun h => ?_, fun h => h ▸ rfl⟩
  have := congrArg UInt32.toNat h
  rwa [UInt32.toNat_ofNat_of_lt' ha, UInt32.toNat_ofNat_of_lt' hb] at this

/-- The test of `CheckBrace`. -/
lemma counters_iff {p : List UInt8} (hp : p.length < 2 ^ 32) :
    (UInt32.ofNat (p.count openBrace) ≠ 0 ∧ UInt32.ofNat (p.count closeBrace) ≠ 0 ∧
      UInt32.ofNat (p.count openBrace) = UInt32.ofNat (p.count closeBrace)) ↔ Balanced p := by
  have ho : p.count openBrace < 2 ^ 32 := List.count_le_length.trans_lt hp
  have hc : p.count closeBrace < 2 ^ 32 := List.count_le_length.trans_lt hp
  have h0 : (0 : UInt32) = UInt32.ofNat 0 := rfl
  rw [h0, Ne, Ne, ofNat_inj ho (by norm_num), ofNat_inj hc (by norm_num), ofNat_inj ho hc, Balanced]
  constructor
  · rintro ⟨h1, -, h2⟩
    exact ⟨h1, h2⟩
  · rintro ⟨h1, h2⟩
    exact ⟨h1, h2 ▸ h1, h2⟩

/-- The loop of `CheckBrace` behind a text `q`: it stops at the last byte if the braces balance
there, and behind no other byte after `q`. -/
lemma checkBraceLoop_end_iff {q str : List UInt8} (hlen : (q ++ str).length < 2 ^ 32) :
    (checkBraceLoop q.length (.ofNat (q.count openBrace)) (.ofNat (q.count closeBrace)) str ≠ 0 ∧
        (q ++ str).length
          ≤ checkBraceLoop q.length (.ofNat (q.count openBrace))
              (.ofNat (q.count closeBrace)) str + 1)
      ↔
      str ≠ [] ∧ Balanced (q ++ str) ∧
        ∀ s, s <+: str → s ≠ [] → s ≠ str → ¬ Balanced (q ++ s) := by
  induction str generalizing q with
  | nil => simp [checkBraceLoop]
  | cons c str ih =>
      have hstr : q ++ c :: str = (q ++ [c]) ++ str := by simp
      have hq : (q ++ [c]).length < 2 ^ 32 := by
        refine lt_of_le_of_lt ?_ hlen
        rw [hstr, @List.length_append _ (q ++ [c])]
        exact Nat.le_add_right _ _
      rw [checkBraceLoop, counter_concat, counter_concat]
      by_cases hbal : Balanced (q ++ [c])
      · rw [if_pos ((counters_iff hq).mpr hbal)]
        constructor
        · rintro ⟨-, hend⟩
          obtain rfl : str = [] := by
            simp only [List.length_append, List.length_cons] at hend
            exact List.length_eq_zero_iff.mp (by omega)
          refine ⟨by simp, hbal, fun s hs hne hne' => ?_⟩
          rcases List.prefix_cons_iff.mp hs with rfl | ⟨t, rfl, ht⟩
          · exact absurd rfl hne
          · rw [List.prefix_nil.mp ht] at hne'
            exact absurd rfl hne'
        · rintro ⟨-, -, hno⟩
          obtain rfl : str = [] := by
            by_contra hne
            exact hno [c] (by simp) (by simp) (by simpa using Ne.symm hne) hbal
          refine ⟨fun h0 => ?_, by simp⟩
          -- One byte cannot be both braces.
          obtain rfl := List.length_eq_zero_iff.mp h0
          obtain ⟨hopen, heq⟩ := hbal
          rw [List.nil_append, List.count_singleton] at hopen heq
          rw [List.count_singleton] at heq
          by_cases hc : c = openBrace
          · subst hc
            exact absurd heq (by decide)
          · simp [hc] at hopen
      · rw [if_neg (fun h => hbal ((counters_iff hq).mp h)), hstr]
        have hlen' : (q ++ [c]).length = q.length + 1 := by simp
        have := ih (q := q ++ [c]) (by rw [← hstr]; exact hlen)
        rw [hlen'] at this
        rw [this]
        constructor
        · rintro ⟨hne, hend, hno⟩
          refine ⟨by simp, hend, fun s hs hsne hsne' hsbal => ?_⟩
          rcases List.prefix_cons_iff.mp hs with rfl | ⟨t, rfl, ht⟩
          · exact hsne rfl
          · by_cases htn : t = []
            · subst htn
              exact hbal hsbal
            · exact hno t ht htn (fun h => hsne' (by rw [h])) (by simpa using hsbal)
        · rintro ⟨-, hend, hno⟩
          refine ⟨fun h => ?_, hend, fun s hs hsne hsne' hsbal => ?_⟩
          · subst h
            rw [List.append_nil] at hend
            exact hbal hend
          · refine hno (c :: s) (List.cons_prefix_cons.mpr ⟨rfl, hs⟩) (by simp) ?_ ?_
            · exact fun h => hsne' (List.cons.inj h).2
            · simpa using hsbal

/-- `CheckBrace` stops at the last byte of a buffer if and only if the braces balance there for the
first time. -/
lemma checkBrace_end_iff {buff : List UInt8} (hlen : buff.length < 2 ^ 32) :
    (checkBrace buff ≠ 0 ∧ buff.length ≤ checkBrace buff + 1) ↔ FirstBalanced buff := by
  have h := @checkBraceLoop_end_iff [] buff hlen
  rw [List.nil_append] at h
  rw [checkBrace]
  refine h.trans ⟨fun ⟨_, hbal, hno⟩ => ⟨hbal, fun q hq hne hqbal => ?_⟩,
    fun ⟨hbal, hno⟩ => ⟨?_, hbal, fun s hs _ hne => hno s hs hne⟩⟩
  · exact hno q hq (fun h0 => hqbal.1 (by rw [h0]; rfl)) hne (by simpa using hqbal)
  · rintro rfl
    exact hbal.1 rfl

/-! ### The chunks of a connection -/

/-- The first chunk of a connection: without the end of a packet the server reads through a null
pointer, and else it executes what it takes for the packet and closes the connection. -/
lemma clientRecv_eq (chunk : List UInt8) :
    JsonConn.new.clientRecv chunk =
      if checkBrace chunk ≠ 0 then
        some (⟨⟨none, some (chunk.take (checkBrace chunk + 1))⟩,
          [(chunk.take (checkBrace chunk + 1)).takeWhile (· ≠ 0)]⟩, 0)
      else none := by
  by_cases h : checkBrace chunk = 0 <;>
    simp [JsonConn.new, JsonConn.clientRecv, JsonClient.new, JsonClient.recv,
      JsonConn.parsingJSON, h]

/-- The chunks of a connection: only the first one is looked at. -/
lemma readAll_eq (chunk : List UInt8) (chunks : List (List UInt8)) :
    JsonConn.new.readAll (chunk :: chunks) = JsonConn.new.clientRecv chunk := by
  rw [JsonConn.readAll, clientRecv_eq]
  split_ifs <;> rfl

/-- A request that was executed from the first chunk is that chunk, and its braces balance at its
end for the first time. -/
lemma firstBalanced_of_take {chunk bytes : List UInt8} (hlen : chunk.length ≤ maxTcpClientBuff)
    (hpos : checkBrace chunk ≠ 0) (hsub : chunk <+: bytes)
    (hbytes : bytes = (chunk.take (checkBrace chunk + 1)).takeWhile (· ≠ 0)) :
    chunk = bytes ∧ FirstBalanced bytes := by
  have htake : bytes <+: chunk.take (checkBrace chunk + 1) :=
    hbytes ▸ List.takeWhile_prefix _
  have heq : chunk = bytes :=
    hsub.eq_of_length_le (htake.trans (List.take_prefix _ _)).length_le
  refine ⟨heq, ?_⟩
  subst heq
  refine (checkBrace_end_iff (lt_of_le_of_lt hlen (by decide))).mp ⟨hpos, ?_⟩
  have := htake.length_le
  rw [List.length_take] at this
  omega

/-- The requests of a connection are executed, each once, in order and not before they are complete,
if and only if there is none, or there is one, it arrives in one chunk, and its braces, those in
strings included, balance at its end for the first time. -/
theorem executes_iff (requests : List JsonRequest) (chunks : List (List UInt8))
    (hcut : Cut requests chunks) :
    Executes requests chunks ↔
      requests = [] ∨ ∃ r, requests = [r] ∧ chunks = [r.bytes] ∧ FirstBalanced r.bytes := by
  constructor
  · intro h
    cases chunks with
    | nil =>
        refine .inl ?_
        cases requests with
        | nil => rfl
        | cons r requests =>
            have := hcut.flatten
            rw [List.map_cons, List.flatten_cons, List.flatten_nil] at this
            exact absurd (List.append_eq_nil_iff.mp this.symm).1 r.ne_nil
    | cons chunk chunks =>
        refine .inr ?_
        obtain ⟨k, result, done, hread, -, hexec, -, hall⟩ := h _ List.prefix_rfl
        rw [hall rfl] at hexec
        rw [readAll_eq, clientRecv_eq] at hread
        by_cases hpos : checkBrace chunk = 0
        · simp [hpos] at hread
        rw [if_pos hpos] at hread
        cases hread
        obtain ⟨r, rfl, hr⟩ := List.map_eq_singleton_iff.mp hexec.symm
        have hflat : chunk ++ chunks.flatten = r.bytes := by
          simpa using hcut.flatten
        obtain ⟨hchunk, hfirst⟩ := firstBalanced_of_take (hcut.le chunk List.mem_cons_self) hpos
          ⟨_, hflat⟩ hr
        -- Nothing is left for the other chunks.
        have hnil : chunks = [] := by
          cases chunks with
          | nil => rfl
          | cons c chunks =>
              have hc := hcut.ne_nil c (by simp)
              rw [hchunk, List.append_right_eq_self, List.flatten_cons] at hflat
              exact absurd (List.append_eq_nil_iff.mp hflat).1 hc
        exact ⟨r, rfl, by rw [hnil, hchunk], hfirst⟩
  · rintro (rfl | ⟨r, rfl, rfl, hfirst⟩) pre hpre
    · have hnil : chunks = [] := by
        cases chunks with
        | nil => rfl
        | cons c chunks =>
            have := hcut.flatten
            rw [List.flatten_cons] at this
            exact absurd (List.append_eq_nil_iff.mp this).1 (hcut.ne_nil c List.mem_cons_self)
      subst hnil
      rw [List.prefix_nil.mp hpre]
      exact ⟨_, _, [], rfl, List.nil_prefix, rfl, List.nil_prefix, fun _ => rfl⟩
    · have hlen : r.bytes.length < 2 ^ 32 :=
        lt_of_le_of_lt (hcut.le r.bytes List.mem_cons_self) (by decide)
      obtain ⟨hpos, hend⟩ := (checkBrace_end_iff hlen).mpr hfirst
      rcases List.prefix_cons_iff.mp hpre with rfl | ⟨t, rfl, ht⟩
      · exact ⟨_, _, [], rfl, List.nil_prefix, rfl, List.nil_prefix, fun h => (by cases h)⟩
      · obtain rfl := List.prefix_nil.mp ht
        have htext : (r.bytes.take (checkBrace r.bytes + 1)).takeWhile (· ≠ 0) = r.bytes := by
          rw [List.take_of_length_le hend, List.takeWhile_eq_self_iff]
          intro c hc
          exact decide_eq_true fun h0 => r.noZero (h0 ▸ hc)
        rw [readAll_eq, clientRecv_eq, if_pos hpos]
        exact ⟨_, _, [r], rfl, List.prefix_rfl, by rw [htext]; rfl, List.prefix_rfl, fun _ => rfl⟩

/-! ### A request in two chunks -/

/-- The request of an empty object. -/
def emptyObject : JsonRequest where
  bytes := [openBrace, closeBrace]
  head := rfl
  inside := by decide
  closed := by decide
  noZero := by decide

/-- A request with an object in its object, and in that a string with two braces and a quotation
mark behind a backslash. -/
def nestedObject : JsonRequest where
  bytes := [openBrace, 0x22, 0x61, 0x22, 0x3A,
    openBrace, 0x22, 0x62, 0x22, 0x3A, 0x22, openBrace, closeBrace, 0x5C, 0x22, 0x22, closeBrace,
    closeBrace]
  head := rfl
  inside := by decide
  closed := by decide
  noZero := by decide

/-- The request arrives in one chunk, its braces balance at its end for the first time, and it is
executed. -/
theorem executes_iff_whole : Executes [nestedObject] [nestedObject.bytes] :=
  (executes_iff [nestedObject] [nestedObject.bytes] ⟨rfl, by decide, by decide⟩).mpr
    (.inr ⟨nestedObject, rfl, rfl, (checkBrace_end_iff (by decide)).mp (by decide)⟩)

/-- The request arrives in two chunks: after the first one, the server reads through a null
pointer. -/
theorem executes_fails : ¬ Executes [emptyObject] [[openBrace], [closeBrace]] := by
  intro h
  obtain ⟨k, result, done, hread, -⟩ := h [[openBrace]] (by simp)
  rw [readAll_eq, clientRecv_eq] at hread
  cases hread

end Tritonn

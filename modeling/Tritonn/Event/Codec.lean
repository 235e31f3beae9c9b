import Tritonn.Event.Parameters
import Tritonn.Shared.Container

/-!
Events in a container: `rEvent::toContainer` and `rEvent::fromContainer` of
`src/tritonn/event/event.cpp`, with the times of `src/shared/datetime.cpp` in between.

* `REvent.fields` are the fields in the order of the two chains, 82 bytes in the 32-bit build;
* `REvent.encodeAll` writes events one after the other, and `REvent.decodeLoop` reads them as the
  client does that receives them, until the container reports its end;
* `REvent.readParam` is what the texts of an event read of a parameter.

`codec_iff` says when what was written is read back, and when a byte string leaves the event as it
was or gives one whose parameters are inside its buffer: nothing checks the byte of the size, and
the fields are read into the event before it is known that all of them are there.
-/

namespace Tritonn

/-- A number as a field: its bytes, the lowest first. -/
def numberField {R : Type} (w : ℕ) (get : R → ℕ) (set : ℕ → R → R)
    (hlt : ∀ r, get r < 256 ^ w) (hget : ∀ n < 256 ^ w, ∀ r, get (set n r) = n)
    (hset : ∀ r, set (get r) r = r) : RecordField UInt8 R where
  width := w
  get r := ⟨leBytes w (get r), length_leBytes w _⟩
  set b r := set (leNat b.content) r
  get_set b r := by
    obtain ⟨b, rfl⟩ := b
    refine Buffer.ext ?_
    rw [hget _ (leNat_lt b)]
    exact leBytes_leNat b
  set_get r := by
    rw [leNat_leBytes, Nat.mod_eq_of_lt (hlt r), hset]

lemma leBytes_inj {w m n : ℕ} (h : leBytes w m = leBytes w n) (hm : m < 256 ^ w)
    (hn : n < 256 ^ w) : m = n := by
  have hnat := congrArg leNat h
  rwa [leNat_leBytes, leNat_leBytes, Nat.mod_eq_of_lt hm, Nat.mod_eq_of_lt hn] at hnat

namespace REvent

/-- `m_magic`. -/
def magicField : RecordField UInt8 REvent :=
  numberField 4 (fun e => e.magic.toNat) (fun n e => { e with magic := UInt32.ofNat n })
    (fun e => e.magic.toNat_lt) (fun _ h _ => UInt32.toNat_ofNat_of_lt' h)
    fun e => by rw [UInt32.ofNat_toNat]

/-- `m_version`. -/
def versionField : RecordField UInt8 REvent :=
  numberField 1 (fun e => e.version.toNat) (fun n e => { e with version := UInt8.ofNat n })
    (fun e => e.version.toNat_lt) (fun _ h _ => UInt8.toNat_ofNat_of_lt' h)
    fun e => by rw [UInt8.ofNat_toNat]

/-- `m_size`. -/
def sizeField : RecordField UInt8 REvent :=
  numberField 1 (fun e => e.size.toNat) (fun n e => { e with size := UInt8.ofNat n })
    (fun e => e.size.toNat_lt) (fun _ h _ => UInt8.toNat_ofNat_of_lt' h)
    fun e => by rw [UInt8.ofNat_toNat]

/-- `m_datetime.tv_sec`. -/
def tvSecField : RecordField UInt8 REvent :=
  numberField 4 (fun e => e.tvSec.toUInt32.toNat)
    (fun n e => { e with tvSec := (UInt32.ofNat n).toInt32 })
    (fun e => e.tvSec.toUInt32.toNat_lt) (fun _ h _ => UInt32.toNat_ofNat_of_lt' h)
    fun e => by rw [UInt32.ofNat_toNat]; rfl

/-- `m_datetime.tv_usec`. -/
def tvUsecField : RecordField UInt8 REvent :=
  numberField 4 (fun e => e.tvUsec.toUInt32.toNat)
    (fun n e => { e with tvUsec := (UInt32.ofNat n).toInt32 })
    (fun e => e.tvUsec.toUInt32.toNat_lt) (fun _ h _ => UInt32.toNat_ofNat_of_lt' h)
    fun e => by rw [UInt32.ofNat_toNat]; rfl

/-- `m_EID`. -/
def eidField : RecordField UInt8 REvent :=
  numberField 4 (fun e => e.eid.toNat) (fun n e => { e with eid := UInt32.ofNat n })
    (fun e => e.eid.toNat_lt) (fun _ h _ => UInt32.toNat_ofNat_of_lt' h)
    fun e => by rw [UInt32.ofNat_toNat]

/-- `m_data`. -/
def dataField : RecordField UInt8 REvent where
  width := dataSize
  get e := e.data
  set b e := { e with data := b }
  get_set _ _ := rfl
  set_get _ := rfl

/-- The fields in the order of the chains. -/
def fields : List (RecordField UInt8 REvent) :=
  [magicField, versionField, sizeField, tvSecField, tvUsecField, eidField, dataField]

/-- `toContainer`. -/
def toContainer (e : REvent) (c : Container) : Option Container := c.write fields e

/-- `fromContainer`, into an event that is already there. -/
def fromContainer (e : REvent) (c : Container) : Option (REvent × Container) := c.read fields e

/-- Events that are written one after the other. -/
def encodeAll (es : List REvent) (c : Container) : Option Container :=
  es.foldlM (fun c e => e.toContainer c) c

/-- The loop of the client: events are read into one variable until the container reports its end.
Without result if that needs more turns. -/
def decodeLoop : ℕ → REvent → Container → Option (List REvent)
  | 0, _, _ => none
  | n + 1, e, c =>
      if c.isEOF then some []
      else do
        let (e, c) ← e.fromContainer c
        if c.isEOF then some [] else (e :: ·) <$> decodeLoop n e c

/-- The value of a parameter as the text of an event reads it: for a `TYPE` without a size nothing
is read. -/
def readParam (e : REvent) (id : UInt32) : Option (Option (List UInt8)) := do
  match ← e.getParamByID id with
  | none => some none
  | some (type, pos) =>
      if VType.ofCode type = .undef then some none
      else some <$> e.data.load pos (codeSize type)

lemma width_fields : Fields.width fields = 82 := rfl

lemma independent_fields : Fields.Independent fields := by
  simp only [Fields.Independent, fields, List.pairwise_cons, List.mem_cons, List.not_mem_nil,
    or_false, forall_eq_or_imp, forall_eq]
  exact ⟨⟨fun _ _ => rfl, fun _ _ => rfl, fun _ _ => rfl, fun _ _ => rfl, fun _ _ => rfl,
    fun _ _ => rfl⟩, ⟨fun _ _ => rfl, fun _ _ => rfl, fun _ _ => rfl, fun _ _ => rfl,
    fun _ _ => rfl⟩, ⟨fun _ _ => rfl, fun _ _ => rfl, fun _ _ => rfl, fun _ _ => rfl⟩,
    ⟨fun _ _ => rfl, fun _ _ => rfl, fun _ _ => rfl⟩, ⟨fun _ _ => rfl, fun _ _ => rfl⟩,
    fun _ _ => rfl, fun _ h => h.elim, List.Pairwise.nil⟩

/-- Events with the same fields are the same. -/
lemma eq_of_fields {r s : REvent} (h : ∀ f ∈ fields, f.get r = f.get s) : r = s := by
  simp only [fields, List.mem_cons, List.not_mem_nil, or_false, forall_eq_or_imp, forall_eq] at h
  obtain ⟨hmagic, hversion, hsize, hsec, husec, heid, hdata⟩ := h
  have hbytes {w : ℕ} {b b' : Buffer UInt8 w} (h : b = b') : b.content = b'.content := h ▸ rfl
  ext : 1
  · exact UInt32.toNat_inj.mp (leBytes_inj (hbytes hmagic) r.magic.toNat_lt s.magic.toNat_lt)
  · exact UInt8.toNat_inj.mp (leBytes_inj (hbytes hversion) r.version.toNat_lt s.version.toNat_lt)
  · exact UInt8.toNat_inj.mp (leBytes_inj (hbytes hsize) r.size.toNat_lt s.size.toNat_lt)
  · exact congrArg UInt32.toInt32 (UInt32.toNat_inj.mp
      (leBytes_inj (hbytes hsec) r.tvSec.toUInt32.toNat_lt s.tvSec.toUInt32.toNat_lt))
  · exact congrArg UInt32.toInt32 (UInt32.toNat_inj.mp
      (leBytes_inj (hbytes husec) r.tvUsec.toUInt32.toNat_lt s.tvUsec.toUInt32.toNat_lt))
  · exact UInt32.toNat_inj.mp (leBytes_inj (hbytes heid) r.eid.toNat_lt s.eid.toNat_lt)
  · exact hdata

variable {c : Container}

/-- `toContainer` adds the bytes of the fields. -/
lemma toContainer_eq (e : REvent) (c : Container) :
    e.toContainer c = c.add (Fields.encode fields e) := Container.write_eq c e

/-- The events are added as one block, as long as the container holds it. -/
lemma encodeAll_eq (es : List REvent) (c : Container) :
    encodeAll es c =
      if es = [] then some c else c.add (es.flatMap (Fields.encode fields)) := by
  induction es generalizing c with
  | nil => rfl
  | cons e es ih =>
      rw [if_neg (List.cons_ne_nil _ _), List.flatMap_cons, encodeAll, List.foldlM_cons,
        toContainer_eq]
      rcases es with _ | ⟨e', es⟩
      · rw [List.flatMap_nil, List.append_nil]
        exact Option.bind_fun_some _
      · rw [← Container.add_add]
        exact congrArg _ (funext fun c => (ih c).trans (if_neg (List.cons_ne_nil _ _)))

lemma length_flatMap_encode (es : List REvent) :
    (es.flatMap (Fields.encode fields)).length = 82 * es.length := by
  induction es with
  | nil => rfl
  | cons e es ih =>
      rw [List.flatMap_cons, List.length_append, ih, Fields.length_encode, width_fields,
        List.length_cons]
      omega

/-- At the end of its bytes the container gives no event. -/
lemma fromContainer_end (e : REvent) (hc : c.isEOF = false) (hend : c.data.length = c.readpos)
    (hlt : c.readpos + 4 < 2 ^ 32) :
    e.fromContainer c = some (e, { c with isEOF := true }) :=
  Container.read_of_lt hc hlt (by rw [hend]; exact Nat.lt_add_of_pos_right (by decide)) e

/-- The loop reads back the events that are written behind the place of reading. -/
lemma decodeLoop_eq {es : List REvent} (hc : c.isEOF = false) (hpos : c.readpos ≤ c.data.length)
    (hrest : c.rest = es.flatMap (Fields.encode fields)) (hlt : c.data.length + 4 < 2 ^ 32)
    {n : ℕ} (hn : es.length < n) (e : REvent) :
    decodeLoop n e c = some es := by
  induction es generalizing c n e with
  | nil =>
      obtain ⟨n, rfl⟩ := Nat.exists_eq_add_of_lt hn
      have hlen := congrArg List.length hrest
      rw [Container.rest, List.length_drop] at hlen
      have hend : c.data.length = c.readpos := by
        rw [List.flatMap_nil, List.length_nil] at hlen
        omega
      rw [List.length_nil, Nat.zero_add, decodeLoop, hc,
        fromContainer_end e hc hend (by omega)]
      rfl
  | cons e' es ih =>
      obtain ⟨n, rfl⟩ : ∃ m, n = m + 1 := ⟨n - 1, by omega⟩
      rw [List.flatMap_cons] at hrest
      have hlen := congrArg List.length hrest
      rw [Container.rest, List.length_drop, List.length_append, Fields.length_encode,
        width_fields] at hlen
      have hwidth : c.readpos + Fields.width fields < 2 ^ 32 := by rw [width_fields]; omega
      obtain ⟨c', hread, hdata, hend⟩ := Container.read_eq hc hpos hwidth e
      obtain ⟨hsnd, hfst⟩ := Fields.decode_encode independent_fields e' e
        (es.flatMap (Fields.encode fields))
      rw [← hrest] at hsnd hfst
      rw [hsnd] at hend
      rw [eq_of_fields hfst] at hread
      obtain ⟨hc', hrest', -, hpos'⟩ := hend
      have hnext := ih hc' hpos' hrest' (by rw [hdata]; exact hlt)
        (n := n) (by rw [List.length_cons] at hn; omega) e'
      rw [decodeLoop, hc, fromContainer, hread]
      refine Eq.trans (b := if c'.isEOF then some [] else (e' :: ·) <$> decodeLoop n e' c') rfl ?_
      rw [hc', hnext]
      rfl

/-- The walk over the bytes of the parameters stays in the buffer, and so do their values. -/
def ParamsInside (size : ℕ) (data : List UInt8) : Prop :=
  size ≤ dataSize ∧ ∀ (id : UInt32) (pos : ℕ) (type : UInt8),
    Tagged.find codeSize data size id.toNat 0 = some (some pos) → data[pos]? = some type →
      VType.ofCode type ≠ .undef → pos + 1 + codeSize type ≤ dataSize

/-- A parameter is read inside the buffer if it is one of those the walk finds. -/
lemma isSome_readParam_iff (e : REvent) (id : UInt32) (h : e.size.toNat ≤ dataSize) :
    (e.readParam id).isSome ↔ ∀ (pos : ℕ) (type : UInt8),
      Tagged.find codeSize e.data.content e.size.toNat id.toNat 0 = some (some pos) →
        e.data.content[pos]? = some type → VType.ofCode type ≠ .undef →
          pos + 1 + codeSize type ≤ dataSize := by
  obtain ⟨found, hfind⟩ :
      ∃ found, Tagged.find codeSize e.data.content e.size.toNat id.toNat 0 = some found :=
    Tagged.find_isSome e.data.content (h.trans_eq e.data.length_content.symm) id.toNat 0
  rcases found with _ | pos
  · refine iff_of_true ?_ fun pos type hpos => ?_
    · rw [readParam, getParamByID, hfind]
      rfl
    · rw [hfind] at hpos
      cases hpos
  · have hlt := (Tagged.find_lt hfind).2
    have htype : e.data.content[pos]? = some e.data.content[pos] := List.getElem?_eq_getElem hlt
    set type := e.data.content[pos]
    have hparam : e.getParamByID id = some (some (type, pos + 1)) := by
      rw [getParamByID, hfind]
      refine Eq.trans (b := e.data.content[pos]?.bind _) rfl ?_
      rw [htype]
      rfl
    have hread : e.readParam id =
        if VType.ofCode type = .undef then some none
        else some <$> e.data.load (pos + 1) (codeSize type) := by
      rw [readParam, hparam]
      rfl
    have hforall : (∀ (pos' : ℕ) (type' : UInt8),
        Tagged.find codeSize e.data.content e.size.toNat id.toNat 0 = some (some pos') →
          e.data.content[pos']? = some type' → VType.ofCode type' ≠ .undef →
            pos' + 1 + codeSize type' ≤ dataSize) ↔
        (VType.ofCode type ≠ .undef → pos + 1 + codeSize type ≤ dataSize) := by
      refine ⟨fun hall => hall pos type hfind htype, fun hall pos' type' hpos' htype' => ?_⟩
      rw [hfind] at hpos'
      cases hpos'
      rw [htype] at htype'
      cases htype'
      exact hall
    rw [hforall, hread]
    by_cases hundef : VType.ofCode type = .undef
    · rw [if_pos hundef]
      exact iff_of_true rfl fun hne => absurd hundef hne
    · rw [if_neg hundef, Option.map_eq_map, Option.isSome_map, Buffer.isSome_load]
      exact ⟨fun hle _ => hle, fun hle => hle hundef⟩

end REvent

/-- Decoding from a byte string into an event either reports the end and leaves the event as it was,
or gives an event whose parameters can be read. -/
def DecodesOk (b : { b : List UInt8 // b.length < 2 ^ 32 }) (e : REvent) : Prop :=
  ∃ e' c, e.fromContainer (Container.ofBytes b) = some (e', c) ∧
    (c.isEOF = true → e' = e) ∧
    (c.isEOF = false → e'.size.toNat ≤ REvent.dataSize ∧ ∀ id, (e'.readParam id).isSome)

/-- The events are read back from the container that they are written to. -/
def RoundTrips (es : List REvent) : Prop :=
  ∀ flag, ∃ c, REvent.encodeAll es (.empty flag) = some c ∧
    ∀ n, es.length < n → REvent.decodeLoop n .new c = some es

/-- The condition on a byte string: a whole event has a size and parameters that stay in its
buffer, and of a truncated one what is there is already in the event. -/
def Decodable (b : List UInt8) (e : REvent) : Prop :=
  if 82 ≤ b.length then REvent.ParamsInside (b.getD 5 0).toNat ((b.drop 18).take REvent.dataSize)
  else Fields.Agrees REvent.fields b e

namespace REvent

lemma roundTrips_iff (es : List REvent) : RoundTrips es ↔ 82 * es.length < 2 ^ 32 := by
  refine ⟨fun h => ?_, fun hlt flag => ?_⟩
  · obtain ⟨c, hc, -⟩ := h false
    rw [encodeAll_eq] at hc
    split at hc
    · rename_i hnil
      rw [hnil]
      decide
    · by_contra hlt
      rw [Container.add_of_le] at hc
      · cases hc
      · rw [Container.empty, List.nil_append, length_flatMap_encode]
        exact hlt
  · rcases es with _ | ⟨e, es⟩
    · refine ⟨.empty flag, rfl, fun n hn => ?_⟩
      obtain ⟨n, rfl⟩ := Nat.exists_eq_add_of_lt hn
      rw [List.length_nil, Nat.zero_add, decodeLoop]
      cases flag
      · rw [fromContainer_end _ rfl rfl (by decide)]
        rfl
      · rfl
    · have hlen : ((Container.empty flag).data ++ (e :: es).flatMap (Fields.encode fields)).length <
          2 ^ 32 := by
        rw [Container.empty, List.nil_append, length_flatMap_encode]
        exact hlt
      refine ⟨⟨_, 0, false, hlen⟩, ?_, fun n hn => decodeLoop_eq rfl (Nat.zero_le _) rfl ?_ hn _⟩
      · rw [encodeAll_eq, if_neg (List.cons_ne_nil _ _)]
        exact Container.add_of_lt hlen
      · show ((Container.empty flag).data ++ _).length + 4 < 2 ^ 32
        rw [Container.empty, List.nil_append, length_flatMap_encode]
        omega

lemma decodesOk_iff (b : { b : List UInt8 // b.length < 2 ^ 32 }) (e : REvent) :
    DecodesOk b e ↔ Decodable b e := by
  have hwidth : (Container.ofBytes b).readpos + Fields.width fields < 2 ^ 32 :=
    Nat.lt_of_sub_eq_succ rfl
  obtain ⟨c, hread, -, hend⟩ := Container.read_eq rfl (Nat.zero_le _) hwidth e
  have hrest : (Container.ofBytes b).rest = b := rfl
  rw [hrest] at hread hend
  set e' := (Fields.decode fields b.1 e).1 with he'
  have hok : DecodesOk b e ↔ (c.isEOF = true → e' = e) ∧
      (c.isEOF = false → e'.size.toNat ≤ dataSize ∧ ∀ id, (e'.readParam id).isSome) := by
    refine ⟨fun ⟨e₁, c₁, h₁, hok⟩ => ?_, fun hok => ⟨e', c, hread, hok⟩⟩
    rw [fromContainer, hread] at h₁
    cases h₁
    exact hok
  rw [hok, Decodable]
  rw [Fields.decode_snd, width_fields] at hend
  by_cases hlen : 82 ≤ b.1.length
  · rw [if_pos hlen] at hend ⊢
    -- The size and the data are read from their places in the string.
    have hind := independent_fields
    have hsize : e'.size = b.1.getD 5 0 := by
      have h : [UInt8.ofNat (e'.size.toNat % 256)] = (b.1.drop 5).take 1 :=
        @Fields.get_decode_of_le _ _ sizeField _ [magicField, versionField]
          [tvSecField, tvUsecField, eidField, dataField] hind hlen e
      have hbyte : (b.1.drop 5).take 1 = [b.1.getD 5 0] := by
        rw [List.drop_eq_getElem_cons (by omega), List.take_succ_cons, List.take_zero,
          List.getD_eq_getElem _ _ (by omega)]
      have hcons := h.trans hbyte
      rw [Nat.mod_eq_of_lt e'.size.toNat_lt, UInt8.ofNat_toNat] at hcons
      exact List.singleton_inj.mp hcons
    have hdata : e'.data.content = (b.1.drop 18).take dataSize :=
      @Fields.get_decode_of_le _ _ _ _
        [magicField, versionField, sizeField, tvSecField, tvUsecField, eidField] [] hind hlen e
    rw [hend.1]
    rw [ParamsInside, ← hsize, ← hdata]
    refine ⟨fun h => ?_, fun h => ?_⟩
    · obtain ⟨hle, hall⟩ := h.2 rfl
      exact ⟨hle, fun id => (isSome_readParam_iff e' id hle).mp (hall id)⟩
    · exact ⟨fun h => (by cases h), fun _ => ⟨h.1, fun id =>
        (isSome_readParam_iff e' id h.1).mpr (h.2 id)⟩⟩
  · rw [if_neg hlen] at hend ⊢
    rw [← Fields.decode_fst_eq_self_iff independent_fields, hend]
    exact ⟨fun h => h.1 rfl, fun h => ⟨fun _ => h, fun h => by cases h⟩⟩

end REvent

/-- Events are read back, and byte strings decoded, as they should be if and only if the events fill
fewer than `2 ^ 32` bytes and the string is one of those that can be decoded. -/
theorem codec_iff (es : List REvent) (b : { b : List UInt8 // b.length < 2 ^ 32 }) (e : REvent) :
    RoundTrips es ∧ DecodesOk b e ↔ 82 * es.length < 2 ^ 32 ∧ Decodable b e := by
  rw [REvent.roundTrips_iff, REvent.decodesOk_iff]

/-- The bytes `0xFF`, 82 of them, are taken for an event of size 255. -/
theorem codec_oversized :
    ¬ (RoundTrips [] ∧ DecodesOk ⟨List.replicate 82 255, by decide⟩ REvent.new) := by
  rintro ⟨-, e', c, h, -, hok⟩
  have hval : (REvent.new.fromContainer (.ofBytes ⟨List.replicate 82 255, by decide⟩)).map
      (fun s => (s.1.size, s.2.isEOF)) = some (255, false) := by decide
  rw [h] at hval
  obtain ⟨hsize, heof⟩ := Prod.mk.inj (Option.some.inj hval)
  have hle := (hok heof).1
  rw [hsize] at hle
  exact absurd hle (by decide)

/-- The beginning of an event with another number is written into the event, which then fails. -/
example : (REvent.new.fromContainer (.ofBytes ⟨[1, 2, 3, 4, 5], by decide⟩)).map
    (fun s => (s.1.magic, s.1.version, s.2.isEOF)) = some (0x04030201, 5, true) := by decide

end Tritonn

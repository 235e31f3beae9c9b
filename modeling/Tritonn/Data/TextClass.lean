import Tritonn.Data.Precision
import Tritonn.Lib.Keyed
import Tritonn.Lib.Lower
import Tritonn.Lib.Run

/-!
The texts of the languages: `rTextClass` of `src/tritonn/text_class.cpp`.

* `TextLang` is a language with the place of its object in the memory; `TextClass` are the languages
  and the pointer to the current one, and `next` a place that was never used;
* `loadSystem`, `load`, `setCurLang` and `deleteUnused` are the operations; an attribute that is
  missing where a `std::string` is made of it is the end of the program, `none`;
* `getCurLang` and `getPtr` read through the pointer, and have no result when the language was
  deleted;
* `beforeDelete` is the state in which a step comes to `deleteUnused`, if it does, and `Keeps` the
  condition: then the current language was used before, or the file names it.

`curLang_iff` says of every run that its steps keep the current language, and what is found in it,
if and only if each of them meets `Keeps`; `curLang_fails` is a file that names another language.
-/

namespace Tritonn

/-- `rTextItem`. -/
structure TextItem where
  id : UInt32
  text : String
  deriving DecidableEq

/-- `rTextLang`, with its place in the memory. -/
structure TextLang where
  ptr : ℕ
  name : String
  setup : UInt32
  texts : List TextItem
  deriving DecidableEq

/-- `TEXTLANG_SETUP_USED`. -/
def textlangSetupUsed : UInt32 := 1

/-- `SID::UNKNOW`. -/
def sidUnknow : UInt32 := 0xFFFFFFFF

/-- `DATACFGERR_NOTSYSTEXTFILE`. -/
def notSysTextFile : UInt32 := 200

/-- `DATACFGERR_LANG_STRUCT`. -/
def langStruct : UInt32 := 500

/-- `DATACFGERR_LANG_UNKNOW`. -/
def langUnknow : UInt32 := 501

/-- `DATACFGERR_LANG_DUPID`. -/
def langDupid : UInt32 := 502

/-- `DATACFGERR_LANG_ID`. -/
def langId : UInt32 := 503

namespace TextLang

/-- `rTextClass::getPtr` in a language. -/
def getPtr (lang : TextLang) (id : UInt32) : Option String :=
  (lang.texts.find? fun item => item.id = id).map TextItem.text

/-- The flag is set. -/
def Used (lang : TextLang) : Prop := lang.setup &&& textlangSetupUsed ≠ 0

instance (lang : TextLang) : Decidable lang.Used := inferInstanceAs (Decidable (_ ≠ _))

/-- The loop of `rTextClass::loadLang` over the strings, with the code that is returned. -/
def loadItems (xml : XmlNumbers) (lang : TextLang) : List XmlElement → TextLang × UInt32
  | [] => (lang, 0)
  | e :: elements =>
      let id := e.getAttributeUDINT xml "id" sidUnknow
      if id = sidUnknow then (lang, langId)
      else if lang.getPtr id ≠ none then (lang, langDupid)
      else loadItems xml { lang with texts := lang.texts ++ [⟨id, e.getText.getD ""⟩] } elements

end TextLang

/-- `rTextClass`. -/
structure TextClass where
  langs : List TextLang
  curLang : Option ℕ
  next : ℕ
  deriving DecidableEq

namespace TextClass

/-- `rTextClass()`. -/
def new : TextClass := ⟨[], none, 0⟩

/-- `rTextClass::getLangPtr`. -/
def getLangPtr (s : TextClass) (name : String) : Option TextLang :=
  s.langs.find? fun lang => lang.name = name.toLower

/-- The object of a language is written. -/
def setLang (s : TextClass) (lang : TextLang) : TextClass :=
  { s with langs := s.langs.map fun l => if l.ptr = lang.ptr then lang else l }

section load

variable (xml : XmlNumbers)

/-- `rTextClass::loadLang`, with the code that is returned. -/
def loadLang (s : TextClass) (root : XmlElement) (create : Bool) : Option (TextClass × UInt32) := do
  let value ← root.getAttribute "value"
  let fill (s : TextClass) (lang : TextLang) :=
    let (lang, code) := lang.loadItems xml (root.childElements "str")
    some (s.setLang lang, code)
  match s.getLangPtr value.toLower with
  | some lang => fill s { lang with setup := lang.setup ||| textlangSetupUsed }
  | none =>
      if create then
        let lang := ⟨s.next, value.toLower, 0, []⟩
        fill { s with langs := s.langs ++ [lang], next := s.next + 1 } lang
      else some (s, langUnknow)

/-- The loop over the languages: an error ends it. -/
def loadLangs (create : Bool) : TextClass → List XmlElement → Option (TextClass × UInt32)
  | s, [] => some (s, 0)
  | s, lang :: langs => do
      let (s, code) ← s.loadLang xml lang create
      if code ≠ 0 then some (s, code) else loadLangs create s langs

/-- `rTextClass::deleteUnused`. -/
def deleteUnused (s : TextClass) : TextClass :=
  { s with langs := s.langs.filter fun lang => lang.Used }

/-- `rTextClass::loadSystem`: the document has its elements, or cannot be read. -/
def loadSystem (s : TextClass) : Except UInt32 (List XmlElement) → Option (TextClass × UInt32)
  | .error code => some (s, code)
  | .ok doc =>
      match doc.find? fun e => e.name = "strings" with
      | none => some (s, notSysTextFile)
      | some root => s.loadLangs xml true (root.childElements "lang")

/-- `rTextClass::load`. -/
def load (s : TextClass) : Option XmlElement → Option (TextClass × UInt32)
  | none => some (s, langStruct)
  | some root => do
      let (s, code) ← s.loadLangs xml false (root.childElements "lang")
      if code ≠ 0 then some (s, code) else some (s.deleteUnused, 0)

end load

/-- `rTextClass::setCurLang`. -/
def setCurLang (s : TextClass) (name : String) : TextClass × Bool :=
  match s.getLangPtr name with
  | none => (s, false)
  | some lang => ({ s with curLang := some lang.ptr }, true)

/-- `rTextClass::getCurLang`; `none` for a language that was deleted. -/
def getCurLang (s : TextClass) : Option String :=
  match s.curLang with
  | none => some ""
  | some p => (s.langs.find? fun lang => lang.ptr = p).map TextLang.name

/-- `rTextClass::getPtr` in the current language. -/
def getPtr (s : TextClass) (id : UInt32) : Option (Option String) := do
  let name ← s.getCurLang
  some ((s.getLangPtr name).bind fun lang => lang.getPtr id)

end TextClass

/-- An operation on the texts. -/
inductive TextOp where
  | loadSystem (file : Except UInt32 (List XmlElement))
  | load (root : Option XmlElement)
  | setCurLang (name : String)
  | deleteUnused

namespace TextOp

variable (xml : XmlNumbers)

/-- The texts after an operation. -/
def apply (s : TextClass) : TextOp → Option TextClass
  | .loadSystem file => (s.loadSystem xml file).map Prod.fst
  | .load root => (s.load xml root).map Prod.fst
  | .setCurLang name => some (s.setCurLang name).1
  | .deleteUnused => some s.deleteUnused

/-- A step of a run: nothing comes behind the end of the program. -/
def step (s : Option TextClass) (op : TextOp) : Option TextClass := s.bind fun s => op.apply xml s

/-- The texts at the time of `deleteUnused`, when the operation comes to it. -/
def beforeDelete (s : TextClass) : TextOp → Option TextClass
  | .load (some root) =>
      (s.loadLangs xml false (root.childElements "lang")).bind fun (s, code) =>
        if code ≠ 0 then none else some s
  | .deleteUnused => some s
  | _ => none

/-- The operation names a language in its file. -/
def Names (name : String) : TextOp → Prop
  | .load (some root) => ∃ e ∈ root.childElements "lang", ∃ value,
      e.getAttribute "value" = some value ∧ value.toLower = name
  | _ => False

end TextOp

/-! ### What is expected -/

namespace TextClass

/-- The pointer is null or the one of a language that is stored. -/
def Stored (s : TextClass) : Prop :=
  ∀ p, s.curLang = some p → ∃ lang ∈ s.langs, lang.ptr = p

/-- What is in the current language is found, before the unused languages are deleted and after. -/
def Found (s : TextClass) : Prop :=
  ∀ lang ∈ s.langs, s.curLang = some lang.ptr → ∀ id text, lang.getPtr id = some text →
    s.getPtr id = some (some text) ∧ s.deleteUnused.getPtr id = some (some text)

end TextClass

/-- What an operation has to leave. -/
structure TextStepOk (xml : XmlNumbers) (s : TextClass) (op : TextOp) : Prop where
  stored : ∀ s', op.apply xml s = some s' → s'.Stored
  kept : ∀ s', op.apply xml s = some s' → s.curLang ≠ none → s'.curLang ≠ none
  found : ∀ m, op.beforeDelete xml s = some m → m.Found

/-- When unused languages are deleted, the current one was used before, or the file names it. -/
def Keeps (xml : XmlNumbers) (s : TextClass) (op : TextOp) : Prop :=
  op.beforeDelete xml s ≠ none →
    ∀ lang ∈ s.langs, s.curLang = some lang.ptr → lang.Used ∨ op.Names lang.name

/-! ### The languages -/

namespace TextClass

/-- The languages are distinct objects with distinct names in lower case. -/
structure Inv (s : TextClass) : Prop where
  ptrs : (s.langs.map TextLang.ptr).Nodup
  fresh : ∀ lang ∈ s.langs, lang.ptr < s.next
  names : (s.langs.map TextLang.name).Nodup
  lower : ∀ lang ∈ s.langs, lang.name.toLower = lang.name

/-- Each language is still there; those with the names are used now. -/
structure Loads (named : String → Prop) (s s' : TextClass) : Prop where
  cur : s'.curLang = s.curLang
  old : ∀ lang ∈ s.langs, ∃ lang' ∈ s'.langs, lang'.ptr = lang.ptr ∧ lang'.name = lang.name ∧
    (lang'.Used ↔ lang.Used ∨ named lang.name)

variable {xml : XmlNumbers} {s s' : TextClass} {lang lang' : TextLang} {p q : String → Prop}

lemma inv_new : new.Inv :=
  ⟨List.nodup_nil, fun _ h => absurd h List.not_mem_nil, List.nodup_nil,
    fun _ h => absurd h List.not_mem_nil⟩

lemma Loads.refl (s : TextClass) : Loads (fun _ => False) s s :=
  ⟨rfl, fun lang hlang => ⟨lang, hlang, rfl, rfl, (or_false _).symm ▸ Iff.rfl⟩⟩

lemma Loads.trans {s'' : TextClass} (h : Loads p s s') (h' : Loads q s' s'') :
    Loads (fun name => p name ∨ q name) s s'' := by
  refine ⟨h'.cur.trans h.cur, fun lang hlang => ?_⟩
  obtain ⟨lang', hlang', hptr', hname', hused'⟩ := h.old lang hlang
  obtain ⟨lang'', hlang'', hptr, hname, hused⟩ := h'.old lang' hlang'
  refine ⟨lang'', hlang'', hptr.trans hptr', hname.trans hname', ?_⟩
  rw [hused, hused', hname', or_assoc]

variable (xml) in
/-- The strings of a language change nothing else of it. -/
lemma loadItems_fields (lang : TextLang) (elements : List XmlElement) :
    (lang.loadItems xml elements).1.ptr = lang.ptr ∧
      (lang.loadItems xml elements).1.name = lang.name ∧
      (lang.loadItems xml elements).1.setup = lang.setup := by
  induction elements generalizing lang with
  | nil => exact ⟨rfl, rfl, rfl⟩
  | cons e elements ih =>
      rw [TextLang.loadItems]
      split_ifs
      · exact ⟨rfl, rfl, rfl⟩
      · exact ⟨rfl, rfl, rfl⟩
      · exact ih _

/-- A language is written where it was. -/
lemma setLang_spec (h : s.Inv) (hlang : lang ∈ s.langs) (hptr : lang'.ptr = lang.ptr)
    (hname : lang'.name = lang.name) {used : Prop} (hused : lang'.Used ↔ lang.Used ∨ used) :
    (s.setLang lang').Inv ∧
      Loads (fun name => used ∧ name = lang.name) s (s.setLang lang') := by
  have hsame : ∀ l ∈ s.langs, l.ptr = lang'.ptr → l = lang := fun l hl heq =>
    Keyed.eq_of_key h.ptrs hl hlang (heq.trans hptr)
  have hmem : ∀ l ∈ (s.setLang lang').langs, ∃ l₀ ∈ s.langs, l.ptr = l₀.ptr ∧ l.name = l₀.name := by
    intro l hl
    obtain ⟨l₀, hl₀, rfl⟩ := List.mem_map.mp hl
    refine ⟨l₀, hl₀, ?_⟩
    split_ifs with heq
    · rw [hsame l₀ hl₀ heq]
      exact ⟨hptr, hname⟩
    · exact ⟨rfl, rfl⟩
  have hptrs : (s.setLang lang').langs.map TextLang.ptr = s.langs.map TextLang.ptr := by
    rw [setLang, List.map_map]
    refine List.map_congr_left fun l _ => ?_
    rw [Function.comp_apply]
    split_ifs with heq
    · exact heq.symm
    · rfl
  have hnames : (s.setLang lang').langs.map TextLang.name = s.langs.map TextLang.name := by
    rw [setLang, List.map_map]
    refine List.map_congr_left fun l hl => ?_
    rw [Function.comp_apply]
    split_ifs with heq
    · rw [hname, hsame l hl heq]
    · rfl
  refine ⟨⟨hptrs ▸ h.ptrs, fun l hl => ?_, hnames ▸ h.names, fun l hl => ?_⟩, rfl, fun l hl => ?_⟩
  · obtain ⟨l₀, hl₀, heq, -⟩ := hmem l hl
    rw [heq]
    exact h.fresh l₀ hl₀
  · obtain ⟨l₀, hl₀, -, heq⟩ := hmem l hl
    rw [heq]
    exact h.lower l₀ hl₀
  · refine ⟨_, List.mem_map_of_mem hl, ?_⟩
    split_ifs with heq
    · rw [hsame l hl heq]
      exact ⟨hptr, hname, hused.trans (or_congr_right (and_iff_left rfl).symm)⟩
    · have hother : l.name ≠ lang.name := fun h' =>
        heq ((Keyed.eq_of_key h.names hl hlang h') ▸ hptr.symm)
      exact ⟨rfl, rfl, (or_iff_left fun h' => hother h'.2).symm⟩

/-- A language of a new name is added. -/
lemma inv_append (h : s.Inv) {name : String} (hfind : s.getLangPtr name.toLower = none) :
    ({ s with langs := s.langs ++ [⟨s.next, name.toLower, 0, []⟩], next := s.next + 1 } :
      TextClass).Inv := by
  refine ⟨?_, fun l hl => ?_, ?_, fun l hl => ?_⟩
  · exact Keyed.nodup_concat h.ptrs fun l hl => Nat.ne_of_lt (h.fresh l hl)
  · rcases List.mem_append.mp hl with hl | hl
    · exact Nat.lt_succ_of_lt (h.fresh l hl)
    · rw [List.mem_singleton.mp hl]
      exact Nat.lt_succ_self s.next
  · refine Keyed.nodup_concat h.names fun l hl => ?_
    rw [getLangPtr, Lower.toLower_toLower] at hfind
    exact Keyed.find_eq_none_iff.mp hfind l hl
  · rcases List.mem_append.mp hl with hl | hl
    · exact h.lower l hl
    · rw [List.mem_singleton.mp hl]
      exact Lower.toLower_toLower name

variable (xml) in
/-- A language of a new name is filled. -/
lemma added_spec (h : s.Inv) {name : String} (hfind : s.getLangPtr name.toLower = none)
    (elements : List XmlElement) :
    (({ s with langs := s.langs ++ [⟨s.next, name.toLower, 0, []⟩], next := s.next + 1 } :
        TextClass).setLang (TextLang.loadItems xml ⟨s.next, name.toLower, 0, []⟩ elements).1).Inv ∧
      Loads (fun _ => False) s
        (({ s with langs := s.langs ++ [⟨s.next, name.toLower, 0, []⟩], next := s.next + 1 } :
          TextClass).setLang
            (TextLang.loadItems xml ⟨s.next, name.toLower, 0, []⟩ elements).1) := by
  obtain ⟨hptr, hname, hsetup⟩ :=
    loadItems_fields xml ⟨s.next, name.toLower, 0, []⟩ elements
  have hused : (TextLang.loadItems xml ⟨s.next, name.toLower, 0, []⟩ elements).1.Used ↔
      (⟨s.next, name.toLower, 0, []⟩ : TextLang).Used ∨ False := by
    rw [or_false, TextLang.Used, hsetup]
    rfl
  obtain ⟨hinv, hloads⟩ := setLang_spec (inv_append h hfind)
    (List.mem_append_right _ (List.mem_singleton_self _)) hptr hname hused
  refine ⟨hinv, hloads.cur, fun lang hlang => ?_⟩
  obtain ⟨lang', hlang', hptr', hname', hused'⟩ := hloads.old lang (List.mem_append_left _ hlang)
  exact ⟨lang', hlang', hptr', hname', hused'.trans (or_congr_right (iff_of_false (·.1) id))⟩

lemma used_or (setup : UInt32) : (setup ||| textlangSetupUsed) &&& textlangSetupUsed ≠ 0 := by
  have habsorb : (setup ||| textlangSetupUsed) &&& textlangSetupUsed = textlangSetupUsed := by
    refine UInt32.toBitVec_inj.mp (BitVec.eq_of_getLsbD_eq fun i _ => ?_)
    rw [UInt32.toBitVec_and, UInt32.toBitVec_or, BitVec.getLsbD_and, BitVec.getLsbD_or]
    cases setup.toBitVec.getLsbD i <;> cases textlangSetupUsed.toBitVec.getLsbD i <;> rfl
  rw [habsorb]
  decide

/-- What loading a language leaves. -/
lemma loadLang_spec (h : s.Inv) {root : XmlElement} {create : Bool} {code : UInt32}
    (hload : s.loadLang xml root create = some (s', code)) :
    s'.Inv ∧ ∃ value, root.getAttribute "value" = some value ∧ ∃ p, Loads p s s' ∧
      (code = 0 → create = false → ∀ name, p name ↔ value.toLower = name) := by
  rw [loadLang] at hload
  cases hvalue : root.getAttribute "value" with
  | none =>
      rw [hvalue] at hload
      exact absurd hload (Option.some_ne_none _).symm
  | some value =>
      rw [hvalue] at hload
      simp only [Option.bind_eq_bind, Option.bind_some] at hload
      cases hfind : s.getLangPtr value.toLower with
      | none =>
          rw [hfind] at hload
          cases create with
          | false =>
              obtain ⟨rfl, rfl⟩ := Prod.mk.inj (Option.some.inj hload)
              exact ⟨h, value, rfl, _, Loads.refl s, fun h => absurd h (by decide)⟩
          | true =>
              obtain ⟨rfl, -⟩ := Prod.mk.inj (Option.some.inj hload)
              obtain ⟨hinv, hloads⟩ := added_spec xml h hfind (root.childElements "str")
              exact ⟨hinv, value, rfl, _, hloads, fun _ h => absurd h Bool.noConfusion⟩
      | some lang =>
          rw [hfind] at hload
          obtain ⟨rfl, -⟩ := Prod.mk.inj (Option.some.inj hload)
          obtain ⟨hlang, hfound⟩ := Keyed.eq_of_find hfind
          rw [Lower.toLower_toLower] at hfound
          obtain ⟨hptr, hname, hsetup⟩ := loadItems_fields xml
            { lang with setup := lang.setup ||| textlangSetupUsed } (root.childElements "str")
          have hused : (TextLang.loadItems xml
              { lang with setup := lang.setup ||| textlangSetupUsed }
                (root.childElements "str")).1.Used ↔ lang.Used ∨ True := by
            rw [or_true, iff_true, TextLang.Used, hsetup]
            exact used_or lang.setup
          obtain ⟨hinv, hloads⟩ := setLang_spec h hlang hptr hname hused
          refine ⟨hinv, value, rfl, _, hloads, fun _ _ name => ?_⟩
          rw [true_and, hfound, eq_comm]

/-- What loading languages leaves: without an error all of them were named. -/
lemma loadLangs_spec (h : s.Inv) {create : Bool} {langs : List XmlElement} {code : UInt32}
    (hload : s.loadLangs xml create langs = some (s', code)) :
    s'.Inv ∧ ∃ p, Loads p s s' ∧ (code = 0 → create = false → ∀ name, p name ↔
      ∃ e ∈ langs, ∃ value, e.getAttribute "value" = some value ∧ value.toLower = name) := by
  induction langs generalizing s with
  | nil =>
      obtain ⟨rfl, -⟩ := Prod.mk.inj (Option.some.inj hload)
      refine ⟨h, _, Loads.refl s, fun _ _ name => ?_⟩
      exact iff_of_false id fun ⟨e, he, _⟩ => List.not_mem_nil he
  | cons root langs ih =>
      rw [loadLangs] at hload
      cases hfirst : s.loadLang xml root create with
      | none =>
          rw [hfirst] at hload
          exact absurd hload (Option.some_ne_none _).symm
      | some r =>
          obtain ⟨m, first⟩ := r
          rw [hfirst] at hload
          simp only [Option.bind_eq_bind, Option.bind_some] at hload
          obtain ⟨hinv, value, hvalue, q, hq, hnamed⟩ := loadLang_spec h hfirst
          by_cases hcode : first = 0
          · rw [if_neg (not_not.mpr hcode)] at hload
            obtain ⟨hinv', p, hp, hrest⟩ := ih hinv hload
            refine ⟨hinv', _, hq.trans hp, fun h0 hc name => ?_⟩
            rw [hnamed hcode hc, hrest h0 hc, List.exists_mem_cons_iff]
            refine or_congr_left ⟨fun h' => ⟨value, hvalue, h'⟩, ?_⟩
            rintro ⟨value', hvalue', h'⟩
            rwa [Option.some.inj (hvalue.symm.trans hvalue')]
          · rw [if_pos hcode] at hload
            obtain ⟨rfl, rfl⟩ := Prod.mk.inj (Option.some.inj hload)
            exact ⟨hinv, q, hq, fun h0 => absurd h0 hcode⟩

lemma Loads.stored (h : Loads p s s') (hs : s.Stored) : s'.Stored := by
  intro ptr hptr
  rw [h.cur] at hptr
  obtain ⟨lang, hlang, rfl⟩ := hs ptr hptr
  obtain ⟨lang', hlang', hsame, -⟩ := h.old lang hlang
  exact ⟨lang', hlang', hsame⟩

/-! ### Unused languages -/

lemma mem_deleteUnused : lang ∈ s.deleteUnused.langs ↔ lang ∈ s.langs ∧ lang.Used := by
  rw [deleteUnused, List.mem_filter, decide_eq_true_iff]

lemma inv_deleteUnused (h : s.Inv) : s.deleteUnused.Inv := by
  have hsub : s.deleteUnused.langs.Sublist s.langs := List.filter_sublist
  exact ⟨h.ptrs.sublist (hsub.map _), fun l hl => h.fresh l (hsub.subset hl),
    h.names.sublist (hsub.map _), fun l hl => h.lower l (hsub.subset hl)⟩

/-- What is in the current language is found. -/
lemma getPtr_eq (h : s.Inv) (hlang : lang ∈ s.langs) (hcur : s.curLang = some lang.ptr)
    (id : UInt32) : s.getPtr id = some (lang.getPtr id) := by
  have hname : s.getCurLang = some lang.name := by
    rw [getCurLang, hcur]
    exact congrArg (Option.map TextLang.name) (Keyed.find_of_mem h.ptrs hlang)
  have hfind : s.getLangPtr lang.name = some lang := by
    rw [getLangPtr, h.lower lang hlang]
    exact Keyed.find_of_mem h.names hlang
  rw [getPtr, hname]
  simp only [Option.bind_eq_bind, Option.bind_some, hfind]

/-- The current language is stored after the unused ones are deleted if and only if it is used. -/
lemma stored_deleteUnused_iff (h : s.Inv) (hs : s.Stored) :
    s.deleteUnused.Stored ↔ ∀ lang ∈ s.langs, s.curLang = some lang.ptr → lang.Used := by
  constructor
  · intro hd lang hlang hcur
    obtain ⟨lang', hlang', hptr⟩ := hd lang.ptr hcur
    obtain ⟨hmem, hused⟩ := mem_deleteUnused.mp hlang'
    rwa [← Keyed.eq_of_key h.ptrs hmem hlang hptr]
  · intro hused ptr hptr
    obtain ⟨lang, hlang, rfl⟩ := hs ptr hptr
    exact ⟨lang, mem_deleteUnused.mpr ⟨hlang, hused lang hlang hptr⟩, rfl⟩

lemma found_of_used (h : s.Inv)
    (hused : ∀ lang ∈ s.langs, s.curLang = some lang.ptr → lang.Used) : s.Found := by
  intro lang hlang hcur id text htext
  have hdeleted : lang ∈ s.deleteUnused.langs := mem_deleteUnused.mpr ⟨hlang, hused lang hlang hcur⟩
  rw [getPtr_eq h hlang hcur, getPtr_eq (inv_deleteUnused h) hdeleted hcur, htext]
  exact ⟨rfl, rfl⟩

lemma setCurLang_stored (hs : s.Stored) (name : String) : (s.setCurLang name).1.Stored := by
  rw [setCurLang]
  cases hfind : s.getLangPtr name with
  | none => exact hs
  | some lang =>
      intro ptr hptr
      exact ⟨lang, (Keyed.eq_of_find hfind).1, Option.some.inj hptr⟩

end TextClass

/-! ### The steps -/

namespace TextOp

open TextClass

variable {xml : XmlNumbers} {s s' m : TextClass} {op : TextOp}

/-- The state before the unused languages are deleted: it has the languages of the one before the
step, and those that the file names are used. -/
lemma beforeDelete_spec (h : s.Inv) (hm : op.beforeDelete xml s = some m) :
    m.Inv ∧ op.apply xml s = some m.deleteUnused ∧
      TextClass.Loads (fun name => op.Names name) s m := by
  cases op with
  | loadSystem file => exact absurd hm (Option.some_ne_none m).symm
  | setCurLang name => exact absurd hm (Option.some_ne_none m).symm
  | deleteUnused =>
      obtain rfl := Option.some.inj hm
      exact ⟨h, rfl, TextClass.Loads.refl s⟩
  | load root =>
      cases root with
      | none => exact absurd hm (Option.some_ne_none m).symm
      | some root =>
          rw [beforeDelete] at hm
          obtain ⟨⟨m', code⟩, hload, hm⟩ := Option.bind_eq_some_iff.mp hm
          by_cases hcode : code = 0
          · simp only [if_neg (not_not.mpr hcode)] at hm
            obtain rfl := Option.some.inj hm
            obtain ⟨hinv, p, hp, hnamed⟩ := loadLangs_spec h hload
            have hnames : p = fun name => (TextOp.load (some root)).Names name :=
              funext fun name => propext (hnamed hcode rfl name)
            refine ⟨hinv, ?_, hnames ▸ hp⟩
            rw [apply, TextClass.load, hload]
            simp only [Option.bind_eq_bind, Option.bind_some, if_neg (not_not.mpr hcode)]
            rfl
          · simp only [if_pos hcode] at hm
            exact absurd hm (Option.some_ne_none m).symm

/-- The languages of a file leave the pointer as it was. -/
lemma loadLangs_kept (h : s.Inv) (hs : s.Stored) {create : Bool} {langs : List XmlElement}
    {code : UInt32} (hload : s.loadLangs xml create langs = some (s', code)) :
    s'.Inv ∧ s'.Stored ∧ (s.curLang ≠ none → s'.curLang ≠ none) := by
  obtain ⟨hinv, p, hp, -⟩ := loadLangs_spec h hload
  exact ⟨hinv, hp.stored hs, fun hcur => by rwa [hp.cur]⟩

lemma loadSystem_kept (h : s.Inv) (hs : s.Stored) {file : Except UInt32 (List XmlElement)}
    {code : UInt32} (hload : s.loadSystem xml file = some (s', code)) :
    s'.Inv ∧ s'.Stored ∧ (s.curLang ≠ none → s'.curLang ≠ none) := by
  cases file with
  | error code' =>
      obtain ⟨rfl, -⟩ := Prod.mk.inj (Option.some.inj hload)
      exact ⟨h, hs, id⟩
  | ok doc =>
      rw [TextClass.loadSystem] at hload
      cases hroot : doc.find? fun e => e.name = "strings" with
      | none =>
          rw [hroot] at hload
          obtain ⟨rfl, -⟩ := Prod.mk.inj (Option.some.inj hload)
          exact ⟨h, hs, id⟩
      | some root =>
          rw [hroot] at hload
          exact loadLangs_kept h hs hload

/-- A `load` that does not come to `deleteUnused` ends with an error. -/
lemma load_kept (h : s.Inv) (hs : s.Stored) {root : Option XmlElement}
    (hm : (TextOp.load root).beforeDelete xml s = none) {code : UInt32}
    (hload : s.load xml root = some (s', code)) :
    s'.Inv ∧ s'.Stored ∧ (s.curLang ≠ none → s'.curLang ≠ none) := by
  cases root with
  | none =>
      obtain ⟨rfl, -⟩ := Prod.mk.inj (Option.some.inj hload)
      exact ⟨h, hs, id⟩
  | some root =>
      rw [TextClass.load] at hload
      rw [beforeDelete] at hm
      cases hlangs : s.loadLangs xml false (root.childElements "lang") with
      | none =>
          rw [hlangs] at hload
          exact absurd hload (Option.some_ne_none _).symm
      | some r =>
          obtain ⟨m, code'⟩ := r
          rw [hlangs] at hload hm
          simp only [Option.bind_eq_bind, Option.bind_some] at hload hm
          by_cases hcode : code' = 0
          · rw [if_neg (not_not.mpr hcode)] at hm
            exact absurd hm (Option.some_ne_none m)
          · rw [if_pos hcode] at hload
            obtain ⟨rfl, -⟩ := Prod.mk.inj (Option.some.inj hload)
            exact loadLangs_kept h hs hlangs

lemma setCurLang_kept (h : s.Inv) (hs : s.Stored) (name : String) :
    (s.setCurLang name).1.Inv ∧ (s.setCurLang name).1.Stored ∧
      (s.curLang ≠ none → (s.setCurLang name).1.curLang ≠ none) := by
  refine ⟨?_, setCurLang_stored hs name, fun hcur => ?_⟩
  · rw [TextClass.setCurLang]
    split
    · exact h
    · exact ⟨h.ptrs, h.fresh, h.names, h.lower⟩
  · rw [TextClass.setCurLang]
    split
    · exact hcur
    · exact Option.some_ne_none _

/-- A step that does not come to `deleteUnused` loads languages, or changes the current one. -/
lemma apply_spec (h : s.Inv) (hs : s.Stored) (hm : op.beforeDelete xml s = none)
    (hop : op.apply xml s = some s') :
    s'.Inv ∧ s'.Stored ∧ (s.curLang ≠ none → s'.curLang ≠ none) := by
  cases op with
  | loadSystem file =>
      obtain ⟨⟨s'', code⟩, hload, rfl⟩ := Option.map_eq_some_iff.mp hop
      exact loadSystem_kept h hs hload
  | load root =>
      obtain ⟨⟨s'', code⟩, hload, rfl⟩ := Option.map_eq_some_iff.mp hop
      exact load_kept h hs hm hload
  | setCurLang name =>
      obtain rfl := Option.some.inj hop
      exact setCurLang_kept h hs name
  | deleteUnused => exact absurd hm (Option.some_ne_none s)

/-- The step is right if and only if it keeps the current language. -/
lemma stepOk_iff (h : s.Inv) (hs : s.Stored) : TextStepOk xml s op ↔ Keeps xml s op := by
  cases hm : op.beforeDelete xml s with
  | none =>
      refine iff_of_true ⟨fun s' hop => (apply_spec h hs hm hop).2.1,
        fun s' hop => (apply_spec h hs hm hop).2.2, fun m hm' => ?_⟩ fun hne => absurd hm hne
      rw [hm] at hm'
      exact absurd hm' (Option.some_ne_none m).symm
  | some m =>
      obtain ⟨hinv, hop, hloads⟩ := beforeDelete_spec h hm
      have hstored := hloads.stored hs
      have hused : (∀ lang ∈ m.langs, m.curLang = some lang.ptr → lang.Used) ↔ Keeps xml s op := by
        constructor
        · intro hused _ lang hlang hcur
          obtain ⟨lang', hlang', hptr, -, hiff⟩ := hloads.old lang hlang
          exact hiff.mp (hused lang' hlang' (by rw [hloads.cur, hcur, hptr]))
        · intro hkeeps lang' hlang' hcur
          rw [hloads.cur] at hcur
          obtain ⟨lang, hlang, hptr⟩ := hs lang'.ptr hcur
          obtain ⟨lang'', hlang'', hptr', -, hiff⟩ := hloads.old lang hlang
          rw [← Keyed.eq_of_key hinv.ptrs hlang'' hlang' (hptr'.trans hptr)]
          rw [← hptr] at hcur
          exact hiff.mpr (hkeeps (by rw [hm]; exact Option.some_ne_none m) lang hlang hcur)
      rw [← hused]
      constructor
      · exact fun hok => (stored_deleteUnused_iff hinv hstored).mp (hok.stored _ hop)
      · intro hall
        have hresult : ∀ s', op.apply xml s = some s' → s' = m.deleteUnused := fun s' hs' =>
          Option.some.inj (hs'.symm.trans hop)
        refine ⟨fun s' hs' => ?_, fun s' hs' hcur => ?_, fun m' hm' => ?_⟩
        · rw [hresult s' hs']
          exact (stored_deleteUnused_iff hinv hstored).mpr hall
        · rw [hresult s' hs']
          exact fun hnone => hcur (hloads.cur ▸ hnone)
        · rw [← Option.some.inj (hm.symm.trans hm')]
          exact found_of_used hinv hall

lemma apply_inv (h : s.Inv) (hs : s.Stored) (hok : TextStepOk xml s op)
    (hop : op.apply xml s = some s') : s'.Inv ∧ s'.Stored := by
  refine ⟨?_, hok.stored s' hop⟩
  cases hm : op.beforeDelete xml s with
  | none => exact (apply_spec h hs hm hop).1
  | some m =>
      obtain ⟨hinv, hop', -⟩ := beforeDelete_spec h hm
      rw [Option.some.inj (hop.symm.trans hop')]
      exact inv_deleteUnused hinv

end TextOp

/-- Every operation of a run keeps the current language and what is found in it, if and only if each
of them meets the condition. -/
theorem curLang_iff (xml : XmlNumbers) (ops : List TextOp) :
    Run.Along (TextOp.step xml) (fun s op => ∀ t, s = some t → TextStepOk xml t op)
        (some .new) ops ↔
      Run.Along (TextOp.step xml) (fun s op => ∀ t, s = some t → Keeps xml t op)
        (some .new) ops := by
  refine Run.along_congr (A := fun _ _ => True) (fun s => ∀ t, s = some t → t.Inv ∧ t.Stored)
    ?_ ?_ ?_ (Run.along_of_forall fun _ _ => trivial)
  · intro s op hinv _
    exact forall_congr' fun t => forall_congr' fun ht =>
      TextOp.stepOk_iff (hinv t ht).1 (hinv t ht).2
  · intro s op hinv _ hok t ht
    obtain ⟨t₀, ht₀, hop⟩ := Option.bind_eq_some_iff.mp ht
    exact TextOp.apply_inv (hinv t₀ ht₀).1 (hinv t₀ ht₀).2 (hok t₀ ht₀) hop
  · intro t ht
    rw [← Option.some.inj ht]
    exact ⟨TextClass.inv_new, fun p hp => absurd hp (Option.some_ne_none p).symm⟩

/-- A language without strings. -/
def langElement (name : String) : XmlElement := .node "lang" [("value", name)] none []

/-- Two languages are loaded, and the first of them is the current one; a file that names the second
alone deletes it. -/
theorem curLang_fails :
    ∃ s, ([.loadSystem (.ok [.node "strings" [] none [langElement "ru", langElement "en"]]),
        .setCurLang "ru", .load (some (.node "strings" [] none [langElement "en"]))] :
          List TextOp).foldl (TextOp.step ⟨fun _ => 0, fun _ => none⟩) (some .new) = some s ∧
      s.curLang = some 0 ∧ ¬s.Stored ∧ s.getCurLang = none := by
  refine ⟨⟨[⟨1, "en", 1, []⟩], some 0, 2⟩, by decide +kernel, rfl, fun h => ?_, by decide⟩
  obtain ⟨lang, hlang, hptr⟩ := h 0 rfl
  rw [List.mem_singleton.mp hlang] at hptr
  exact absurd hptr (by decide)

end Tritonn

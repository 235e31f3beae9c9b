import Tritonn.Lib.Lower
import Tritonn.Lib.Result

/-!
Loading a configuration: the part of `src/tritonn/data_config.cpp` that makes the sources and their
links, with `rLink::loadFromXML` of `data/link.cpp` and `rSource::loadFromXML` of `data/source.cpp`.

* `ConfigXml` are the elements of the file, and `SourceClass` what a class adds to
  `rSource::loadFromXML`: the links it has and the calls of `LoadLink` and `LoadShadowLink` that it
  makes, in their order;
* `DataConfig` is `rDataConfig` while it loads: the sources that are loaded, the links that will be
  resolved, and the number of elements of each kind;
* `loadIo`, `loadCalc`, `loadVariable`, `loadStation` and `loadReport` are the functions of the
  source, and `loadConfig` calls them; an error ends them all, since `rError` keeps the first one;
* `DataConfig.Inv` is what they keep, with the stations and the streams whose parts are being
  loaded: `loadConfig_inv`.

The objects of the program are numbered as they are made, and a link is the number of its object
and its own number there.
-/

namespace Tritonn

/-! ### The file -/

/-- `tinyxml2::XMLElement`, as the configuration uses it: the name, the line, the attributes and the
children. -/
inductive ConfigXml where
  | node (name : String) (line : UInt32) (attributes : List (String × String))
      (children : List ConfigXml)

namespace ConfigXml

/-- `Name`. -/
def name : ConfigXml → String
  | node name _ _ _ => name

/-- `GetLineNum`. -/
def getLineNum : ConfigXml → UInt32
  | node _ line _ _ => line

/-- `Attribute`. -/
def getAttribute : ConfigXml → String → Option String
  | node _ _ attributes _, key => attributes.lookup key

/-- The elements of `XML_FOR_ALL`. -/
def children : ConfigXml → List ConfigXml
  | node _ _ _ children => children

/-- The elements of `XML_FOR`. -/
def childElements (e : ConfigXml) (key : String) : List ConfigXml :=
  e.children.filter fun c => c.name = key

/-- `FirstChildElement`. -/
def firstChildElement (e : ConfigXml) (key : String) : Option ConfigXml :=
  e.children.find? fun c => c.name = key

end ConfigXml

/-- The errors `DATACFGERR_…` of these functions; the classes have others. -/
inductive ConfigError where
  | config
  | calcUnknowIo
  | unknowCalc
  | link
  | linkNF
  | stationsNF
  | streamsNF
  | noReports
  | invalidName
  | limit
  | checkLink
  | maxAI
  | maxAO
  | maxFI
  | maxDI
  | maxDO
  | maxDensSol
  | maxRdcDens
  | maxSelector
  | maxStream
  | maxStation
  | maxSampler
  | maxProve
  | maxAverage
  | maxMassWater
  | maxVolWater
  | maxKinVisc
  | maxDynVisc
  | other (code : UInt32)
  deriving DecidableEq, Repr

/-- `rError`. -/
structure RError where
  error : ConfigError
  lineno : UInt32
  text : String
  deriving DecidableEq, Repr

/-- How loading ends early: with an error, or with a text that is made of no attribute. -/
inductive ConfigStop where
  | error (err : RError)
  | noText
  deriving DecidableEq, Repr

/-! ### Links and sources -/

/-- A link as `initLink` makes it: its own name and `m_setup`. -/
structure LinkSlot where
  ioName : String
  setup : UInt16
  deriving DecidableEq, Repr

/-- What loading changes of an `rLink`: the source by its number. -/
structure ConfLink where
  mAlias : String := ""
  param : String := ""
  fullTag : String := ""
  lineNum : UInt32 := 0
  source : Option ℕ := none
  deriving DecidableEq, Repr

/-- What `loadFromXML` of a class does besides `rSource::loadFromXML`: it loads a link, or one that
follows another one, under a name in lower case; it gives a link without a parameter one, as
`rSelector` does for its faults; or it reports an error. -/
inductive LinkCall where
  | link (slot : ℕ) (element : Option ConfigXml) (required : Bool)
  | shadow (slot : ℕ) (element : Option ConfigXml) (mainlink : ℕ)
      (name : { s : String // s.toLower = s })
  | param (slot : ℕ) (name : { s : String // s.toLower = s })
  | fail (err : RError)

/-- A class of sources: the links after its constructor, those after `loadFromXML`, and what this
does for an element, with a station or without. -/
structure SourceClass where
  made : List LinkSlot
  links : ConfigXml → List LinkSlot
  calls : ConfigXml → Bool → List LinkCall

/-- A source that was loaded: the number of the object, the name of its element, `m_ID`, `m_alias`
and its links. -/
structure ConfSource where
  object : ℕ
  tag : String
  id : ℕ
  mAlias : String
  links : List LinkSlot
  deriving DecidableEq, Repr

/-- `rDataConfig` while it loads: `m_max`, the number of objects, their links, `ListSource` and
`ListLink`. -/
structure DataConfig where
  max : String → ℕ
  count : ℕ
  link : ℕ × ℕ → ConfLink
  listSource : List ConfSource
  listLink : List (ℕ × ℕ)

/-- The loop of `rLink::loadFromXML` over the characters of a tag, with what was read so far. -/
def splitTag : Bool → String × String → List Char → Option (String × String)
  | _, parts, [] => some parts
  | false, (mAlias, param), ch :: tag =>
      if ch = ':' then splitTag true (mAlias, param) tag
      else splitTag false (mAlias.push ch, param) tag
  | true, (mAlias, param), ch :: tag =>
      if ch = ':' then none else splitTag true (mAlias, param.push ch) tag

/-- `rLink::loadFromXML`. -/
def ConfLink.loadFromXML (l : ConfLink) (element : ConfigXml) : Except ConfigStop ConfLink :=
  let fullTag := (element.getAttribute "alias").getD ""
  if fullTag = "" then .error (.error ⟨.link, element.getLineNum, "tag is empty"⟩)
  else
    match splitTag false (l.mAlias, l.param) fullTag.toLower.toList with
    | none => .error (.error ⟨.link, element.getLineNum, "tag name is fault"⟩)
    | some (mAlias, param) =>
        .ok { l with mAlias, param, fullTag := fullTag.toLower, lineNum := element.getLineNum }

namespace DataConfig

/-- A link is changed. -/
def setLink (c : DataConfig) (key : ℕ × ℕ) (f : ConfLink → ConfLink) : DataConfig :=
  { c with link := Function.update c.link key (f (c.link key)) }

lemma setLink_self (c : DataConfig) (key : ℕ × ℕ) (f : ConfLink → ConfLink) :
    (c.setLink key f).link key = f (c.link key) := Function.update_self ..

lemma setLink_of_ne {key k : ℕ × ℕ} (h : k ≠ key) (c : DataConfig) (f : ConfLink → ConfLink) :
    (c.setLink key f).link k = c.link k := Function.update_of_ne h ..

/-- A link goes to `ListLink`. -/
def pushLink (c : DataConfig) (key : ℕ × ℕ) : DataConfig :=
  { c with listLink := c.listLink ++ [key] }

/-- A source goes to `ListSource`. -/
def push (c : DataConfig) (s : ConfSource) : DataConfig :=
  { c with listSource := c.listSource ++ [s] }

/-- `m_max[name]++`. -/
def next (c : DataConfig) (name : String) : DataConfig :=
  { c with max := Function.update c.max name (c.max name + 1) }

lemma next_self (c : DataConfig) (name : String) : (c.next name).max name = c.max name + 1 :=
  Function.update_self ..

lemma next_of_ne {name tag : String} (h : tag ≠ name) (c : DataConfig) :
    (c.next name).max tag = c.max tag := Function.update_of_ne h ..

/-- `rDataConfig::LoadLink`. -/
def loadLink (c : DataConfig) (key : ℕ × ℕ) (element : Option ConfigXml) (required : Bool) :
    Except ConfigStop DataConfig :=
  let c := c.setLink key fun l => { l with source := none }
  match element with
  | none =>
      if !required then .ok c
      else .error (.error ⟨.linkNF, (c.link key).lineNum,
        "source '" ++ (c.link key).fullTag ++ "' is null"⟩)
  | some element => do
      let l ← (c.link key).loadFromXML element
      return (c.setLink key fun _ => l).pushLink key

/-- `rDataConfig::LoadShadowLink`. -/
def loadShadowLink (c : DataConfig) (key : ℕ × ℕ) (element : Option ConfigXml) (mainlink : ℕ × ℕ)
    (name : String) : Except ConfigStop DataConfig :=
  match element with
  | some element =>
      if element.name.toLower = "link" then c.loadLink key (some element) true
      else c.loadLink key (element.firstChildElement "link") true
  | none =>
      let main := c.link mainlink
      .ok ((c.setLink key fun l =>
        { l with
          mAlias := main.mAlias, fullTag := main.mAlias ++ ":" ++ name, param := name
          lineNum := main.lineNum }).pushLink key)

/-- A link without a parameter gets one. -/
def defaultParam (c : DataConfig) (key : ℕ × ℕ) (name : String) : DataConfig :=
  c.setLink key fun l => if l.param = "" then { l with param := name } else l

/-- A call of a class. -/
def loadCall (object : ℕ) (c : DataConfig) : LinkCall → Except ConfigStop DataConfig
  | .link slot element required => c.loadLink (object, slot) element required
  | .shadow slot element mainlink name =>
      c.loadShadowLink (object, slot) element (object, mainlink) name
  | .param slot name => .ok (c.defaultParam (object, slot) name)
  | .fail err => .error (.error err)

end DataConfig

/-- The loop of `rSource::loadFromXML` over the limits. -/
def loadLimits (made : List LinkSlot) : List ConfigXml → Except ConfigStop Unit
  | [] => .ok ()
  | element :: limits =>
      match element.getAttribute "name" with
      | none => .error .noText
      | some name =>
          if made.any fun l => l.ioName = name.toLower then loadLimits made limits
          else .error (.error ⟨.limit, element.getLineNum, name.toLower⟩)

/-- `rSource::loadFromXML`: the alias. -/
def loadAlias (made : List LinkSlot) (element : ConfigXml) (path : String) :
    Except ConfigStop String :=
  match element.getAttribute "name" with
  | none => .error (.error ⟨.invalidName, element.getLineNum, ""⟩)
  | some strAlias => do
      loadLimits made (((element.firstChildElement "limits").map
        fun limits => limits.childElements "limit").getD [])
      return ((if path = "" then "" else path ++ ".") ++ strAlias).toLower

/-! ### The functions of `rDataConfig` -/

/-- The elements of one name: how many there may be, and the error if there are more. -/
structure SourceKind where
  tag : String
  max : ℕ
  error : ConfigError

/-- The elements of `loadIO`. -/
def ioKinds : List SourceKind :=
  [⟨"ai", 64, .maxAI⟩, ⟨"ao", 8, .maxAO⟩, ⟨"counter", 16, .maxFI⟩, ⟨"di", 32, .maxDI⟩,
    ⟨"do", 32, .maxDO⟩]

/-- The elements of `loadCalc`. There may be as many provers as samplers. -/
def calcKinds : List SourceKind :=
  [⟨"densitometer", 16, .maxDensSol⟩, ⟨"reduceddens", 32, .maxRdcDens⟩,
    ⟨"multiselector", 16, .maxSelector⟩, ⟨"selector", 16, .maxSelector⟩,
    ⟨"sampler", 32, .maxSampler⟩, ⟨"prove", 32, .maxProve⟩, ⟨"average", 32, .maxAverage⟩,
    ⟨"masswater", 16, .maxMassWater⟩, ⟨"volwater", 16, .maxVolWater⟩,
    ⟨"kinviscosity", 8, .maxKinVisc⟩, ⟨"dynviscosity", 8, .maxDynVisc⟩]

/-- The streams of all stations. -/
def streamKind : SourceKind := ⟨"stream", 16, .maxStream⟩

/-- The stations. -/
def stationKind : SourceKind := ⟨"station", 4, .maxStation⟩

namespace DataConfig

variable (classes : String → SourceClass)

/-- A source is made and loaded from its element. -/
def loadSource (c : DataConfig) (tag : String) (id : ℕ) (element : ConfigXml) (path : String)
    (station : Bool) : Except ConfigStop (DataConfig × ConfSource) := do
  let mAlias ← loadAlias (classes tag).made element path
  let c' ← ((classes tag).calls element station).foldlM (loadCall c.count)
    { c with count := c.count + 1 }
  return (c', ⟨c.count, tag, id, mAlias, (classes tag).links element⟩)

/-- A source of a kind is made and loaded, unless there are too many; it is not yet in the list. -/
def loadKind (c : DataConfig) (kind : SourceKind) (line : UInt32) (element : ConfigXml)
    (path : String) (station : Bool) : Except ConfigStop (DataConfig × ConfSource) :=
  if kind.max ≤ c.max kind.tag then .error (.error ⟨kind.error, line, ""⟩)
  else (c.next kind.tag).loadSource classes kind.tag (c.max kind.tag) element path station

/-- A turn of the loop of `loadIO` and of `loadCalc`. -/
def loadItem (kinds : List SourceKind) (unknown : ConfigXml → RError) (path : String)
    (station : Bool) (c : DataConfig) (obj : ConfigXml) : Except ConfigStop DataConfig :=
  match kinds.find? fun kind => kind.tag = obj.name with
  | none => .error (.error (unknown obj))
  | some kind => do
      let (c, source) ← c.loadKind classes kind 0 obj path station
      return c.push source

/-- `rDataConfig::loadIO`. -/
def loadIo (c : DataConfig) (root : ConfigXml) (station : Bool) (path : String) :
    Except ConfigStop DataConfig :=
  match root.firstChildElement "io" with
  | none => .ok c
  | some io =>
      io.children.foldlM (loadItem classes ioKinds (fun obj => ⟨.calcUnknowIo, obj.getLineNum, ""⟩)
        path station) c

/-- `rDataConfig::loadCalc`. -/
def loadCalc (c : DataConfig) (root : ConfigXml) (station : Bool) (path : String) :
    Except ConfigStop DataConfig :=
  match root.firstChildElement "calculate" with
  | none => .ok c
  | some calculate =>
      calculate.children.foldlM (loadItem classes calcKinds
        (fun obj => ⟨.unknowCalc, obj.getLineNum, obj.name⟩) path station) c

/-- What is loaded within the element of a source. -/
def loadParts (c : DataConfig) (element : ConfigXml) (mAlias : String) :
    Except ConfigStop DataConfig := do
  let c ← c.loadIo classes element true (mAlias ++ ".io")
  c.loadCalc classes element true (mAlias ++ ".obj")

/-- A turn of the loop of `loadStream`. -/
def loadStreamItem (path : String) (c : DataConfig) (element : ConfigXml) :
    Except ConfigStop DataConfig := do
  let (c, stream) ← c.loadKind classes streamKind element.getLineNum element path true
  let c ← c.loadParts classes element stream.mAlias
  return c.push stream

/-- `rDataConfig::loadStream`. -/
def loadStream (c : DataConfig) (root : ConfigXml) (path : String) : Except ConfigStop DataConfig :=
  match root.firstChildElement "streams" with
  | none => .error (.error ⟨.streamsNF, root.getLineNum, ""⟩)
  | some streams => (streams.childElements "stream").foldlM (loadStreamItem classes path) c

/-- A turn of the loop of `LoadStation`. -/
def loadStationItem (c : DataConfig) (element : ConfigXml) : Except ConfigStop DataConfig := do
  let (c, station) ← c.loadKind classes stationKind element.getLineNum element "" false
  let c ← c.loadParts classes element station.mAlias
  let c ← c.loadStream classes element station.mAlias
  return c.push station

/-- `rDataConfig::LoadStation`. -/
def loadStation (c : DataConfig) (root : ConfigXml) : Except ConfigStop DataConfig :=
  match root.firstChildElement "stations" with
  | none => .error (.error ⟨.stationsNF, root.getLineNum, ""⟩)
  | some stations => (stations.childElements "station").foldlM (loadStationItem classes) c

/-- A turn of the loop of `LoadVariable`; a variable has no number of its own. -/
def loadVariableItem (c : DataConfig) (element : ConfigXml) : Except ConfigStop DataConfig := do
  let (c, source) ← c.loadSource classes "variable" 0 element "var" false
  return c.push source

/-- `rDataConfig::LoadVariable`. -/
def loadVariable (c : DataConfig) (root : ConfigXml) : Except ConfigStop DataConfig :=
  match root.firstChildElement "variables" with
  | none => .ok c
  | some vars => (vars.childElements "variable").foldlM (loadVariableItem classes) c

/-- A turn of the loop of `loadReport`: a report has links, and is no source. -/
def loadReportItem (c : DataConfig) (element : ConfigXml) : Except ConfigStop DataConfig := do
  let (c, _) ← c.loadSource classes "report" 0 element "" false
  return c

/-- `rDataConfig::loadReport`. -/
def loadReport (c : DataConfig) (root : ConfigXml) : Except ConfigStop DataConfig :=
  match root.firstChildElement "reportsystem" with
  | none => .ok c
  | some reportsystem =>
      match reportsystem.firstChildElement "reports" with
      | none => .error (.error ⟨.noReports, root.getLineNum, ""⟩)
      | some reports => (reports.childElements "report").foldlM (loadReportItem classes) c

/-- `rDataConfig::LoadConfig`. -/
def loadConfig (c : DataConfig) (root : ConfigXml) : Except ConfigStop DataConfig :=
  match root.firstChildElement "config" with
  | none => .error (.error ⟨.config, root.getLineNum, ""⟩)
  | some config => do
      let c ← c.loadIo classes config false "io"
      let c ← c.loadCalc classes config false "obj"
      let c ← c.loadVariable classes config
      let c ← c.loadStation classes config
      c.loadReport classes config

/-- `rDataConfig` when it begins. -/
def empty : DataConfig := ⟨fun _ => 0, 0, fun _ => {}, [], []⟩

/-! ### What loading keeps -/

/-- All kinds of sources that are counted. -/
def kinds : List SourceKind := ioKinds ++ calcKinds ++ [streamKind, stationKind]

/-- The source is counted with those of its kind. -/
def Counted (s : ConfSource) : Prop := s.tag ≠ "variable"

instance (s : ConfSource) : Decidable (Counted s) := inferInstanceAs (Decidable (_ ≠ _))

/-- A link that is not resolved, whose texts are in lower case. -/
structure LinkOk (l : ConfLink) : Prop where
  source : l.source = none
  mAlias : l.mAlias.toLower = l.mAlias
  param : l.param.toLower = l.param

/-- What holds of the sources in the list and of those whose parts are being loaded: they are
objects of their own, those of a kind have different numbers below the bound of the kind, and no
link is resolved. -/
structure Inv (c : DataConfig) (pending : List ConfSource) : Prop where
  objects : ((pending ++ c.listSource).map ConfSource.object).Nodup
  made : ∀ s ∈ pending ++ c.listSource, s.object < c.count
  ids : (((pending ++ c.listSource).filter Counted).map fun s => (s.tag, s.id)).Nodup
  lt : ∀ s ∈ pending ++ c.listSource, Counted s → s.id < c.max s.tag
  bound : ∀ kind ∈ kinds, c.max kind.tag ≤ kind.max
  links : ∀ key, LinkOk (c.link key)

/-- The links were changed at most, and are as they should be if they were so. -/
structure LinksOnly (c c' : DataConfig) : Prop where
  max : c'.max = c.max
  count : c'.count = c.count
  listSource : c'.listSource = c.listSource
  links : (∀ key, LinkOk (c.link key)) → ∀ key, LinkOk (c'.link key)

lemma LinksOnly.refl (c : DataConfig) : LinksOnly c c := ⟨rfl, rfl, rfl, id⟩

lemma LinksOnly.trans {c₁ c₂ c₃ : DataConfig} (h : LinksOnly c₁ c₂) (h' : LinksOnly c₂ c₃) :
    LinksOnly c₁ c₃ :=
  ⟨h'.max.trans h.max, h'.count.trans h.count, h'.listSource.trans h.listSource,
    fun hc => h'.links (h.links hc)⟩

lemma linksOnly_setLink (c : DataConfig) (key : ℕ × ℕ) {f : ConfLink → ConfLink}
    (hf : (∀ key, LinkOk (c.link key)) → LinkOk (f (c.link key))) :
    LinksOnly c (c.setLink key f) := by
  refine ⟨rfl, rfl, rfl, fun hc k => ?_⟩
  by_cases hk : k = key
  · rw [hk, setLink_self]
    exact hf hc
  · rw [setLink_of_ne hk]
    exact hc k

end DataConfig

/-- A character in lower case that is put at the end of a text in lower case. -/
lemma toLower_push {s : String} {ch : Char} (hs : s.toLower = s) (hch : ch.toLower = ch) :
    (s.push ch).toLower = s.push ch := by
  refine Lower.toLower_eq_self fun c hc => ?_
  rw [String.toList_push] at hc
  rcases List.mem_append.mp hc with hc | hc
  · exact Lower.toLower_of_mem hs c hc
  · rw [List.mem_singleton.mp hc]
    exact hch

/-- The parts of a tag in lower case are so. -/
lemma splitTag_lower {inParam : Bool} {parts parts' : String × String} {tag : List Char}
    (h : splitTag inParam parts tag = some parts') (htag : ∀ ch ∈ tag, ch.toLower = ch)
    (halias : parts.1.toLower = parts.1) (hparam : parts.2.toLower = parts.2) :
    parts'.1.toLower = parts'.1 ∧ parts'.2.toLower = parts'.2 := by
  induction tag generalizing inParam parts with
  | nil =>
      cases inParam <;> cases h <;> exact ⟨halias, hparam⟩
  | cons ch tag ih =>
      have hch := htag ch List.mem_cons_self
      have hrest : ∀ ch ∈ tag, ch.toLower = ch := fun ch hmem =>
        htag ch (List.mem_cons_of_mem _ hmem)
      cases inParam with
      | false =>
          rw [splitTag] at h
          split_ifs at h
          · exact ih h hrest halias hparam
          · exact ih h hrest (toLower_push halias hch) hparam
      | true =>
          rw [splitTag] at h
          split_ifs at h
          exact ih h hrest halias (toLower_push hparam hch)

/-- Loading a link keeps it in lower case and unresolved. -/
lemma ConfLink.loadFromXML_ok {l l' : ConfLink} {element : ConfigXml}
    (h : l.loadFromXML element = .ok l') (hl : DataConfig.LinkOk l) : DataConfig.LinkOk l' := by
  simp only [ConfLink.loadFromXML] at h
  split_ifs at h
  cases hsplit : splitTag false (l.mAlias, l.param)
      ((element.getAttribute "alias").getD "").toLower.toList with
  | none =>
      rw [hsplit] at h
      cases h
  | some parts =>
      rw [hsplit] at h
      cases h
      have htag : ∀ ch ∈ ((element.getAttribute "alias").getD "").toLower.toList,
          ch.toLower = ch := Lower.toLower_of_mem (Lower.toLower_toLower _)
      obtain ⟨halias, hparam⟩ := splitTag_lower hsplit htag hl.mAlias hl.param
      exact ⟨hl.source, halias, hparam⟩

namespace DataConfig

lemma loadLink_linksOnly {c c' : DataConfig} {key : ℕ × ℕ} {element : Option ConfigXml}
    {required : Bool} (h : c.loadLink key element required = .ok c') : LinksOnly c c' := by
  have hfirst : LinksOnly c (c.setLink key fun l => { l with source := none }) :=
    linksOnly_setLink c key fun hc => ⟨rfl, (hc key).mAlias, (hc key).param⟩
  cases element with
  | none =>
      simp only [loadLink] at h
      split_ifs at h
      cases h
      exact hfirst
  | some element =>
      obtain ⟨l, hl, h⟩ := Result.bind_eq_ok.mp h
      cases h
      have hsecond := linksOnly_setLink (f := fun _ => l)
        (c.setLink key fun l => { l with source := none }) key
        fun hc => ConfLink.loadFromXML_ok hl (hc key)
      exact hfirst.trans ⟨rfl, rfl, rfl, hsecond.links⟩

lemma loadShadowLink_linksOnly {c c' : DataConfig} {key mainlink : ℕ × ℕ}
    {element : Option ConfigXml} {name : String} (hname : name.toLower = name)
    (h : c.loadShadowLink key element mainlink name = .ok c') : LinksOnly c c' := by
  cases element with
  | none =>
      cases h
      have hset := linksOnly_setLink (f := fun l => { l with
          mAlias := (c.link mainlink).mAlias, fullTag := (c.link mainlink).mAlias ++ ":" ++ name
          param := name, lineNum := (c.link mainlink).lineNum }) c key
        fun hc => ⟨(hc key).source, (hc mainlink).mAlias, hname⟩
      exact ⟨rfl, rfl, rfl, hset.links⟩
  | some element =>
      simp only [loadShadowLink] at h
      split_ifs at h
      · exact loadLink_linksOnly h
      · exact loadLink_linksOnly h

lemma defaultParam_linksOnly (c : DataConfig) (key : ℕ × ℕ) {name : String}
    (hname : name.toLower = name) : LinksOnly c (c.defaultParam key name) := by
  refine linksOnly_setLink c key fun hc => ?_
  split_ifs
  · exact ⟨(hc key).source, (hc key).mAlias, hname⟩
  · exact hc key

/-- The calls of a class change links only. -/
lemma loadCall_linksOnly {object : ℕ} {c c' : DataConfig} {call : LinkCall}
    (h : c.loadCall object call = .ok c') : LinksOnly c c' := by
  cases call with
  | link slot element required => exact loadLink_linksOnly h
  | shadow slot element mainlink name => exact loadShadowLink_linksOnly name.2 h
  | param slot name =>
      cases h
      exact defaultParam_linksOnly c _ name.2
  | fail err => cases h

variable {classes : String → SourceClass}

/-- What is made of an element: an object of its own, and links. -/
lemma loadSource_spec {c c' : DataConfig} {tag path : String} {id : ℕ} {element : ConfigXml}
    {station : Bool} {s : ConfSource}
    (h : c.loadSource classes tag id element path station = .ok (c', s)) :
    LinksOnly { c with count := c.count + 1 } c' ∧ s.object = c.count ∧ s.tag = tag ∧
      s.id = id := by
  obtain ⟨mAlias, -, h⟩ := Result.bind_eq_ok.mp h
  obtain ⟨c₁, hcalls, h⟩ := Result.bind_eq_ok.mp h
  cases h
  exact ⟨Result.foldlM_keeps
    (P := fun c₂ => LinksOnly { c with count := c.count + 1 } c₂)
    (fun _ _ _ _ hcall hc => hc.trans (loadCall_linksOnly hcall)) hcalls (LinksOnly.refl _),
    rfl, rfl, rfl⟩

/-- An object that is made has a number that no other one has. -/
lemma Inv.cons {c c' : DataConfig} {pending : List ConfSource} (h : c.Inv pending) {s : ConfSource}
    (hlinks : LinksOnly { c with count := c.count + 1 } c') (hobject : s.object = c.count)
    (hids : Counted s → ∀ s' ∈ pending ++ c.listSource, Counted s' → s'.tag = s.tag → s'.id ≠ s.id)
    (hlt : Counted s → s.id < c.max s.tag) : c'.Inv (s :: pending) := by
  obtain ⟨hmax, hcount, hlist, hkeep⟩ := hlinks
  refine ⟨?_, fun s' hs' => ?_, ?_, fun s' hs' hcounted => ?_, fun kind hkind => ?_, hkeep h.links⟩
  · rw [List.cons_append, List.map_cons, hlist, List.nodup_cons, hobject]
    refine ⟨fun hmem => ?_, h.objects⟩
    obtain ⟨s', hs', heq⟩ := List.mem_map.mp hmem
    exact (h.made s' hs').ne heq
  · rw [hcount]
    rw [List.cons_append, hlist] at hs'
    rcases List.mem_cons.mp hs' with rfl | hs'
    · exact hobject.le.trans_lt (Nat.lt_succ_self _)
    · exact (h.made s' hs').trans (Nat.lt_succ_self _)
  · rw [List.cons_append, hlist]
    by_cases hcounted : Counted s
    · rw [List.filter_cons_of_pos (by simpa using hcounted), List.map_cons, List.nodup_cons]
      refine ⟨fun hmem => ?_, h.ids⟩
      obtain ⟨s', hs', heq⟩ := List.mem_map.mp hmem
      obtain ⟨hs', hcounted'⟩ := List.mem_filter.mp hs'
      obtain ⟨htag, hid⟩ := Prod.mk.inj heq
      exact hids hcounted s' hs' (of_decide_eq_true hcounted') htag hid
    · rw [List.filter_cons_of_neg (by simpa using hcounted)]
      exact h.ids
  · rw [hmax]
    rw [List.cons_append, hlist] at hs'
    rcases List.mem_cons.mp hs' with rfl | hs'
    · exact hlt hcounted
    · exact h.lt s' hs' hcounted
  · rw [hmax]
    exact h.bound kind hkind

/-- The kinds differ by their names, none of which is the one of a variable. -/
lemma kinds_tag : (kinds.map SourceKind.tag).Nodup ∧ ∀ kind ∈ kinds, kind.tag ≠ "variable" := by
  decide

lemma streamKind_mem : streamKind ∈ kinds := List.mem_append_right _ List.mem_cons_self

lemma stationKind_mem : stationKind ∈ kinds :=
  List.mem_append_right _ (List.mem_cons_of_mem _ List.mem_cons_self)

/-- The next number of a kind. -/
lemma Inv.next {c : DataConfig} {pending : List ConfSource} (h : c.Inv pending) {kind : SourceKind}
    (hkind : kind ∈ kinds) (hmax : c.max kind.tag < kind.max) : (c.next kind.tag).Inv pending := by
  have hle : ∀ tag, c.max tag ≤ (c.next kind.tag).max tag := by
    intro tag
    by_cases htag : tag = kind.tag
    · rw [htag, next_self]
      exact Nat.le_succ _
    · rw [next_of_ne htag]
  refine ⟨h.objects, h.made, h.ids, fun s hs hcounted => (h.lt s hs hcounted).trans_le (hle _),
    fun kind' hkind' => ?_, h.links⟩
  by_cases htag : kind'.tag = kind.tag
  · obtain rfl := List.inj_on_of_nodup_map kinds_tag.1 hkind' hkind htag
    rw [next_self]
    exact hmax
  · rw [next_of_ne htag]
    exact h.bound kind' hkind'

/-- A source of a kind is loaded. -/
lemma loadKind_inv {c c' : DataConfig} {pending : List ConfSource} {kind : SourceKind}
    {line : UInt32} {element : ConfigXml} {path : String} {station : Bool} {s : ConfSource}
    (hkind : kind ∈ kinds) (h : c.Inv pending)
    (hload : c.loadKind classes kind line element path station = .ok (c', s)) :
    c'.Inv (s :: pending) := by
  rw [loadKind] at hload
  split_ifs at hload with hmax
  obtain ⟨hlinks, hobject, htag, hid⟩ := loadSource_spec hload
  refine (h.next hkind (Nat.lt_of_not_le hmax)).cons hlinks hobject
    (fun _ s' hs' hcounted htag' => ?_) fun _ => ?_
  · rw [hid]
    have hlt := h.lt s' hs' hcounted
    rw [htag', htag] at hlt
    exact hlt.ne
  · rw [htag, hid, next_self]
    exact Nat.lt_succ_self _

/-- A source that is not counted is loaded. -/
lemma loadSource_inv {c c' : DataConfig} {pending : List ConfSource} {element : ConfigXml}
    {path : String} {station : Bool} {s : ConfSource} (h : c.Inv pending)
    (hload : c.loadSource classes "variable" 0 element path station = .ok (c', s)) :
    c'.Inv (s :: pending) := by
  obtain ⟨hlinks, hobject, htag, -⟩ := loadSource_spec hload
  exact h.cons hlinks hobject (fun hcounted => absurd htag hcounted)
    fun hcounted => absurd htag hcounted

/-- A source goes to the list. -/
lemma Inv.push {c : DataConfig} {pending : List ConfSource} {s : ConfSource}
    (h : c.Inv (s :: pending)) : (c.push s).Inv pending := by
  have hperm : (pending ++ (c.listSource ++ [s])).Perm (s :: pending ++ c.listSource) := by
    rw [← List.append_assoc]
    exact List.perm_append_singleton s (pending ++ c.listSource)
  refine ⟨(hperm.map _).nodup_iff.mpr h.objects, fun s' hs' => h.made s' (hperm.mem_iff.mp hs'),
    ((hperm.filter _).map _).nodup_iff.mpr h.ids,
    fun s' hs' => h.lt s' (hperm.mem_iff.mp hs'), h.bound, h.links⟩

/-- An object that is no source changes nothing. -/
lemma Inv.grow {c c' : DataConfig} {pending : List ConfSource} (h : c.Inv pending)
    (hlinks : LinksOnly { c with count := c.count + 1 } c') : c'.Inv pending := by
  obtain ⟨hmax, hcount, hlist, hkeep⟩ := hlinks
  refine ⟨hlist ▸ h.objects, fun s hs => ?_, hlist ▸ h.ids, fun s hs => ?_, fun kind hkind => ?_,
    hkeep h.links⟩
  · rw [hcount]
    rw [hlist] at hs
    exact (h.made s hs).trans (Nat.lt_succ_self _)
  · rw [hmax]
    rw [hlist] at hs
    exact h.lt s hs
  · rw [hmax]
    exact h.bound kind hkind

variable {pending : List ConfSource} {c c' : DataConfig}

lemma loadItem_inv {kinds' : List SourceKind} (hkinds : kinds' ⊆ kinds)
    {unknown : ConfigXml → RError} {path : String} {station : Bool} {obj : ConfigXml}
    (hload : c.loadItem classes kinds' unknown path station obj = .ok c') (h : c.Inv pending) :
    c'.Inv pending := by
  rw [loadItem] at hload
  cases hfind : kinds'.find? fun kind => kind.tag = obj.name with
  | none =>
      rw [hfind] at hload
      cases hload
  | some kind =>
      rw [hfind] at hload
      obtain ⟨⟨c₁, s⟩, hkind, hload⟩ := Result.bind_eq_ok.mp hload
      cases hload
      exact (loadKind_inv (hkinds (List.mem_of_find?_eq_some hfind)) h hkind).push

lemma loadIo_inv {root : ConfigXml} {station : Bool} {path : String}
    (hload : c.loadIo classes root station path = .ok c') (h : c.Inv pending) :
    c'.Inv pending := by
  rw [loadIo] at hload
  cases hio : root.firstChildElement "io" with
  | none =>
      rw [hio] at hload
      cases hload
      exact h
  | some io =>
      rw [hio] at hload
      have hkinds : ioKinds ⊆ kinds := fun _ hk =>
        List.mem_append_left _ (List.mem_append_left _ hk)
      exact Result.foldlM_keeps (fun _ _ _ _ hitem hc => loadItem_inv hkinds hitem hc) hload h

lemma loadCalc_inv {root : ConfigXml} {station : Bool} {path : String}
    (hload : c.loadCalc classes root station path = .ok c') (h : c.Inv pending) :
    c'.Inv pending := by
  rw [loadCalc] at hload
  cases hcalc : root.firstChildElement "calculate" with
  | none =>
      rw [hcalc] at hload
      cases hload
      exact h
  | some calculate =>
      rw [hcalc] at hload
      have hkinds : calcKinds ⊆ kinds := fun _ hk =>
        List.mem_append_left _ (List.mem_append_right _ hk)
      exact Result.foldlM_keeps (fun _ _ _ _ hitem hc => loadItem_inv hkinds hitem hc) hload h

lemma loadParts_inv {element : ConfigXml} {mAlias : String}
    (hload : c.loadParts classes element mAlias = .ok c') (h : c.Inv pending) :
    c'.Inv pending := by
  obtain ⟨c₁, hio, hcalc⟩ := Result.bind_eq_ok.mp hload
  exact loadCalc_inv hcalc (loadIo_inv hio h)

lemma loadStreamItem_inv {path : String} {element : ConfigXml}
    (hload : c.loadStreamItem classes path element = .ok c') (h : c.Inv pending) :
    c'.Inv pending := by
  obtain ⟨⟨c₁, stream⟩, hkind, hload⟩ := Result.bind_eq_ok.mp hload
  obtain ⟨c₂, hparts, hload⟩ := Result.bind_eq_ok.mp hload
  cases hload
  exact (loadParts_inv hparts (loadKind_inv streamKind_mem h hkind)).push

lemma loadStream_inv {root : ConfigXml} {path : String}
    (hload : c.loadStream classes root path = .ok c') (h : c.Inv pending) : c'.Inv pending := by
  rw [loadStream] at hload
  cases hstreams : root.firstChildElement "streams" with
  | none =>
      rw [hstreams] at hload
      cases hload
  | some streams =>
      rw [hstreams] at hload
      exact Result.foldlM_keeps (fun _ _ _ _ hitem hc => loadStreamItem_inv hitem hc) hload h

lemma loadStationItem_inv {element : ConfigXml}
    (hload : c.loadStationItem classes element = .ok c') (h : c.Inv pending) :
    c'.Inv pending := by
  obtain ⟨⟨c₁, station⟩, hkind, hload⟩ := Result.bind_eq_ok.mp hload
  obtain ⟨c₂, hparts, hload⟩ := Result.bind_eq_ok.mp hload
  obtain ⟨c₃, hstreams, hload⟩ := Result.bind_eq_ok.mp hload
  cases hload
  exact (loadStream_inv hstreams
    (loadParts_inv hparts (loadKind_inv stationKind_mem h hkind))).push

lemma loadStation_inv {root : ConfigXml} (hload : c.loadStation classes root = .ok c')
    (h : c.Inv pending) : c'.Inv pending := by
  rw [loadStation] at hload
  cases hstations : root.firstChildElement "stations" with
  | none =>
      rw [hstations] at hload
      cases hload
  | some stations =>
      rw [hstations] at hload
      exact Result.foldlM_keeps (fun _ _ _ _ hitem hc => loadStationItem_inv hitem hc) hload h

lemma loadVariable_inv {root : ConfigXml} (hload : c.loadVariable classes root = .ok c')
    (h : c.Inv pending) : c'.Inv pending := by
  rw [loadVariable] at hload
  cases hvars : root.firstChildElement "variables" with
  | none =>
      rw [hvars] at hload
      cases hload
      exact h
  | some vars =>
      rw [hvars] at hload
      refine Result.foldlM_keeps (P := fun c => c.Inv pending) (fun _ _ _ _ hitem hc => ?_)
        hload h
      obtain ⟨⟨c₁, s⟩, hsource, hitem⟩ := Result.bind_eq_ok.mp hitem
      cases hitem
      exact (loadSource_inv hc hsource).push

lemma loadReport_inv {root : ConfigXml} (hload : c.loadReport classes root = .ok c')
    (h : c.Inv pending) : c'.Inv pending := by
  rw [loadReport] at hload
  cases hsystem : root.firstChildElement "reportsystem" with
  | none =>
      rw [hsystem] at hload
      cases hload
      exact h
  | some reportsystem =>
      cases hreports : reportsystem.firstChildElement "reports" with
      | none =>
          simp only [hsystem, hreports] at hload
          cases hload
      | some reports =>
          simp only [hsystem, hreports] at hload
          refine Result.foldlM_keeps (P := fun c => c.Inv pending) (fun _ _ _ _ hitem hc => ?_)
            hload h
          obtain ⟨⟨c₁, s⟩, hsource, hitem⟩ := Result.bind_eq_ok.mp hitem
          cases hitem
          exact hc.grow (loadSource_spec hsource).1

/-- A configuration that is loaded. -/
lemma loadConfig_inv {root : ConfigXml} (hload : c.loadConfig classes root = .ok c')
    (h : c.Inv pending) : c'.Inv pending := by
  rw [loadConfig] at hload
  cases hconfig : root.firstChildElement "config" with
  | none =>
      rw [hconfig] at hload
      cases hload
  | some config =>
      rw [hconfig] at hload
      obtain ⟨c₁, hio, hload⟩ := Result.bind_eq_ok.mp hload
      obtain ⟨c₂, hcalc, hload⟩ := Result.bind_eq_ok.mp hload
      obtain ⟨c₃, hvars, hload⟩ := Result.bind_eq_ok.mp hload
      obtain ⟨c₄, hstation, hreport⟩ := Result.bind_eq_ok.mp hload
      exact loadReport_inv hreport (loadStation_inv hstation (loadVariable_inv hvars
        (loadCalc_inv hcalc (loadIo_inv hio h))))

lemma empty_inv : empty.Inv [] := by
  have hlower : "".toLower = "" := Lower.toLower_eq_self (by simp)
  exact ⟨List.nodup_nil, fun _ hs => absurd hs List.not_mem_nil, List.nodup_nil,
    fun _ hs => absurd hs List.not_mem_nil, fun _ _ => Nat.zero_le _,
    fun _ => ⟨rfl, hlower, hlower⟩⟩

end DataConfig

end Tritonn

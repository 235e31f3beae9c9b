import Tritonn.Data.Precision
import Tritonn.Data.Source
import Tritonn.Lib.Keyed
import Tritonn.Lib.Result
import Tritonn.Prove.Machine
import Tritonn.Shared.BitsArray

/-!
`rProve::loadFromXML` of `src/tritonn/data/prove.cpp`, with what it calls in `source.cpp`,
`link.cpp`, `limit.cpp`, `data_module.cpp`, `data_config.cpp` and `xml_util.cpp`.

* `ProveConfig` is what is loaded of a prover, and `LoadStop` how loading may end otherwise;
* the stages of `loadFromXML` are functions of their own, each on what the one before it left;
* `AsInFile` says that what was loaded is what the element says, and `LoadsAsWritten` that no
  element is missing where it is used and that a success is `AsInFile`;
* `loadsAsWritten_iff` says for which elements that is so;
* `has_prove`: the setup of a loaded prover has no flag, whatever its element says.

Lines of the document and the texts of the events are left out.
-/

namespace Tritonn

/-- What loading uses of the libraries: `strtoul`, `QueryIntText` and `QueryDoubleText`. -/
structure ConfigNumbers extends XmlNumbers where
  toDouble : String → Option LREAL

/-- `QueryIntText` reads the decimal numbers of an `int`. -/
def ConfigNumbers.ReadsInt (xml : ConfigNumbers) : Prop :=
  ∀ n < 2 ^ 31, xml.toInt (toString n) = some (UInt32.ofNat n)

/-- How loading may end before its end: an error of `rError`, a member of an element that is
missing, or a `std::string` of an attribute that is missing. -/
inductive LoadStop where
  | error (code : UInt32) (text : String)
  | nullElement
  | nullText
  deriving DecidableEq, Repr

namespace LoadStop

/-- `DATACFGERR_CONFIG`. -/
def config : UInt32 := 102

/-- `DATACFGERR_LINK`. -/
def link : UInt32 := 113

/-- `DATACFGERR_LINKNF`. -/
def linknf : UInt32 := 114

/-- `DATACFGERR_LIMIT`. -/
def limit : UInt32 := 151

/-- `DATACFGERR_INVALID_NAME`. -/
def invalidName : UInt32 := 195

/-- `DATACFGERR_INVALID_MODULELINK`. -/
def invalidModulelink : UInt32 := 196

/-- `DATACFGERR_PORVE_MISSINGMODULE`. -/
def porveMissingmodule : UInt32 := 211

end LoadStop

namespace XmlElement

variable (xml : ConfigNumbers)

/-- `XmlUtils::getAttributeString`. -/
def getAttributeString (e : XmlElement) (name d : String) : String := (e.getAttribute name).getD d

/-- `QueryDoubleText`; `none` if there is no element. -/
def queryDoubleText (e : Option XmlElement) : Option LREAL :=
  (e.bind getText).bind xml.toDouble

/-- `QueryIntText`; `none` if there is no element. -/
def queryIntText (e : Option XmlElement) : Option UInt32 := (e.bind getText).bind xml.toInt

/-- `XmlUtils::getTextLREAL`. -/
def getTextLREAL (e : Option XmlElement) (d : LREAL) : LREAL := (queryDoubleText xml e).getD d

/-- `XmlUtils::getTextUDINT`. -/
def getTextUDINT (e : Option XmlElement) (d : UInt32) : UInt32 := (queryIntText xml e).getD d

/-- The element of which a member is used. -/
def deref : Option XmlElement → Except LoadStop XmlElement
  | none => .error .nullElement
  | some e => .ok e

end XmlElement

/-- `String_tolower` of an attribute. -/
def lowerAttribute : Option String → Except LoadStop String
  | none => .error .nullText
  | some s => .ok s.toLower

/-! ### Limits and links -/

/-- `rLimit::m_flagsSetup`. -/
def Limit.flagsSetup : List BitFlag :=
  [⟨"OFF", 0x0001⟩, ⟨"LOLO", 0x0002⟩, ⟨"LO", 0x0004⟩, ⟨"HI", 0x0008⟩, ⟨"HIHI", 0x0010⟩]

/-- `rCompared::Init`. -/
def CmpUINT.init (value : UInt16) : CmpUINT := ⟨value, value⟩

/-- `rCompared::Init`. -/
def CmpLREAL.init (value : LREAL) : CmpLREAL := ⟨value, value⟩

/-- `rLimit::loadFromXML`. -/
def Limit.loadFromXML (xml : ConfigNumbers) (limit : Limit) (element : XmlElement) : Limit :=
  let strSetup := element.getAttributeString "setup"
    (BitsArray.getNameByBits Limit.flagsSetup 0x0001 "|")
  { limit with
    setup := .init (BitsArray.getValue Limit.flagsSetup strSetup false).1.toUInt16
    hysteresis := .init (XmlElement.getTextLREAL xml (element.firstChildElement "hysteresis") 0)
    lolo := .init (XmlElement.getTextLREAL xml (element.firstChildElement "lolo") 0)
    lo := .init (XmlElement.getTextLREAL xml (element.firstChildElement "lo") 0)
    hi := .init (XmlElement.getTextLREAL xml (element.firstChildElement "hi") 0)
    hihi := .init (XmlElement.getTextLREAL xml (element.firstChildElement "hihi") 0) }

/-- `m_limit.m_setup.Init(rLimit::Setup::OFF)`. -/
def Limit.switchOff (limit : Limit) : Limit := { limit with setup := .init Limit.off }

/-- `rLink`, as far as it is loaded. -/
structure LinkConfig where
  fullTag : String := ""
  aliasName : String := ""
  param : String := ""
  limit : Limit := {}

namespace LinkConfig

/-- The loop of `rLink::loadFromXML`; `isParam` says that `curstr` is `m_param`. -/
def splitTag (link : LinkConfig) (isParam : Bool) : List Char → Except LoadStop LinkConfig
  | [] => .ok link
  | ch :: tag =>
      if ch = ':' then
        if isParam then .error (.error LoadStop.link "tag name is fault")
        else splitTag link true tag
      else if isParam then splitTag { link with param := link.param.push ch } isParam tag
      else splitTag { link with aliasName := link.aliasName.push ch } isParam tag

/-- The limits of a link. -/
def loadLimits (xml : ConfigNumbers) (link : LinkConfig) : Option XmlElement → LinkConfig
  | some limits => { link with limit := link.limit.loadFromXML xml limits }
  | none => { link with limit := link.limit.switchOff }

/-- `rLink::loadFromXML`. -/
def loadFromXML (xml : ConfigNumbers) (link : LinkConfig) (element : XmlElement) :
    Except LoadStop LinkConfig :=
  let fullTag := element.getAttributeString "alias" ""
  if fullTag = "" then .error (.error LoadStop.link "tag is empty")
  else do
    let link ← splitTag { link with fullTag := fullTag.toLower } false fullTag.toLower.toList
    return link.loadLimits xml (element.firstChildElement "limits")

end LinkConfig

/-! ### The prover -/

/-- The links of a prover. -/
inductive ProveLinkName where
  | temp
  | pres
  | dens
  | opened
  | closed
  | openValve
  | closeValve
  | inProgress
  deriving DecidableEq, Repr

namespace ProveLinkName

/-- `m_ioName`, of `XmlName`. -/
def ioName : ProveLinkName → String
  | temp => "temperature"
  | pres => "pressure"
  | dens => "density"
  | opened => "opened"
  | closed => "closed"
  | openValve => "open"
  | closeValve => "close"
  | inProgress => "inprogress"

/-- `m_inputs`. -/
def inputs : List ProveLinkName := [temp, pres, dens, opened, closed]

/-- `m_outputs`. -/
def outputs : List ProveLinkName := [openValve, closeValve, inProgress]

end ProveLinkName

/-- `rProve::m_flagsSetup`. -/
def ProveSetup.flagsSetup : List BitFlag :=
  [⟨"NONE", 0x0000⟩, ⟨"4WAY", 0x0001⟩, ⟨"STABILIZATION", 0x0002⟩, ⟨"NOVALVE", 0x0004⟩,
    ⟨"ONEDETECTOR", 0x0008⟩, ⟨"BOUNCE", 0x0010⟩, ⟨"NOSELECTSTR", 0x0020⟩, ⟨"SIMULATE", 0x0040⟩]

/-- `rProve`, as far as it is loaded, with the links that `rDataConfig::ListLink` gets from it. -/
structure ProveConfig where
  aliasName : String := ""
  descr : UInt32 := 0
  moduleNum : UInt8 := 0xFF
  channel : UInt8 := 0xFF
  setup : CmpUINT := {}
  timers : ProveTimers := {}
  maxStab : StabValues := {}
  link : ProveLinkName → LinkConfig := fun _ => {}
  listLink : List ProveLinkName := []

namespace ProveConfig

variable (xml : ConfigNumbers)

/-- The loop over the limits in `rSource::loadFromXML`: an input or else an output of the name. -/
def loadLimits (p : ProveConfig) : List XmlElement → Except LoadStop ProveConfig
  | [] => .ok p
  | limit :: limits => do
      let ioname ← lowerAttribute (limit.getAttribute "name")
      match (ProveLinkName.inputs ++ ProveLinkName.outputs).find? fun item =>
          item.ioName = ioname with
      | none => .error (.error LoadStop.limit ioname)
      | some item =>
          let link := { p.link item with limit := (p.link item).limit.loadFromXML xml limit }
          loadLimits { p with link := Function.update p.link item link } limits

/-- `rSource::loadFromXML`. -/
def sourceLoadFromXML (p : ProveConfig) (pre : String) :
    Option XmlElement → Except LoadStop ProveConfig
  | none => .error (.error LoadStop.config "element is null")
  | some element =>
      match element.getAttribute "name" with
      | none => .error (.error LoadStop.invalidName "")
      | some strAlias =>
          let start := if pre ≠ "" then pre ++ "." else p.aliasName
          let p := { p with
            aliasName := (start ++ strAlias).toLower
            descr := element.getAttributeUDINT xml.toXmlNumbers "description" 0 }
          match element.firstChildElement "limits" with
          | none => .ok p
          | some limits => loadLimits xml p (limits.childElements "limit")

/-- `rDataModule::loadFromXML` of a module without a channel, and the call of it. -/
def moduleLoadFromXML (p : ProveConfig) : Option XmlElement → Except LoadStop ProveConfig
  | none => .error (.error LoadStop.porveMissingmodule "")
  | some element =>
      let p := { p with
        moduleNum := element.getAttributeUSINT xml.toXmlNumbers "module" 0xFF
        channel := element.getAttributeUSINT xml.toXmlNumbers "channel" 0xFF }
      if p.moduleNum = 0xFF then .error (.error LoadStop.invalidModulelink "") else .ok p

/-- `rDataConfig::LoadLink` of a link that is required. -/
def loadLink (p : ProveConfig) (element : Option XmlElement) (name : ProveLinkName) :
    Except LoadStop ProveConfig :=
  match element with
  | none => .error (.error LoadStop.linknf ("source '" ++ (p.link name).fullTag ++ "' is null"))
  | some element => do
      let link ← (p.link name).loadFromXML xml element
      return { p with
        link := Function.update p.link name link
        listLink := p.listLink ++ [name] }

/-- `if (item) if (LoadLink(source->FirstChildElement(XmlName::LINK), link)) return`: the element of
the condition and the one that is used are two. -/
def loadLinkIf (item source : Option XmlElement) (name : ProveLinkName) (p : ProveConfig) :
    Except LoadStop ProveConfig :=
  match item with
  | none => .ok p
  | some _ => do
      let source ← XmlElement.deref source
      p.loadLink xml (source.firstChildElement "link") name

/-- The links of the three values: each is loaded from the element of the temperature. -/
def loadValues (p : ProveConfig) (xmlTemp xmlPres xmlDens : Option XmlElement) :
    Except LoadStop ProveConfig := do
  let p ← loadLinkIf xml xmlTemp xmlTemp .temp p
  let p ← loadLinkIf xml xmlPres xmlTemp .pres p
  loadLinkIf xml xmlDens xmlTemp .dens p

/-- The links of the valve. -/
def loadValve (p : ProveConfig) : Option XmlElement → Except LoadStop ProveConfig
  | none => .ok p
  | some valve => do
      let xmlOpened := valve.firstChildElement "opened"
      let xmlClosed := valve.firstChildElement "closed"
      let p ← loadLinkIf xml xmlOpened xmlOpened .opened p
      loadLinkIf xml xmlClosed xmlClosed .closed p

/-- The timers. -/
def loadTimers (p : ProveConfig) : Option XmlElement → ProveConfig
  | none => p
  | some timers =>
      { p with timers :=
        { tStart := timer timers "start" p.timers.tStart
          tStab := timer timers "stabilize" p.timers.tStab
          tD1 := timer timers "detector_1" p.timers.tD1
          tD2 := timer timers "detector_2" p.timers.tD2
          tVolume := timer timers "volume" p.timers.tVolume
          tValve := timer timers "valve" p.timers.tValve
          tAbort := timer timers "abort" p.timers.tAbort
          tBounce := timer timers "bounce" p.timers.tBounce } }
where
  timer (timers : XmlElement) (name : String) (d : UInt32) : UInt32 :=
    XmlElement.getTextUDINT xml (timers.firstChildElement name) d

/-- The limits of the stabilization: each is read from the element of the timers. -/
def loadStab (p : ProveConfig) (xmlStab xmlTimers : Option XmlElement) :
    Except LoadStop ProveConfig :=
  match xmlStab with
  | none => .ok p
  | some _ => do
      let timers ← XmlElement.deref xmlTimers
      return { p with maxStab :=
        { temp := value timers "temperature" p.maxStab.temp
          pres := value timers "pressure" p.maxStab.pres
          dens := value timers "density" p.maxStab.dens
          freq := value timers "frequency" p.maxStab.freq } }
where
  value (timers : XmlElement) (name : String) (d : LREAL) : LREAL :=
    XmlElement.getTextLREAL xml (timers.firstChildElement name) d

/-- The limits of the links of the valve and of the state are switched off. -/
def switchOff (p : ProveConfig) : ProveConfig :=
  { p with link := fun name =>
    if name ∈ [.openValve, .closeValve, .opened, .closed, .inProgress] then
      { p.link name with limit := (p.link name).limit.switchOff }
    else p.link name }

/-- `strSetup`. -/
def setupText (element : XmlElement) : String :=
  element.getAttributeString "setup" (BitsArray.getNameByBits ProveSetup.flagsSetup
    (ProveSetup.stabilization ||| ProveSetup.bounce).toUInt32 "|")

/-- `rProve::loadFromXML`; the text of the setup is not used. -/
def loadFromXML (p : ProveConfig) (element : XmlElement) (pre : String) :
    Except LoadStop ProveConfig := do
  let _strSetup := setupText element
  let p ← p.sourceLoadFromXML xml pre (some element)
  let p ← p.moduleLoadFromXML xml (element.firstChildElement "io_link")
  let xmlTimers := element.firstChildElement "timers"
  let p ← p.loadValues xml (element.firstChildElement "temperature")
    (element.firstChildElement "pressure") (element.firstChildElement "density")
  let p ← p.loadValve xml (element.firstChildElement "valve")
  let p := p.loadTimers xml xmlTimers
  let p ← p.loadStab xml (element.firstChildElement "stabilize") xmlTimers
  return p.switchOff

end ProveConfig

/-! ### What the element says -/

/-- The element of a value, of `XmlName`. -/
def StabValue.xmlName : StabValue → String
  | .temp => "temperature"
  | .pres => "pressure"
  | .dens => "density"
  | .freq => "frequency"

/-- The timers of a prover. -/
inductive ProveTimer where
  | start
  | stab
  | d1
  | d2
  | volume
  | valve
  | abort
  | bounce
  deriving DecidableEq, Repr

/-- The element of a timer, of `XmlName`. -/
def ProveTimer.xmlName : ProveTimer → String
  | start => "start"
  | stab => "stabilize"
  | d1 => "detector_1"
  | d2 => "detector_2"
  | volume => "volume"
  | valve => "valve"
  | abort => "abort"
  | bounce => "bounce"

/-- One of the timers. -/
def ProveTimers.get (t : ProveTimers) : ProveTimer → UInt32
  | .start => t.tStart
  | .stab => t.tStab
  | .d1 => t.tD1
  | .d2 => t.tD2
  | .volume => t.tVolume
  | .valve => t.tValve
  | .abort => t.tAbort
  | .bounce => t.tBounce

/-- A name in small letters is cut into the name of an object and that of a parameter. -/
structure LinkConfig.Tagged (link : LinkConfig) (tag : String) : Prop where
  fullTag : link.fullTag = tag
  aliasName : ':' ∉ link.aliasName.toList
  param : ':' ∉ link.param.toList
  parts : tag.toList = link.aliasName.toList ∧ link.param = "" ∨
    tag.toList = link.aliasName.toList ++ ':' :: link.param.toList

namespace ProveConfig

variable (xml : ConfigNumbers)

/-- A text gives a timer: it is read as one, or it is the decimal number of one. -/
def GivesTimer (text : String) (v : UInt32) : Prop :=
  xml.toInt text = some v ∨ text = toString v.toNat

/-- A link is linked to the alias in the element `item`. -/
def LinkedTo (p : ProveConfig) (name : ProveLinkName) (item : XmlElement) : Prop :=
  name ∈ p.listLink ∧ ∃ source, item.firstChildElement "link" = some source ∧
    source.getAttributeString "alias" "" ≠ "" ∧
      (p.link name).Tagged (source.getAttributeString "alias" "").toLower

/-- What was loaded is what the element says. -/
structure AsInFile (p : ProveConfig) (element : XmlElement) : Prop where
  temp : ∀ item, element.firstChildElement "temperature" = some item → p.LinkedTo .temp item
  pres : ∀ item, element.firstChildElement "pressure" = some item → p.LinkedTo .pres item
  dens : ∀ item, element.firstChildElement "density" = some item → p.LinkedTo .dens item
  maxStab : ∀ stab, element.firstChildElement "stabilize" = some stab → ∀ q v,
    XmlElement.queryDoubleText xml (stab.firstChildElement q.xmlName) = some v →
      p.maxStab.get q = v
  timers : ∀ timers, element.firstChildElement "timers" = some timers → ∀ t text v,
    (timers.firstChildElement t.xmlName).bind XmlElement.getText = some text →
      GivesTimer xml text v → p.timers.get t = v
  setup : ∃ v, BitsArray.getValue ProveSetup.flagsSetup (setupText element) false = (v, false) ∧
    p.setup.value = v.toUInt16

/-- No element is missing where it is used, and what is loaded is what the element says. -/
structure LoadsAsWritten (element : XmlElement) (pre : String) : Prop where
  noNull : loadFromXML xml {} element pre ≠ .error .nullElement
  asInFile : ∀ p, loadFromXML xml {} element pre = .ok p → p.AsInFile xml element

/-! ### When it does -/

/-- The name of the link in an element, if there is one with at most one colon. -/
def tagOf (item : XmlElement) : Option String :=
  (item.firstChildElement "link").bind fun source =>
    let tag := source.getAttributeString "alias" ""
    if tag = "" ∨ 1 < tag.toLower.toList.count ':' then none else some tag.toLower

/-- Each limit is one of a link. -/
def LimitsKnown (limits : List XmlElement) : Prop :=
  ∀ limit ∈ limits, ∃ ioname, limit.getAttribute "name" = some ioname ∧
    ∃ link ∈ ProveLinkName.inputs ++ ProveLinkName.outputs, link.ioName = ioname.toLower

/-- Loading comes to the links: there are a name and a module, and each limit is one of a link. -/
structure Starts (element : XmlElement) : Prop where
  name : element.getAttribute "name" ≠ none
  limits : ∀ limits, element.firstChildElement "limits" = some limits →
    LimitsKnown (limits.childElements "limit")
  module : ∃ item, element.firstChildElement "io_link" = some item ∧
    item.getAttributeUSINT xml.toXmlNumbers "module" 0xFF ≠ 0xFF

/-- The links of the temperature and of the valve can be loaded. -/
structure Links (element : XmlElement) : Prop where
  temp : ∀ item, element.firstChildElement "temperature" = some item → tagOf item ≠ none
  valve : ∀ valve, element.firstChildElement "valve" = some valve → ∀ key ∈ ["opened", "closed"],
    ∀ item, valve.firstChildElement key = some item → tagOf item ≠ none

/-- The rest of the document does not show the elements that are mixed up, the setup that is not
used and the sign with which timers are read. -/
structure Unmixed (element : XmlElement) : Prop where
  stab : element.firstChildElement "stabilize" ≠ none → element.firstChildElement "timers" ≠ none
  tags : ∀ key ∈ ["pressure", "density"], ∀ item temp,
    element.firstChildElement key = some item →
      element.firstChildElement "temperature" = some temp → tagOf item = tagOf temp
  maxStab : ∀ stab, element.firstChildElement "stabilize" = some stab → ∀ q v,
    XmlElement.queryDoubleText xml (stab.firstChildElement q.xmlName) = some v →
      (XmlElement.queryDoubleText xml ((element.firstChildElement "timers").bind
        (·.firstChildElement q.xmlName))).getD (StabValues.get {} q) = v
  timers : ∀ timers, element.firstChildElement "timers" = some timers → ∀ t, ∀ n < 2 ^ 32,
    (timers.firstChildElement (ProveTimer.xmlName t)).bind XmlElement.getText =
      some (toString n) → 2 ^ 31 ≤ n → xml.toInt (toString n) = some (UInt32.ofNat n)
  setup : ∃ text, element.getAttribute "setup" = some text ∧
    ∀ word ∈ BitsArray.words text, word = "NONE"

/-- Without a temperature there is no pressure and no density; and when nothing stops the loading,
the rest is not mixed up. -/
def Holds (element : XmlElement) : Prop :=
  Starts xml element →
    (element.firstChildElement "temperature" = none →
      element.firstChildElement "pressure" = none ∧ element.firstChildElement "density" = none) ∧
    (Links element → Unmixed xml element)

end ProveConfig

/-! ### A link -/

namespace LinkConfig

/-- Nothing was loaded into the link. -/
def New (link : LinkConfig) : Prop := link.aliasName = "" ∧ link.param = ""

/-- The links differ in their limits only. -/
structure SameTag (link link' : LinkConfig) : Prop where
  fullTag : link'.fullTag = link.fullTag
  aliasName : link'.aliasName = link.aliasName
  param : link'.param = link.param

lemma SameTag.new {link link' : LinkConfig} (h : link.SameTag link') (hnew : link.New) :
    link'.New :=
  ⟨h.aliasName.trans hnew.1, h.param.trans hnew.2⟩

lemma SameTag.tagged {link link' : LinkConfig} (h : link.SameTag link') {tag : String}
    (htag : link.Tagged tag) : link'.Tagged tag where
  fullTag := h.fullTag.trans htag.fullTag
  aliasName := h.aliasName ▸ htag.aliasName
  param := h.param ▸ htag.param
  parts := by
    rw [h.aliasName, h.param]
    exact htag.parts

lemma splitTag_true (link : LinkConfig) (tag : List Char) :
    splitTag link true tag =
      if ':' ∈ tag then .error (.error LoadStop.link "tag name is fault")
      else .ok { link with param := link.param ++ String.ofList tag } := by
  induction tag generalizing link with
  | nil => rw [splitTag, if_neg List.not_mem_nil, String.ofList_nil, String.append_empty]
  | cons ch tag ih =>
      rw [splitTag]
      by_cases hch : ch = ':'
      · rw [if_pos hch, if_pos rfl, if_pos (by rw [hch]; exact List.mem_cons_self)]
      · have hmem : ':' ∈ ch :: tag ↔ ':' ∈ tag := by
          rw [List.mem_cons, or_iff_right (Ne.symm hch)]
        have hpush : link.param.push ch ++ String.ofList tag =
            link.param ++ String.ofList (ch :: tag) := by
          rw [← String.toList_inj]
          simp
        rw [if_neg hch, if_pos rfl, ih]
        simp only [hmem, hpush]

/-- A name with one colon at most is cut at it, and no other name is taken. -/
lemma splitTag_false (link : LinkConfig) (tag : List Char) :
    splitTag link false tag =
      if 1 < tag.count ':' then .error (.error LoadStop.link "tag name is fault")
      else .ok { link with
        aliasName := link.aliasName ++ String.ofList (tag.takeWhile (· ≠ ':'))
        param := link.param ++ String.ofList (tag.dropWhile (· ≠ ':')).tail } := by
  induction tag generalizing link with
  | nil =>
      rw [splitTag, List.count_nil, if_neg (by omega)]
      simp
  | cons ch tag ih =>
      rw [splitTag]
      by_cases hch : ch = ':'
      · subst hch
        rw [if_pos rfl, if_neg Bool.false_ne_true, splitTag_true]
        simp
      · have hcount : (ch :: tag).count ':' = tag.count ':' := List.count_cons_of_ne hch
        have hpush : link.aliasName.push ch ++ String.ofList (tag.takeWhile (· ≠ ':')) =
            link.aliasName ++ String.ofList ((ch :: tag).takeWhile (· ≠ ':')) := by
          rw [← String.toList_inj]
          simp [hch]
        have hdrop : (ch :: tag).dropWhile (· ≠ ':') = tag.dropWhile (· ≠ ':') :=
          List.dropWhile_cons_of_pos (decide_eq_true hch)
        rw [if_neg hch, if_neg Bool.false_ne_true, ih, hcount, hdrop]
        simp only [hpush]

/-- The parts of a name that was cut. -/
lemma tagged_of_count {link : LinkConfig} (hnew : link.New) {tag : String}
    (h : ¬1 < tag.toList.count ':') :
    ({ link with
      fullTag := tag
      aliasName := link.aliasName ++ String.ofList (tag.toList.takeWhile (· ≠ ':'))
      param := link.param ++ String.ofList (tag.toList.dropWhile (· ≠ ':')).tail } :
        LinkConfig).Tagged tag := by
  have hsplit := List.takeWhile_append_dropWhile (p := (· ≠ ':')) (l := tag.toList)
  have hfront : ':' ∉ tag.toList.takeWhile (· ≠ ':') := fun hmem => by
    simpa using List.mem_takeWhile_imp hmem
  have hsum : (tag.toList.takeWhile (· ≠ ':')).count ':' +
      (tag.toList.dropWhile (· ≠ ':')).count ':' = tag.toList.count ':' := by
    rw [← List.count_append, hsplit]
  have hname (s : List Char) : (link.aliasName ++ String.ofList s).toList = s := by
    rw [hnew.1, String.empty_append, String.toList_ofList]
  have hparam (s : List Char) : (link.param ++ String.ofList s).toList = s := by
    rw [hnew.2, String.empty_append, String.toList_ofList]
  cases hback : tag.toList.dropWhile (· ≠ ':') with
  | nil =>
      rw [hback, List.append_nil] at hsplit
      refine ⟨rfl, by rwa [hname], ?_, .inl ⟨by rw [hname, hsplit], ?_⟩⟩
      · rw [hparam]
        exact List.not_mem_nil
      · rw [hnew.2]
        rfl
  | cons ch back =>
      have hch : ch = ':' := by
        have hhead := List.head?_dropWhile_not (· ≠ ':') tag.toList
        rw [hback] at hhead
        simpa using hhead
      subst hch
      have hno : ':' ∉ back := by
        rw [← List.count_eq_zero]
        rw [hback, List.count_cons_self, List.count_eq_zero.mpr hfront] at hsum
        omega
      rw [hback] at hsplit
      refine ⟨rfl, by rwa [hname], by rwa [hparam], .inr ?_⟩
      rw [hname, hparam]
      exact hsplit.symm

/-- A link that can be loaded has the parts of its name then. -/
lemma loadFromXML_ok (xml : ConfigNumbers) {link : LinkConfig} (hnew : link.New)
    {element : XmlElement} (hempty : element.getAttributeString "alias" "" ≠ "")
    (hcount : ¬1 < (element.getAttributeString "alias" "").toLower.toList.count ':') :
    ∃ link', link.loadFromXML xml element = .ok link' ∧
      link'.Tagged (element.getAttributeString "alias" "").toLower := by
  have htagged := tagged_of_count hnew hcount
  rw [loadFromXML]
  simp only [if_neg hempty, splitTag_false, if_neg hcount, Result.ok_bind, Result.pure_eq_ok,
    Except.ok.injEq, exists_eq_left']
  refine SameTag.tagged ?_ htagged
  cases element.firstChildElement "limits" <;> exact ⟨rfl, rfl, rfl⟩

/-- The name is missing, or it has two colons. -/
lemma loadFromXML_error (xml : ConfigNumbers) (link : LinkConfig) {element : XmlElement}
    (h : element.getAttributeString "alias" "" = "" ∨
      1 < (element.getAttributeString "alias" "").toLower.toList.count ':') :
    ∃ text, link.loadFromXML xml element = .error (.error LoadStop.link text) := by
  rw [loadFromXML]
  by_cases hempty : element.getAttributeString "alias" "" = ""
  · exact ⟨_, if_pos hempty⟩
  · have hcount := h.resolve_left hempty
    refine ⟨"tag name is fault", ?_⟩
    simp only [if_neg hempty, splitTag_false, if_pos hcount, Result.error_bind]

end LinkConfig

/-! ### The stages -/

namespace ProveConfig

variable {xml : ConfigNumbers}

/-- A prover to which the links in `tags` were loaded, and no settings. -/
structure Loaded (p : ProveConfig) (tags : ProveLinkName → Option String) : Prop where
  setup : p.setup = {}
  timers : p.timers = {}
  maxStab : p.maxStab = {}
  new : ∀ name, tags name = none → (p.link name).New
  link : ∀ name tag, tags name = some tag → name ∈ p.listLink ∧ (p.link name).Tagged tag

lemma linkedTo_iff {p : ProveConfig} {name : ProveLinkName} {tag : String}
    (hlist : name ∈ p.listLink) (hlink : (p.link name).Tagged tag) (item : XmlElement) :
    p.LinkedTo name item ↔ tagOf item = some tag := by
  rw [LinkedTo, tagOf]
  cases item.firstChildElement "link" with
  | none => simp
  | some source =>
      have hcount : ¬1 < tag.toList.count ':' := by
        rcases hlink.parts with ⟨hparts, -⟩ | hparts
        · rw [hparts, List.count_eq_zero.mpr hlink.aliasName]
          omega
        · rw [hparts, List.count_append, List.count_cons_self,
            List.count_eq_zero.mpr hlink.aliasName, List.count_eq_zero.mpr hlink.param]
          omega
      constructor
      · rintro ⟨-, _, hsource, hne, htagged⟩
        cases hsource
        have htag : (source.getAttributeString "alias" "").toLower = tag :=
          htagged.fullTag.symm.trans hlink.fullTag
        simp [hne, htag, hcount]
      · intro h
        simp only [Option.bind_some] at h
        split_ifs at h with hbad
        · cases h
          exact ⟨hlist, source, rfl, fun he => hbad (.inl he), hlink⟩

/-- A new prover. -/
lemma loaded_new (aliasName : String) (descr : UInt32) :
    Loaded { aliasName := aliasName, descr := descr } fun _ => none :=
  ⟨rfl, rfl, rfl, fun _ _ => ⟨rfl, rfl⟩, fun _ _ h => nomatch h⟩

/-- Limits of the links do not matter. -/
lemma Loaded.of_sameTag {p : ProveConfig} {tags : ProveLinkName → Option String}
    (hp : p.Loaded tags) {link : ProveLinkName → LinkConfig}
    (h : ∀ name, (p.link name).SameTag (link name)) : Loaded { p with link := link } tags where
  setup := hp.setup
  timers := hp.timers
  maxStab := hp.maxStab
  new name hname := (h name).new (hp.new name hname)
  link name tag htag := ⟨(hp.link name tag htag).1, (h name).tagged (hp.link name tag htag).2⟩

/-- Nothing but limits is loaded with the limits. -/
lemma loadLimits_ok {p : ProveConfig} {tags : ProveLinkName → Option String} (hp : p.Loaded tags)
    {limits : List XmlElement} (h : LimitsKnown limits) :
    ∃ p', p.loadLimits xml limits = .ok p' ∧ p'.Loaded tags := by
  induction limits generalizing p with
  | nil => exact ⟨p, rfl, hp⟩
  | cons limit limits ih =>
      obtain ⟨ioname, hname, link, hmem, hio⟩ := h limit List.mem_cons_self
      have hfind : ((ProveLinkName.inputs ++ ProveLinkName.outputs).find? fun item =>
          item.ioName = ioname.toLower).isSome :=
        List.find?_isSome.mpr ⟨link, hmem, decide_eq_true hio⟩
      obtain ⟨item, hitem⟩ := Option.isSome_iff_exists.mp hfind
      rw [loadLimits, hname, lowerAttribute]
      simp only [Result.ok_bind, hitem]
      refine ih (hp.of_sameTag fun name => ?_) fun limit' hlimit =>
        h limit' (List.mem_cons_of_mem _ hlimit)
      rw [Function.update_apply]
      split_ifs with heq
      · rw [heq]
        exact ⟨rfl, rfl, rfl⟩
      · exact ⟨rfl, rfl, rfl⟩

/-- The loop ends with an error, or each limit is one of a link. -/
lemma loadLimits_cases (p : ProveConfig) (limits : List XmlElement) :
    (∃ e ≠ LoadStop.nullElement, p.loadLimits xml limits = .error e) ∨
      (∃ p', p.loadLimits xml limits = .ok p') ∧ LimitsKnown limits := by
  induction limits generalizing p with
  | nil => exact .inr ⟨⟨p, rfl⟩, fun _ h => absurd h List.not_mem_nil⟩
  | cons limit limits ih =>
      rw [loadLimits]
      cases hname : limit.getAttribute "name" with
      | none => exact .inl ⟨.nullText, nofun, rfl⟩
      | some ioname =>
          simp only [lowerAttribute, Result.ok_bind]
          cases hfind : (ProveLinkName.inputs ++ ProveLinkName.outputs).find? fun item =>
              item.ioName = ioname.toLower with
          | none => exact .inl ⟨.error LoadStop.limit ioname.toLower, nofun, rfl⟩
          | some item =>
              obtain ⟨hmem, hio⟩ := Keyed.eq_of_find hfind
              refine (ih _).imp_right fun ⟨hok, hknown⟩ => ⟨hok, List.forall_mem_cons.mpr
                ⟨⟨ioname, hname, item, hmem, hio⟩, hknown⟩⟩

lemma sourceLoadFromXML_cases (p : ProveConfig) (element : XmlElement) (pre : String) :
    (∃ e ≠ LoadStop.nullElement, p.sourceLoadFromXML xml pre (some element) = .error e) ∨
      (∃ p', p.sourceLoadFromXML xml pre (some element) = .ok p') ∧
        element.getAttribute "name" ≠ none ∧
        ∀ limits, element.firstChildElement "limits" = some limits →
          LimitsKnown (limits.childElements "limit") := by
  rw [sourceLoadFromXML]
  cases element.getAttribute "name" with
  | none => exact .inl ⟨.error LoadStop.invalidName "", nofun, rfl⟩
  | some strAlias =>
      cases element.firstChildElement "limits" with
      | none => exact .inr ⟨⟨_, rfl⟩, nofun, nofun⟩
      | some limits =>
          refine (loadLimits_cases _ _).imp_right fun ⟨hok, hknown⟩ => ⟨hok, nofun, ?_⟩
          rintro _ ⟨⟩
          exact hknown

/-- The first two stages of an element that starts. -/
lemma start_ok {element : XmlElement} (h : Starts xml element) (pre : String) :
    ∃ p₁ p₂, sourceLoadFromXML xml {} pre (some element) = .ok p₁ ∧
      p₁.moduleLoadFromXML xml (element.firstChildElement "io_link") = .ok p₂ ∧
        p₂.Loaded fun _ => none := by
  obtain ⟨strAlias, hname⟩ := Option.ne_none_iff_exists'.mp h.name
  obtain ⟨item, hitem, hmodule⟩ := h.module
  have hsource : ∃ p₁, sourceLoadFromXML xml {} pre (some element) = .ok p₁ ∧
      p₁.Loaded fun _ => none := by
    simp only [sourceLoadFromXML, hname]
    cases hlimits : element.firstChildElement "limits" with
    | none => exact ⟨_, rfl, loaded_new _ _⟩
    | some limits => exact loadLimits_ok (loaded_new _ _) (h.limits limits hlimits)
  obtain ⟨p₁, h₁, hp⟩ := hsource
  refine ⟨p₁, { p₁ with
    moduleNum := item.getAttributeUSINT xml.toXmlNumbers "module" 0xFF
    channel := item.getAttributeUSINT xml.toXmlNumbers "channel" 0xFF }, h₁, ?_,
    ⟨hp.setup, hp.timers, hp.maxStab, hp.new, hp.link⟩⟩
  rw [hitem, moduleLoadFromXML]
  exact if_neg hmodule

/-- An element that does not start ends with an error before the links. -/
lemma load_of_not_starts {element : XmlElement} (h : ¬Starts xml element) (pre : String) :
    ∃ e ≠ LoadStop.nullElement, loadFromXML xml {} element pre = .error e := by
  rw [loadFromXML]
  rcases sourceLoadFromXML_cases {} element pre with
    ⟨e, he, hsource⟩ | ⟨⟨p, hsource⟩, hname, hlimits⟩
  · exact ⟨e, he, by rw [hsource, Result.error_bind]⟩
  · rw [hsource, Result.ok_bind]
    cases hitem : element.firstChildElement "io_link" with
    | none => exact ⟨.error LoadStop.porveMissingmodule "", nofun, rfl⟩
    | some item =>
        have hmodule : item.getAttributeUSINT xml.toXmlNumbers "module" 0xFF = 0xFF := by
          by_contra hmodule
          exact h ⟨hname, hlimits, item, hitem, hmodule⟩
        refine ⟨.error LoadStop.invalidModulelink "", nofun, ?_⟩
        rw [moduleLoadFromXML]
        simp only [if_pos hmodule, Result.error_bind]

/-! ### The links -/

/-- A link that is not asked for, or whose element can be loaded. -/
lemma loadLinkIf_ok (xml : ConfigNumbers) {p : ProveConfig}
    {tags : ProveLinkName → Option String} (hp : p.Loaded tags)
    {item source : Option XmlElement} (name : ProveLinkName) (hname : tags name = none)
    (h : item ≠ none → source.bind tagOf ≠ none) :
    ∃ p', loadLinkIf xml item source name p = .ok p' ∧
      p'.Loaded (Function.update tags name (item.bind fun _ => source.bind tagOf)) := by
  cases item with
  | none =>
      refine ⟨p, rfl, ?_⟩
      rwa [Option.bind_none, ← hname, Function.update_eq_self]
  | some _ =>
      obtain ⟨tag, htag⟩ := Option.ne_none_iff_exists'.mp (h (Option.some_ne_none _))
      obtain ⟨x, rfl, hx⟩ := Option.bind_eq_some_iff.mp htag
      obtain ⟨source, hsource, hlink⟩ := Option.bind_eq_some_iff.mp hx
      simp only at hlink
      split_ifs at hlink with hbad
      cases hlink
      obtain ⟨link, hload, htagged⟩ := LinkConfig.loadFromXML_ok xml (hp.new name hname)
        (fun he => hbad (.inl he)) (fun hc => hbad (.inr hc))
      refine ⟨{ p with
        link := Function.update p.link name link
        listLink := p.listLink ++ [name] }, ?_, hp.setup, hp.timers, hp.maxStab, ?_, ?_⟩
      · simp only [loadLinkIf, XmlElement.deref, Result.ok_bind, hsource, loadLink, hload]
        rfl
      · intro other hother
        rw [Option.bind_some, htag] at hother
        by_cases heq : other = name
        · rw [heq, Function.update_self] at hother
          exact absurd hother (Option.some_ne_none _)
        · rw [Function.update_of_ne heq] at hother
          simpa only [Function.update_of_ne heq] using hp.new other hother
      · intro other tag hother
        rw [Option.bind_some, htag] at hother
        by_cases heq : other = name
        · rw [heq, Function.update_self] at hother
          cases hother
          simp only [heq, Function.update_self]
          exact ⟨List.mem_append_right _ List.mem_cons_self, htagged⟩
        · rw [Function.update_of_ne heq] at hother
          obtain ⟨hlist, hlink⟩ := hp.link other tag hother
          simp only [Function.update_of_ne heq]
          exact ⟨List.mem_append_left _ hlist, hlink⟩

/-- A link of an element that cannot be loaded. -/
lemma loadLinkIf_error (xml : ConfigNumbers) (p : ProveConfig) (item : XmlElement)
    {source : XmlElement} (name : ProveLinkName) (h : tagOf source = none) :
    ∃ code text, loadLinkIf xml (some item) (some source) name p = .error (.error code text) := by
  rw [tagOf] at h
  cases hsource : source.firstChildElement "link" with
  | none =>
      refine ⟨LoadStop.linknf, "source '" ++ (p.link name).fullTag ++ "' is null", ?_⟩
      simp only [loadLinkIf, XmlElement.deref, Result.ok_bind, hsource, loadLink]
  | some link =>
      simp only [hsource, Option.bind_some] at h
      split_ifs at h with hbad
      obtain ⟨text, htext⟩ := LinkConfig.loadFromXML_error xml (p.link name) hbad
      refine ⟨LoadStop.link, text, ?_⟩
      simp only [loadLinkIf, XmlElement.deref, Result.ok_bind, hsource, loadLink, htext,
        Result.error_bind]

/-- The three values: each has the name in the element of the temperature. -/
lemma loadValues_ok (xml : ConfigNumbers) {p : ProveConfig} (hp : p.Loaded fun _ => none)
    {temp pres dens : Option XmlElement} (htemp : temp ≠ none → temp.bind tagOf ≠ none)
    (hnull : temp = none → pres = none ∧ dens = none) :
    ∃ p' tags, p.loadValues xml temp pres dens = .ok p' ∧ p'.Loaded tags ∧
      tags .temp = temp.bind tagOf ∧ (pres ≠ none → tags .pres = temp.bind tagOf) ∧
      (dens ≠ none → tags .dens = temp.bind tagOf) ∧ tags .opened = none ∧ tags .closed = none := by
  have hpres : pres ≠ none → temp.bind tagOf ≠ none := fun h =>
    htemp fun ht => h (hnull ht).1
  have hdens : dens ≠ none → temp.bind tagOf ≠ none := fun h =>
    htemp fun ht => h (hnull ht).2
  obtain ⟨p₁, h₁, hp₁⟩ := loadLinkIf_ok xml hp .temp rfl htemp
  obtain ⟨p₂, h₂, hp₂⟩ := loadLinkIf_ok xml hp₁ .pres rfl hpres
  obtain ⟨p₃, h₃, hp₃⟩ := loadLinkIf_ok xml hp₂ .dens rfl hdens
  refine ⟨p₃, _, ?_, hp₃, ?_, ?_, ?_, rfl, rfl⟩
  · rw [loadValues, h₁, Result.ok_bind, h₂, Result.ok_bind, h₃]
  · cases temp <;> rfl
  · intro h
    obtain ⟨x, rfl⟩ := Option.ne_none_iff_exists'.mp h
    rfl
  · intro h
    obtain ⟨x, rfl⟩ := Option.ne_none_iff_exists'.mp h
    rfl

/-- A pressure or a density without a temperature. -/
lemma loadValues_null (p : ProveConfig) {pres dens : Option XmlElement}
    (h : ¬(pres = none ∧ dens = none)) :
    p.loadValues xml none pres dens = .error .nullElement := by
  cases pres with
  | some x => rfl
  | none =>
      obtain ⟨x, rfl⟩ := Option.ne_none_iff_exists'.mp fun hd => h ⟨rfl, hd⟩
      rfl

/-- The links of the valve. -/
lemma loadValve_ok (xml : ConfigNumbers) {p : ProveConfig}
    {tags : ProveLinkName → Option String} (hp : p.Loaded tags) (hopened : tags .opened = none)
    (hclosed : tags .closed = none) {valve : Option XmlElement}
    (h : ∀ v, valve = some v → ∀ key ∈ ["opened", "closed"], ∀ item,
      v.firstChildElement key = some item → tagOf item ≠ none) :
    ∃ p' tags', p.loadValve xml valve = .ok p' ∧ p'.Loaded tags' ∧
      ∀ name ∈ [.temp, .pres, .dens], tags' name = tags name := by
  cases valve with
  | none => exact ⟨p, tags, rfl, hp, fun _ _ => rfl⟩
  | some v =>
      have hvalid (key : String) (hkey : key ∈ ["opened", "closed"]) :
          v.firstChildElement key ≠ none → (v.firstChildElement key).bind tagOf ≠ none := by
        intro hne
        obtain ⟨item, hitem⟩ := Option.ne_none_iff_exists'.mp hne
        rw [hitem]
        exact h v rfl key hkey item hitem
      obtain ⟨p₁, h₁, hp₁⟩ :=
        loadLinkIf_ok xml hp .opened hopened (hvalid "opened" (by simp))
      obtain ⟨p₂, h₂, hp₂⟩ := loadLinkIf_ok xml hp₁ .closed
        (by rwa [Function.update_of_ne (by decide)]) (hvalid "closed" (by simp))
      refine ⟨p₂, _, ?_, hp₂, ?_⟩
      · rw [loadValve]
        simp only [h₁, Result.ok_bind, h₂]
      · intro name hname
        have hname' : name ≠ .opened ∧ name ≠ .closed := by
          revert hname
          cases name <;> decide
        rw [Function.update_of_ne hname'.2, Function.update_of_ne hname'.1]

/-- A link of the valve that cannot be loaded. -/
lemma loadValve_error (xml : ConfigNumbers) {p : ProveConfig}
    {tags : ProveLinkName → Option String} (hp : p.Loaded tags) (hopened : tags .opened = none)
    {v : XmlElement}
    (h : ∃ key ∈ ["opened", "closed"], ∃ item, v.firstChildElement key = some item ∧
      tagOf item = none) :
    ∃ code text, p.loadValve xml (some v) = .error (.error code text) := by
  by_cases hbad : ∃ item, v.firstChildElement "opened" = some item ∧ tagOf item = none
  · obtain ⟨item, hitem, htag⟩ := hbad
    obtain ⟨code, text, herr⟩ := loadLinkIf_error xml p item .opened htag
    refine ⟨code, text, ?_⟩
    rw [loadValve]
    simp only [hitem, herr, Result.error_bind]
  · have hvalid : v.firstChildElement "opened" ≠ none →
        (v.firstChildElement "opened").bind tagOf ≠ none := by
      intro hne
      obtain ⟨item, hitem⟩ := Option.ne_none_iff_exists'.mp hne
      rw [hitem]
      exact fun htag => hbad ⟨item, hitem, htag⟩
    obtain ⟨p₁, h₁, -⟩ := loadLinkIf_ok xml hp .opened hopened hvalid
    obtain ⟨item, hitem, htag⟩ : ∃ item, v.firstChildElement "closed" = some item ∧
        tagOf item = none := by
      obtain ⟨key, hkey, hitem⟩ := h
      rcases List.mem_cons.mp hkey with rfl | hkey
      · exact absurd hitem hbad
      · rwa [List.mem_singleton.mp hkey] at hitem
    obtain ⟨code, text, herr⟩ := loadLinkIf_error xml p₁ item .closed htag
    refine ⟨code, text, ?_⟩
    rw [loadValve]
    simp only [h₁, Result.ok_bind, hitem, herr]

/-! ### The settings -/

/-- A flag without bits among the sixteen is `NONE`. -/
lemma setup_iff (element : XmlElement) :
    (∃ v, BitsArray.getValue ProveSetup.flagsSetup (setupText element) false = (v, false) ∧
      (0 : UInt16) = v.toUInt16) ↔
      ∃ text, element.getAttribute "setup" = some text ∧
        ∀ word ∈ BitsArray.words text, word = "NONE" := by
  rw [setupText, XmlElement.getAttributeString]
  cases element.getAttribute "setup" with
  | none =>
      have hdefault : BitsArray.getValue ProveSetup.flagsSetup
          (BitsArray.getNameByBits ProveSetup.flagsSetup
            (ProveSetup.stabilization ||| ProveSetup.bounce).toUInt32 "|") false =
          (0x12, false) := by decide +kernel
      rw [Option.getD_none, hdefault]
      constructor
      · rintro ⟨v, hv, hzero⟩
        cases hv
        exact absurd hzero (by decide)
      · rintro ⟨text, htext, -⟩
        cases htext
  | some text =>
      have hmask (v : UInt32) : (0 : UInt16) = v.toUInt16 ↔ v &&& 0xFFFF = 0 := by
        have hand : (v &&& 0xFFFF).toNat = v.toUInt16.toNat := by
          rw [UInt32.toNat_and, UInt32.toNat_toUInt16]
          exact Nat.and_two_pow_sub_one_eq_mod v.toNat 16
        rw [eq_comm, ← UInt16.toNat_inj, ← UInt32.toNat_inj, hand]
        rfl
      have hflag : ∀ item ∈ ProveSetup.flagsSetup, item.value &&& 0xFFFF = 0 →
          item.name = "NONE" := by decide
      simp only [Option.getD_some, BitsArray.getValue_iff, hmask,
        BitsArray.bitsOf_and_eq_zero_iff, Option.some.injEq, exists_eq_left']
      refine forall₂_congr fun word _ => ⟨?_, ?_⟩
      · rintro ⟨item, hitem, hzero⟩
        have hname := List.find?_some hitem
        rw [decide_eq_true_iff] at hname
        rw [← hname.1]
        exact hflag item (List.mem_of_find?_eq_some hitem) hzero
      · rintro rfl
        exact ⟨⟨"NONE", 0⟩, rfl, rfl⟩

/-- Each timer is the one of its element. -/
lemma get_loadTimers (p : ProveConfig) (timers : XmlElement) (t : ProveTimer) :
    (p.loadTimers xml (some timers)).timers.get t =
      XmlElement.getTextUDINT xml (timers.firstChildElement t.xmlName) (p.timers.get t) := by
  cases t <;> rfl

/-- A timer is loaded as it is given, unless it is too large for a number with a sign. -/
lemma timers_iff (h : xml.ReadsInt)
    (timers : XmlElement) (t : ProveTimer) :
    (∀ text v, (timers.firstChildElement t.xmlName).bind XmlElement.getText = some text →
      GivesTimer xml text v → XmlElement.getTextUDINT xml (timers.firstChildElement t.xmlName)
        (ProveTimers.get {} t) = v) ↔
      ∀ n < 2 ^ 32, (timers.firstChildElement t.xmlName).bind XmlElement.getText =
        some (toString n) → 2 ^ 31 ≤ n → xml.toInt (toString n) = some (UInt32.ofNat n) := by
  rw [XmlElement.getTextUDINT, XmlElement.queryIntText]
  constructor
  · intro hall n hn htext hlarge
    have hnat : (UInt32.ofNat n).toNat = n := UInt32.toNat_ofNat_of_lt' hn
    have hget := hall _ (UInt32.ofNat n) htext (.inr (by rw [hnat]))
    rw [htext, Option.bind_some] at hget
    cases hread : xml.toInt (toString n) with
    | some v =>
        rw [hread, Option.getD_some] at hget
        rw [hget]
    | none =>
        rw [hread, Option.getD_none] at hget
        have hdefault : (ProveTimers.get {} t).toNat < 2 ^ 31 := by cases t <;> decide
        rw [hget, hnat] at hdefault
        omega
  · intro hlarge text v htext hgives
    rw [htext, Option.bind_some]
    rcases hgives with hread | rfl
    · rw [hread, Option.getD_some]
    · have hread : xml.toInt (toString v.toNat) = some v := by
        have hself : UInt32.ofNat v.toNat = v := UInt32.ofNat_toNat
        rcases lt_or_ge v.toNat (2 ^ 31) with hsmall | hge
        · rw [h _ hsmall, hself]
        · rw [hlarge _ v.toNat_lt htext hge, hself]
      rw [hread, Option.getD_some]

/-- The settings of the timers and of the stabilization, and the links without their limits. -/
lemma finish_ok (xml : ConfigNumbers) {p : ProveConfig}
    {tags : ProveLinkName → Option String} (hp : p.Loaded tags)
    {stab timers : Option XmlElement} (h : stab ≠ none → timers ≠ none) :
    ∃ p', (p.loadTimers xml timers).loadStab xml stab timers = .ok p' ∧
      p'.switchOff.setup = {} ∧
      (∀ e, timers = some e → ∀ t, p'.switchOff.timers.get t =
        XmlElement.getTextUDINT xml (e.firstChildElement t.xmlName) (ProveTimers.get {} t)) ∧
      (∀ e, stab = some e → ∀ q, p'.switchOff.maxStab.get q =
        (XmlElement.queryDoubleText xml (timers.bind (·.firstChildElement q.xmlName))).getD
          (StabValues.get {} q)) ∧
      ∀ name tag, tags name = some tag →
        name ∈ p'.switchOff.listLink ∧ (p'.switchOff.link name).Tagged tag := by
  have hlink (p' : ProveConfig) (hlist : p'.listLink = p.listLink) (hsame : p'.link = p.link)
      (name : ProveLinkName) (tag : String) (htag : tags name = some tag) :
      name ∈ p'.switchOff.listLink ∧ (p'.switchOff.link name).Tagged tag := by
    obtain ⟨hmem, htagged⟩ := hp.link name tag htag
    refine ⟨hlist ▸ hmem, LinkConfig.SameTag.tagged ?_ (hsame ▸ htagged)⟩
    rw [switchOff]
    dsimp only
    split_ifs <;> exact ⟨rfl, rfl, rfl⟩
  cases timers with
  | none =>
      have hstab : stab = none := by
        by_contra hne
        exact h hne rfl
      subst hstab
      exact ⟨p, rfl, hp.setup, nofun, nofun, hlink p rfl rfl⟩
  | some timers =>
      have htimer (p' : ProveConfig) (hsame : p'.timers = (p.loadTimers xml (some timers)).timers)
          (e : XmlElement) (he : some timers = some e) (t : ProveTimer) :
          p'.switchOff.timers.get t = XmlElement.getTextUDINT xml (e.firstChildElement t.xmlName)
            (ProveTimers.get {} t) := by
        cases he
        rw [← hp.timers, ← get_loadTimers, ← hsame]
        rfl
      cases stab with
      | none => exact ⟨_, rfl, hp.setup, htimer _ rfl, nofun, hlink _ rfl rfl⟩
      | some stab =>
          refine ⟨_, rfl, hp.setup, htimer _ rfl, fun e _ q => ?_, hlink _ rfl rfl⟩
          rw [← hp.maxStab]
          cases q <;> rfl

/-! ### Loading -/

/-- A prover that starts, with the links of its values: what is left is the valve and the
settings. -/
lemma load_links {element : XmlElement} (hstarts : Starts xml element) (pre : String)
    (hnull : element.firstChildElement "temperature" = none →
      element.firstChildElement "pressure" = none ∧ element.firstChildElement "density" = none)
    (htemp : ∀ item, element.firstChildElement "temperature" = some item → tagOf item ≠ none) :
    ∃ (p : ProveConfig) (tags : ProveLinkName → Option String),
      loadFromXML xml {} element pre = (do
        let p ← p.loadValve xml (element.firstChildElement "valve")
        let p ← (p.loadTimers xml (element.firstChildElement "timers")).loadStab xml
          (element.firstChildElement "stabilize") (element.firstChildElement "timers")
        return p.switchOff) ∧ p.Loaded tags ∧
      tags .temp = (element.firstChildElement "temperature").bind tagOf ∧
      (element.firstChildElement "pressure" ≠ none →
        tags .pres = (element.firstChildElement "temperature").bind tagOf) ∧
      (element.firstChildElement "density" ≠ none →
        tags .dens = (element.firstChildElement "temperature").bind tagOf) ∧
      tags .opened = none ∧ tags .closed = none := by
  obtain ⟨p₁, p₂, h₁, h₂, hp₂⟩ := start_ok hstarts pre
  have hvalid : element.firstChildElement "temperature" ≠ none →
      (element.firstChildElement "temperature").bind tagOf ≠ none := by
    intro hne
    obtain ⟨item, hitem⟩ := Option.ne_none_iff_exists'.mp hne
    rw [hitem]
    exact htemp item hitem
  obtain ⟨p₃, tags, h₃, hp₃, htags⟩ := loadValues_ok xml hp₂ hvalid hnull
  refine ⟨p₃, tags, ?_, hp₃, htags⟩
  rw [loadFromXML]
  simp only [h₁, h₂, h₃, Result.ok_bind]

/-- A link that was loaded from the element of the temperature is the one of its own element if and
only if that element has the same name. -/
lemma linkedTo_all_iff {p : ProveConfig} {name : ProveLinkName} {item temp : Option XmlElement}
    (hlink : item ≠ none → ∃ tag, temp.bind tagOf = some tag ∧
      name ∈ p.listLink ∧ (p.link name).Tagged tag) :
    (∀ e, item = some e → p.LinkedTo name e) ↔
      ∀ e t, item = some e → temp = some t → tagOf e = tagOf t := by
  cases item with
  | none => exact ⟨nofun, nofun⟩
  | some e =>
      obtain ⟨tag, htag, hlist, htagged⟩ := hlink (Option.some_ne_none e)
      obtain ⟨t, rfl, ht⟩ := Option.bind_eq_some_iff.mp htag
      constructor
      · rintro hall _ _ ⟨⟩ ⟨⟩
        rw [ht]
        exact (linkedTo_iff hlist htagged e).mp (hall e rfl)
      · rintro hall _ ⟨⟩
        exact (linkedTo_iff hlist htagged e).mpr ((hall e t rfl rfl).trans ht)

/-- Loading that comes to its end. -/
lemma load_ok {element : XmlElement} (hstarts : Starts xml element) (pre : String)
    (hnull : element.firstChildElement "temperature" = none →
      element.firstChildElement "pressure" = none ∧ element.firstChildElement "density" = none)
    (hlinks : Links element) (hstab : element.firstChildElement "stabilize" ≠ none →
      element.firstChildElement "timers" ≠ none) :
    ∃ p, loadFromXML xml {} element pre = .ok p ∧ p.setup = {} ∧
      (xml.ReadsInt → (p.AsInFile xml element ↔ Unmixed xml element)) := by
  obtain ⟨p₁, tags, hload, hp₁, htemp, hpres, hdens, hopened, hclosed⟩ :=
    load_links hstarts pre hnull hlinks.temp
  obtain ⟨p₂, tags', h₂, hp₂, hkeep⟩ :=
    loadValve_ok xml hp₁ hopened hclosed hlinks.valve
  obtain ⟨p₃, h₃, hsetup, htimers, hmaxStab, hlink⟩ := finish_ok xml hp₂ hstab
  have hvalid (key : String) (name : ProveLinkName) (hname : name ∈ [.temp, .pres, .dens])
      (htag : element.firstChildElement key ≠ none →
        tags name = (element.firstChildElement "temperature").bind tagOf)
      (htempNe : element.firstChildElement key ≠ none →
        element.firstChildElement "temperature" ≠ none)
      (hne : element.firstChildElement key ≠ none) :
      ∃ tag, (element.firstChildElement "temperature").bind tagOf = some tag ∧
        name ∈ p₃.switchOff.listLink ∧ (p₃.switchOff.link name).Tagged tag := by
    obtain ⟨t, ht⟩ := Option.ne_none_iff_exists'.mp (htempNe hne)
    obtain ⟨tag, htagOf⟩ := Option.ne_none_iff_exists'.mp (hlinks.temp t ht)
    have hbind : (element.firstChildElement "temperature").bind tagOf = some tag := by
      rw [ht, Option.bind_some, htagOf]
    exact ⟨tag, hbind, hlink name tag ((hkeep name hname).trans ((htag hne).trans hbind))⟩
  have hT := linkedTo_all_iff (hvalid "temperature" .temp (by simp) (fun _ => htemp) id)
  have hP := linkedTo_all_iff (hvalid "pressure" .pres (by simp) hpres
    fun hne ht => hne (hnull ht).1)
  have hD := linkedTo_all_iff (hvalid "density" .dens (by simp) hdens
    fun hne ht => hne (hnull ht).2)
  refine ⟨p₃.switchOff, ?_, hsetup, ?_⟩
  · rw [hload]
    simp only [h₂, h₃, Result.ok_bind, Result.pure_eq_ok]
  · intro h
    constructor
    · intro hfile
      refine ⟨hstab, ?_, ?_, ?_, ?_⟩
      · intro key hkey item t hitem ht
        rcases List.mem_cons.mp hkey with rfl | hkey
        · exact hP.mp hfile.pres item t hitem ht
        · rw [List.mem_singleton.mp hkey] at hitem
          exact hD.mp hfile.dens item t hitem ht
      · intro stab hstab' q v hv
        rw [← hmaxStab stab hstab' q]
        exact hfile.maxStab stab hstab' q v hv
      · intro timers htimers' t
        refine (timers_iff h timers t).mp fun text v htext hgives => ?_
        rw [← htimers timers htimers' t]
        exact hfile.timers timers htimers' t text v htext hgives
      · obtain ⟨v, hv, hvalue⟩ := hfile.setup
        rw [hsetup] at hvalue
        exact (setup_iff element).mp ⟨v, hv, hvalue⟩
    · intro hunmixed
      refine ⟨?_, ?_, ?_, ?_, ?_, ?_⟩
      · refine hT.mpr fun e t he ht => ?_
        rw [he] at ht
        cases ht
        rfl
      · exact hP.mpr fun e t => hunmixed.tags "pressure" (by simp) e t
      · exact hD.mpr fun e t => hunmixed.tags "density" (by simp) e t
      · intro stab hstab' q v hv
        rw [hmaxStab stab hstab' q]
        exact hunmixed.maxStab stab hstab' q v hv
      · intro timers htimers' t text v htext hgives
        rw [htimers timers htimers' t]
        exact (timers_iff h timers t).mpr (hunmixed.timers timers htimers' t) text v htext hgives
      · obtain ⟨v, hv, hvalue⟩ := (setup_iff element).mpr hunmixed.setup
        refine ⟨v, hv, ?_⟩
        rw [hsetup]
        exact hvalue

/-- A link that cannot be loaded ends the loading with an error. -/
lemma load_of_not_links {element : XmlElement} (hstarts : Starts xml element) (pre : String)
    (hnull : element.firstChildElement "temperature" = none →
      element.firstChildElement "pressure" = none ∧ element.firstChildElement "density" = none)
    (hlinks : ¬Links element) :
    ∃ e ≠ LoadStop.nullElement, loadFromXML xml {} element pre = .error e := by
  by_cases htemp : ∀ item, element.firstChildElement "temperature" = some item → tagOf item ≠ none
  · obtain ⟨p, tags, hload, hp, -, -, -, hopened, -⟩ := load_links hstarts pre hnull htemp
    have hbad : ∃ valve, element.firstChildElement "valve" = some valve ∧
        ∃ key ∈ ["opened", "closed"], ∃ item, valve.firstChildElement key = some item ∧
          tagOf item = none := by
      by_contra hno
      refine hlinks ⟨htemp, fun valve hvalve key hkey item hitem htag => hno ?_⟩
      exact ⟨valve, hvalve, key, hkey, item, hitem, htag⟩
    obtain ⟨valve, hvalve, hbad⟩ := hbad
    obtain ⟨code, text, herr⟩ := loadValve_error xml hp hopened hbad
    refine ⟨.error code text, nofun, ?_⟩
    rw [hload, hvalve, herr, Result.error_bind]
  · simp only [not_forall, not_not] at htemp
    obtain ⟨item, hitem, htag⟩ := htemp
    obtain ⟨p₁, p₂, h₁, h₂, -⟩ := start_ok hstarts pre
    obtain ⟨code, text, herr⟩ := loadLinkIf_error xml p₂ item .temp htag
    refine ⟨.error code text, nofun, ?_⟩
    rw [loadFromXML]
    simp only [h₁, h₂, hitem, loadValues, herr, Result.ok_bind, Result.error_bind]

/-- A missing element is used: the temperature, for a pressure or a density, or the timers, for the
stabilization. -/
lemma load_null {element : XmlElement} (hstarts : Starts xml element) (pre : String)
    (h : (element.firstChildElement "temperature" = none ∧
        ¬(element.firstChildElement "pressure" = none ∧
          element.firstChildElement "density" = none)) ∨
      (element.firstChildElement "temperature" = none →
        element.firstChildElement "pressure" = none ∧
          element.firstChildElement "density" = none) ∧ Links element ∧
        element.firstChildElement "stabilize" ≠ none ∧
          element.firstChildElement "timers" = none) :
    loadFromXML xml {} element pre = .error .nullElement := by
  rcases h with ⟨htemp, hvalues⟩ | ⟨hnull, hlinks, hstab, htimers⟩
  · obtain ⟨p₁, p₂, h₁, h₂, -⟩ := start_ok hstarts pre
    rw [loadFromXML]
    simp only [h₁, h₂, htemp, loadValues_null p₂ hvalues, Result.ok_bind, Result.error_bind]
  · obtain ⟨p₁, tags, hload, hp₁, -, -, -, hopened, hclosed⟩ :=
      load_links hstarts pre hnull hlinks.temp
    obtain ⟨p₂, -, h₂, -⟩ := loadValve_ok xml hp₁ hopened hclosed hlinks.valve
    obtain ⟨stab, hstab⟩ := Option.ne_none_iff_exists'.mp hstab
    rw [hload]
    simp only [h₂, hstab, htimers, loadTimers, loadStab, XmlElement.deref, Result.ok_bind,
      Result.error_bind]

/-- The ends of loading: an error, the use of a missing element, or a prover without a setup. -/
lemma load_cases (xml : ConfigNumbers) (element : XmlElement) (pre : String) :
    (∃ e ≠ LoadStop.nullElement, loadFromXML xml {} element pre = .error e ∧ Holds xml element) ∨
      loadFromXML xml {} element pre = .error .nullElement ∧ ¬Holds xml element ∨
      ∃ p, loadFromXML xml {} element pre = .ok p ∧ p.setup = {} ∧
        (xml.ReadsInt → (p.AsInFile xml element ↔ Holds xml element)) := by
  by_cases hstarts : Starts xml element
  case neg =>
    obtain ⟨e, hne, hload⟩ := load_of_not_starts hstarts pre
    exact .inl ⟨e, hne, hload, fun hs => absurd hs hstarts⟩
  by_cases hnull : element.firstChildElement "temperature" = none →
      element.firstChildElement "pressure" = none ∧ element.firstChildElement "density" = none
  case neg =>
    have hload := load_null hstarts pre (.inl (Classical.not_imp.mp hnull))
    exact .inr (.inl ⟨hload, fun hholds => hnull (hholds hstarts).1⟩)
  by_cases hlinks : Links element
  case neg =>
    obtain ⟨e, hne, hload⟩ := load_of_not_links hstarts pre hnull hlinks
    exact .inl ⟨e, hne, hload, fun _ => ⟨hnull, fun hl => absurd hl hlinks⟩⟩
  by_cases hstab : element.firstChildElement "stabilize" ≠ none →
      element.firstChildElement "timers" ≠ none
  case neg =>
    obtain ⟨hgiven, htimers⟩ := Classical.not_imp.mp hstab
    have hload := load_null hstarts pre (.inr ⟨hnull, hlinks, hgiven, not_not.mp htimers⟩)
    exact .inr (.inl ⟨hload, fun hholds => hstab ((hholds hstarts).2 hlinks).stab⟩)
  obtain ⟨p, hload, hsetup, hiff⟩ := load_ok hstarts pre hnull hlinks hstab
  refine .inr (.inr ⟨p, hload, hsetup, fun h => (hiff h).trans ⟨?_, ?_⟩⟩)
  · exact fun hunmixed _ => ⟨hnull, fun _ => hunmixed⟩
  · exact fun hholds => (hholds hstarts).2 hlinks

/-- A prover is loaded as its element says, without the use of a missing one, if and only if nothing
in the element shows which elements are mixed up. -/
theorem loadsAsWritten_iff (h : xml.ReadsInt) (element : XmlElement) (pre : String) :
    LoadsAsWritten xml element pre ↔ Holds xml element := by
  rcases load_cases xml element pre with ⟨e, hne, hload, hholds⟩ | ⟨hload, hholds⟩ |
    ⟨p, hload, -, hiff⟩
  · refine iff_of_true ⟨fun hnull => hne ?_, fun p hp => ?_⟩ hholds
    · rw [hload] at hnull
      exact Except.error.inj hnull
    · rw [hload] at hp
      cases hp
  · exact iff_of_false (fun hwritten => hwritten.noNull hload) hholds
  · rw [← hiff h]
    refine ⟨fun hwritten => hwritten.asInFile p hload, fun hfile => ⟨fun hnull => ?_, ?_⟩⟩
    · rw [hload] at hnull
      cases hnull
    · intro p' hp'
      rw [hload] at hp'
      cases hp'
      exact hfile

/-- A loaded prover as it starts to work. -/
def prove (p : ProveConfig) : Prove := { setup := p.setup, moduleNum := p.moduleNum }

/-- No flag of the setup is ever loaded: a prover works as one without stabilization, bounce and a
valve of four ways. -/
theorem has_prove {element : XmlElement} {pre : String} {p : ProveConfig}
    (hload : loadFromXML xml {} element pre = .ok p) (flag : UInt16) :
    p.prove.has flag = false := by
  have hsetup : p.setup = {} := by
    rcases load_cases xml element pre with ⟨e, -, herr, -⟩ | ⟨herr, -⟩ | ⟨p', hok, hsetup, -⟩
    · rw [hload] at herr
      cases herr
    · rw [hload] at herr
      cases herr
    · rw [hload] at hok
      cases hok
      exact hsetup
  rw [Prove.has, prove, hsetup, UInt16.zero_and]
  rfl

end ProveConfig

/-- Decimal numbers as they are read. -/
def proveNumbers : ConfigNumbers where
  strtoul _ := 0
  toInt s := s.toNat?.map UInt32.ofNat
  toDouble s := s.toNat?.map fun n => (n : LREAL)

lemma toInt_proveNumbers (n : ℕ) : proveNumbers.toInt (toString n) = some (UInt32.ofNat n) := by
  have hread : (toString n).toNat? = some n := Nat.toNat?_repr n
  rw [proveNumbers]
  simp only [hread, Option.map_some]

lemma readsInt_proveNumbers : proveNumbers.ReadsInt := fun n _ => toInt_proveNumbers n

/-- A prover with one name for the temperature and the pressure, and with one limit of the
stabilization, which the timers have, too. -/
def proveElement : XmlElement :=
  .node "prove" [("name", "p"), ("setup", "NONE")] none
    [.node "io_link" [("module", "0")] none [],
      .node "temperature" [] none [.node "link" [("alias", "io.t")] none []],
      .node "pressure" [] none [.node "link" [("alias", "io.t")] none []],
      .node "timers" [] none
        [.node "start" [] (some "1000") [], .node "temperature" [] (some "2") []],
      .node "stabilize" [] none [.node "temperature" [] (some "2") []]]

theorem loadsAsWritten_iff_sample : ProveConfig.LoadsAsWritten proveNumbers proveElement "" := by
  refine (ProveConfig.loadsAsWritten_iff readsInt_proveNumbers proveElement "").mpr fun _ =>
    ⟨nofun, fun _ => ⟨fun _ => nofun, ?_, ?_, ?_, "NONE", rfl, ?_⟩⟩
  · -- the density is left out
    intro key hkey item temp hitem htemp
    rw [List.mem_cons, List.mem_singleton] at hkey
    cases htemp
    rcases hkey with rfl | rfl <;> cases hitem
    rfl
  · intro stab hstab q v hv
    cases hstab
    cases q with
    | temp => exact congrArg (Option.getD · _) hv
    | pres | dens | freq => cases hv
  · exact fun _ _ _ n _ _ _ => toInt_proveNumbers n
  · decide +kernel

/-- A prover with a pressure and no temperature: the link of the temperature, which is missing, is
used. -/
theorem loadsAsWritten_fails : ¬ ∀ (xml : ConfigNumbers), xml.ReadsInt →
    ∀ (element : XmlElement) (pre : String), ProveConfig.LoadsAsWritten xml element pre := by
  intro h
  have hwritten := h proveNumbers readsInt_proveNumbers
    (.node "prove" [("name", "p")] none
      [.node "io_link" [("module", "0")] none [], .node "pressure" [] none []]) ""
  exact hwritten.noNull rfl

end Tritonn

import Tritonn.Store.Text
import Tritonn.Totals.Total

/-!
The dump files: `rDumpFile` of `src/tritonn/data/dump.h` and `manager_dump.cpp`, `xmlDumpFile` of
`src/xml/xmlfile.cpp`, and how `src/tritonn/total.cpp` and `src/tritonn/variable_item.cpp` write
totals and values into them and read them.

* `XmlElement` is an element of a document as the program sees it through tinyxml2;
* `DumpFile.checkFile` reads a file and compares its hash;
* `Total.toXml`, `Total.fromXml`, `Variable.valueToXml` and `Variable.valueFromXml` are one entry of
  a dump.
-/

namespace Tritonn

/-- `tinyxml2::XMLElement`: the name, the attributes, the text in front and the children. -/
inductive XmlElement where
  | node (name : String) (attributes : List (String × String)) (text : Option String)
      (children : List XmlElement)

namespace XmlElement

/-- `Name`. -/
def name : XmlElement → String
  | node name _ _ _ => name

/-- `Attribute`. -/
def getAttribute : XmlElement → String → Option String
  | node _ attributes _ _, key => attributes.lookup key

/-- `GetText`. -/
def getText : XmlElement → Option String
  | node _ _ text _ => text

/-- `FirstChildElement`. -/
def firstChildElement : XmlElement → String → Option XmlElement
  | node _ _ _ children, key => children.find? fun e => e.name = key

end XmlElement

/-- What the dumps use of the libraries: `Parse` of tinyxml2, with the root of the document or the
error, `QueryDoubleText` and `QueryIntText` for a text, the format `%.15f`, and the conversions of
the standard library. -/
structure DumpEnv where
  parse : String → Except ℕ XmlElement
  toDouble : String → Option LREAL
  toInt : String → Option UInt32
  format15f : LREAL → String
  numbers : TextNumbers

/-- A text in the element `name`. -/
def xmlTag (name text : String) : String := "<" ++ name ++ ">" ++ text ++ "</" ++ name ++ ">"

/-! ### Totals -/

/-- The element of a quantity, of `XmlName`. -/
def Channel.xmlName : Channel → String
  | .mass => "mass"
  | .volume => "volume"
  | .volume15 => "volume15"
  | .volume20 => "volume20"

namespace Total

variable (env : DumpEnv)

/-- `rTotal::toXmlBase`. -/
def toXmlBase (name : String) (total : BaseTotal) : String :=
  xmlTag name (quantity .mass ++ quantity .volume ++ quantity .volume15 ++ quantity .volume20 ++
    xmlTag "count" (toString total.count.toNat))
where
  quantity (ch : Channel) : String := xmlTag ch.xmlName (env.format15f (total.qty ch))

/-- `rTotal::toXml`. -/
def toXml (t : Total) (name : String) : String :=
  xmlTag name (toXmlBase env "past" t.past ++ toXmlBase env "raw" t.raw ++
    toXmlBase env "inc" t.inc ++ toXmlBase env "present" t.present)

/-- `XmlUtils::getTextLREAL`; `none` is `err`. -/
def getTextLREAL (element : Option XmlElement) : Option LREAL :=
  (element.bind XmlElement.getText).bind env.toDouble

/-- `XmlUtils::getTextUDINT`; `none` is `err`. -/
def getTextUDINT (element : Option XmlElement) : Option UInt32 :=
  (element.bind XmlElement.getText).bind env.toInt

/-- What `rTotal::fromXmlBase` reads; `none` is its `false`. -/
def readXmlBase : Option XmlElement → Option BaseTotal
  | none => none
  | some root => do
      let mass ← getTextLREAL env (root.firstChildElement "mass")
      let volume ← getTextLREAL env (root.firstChildElement "volume")
      let volume15 ← getTextLREAL env (root.firstChildElement "volume15")
      let volume20 ← getTextLREAL env (root.firstChildElement "volume20")
      let count ← getTextUDINT env (root.firstChildElement "count")
      return ⟨fun
        | .mass => mass
        | .volume => volume
        | .volume15 => volume15
        | .volume20 => volume20, count⟩

/-- `rTotal::fromXmlBase`: the totals stay when something cannot be read. -/
def fromXmlBase (root : Option XmlElement) (total : BaseTotal) : BaseTotal :=
  (readXmlBase env root).getD total

/-- `rTotal::fromXml`. -/
def fromXml (t : Total) (root : XmlElement) (name : String) : Total :=
  match root.firstChildElement name with
  | none => t
  | some item =>
      { t with
        past := fromXmlBase env (item.firstChildElement "past") t.past
        raw := fromXmlBase env (item.firstChildElement "raw") t.raw
        inc := fromXmlBase env (item.firstChildElement "inc") t.inc
        present := fromXmlBase env (item.firstChildElement "present") t.present }

end Total

/-! ### Variables -/

/-- `std::stoi`: an exception, too, for a number that is no `int`. -/
def TextNumbers.stoi (text : TextNumbers) (val : List UInt8) : Option UInt64 :=
  (text.stol val).filter fun n => decide (-2 ^ 31 ≤ n.toInt64.toInt ∧ n.toInt64.toInt < 2 ^ 31)

namespace Variable

variable (text : TextNumbers)

/-- `rVariable::valueToString` for the bytes of the value. -/
def valueToString (v : Variable) (value : List UInt8) : String :=
  if v.type = .undef then "" else text.format v.type value

/-- `rVariable::valueToXml`. -/
def valueToXml (v : Variable) (value : List UInt8) : String :=
  xmlTag v.name (v.valueToString text value)

/-- `rVariable::stringToValue`: the memory behind `m_pointer` afterwards, `value` before. `none` is
the end of the program: an exception that nobody catches, or the null pointer of an external
variable. -/
def stringToValue (v : Variable) (value strvalue : List UInt8) : Option (List UInt8) :=
  match v.type with
  | .undef => some value
  | type => if v.isExternal then none else number type
where
  number : VType → Option (List UInt8)
    | .sint | .int | .dint => (text.stoi strvalue).map fun n => leBytes (getTypeSize v.type) n.toNat
    | .real => text.stof strvalue
    | .lreal => text.stod strvalue
    | _ => (text.stoul strvalue).map fun n => leBytes (getTypeSize v.type) n.toNat

/-- `rVariable::valueFromXml`: the memory of the variable afterwards. -/
def valueFromXml (v : Variable) (root : XmlElement) (value : List UInt8) : Option (List UInt8) :=
  match (root.firstChildElement v.name).bind XmlElement.getText with
  | none => some value
  | some strvalue => v.stringToValue text value strvalue.toUTF8.toList

end Variable

/-! ### Files -/

/-- `MAX_STRHASH_SIZE`. -/
def maxStrhashSize : ℕ := 40

/-- `FILE_DUMP_TOTALS`. -/
def fileDumpTotals : String := "./dump/totals.xml"

/-- `FILE_DUMP_VARIABLES`. -/
def fileDumpVariables : String := "./dump/variables.xml"

/-- The results of `rDumpFile::checkFile`: `TRITONN_RESULT_OK`, `FILE_RESULT_NOTFOUND`,
`FILE_RESULT_ISEMPTY`, an error of tinyxml2, `XMLFILE_RESULT_NFHASH` and
`XMLFILE_RESULT_NOTEQUAL`. -/
inductive DumpResult where
  | ok
  | notfound
  | isempty
  | xml (error : ℕ)
  | nfhash
  | notequal
  deriving DecidableEq, Repr

/-- `xmlDumpFile`, for what the file holds: the result, and the root and the hash if it is well
formed. -/
def xmlDumpFile (env : DumpEnv) (file : Option String) :
    DumpResult × Option (XmlElement × String) :=
  match file with
  | none => (.notfound, none)
  | some text =>
      if text = "" then (.isempty, none)
      else
        match env.parse text with
        | .error error => (.xml error, none)
        | .ok root =>
            match root.getAttribute "hash" with
            | none => (.nfhash, none)
            | some hash =>
                if hash.utf8ByteSize ≠ maxStrhashSize then (.nfhash, none)
                else (.ok, some (root, hash))

/-- `rDumpFile`; the document is given by its root, which `Clear` removes. -/
structure DumpFile where
  prefixText : String := ""
  suffixText : String := ""
  xmlDoc : Option XmlElement := none
  filename : String := ""
  result : DumpResult := .ok

/-- `rDumpFile::checkFile`. -/
def DumpFile.checkFile (f : DumpFile) (env : DumpEnv) (filename : String) (file : Option String)
    (hash : String) : DumpFile :=
  match xmlDumpFile env file with
  | (result, none) => { f with filename := filename, result := result, xmlDoc := none }
  | (_, some (root, strhash)) =>
      { f with
        filename := filename
        result := if strhash ≠ hash then .notequal else .ok
        xmlDoc := some root }

/-- A well-formed dump: a text that tinyxml2 reads, whose root has a hash of the right length. -/
structure DumpText (env : DumpEnv) where
  text : String
  root : XmlElement
  hash : String
  nonempty : text ≠ ""
  parsed : env.parse text = .ok root
  hashed : root.getAttribute "hash" = some hash
  size : hash.utf8ByteSize = maxStrhashSize

/-- What `checkFile` makes of a missing file. -/
lemma DumpFile.checkFile_none (f : DumpFile) (env : DumpEnv) (filename hash : String) :
    f.checkFile env filename none hash
      = { f with filename := filename, result := .notfound, xmlDoc := none } := rfl

/-- What `checkFile` makes of a well-formed dump. -/
lemma DumpFile.checkFile_some (f : DumpFile) {env : DumpEnv} (d : DumpText env)
    (filename hash : String) :
    f.checkFile env filename (some d.text) hash
      = { f with
          filename := filename
          result := if d.hash = hash then .ok else .notequal
          xmlDoc := some d.root } := by
  have hread : xmlDumpFile env (some d.text) = (.ok, some (d.root, d.hash)) := by
    simp [xmlDumpFile, d.nonempty, d.parsed, d.hashed, d.size]
  rw [checkFile, hread]
  by_cases h : d.hash = hash <;> simp [h]

end Tritonn

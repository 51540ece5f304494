import GridLayout.Number.Text
import GridLayout.Text.Quoted

/-!
# What can be wrong with a document

A document fails to load for one of three reasons: its text is not JSON, its text is not TOML, or it
holds something other than what has to be there.  Each reason is a type of causes with its wording;
a `Fault` is a cause together with the place it points at.

Mismatches are worded alike in both formats, except that JSON has a `null` and writes fractional
numbers its own way; that is decided when the value is described as `Found`.
-/

namespace GridLayout

/-- A range of bytes of a text. -/
structure Span where
  start : Nat
  stop : Nat
  deriving DecidableEq, Repr

/-- The range without bytes at an offset. -/
def Span.point (offset : Nat) : Span := ⟨offset, offset⟩

/-! ## Texts that are not JSON -/

/-- How a text fails to be JSON. -/
inductive JsonCause where
  | endInValue
  | endInList
  | endInObject
  | endInString
  | valueExpected
  | wordExpected
  | colonExpected
  | listEndExpected
  | objectEndExpected
  | keyNotString
  | trailingComma
  | trailingText
  | badNumber
  | numberOutOfRange
  | badEscape
  | controlCharacter
  | loneSurrogate
  | openSurrogate
  | tooDeep
  deriving DecidableEq, Repr

namespace JsonCause

/-- The words for it. -/
def text : JsonCause → String
  | .endInValue => "EOF while parsing a value"
  | .endInList => "EOF while parsing a list"
  | .endInObject => "EOF while parsing an object"
  | .endInString => "EOF while parsing a string"
  | .valueExpected => "expected value"
  | .wordExpected => "expected ident"
  | .colonExpected => "expected `:`"
  | .listEndExpected => "expected `,` or `]`"
  | .objectEndExpected => "expected `,` or `\x7d`"
  | .keyNotString => "key must be a string"
  | .trailingComma => "trailing comma"
  | .trailingText => "trailing characters"
  | .badNumber => "invalid number"
  | .numberOutOfRange => "number out of range"
  | .badEscape => "invalid escape"
  | .controlCharacter =>
    "control character (\\u0000-\\u001F) found while parsing a string"
  | .loneSurrogate => "lone leading surrogate in hex escape"
  | .openSurrogate => "unexpected end of hex escape"
  | .tooDeep => "recursion limit exceeded"

/-- Whether the text simply ends too early. -/
def isEnd : JsonCause → Bool
  | .endInValue | .endInList | .endInObject | .endInString => true
  | _ => false

end JsonCause

/-! ## Values that are not what has to be there -/

/-- What was found, in the terms in which it is reported. -/
inductive Found where
  | null
  | boolean (b : Bool)
  | integer (n : Int)
  | floating (text : String)
  | string (s : String)
  | sequence
  | map
  /-- The name of an alternative that needs arguments, without any. -/
  | bareName
  deriving DecidableEq, Repr

/-- The words for what was found. -/
def Found.text : Found → String
  | .null => "null"
  | .boolean b => if b then "boolean `true`" else "boolean `false`"
  | .integer n => s!"integer `{n}`"
  | .floating t => s!"floating point `{t}`"
  | .string s => s!"string {Text.quoted s}"
  | .sequence => "sequence"
  | .map => "map"
  | .bareName => "unit variant"

/-- How a value differs from what has to be there. -/
inductive Mismatch where
  | wrongType (found : Found) (expected : String)
  | wrongValue (found : Found) (expected : String)
  | wrongLength (length : Nat) (expected : String)
  | unknownName (name : String) (known : List String)
  | repeatedField (name : String)
  /-- No alternative of a type fits. -/
  | noAlternative (type : String)
  /-- The name of an alternative can be a string or a table, and this is neither. -/
  | notNamed
  /-- A table that names an alternative has this many entries, and not one. -/
  | wrongEntryCount (count : Nat)
  /-- A table that names an alternative holds more than the name. -/
  | notEmpty
  /-- A table that names an alternative holds something other than a table. -/
  | notTable (kind : String)
  deriving DecidableEq, Repr

/-- The words for a mismatch. -/
def Mismatch.text : Mismatch → String
  | .wrongType found expected => s!"invalid type: {found.text}, expected {expected}"
  | .wrongValue found expected => s!"invalid value: {found.text}, expected {expected}"
  | .wrongLength length expected => s!"invalid length {length}, expected {expected}"
  | .unknownName name known =>
    s!"unknown variant `{name}`, expected one of " ++
      ", ".intercalate (known.map fun k => s!"`{k}`")
  | .repeatedField name => s!"duplicate field `{name}`"
  | .noAlternative type => s!"data did not match any variant of untagged enum {type}"
  | .notNamed => "wanted string or table"
  | .wrongEntryCount count =>
    if count == 0 then "wanted exactly 1 element, found 0 elements"
    else "wanted exactly 1 element, more than 1 element"
  | .notEmpty => "expected empty table"
  | .notTable kind => s!"expected table, found {kind}"

/-! ## Texts that are not TOML -/

/-- A particular reason why a text is not TOML. -/
inductive TomlReason where
  /-- A key that is already there.  The table is named where it is a table with a header. -/
  | repeatedKey (key : String) (table : Option (List String))
  /-- A key that leads into a value without parts. -/
  | notTable (path : List String) (kind : String)
  | outOfRange
  | tooDeep
  | integerTooLarge
  | integerTooSmall
  deriving DecidableEq, Repr

namespace TomlReason

/-- Whether a character may stand in a key without quotes. -/
def isBare (c : Char) : Bool := c.isAlphanum || c == '-' || c == '_'

/-- A key as it is written in a path. -/
def keyText (key : String) : String :=
  if !key.isEmpty && key.toList.all isBare then key
  else if key.contains '"' && !key.contains '\'' then s!"'{key}'"
  else Text.quoted key

/-- A path of keys. -/
def pathText (path : List String) : String := ".".intercalate (path.map keyText)

/-- The words for a reason. -/
def text : TomlReason → String
  | .repeatedKey key none => s!"duplicate key `{key}`"
  | .repeatedKey key (some []) => s!"duplicate key `{key}` in document root"
  | .repeatedKey key (some path) => s!"duplicate key `{key}` in table `{pathText path}`"
  | .notTable path kind =>
    s!"dotted key `{pathText path}` attempted to extend non-table type ({kind})"
  | .outOfRange => "value is out of range"
  | .tooDeep => "recursion limit exceeded"
  | .integerTooLarge => "number too large to fit in target type"
  | .integerTooSmall => "number too small to fit in target type"

end TomlReason

/-- What a text fails to be as TOML: what was being read, what could have stood there, and a reason
where there is a particular one. -/
structure TomlCause where
  reading : Option String
  expected : List String
  reason : Option TomlReason
  deriving DecidableEq, Repr

/-- The words for it, one line for each part. -/
def TomlCause.text (c : TomlCause) : String :=
  let reading := c.reading.toList.map fun r => s!"invalid {r}"
  let expected := if c.expected.isEmpty then [] else ["expected " ++ ", ".intercalate c.expected]
  "\n".intercalate (reading ++ expected ++ c.reason.toList.map TomlReason.text)

/-! ## Faults -/

/-- Why a document does not load. -/
inductive Cause where
  | json (cause : JsonCause)
  | toml (cause : TomlCause)
  | mismatch (mismatch : Mismatch)
  deriving DecidableEq, Repr

/-- The words for a cause. -/
def Cause.text : Cause → String
  | .json c => c.text
  | .toml c => c.text
  | .mismatch m => m.text

/-- A cause and the place it points at.  A place may be unknown. -/
structure Fault where
  cause : Cause
  span : Option Span
  deriving DecidableEq, Repr

/-- A text that is not JSON, from an offset on. -/
def Fault.json (cause : JsonCause) (offset : Nat) : Fault := ⟨.json cause, some (.point offset)⟩

/-- A mismatch at a place. -/
def Fault.mismatch (m : Mismatch) (span : Span) : Fault := ⟨.mismatch m, some span⟩

end GridLayout

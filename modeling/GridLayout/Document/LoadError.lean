import GridLayout.Document.Folder
import GridLayout.Document.Load
import GridLayout.Report.Excerpt

/-!
# Reports on documents that do not load

A document fails to load because its file cannot be read, or because of a fault in its text.  The
message about a fault names its line and column, each format in its own way, and the report shows
the place in the text.
-/

namespace GridLayout

/-! ## Messages about JSON -/

/-- The position that a fault in a JSON text is reported at: line, and bytes of the line before it.
-/
def Fault.jsonPosition (f : Fault) (source : String) : Position :=
  Position.ofOffset (bytesOf source) ((f.span.map Span.start).getD 0)

/-- The message about a fault in a JSON text. -/
def Fault.jsonText (f : Fault) (source : String) : String :=
  let p := f.jsonPosition source
  s!"{f.cause.text} at line {p.line} column {p.column}"

/-- The byte of a text at a line and a column, both counted from one, or none at its end. -/
def byteAt? (source : String) (line column : Nat) : Option Span :=
  let bytes := bytesOf source
  (offsetOf? bytes line column).map fun o => ⟨o, min (o + 1) bytes.length⟩

/-- What a fault in a JSON text points at: the byte at the reported line and column. -/
def Fault.jsonSpan? (f : Fault) (source : String) : Option Span :=
  let p := f.jsonPosition source
  byteAt? source p.line p.column

/-! ## Messages about TOML -/

/-- Whether a byte continues a character. -/
def continues (b : UInt8) : Bool := 0x80 ≤ b && b < 0xc0

/-- Line and column of an offset, both counted from zero, the column in characters where the offset
is that of a character of one byte.  Behind the last byte a column is counted on from there. -/
def tomlPosition (bytes : List UInt8) (offset : Nat) : Nat × Nat :=
  if bytes.isEmpty then (0, offset)
  else
    let inside := min offset (bytes.length - 1)
    let before := bytes.take inside
    let column := (before.reverse.takeWhile fun b => b != lineFeed).length
    let line := ((bytes.drop (inside - column)).take (column + 1))
    let characters := (line.filter fun b => !continues b).length - 1
    let cut := (bytes[inside + 1]?.map continues).getD false
    (before.count lineFeed, (if cut then column else characters) + (offset - inside))

/-- The message about a fault in a TOML text, with the line it is in. -/
def Fault.tomlText (f : Fault) (source : String) : String :=
  let context := match f.span with
    | none => []
    | some span =>
      let (line, column) := tomlPosition (bytesOf source) span.start
      let content := ((source.splitOn "\n")[line]?).getD ""
      let number := toString (line + 1)
      let gutter := Report.times (number.length + 1) ' ' ++ "|"
      let marks := min (span.stop - span.start) (content.utf8ByteSize - column)
      [s!"TOML parse error at line {number}, column {column + 1}", gutter,
        s!"{number} | {content}",
        gutter ++ Report.times (column + 1) ' ' ++ Report.times (max marks 1) '^']
  String.join ((context ++ [f.cause.text]).map fun l => l ++ "\n")

/-! ## Errors -/

/-- Why a document does not load. -/
inductive LoadError where
  | file (path : String) (error : FileError)
  | text (format : Format) (source : String) (fault : Fault)

namespace LoadError

/-- The message about it. -/
def message : LoadError → String
  | .file path e => s!"failed to read layout document {path}: {e.text}"
  | .text .json source f => "failed to parse layout JSON: " ++ f.jsonText source
  | .text .toml source f => "failed to parse layout TOML: " ++ f.tomlText source

/-- The range of bytes it points at. -/
def span? : LoadError → Option Span
  | .file .. => none
  | .text .json source f => f.jsonSpan? source
  | .text .toml _ f => f.span

/-- What is said at the mark: where the excerpt shows the line anyway, only what is wrong. -/
def detail : LoadError → String
  | .text .toml _ f => f.cause.text
  | e => e.message

/-- The report about it, with the place in the text if there is one. -/
def report (e : LoadError) (filename : String) : String :=
  match e, e.span? with
  | .text _ source _, some span =>
    String.join (("Error: invalid layout document" ::
      Report.excerpt filename source span e.detail).map fun l => l ++ "\n")
  | e, _ => e.message

end LoadError

/-- Loads a document from a text, or says why it does not load. -/
def Document.load (format : Format) (source : String) : Except LoadError Document :=
  (Document.ofText format source).mapError fun f => .text format source f

/-- Loads a document from what reading the file at a path has brought. -/
def Document.ofFile (path : String) (content : Except FileError String) :
    Except LoadError Document := do
  let source ← content.mapError fun e => .file path e
  Document.load (Path.format path) source

end GridLayout

import GridLayout.Document.Content
import GridLayout.Document.Json.Tree
import GridLayout.Document.Position
import GridLayout.Document.Toml.Tree

/-!
# Loading documents

A document is loaded from a text in one of the two formats.  Text and meaning are judged together,
so that the first fault is the one that is reported.
-/

namespace GridLayout

/-- Reads a JSON text as one thing that `read` knows. -/
def readJson {β : Type} (read : Node → Except Fault β) (source : String) : Except Fault β := do
  let tree := Json.Tree.ofText source
  let b ← read tree.root
  match tree.trailing with
  | some f => throw f
  | none => return b

namespace Document

/-- Loads a document from a JSON text. -/
def ofJson (source : String) : Except Fault Document := readJson (readDocument .json) source

/-- Loads a document from a TOML text. -/
def ofToml (source : String) : Except Fault Document := do
  let root ← Toml.ofText source
  readDocument .toml root

/-- Loads a document. -/
def ofText (format : Format) (source : String) : Except Fault Document :=
  match format with
  | .json => ofJson source
  | .toml => ofToml source

end Document

end GridLayout

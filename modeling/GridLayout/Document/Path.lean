import GridLayout.Document.Node

/-!
# Paths of documents

The format of a document that is kept in a file follows from the name of the file: it is JSON when
the extension says so, in capitals or not, and TOML otherwise.
-/

namespace GridLayout

namespace Path

/-- The parts of a path between its slashes, without those that lead nowhere. -/
def parts (path : String) : List String :=
  (path.splitOn "/").filter fun p => p != "" && p != "."

/-- The extension of the file that a path names: what follows the last point of its name, unless
that point is the first character. -/
def extension? (path : String) : Option String :=
  let name := (parts path).getLastD ""
  if name == ".." then none
  else
    match (name.splitOn ".").reverse with
    | ext :: rest => if rest.isEmpty || rest == [""] then none else some ext
    | [] => none

/-- An upper-case letter of ASCII in lower case. -/
def lowerAscii (c : Char) : Char := if 'A' ≤ c && c ≤ 'Z' then Char.ofNat (c.toNat + 32) else c

/-- Whether a path names a JSON document. -/
def isJson (path : String) : Bool :=
  match extension? path with
  | some ext => ext.toList.map lowerAscii == "json".toList
  | none => false

/-- The format of the document at a path. -/
def format (path : String) : Format := if isJson path then .json else .toml

end Path

end GridLayout

import GridLayout.Scalar

/-!
# Raw values

What a document says where the library expects something else is kept as it was written, so that it
can be shown again in a message.  `Value` is that: the data of JSON, with integers told apart from
fractional numbers.

A list of fields may come in any order and name a key twice.  `canonical` is the form in which a
value is kept: keys in order, of two equal keys the later one, and no number that JSON cannot write.

Texts come in two layouts, `text` on one line and `pretty` over several.
-/

namespace GridLayout

/-- A value as a document may write it. -/
inductive Value (α : Type) where
  | null
  | bool (b : Bool)
  | int (n : Int)
  | float (x : α)
  | string (s : String)
  | list (items : List (Value α))
  | object (fields : List (String × Value α))
  deriving Repr

namespace Value

variable {α : Type}

/-! ## Fields -/

/-- The value of a field of an object. -/
def field? : Value α → String → Option (Value α)
  | .object fields, key => fields.lookup key
  | _, _ => none

/-- The text of a string value. -/
def string? : Value α → Option String
  | .string s => some s
  | _ => none

/-- Puts a field into a list of fields that is ordered by key, in place of one of the same key. -/
def insertField (key : String) (v : Value α) :
    List (String × Value α) → List (String × Value α)
  | [] => [(key, v)]
  | (k, w) :: rest =>
    if key = k then (key, v) :: rest
    else if key < k then (key, v) :: (k, w) :: rest
    else (k, w) :: insertField key v rest

/-- The object of some fields, ordered by key. -/
def ofFields (fields : List (String × Value α)) : Value α :=
  .object (fields.foldl (fun acc e => insertField e.1 e.2 acc) [])

variable [Scalar α]

/-! ## The form in which a value is kept -/

mutual

/-- Fields in the order of their keys, the later of two equal keys, and `null` for a number that is
not finite. -/
def canonical : Value α → Value α
  | .null => .null
  | .bool b => .bool b
  | .int n => .int n
  | .float x => if Scalar.isFinite x then .float x else .null
  | .string s => .string s
  | .list items => .list (canonicalItems items)
  | .object fields => .object (canonicalFields fields)

/-- The items of a list, each in canonical form. -/
def canonicalItems : List (Value α) → List (Value α)
  | [] => []
  | v :: rest => canonical v :: canonicalItems rest

/-- The fields of an object in canonical form: a field is dropped when a later one has its key. -/
def canonicalFields : List (String × Value α) → List (String × Value α)
  | [] => []
  | (k, v) :: rest =>
    let others := canonicalFields rest
    if others.any fun e => e.1 == k then others else insertField k (canonical v) others

end

/-! ## Text -/

/-- The lower-case hexadecimal digit of a number below sixteen. -/
def hexDigit (n : Nat) : Char := (Nat.digitChar n)

/-- A character inside a quoted JSON string. -/
def escape (c : Char) : String :=
  match c with
  | '"' => "\\\""
  | '\\' => "\\\\"
  | '\x08' => "\\b"
  | '\x0c' => "\\f"
  | '\n' => "\\n"
  | '\r' => "\\r"
  | '\t' => "\\t"
  | c =>
    if c.toNat < 0x20 then
      String.ofList ['\\', 'u', '0', '0', hexDigit (c.toNat / 16), hexDigit (c.toNat % 16)]
    else c.toString

/-- A quoted JSON string. -/
def quote (s : String) : String := "\"" ++ String.join (s.toList.map escape) ++ "\""

/-- The text of a value that is neither a list nor an object. -/
def scalarText : Value α → String
  | .bool b => if b then "true" else "false"
  | .int n => toString n
  | .float x => if Scalar.isFinite x then Scalar.token x else "null"
  | .string s => quote s
  | _ => "null"

mutual

/-- The text of a value on one line, without blanks. -/
def text : Value α → String
  | .list items => "[" ++ ",".intercalate (itemTexts items) ++ "]"
  | .object fields => "\x7b" ++ ",".intercalate (fieldTexts fields) ++ "\x7d"
  | v => scalarText v

/-- The texts of the items of a list. -/
def itemTexts : List (Value α) → List String
  | [] => []
  | v :: rest => text v :: itemTexts rest

/-- The texts of the fields of an object. -/
def fieldTexts : List (String × Value α) → List String
  | [] => []
  | (k, v) :: rest => (quote k ++ ":" ++ text v) :: fieldTexts rest

end

/-- A line break and the blanks of an indentation. -/
def newline (indent : Nat) : String := "\n" ++ String.ofList (List.replicate (2 * indent) ' ')

/-- Items between brackets, one on a line; nothing between the brackets when there are none. -/
def bracketed (opening closing : String) (indent : Nat) (items : List String) : String :=
  if items.isEmpty then opening ++ closing
  else
    opening ++ newline (indent + 1) ++ ("," ++ newline (indent + 1)).intercalate items ++
      newline indent ++ closing

mutual

/-- The text of a value over several lines, two blanks to a level. -/
def pretty (indent : Nat) : Value α → String
  | .list items => bracketed "[" "]" indent (prettyItems (indent + 1) items)
  | .object fields => bracketed "\x7b" "\x7d" indent (prettyFields (indent + 1) fields)
  | v => scalarText v

/-- The texts of the items of a list. -/
def prettyItems (indent : Nat) : List (Value α) → List String
  | [] => []
  | v :: rest => pretty indent v :: prettyItems indent rest

/-- The texts of the fields of an object. -/
def prettyFields (indent : Nat) : List (String × Value α) → List String
  | [] => []
  | (k, v) :: rest => (quote k ++ ": " ++ pretty indent v) :: prettyFields indent rest

end

end Value

end GridLayout

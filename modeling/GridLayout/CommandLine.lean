import GridLayout.Document.LoadError
import GridLayout.Solution

/-!
# The command line

The arguments of a run say which document to solve and how to show the solution.  `Command.ofArgs`
reads them from left to right; it stops at the first that asks for help or cannot be accepted.

A run comes down to an `Outcome`: an exit status and what goes to the two output streams.
`CommandLine.run` is given the reading of documents, and everything else is decided here.
-/

namespace GridLayout

/-! ## Commands -/

/-- The form a solution is shown in. -/
inductive Form where
  | text
  | json
  deriving DecidableEq, Repr

/-- The form of a name. -/
def Form.ofName? : String → Option Form
  | "text" => some .text
  | "json" => some .json
  | _ => none

/-- What a run is asked to do. -/
structure Command where
  /-- The path of the document; without one it is read from the standard input. -/
  input : Option String := none
  /-- The form that is asked for. -/
  form : Option Form := none
  /-- The policy that takes the place of the document's. -/
  overlap : Option OverlapPolicy := none
  /-- The breakpoints that take the place of the document's, if there are any. -/
  breakpoints : List Breakpoint := []
  /-- Whether errors in the diagnostics make the run fail. -/
  strict : Bool := false
  /-- Whether the run tells what it does. -/
  verbose : Bool := false
  deriving DecidableEq, Repr

/-! ## Options -/

/-- The options with a value. -/
inductive Setting where
  | format
  | overlap
  | breakpoint
  deriving DecidableEq, Repr

/-- The options without a value. -/
inductive Switch where
  | strict
  | verbose
  | help
  deriving DecidableEq, Repr

/-- The name of an option with a value. -/
def Setting.name : Setting → String
  | .format => "--format"
  | .overlap => "--overlap"
  | .breakpoint => "--breakpoint"

/-- The name of an option without a value. -/
def Switch.name : Switch → String
  | .strict => "--strict"
  | .verbose => "--verbose"
  | .help => "--help"

/-- An option. -/
inductive CommandOption where
  | setting (s : Setting)
  | switch (s : Switch)
  deriving DecidableEq, Repr

/-- The option of a long name. -/
def CommandOption.ofLong? : String → Option CommandOption
  | "--format" => some (.setting .format)
  | "--overlap" => some (.setting .overlap)
  | "--breakpoint" => some (.setting .breakpoint)
  | "--strict" => some (.switch .strict)
  | "--verbose" => some (.switch .verbose)
  | "--help" => some (.switch .help)
  | _ => none

/-- The option of a letter. -/
def CommandOption.ofLetter? : Char → Option CommandOption
  | 'f' => some (.setting .format)
  | 'o' => some (.setting .overlap)
  | 'b' => some (.setting .breakpoint)
  | 'v' => some (.switch .verbose)
  | 'h' => some (.switch .help)
  | _ => none

/-! ## Refusals -/

/-- Why arguments are not accepted. -/
inductive UsageError where
  | unexpected (argument : String)
  | repeated (option : String)
  | valueMissing (setting : Setting)
  | valueUnexpected (switch : Switch) (value : String)
  | valueInvalid (setting : Setting) (value : String)
  | inputMissing
  deriving DecidableEq, Repr

/-- The words for it. -/
def UsageError.text : UsageError → String
  | .unexpected a => s!"unexpected argument '{a}' found"
  | .repeated o => s!"the argument '{o}' cannot be used multiple times"
  | .valueMissing s => s!"a value is required for '{s.name}' but none was supplied"
  | .valueUnexpected s v => s!"unexpected value '{v}' for '{s.name}' found; no more were expected"
  | .valueInvalid s v => s!"invalid value '{v}' for '{s.name}'"
  | .inputMissing => "a value is required for '[INPUT]' but none was supplied"

/-- Why no document is solved: help is asked for, or the arguments are not accepted. -/
inductive Refusal where
  | help
  | misuse (error : UsageError)
  deriving DecidableEq, Repr

/-! ## Reading arguments -/

/-- What has been read of the arguments. -/
structure Arguments where
  command : Command
  /-- The option whose value comes next. -/
  awaited : Option Setting
  /-- Whether all that follows are operands, because two dashes have been read. -/
  operandsOnly : Bool
  deriving Repr

namespace Arguments

/-- Nothing has been read. -/
def start : Arguments := ⟨{}, none, false⟩

/-- Gives an option its value. -/
def assign (a : Arguments) (s : Setting) (value : String) : Except Refusal Arguments :=
  let invalid : Refusal := .misuse (.valueInvalid s value)
  let c := a.command
  let done (c : Command) : Except Refusal Arguments := .ok { a with command := c, awaited := none }
  match s with
  | .format =>
    match c.form, Form.ofName? value with
    | some _, _ => .error (.misuse (.repeated s.name))
    | none, none => .error invalid
    | none, some f => done { c with form := some f }
  | .overlap =>
    match c.overlap, OverlapPolicy.ofName? value with
    | some _, _ => .error (.misuse (.repeated s.name))
    | none, none => .error invalid
    | none, some p => done { c with overlap := some p }
  | .breakpoint =>
    match Breakpoint.ofName? value with
    | none => .error invalid
    | some bp => done { c with breakpoints := c.breakpoints ++ [bp] }

/-- Turns an option without a value on. -/
def turnOn (a : Arguments) (s : Switch) : Except Refusal Arguments :=
  let c := a.command
  let repeated : Except Refusal Arguments := .error (.misuse (.repeated s.name))
  match s with
  | .help => .error .help
  | .strict => if c.strict then repeated else .ok { a with command := { c with strict := true } }
  | .verbose => if c.verbose then repeated else .ok { a with command := { c with verbose := true } }

/-- Takes the path of the document. -/
def operand (a : Arguments) (path : String) : Except Refusal Arguments :=
  match a.command.input with
  | some _ => .error (.misuse (.unexpected path))
  | none =>
    if path.isEmpty then .error (.misuse .inputMissing)
    else .ok { a with command := { a.command with input := some path } }

/-- Takes a long option, which may bring its value after a sign of equality. -/
def long (a : Arguments) (name : String) (value : Option String) : Except Refusal Arguments :=
  match CommandOption.ofLong? name, value with
  | none, _ => .error (.misuse (.unexpected name))
  | some (.switch s), none => a.turnOn s
  | some (.switch s), some v => .error (.misuse (.valueUnexpected s v))
  | some (.setting s), none => .ok { a with awaited := some s }
  | some (.setting s), some v => a.assign s v

/-- Takes the letters behind a single dash.  What follows the letter of an option with a value is
that value, with or without a sign of equality. -/
def letters (a : Arguments) : List Char → Except Refusal Arguments
  | [] => .ok a
  | c :: rest =>
    match CommandOption.ofLetter? c with
    | none => .error (.misuse (.unexpected (String.ofList ['-', c])))
    | some (.switch s) => do
      let a ← a.turnOn s
      a.letters rest
    | some (.setting s) =>
      match rest with
      | [] => .ok { a with awaited := some s }
      | '=' :: value => a.assign s (String.ofList value)
      | value => a.assign s (String.ofList value)

/-- Takes the next argument. -/
def next (a : Arguments) (arg : String) : Except Refusal Arguments :=
  match a.awaited, a.operandsOnly, arg.toList with
  | some s, _, '-' :: _ :: _ => .error (.misuse (.valueMissing s))
  | some s, _, _ => a.assign s arg
  | none, false, ['-', '-'] => .ok { a with operandsOnly := true }
  | none, false, '-' :: '-' :: rest =>
    let name := rest.takeWhile fun c => c != '='
    let value := (rest.dropWhile fun c => c != '=').tail?.map String.ofList
    a.long (String.ofList ('-' :: '-' :: name)) value
  | none, false, '-' :: c :: rest => a.letters (c :: rest)
  | none, _, _ => a.operand arg

/-- Ends the reading. -/
def finish (a : Arguments) : Except Refusal Command :=
  match a.awaited with
  | some s => .error (.misuse (.valueMissing s))
  | none => .ok a.command

end Arguments

/-- Reads the arguments of a run. -/
def Command.ofArgs (args : List String) : Except Refusal Command := do
  let a ← args.foldlM Arguments.next Arguments.start
  a.finish

/-! ## Outcomes -/

/-- What a run leaves behind. -/
structure Outcome where
  /-- The exit status. -/
  status : UInt32
  /-- What goes to the standard output. -/
  out : String
  /-- What goes to the standard error stream. -/
  err : String
  deriving DecidableEq, Repr

/-- Some lines as a text. -/
def joinLines (lines : List String) : String := String.join (lines.map fun l => l ++ "\n")

/-- How the program is called. -/
def usageLine : String := "Usage: boxgrid [OPTIONS] [INPUT]"

/-- What the program tells about itself. -/
def helpText : String := joinLines [
  "Solve responsive box layouts into CSS grid areas",
  "",
  usageLine,
  "",
  "Arguments:",
  "  [INPUT]  Layout document, TOML or JSON (reads TOML from stdin if not provided)",
  "",
  "Options:",
  "  -f, --format <FORMAT>           Output format [default: text] [possible values: text, json]",
  "  -o, --overlap <OVERLAP>         Overlap policy, overriding the document's [solver] table",
  "  -b, --breakpoint <BREAKPOINTS>  Breakpoints to audit for overlaps, " ++
    "overriding the document's [solver] table",
  "      --strict                    Exit with status 1 if any error diagnostic was recorded",
  "  -v, --verbose                   Enable debug logging",
  "  -h, --help                      Print help"]

/-- The outcome of a run that solves nothing. -/
def Refusal.outcome : Refusal → Outcome
  | .help => ⟨0, helpText, ""⟩
  | .misuse e =>
    ⟨2, "", joinLines
      ["error: " ++ e.text, "", usageLine, "", "For more information, try '--help'."]⟩

namespace Command

/-- The name of the document in reports. -/
def sourceName (c : Command) : String := c.input.getD "<stdin>"

/-- The format of the document; the standard input is TOML. -/
def sourceFormat (c : Command) : Format := (c.input.map Path.format).getD .toml

/-- The options of the document with those of the command in their place. -/
def options (c : Command) (d : Document) : Options Float :=
  { d.options with
    overlapPolicy := c.overlap.getD d.options.overlapPolicy
    overlapBreakpoints :=
      if c.breakpoints.isEmpty then d.options.overlapBreakpoints else c.breakpoints }

/-- The solution in the form that is asked for. -/
def render (c : Command) (s : Solution Float) : String :=
  match c.form.getD .text with
  | .text => s.plan.text
  | .json => s.toValue.pretty 0 ++ "\n"

/-- What a run tells about itself when it is asked to. -/
def log (c : Command) (d : Document) (s : Solution Float) : List String :=
  if c.verbose then
    [s!"debug: {c.sourceName} has {d.layout.sections.size} sections",
      s!"debug: {s.diagnostics.length} diagnostics"]
  else []

/-- The outcome of a run whose document is loaded. -/
def solveOutcome (c : Command) (d : Document) : Outcome :=
  let s := solve d.layout d.catalog (c.options d)
  ⟨if c.strict && Diagnostic.hasErrors s.diagnostics then 1 else 0, c.render s,
    joinLines (c.log d s ++ s.diagnostics.map Diagnostic.line)⟩

/-- The outcome of a run, after the attempt to read its document. -/
def outcome (c : Command) : Except FileError String → Outcome
  | .error e =>
    match c.input with
    | some path => ⟨1, "", s!"Error reading file '{path}': {e.text}\n"⟩
    | none => ⟨1, "", s!"Error reading from stdin: {e.text}\n"⟩
  | .ok source =>
    match Document.load c.sourceFormat source with
    | .error e => ⟨1, "", e.report c.sourceName ++ "\n"⟩
    | .ok d => c.solveOutcome d

end Command

/-- Runs the program.  `read` brings the document at a path, or the one on the standard input; from
a terminal no document is read, and the program tells about itself. -/
def CommandLine.run {m : Type → Type} [Monad m] (args : List String) (terminal : Bool)
    (read : Option String → m (Except FileError String)) : m Outcome := do
  match Command.ofArgs args with
  | .error refusal => return refusal.outcome
  | .ok c =>
    if terminal && c.input.isNone then return Refusal.help.outcome
    else return c.outcome (← read c.input)

end GridLayout

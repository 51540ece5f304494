import GridLayout.CommandLine

/-!
# The program

All that happens outside: the document is read from a file or from the standard input, and the
outcome of the run is written to the two output streams.
-/

namespace GridLayout

/-- What an error of the file system means for a document. -/
def FileError.ofIOError : IO.Error → FileError
  | .noFileOrDirectory .. => .notFound
  | .inappropriateType _ 20 _ => .notDirectory
  | .inappropriateType _ 21 _ => .isDirectory
  | .inappropriateType _ code details => .other s!"{details} (os error {code})"
  | .invalidArgument _ code details => .other s!"{details} (os error {code})"
  | .permissionDenied _ code details => .other s!"{details} (os error {code})"
  | .resourceExhausted _ code details => .other s!"{details} (os error {code})"
  | e => .other e.toString

/-- The text of some bytes. -/
def textOfBytes (bytes : ByteArray) : Except FileError String :=
  match String.fromUTF8? bytes with
  | some text => .ok text
  | none => .error .notText

/-- Reads a document. -/
def readDocumentText (path : Option String) : IO (Except FileError String) := do
  try
    match path with
    | some path => return textOfBytes (← (← IO.FS.Handle.mk path .read).readBinToEnd)
    | none => return textOfBytes (← (← IO.getStdin).readBinToEnd)
  catch e => return .error (FileError.ofIOError e)

end GridLayout

open GridLayout in
/-- Runs the program. -/
def main (args : List String) : IO UInt32 := do
  let terminal ← (← IO.getStdin).isTty
  let outcome ← CommandLine.run args terminal readDocumentText
  (← IO.getStderr).putStr outcome.err
  (← IO.getStdout).putStr outcome.out
  return outcome.status

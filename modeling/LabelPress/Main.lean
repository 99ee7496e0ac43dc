import LabelPress.CommandLine.Run

/-!
# The command line program

The run of a command line in the surroundings of a process: its files, its streams and its clock. No
transport to the rendering service is built in, so a preview always ends with the report that the
service cannot be reached.
-/

namespace LabelPress.CommandLine

open LabelPress.Files

/-- The cause of a failed operation on a file. -/
def faultOf : IO.Error → Fault
  | .noFileOrDirectory .. => .fileMissing
  | .inappropriateType .. => .isDirectory
  | _ => .fileUnusable

/-- A text as a string. A surrogate is shown by the replacement character. -/
def stringOf (text : Text) : String :=
  String.ofList (text.map fun c => c.char?.getD '\uFFFD')

/-- What is said about a fault that has no words of its own. -/
def describe (fault : Fault) : Text :=
  match fault.message? with
  | some message => message
  | none =>
    String.toText <|
      match fault with
      | .notJson => "a file is not in JSON"
      | .nestedTooDeeply => "the data of a file is nested too deeply"
      | .notUtf8 => "a file is not in UTF-8"
      | .notEncodable => "a text holds a lone surrogate"
      | .fileMissing => "a file or directory is missing"
      | .isDirectory => "a file is expected where a directory is"
      | .notDirectory => "a directory is expected where a file is"
      | .fileUnusable => "a file cannot be used"
      | .notAnImage => "the preview is not an image"
      | .overflow => "a number is too large"
      | _ => "a value does not fit its place"

/-- The outcome of an operation on a file. -/
def attempt {α : Type} (action : IO α) : IO (Except Fault α) := do
  try return .ok (← action)
  catch error => return .error (faultOf error)

/-- The surroundings of the process. -/
def processSurroundings : Surroundings IO where
  read path := attempt do
    return (← IO.FS.readBinFile (stringOf path.toText)).toList
  write path content :=
    match content with
    | .bytes octets => attempt do
      IO.FS.writeBinFile (stringOf path.toText) (ByteArray.mk octets.toArray)
    | .image _ _ => return .error .fileUnusable
  print stream text :=
    match stream.encode text with
    | .error fault => return .error fault
    | .ok () => attempt do
      match stream with
      | .results => IO.print (stringOf text)
      | .notes => IO.eprint (stringOf text)
  post _ := return .unreachable "no transport is available".toText
  draw _ _ := return .error .fileUnusable
  clock := do return (← IO.monoMsNow) / 10

/-- The help text. -/
def help : Text :=
  "Generates label programs from documents, templates and program files.\nFlags: ".toText ++
    Text.join ", ".toText (Flag.all.map Flag.title) ++ "\n".toText

/-- Carries out a command line and gives the exit code of the process. -/
def runWords (words : List Text) : IO UInt32 := do
  match Arguments.ofWords words with
  | .error .help =>
    IO.print (stringOf help)
    return 0
  | .error (.usage error) =>
    IO.eprintln (stringOf ("error: ".toText ++ error.message))
    return 2
  | .ok given =>
    match ← (run processSurroundings given).run with
    | .ok () => return 0
    | .error fault =>
      IO.eprintln (stringOf ("error: ".toText ++ describe fault))
      return 1

end LabelPress.CommandLine

/-- The entry point. -/
def main (words : List String) : IO UInt32 :=
  LabelPress.CommandLine.runWords (words.map String.toText)

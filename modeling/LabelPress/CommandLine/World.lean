import LabelPress.CommandLine.Surroundings

/-!
# Worlds

A world is everything that a run of the command line can see and change: the files of a system, a
service with a fixed answer to every request, two streams, and the record of what was printed,
requested and drawn. Its clock stands still.
-/

namespace LabelPress.CommandLine

open LabelPress.Files

/-- What is in a file: bytes, an image of the service, or a proof sheet. -/
inductive FileContent where
  | content (content : Preview.Content)
  | sheet (sheet : ProofSheet)

/-- The bytes of a file that is read as text. Images and proof sheets are none. -/
def FileContent.octets : FileContent → Except Fault (List UInt8)
  | .content (.bytes octets) => .ok octets
  | .content (.image _ _) | .sheet _ => .error .notUtf8

/-- A text that was put on a stream, and whether the stream took it. -/
structure Print where
  stream : Stream
  text : Text
  outcome : Except Fault Unit

/-- The surroundings of a run as data. -/
structure World where
  files : FileTree FileContent
  service : Preview.Request → Preview.Reply
  takes : Stream → Text → Except Fault Unit := Stream.encode
  prints : List Print := []
  requests : List Preview.Request := []
  sheets : List (Path × ProofSheet) := []

namespace World

/-- What stands on a stream: the texts that it took. -/
def printed (world : World) (stream : Stream) : Text :=
  world.prints.flatMap fun print =>
    if print.stream = stream && print.outcome.isOk then print.text else []

/-- Puts a file into a world, if its path allows it. -/
def store (world : World) (path : Path) (content : FileContent) : Except Fault Unit × World :=
  match world.files.write path content with
  | .ok files => (.ok (), { world with files })
  | .error fault => (.error fault, world)

/-- Puts text on a stream of a world, if the stream takes it. -/
def print (world : World) (stream : Stream) (text : Text) : Except Fault Unit × World :=
  let outcome := world.takes stream text
  (outcome, { world with prints := world.prints ++ [⟨stream, text, outcome⟩] })

/-- A world as surroundings. A proof sheet counts as drawn even if its file cannot be written. -/
def surroundings : Surroundings (StateM World) where
  read path := do return (← get).files.read path >>= FileContent.octets
  write path content := fun world => world.store path (.content content)
  print stream text := fun world => world.print stream text
  post request := do
    modify fun world => { world with requests := world.requests ++ [request] }
    return (← get).service request
  draw path sheet := fun world =>
    { world with sheets := world.sheets ++ [(path, sheet)] }.store path (.sheet sheet)
  clock := return 0

end World

end LabelPress.CommandLine

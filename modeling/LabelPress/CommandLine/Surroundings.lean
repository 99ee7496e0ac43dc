import LabelPress.Files.FileTree
import LabelPress.Preview.Service
import LabelPress.ProofSheet
import LabelPress.Text.Utf8

/-!
# Surroundings

What a run of the command line needs from outside: files, two streams of text, the rendering
service, a printer of proof sheets and a clock. A run is written once for all surroundings.
-/

namespace LabelPress.CommandLine

open LabelPress.Files

/-- The streams of text: one for results, one for notes about them. -/
inductive Stream where
  | results
  | notes
  deriving DecidableEq

/-- Whether a text can be put on a stream. Results are in UTF-8; in notes surrogates are escaped. -/
def Stream.encode (stream : Stream) (text : Text) : Except Fault Unit :=
  match stream with
  | .results => text.toUtf8.map fun _ => ()
  | .notes => .ok ()

/-- The operations that surround a run. Those that can fail say so in their result. -/
structure Surroundings (m : Type → Type) where
  /-- The bytes of the file at a path. -/
  read : Path → m (Except Fault (List UInt8))
  /-- Puts bytes, or an image of the service, into the file at a path. -/
  write : Path → Preview.Content → m (Except Fault Unit)
  /-- Puts text on a stream. -/
  print : Stream → Text → m (Except Fault Unit)
  /-- Sends a request to the rendering service. -/
  post : Preview.Request → m Preview.Reply
  /-- Draws a proof sheet and puts it into the file at a path. -/
  draw : Path → ProofSheet → m (Except Fault Unit)
  /-- The hundredths of a second that have gone by. -/
  clock : m Nat

namespace Surroundings

variable {m : Type → Type} [Monad m]

/-- The text in the file at a path. -/
def readText (host : Surroundings m) (path : Text) : ExceptT Fault m Text := do
  let octets ← ExceptT.mk (host.read (Path.ofText path))
  ofExcept (Text.ofUtf8 octets)

/-- Puts a line on a stream. -/
def printLine (host : Surroundings m) (stream : Stream) (line : Text) : ExceptT Fault m Unit :=
  ExceptT.mk (host.print stream (line ++ "\n".toText))

/-- Draws the proof sheet of a rendering. -/
def writeProof (host : Surroundings m) (rendering : Preview.Rendering) (size : LabelSize)
    (path : Path) : ExceptT Fault m Unit := do
  let (width, height) ← ofExcept rendering.content.imageSize
  let sheet ← ofExcept (ProofSheet.ofImage size width height)
  ExceptT.mk (host.draw path sheet)

end Surroundings

end LabelPress.CommandLine

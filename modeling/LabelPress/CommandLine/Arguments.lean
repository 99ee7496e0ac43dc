import LabelPress.CommandLine.Argument
import LabelPress.CommandLine.Flag

/-!
# Arguments

A command line is read in two passes. The first tells for each word by itself whether it is a flag,
so a word that could be several flags is refused before anything else happens. The second gives the
flags their values and lets them take effect from left to right.

A long flag may be shortened as long as no other flag begins with the same text, and may carry its
value behind an equals sign. A short flag may carry its value directly or behind an equals sign;
short flags without values may be joined behind one dash. After two dashes no word is a flag, and two
dashes that are attached to a flag give it nothing.
-/

namespace LabelPress.CommandLine

/-- What a word of a command line is by itself. -/
inductive Word where
  /-- A value, or a word out of place. -/
  | plain (text : Text)
  /-- A long or a short flag, perhaps with something attached to it. -/
  | flagged (flag : Flag) (isShort : Bool) (attached : Option Text)
  /-- A word that is neither a flag nor a value. -/
  | stray (text : Text)
  deriving DecidableEq

namespace Word

/-- The flag that a word spells out in full, and whether the short spelling is used. -/
def exactFlag? : Text → Option (Flag × Bool)
  | [.scalar '-', letter] => (Flag.ofLetter? letter).map fun flag => (flag, true)
  | word => (Flag.ofLong? word).map fun flag => (flag, false)

/-- A word without a newline at its end. -/
def dropFinalNewline (word : Text) : Text :=
  if word.getLast? = some '\n' then word.dropLast else word

/-- Whether a word is a dash with a decimal numeral behind it. Before the point there need not be
any digit, behind it there has to be one. -/
def isNegativeNumeral (word : Text) : Bool :=
  match dropFinalNewline word with
  | .scalar '-' :: numeral =>
    let isDigit (c : CodePoint) : Bool := (Text.digitValue? c).isSome
    match Text.splitFirst? '.' numeral with
    | none => !numeral.isEmpty && numeral.all isDigit
    | some (whole, part) => whole.all isDigit && !part.isEmpty && part.all isDigit
  | _ => false

/-- A word that starts with a dash and is no flag: a value if it looks like a negative number or
holds a space. -/
def ofUnknown (word : Text) : Word :=
  if isNegativeNumeral word || word.contains ' ' then .plain word else .stray word

/-- A word that starts with two dashes and spells out no flag: a shortened flag, if one flag begins
with it. -/
def ofShortened (word : Text) : Except UsageError Word :=
  let (beginning, attached) :=
    match Text.splitFirst? '=' word with
    | some (beginning, value) => (beginning, some value)
    | none => (word, none)
  match Flag.all.filter fun flag => flag.long.startsWith beginning with
  | [] => .ok (ofUnknown word)
  | [flag] => .ok (.flagged flag false attached)
  | candidates => .error (.ambiguous word candidates)

/-- What a word is that starts with a dash and spells out no flag, neither as a whole nor up to an
equals sign. -/
def ofInexact : Text → Except UsageError Word
  | .scalar '-' :: .scalar '-' :: rest => ofShortened ('-' :: '-' :: rest)
  | .scalar '-' :: letter :: rest =>
    match Flag.ofLetter? letter with
    | some flag => .ok (.flagged flag true (some rest))
    | none => .ok (ofUnknown ('-' :: letter :: rest))
  | word => .ok (.plain word)

/-- What a word is by itself. -/
def ofText (word : Text) : Except UsageError Word :=
  if word.head? ≠ some '-' then .ok (.plain word)
  else
    match exactFlag? word with
    | some (flag, isShort) => .ok (.flagged flag isShort none)
    | none =>
      match Text.splitFirst? '=' word with
      | none => ofInexact word
      | some (spelling, value) =>
        match exactFlag? spelling with
        | some (flag, isShort) => .ok (.flagged flag isShort (some value))
        | none => ofInexact word

/-- What the words of a command line are. -/
def ofTexts : List Text → Except UsageError (List Word)
  | [] => .ok []
  | word :: rest =>
    if word = divider then .ok (.stray word :: rest.map Word.plain)
    else do
      let first ← ofText word
      return first :: (← ofTexts rest)

end Word

/-- What a command line asks for. -/
structure Arguments where
  document : Option Argument := none
  template : Option Argument := none
  zpl : Option Argument := none
  listTemplates : Bool := false
  fields : List Argument := []
  catalog : Option Argument := none
  output : Option Argument := none
  /-- The format of the export, none if the flag was given nothing. -/
  format : Option ExportFormat := some .zpl
  resolution : Option Resolution := none
  size : Option LabelSize := none
  preview : Option Argument := none
  proof : Option Argument := none
  previewUrl : Argument := .text Preview.Client.publicBase

/-- Why a command line is not carried out. -/
inductive Refusal where
  | help
  | usage (error : UsageError)
  deriving DecidableEq

namespace Arguments

/-- Whether a source was named by a flag. -/
def names (given : Arguments) : Flag → Bool
  | .document => given.document.isSome
  | .template => given.template.isSome
  | .zpl => given.zpl.isSome
  | .listTemplates => given.listTemplates
  | _ => false

/-- The first source, other than that of a flag, that was named before. -/
def earlierSource? (given : Arguments) (flag : Flag) : Option Flag :=
  if flag ∈ Flag.sources then
    Flag.sources.find? fun source => source ≠ flag ∧ given.names source
  else none

/-- The choice that a flag was given, none if it was given nothing. -/
def choose {α : Type} (flag : Flag) (ofName? : Text → Option α) :
    Argument → Except Refusal (Option α)
  | .nothing => .ok none
  | .text name =>
    match ofName? name with
    | some choice => .ok (some choice)
    | none => .error (.usage (.invalidChoice flag name))

/-- Lets a flag take effect. -/
def set (given : Arguments) (value : Argument) : Flag → Except Refusal Arguments
  | .help => .error .help
  | .document => .ok { given with document := some value }
  | .template => .ok { given with template := some value }
  | .zpl => .ok { given with zpl := some value }
  | .listTemplates => .ok { given with listTemplates := true }
  | .field => .ok { given with fields := given.fields ++ [value] }
  | .catalog => .ok { given with catalog := some value }
  | .output => .ok { given with output := some value }
  | .format => return { given with format := ← choose .format ExportFormat.ofName? value }
  | .resolution =>
    return { given with resolution := ← choose .resolution Resolution.ofName? value }
  | .size => return { given with size := ← choose .size LabelSize.ofName? value }
  | .preview => .ok { given with preview := some value }
  | .proof => .ok { given with proof := some value }
  | .previewUrl => .ok { given with previewUrl := value }

/-- Lets a flag take effect, unless another source was named before. -/
def apply (given : Arguments) (use : Flag × Argument) : Except Refusal Arguments :=
  match given.earlierSource? use.1 with
  | some earlier => .error (.usage (.conflict use.1 earlier))
  | none => given.set use.2 use.1

/-- The flags that are joined behind one dash: those without values, and the one with a value that
may come last, together with what is attached to it. -/
def unjoin (flag : Flag) : Text → Except UsageError (List Flag × Option (Flag × Option Text))
  | [] => .ok ([flag], none)
  | letter :: rest =>
    match Flag.ofLetter? letter with
    | none => .error (.needlessValue flag (letter :: rest))
    | some next =>
      if next.takesValue then
        .ok ([flag], some (next, if rest.isEmpty then none else some rest))
      else (unjoin next rest).map fun flags => (flag :: flags.1, flags.2)

/-- The flags in a word: those without values, and the one with a value that may come last. -/
def flagsIn (flag : Flag) (isShort : Bool) (attached : Option Text) :
    Except UsageError (List Flag × Option (Flag × Option Text)) :=
  if flag.takesValue then .ok ([], some (flag, attached))
  else
    match attached with
    | none => .ok ([flag], none)
    | some value =>
      if isShort ∧ value ≠ [] then unjoin flag value
      else .error (.needlessValue flag value)

/-- Lets the flags of one word take effect: those without values, and the one with a value that may
come last. -/
def applyAll (given : Arguments) (flags : List Flag) (last : Option (Flag × Argument)) :
    Except Refusal Arguments :=
  (flags.map (·, Argument.nothing) ++ last.toList).foldlM apply given

/-- Carries out the words one after the other. Words that belong to no flag are put aside. -/
def takeWords (given : Arguments) (aside : List Text) :
    List Word → Except Refusal (Arguments × List Text)
  | [] => .ok (given, aside)
  | .plain text :: rest | .stray text :: rest => takeWords given (aside ++ [text]) rest
  | .flagged flag isShort attached :: rest =>
    match flagsIn flag isShort attached with
    | .error error => .error (.usage error)
    | .ok (flags, none) => do
      takeWords (← given.applyAll flags none) aside rest
    | .ok (flags, some (last, some value)) => do
      takeWords (← given.applyAll flags (some (last, .ofAttached value))) aside rest
    | .ok (flags, some (last, none)) =>
      match rest with
      | .plain value :: rest => do
        takeWords (← given.applyAll flags (some (last, .text value))) aside rest
      | _ => .error (.usage (.missingValue last))

/-- What a command line asks for. That a source is missing is found before words that belong to no
flag. -/
def ofWords (words : List Text) : Except Refusal Arguments := do
  let words ← (Word.ofTexts words).mapError Refusal.usage
  let (given, aside) ← takeWords {} [] words
  if !Flag.sources.any given.names then throw (.usage .noSource)
  if !aside.isEmpty then throw (.usage (.unrecognized aside))
  return given

end Arguments

end LabelPress.CommandLine

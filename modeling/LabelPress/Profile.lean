import LabelPress.Value.Shown

/-!
# Resolution profiles

The device resolution and the physical size that a label is made for. Both come from short lists of
classes, which are known by name.
-/

namespace LabelPress

/-- The resolution classes of devices, by dots per millimetre. -/
inductive Resolution where
  | six
  | eight
  | twelve
  | twentyFour
  deriving DecidableEq, Inhabited

namespace Resolution

/-- All resolution classes, from coarse to fine. -/
def all : List Resolution :=
  [.six, .eight, .twelve, .twentyFour]

/-- The name of a resolution class. -/
def name : Resolution → Text
  | .six => "6dpmm".toText
  | .eight => "8dpmm".toText
  | .twelve => "12dpmm".toText
  | .twentyFour => "24dpmm".toText

/-- The dots of a device on one inch. -/
def dotsPerInch : Resolution → Nat
  | .six => 152
  | .eight => 203
  | .twelve => 300
  | .twentyFour => 600

/-- The resolution class of a name. -/
def ofName? (name : Text) : Option Resolution :=
  all.find? fun resolution => resolution.name == name

/-- The resolution class that a value names. -/
def ofValue (value : Value) : Except Fault Resolution := do
  value.requireHashable
  match value with
  | .text name =>
    match ofName? name with
    | some resolution => return resolution
    | none => throw (.unknownResolution name)
  | other => throw (.naming [other] (.unknownResolution other.shown))

end Resolution

/-- The size classes of labels, by width and height in inches. -/
inductive LabelSize where
  | fourBySix
  | threeByTwo
  | twoByOne
  deriving DecidableEq, Inhabited

namespace LabelSize

/-- All size classes, from large to small. -/
def all : List LabelSize :=
  [.fourBySix, .threeByTwo, .twoByOne]

/-- The name of a size class. -/
def name : LabelSize → Text
  | .fourBySix => "4x6".toText
  | .threeByTwo => "3x2".toText
  | .twoByOne => "2x1".toText

/-- The width and height of the editor's canvas in pixels. -/
def canvas : LabelSize → Nat × Nat
  | .fourBySix => (600, 400)
  | .threeByTwo => (450, 300)
  | .twoByOne => (300, 150)

/-- The width and height of a label in inches. -/
def inches : LabelSize → Nat × Nat
  | .fourBySix => (4, 6)
  | .threeByTwo => (3, 2)
  | .twoByOne => (2, 1)

/-- The size class of a name. -/
def ofName? (name : Text) : Option LabelSize :=
  all.find? fun size => size.name == name

/-- The size class that a value names. -/
def ofValue (value : Value) : Except Fault LabelSize := do
  value.requireHashable
  match value with
  | .text name =>
    match ofName? name with
    | some size => return size
    | none => throw (.unknownLabelSize name)
  | other => throw (.naming [other] (.unknownLabelSize other.shown))

end LabelSize

/-- The points of a printer on one inch. -/
def pointsPerInch : Binary64 := 72

/-- A length in inches as a length in points. -/
def inchesToPoints (length : Value) : Except Fault Binary64 := do
  let inches ← (← length.number).toBinary64
  return inches * pointsPerInch

/-- The width and height of a page of a label size, in points. -/
def LabelSize.points (size : LabelSize) : Binary64 × Binary64 :=
  (.ofInt size.inches.1 * pointsPerInch, .ofInt size.inches.2 * pointsPerInch)

/-- What a label is made for: eight dots per millimetre and four by six inches, unless something
else is asked for. -/
structure Profile where
  resolution : Resolution := .eight
  size : LabelSize := .fourBySix
  deriving DecidableEq, Inhabited

namespace Profile

/-- The profile that named arguments describe. The resolution is examined before the size. -/
def ofArguments (given : List (Text × Value)) : Except Fault Profile := do
  Value.bindArguments [] ["device_resolution", "physical_size"] given
  let standard : Profile := {}
  let resolution ←
    match Value.lookup? "device_resolution".toText given with
    | some value => Resolution.ofValue value
    | none => pure standard.resolution
  let size ←
    match Value.lookup? "physical_size".toText given with
    | some value => LabelSize.ofValue value
    | none => pure standard.size
  return { resolution, size }

/-- A profile as stored data. -/
def toValue (profile : Profile) : Value :=
  .object [("device_resolution".toText, .text profile.resolution.name),
    ("physical_size".toText, .text profile.size.name)]

end Profile

end LabelPress

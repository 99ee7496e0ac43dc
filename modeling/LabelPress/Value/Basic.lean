import LabelPress.Number

/-!
# Values

The data of documents, catalogs and forms before anything is known about it: what a JSON text can
hold. Mappings keep the order of their keys. Operations that need a value of one kind refuse the
others with a fault, so an unchecked attribute of a document travels until something needs it.
-/

namespace LabelPress

/-- A value of unchecked data. -/
inductive Value where
  | null
  | bool (truth : Bool)
  | int (n : Int)
  | float (x : Binary64)
  | text (characters : Text)
  | list (items : List Value)
  | object (entries : List (Text × Value))
  deriving Inhabited

namespace Value

/-- A value for a string of the program itself. -/
def ofString (s : String) : Value :=
  .text s.toText

/-- The value stored under a key. -/
def lookup? (key : Text) : List (Text × Value) → Option Value
  | [] => none
  | (name, value) :: rest => if name = key then some value else lookup? key rest

/-- Whether a value counts as true: all but null, false, zero and what is empty. -/
def isTruthy : Value → Bool
  | .null => false
  | .bool truth => truth
  | .int n => n != 0
  | .float x => !x.isZero
  | .text characters => !characters.isEmpty
  | .list items => !items.isEmpty
  | .object entries => !entries.isEmpty

/-- The number that a value is. Truth values count as one and zero. -/
def number? : Value → Option Number
  | .bool truth => some (.whole (if truth then 1 else 0))
  | .int n => some (.whole n)
  | .float x => some (.real x)
  | _ => none

/-- The number that a value has to be. -/
def number (value : Value) : Except Fault Number :=
  match value.number? with
  | some n => .ok n
  | none => .error .wrongKind

mutual

/-- Equality of values: numbers are compared across their kinds, mappings without regard to the
order of their keys. -/
def equals : Value → Value → Bool
  | .null, .null => true
  | .text a, .text b => a == b
  | .list as, .list bs => equalItems as bs
  | .object as, .object bs => as.length == bs.length && equalEntries as bs
  | a, b =>
    match a.number?, b.number? with
    | some x, some y => x.equals y
    | _, _ => false

/-- Equality of lists, item by item. -/
def equalItems : List Value → List Value → Bool
  | [], [] => true
  | a :: as, b :: bs => equals a b && equalItems as bs
  | _, _ => false

/-- Whether each entry of the first mapping has an equal value in the second. -/
def equalEntries : List (Text × Value) → List (Text × Value) → Bool
  | [], _ => true
  | (name, a) :: rest, bs =>
    (match lookup? name bs with
      | some b => equals a b
      | none => false) && equalEntries rest bs

end

/-- Whether a value can be a key or a member of a set; lists and mappings cannot. -/
def isHashable : Value → Bool
  | .list _ | .object _ => false
  | _ => true

/-- Refuses values that cannot be keys. -/
def requireHashable (value : Value) : Except Fault Unit :=
  if value.isHashable then .ok () else .error .wrongKind

/-- Whether a value equals one of a list of values. -/
def isAmong (value : Value) (others : List Value) : Bool :=
  others.any (equals value)

/-- Whether a value is the double that is not a number. -/
def isNaN : Value → Bool
  | .float .nan => true
  | _ => false

/-- Whether two values are one key. Keys are compared as values are, except that what is not a number
is one key. -/
def isSameKey (key other : Value) : Bool :=
  key.equals other || (key.isNaN && other.isNaN)

/-- Whether a key is among others. -/
def isKeyAmong (key : Value) (others : List Value) : Bool :=
  others.any key.isSameKey

/-- Whether a value is the given string. -/
def isString (value : Value) (s : String) : Bool :=
  match value with
  | .text characters => characters == s.toText
  | _ => false

/-- The items that a value is made of: those of a list, the keys of a mapping, the characters of
a text. -/
def items : Value → Except Fault (List Value)
  | .text characters => .ok (characters.map fun c => .text [c])
  | .list items => .ok items
  | .object entries => .ok (entries.map fun entry => .text entry.1)
  | _ => .error .wrongKind

/-- The entries of a value that has named members. -/
def members : Value → Except Fault (List (Text × Value))
  | .object entries => .ok entries
  | _ => .error .missingMember

/-- The entries of a value that is given as named arguments. -/
def arguments : Value → Except Fault (List (Text × Value))
  | .object entries => .ok entries
  | _ => .error .wrongKind

/-- The member of a mapping that has to be there. -/
def member (value : Value) (key : String) : Except Fault Value :=
  match value with
  | .object entries =>
    match lookup? key.toText entries with
    | some found => .ok found
    | none => .error .missingKey
  | _ => .error .wrongKind

/-- Whether a value occurs in another: a part of a text, an item of a list, a key of a mapping. -/
def occursIn (part whole : Value) : Except Fault Bool :=
  match whole with
  | .text characters =>
    match part with
    | .text piece => .ok (characters.hasPart piece)
    | _ => .error .wrongKind
  | .list items => .ok (part.isAmong items)
  | .object entries =>
    if part.isHashable then .ok (part.isAmong (entries.map fun entry => .text entry.1))
    else .error .wrongKind
  | _ => .error .wrongKind

/-- The length of a value that has one: characters, items or entries. -/
def length : Value → Except Fault Nat
  | .text characters => .ok characters.length
  | .list items => .ok items.length
  | .object entries => .ok entries.length
  | _ => .error .wrongKind

/-- Puts an entry into a mapping: a key that is already there keeps its place and gets the new
value, a new key comes last. -/
def insertEntry {α : Type} (key : Text) (value : α) : List (Text × α) → List (Text × α)
  | [] => [(key, value)]
  | (name, old) :: rest =>
    if name = key then (name, value) :: rest else (name, old) :: insertEntry key value rest

theorem lookup?_insertEntry (key name : Text) (value : Value) (entries : List (Text × Value)) :
    lookup? name (insertEntry key value entries) =
      if key = name then some value else lookup? name entries := by
  induction entries with
  | nil => rfl
  | cons entry rest ih =>
    simp only [insertEntry]
    by_cases same : entry.1 = key
    · by_cases found : key = name <;> simp_all [lookup?]
    · by_cases found : entry.1 = name
      · subst found
        simp [lookup?, same, Ne.symm same]
      · simp [lookup?, same, found, ih]

/-- Named arguments for parameters of which the first `required` have no default: all names have
to be parameters, and the required ones have to be given. -/
def bindArguments (required optional : List String) (given : List (Text × Value)) :
    Except Fault Unit :=
  let known := (required ++ optional).map String.toText
  if given.any fun entry => !known.contains entry.1 then .error .wrongKind
  else if required.any fun name => (lookup? name.toText given).isNone then .error .wrongKind
  else .ok ()

end Value

end LabelPress

import LabelPress.Proofs.Document.Numbers
import LabelPress.Proofs.Text.Order
import LabelPress.Proofs.Value.Showable

/-!
# Names of fields

An update refuses fields under names that are no attributes before it writes anything, and lists
these names in order. In a stored document the names in each entry are refused in the same way, as
soon as all entries before it have been added. The names that an update takes for its own arguments
are the exception: they are refused as arguments are, and not as names.
-/

namespace LabelPress.Document

open Attribute

variable {document : Document} {id : Value} {fields : List (Text × Value)} {fault : Fault}

/-! ## Updates -/

/-- How names of fields are refused. The names that an update takes for itself come first, then the
identity, then all other names that are no attributes, in their order. -/
inductive RefusedFor (names : List Text) : Fault → Prop where
  | reserved {name : Text} (member : name ∈ names) (taken : name ∈ reservedNames) :
      RefusedFor names .wrongKind
  | identity (free : ∀ name ∈ names, name ∉ reservedNames) (member : "id".toText ∈ names) :
      RefusedFor names .fixedElementId
  | unknown {shown : List Text} (free : ∀ name ∈ names, name ∉ reservedNames)
      (absent : "id".toText ∉ names) (nonempty : shown ≠ [])
      (sorted : shown.Pairwise fun first second => first.precedes second = true)
      (exactly : ∀ name, name ∈ shown ↔ name ∈ names ∧ ∀ field : Attribute, field.name ≠ name) :
      RefusedFor names (.unknownElementFields shown)

theorem ofName?_isNone_iff {name : Text} :
    (ofName? name).isNone = true ↔ ∀ field : Attribute, field.name ≠ name := by
  rw [Option.isNone_iff_eq_none, Option.eq_none_iff_forall_ne_some]
  simp only [Ne, ofName?_eq_some_iff]

theorem refusedFor_of_editsOf (refused : editsOf fields = .error fault) :
    RefusedFor (fields.map Prod.fst) fault := by
  unfold editsOf at refused
  generalize fields.map Prod.fst = names at refused ⊢
  simp only [List.any_eq_true, List.contains_iff_mem] at refused
  split_ifs at refused with taken identity nonempty
  · obtain rfl := Except.error.inj refused
    obtain ⟨name, member, reserved⟩ := taken
    exact .reserved member reserved
  · obtain rfl := Except.error.inj refused
    exact .identity (fun name member reserved => taken ⟨name, member, reserved⟩) identity
  · obtain rfl := Except.error.inj refused
    refine .unknown (fun name member reserved => taken ⟨name, member, reserved⟩) identity
      (Text.mergeSort_ne_nil ?_) (Text.pairwise_mergeSort _) ?_
    · simpa using nonempty
    · intro name
      rw [List.mem_mergeSort, List.mem_filter, ofName?_isNone_iff]

/-- Fields of which one has a name that is no attribute are refused for their names. -/
theorem exists_refusedFor (unnamed : ∃ given ∈ fields, ¬IsNamed given) :
    ∃ fault, editsOf fields = .error fault ∧ RefusedFor (fields.map Prod.fst) fault := by
  cases asked : editsOf fields with
  | error fault => exact ⟨fault, rfl, refusedFor_of_editsOf asked⟩
  | ok edits =>
    obtain ⟨given, member, unknown⟩ := unnamed
    exact absurd (exists_edits_iff.mp ⟨edits, editsOf_eq_ok_iff.mp asked⟩ given member) unknown

theorem update_of_refused (refused : editsOf fields = .error fault) :
    document.update id fields = (document, .error fault) := by
  rw [update, refused]

/-! ## Fields of an entry -/

/-- How the value of a field is refused: it is no font selector, it is a content or a font selector
that cannot be shown, or it is an integer that is too large for a double. -/
inductive RefusedValue (given : Text × Value) : Fault → Prop where
  | font {shown : Text} (isFont : given.1 = Attribute.fontVariant.name) :
      RefusedValue given (.invalidFontVariant shown)
  | hidden (isShown : given.1 ∈ [Attribute.content.name, Attribute.fontVariant.name])
      (hidden : given.2.isShowable = false) : RefusedValue given .badValue
  | number (large : HasLargeNumber IsNumericName given) : RefusedValue given .overflow

theorem refusedValue_of_fontVariant {value : Value}
    (refused : FontVariant.ofValue value = .error fault) :
    RefusedValue (Attribute.fontVariant.name, value) fault := by
  unfold FontVariant.ofValue at refused
  split at refused
  · split at refused
    · contradiction
    · obtain rfl := Except.error.inj refused
      exact .font rfl
  · obtain rfl := Except.error.inj refused
    cases showable : value.isShowable with
    | false =>
      rw [Fault.naming_of_not_isShowable List.mem_cons_self showable]
      exact .hidden (by simp) showable
    | true =>
      rw [Fault.naming_of_isShowable (List.forall_mem_singleton.mpr showable)]
      exact .font rfl

theorem refusedValue_of_content {value : Value} (refused : coerceContent value = .error fault) :
    RefusedValue (Attribute.content.name, value) fault := by
  unfold coerceContent at refused
  split at refused
  · contradiction
  · obtain ⟨hidden, rfl⟩ := Value.toText_eq_error_iff.mp refused
    exact .hidden List.mem_cons_self hidden

theorem refusedValue_of_checked {field : Attribute} {value : Value} (notType : field ≠ .type)
    (refused : Element.checked field value = .error fault) :
    RefusedValue (field.name, value) fault := by
  by_cases numeric : field.IsNumeric
  · by_cases large : value.IsTooLarge
    · have overflow := Element.verdict_checked_of_isTooLarge numeric large
      rw [refused] at overflow
      obtain rfl := Except.error.inj overflow
      exact .number ⟨⟨field, numeric, rfl⟩, large⟩
    · have accepted := Element.verdict_checked_of_not_isTooLarge numeric large
      rw [refused] at accepted
      contradiction
  · cases field with
    | type => contradiction
    | content => exact refusedValue_of_content (map_eq_error_iff.mp refused)
    | fontVariant => exact refusedValue_of_fontVariant (map_eq_error_iff.mp refused)
    | _ => exact absurd (by decide) numeric

/-- The checks that fields go through behind the type of an entry. -/
def checkFields (fields : List (Text × Value)) : Except Fault Unit :=
  editsOf fields >>= fun edits => edits.forM fun edit => verdict (Element.checked edit.1 edit.2)

theorem isAccepted_of_checkFields (passed : checkFields fields = .ok ()) :
    ∀ given ∈ fields, Element.IsAccepted given := by
  obtain ⟨edits, asked, checked⟩ := bind_eq_ok_iff.mp passed
  obtain rfl := editsOf_eq_ok_iff.mp asked
  rw [List.forall_mem_map]
  intro edit member
  obtain ⟨written, accepted, -⟩ := map_eq_ok_iff.mp (forM_eq_ok_iff.mp checked edit member)
  exact Element.isAccepted_fieldOf_iff.mpr ⟨written, accepted⟩

/-- Fields behind a type are refused for their names, or for the value of one of them if all names
are attributes. -/
theorem refused_of_checkFields (noType : ∀ given ∈ fields, given.1 ≠ Attribute.type.name)
    (failed : checkFields fields = .error fault) :
    RefusedFor (fields.map Prod.fst) fault ∨
      (∀ given ∈ fields, IsNamed given) ∧ ∃ given ∈ fields, RefusedValue given fault := by
  rcases bind_eq_error_iff.mp failed with refused | ⟨edits, asked, unchecked⟩
  · exact .inl (refusedFor_of_editsOf refused)
  · obtain rfl := editsOf_eq_ok_iff.mp asked
    obtain ⟨before, edit, after, split, -, refused⟩ := forM_eq_error_iff.mp unchecked
    have member : edit ∈ edits := split ▸ List.mem_append_cons_self
    have isField : fieldOf edit ∈ edits.map fieldOf := List.mem_map_of_mem member
    have notType : edit.1 ≠ .type := fun isType =>
      noType _ isField (congrArg Attribute.name isType)
    exact .inr ⟨exists_edits_iff.mp ⟨edits, rfl⟩, fieldOf edit, isField,
      refusedValue_of_checked notType (map_eq_error_iff.mp refused)⟩

/-! ## Stored documents -/

/-- An entry of a known type, with the fields that it has beside its type and its identity. -/
def Stores (entry : Value) (fields : List (Text × Value)) : Prop :=
  ∃ stored type, entryFields entry = .ok stored ∧
    ElementType.ofValue (((stored.find? fun field => field.1.isString "type").map
      Prod.snd).getD .null) = .ok type ∧
    stored.filter (fun field => isEditedKey field.1) = fields.map keyed

theorem Stores.ne_type {entry : Value} (stores : Stores entry fields) :
    ∀ given ∈ fields, given.1 ≠ Attribute.type.name := by
  rintro ⟨name, value⟩ member rfl
  obtain ⟨stored, type, -, -, split⟩ := stores
  have kept : keyed (Attribute.type.name, value) ∈ fields.map keyed := List.mem_map_of_mem member
  rw [← split, List.mem_filter] at kept
  have notEdited : isEditedKey (.text Attribute.type.name) = false := by decide
  rw [keyed, notEdited] at kept
  exact Bool.false_ne_true kept.2

theorem ne_type_of_stores {entries : List Value} {stored : List (List (Text × Value))}
    (all : List.Forall₂ Stores entries stored) :
    ∀ fields ∈ stored, ∀ given ∈ fields, given.1 ≠ Attribute.type.name := by
  induction all with
  | nil => exact List.forall_mem_nil _
  | cons first _ ih => exact List.forall_mem_cons.mpr ⟨first.ne_type, ih⟩

theorem Stores.check {entry : Value} (stores : Stores entry fields) :
    (entryFields entry >>= checkEntry) = checkFields fields := by
  obtain ⟨stored, type, read, typed, split⟩ := stores
  rw [read, ok_bind, checkEntry, split]
  generalize ((stored.find? fun field => field.1.isString "type").map Prod.snd).getD .null = value
    at typed ⊢
  cases value with
  | text characters =>
    dsimp only
    rw [typed, namedFields_map_keyed]
    rfl
  | _ => contradiction

/-- The profile that the resolution of stored data describes. -/
def profileOf (resolution : Value) : Except Fault Profile :=
  if resolution.isTruthy then resolution.arguments >>= Profile.ofArguments else .ok {}

theorem forM_checkEntry_of_stores {entries : List Value} {stored : List (List (Text × Value))}
    (all : List.Forall₂ Stores entries stored) :
    entries.forM (fun entry => entryFields entry >>= checkEntry) = stored.forM checkFields := by
  induction all with
  | nil => rfl
  | @cons entry fields entries stored first _ ih =>
    change ((entryFields entry >>= checkEntry) >>= fun _ => entries.forM _) = _
    rw [first.check, ih]
    rfl

theorem verdict_ofValue_of_stores {data resolution : Value} {entries : List Value}
    {stored : List (List (Text × Value))} (describes : Describes data resolution entries)
    (all : List.Forall₂ Stores entries stored) :
    verdict (ofValue data) = profileOf resolution >>= fun _ => stored.forM checkFields := by
  rw [verdict_ofValue describes, forM_checkEntry_of_stores all]
  rfl

/-- How a stored document with entries of known types is refused: for its resolution, or for the
first entry of which a field is not accepted, and there for a name before any value. -/
inductive RefusedDocument (resolution : Value) (stored : List (List (Text × Value))) :
    Fault → Prop where
  | resolution {fault : Fault} (refused : profileOf resolution = .error fault) :
      RefusedDocument resolution stored fault
  | name {fault : Fault} {before after : List (List (Text × Value))}
      {fields : List (Text × Value)} (split : stored = before ++ fields :: after)
      (accepted : ∀ others ∈ before, ∀ given ∈ others, Element.IsAccepted given)
      (refused : RefusedFor (fields.map Prod.fst) fault) : RefusedDocument resolution stored fault
  | value {fault : Fault} {before after : List (List (Text × Value))}
      {fields : List (Text × Value)} (split : stored = before ++ fields :: after)
      (accepted : ∀ others ∈ before, ∀ given ∈ others, Element.IsAccepted given)
      (named : ∀ given ∈ fields, IsNamed given)
      (refused : ∃ given ∈ fields, RefusedValue given fault) :
      RefusedDocument resolution stored fault

theorem refusedDocument_of_forM {resolution : Value} {stored : List (List (Text × Value))}
    (noTypes : ∀ fields ∈ stored, ∀ given ∈ fields, given.1 ≠ Attribute.type.name)
    (failed : stored.forM checkFields = .error fault) :
    RefusedDocument resolution stored fault := by
  obtain ⟨before, fields, after, split, passed, unchecked⟩ := forM_eq_error_iff.mp failed
  have accepted : ∀ others ∈ before, ∀ given ∈ others, Element.IsAccepted given := by
    intro others member
    obtain ⟨⟨⟩, passedAll⟩ := passed others member
    exact isAccepted_of_checkFields passedAll
  have member : fields ∈ stored := split ▸ List.mem_append_cons_self
  rcases refused_of_checkFields (noTypes fields member) unchecked with refused | ⟨named, refused⟩
  · exact .name split accepted refused
  · exact .value split accepted named refused

/-- Names that are no attributes are refused. An update changes nothing then, and a stored document
with such a name in one of its entries is refused there, if it is not refused before. -/
theorem names_refused (document : Document) (id data : Value) :
    (∀ fields : List (Text × Value), (∃ given ∈ fields, ¬IsNamed given) →
      ∃ fault, document.update id fields = (document, .error fault) ∧
        RefusedFor (fields.map Prod.fst) fault) ∧
      ∀ (resolution : Value) (entries : List Value) (stored : List (List (Text × Value))),
        Describes data resolution entries → List.Forall₂ Stores entries stored →
        (∃ fields ∈ stored, ∃ given ∈ fields, ¬IsNamed given) →
          ∃ fault, ofValue data = .error fault ∧ RefusedDocument resolution stored fault := by
  constructor
  · intro fields unnamed
    obtain ⟨fault, asked, refused⟩ := exists_refusedFor unnamed
    exact ⟨fault, update_of_refused asked, refused⟩
  · rintro resolution entries stored describes all ⟨fields, member, unnamed⟩
    have checked := verdict_ofValue_of_stores describes all
    cases accepted : profileOf resolution with
    | error fault =>
      rw [accepted] at checked
      exact ⟨fault, map_eq_error_iff.mp checked, .resolution accepted⟩
    | ok profile =>
      obtain ⟨reason, asked, -⟩ := exists_refusedFor unnamed
      have failing : checkFields fields = .error reason :=
        bind_eq_error_iff.mpr (.inl asked)
      obtain ⟨fault, first⟩ := exists_firstFails_iff.mpr ⟨fields, member, reason, failing⟩
      have failed := forM_eq_error_iff.mpr first
      rw [accepted, ok_bind, failed] at checked
      exact ⟨fault, map_eq_error_iff.mp checked,
        refusedDocument_of_forM (ne_type_of_stores all) failed⟩

/-- A position, and a field of a name that an update takes for itself. -/
def claiming : List (Text × Value) :=
  [("x".toText, .int 5), ("element_id".toText, .int 2)]

/-- A text that is stored with fields. -/
def textWith (fields : List (Text × Value)) : Value :=
  .object (("type".toText, .ofString "text") :: fields)

/-- A stored document with two texts, the second of which has fields. -/
def twoTexts (fields : List (Text × Value)) : Value :=
  .object [("elements".toText, .list [textWith [], textWith fields])]

/-- A field under a name that means nothing. -/
def coloured : List (Text × Value) :=
  [("colour".toText, .ofString "red")]

theorem not_isNamed_claiming : ∃ given ∈ claiming, ¬IsNamed given := by
  refine ⟨("element_id".toText, .int 2), by simp [claiming], ?_⟩
  rw [isNamed_iff]
  decide

theorem stores_textWith_claiming : Stores (textWith claiming) claiming :=
  ⟨_, .text, rfl, rfl, rfl⟩

/-- The update refuses the name that it takes for itself, and the second text of the stored document
is refused for its own. -/
theorem names_refused_texts :
    labelled.update (.int 1) claiming = (labelled, .error .wrongKind) ∧
      ∃ fault, ofValue (twoTexts coloured) = .error fault ∧
        RefusedDocument .null [[], coloured] fault ∧
        fault = .unknownElementFields ["colour".toText] := by
  constructor
  · obtain ⟨fault, updated, refused⟩ :=
      (names_refused labelled (.int 1) .null).1 claiming not_isNamed_claiming
    cases refused with
    | reserved => exact updated
    | identity free => exact absurd (by decide) (free "element_id".toText (by decide))
    | unknown free => exact absurd (by decide) (free "element_id".toText (by decide))
  · have unnamed : ¬IsNamed ("colour".toText, .ofString "red") := by
      rw [isNamed_iff]
      decide
    have all : List.Forall₂ Stores [textWith [], textWith coloured] [[], coloured] :=
      .cons ⟨_, .text, rfl, rfl, rfl⟩ (.cons ⟨_, .text, rfl, rfl, rfl⟩ .nil)
    obtain ⟨fault, failed, refused⟩ := (names_refused labelled (.int 1) (twoTexts coloured)).2
      .null _ _ ⟨_, rfl, rfl, rfl⟩ all ⟨coloured, by simp, _, List.mem_singleton_self _, unnamed⟩
    have loaded : ofValue (twoTexts coloured) =
        .error (.unknownElementFields (["colour".toText].mergeSort Text.precedes)) := rfl
    rw [List.mergeSort_singleton] at loaded
    exact ⟨fault, failed, refused, Except.error.inj (failed.symm.trans loaded)⟩

/-- A name that is no attribute can be refused as an argument, in an update of a reachable document
and in a stored document. -/
theorem exists_misreported_name :
    ∃ document id fields data, Reachable document ∧ (∃ given ∈ fields, ¬IsNamed given) ∧
      document.update id fields = (document, .error .wrongKind) ∧
      Describes data .null [textWith fields] ∧ Stores (textWith fields) fields ∧
      ofValue data = .error .wrongKind := by
  refine ⟨labelled, .int 1, claiming, .object [("elements".toText, .list [textWith claiming])],
    .add (.empty {}) _, not_isNamed_claiming, ?_, ⟨_, rfl, rfl, rfl⟩, stores_textWith_claiming, ?_⟩
  · rfl
  · rfl

end LabelPress.Document

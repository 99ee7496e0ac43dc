import LabelPress.Proofs.Document.Coercion
import LabelPress.Proofs.Document.Loading

/-!
# Numbers in stored documents

Each entry of a stored document goes through the checks of an edit, and whether it passes does not
depend on the document that it is added to. So numbers in stored documents are refused where numbers
in edits are: only if they are integers that are too large for a double.
-/

namespace LabelPress.Document

open Attribute

/-! ## Entries -/

/-- The keys of stored fields that hold numbers. -/
def IsNumericKey (key : Value) : Prop :=
  ∃ name, key = .text name ∧ IsNumericName name

/-- A named field as stored. -/
def keyed (given : Text × Value) : Value × Value :=
  (.text given.1, given.2)

theorem isNumericKey_text_iff {name : Text} : IsNumericKey (.text name) ↔ IsNumericName name := by
  simp [IsNumericKey]

/-- Whether a stored field is one to edit: the identity and the type are not. -/
def isEditedKey (key : Value) : Bool :=
  !key.isString "id" && !key.isString "type"

theorem isEditedKey_of_isNumericKey {key : Value} (numeric : IsNumericKey key) :
    isEditedKey key = true := by
  rcases numeric with ⟨name, rfl, field, numeric, rfl⟩
  revert numeric
  cases field <;> decide

/-- The checks that the fields of an entry go through, whatever document they are added to. -/
def checkEntry (fields : List (Value × Value)) : Except Fault Unit := do
  let type := (fields.find? fun field => field.1.isString "type").map Prod.snd
  let others := fields.filter fun field => isEditedKey field.1
  match type.getD .null with
  | .null => throw .missingElementType
  | type =>
    let _ ← ElementType.ofValue type
    let edits ← editsOf (← namedFields others)
    edits.forM fun edit => verdict (Element.checked edit.1 edit.2)

theorem isSome_get?_adopt (document : Document) (type : ElementType) :
    ((document.adopt (.ofType document.nextId type)).get? (.int document.nextId)).isSome =
      true := by
  have here : (Element.ofType document.nextId type).id.equals (.int document.nextId) = true :=
    decide_eq_true rfl
  rw [get?, List.find?_isSome]
  exact ⟨_, List.mem_concat_self, here⟩

/-- Adding an element and editing it is refused for its type or for its fields. -/
theorem verdict_add_update (document : Document) (type : Value) (fields : List (Value × Value)) :
    verdict ((document.add type).2 >>= fun id => namedFields fields >>= fun named =>
        ((document.add type).1.update (.int id) named).2 >>= fun _ =>
          pure ((document.add type).1.update (.int id) named).1) =
      ElementType.ofValue type >>= fun _ => namedFields fields >>= fun named =>
        editsOf named >>= fun edits =>
          edits.forM fun edit => verdict (Element.checked edit.1 edit.2) := by
  cases accepted : ElementType.ofValue type with
  | error fault =>
    rw [add, accepted]
    rfl
  | ok known =>
    rw [document.add_of_ofValue accepted]
    cases namedFields fields with
    | error fault => rfl
    | ok named =>
      have updated := snd_update (document.adopt (.ofType document.nextId known))
        (.int document.nextId) named
      rw [isSome_get?_adopt] at updated
      refine Eq.trans ?_ updated
      change verdict (((document.adopt _).update _ named).2 >>= fun _ => pure _) = _
      cases ((document.adopt (.ofType document.nextId known)).update (.int document.nextId) named).2
        <;> rfl

/-- An entry is refused for what its fields are, and not for the document it is added to. -/
theorem verdict_addEntry (document : Document) (entry : Value) :
    verdict (document.addEntry entry) = entryFields entry >>= checkEntry := by
  unfold addEntry
  cases entryFields entry with
  | error fault => rfl
  | ok fields =>
    dsimp only [bind, Except.bind, checkEntry]
    generalize ((fields.find? fun field => field.1.isString "type").map Prod.snd).getD .null = type
    have typed := verdict_add_update document type
      (fields.filter fun field => isEditedKey field.1)
    cases type with
    | null => rfl
    | _ => exact typed

section Agreement

variable {Key : Type} {numeric : Key → Prop} {given others : List (Key × Value)}

theorem find?_of_agree (agree : List.Forall₂ (AgreeButNumbers numeric) given others)
    (wanted : Key → Bool) (free : ∀ key, numeric key → wanted key = false) :
    given.find? (fun field => wanted field.1) = others.find? fun field => wanted field.1 := by
  induction agree with
  | nil => rfl
  | @cons first second given others agreeFirst _ ih =>
    rcases first with ⟨key, value⟩
    rcases second with ⟨key, otherValue⟩
    obtain ⟨rfl, sameValue⟩ := agreeFirst
    rw [List.find?_cons, List.find?_cons, ih]
    cases isWanted : wanted key with
    | false => rfl
    | true =>
      have same : value = otherValue := by
        apply sameValue.resolve_right
        intro isNumeric
        rw [free key isNumeric] at isWanted
        contradiction
      rw [same]

theorem filter_of_agree (agree : List.Forall₂ (AgreeButNumbers numeric) given others)
    (kept : Key → Bool) :
    List.Forall₂ (AgreeButNumbers numeric) (given.filter fun field => kept field.1)
      (others.filter fun field => kept field.1) := by
  apply List.rel_filter _ agree
  intro first second agreeFirst
  exact iff_of_eq (congrArg (fun key => kept key = true) agreeFirst.1)

theorem exists_hasLargeNumber_filter (kept : Key → Bool)
    (all : ∀ key, numeric key → kept key = true) :
    (∃ field ∈ given.filter fun field => kept field.1, HasLargeNumber numeric field) ↔
      ∃ field ∈ given, HasLargeNumber numeric field := by
  simp only [List.mem_filter, and_assoc]
  exact exists_congr fun field => and_congr_right' (and_iff_right_of_imp fun large => all _ large.1)

end Agreement

theorem namedFields_map_keyed (named : List (Text × Value)) :
    namedFields (named.map keyed) = .ok named := by
  rw [namedFields, mapM_eq_ok_iff, List.forall₂_map_left_iff, List.forall₂_same]
  exact fun _ _ => rfl

theorem exists_named {stored : List (Value × Value)}
    (texts : ∀ key ∈ stored.map Prod.fst, ∃ name, key = .text name) :
    ∃ named : List (Text × Value), stored = named.map keyed := by
  induction stored with
  | nil => exact ⟨[], rfl⟩
  | cons field stored ih =>
    rw [List.map_cons, List.forall_mem_cons] at texts
    rcases field with ⟨key, value⟩
    obtain ⟨name, rfl⟩ := texts.1
    rcases ih texts.2 with ⟨named, rfl⟩
    exact ⟨(name, value) :: named, rfl⟩

theorem namedFields_eq_error {stored : List (Value × Value)}
    (other : ¬∀ key ∈ stored.map Prod.fst, ∃ name, key = .text name) :
    namedFields stored = .error .wrongKind := by
  induction stored with
  | nil => exact absurd (List.forall_mem_nil _) other
  | cons field stored ih =>
    rw [List.map_cons, List.forall_mem_cons] at other
    rcases field with ⟨key, value⟩
    rw [namedFields, List.mapM_cons]
    cases key with
    | text name =>
      have rest := ih fun texts => other ⟨⟨name, rfl⟩, texts⟩
      rw [namedFields] at rest
      rw [rest]
      rfl
    | _ => rfl

/-- Fields of the same keys are all refused, or all named. -/
theorem namedFields_cases {stored others : List (Value × Value)}
    (sameKeys : stored.map Prod.fst = others.map Prod.fst) :
    (namedFields stored = .error .wrongKind ∧ namedFields others = .error .wrongKind) ∨
      ∃ named otherNamed : List (Text × Value),
        stored = named.map keyed ∧ others = otherNamed.map keyed := by
  by_cases texts : ∀ key ∈ stored.map Prod.fst, ∃ name, key = .text name
  · rcases exists_named texts with ⟨named, isNamed⟩
    rcases exists_named (sameKeys ▸ texts) with ⟨otherNamed, isOtherNamed⟩
    exact .inr ⟨named, otherNamed, isNamed, isOtherNamed⟩
  · exact .inl ⟨namedFields_eq_error texts, namedFields_eq_error (sameKeys ▸ texts)⟩

theorem agree_of_map_keyed {named otherNamed : List (Text × Value)}
    (agree : List.Forall₂ (AgreeButNumbers IsNumericKey) (named.map keyed)
      (otherNamed.map keyed)) :
    List.Forall₂ (AgreeButNumbers IsNumericName) named otherNamed := by
  rw [List.forall₂_map_left_iff, List.forall₂_map_right_iff] at agree
  refine agree.imp ?_
  rintro given other ⟨sameKey, sameValue⟩
  exact ⟨Value.text.inj sameKey, sameValue.imp_right isNumericKey_text_iff.mp⟩

theorem hasLargeNumber_keyed_iff {given : Text × Value} :
    HasLargeNumber IsNumericKey (keyed given) ↔ HasLargeNumber IsNumericName given :=
  and_congr_left' isNumericKey_text_iff

theorem overflowsIf_namedFields {stored others : List (Value × Value)}
    (agree : List.Forall₂ (AgreeButNumbers IsNumericKey) stored others)
    (small : ∀ other ∈ others, ¬HasLargeNumber IsNumericKey other) :
    OverflowsIf (∃ field ∈ stored, HasLargeNumber IsNumericKey field)
      (namedFields stored >>= fun named => editsOf named >>= fun edits =>
        edits.forM fun edit => verdict (Element.checked edit.1 edit.2))
      (namedFields others >>= fun named => editsOf named >>= fun edits =>
        edits.forM fun edit => verdict (Element.checked edit.1 edit.2)) := by
  rcases namedFields_cases (map_fst_of_agree agree) with
    ⟨refused, refusedOther⟩ | ⟨named, otherNamed, rfl, rfl⟩
  · rw [refused, refusedOther]
    exact .error _ .wrongKind
  · rw [List.forall_mem_map] at small
    have checks := overflowsIf_editsOf (agree_of_map_keyed agree)
      fun other member => mt hasLargeNumber_keyed_iff.mpr (small other member)
    rw [namedFields_map_keyed, namedFields_map_keyed]
    refine checks.congr ?_
    simp only [List.mem_map, exists_exists_and_eq_and, hasLargeNumber_keyed_iff]

/-- Checks of entries that agree but in numbers differ by an overflow at most. -/
theorem overflowsIf_checkEntry {stored others : List (Value × Value)}
    (agree : List.Forall₂ (AgreeButNumbers IsNumericKey) stored others)
    (small : ∀ other ∈ others, ¬HasLargeNumber IsNumericKey other) :
    OverflowsIf (∃ field ∈ stored, HasLargeNumber IsNumericKey field) (checkEntry stored)
      (checkEntry others) := by
  have sameType := find?_of_agree agree (fun key => key.isString "type") fun key numeric => by
    have edited := isEditedKey_of_isNumericKey numeric
    rw [isEditedKey, Bool.and_eq_true, Bool.not_eq_true'] at edited
    simpa using edited.2
  have checks := (overflowsIf_namedFields (filter_of_agree agree isEditedKey)
    fun other member => small other (List.mem_of_mem_filter member)).congr
      (exists_hasLargeNumber_filter isEditedKey fun _ numeric =>
        isEditedKey_of_isNumericKey numeric)
  unfold checkEntry
  dsimp only
  rw [sameType]
  generalize ((others.find? fun field => field.1.isString "type").map Prod.snd).getD .null = type
  have typed : OverflowsIf _ (ElementType.ofValue type >>= fun _ => _)
      (ElementType.ofValue type >>= fun _ => _) := .bind fun _ _ => checks
  cases type with
  | null => exact .error _ .missingElementType
  | _ => exact typed

/-! ## Documents -/

/-- Stored data with a resolution and a list of entries. Both can be left out. -/
def Describes (data resolution : Value) (entries : List Value) : Prop :=
  ∃ members, data = .object members ∧
    (Value.lookup? "resolution".toText members).getD .null = resolution ∧
    ((Value.lookup? "elements".toText members).getD (.list [])).items = .ok entries

/-- Entries that agree, except that the values of numbers may differ. -/
def EntriesAgree (entry other : Value) : Prop :=
  match entryFields entry, entryFields other with
  | .ok fields, .ok others => List.Forall₂ (AgreeButNumbers IsNumericKey) fields others
  | .error fault, .error otherFault => fault = otherFault
  | _, _ => False

/-- Whether an entry gives an integer that is too large for a double where a number is wanted. -/
def HasLargeEntry (entry : Value) : Prop :=
  ∃ fields, entryFields entry = .ok fields ∧ ∃ field ∈ fields, HasLargeNumber IsNumericKey field

theorem overflowsIf_entry (entry other : Value) (agree : EntriesAgree entry other)
    (small : ¬HasLargeEntry other) :
    OverflowsIf (HasLargeEntry entry) (entryFields entry >>= checkEntry)
      (entryFields other >>= checkEntry) := by
  unfold EntriesAgree HasLargeEntry at *
  cases read : entryFields entry with
  | error fault =>
    cases readOther : entryFields other with
    | error otherFault =>
      rw [read, readOther] at agree
      obtain rfl : fault = otherFault := agree
      exact .error _ fault
    | ok others =>
      rw [read, readOther] at agree
      contradiction
  | ok fields =>
    cases readOther : entryFields other with
    | error otherFault =>
      rw [read, readOther] at agree
      contradiction
    | ok others =>
      rw [read, readOther] at agree
      have checks := overflowsIf_checkEntry agree fun field member large =>
        small ⟨others, readOther, field, member, large⟩
      exact checks.congr (by simp)

/-- A document that is described is refused for its resolution or for one of its entries. -/
theorem verdict_ofValue {data resolution : Value} {entries : List Value}
    (describes : Describes data resolution entries) :
    verdict (ofValue data) =
      (if resolution.isTruthy then resolution.arguments >>= Profile.ofArguments else .ok {}) >>=
        fun _ => entries.forM fun entry => entryFields entry >>= checkEntry := by
  obtain ⟨members, rfl, rfl, listed⟩ := describes
  have added (profile : Profile) : verdict (entries.foldlM addEntry (empty profile)) =
      entries.forM fun entry => entryFields entry >>= checkEntry :=
    verdict_foldlM verdict_addEntry entries _
  change verdict (if _ then _ else _) = _
  split
  · cases ((Value.lookup? "resolution".toText members).getD .null).arguments with
    | error fault => rfl
    | ok given =>
      change verdict (Profile.ofArguments given >>= fun profile =>
        _ >>= fun entries => List.foldlM addEntry (empty profile) entries) = _
      rw [listed]
      cases accepted : Profile.ofArguments given with
      | error fault =>
        change _ = (Profile.ofArguments given >>= fun _ => _)
        rw [accepted]
        rfl
      | ok profile =>
        change _ = (Profile.ofArguments given >>= fun _ => _)
        rw [accepted]
        exact added profile
  · change verdict (_ >>= fun entries => List.foldlM addEntry (empty {}) entries) = _
    rw [listed]
    exact added {}

/-- Stored documents that agree but in numbers differ by an overflow at most. -/
theorem overflowsIf_ofValue {data other resolution : Value} {entries others : List Value}
    (describes : Describes data resolution entries)
    (otherDescribes : Describes other resolution others)
    (agree : List.Forall₂ EntriesAgree entries others)
    (small : ∀ other ∈ others, ¬HasLargeEntry other) :
    OverflowsIf (∃ entry ∈ entries, HasLargeEntry entry) (verdict (ofValue data))
      (verdict (ofValue other)) := by
  rw [verdict_ofValue describes, verdict_ofValue otherDescribes]
  apply OverflowsIf.bind
  intro profile _
  exact .forM overflowsIf_entry agree small

/-- Every value is coerced to a natural number, to zero unless it stands for a finite number, and
only integers that are too large for a double overflow. So updates and stored documents that agree
but in numbers are refused together, or one of them has such an integer and overflows. -/
theorem numbers_accepted (value : Value) (document : Document) (id data other : Value) :
    ((value.IsTooLarge ∧ coerceNatural value = .error .overflow) ∨
      ¬value.IsTooLarge ∧
        coerceNatural value = .ok ((value.double?.map naturalPart).getD 0) ∧
        (¬value.IsFiniteNumber → coerceNatural value = .ok 0)) ∧
      (∀ fields others : List (Text × Value),
        List.Forall₂ (AgreeButNumbers IsNumericName) fields others →
        (∀ other ∈ others, ¬HasLargeNumber IsNumericName other) →
          OverflowsIf
            (document.get? id ≠ none ∧ ∃ given ∈ fields, HasLargeNumber IsNumericName given)
            (document.update id fields).2 (document.update id others).2) ∧
      ∀ (resolution : Value) (entries others : List Value),
        Describes data resolution entries → Describes other resolution others →
        List.Forall₂ EntriesAgree entries others → (∀ other ∈ others, ¬HasLargeEntry other) →
          OverflowsIf (∃ entry ∈ entries, HasLargeEntry entry) (verdict (ofValue data))
            (verdict (ofValue other)) := by
  refine ⟨?_, ?_, ?_⟩
  · by_cases large : value.IsTooLarge
    · exact .inl ⟨large, coerceNatural_of_isTooLarge large⟩
    · exact .inr ⟨large, coerceNatural_of_not_isTooLarge large,
        coerceNatural_of_not_isFiniteNumber large⟩
  · intro fields others agree small
    exact overflowsIf_update document id agree small
  · intro resolution entries others describes otherDescribes agree small
    exact overflowsIf_ofValue describes otherDescribes agree small

/-- The least natural number that is too large for a double. -/
def hugeNumber : Value :=
  .int Binary64.overflowLimit

theorem isTooLarge_hugeNumber : hugeNumber.IsTooLarge :=
  (Int.natAbs_natCast Binary64.overflowLimit).ge

theorem not_isTooLarge_zero : ¬(Value.int 0).IsTooLarge := by
  change ¬Binary64.overflowLimit ≤ (0 : Int).natAbs
  decide +kernel

/-- An entry of a stored document: a text at some horizontal position. -/
def storedText (x : Value) : Value :=
  .object [("type".toText, .ofString "text"), ("x".toText, x)]

/-- A stored document with this entry alone. -/
def storedLabel (x : Value) : Value :=
  .object [("elements".toText, .list [storedText x])]

theorem describes_storedLabel (x : Value) : Describes (storedLabel x) .null [storedText x] :=
  ⟨_, rfl, rfl, rfl⟩

theorem isNumericName_x : IsNumericName "x".toText :=
  ⟨.x, by decide, rfl⟩

theorem hasLargeEntry_storedText {x : Value} : HasLargeEntry (storedText x) ↔ x.IsTooLarge := by
  have fields : entryFields (storedText x) =
      .ok [(.text "type".toText, .ofString "text"), (.text "x".toText, x)] := rfl
  have x_isNumeric : IsNumericKey (.text "x".toText) := isNumericKey_text_iff.mpr isNumericName_x
  constructor
  · rintro ⟨given, read, field, member, -, large⟩
    obtain rfl := Except.ok.inj (fields.symm.trans read)
    rcases List.mem_cons.mp member with rfl | member
    · contradiction
    · obtain rfl := List.mem_singleton.mp member
      exact large
  · intro large
    exact ⟨_, fields, (.text "x".toText, x), by simp, x_isNumeric, large⟩

/-- The integer overflows in an update and in a stored document, where zero is taken. -/
theorem numbers_accepted_huge :
    coerceNatural hugeNumber = .error .overflow ∧
      (labelled.update (.int 1) [("x".toText, hugeNumber)]).2 = .error .overflow ∧
      verdict (ofValue (storedLabel hugeNumber)) = .error .overflow := by
  have large := isTooLarge_hugeNumber
  -- Nothing else is needed of the number, and its digits need not be computed.
  generalize hugeNumber = value at large ⊢
  obtain ⟨coerced, updated, loaded⟩ :=
    numbers_accepted value labelled (.int 1) (storedLabel value) (storedLabel (.int 0))
  have overflows : coerceNatural value = .error .overflow := by
    rcases coerced with ⟨-, overflows⟩ | ⟨small, -⟩
    · exact overflows
    · exact absurd large small
  have updates := updated [("x".toText, value)] [("x".toText, .int 0)]
    (.cons ⟨rfl, .inr isNumericName_x⟩ .nil)
    (List.forall_mem_singleton.mpr fun large => not_isTooLarge_zero large.2)
  have entries : EntriesAgree (storedText value) (storedText (.int 0)) :=
    .cons ⟨rfl, .inl rfl⟩ (.cons ⟨rfl, .inr (isNumericKey_text_iff.mpr isNumericName_x)⟩ .nil)
  have loads := loaded _ _ _ (describes_storedLabel value)
    (describes_storedLabel (.int 0)) (.cons entries .nil)
    (List.forall_mem_singleton.mpr (mt hasLargeEntry_storedText.mp not_isTooLarge_zero))
  refine ⟨overflows, updates.overflow ?_ ?_, loads.overflow ?_ ?_⟩
  · exact ⟨Option.some_ne_none _, _, List.mem_singleton_self _, isNumericName_x, large⟩
  · decide +kernel
  · exact ⟨_, List.mem_singleton_self _, hasLargeEntry_storedText.mpr large⟩
  · decide +kernel

/-- An update can be refused for the value of a number. -/
theorem exists_refused_number :
    ∃ value document id, Reachable document ∧ (∀ n, coerceNatural value ≠ .ok n) ∧
      (document.update id [("x".toText, value)]).2 ≠ .ok () := by
  refine ⟨hugeNumber, labelled, .int 1, .add (.empty {}) _, ?_⟩
  have large := isTooLarge_hugeNumber
  generalize hugeNumber = value at large ⊢
  constructor
  · intro n taken
    rw [coerceNatural_of_isTooLarge large] at taken
    contradiction
  · intro updated
    have checked : (labelled.update (.int 1) [("x".toText, value)]).2 =
        verdict (Element.checked .x value) >>= fun _ => .ok () := snd_update _ _ _
    rw [updated, Element.verdict_checked_of_isTooLarge (by decide) large] at checked
    contradiction

end LabelPress.Document

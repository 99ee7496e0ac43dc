import LabelPress.Proofs.Document.Settled
import LabelPress.Proofs.Value.Lookup

/-!
# Updates

An update examines the names of all its fields before it writes anything. Then it writes one field
after the other, and the first value that fails its check ends it. So an update that succeeds merges
its fields into the element: each attribute takes the value of its field, as the check has written
it, whatever the order of the fields. An update that fails at a value has merged the fields before
that value, and they stay merged.
-/

namespace LabelPress

/-- What follows an edit that succeeded. A failed edit is the last one. -/
def proceed {State : Type} (edit : State × Except Fault Unit)
    (next : State → State × Except Fault Unit) : State × Except Fault Unit :=
  match edit.2 with
  | .ok () => next edit.1
  | .error fault => (edit.1, .error fault)

/-! ## Fields and edits -/

namespace Attribute

theorem ofName?_eq_some_iff {name : Text} {field : Attribute} :
    ofName? name = some field ↔ field.name = name := by
  constructor
  · intro found
    exact beq_iff_eq.mp (List.find?_some (p := fun field : Attribute => field.name == name) found)
  · rintro rfl
    cases field <;> rfl

theorem name_injective {first second : Attribute} (same : first.name = second.name) :
    first = second := by
  have found := ofName?_eq_some_iff.mpr same
  rw [ofName?_eq_some_iff.mpr rfl] at found
  exact (Option.some.inj found).symm

/-- No attribute has a name that an update takes for something else. -/
theorem name_free (field : Attribute) :
    Document.reservedNames.contains field.name = false ∧ "id".toText ≠ field.name := by
  cases field <;> decide

end Attribute

namespace Document

/-- An edit as a field. -/
def fieldOf (edit : Attribute × Value) : Text × Value :=
  (edit.1.name, edit.2)

/-- A field under the name of an attribute. -/
def IsNamed (given : Text × Value) : Prop :=
  ∃ field : Attribute, field.name = given.1

/-- Fields under names of attributes are edits. -/
theorem exists_edits_iff {fields : List (Text × Value)} :
    (∃ edits : List (Attribute × Value), fields = edits.map fieldOf) ↔
      ∀ given ∈ fields, IsNamed given := by
  constructor
  · rintro ⟨edits, rfl⟩ given member
    rcases List.mem_map.mp member with ⟨edit, -, rfl⟩
    exact ⟨edit.1, rfl⟩
  · intro named
    induction fields with
    | nil => exact ⟨[], rfl⟩
    | cons given fields ih =>
      rw [List.forall_mem_cons] at named
      rcases named.1 with ⟨field, isName⟩
      rcases ih named.2 with ⟨edits, rfl⟩
      exact ⟨(field, given.2) :: edits, by rw [List.map_cons, fieldOf, isName]⟩

theorem isNamed_iff {given : Text × Value} :
    IsNamed given ↔ (Attribute.ofName? given.1).isNone = false := by
  rw [Option.isNone_eq_false_iff, Option.isSome_iff_exists]
  simp only [IsNamed, Attribute.ofName?_eq_some_iff]

theorem editsOf_map_fieldOf (edits : List (Attribute × Value)) :
    editsOf (edits.map fieldOf) = .ok edits := by
  have names : ∀ name ∈ (edits.map fieldOf).map Prod.fst,
      ∃ field : Attribute, field.name = name := by
    intro name member
    rcases List.mem_map.mp member with ⟨given, isField, rfl⟩
    exact exists_edits_iff.mp ⟨edits, rfl⟩ given isField
  have noneReserved : ((edits.map fieldOf).map Prod.fst).any reservedNames.contains = false := by
    rw [List.any_eq_false]
    intro name member
    rcases names name member with ⟨field, rfl⟩
    rw [field.name_free.1]
    exact Bool.false_ne_true
  have noIdentity : ((edits.map fieldOf).map Prod.fst).contains "id".toText = false := by
    rw [List.contains_eq_any_beq, List.any_eq_false]
    intro name member
    rcases names name member with ⟨field, rfl⟩
    rw [beq_iff_eq]
    exact field.name_free.2
  have noneUnknown : ((edits.map fieldOf).map Prod.fst).filter
      (fun name => (Attribute.ofName? name).isNone) = [] := by
    rw [List.filter_eq_nil_iff]
    intro name member
    rcases names name member with ⟨field, isName⟩
    rw [Attribute.ofName?_eq_some_iff.mpr isName]
    exact Bool.false_ne_true
  have kept : (edits.map fieldOf).filterMap (fun given =>
      (Attribute.ofName? given.1).map fun field => (field, given.2)) = edits := by
    rw [List.filterMap_map]
    refine (List.filterMap_congr ?_).trans List.filterMap_some
    intro edit _
    rw [Function.comp_apply, fieldOf, Attribute.ofName?_eq_some_iff.mpr rfl]
    rfl
  unfold editsOf
  dsimp only
  rw [noneReserved, noIdentity, noneUnknown, kept]
  rfl

/-- Edits are asked for by the fields under the names of their attributes. -/
theorem editsOf_eq_ok_iff {fields : List (Text × Value)} {edits : List (Attribute × Value)} :
    editsOf fields = .ok edits ↔ fields = edits.map fieldOf := by
  constructor
  · intro asked
    have named : ∀ given ∈ fields, IsNamed given := by
      intro given member
      rw [isNamed_iff]
      by_contra unnamed
      have unknown : given.1 ∈ (fields.map Prod.fst).filter
          fun name => (Attribute.ofName? name).isNone := by
        rw [List.mem_filter]
        exact ⟨List.mem_map_of_mem member, by simpa using unnamed⟩
      unfold editsOf at asked
      dsimp only at asked
      split at asked
      · contradiction
      · split at asked
        · contradiction
        · split at asked
          · contradiction
          · rename_i noneUnknown
            simp only [Bool.not_eq_true, Bool.not_eq_false', List.isEmpty_iff] at noneUnknown
            rw [noneUnknown] at unknown
            contradiction
    rcases exists_edits_iff.mpr named with ⟨others, rfl⟩
    rw [editsOf_map_fieldOf] at asked
    rw [Except.ok.inj asked]
  · rintro rfl
    exact editsOf_map_fieldOf edits

end Document

/-! ## Elements -/

namespace Element

theorem assignAll_append (element : Element) (edits others : List (Attribute × Value)) :
    element.assignAll (edits ++ others) =
      proceed (element.assignAll edits) fun edited => edited.assignAll others := by
  induction edits generalizing element with
  | nil => rfl
  | cons edit edits ih =>
    rw [List.cons_append, assignAll, assignAll]
    cases element.assign edit.1 edit.2 with
    | ok edited => exact ih edited
    | error fault => rfl

/-- Edits that fail have made those before the first value that fails its check. -/
theorem exists_of_assignAll_eq_error {element edited : Element} {edits : List (Attribute × Value)}
    {fault : Fault} (failed : element.assignAll edits = (edited, .error fault)) :
    ∃ before edit after, edits = before ++ edit :: after ∧
      element.assignAll before = (edited, .ok ()) ∧ checked edit.1 edit.2 = .error fault := by
  induction edits generalizing element with
  | nil => cases (Prod.mk.inj failed).2
  | cons edit edits ih =>
    rw [assignAll] at failed
    cases written : checked edit.1 edit.2 with
    | error reason =>
      simp only [assign, written, Except.map, Prod.mk.injEq, Except.error.injEq] at failed
      rcases failed with ⟨rfl, rfl⟩
      exact ⟨[], edit, edits, rfl, rfl, written⟩
    | ok value =>
      simp only [assign, written, Except.map] at failed
      rcases ih failed with ⟨before, last, after, rfl, made, refused⟩
      refine ⟨edit :: before, last, after, rfl, ?_, refused⟩
      simp only [assignAll, assign, written, Except.map]
      exact made

/-- An element with given attributes. -/
def ofValues (id : Value) (value : Attribute → Value) : Element where
  id
  type := value .type
  x := value .x
  y := value .y
  width := value .width
  height := value .height
  content := value .content
  fontSize := value .fontSize
  fontVariant := value .fontVariant

@[simp]
theorem valueOf_ofValues (id : Value) (value : Attribute → Value) (field : Attribute) :
    (ofValues id value).valueOf field = value field := by
  cases field <;> rfl

/-- An element is its identity and the values of its attributes. -/
theorem ext_valueOf {first second : Element} (sameId : first.id = second.id)
    (sameValues : ∀ field, first.valueOf field = second.valueOf field) : first = second :=
  calc
    first = ofValues first.id first.valueOf := rfl
    _ = ofValues second.id second.valueOf := by rw [sameId, funext sameValues]
    _ = second := rfl

theorem id_overwrite (element : Element) (field : Attribute) (value : Value) :
    (element.overwrite field value).id = element.id := by
  cases field <;> rfl

/-! ## Merging -/

/-- The value that fields write to an attribute, if one of them names it. -/
def written? (fields : List (Text × Value)) (field : Attribute) : Option Value :=
  (Value.lookup? field.name fields).bind fun value => (checked field value).toOption

/-- An element into which fields are merged: an attribute that a field names gets the value that the
field writes, and the others keep theirs. -/
def merge (element : Element) (fields : List (Text × Value)) : Element :=
  ofValues element.id fun field => (written? fields field).getD (element.valueOf field)

/-- A field that names an attribute, with a value that passes the check of the attribute. -/
def IsAccepted (given : Text × Value) : Prop :=
  ∃ field : Attribute, field.name = given.1 ∧ ∃ value, checked field given.2 = .ok value

theorem isAccepted_fieldOf_iff {edit : Attribute × Value} :
    IsAccepted (Document.fieldOf edit) ↔ ∃ value, checked edit.1 edit.2 = .ok value := by
  constructor
  · rintro ⟨field, isName, accepted⟩
    rwa [Attribute.name_injective isName] at accepted
  · intro accepted
    exact ⟨edit.1, rfl, accepted⟩

theorem merge_nil (element : Element) : element.merge [] = element := rfl

theorem merge_cons {element : Element} {edit : Attribute × Value} {value : Value}
    {fields : List (Text × Value)} (accepted : checked edit.1 edit.2 = .ok value)
    (new : edit.1.name ∉ fields.map Prod.fst) :
    element.merge (Document.fieldOf edit :: fields) =
      (element.overwrite edit.1 value).merge fields := by
  apply ext_valueOf
  · exact (element.id_overwrite _ _).symm
  · intro field
    rw [merge, merge, valueOf_ofValues, valueOf_ofValues, valueOf_overwrite]
    by_cases same : field = edit.1
    · subst same
      have absent := Value.lookup?_eq_none_iff.mpr new
      simp [written?, Value.lookup?, Document.fieldOf, absent, accepted, Except.toOption]
    · have otherName : edit.1.name ≠ field.name := fun equal =>
        same (Attribute.name_injective equal).symm
      simp [written?, Value.lookup?, Document.fieldOf, otherName, same]

/-- Merging changes nothing if all fields write what is there. -/
theorem merge_eq_self_iff {element : Element} {fields : List (Text × Value)} :
    element.merge fields = element ↔
      ∀ field value, written? fields field = some value → element.valueOf field = value := by
  constructor
  · intro same field value written
    rw [← same, merge, valueOf_ofValues, written, Option.getD_some]
  · intro same
    apply ext_valueOf
    · rfl
    · intro field
      rw [merge, valueOf_ofValues]
      cases written : written? fields field with
      | none => rfl
      | some value => exact (same field value written).symm

/-- Edits of different attributes succeed if all their values pass the checks. Then they merge the
fields into the element. -/
theorem assignAll_eq_ok_iff {element edited : Element} {edits : List (Attribute × Value)}
    (distinct : ((edits.map Document.fieldOf).map Prod.fst).Nodup) :
    element.assignAll edits = (edited, .ok ()) ↔
      (∀ given ∈ edits.map Document.fieldOf, IsAccepted given) ∧
        element.merge (edits.map Document.fieldOf) = edited := by
  induction edits generalizing element with
  | nil => simp [assignAll, merge_nil]
  | cons edit edits ih =>
    rw [List.map_cons, List.map_cons, List.nodup_cons] at distinct
    rw [List.map_cons, List.forall_mem_cons, isAccepted_fieldOf_iff, assignAll, assign]
    cases accepted : checked edit.1 edit.2 with
    | error fault => simp [Except.map]
    | ok value =>
      rw [merge_cons accepted distinct.1]
      simpa [Except.map] using ih distinct.2

end Element

/-! ## One element of a document -/

namespace Document

/-- A document with another element in the place of the first one of an identity. -/
def put (document : Document) (id : Value) (element : Element) : Document :=
  { document with elements := modifyFirst id (fun _ => element) document.elements }

variable {document : Document} {id : Value} {element edited : Element}

theorem exists_append_of_get? (found : document.get? id = some element) :
    element.id.equals id = true ∧ ∃ before after,
      document.elements = before ++ element :: after ∧
        (∀ other ∈ before, other.id.equals id = false) ∧
        ∀ edited, document.put id edited = { document with
          elements := before ++ edited :: after } := by
  rcases List.find?_eq_some_iff_append.mp found with ⟨here, before, after, split, others⟩
  have others : ∀ other ∈ before, other.id.equals id = false := by simpa using others
  refine ⟨here, before, after, split, others, ?_⟩
  intro edited
  rw [put, split, modifyFirst_append_cons others here]

theorem equals_of_get? (found : document.get? id = some element) : element.id.equals id = true :=
  (exists_append_of_get? found).1

theorem put_self (found : document.get? id = some element) :
    document.put id element = document := by
  rcases exists_append_of_get? found with ⟨-, before, after, split, -, put⟩
  rw [put, ← split]

theorem get?_put (found : document.get? id = some element) (sameId : edited.id = element.id) :
    (document.put id edited).get? id = some edited := by
  rcases exists_append_of_get? found with ⟨here, before, after, split, others, put⟩
  rw [put]
  apply List.find?_eq_some_iff_append.mpr
  constructor
  · rw [sameId]
    exact here
  · refine ⟨before, after, rfl, ?_⟩
    intro other member
    rw [others other member]
    rfl

theorem put_put (found : document.get? id = some element) (sameId : edited.id = element.id)
    (last : Element) : (document.put id edited).put id last = document.put id last := by
  rcases exists_append_of_get? found with ⟨here, before, after, split, others, put⟩
  have editedHere : edited.id.equals id = true := sameId ▸ here
  rw [put, put, Document.put, modifyFirst_append_cons others editedHere]

theorem put_eq_self_iff (found : document.get? id = some element)
    (sameId : edited.id = element.id) : document.put id edited = document ↔ edited = element := by
  constructor
  · intro same
    have inPlace := get?_put found sameId
    rw [same, found] at inPlace
    exact (Option.some.inj inPlace).symm
  · rintro rfl
    exact put_self found

/-! ## Updates of an element -/

theorem update_of_get? {edits : List (Attribute × Value)}
    (found : document.get? id = some element) :
    document.update id (edits.map fieldOf) =
      (document.put id (element.assignAll edits).1, (element.assignAll edits).2) := by
  simp only [update, editsOf_map_fieldOf, found]
  rfl

theorem update_of_absent (absent : document.get? id = none) (edits : List (Attribute × Value)) :
    document.update id (edits.map fieldOf) = (document, .ok ()) := by
  simp only [update, editsOf_map_fieldOf, absent]

/-- Updates that follow each other can be asked for at once, unless a name is refused. -/
theorem update_append {fields others : List (Text × Value)}
    (named : ∀ given ∈ fields ++ others, IsNamed given) :
    document.update id (fields ++ others) =
      proceed (document.update id fields) fun edited => edited.update id others := by
  rw [List.forall_mem_append] at named
  rcases exists_edits_iff.mpr named.1 with ⟨edits, rfl⟩
  rcases exists_edits_iff.mpr named.2 with ⟨later, rfl⟩
  rw [← List.map_append]
  cases found : document.get? id with
  | none =>
    rw [update_of_absent found, update_of_absent found]
    exact (update_of_absent found later).symm
  | some element =>
    rw [update_of_get? found, update_of_get? found, Element.assignAll_append]
    have sameId := id_assignAll element edits
    cases made : element.assignAll edits with
    | mk edited outcome =>
      rw [made] at sameId
      cases outcome with
      | error fault => rfl
      | ok done =>
        simp only [proceed]
        rw [update_of_get? (get?_put found sameId), put_put found sameId]

/-- The fields of an update that can be made: their names are attributes, and if there is an element
of the identity, their values pass the checks. -/
def Takes (document : Document) (id : Value) (fields : List (Text × Value)) : Prop :=
  ∀ given ∈ fields, IsNamed given ∧ (document.get? id = none ∨ Element.IsAccepted given)

/-- A document with fields merged into the first element of an identity. -/
def merge (document : Document) (id : Value) (fields : List (Text × Value)) : Document :=
  match document.get? id with
  | none => document
  | some element => document.put id (element.merge fields)

theorem isNamed_of_update {fields : List (Text × Value)} {result : Document}
    (updated : document.update id fields = (result, .ok ())) : ∀ given ∈ fields, IsNamed given := by
  cases asked : editsOf fields with
  | ok edits => exact exists_edits_iff.mp ⟨edits, editsOf_eq_ok_iff.mp asked⟩
  | error fault =>
    simp only [update, asked] at updated
    cases (Prod.mk.inj updated).2

/-- An update that succeeds merges its fields into the element. It succeeds if all names are
attributes and all values pass their checks. -/
theorem update_eq_ok_iff {fields : List (Text × Value)} {result : Document}
    (distinct : (fields.map Prod.fst).Nodup) :
    document.update id fields = (result, .ok ()) ↔
      document.Takes id fields ∧ document.merge id fields = result := by
  constructor
  · intro updated
    have named := isNamed_of_update updated
    rcases exists_edits_iff.mpr named with ⟨edits, rfl⟩
    unfold merge
    cases found : document.get? id with
    | none =>
      rw [update_of_absent found] at updated
      exact ⟨fun given member => ⟨named given member, .inl found⟩, (Prod.mk.inj updated).1⟩
    | some element =>
      rw [update_of_get? found] at updated
      have made : element.assignAll edits = ((element.assignAll edits).1, .ok ()) :=
        Prod.ext rfl (Prod.mk.inj updated).2
      rcases (Element.assignAll_eq_ok_iff distinct).mp made with ⟨accepted, merged⟩
      constructor
      · exact fun given member => ⟨named given member, .inr (accepted given member)⟩
      · exact (congrArg (document.put id) merged).trans (Prod.mk.inj updated).1
  · rintro ⟨takes, rfl⟩
    rcases exists_edits_iff.mpr fun given member => (takes given member).1 with ⟨edits, rfl⟩
    unfold merge
    cases found : document.get? id with
    | none => exact update_of_absent found edits
    | some element =>
      have accepted : ∀ given ∈ edits.map fieldOf, Element.IsAccepted given := by
        intro given member
        apply (takes given member).2.resolve_left
        rw [found]
        exact Option.some_ne_none element
      have made : element.assignAll edits = (element.merge (edits.map fieldOf), .ok ()) :=
        (Element.assignAll_eq_ok_iff distinct).mpr ⟨accepted, rfl⟩
      rw [update_of_get? found, made]

/-! ## Updates that fail -/

/-- A failed update changes nothing if a name was refused. If a value was refused, the fields before
it have been merged, and the document is the same only if all of them wrote what was there. -/
theorem update_failed (document : Document) (id : Value) {fields : List (Text × Value)}
    {fault : Fault} (distinct : (fields.map Prod.fst).Nodup)
    (failed : (document.update id fields).2 = .error fault) :
    (editsOf fields = .error fault ∧ (document.update id fields).1 = document) ∨
      ∃ before given after element, fields = before ++ given :: after ∧
        document.get? id = some element ∧
        document.update id before = ((document.update id fields).1, .ok ()) ∧
        (document.update id fields).1.update id [given] =
          ((document.update id fields).1, .error fault) ∧
        ((document.update id fields).1 = document ↔
          ∀ field value, Element.written? before field = some value →
            element.valueOf field = value) := by
  cases asked : editsOf fields with
  | error reason =>
    simp only [update, asked] at failed ⊢
    obtain rfl := Except.error.inj failed
    exact .inl ⟨rfl, trivial⟩
  | ok edits =>
    obtain rfl := editsOf_eq_ok_iff.mp asked
    cases found : document.get? id with
    | none =>
      rw [update_of_absent found] at failed
      contradiction
    | some element =>
      rw [update_of_get? found] at failed ⊢
      have made : element.assignAll edits = ((element.assignAll edits).1, .error fault) :=
        Prod.ext rfl failed
      have sameId := id_assignAll element edits
      generalize (element.assignAll edits).1 = edited at made sameId ⊢
      rcases Element.exists_of_assignAll_eq_error made with
        ⟨before, edit, after, rfl, done, refused⟩
      rw [List.map_append, List.map_append, List.nodup_append] at distinct
      have merged := ((Element.assignAll_eq_ok_iff distinct.1).mp done).2
      refine .inr ⟨before.map fieldOf, fieldOf edit, after.map fieldOf, element,
        ?_, rfl, ?_, ?_, ?_⟩
      · rw [List.map_append, List.map_cons]
      · rw [update_of_get? found, done]
      · have refusedAlone : edited.assignAll [edit] = (edited, .error fault) := by
          simp [Element.assignAll, Element.assign, refused, Except.map]
        change (document.put id edited).update id ([edit].map fieldOf) = _
        rw [update_of_get? (get?_put found sameId), refusedAlone, put_put found sameId]
      · rw [put_eq_self_iff found sameId, ← merged, Element.merge_eq_self_iff]

/-- A document with one text. -/
def labelled : Document :=
  (empty.add (.ofString "text")).1

/-- A content and a type that does not exist. -/
def misfitting : List (Text × Value) :=
  [("content".toText, .ofString "Draft"), ("type".toText, .ofString "circle")]

/-- The type is refused when the content has already been written. -/
theorem update_failed_halfway :
    (misfitting.map Prod.fst).Nodup ∧
      (labelled.update (.int 1) misfitting).2 = .error (.unknownElementType "circle".toText) ∧
      (labelled.update (.int 1) misfitting).1 ≠ labelled := by
  have distinct : (misfitting.map Prod.fst).Nodup := by decide
  have failed : (labelled.update (.int 1) misfitting).2 =
      .error (.unknownElementType "circle".toText) := rfl
  refine ⟨distinct, failed, ?_⟩
  rcases labelled.update_failed (.int 1) distinct failed with ⟨refused, -⟩ |
    ⟨before, given, after, element, split, found, -, refused, unchanged⟩
  · have asked : editsOf misfitting =
        .ok [(.content, .ofString "Draft"), (.type, .ofString "circle")] :=
      editsOf_eq_ok_iff.mpr rfl
    rw [asked] at refused
    cases refused
  · have isText : labelled.get? (.int 1) = some (.ofType 1 .text) := rfl
    obtain rfl := Option.some.inj (isText.symm.trans found)
    rw [Ne, unchanged]
    intro same
    cases before with
    | nil =>
      -- The content alone would not have been refused.
      obtain rfl := (List.cons.inj split).1
      cases congrArg Prod.snd refused
    | cons first before =>
      obtain rfl := (List.cons.inj split).1
      have kept := same .content (.ofString "Draft") rfl
      cases kept

/-- An update of a reachable document can fail and change the document. -/
theorem exists_changed_by_failure :
    ∃ document id fields fault, Reachable document ∧
      (document.update id fields).2 = .error fault ∧ (document.update id fields).1 ≠ document := by
  refine ⟨labelled, .int 1, misfitting, .unknownElementType "circle".toText,
    .add (.empty {}) _, rfl, ?_⟩
  intro same
  have contents := congrArg (fun document => document.elements.map Element.content) same
  cases contents

end Document

end LabelPress

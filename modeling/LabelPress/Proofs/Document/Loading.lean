import LabelPress.Document.Emission
import LabelPress.Proofs.Document.Settled
import Mathlib.Data.List.Basic

/-!
# Loading what was stored

Stored data describes the document that it was made from, except that identities are given anew:
each entry adds an element of its type, and the fields of a settled element go through their checks
unchanged. Programs do not show identities.
-/

namespace LabelPress

/-! ## Profiles -/

theorem Profile.ofArguments_toValue (profile : Profile) :
    ∃ given, profile.toValue = .object given ∧ ofArguments given = .ok profile := by
  rcases profile with ⟨resolution, size⟩
  cases resolution <;> cases size <;> exact ⟨_, rfl, rfl⟩

/-! ## Entries -/

namespace Element

/-- The attributes that an element is stored with behind its type. -/
def storedAttributes : List Attribute :=
  [.x, .y, .width, .height, .content, .fontSize, .fontVariant]

/-- The fields that an element is stored with behind its type. -/
def storedFields (element : Element) : List (Text × Value) :=
  storedAttributes.map fun field => (field.name, element.valueOf field)

/-- Edits whose checks write the attributes of an element write them into another one. -/
theorem assignAll_of_checked {element : Element} {edits : List (Attribute × Value)}
    (accepted : ∀ edit ∈ edits, checked edit.1 edit.2 = .ok (element.valueOf edit.1))
    (target : Element) :
    target.assignAll edits =
      ((edits.map Prod.fst).foldl
        (fun target field => target.overwrite field (element.valueOf field)) target, .ok ()) := by
  induction edits generalizing target with
  | nil => rfl
  | cons edit edits ih =>
    rw [List.forall_mem_cons] at accepted
    have assigned : target.assign edit.1 edit.2 =
        .ok (target.overwrite edit.1 (element.valueOf edit.1)) := by
      rw [Element.assign, accepted.1]
      rfl
    rw [Element.assignAll, assigned]
    exact ih accepted.2 _

/-- The attributes of a settled element can be written into another one. -/
theorem IsSettled.assignAll_eq {element : Element} (settled : element.IsSettled)
    (fields : List Attribute) (target : Element) :
    target.assignAll (fields.map fun field => (field, element.valueOf field)) =
      (fields.foldl (fun target field => target.overwrite field (element.valueOf field)) target,
        .ok ()) := by
  have accepted : ∀ edit ∈ fields.map fun field => (field, element.valueOf field),
      checked edit.1 edit.2 = .ok (element.valueOf edit.1) := by
    intro edit member
    rcases List.mem_map.mp member with ⟨field, -, rfl⟩
    exact settled field
  have names : (fields.map fun field => (field, element.valueOf field)).map Prod.fst = fields := by
    rw [List.map_map]
    exact List.map_id fields
  rw [assignAll_of_checked accepted, names]

theorem IsSettled.exists_type {element : Element} (settled : element.IsSettled) :
    ∃ type, ElementType.ofValue element.type = .ok type ∧ element.type = .text type.name := by
  rcases map_eq_ok_iff.mp (settled .type) with ⟨type, known, same⟩
  exact ⟨type, known, same.symm⟩

/-- A new element that gets all other attributes of an element of its type is that element, under
its own identity. -/
theorem foldl_overwrite_ofType {element : Element} {type : ElementType}
    (known : element.type = .text type.name) (id : Nat) :
    storedAttributes.foldl (fun target field => target.overwrite field (element.valueOf field))
      (ofType id type) = { element with id := .int id } := by
  rcases element with ⟨_, _, x, y, width, height, content, fontSize, fontVariant⟩
  subst known
  rfl

end Element

namespace Document

theorem editsOf_storedFields (element : Element) :
    editsOf element.storedFields =
      .ok (Element.storedAttributes.map fun field => (field, element.valueOf field)) := rfl

/-- No element has the next identity. -/
def IsFresh (document : Document) : Prop :=
  ∀ element ∈ document.elements, element.id.equals (.int document.nextId) = false

/-- Edits of an element that was just added lead to the document that takes in the element that
they lead to. -/
theorem update_adopt {document : Document} (fresh : document.IsFresh) {type : ElementType}
    {fields : List (Text × Value)} {edits : List (Attribute × Value)} {element : Element}
    (named : editsOf fields = .ok edits)
    (edited : (Element.ofType document.nextId type).assignAll edits =
      ({ element with id := .int document.nextId }, .ok ())) :
    (document.adopt (.ofType document.nextId type)).update (.int document.nextId) fields =
      (document.adopt element, .ok ()) := by
  have here : (Element.ofType document.nextId type).id.equals (.int document.nextId) = true :=
    decide_eq_true rfl
  have found : (document.adopt (.ofType document.nextId type)).get? (.int document.nextId) =
      some (.ofType document.nextId type) := by
    refine List.find?_eq_some_iff_append.mpr ⟨here, document.elements, [], rfl, ?_⟩
    intro other member
    rw [fresh other member]
    rfl
  have changed : modifyFirst (.int document.nextId)
      (fun _ => { element with id := .int document.nextId })
        (document.elements ++ [Element.ofType document.nextId type]) =
      document.elements ++ [{ element with id := .int document.nextId }] :=
    modifyFirst_append_cons fresh here _
  unfold update
  simp only [named, found, edited]
  exact congrArg (fun elements => (Document.mk document.profile elements _, Except.ok ())) changed

theorem addEntry_toValue {document : Document} (fresh : document.IsFresh) {element : Element}
    (settled : element.IsSettled) :
    document.addEntry element.toValue = .ok (document.adopt element) := by
  rcases settled.exists_type with ⟨type, accepted, known⟩
  have edited := settled.assignAll_eq Element.storedAttributes (.ofType document.nextId type)
  rw [Element.foldl_overwrite_ofType known] at edited
  have updated := update_adopt fresh (editsOf_storedFields element) edited
  have added := document.add_of_ofValue accepted
  have type_not_null : element.type ≠ .null := by
    rw [known]
    exact Value.noConfusion
  have fields : entryFields element.toValue = .ok ((.text "id".toText, element.id) ::
      (.text "type".toText, element.type) ::
        element.storedFields.map fun field => (.text field.1, field.2)) := rfl
  have named : namedFields (element.storedFields.map fun field => (.text field.1, field.2)) =
      .ok element.storedFields := rfl
  refine bind_eq_ok_iff.mpr ⟨_, fields, ?_⟩
  dsimp only
  split
  · rename_i missing
    exact absurd missing type_not_null
  · refine bind_eq_ok_iff.mpr ⟨_, congrArg Prod.snd added, ?_⟩
    refine bind_eq_ok_iff.mpr ⟨_, named, ?_⟩
    change ((document.add element.type).1.update _ _).2 >>= (fun _ =>
      pure ((document.add element.type).1.update _ _).1) = _
    rw [added, updated]
    rfl

/-! ## Documents -/

/-- Elements with consecutive identities. -/
def renumber (first : Nat) (elements : List Element) : List Element :=
  elements.mapIdx fun place element => { element with id := .int (place + first : Nat) }

theorem renumber_cons (first : Nat) (element : Element) (elements : List Element) :
    renumber first (element :: elements) =
      { element with id := .int first } :: renumber (first + 1) elements := by
  simp only [renumber, List.mapIdx_cons, Nat.zero_add, Nat.add_assoc, Nat.add_comm 1]

/-- All identities are below the next one. -/
def IsNumbered (document : Document) : Prop :=
  ∀ element ∈ document.elements, ∃ id < document.nextId, element.id = .int (id : Nat)

theorem IsNumbered.isFresh {document : Document} (numbered : document.IsNumbered) :
    document.IsFresh := by
  intro element member
  rcases numbered element member with ⟨id, older, isId⟩
  rw [isId]
  refine decide_eq_false ?_
  omega

theorem IsNumbered.adopt {document : Document} (numbered : document.IsNumbered)
    (element : Element) : (document.adopt element).IsNumbered := by
  intro other member
  rcases List.mem_append.mp member with old | new
  · rcases numbered other old with ⟨id, older, isId⟩
    exact ⟨id, Nat.lt_succ_of_lt older, isId⟩
  · rw [List.mem_singleton.mp new]
    exact ⟨document.nextId, Nat.lt_succ_self _, rfl⟩

/-- Loading stored elements adds them one after the other, under the identities that come next. -/
theorem foldlM_addEntry {elements : List Element}
    (settled : ∀ element ∈ elements, element.IsSettled) {document : Document}
    (numbered : document.IsNumbered) :
    (elements.map Element.toValue).foldlM addEntry document = .ok { document with
      elements := document.elements ++ renumber document.nextId elements
      nextId := document.nextId + elements.length } := by
  induction elements generalizing document with
  | nil =>
    rw [renumber, List.mapIdx_nil, List.append_nil]
    rfl
  | cons element elements ih =>
    rw [List.forall_mem_cons] at settled
    rw [List.map_cons, List.foldlM_cons, addEntry_toValue numbered.isFresh settled.1]
    refine (ih settled.2 (numbered.adopt element)).trans ?_
    simp only [adopt, renumber_cons, List.append_assoc, List.singleton_append, List.length_cons,
      Nat.add_assoc, Nat.add_comm 1]

/-- The same document with consecutive identities. -/
def renumbered (document : Document) : Document where
  profile := document.profile
  elements := renumber 1 document.elements
  nextId := 1 + document.elements.length

theorem renumber_renumber (first second : Nat) (elements : List Element) :
    renumber first (renumber second elements) = renumber first elements := by
  induction elements generalizing first second with
  | nil => rfl
  | cons element elements ih => rw [renumber_cons, renumber_cons, renumber_cons, ih]

@[simp]
theorem renumbered_renumbered (document : Document) :
    document.renumbered.renumbered = document.renumbered := by
  have sameLength : (renumber 1 document.elements).length = document.elements.length :=
    List.length_mapIdx
  simp only [renumbered, renumber_renumber, sameLength]

/-- Stored data describes the document that it was made from, with consecutive identities. -/
theorem ofValue_toValue {document : Document}
    (settled : ∀ element ∈ document.elements, element.IsSettled) :
    ofValue document.toValue = .ok document.renumbered := by
  rcases document.profile.ofArguments_toValue with ⟨given, stored, accepted⟩
  have numbered : (empty document.profile).IsNumbered := List.forall_mem_nil _
  have truthy : document.profile.toValue.isTruthy = true := rfl
  refine bind_eq_ok_iff.mpr ⟨_, rfl, (if_pos truthy).trans ?_⟩
  refine bind_eq_ok_iff.mpr ⟨given, congrArg Value.arguments stored, ?_⟩
  refine bind_eq_ok_iff.mpr ⟨document.profile, accepted, ?_⟩
  exact bind_eq_ok_iff.mpr ⟨_, rfl, foldlM_addEntry settled numbered⟩

/-! ## Programs -/

theorem mapM_block_renumber (first : Nat) (elements : List Element) :
    (renumber first elements).mapM Element.block = elements.mapM Element.block := by
  induction elements generalizing first with
  | nil => rfl
  | cons element elements ih =>
    have same : Element.block { element with id := .int first } = element.block := rfl
    rw [renumber_cons, List.mapM_cons, List.mapM_cons, same, ih]

/-- Programs do not show identities. -/
theorem emit_renumbered (document : Document) : document.renumbered.emit = document.emit := by
  rw [emit, emit, fragments, fragments, renumbered, mapM_block_renumber]

end Document

end LabelPress

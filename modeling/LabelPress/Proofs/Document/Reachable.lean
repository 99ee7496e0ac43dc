import LabelPress.Document.Stored
import LabelPress.Proofs.Outcome

/-!
# Reachable documents

A document is reachable if it was made empty or loaded, and then changed by adding, updating and
removing elements, in any order and with any arguments, whether the changes succeeded or failed.
The attributes of an element are arbitrary values; those of a reachable document are never
arbitrary. They stand for the elements of a list of checked elements, whose identities grow from
element to element and stay below the next one. Loading is no exception, since it adds and updates.

An attribute that is overwritten without a check leaves this picture, so overwriting is no change
here.
-/

namespace LabelPress

/-- An element with attributes that went through the checks. -/
structure CheckedElement where
  id : Nat
  type : ElementType
  x : Nat
  y : Nat
  width : Nat
  height : Nat
  content : Text
  fontSize : Nat
  fontVariant : FontVariant

namespace CheckedElement

/-- The element that a checked element stands for. -/
def element (checked : CheckedElement) : Element where
  id := .int checked.id
  type := .text checked.type.name
  x := .int checked.x
  y := .int checked.y
  width := .int checked.width
  height := .int checked.height
  content := .text checked.content
  fontSize := .int checked.fontSize
  fontVariant := .text checked.fontVariant.text

/-- A new element of a type. -/
def ofType (id : Nat) (type : ElementType) : CheckedElement where
  id
  type
  x := 50
  y := 50
  width := type.defaultSize.1.toNat
  height := type.defaultSize.2.toNat
  content := type.defaultContent
  fontSize := type.defaultFontSize.toNat
  fontVariant := FontVariant.standard

@[simp]
theorem element_ofType (id : Nat) (type : ElementType) :
    (ofType id type).element = Element.ofType id type := by
  cases type <;> rfl

/-- An edit writes a checked attribute and leaves the identity alone. -/
theorem exists_of_assign {checked : CheckedElement} {field : Attribute} {value : Value}
    {edited : Element} (assigned : checked.element.assign field value = .ok edited) :
    ∃ other : CheckedElement, other.element = edited ∧ other.id = checked.id := by
  rcases map_eq_ok_iff.mp assigned with ⟨written, accepted, rfl⟩
  cases field with
  | type =>
    rcases map_eq_ok_iff.mp accepted with ⟨type, -, rfl⟩
    exact ⟨{ checked with type }, rfl, rfl⟩
  | content =>
    rcases map_eq_ok_iff.mp accepted with ⟨content, -, rfl⟩
    exact ⟨{ checked with content }, rfl, rfl⟩
  | fontVariant =>
    rcases map_eq_ok_iff.mp accepted with ⟨fontVariant, -, rfl⟩
    exact ⟨{ checked with fontVariant }, rfl, rfl⟩
  | x =>
    rcases map_eq_ok_iff.mp accepted with ⟨x, -, rfl⟩
    exact ⟨{ checked with x }, rfl, rfl⟩
  | y =>
    rcases map_eq_ok_iff.mp accepted with ⟨y, -, rfl⟩
    exact ⟨{ checked with y }, rfl, rfl⟩
  | width =>
    rcases map_eq_ok_iff.mp accepted with ⟨width, -, rfl⟩
    exact ⟨{ checked with width }, rfl, rfl⟩
  | height =>
    rcases map_eq_ok_iff.mp accepted with ⟨height, -, rfl⟩
    exact ⟨{ checked with height }, rfl, rfl⟩
  | fontSize =>
    rcases map_eq_ok_iff.mp accepted with ⟨fontSize, -, rfl⟩
    exact ⟨{ checked with fontSize }, rfl, rfl⟩

/-- Edits leave a checked element of the same identity, even if one of them fails. -/
theorem exists_assignAll (checked : CheckedElement) (edits : List (Attribute × Value)) :
    ∃ other : CheckedElement,
      other.element = (checked.element.assignAll edits).1 ∧ other.id = checked.id := by
  induction edits generalizing checked with
  | nil => exact ⟨checked, rfl, rfl⟩
  | cons edit edits ih =>
    rw [Element.assignAll]
    split
    · rename_i edited assigned
      rcases exists_of_assign assigned with ⟨next, rfl, sameId⟩
      rcases ih next with ⟨last, same, lastId⟩
      exact ⟨last, same, lastId.trans sameId⟩
    · exact ⟨checked, rfl, rfl⟩

end CheckedElement

namespace Document

/-! ## The invariant -/

/-- A document stands for a list of checked elements. -/
structure Holds (document : Document) (entries : List CheckedElement) : Prop where
  elements : document.elements = entries.map CheckedElement.element
  /-- Identities grow from element to element. -/
  ordered : (entries.map CheckedElement.id).Pairwise (· < ·)
  /-- The next identity is a new one. -/
  fresh : ∀ id ∈ entries.map CheckedElement.id, id < document.nextId

theorem holds_empty (profile : Profile) : (empty profile).Holds [] where
  elements := rfl
  ordered := .nil
  fresh := by simp

/-- A document that takes in an element under the next identity. -/
def adopt (document : Document) (element : Element) : Document :=
  { document with
    elements := document.elements ++ [{ element with id := .int document.nextId }]
    nextId := document.nextId + 1 }

theorem add_of_ofValue {type : Value} {known : ElementType}
    (accepted : ElementType.ofValue type = .ok known) (document : Document) :
    document.add type =
      (document.adopt (.ofType document.nextId known), .ok document.nextId) := by
  rw [add, accepted]
  rfl

/-- Adding takes in a new element of a known type; an unknown type only uses up an identity. -/
theorem add_cases (document : Document) (type : Value) :
    (∃ known, document.add type =
        (document.adopt (.ofType document.nextId known), .ok document.nextId)) ∨
      ∃ fault, document.add type =
        ({ document with nextId := document.nextId + 1 }, .error fault) := by
  cases accepted : ElementType.ofValue type with
  | ok known => exact .inl ⟨known, document.add_of_ofValue accepted⟩
  | error fault =>
    rw [add, accepted]
    exact .inr ⟨fault, rfl⟩

/-- A change of the first element of an identity keeps the elements around it. -/
theorem modifyFirst_append_cons {id : Value} {before after : List Element} {element : Element}
    (others : ∀ other ∈ before, other.id.equals id = false) (here : element.id.equals id = true)
    (change : Element → Element) :
    modifyFirst id change (before ++ element :: after) = before ++ change element :: after := by
  induction before with
  | nil => simp [modifyFirst, here]
  | cons first before ih =>
    rw [List.forall_mem_cons] at others
    simp [modifyFirst, others.1, ih others.2]

/-- Updating edits the first element of the identity, or nothing at all. -/
theorem update_cases (document : Document) (id : Value) (fields : List (Text × Value)) :
    (document.update id fields).1 = document ∨
      ∃ before element after edits, document.elements = before ++ element :: after ∧
        (document.update id fields).1 = { document with
          elements := before ++ (element.assignAll edits).1 :: after } := by
  unfold update
  split
  · exact .inl rfl
  · rename_i edits _
    split
    · exact .inl rfl
    · rename_i element found
      rcases List.find?_eq_some_iff_append.mp found with ⟨here, before, after, split, others⟩
      have others : ∀ other ∈ before, other.id.equals id = false := by simpa using others
      refine .inr ⟨before, element, after, edits, split, ?_⟩
      rw [split]
      exact congrArg (fun elements => { document with elements })
        (modifyFirst_append_cons others here fun _ => (element.assignAll edits).1)

namespace Holds

variable {document : Document} {entries : List CheckedElement}

theorem older (holds : document.Holds entries) :
    ∀ id ∈ entries.map CheckedElement.id, id < document.nextId + 1 :=
  fun id member => Nat.lt_succ_of_lt (holds.fresh id member)

/-- A checked element that is taken in comes last, under the next identity. -/
theorem adopt (holds : document.Holds entries) (checked : CheckedElement) :
    (document.adopt checked.element).Holds
      (entries ++ [{ checked with id := document.nextId }]) := by
  constructor
  · rw [List.map_append, ← holds.elements]
    rfl
  · rw [List.map_append, List.pairwise_append]
    constructor
    · exact holds.ordered
    · constructor
      · exact List.pairwise_singleton _ _
      · intro id member last isLast
        rw [List.map_singleton, List.mem_singleton] at isLast
        rw [isLast]
        exact holds.fresh id member
  · rw [List.map_append, List.forall_mem_append]
    constructor
    · exact holds.older
    · exact List.forall_mem_singleton.mpr (Nat.lt_succ_self _)

theorem add (holds : document.Holds entries) (type : Value) :
    ∃ others, (document.add type).1.Holds others := by
  rcases document.add_cases type with ⟨known, added⟩ | ⟨fault, refused⟩
  · have adopted := holds.adopt (.ofType document.nextId known)
    rw [CheckedElement.element_ofType] at adopted
    rw [added]
    exact ⟨_, adopted⟩
  · refine ⟨entries, ?_⟩
    rw [refused]
    exact ⟨holds.elements, holds.ordered, holds.older⟩

theorem update (holds : document.Holds entries) (id : Value) (fields : List (Text × Value)) :
    ∃ others, (document.update id fields).1.Holds others := by
  rcases document.update_cases id fields with unchanged |
    ⟨before, element, after, edits, split, edited⟩
  · rw [unchanged]
    exact ⟨entries, holds⟩
  · obtain ⟨front, rest, rfl, rfl, entriesRest⟩ :=
      List.map_eq_append_iff.mp (holds.elements.symm.trans split)
    rcases List.map_eq_cons_iff.mp entriesRest with ⟨entry, back, rfl, rfl, rfl⟩
    rcases entry.exists_assignAll edits with ⟨other, same, sameId⟩
    -- An edited element keeps its identity, so order and freshness need no new argument.
    have sameIds : (front ++ other :: back).map CheckedElement.id =
        (front ++ entry :: back).map CheckedElement.id := by
      simp [sameId]
    refine ⟨front ++ other :: back, ?_⟩
    rw [edited]
    constructor
    · simp [same]
    · rw [sameIds]
      exact holds.ordered
    · rw [sameIds]
      exact holds.fresh

theorem remove (holds : document.Holds entries) (id : Value) :
    ∃ others, (document.remove id).Holds others := by
  let kept := entries.filter fun entry => !entry.element.id.equals id
  have sublist : (kept.map CheckedElement.id).Sublist (entries.map CheckedElement.id) :=
    List.filter_sublist.map _
  refine ⟨kept, ?_⟩
  constructor
  · rw [Document.remove, holds.elements, List.filter_map]
    rfl
  · exact holds.ordered.sublist sublist
  · intro id member
    exact holds.fresh id (sublist.subset member)

end Holds

/-! ## Reachability -/

/-- The documents that can be made, loaded and changed. -/
inductive Reachable : Document → Prop where
  | empty (profile : Profile) : Reachable (.empty profile)
  | loaded {data : Value} {document : Document} (loaded : ofValue data = .ok document) :
    Reachable document
  | add {document : Document} (reachable : Reachable document) (type : Value) :
    Reachable (document.add type).1
  | update {document : Document} (reachable : Reachable document) (id : Value)
    (fields : List (Text × Value)) : Reachable (document.update id fields).1
  | remove {document : Document} (reachable : Reachable document) (id : Value) :
    Reachable (document.remove id)

/-- Loading adds one entry after the other to an empty document. -/
theorem exists_of_ofValue {data : Value} {document : Document}
    (loaded : ofValue data = .ok document) :
    ∃ profile stored, List.foldlM addEntry (empty profile) stored = .ok document := by
  obtain ⟨members, -, loaded⟩ := bind_eq_ok_iff.mp loaded
  dsimp only at loaded
  split at loaded
  · obtain ⟨given, -, loaded⟩ := bind_eq_ok_iff.mp loaded
    obtain ⟨profile, -, loaded⟩ := bind_eq_ok_iff.mp loaded
    obtain ⟨stored, -, loaded⟩ := bind_eq_ok_iff.mp loaded
    exact ⟨profile, stored, loaded⟩
  · obtain ⟨profile, -, loaded⟩ := bind_eq_ok_iff.mp loaded
    obtain ⟨stored, -, loaded⟩ := bind_eq_ok_iff.mp loaded
    exact ⟨profile, stored, loaded⟩

/-- An entry of a stored document is added and updated like any other element. -/
theorem exists_of_addEntry {document result : Document} {entry : Value}
    (added : document.addEntry entry = .ok result) :
    ∃ type id fields, result = ((document.add type).1.update id fields).1 := by
  obtain ⟨given, -, added⟩ := bind_eq_ok_iff.mp added
  dsimp only at added
  split at added
  · contradiction
  · obtain ⟨id, -, added⟩ := bind_eq_ok_iff.mp added
    obtain ⟨fields, -, added⟩ := bind_eq_ok_iff.mp added
    obtain ⟨done, -, added⟩ := bind_eq_ok_iff.mp added
    obtain rfl := Except.ok.inj added
    exact ⟨_, _, fields, rfl⟩

/-- What holds of empty documents and is kept by adding, updating and removing elements holds of
every reachable document: loading does nothing else. -/
theorem Reachable.of_changes {motive : Document → Prop}
    (empty : ∀ profile, motive (.empty profile))
    (add : ∀ document type, motive document → motive (document.add type).1)
    (update : ∀ document id fields, motive document → motive (document.update id fields).1)
    (remove : ∀ document id, motive document → motive (document.remove id))
    {document : Document} (reachable : Reachable document) : motive document := by
  induction reachable with
  | empty profile => exact empty profile
  | loaded loaded =>
    rcases exists_of_ofValue loaded with ⟨profile, stored, loaded⟩
    refine foldlM_invariant motive ?_ (empty profile) loaded
    intro reached entry next holds added
    rcases exists_of_addEntry added with ⟨type, id, fields, rfl⟩
    exact update _ id fields (add reached type holds)
  | add _ type ih => exact add _ type ih
  | update _ id fields ih => exact update _ id fields ih
  | remove _ id ih => exact remove _ id ih

/-- Every reachable document stands for checked elements. -/
theorem Reachable.holds {document : Document} (reachable : Reachable document) :
    ∃ entries, document.Holds entries := by
  apply reachable.of_changes (motive := fun document => ∃ entries, document.Holds entries)
  · exact fun profile => ⟨[], holds_empty profile⟩
  · rintro document type ⟨entries, holds⟩
    exact holds.add type
  · rintro document id fields ⟨entries, holds⟩
    exact holds.update id fields
  · rintro document id ⟨entries, holds⟩
    exact holds.remove id

/-- What each edit of an element keeps is kept by several edits. -/
theorem assignAll_invariant {motive : Element → Prop}
    (assign : ∀ element field value edited, motive element →
      element.assign field value = .ok edited → motive edited)
    {element : Element} (holds : motive element) (edits : List (Attribute × Value)) :
    motive (element.assignAll edits).1 := by
  induction edits generalizing element with
  | nil => exact holds
  | cons edit edits ih =>
    rw [Element.assignAll]
    split
    · rename_i edited assigned
      exact ih (assign element edit.1 edit.2 edited holds assigned)
    · exact holds

/-- No edit changes an identity. -/
theorem id_assignAll (element : Element) (edits : List (Attribute × Value)) :
    (element.assignAll edits).1.id = element.id := by
  apply assignAll_invariant (motive := fun edited => edited.id = element.id)
  · intro edited field value next same assigned
    rcases map_eq_ok_iff.mp assigned with ⟨written, -, rfl⟩
    cases field <;> exact same
  · rfl

/-- What holds of new elements and is kept by editing an attribute holds of every element of a
reachable document. New elements have positive identities. -/
theorem Reachable.forall_elements {motive : Element → Prop}
    (made : ∀ id type, 0 < id → motive (.ofType id type))
    (assign : ∀ element field value edited, motive element →
      element.assign field value = .ok edited → motive edited)
    {document : Document} (reachable : Reachable document) :
    ∀ element ∈ document.elements, motive element := by
  suffices both : 0 < document.nextId ∧ ∀ element ∈ document.elements, motive element from both.2
  apply reachable.of_changes
    (motive := fun document => 0 < document.nextId ∧ ∀ element ∈ document.elements, motive element)
  · intro profile
    exact ⟨Nat.one_pos, List.forall_mem_nil _⟩
  · rintro document type ⟨positive, all⟩
    rcases document.add_cases type with ⟨known, added⟩ | ⟨fault, refused⟩
    · rw [added, adopt, List.forall_mem_append, List.forall_mem_singleton]
      exact ⟨Nat.succ_pos _, all, made _ known positive⟩
    · rw [refused]
      exact ⟨Nat.succ_pos _, all⟩
  · rintro document id fields ⟨positive, all⟩
    rcases document.update_cases id fields with unchanged |
      ⟨before, element, after, edits, split, edited⟩
    · rw [unchanged]
      exact ⟨positive, all⟩
    · rw [split, List.forall_mem_append, List.forall_mem_cons] at all
      rw [edited, List.forall_mem_append, List.forall_mem_cons]
      exact ⟨positive, all.1, assignAll_invariant assign all.2.1 edits, all.2.2⟩
  · rintro document id ⟨positive, all⟩
    refine ⟨positive, ?_⟩
    intro element member
    exact all element (List.mem_filter.mp member).1

/-- The identities of a reachable document are positive. -/
theorem Reachable.exists_id {document : Document} (reachable : Reachable document) :
    ∀ element ∈ document.elements, ∃ id : Nat, 0 < id ∧ element.id = .int id := by
  apply reachable.forall_elements
    (motive := fun element => ∃ id : Nat, 0 < id ∧ element.id = .int id)
  · intro id type positive
    exact ⟨id, positive, rfl⟩
  · rintro element field value edited ⟨id, positive, isId⟩ assigned
    rcases map_eq_ok_iff.mp assigned with ⟨written, -, rfl⟩
    refine ⟨id, positive, ?_⟩
    cases field <;> exact isId

theorem Reachable.load {text : Text} {document : Document} (loaded : load text = .ok document) :
    Reachable document := by
  obtain ⟨data, -, loaded⟩ := bind_eq_ok_iff.mp loaded
  exact .loaded loaded

theorem Reachable.decode {octets : List UInt8} {document : Document}
    (decoded : decode octets = .ok document) : Reachable document := by
  obtain ⟨text, -, loaded⟩ := bind_eq_ok_iff.mp decoded
  exact .load loaded

end Document

end LabelPress

import LabelPress.Proofs.Document.Reachable
import LabelPress.Proofs.Program.Unambiguous
import Mathlib.Computability.Language

/-!
# Runs of requests

A caller asks a document to add, update and remove elements, to find one, or to list them all. Lists
belong to the caller, who can clear them. Whatever the requests are and whether they fail, the
document stays well-formed, identities are issued in increasing order, and elements keep the order
in which they came.
-/

namespace LabelPress

/-! ## The pattern of font selectors -/

namespace FontVariant

/-- The texts of one code point of a class. -/
def single (isMember : CodePoint → Bool) : Language CodePoint :=
  {text | ∃ c, isMember c = true ∧ text = [c]}

/-- The pattern of font selectors: a capital letter or a digit, perhaps another, and an
orientation. -/
def pattern : Language CodePoint :=
  single isNameChar * (single isNameChar + 1) * single isOrientation

/-- Font selectors are exactly the texts that match the pattern. -/
theorem mem_pattern_iff {text : Text} : text ∈ pattern ↔ isValid text = true := by
  constructor
  · intro matched
    rcases Language.mem_mul.mp matched with ⟨_, name, _, ⟨orientation, isLast, rfl⟩, rfl⟩
    rcases Language.mem_mul.mp name with ⟨_, ⟨font, isFont, rfl⟩, _, rest, rfl⟩
    rcases (Language.mem_add _ _ _).mp rest with ⟨member, isMember, rfl⟩ | rfl
    · simp [isValid, isFont, isMember, isLast]
    · simp [isValid, isFont, isLast]
  · intro valid
    rcases text_cases ⟨text, valid⟩ with ⟨font, orientation, rfl, isFont, isLast⟩ |
      ⟨font, member, orientation, rfl, isFont, isMember, isLast⟩
    · refine Language.mem_mul.mpr ⟨[font], ?_, [orientation], ⟨_, isLast, rfl⟩, rfl⟩
      exact Language.mem_mul.mpr ⟨[font], ⟨_, isFont, rfl⟩, [], .inr rfl, rfl⟩
    · refine Language.mem_mul.mpr ⟨[font, member], ?_, [orientation], ⟨_, isLast, rfl⟩, rfl⟩
      exact Language.mem_mul.mpr
        ⟨[font], ⟨_, isFont, rfl⟩, [member], .inl ⟨_, isMember, rfl⟩, rfl⟩

end FontVariant

/-! ## Growth -/

namespace Document

/-- The identities of the elements, in their order. -/
def identities (document : Document) : List Value :=
  document.elements.map Element.id

/-- How a document changes into another one while identities are issued. -/
structure Grows (before : Document) (issued : List Nat) (after : Document) : Prop where
  /-- No identity is issued twice. -/
  increasing : issued.Pairwise (· < ·)
  /-- Identities are issued from the counter. -/
  counted : ∀ id ∈ issued, before.nextId ≤ id ∧ id < after.nextId
  nextId_le : before.nextId ≤ after.nextId
  /-- Elements that stay keep their order, and new ones come behind them. -/
  order : ∃ kept new, after.identities = kept ++ new ∧ kept.Sublist before.identities ∧
    new.Sublist (issued.map fun id : Nat => .int id)

theorem Grows.of_sublist {before after : Document} (sameNext : after.nextId = before.nextId)
    (kept : after.identities.Sublist before.identities) : before.Grows [] after where
  increasing := .nil
  counted := List.forall_mem_nil _
  nextId_le := sameNext.ge
  order := ⟨_, [], (List.append_nil _).symm, kept, .refl _⟩

theorem Grows.refl (document : Document) : document.Grows [] document :=
  .of_sublist rfl (.refl _)

/-- Later changes follow earlier ones. -/
theorem Grows.trans {first second third : Document} {issued others : List Nat}
    (earlier : first.Grows issued second) (later : second.Grows others third) :
    first.Grows (issued ++ others) third where
  increasing := by
    refine List.pairwise_append.mpr ⟨earlier.increasing, later.increasing, ?_⟩
    intro id isEarlier other isLater
    exact (earlier.counted id isEarlier).2.trans_le (later.counted other isLater).1
  counted := by
    intro id member
    rcases List.mem_append.mp member with isEarlier | isLater
    · have bounds := earlier.counted id isEarlier
      exact ⟨bounds.1, bounds.2.trans_le later.nextId_le⟩
    · have bounds := later.counted id isLater
      exact ⟨earlier.nextId_le.trans bounds.1, bounds.2⟩
  nextId_le := earlier.nextId_le.trans later.nextId_le
  order := by
    rcases earlier.order with ⟨kept, new, identities, keptSublist, newSublist⟩
    rcases later.order with ⟨stillKept, newest, lastIdentities, stillSublist, newestSublist⟩
    -- What stays the second time is what stays of the first elements and of those added since.
    rw [identities] at stillSublist
    rcases List.sublist_append_iff.mp stillSublist with ⟨oldest, recent, rfl, isKept, isNew⟩
    refine ⟨oldest, recent ++ newest, ?_, isKept.trans keptSublist, ?_⟩
    · rw [lastIdentities, List.append_assoc]
    · rw [List.map_append]
      exact (isNew.trans newSublist).append newestSublist

/-! ## Changes -/

theorem grows_add (document : Document) (type : Value) :
    document.Grows (document.add type).2.toOption.toList (document.add type).1 := by
  rcases document.add_cases type with ⟨known, added⟩ | ⟨fault, refused⟩
  · rw [added]
    exact {
      increasing := List.pairwise_singleton _ _
      counted := by
        intro id member
        rw [List.mem_singleton.mp member]
        exact ⟨Nat.le_refl _, Nat.lt_succ_self _⟩
      nextId_le := Nat.le_succ _
      order := ⟨document.identities, [.int document.nextId], List.map_append, .refl _, .refl _⟩ }
  · rw [refused]
    exact {
      increasing := .nil
      counted := List.forall_mem_nil _
      nextId_le := Nat.le_succ _
      order := ⟨document.identities, [], (List.append_nil _).symm, .refl _, .refl _⟩ }

theorem grows_update (document : Document) (id : Value) (fields : List (Text × Value)) :
    document.Grows [] (document.update id fields).1 := by
  rcases document.update_cases id fields with unchanged |
    ⟨before, element, after, edits, split, edited⟩
  · rw [unchanged]
    exact .refl document
  · have same : (document.update id fields).1.identities = document.identities := by
      simp [identities, edited, split, id_assignAll]
    refine .of_sublist ?_ (same ▸ .refl _)
    rw [edited]

theorem grows_remove (document : Document) (id : Value) :
    document.Grows [] (document.remove id) :=
  .of_sublist rfl (List.filter_sublist.map _)

end Document

/-! ## Requests -/

/-- A document in the hands of a caller, with the lists of elements that the caller got. -/
structure Editing where
  document : Document
  lists : List (List Element) := []

namespace Editing

/-- What a caller asks for. -/
inductive Request where
  | add (type : Value)
  | update (id : Value) (fields : List (Text × Value))
  | remove (id : Value)
  | get (id : Value)
  | list
  /-- Clears the list that the caller got at a place. -/
  | clear (place : Nat)

/-- What a caller is told. -/
inductive Answer where
  | added (id : Nat)
  | found (element : Option Element)
  | listed (elements : List Element)
  | done

/-- A request and its answer. Failures can leave changes behind. -/
def perform (editing : Editing) : Request → Editing × Except Fault Answer
  | .add type =>
    let (document, added) := editing.document.add type
    ({ editing with document }, added.map .added)
  | .update id fields =>
    let (document, edited) := editing.document.update id fields
    ({ editing with document }, edited.map fun _ => .done)
  | .remove id => ({ editing with document := editing.document.remove id }, .ok .done)
  | .get id => (editing, .ok (.found (editing.document.get? id)))
  | .list =>
    let elements := editing.document.elements
    ({ editing with lists := editing.lists ++ [elements] }, .ok (.listed elements))
  | .clear place => ({ editing with lists := editing.lists.set place [] }, .ok .done)

/-- What requests lead to, one after the other, whether they fail or not. -/
def after (editing : Editing) : List Request → Editing
  | [] => editing
  | request :: requests => (editing.perform request).1.after requests

/-- The answers to requests. -/
def answers (editing : Editing) : List Request → List (Except Fault Answer)
  | [] => []
  | request :: requests =>
    (editing.perform request).2 :: (editing.perform request).1.answers requests

/-- The identity that an answer tells of a new element. -/
def issued? : Except Fault Answer → Option Nat
  | .ok (.added id) => some id
  | _ => none

/-- The identities of the elements that requests add. -/
def issued (editing : Editing) (requests : List Request) : List Nat :=
  (editing.answers requests).filterMap issued?

variable (editing : Editing) (request : Request) (requests later : List Request)

theorem after_append :
    editing.after (requests ++ later) = (editing.after requests).after later := by
  induction requests generalizing editing with
  | nil => rfl
  | cons request requests ih => exact ih _

theorem issued_cons : editing.issued (request :: requests) =
    (issued? (editing.perform request).2).toList ++
      (editing.perform request).1.issued requests := by
  simp only [issued, answers, List.filterMap_cons]
  cases issued? (editing.perform request).2 <;> rfl

/-- One request makes a document grow by what it issues. -/
theorem grows_perform : editing.document.Grows (issued? (editing.perform request).2).toList
    (editing.perform request).1.document := by
  cases request with
  | add type =>
    have grows := editing.document.grows_add type
    simp only [perform]
    cases added : (editing.document.add type).2 with
    | ok id =>
      rw [added] at grows
      exact grows
    | error fault =>
      rw [added] at grows
      exact grows
  | update id fields =>
    have grows := editing.document.grows_update id fields
    simp only [perform]
    cases (editing.document.update id fields).2 <;> exact grows
  | remove id => exact editing.document.grows_remove id
  | get id => exact .refl _
  | list => exact .refl _
  | clear place => exact .refl _

/-- Requests make a document grow by what they issue. -/
theorem grows_after :
    editing.document.Grows (editing.issued requests) (editing.after requests).document := by
  induction requests generalizing editing with
  | nil => exact .refl _
  | cons request requests ih =>
    rw [issued_cons]
    exact (editing.grows_perform request).trans (ih _)

variable {editing}

theorem reachable_perform (reachable : editing.document.Reachable) :
    (editing.perform request).1.document.Reachable := by
  cases request with
  | add type => exact reachable.add type
  | update id fields => exact reachable.update id fields
  | remove id => exact reachable.remove id
  | get id => exact reachable
  | list => exact reachable
  | clear place => exact reachable

theorem reachable_after (reachable : editing.document.Reachable) :
    (editing.after requests).document.Reachable := by
  induction requests generalizing editing with
  | nil => exact reachable
  | cons request requests ih => exact ih (reachable_perform request reachable)

/-- Requests leave a document that stands for checked elements with increasing identities below the
next one. Together they issue no identity twice, and later requests keep the order of the elements
that they leave. -/
theorem holds_after (reachable : editing.document.Reachable) :
    (∃ entries, (editing.after (requests ++ later)).document.Holds entries ∧
      ∀ checked ∈ entries, checked.fontVariant.text ∈ FontVariant.pattern) ∧
    editing.document.Grows (editing.issued (requests ++ later))
      (editing.after (requests ++ later)).document ∧
    (editing.after requests).document.Grows ((editing.after requests).issued later)
      (editing.after (requests ++ later)).document := by
  refine ⟨?_, editing.grows_after _, ?_⟩
  · rcases (reachable_after (requests ++ later) reachable).holds with ⟨entries, holds⟩
    refine ⟨entries, holds, ?_⟩
    intro checked member
    exact FontVariant.mem_pattern_iff.mpr checked.fontVariant.valid
  · rw [after_append]
    exact (editing.after requests).grows_after later

/-- A caller with an empty document. -/
def fresh : Editing :=
  { document := .empty }

/-- Requests that add elements; one of them asks for a type that does not exist. -/
def additions : List Request :=
  [.add (.ofString "text"), .add (.ofString "circle"), .add (.ofString "box"), .list]

/-- Requests that change elements; one of them fails halfway, and one clears a list. -/
def changes : List Request :=
  [.update (.int 1) [("x".toText, .ofString " -12.7 "), ("type".toText, .ofString "circle")],
    .clear 0, .remove (.int 1), .add (.ofString "line"), .get (.int 1)]

/-- The failed addition used up an identity, and the removed element does not give its own back. -/
theorem holds_after_changes :
    (∃ entries, (fresh.after (additions ++ changes)).document.Holds entries ∧
      ∀ checked ∈ entries, checked.fontVariant.text ∈ FontVariant.pattern) ∧
    fresh.document.Grows [1, 3, 4] (fresh.after (additions ++ changes)).document ∧
    (fresh.after additions).document.Grows [4] (fresh.after (additions ++ changes)).document :=
  holds_after additions changes (.empty {})

end Editing

end LabelPress

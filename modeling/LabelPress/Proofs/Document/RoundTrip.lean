import LabelPress.Proofs.Document.Loading
import LabelPress.Proofs.Json.Written

/-!
# Documents survive being stored

Every reachable document whose contents hold no surrogate is read back from its bytes: the same
profile and the same elements in the same order, which have consecutive identities now. Storing it
again therefore changes nothing any more. The bytes exist unless an identity is too long to be
written.
-/

namespace LabelPress

/-! ## Stored data -/

/-- Names that the program words itself hold no surrogate. -/
theorem hasNoSurrogate_of_names {entries : List (Text × Value)} {names : List String}
    (named : entries.map Prod.fst = names.map String.toText) :
    ∀ entry ∈ entries, Text.HasNoSurrogate entry.1 := by
  intro entry member
  have isName := List.mem_map_of_mem (f := Prod.fst) member
  rw [named] at isName
  rcases List.mem_map.mp isName with ⟨name, -, same⟩
  rw [← same]
  exact Text.hasNoSurrogate_toText name

namespace FontVariant

theorem isCharacter_of_le {c last : CodePoint} (le : c ≤ last) (low : last.toNat < 0xD800) :
    c.IsCharacter := by
  rintro distance rfl
  have below : 0xD800 + distance.val ≤ last.toNat := le
  omega

theorem isCharacter_of_isNameChar {c : CodePoint} (named : isNameChar c = true) :
    c.IsCharacter := by
  simp only [isNameChar, Bool.or_eq_true, Bool.and_eq_true, decide_eq_true_eq] at named
  rcases named with ⟨-, letter⟩ | ⟨-, digit⟩
  · exact isCharacter_of_le letter (by decide)
  · exact isCharacter_of_le digit (by decide)

theorem isCharacter_of_isOrientation {c : CodePoint} (turned : isOrientation c = true) :
    c.IsCharacter := by
  simp only [isOrientation, Bool.or_eq_true, beq_iff_eq] at turned
  intro distance
  rcases turned with ((rfl | rfl) | rfl) | rfl <;> exact CodePoint.noConfusion

theorem hasNoSurrogate_text (variant : FontVariant) : variant.text.HasNoSurrogate := by
  rcases variant with ⟨text, valid⟩
  unfold isValid at valid
  split at valid
  · simp only [Bool.and_eq_true] at valid
    simp only [Text.HasNoSurrogate, List.forall_mem_cons]
    exact ⟨isCharacter_of_isNameChar valid.1, isCharacter_of_isOrientation valid.2,
      List.forall_mem_nil _⟩
  · simp only [Bool.and_eq_true] at valid
    simp only [Text.HasNoSurrogate, List.forall_mem_cons]
    exact ⟨isCharacter_of_isNameChar valid.1.1, isCharacter_of_isNameChar valid.1.2,
      isCharacter_of_isOrientation valid.2, List.forall_mem_nil _⟩
  · contradiction

end FontVariant

namespace Element

theorem IsSettled.exists_content {element : Element} (settled : element.IsSettled) :
    ∃ content, element.content = .text content := by
  rcases map_eq_ok_iff.mp (settled .content) with ⟨content, -, isContent⟩
  exact ⟨content, isContent.symm⟩

theorem storable_natCast {value : Value}
    (settled : (coerceNatural value).map (fun n : Nat => Value.int n) = .ok value) (levels : Nat) :
    Json.Storable CodePoint.IsCharacter levels value := by
  rcases map_eq_ok_iff.mp settled with ⟨n, coerced, rfl⟩
  exact .int levels (of_decide_eq_true (Text.isShowable_of_isExact (isExact_of_coerceNatural coerced)))

/-- The attributes of a settled element can be stored. -/
theorem IsSettled.storable_valueOf {element : Element} (settled : element.IsSettled)
    (clean : ∀ content, element.content = .text content → content.HasNoSurrogate) (levels : Nat)
    (field : Attribute) :
    Json.Storable CodePoint.IsCharacter levels (element.valueOf field) := by
  have accepted := settled field
  cases field with
  | type =>
    rcases map_eq_ok_iff.mp accepted with ⟨type, -, same⟩
    rw [← same]
    cases type <;> exact .text levels (Text.hasNoSurrogate_toText _)
  | content =>
    rcases settled.exists_content with ⟨content, isText⟩
    rw [valueOf, isText]
    exact .text levels (clean content isText)
  | fontVariant =>
    rcases map_eq_ok_iff.mp accepted with ⟨variant, -, same⟩
    rw [← same]
    exact .text levels variant.hasNoSurrogate_text
  | x => exact storable_natCast accepted levels
  | y => exact storable_natCast accepted levels
  | width => exact storable_natCast accepted levels
  | height => exact storable_natCast accepted levels
  | fontSize => exact storable_natCast accepted levels

/-- A settled element can be stored, unless its identity is too long. -/
theorem IsSettled.storable_toValue {element : Element} (settled : element.IsSettled)
    (clean : ∀ content, element.content = .text content → content.HasNoSurrogate) (levels : Nat)
    (id : Json.Storable CodePoint.IsCharacter levels element.id) :
    Json.Storable CodePoint.IsCharacter (levels + 1) element.toValue := by
  have fields : element.toValue = .object (("id".toText, element.id) ::
    ("type".toText, element.valueOf .type) :: element.storedFields) := rfl
  have named : (("id".toText, element.id) :: ("type".toText, element.valueOf .type) ::
      element.storedFields).map Prod.fst =
        ["id", "type", "x", "y", "width", "height", "content", "font_size", "font_variant"].map
          String.toText := rfl
  rw [fields]
  apply Json.Storable.object
  · rw [named]
    decide
  · exact hasNoSurrogate_of_names named
  · simp only [List.forall_mem_cons]
    refine ⟨id, settled.storable_valueOf clean levels .type, ?_⟩
    intro entry member
    rcases List.mem_map.mp member with ⟨field, -, rfl⟩
    exact settled.storable_valueOf clean levels field

end Element

theorem Profile.storable_toValue (profile : Profile) (levels : Nat) :
    Json.Storable CodePoint.IsCharacter (levels + 1) profile.toValue := by
  have named : [("device_resolution".toText, Value.text profile.resolution.name),
      ("physical_size".toText, .text profile.size.name)].map Prod.fst =
        ["device_resolution", "physical_size"].map String.toText := rfl
  have resolution : profile.resolution.name.HasNoSurrogate := by
    cases profile.resolution <;> exact Text.hasNoSurrogate_toText _
  have size : profile.size.name.HasNoSurrogate := by
    cases profile.size <;> exact Text.hasNoSurrogate_toText _
  apply Json.Storable.object
  · rw [named]
    decide
  · exact hasNoSurrogate_of_names named
  · simp only [List.forall_mem_cons]
    exact ⟨.text levels resolution, .text levels size, List.forall_mem_nil _⟩

namespace Document

/-- Contents without surrogates. -/
def HasCleanContents (document : Document) : Prop :=
  ∀ element ∈ document.elements, ∀ content, element.content = .text content →
    content.HasNoSurrogate

/-- Identities that are short enough to be stored. -/
def HasShortIds (document : Document) : Prop :=
  ∀ element ∈ document.elements, ∀ id : Nat, element.id = .int id → id < 10 ^ Text.maxIntegerDigits

/-- A reachable document can be stored, unless an identity is too long. -/
theorem Reachable.storable_toValue {document : Document} (reachable : Reachable document)
    (clean : document.HasCleanContents) (short : document.HasShortIds) :
    Json.Storable CodePoint.IsCharacter Json.maxLevels document.toValue := by
  have named : [("resolution".toText, document.profile.toValue),
      ("elements".toText, .list (document.elements.map Element.toValue))].map Prod.fst =
        ["resolution", "elements"].map String.toText := rfl
  apply Json.Storable.object
  · rw [named]
    decide
  · exact hasNoSurrogate_of_names named
  · simp only [List.forall_mem_cons]
    refine ⟨document.profile.storable_toValue _, ?_, List.forall_mem_nil _⟩
    apply Json.Storable.list
    intro value member
    rcases List.mem_map.mp member with ⟨element, inDocument, rfl⟩
    rcases reachable.exists_id element inDocument with ⟨id, -, isId⟩
    have settled := reachable.isSettled element inDocument
    refine settled.storable_toValue (clean element inDocument) _ ?_
    rw [isId]
    exact .int _ ((Text.length_ofNat_le_iff (by decide)).mpr (short element inDocument id isId))

/-- What was stored had short identities. -/
theorem hasShortIds_of_isShowable {document : Document}
    (showable : document.toValue.isShowable = true) : document.HasShortIds := by
  intro element member id isId
  have elements : Value.isShowable (.list (document.elements.map Element.toValue)) = true :=
    Value.entriesAreShowable_iff.mp showable ("elements".toText, _)
      (List.mem_cons_of_mem _ List.mem_cons_self)
  have entry : element.toValue.isShowable = true :=
    Value.areShowable_iff.mp elements _ (List.mem_map_of_mem member)
  have written : element.id.isShowable = true :=
    Value.entriesAreShowable_iff.mp entry ("id".toText, _) List.mem_cons_self
  rw [isId] at written
  exact Text.isShowable_natCast_iff.mp written

/-! ## Storing and loading -/

/-- A document that can be stored is read back with consecutive identities. -/
theorem Reachable.exists_encode {document : Document} (reachable : Reachable document)
    (clean : document.HasCleanContents) (short : document.HasShortIds) :
    ∃ octets, document.encode = .ok octets ∧
      Document.decode octets = .ok document.renumbered := by
  have storable := reachable.storable_toValue clean short
  rcases storable.hasNoSurrogate_write.exists_toUtf8 with ⟨octets, encoded⟩
  refine ⟨octets, (if_pos storable.isShowable).trans encoded, ?_⟩
  refine bind_eq_ok_iff.mpr ⟨document.save, Text.ofUtf8_of_toUtf8 encoded, ?_⟩
  refine bind_eq_ok_iff.mpr ⟨document.toValue, Json.read_write storable, ?_⟩
  exact ofValue_toValue reachable.isSettled

theorem HasShortIds.of_encode {document : Document} {octets : List UInt8}
    (encoded : document.encode = .ok octets) : document.HasShortIds := by
  unfold encode at encoded
  split at encoded
  · rename_i showable
    exact hasShortIds_of_isShowable showable
  · contradiction

/-! ## Storing again -/

theorem exists_of_mem_renumber {first : Nat} {elements : List Element} {element : Element}
    (member : element ∈ renumber first elements) :
    ∃ (place : Nat) (within : place < elements.length),
      element = { elements[place] with id := .int (place + first : Nat) } := by
  rcases List.mem_mapIdx.mp member with ⟨place, within, rfl⟩
  exact ⟨place, within, rfl⟩

theorem HasCleanContents.renumbered {document : Document} (clean : document.HasCleanContents) :
    document.renumbered.HasCleanContents := by
  intro element member
  rcases exists_of_mem_renumber member with ⟨place, within, rfl⟩
  have source := clean _ (List.getElem_mem within)
  exact source

/-- In an increasing list of positive numbers, each number is larger than its place. -/
theorem lt_getElem_of_pairwise {ids : List Nat} (ordered : ids.Pairwise (· < ·))
    (positive : ∀ id ∈ ids, 0 < id) (place : Nat) (within : place < ids.length) :
    place < ids[place] := by
  induction place with
  | zero => exact positive _ (List.getElem_mem within)
  | succ place ih =>
    have earlier := ih (Nat.lt_of_succ_lt within)
    have next : ids[place] < ids[place + 1] :=
      List.pairwise_iff_getElem.mp ordered place (place + 1) _ _ (Nat.lt_succ_self place)
    omega

/-- Identities are larger than the places of their elements. -/
theorem Reachable.exists_id_getElem {document : Document} (reachable : Reachable document)
    {place : Nat} (within : place < document.elements.length) :
    ∃ id : Nat, place < id ∧ document.elements[place].id = .int id := by
  rcases reachable.holds with ⟨entries, holds⟩
  have positive : ∀ id ∈ entries.map CheckedElement.id, 0 < id := by
    intro id member
    rcases List.mem_map.mp member with ⟨entry, inEntries, rfl⟩
    have inDocument : entry.element ∈ document.elements :=
      holds.elements ▸ List.mem_map_of_mem inEntries
    rcases reachable.exists_id _ inDocument with ⟨id, positive, isId⟩
    have same : (entry.id : Int) = id := Value.int.inj isId
    omega
  have inEntries : place < entries.length := by
    rw [holds.elements, List.length_map] at within
    exact within
  have larger := lt_getElem_of_pairwise holds.ordered positive place (by rwa [List.length_map])
  rw [List.getElem_map] at larger
  refine ⟨entries[place].id, larger, ?_⟩
  simp only [holds.elements, List.getElem_map]
  rfl

theorem HasShortIds.renumbered {document : Document} (reachable : Reachable document)
    (short : document.HasShortIds) : document.renumbered.HasShortIds := by
  intro element member id isId
  rcases exists_of_mem_renumber member with ⟨place, within, rfl⟩
  rcases reachable.exists_id_getElem within with ⟨older, larger, isOlder⟩
  have bound := short _ (List.getElem_mem within) older isOlder
  have same : ((place + 1 : Nat) : Int) = id := Value.int.inj isId
  omega

/-- A document survives being stored. Storing gives bytes unless an identity is too long, and what
is loaded from the bytes has the same profile, the same elements with the identities from one on,
and the same program. Storing that, loading it and storing it again gives the same bytes twice. -/
theorem Reachable.decode_encode {document : Document} (reachable : Reachable document)
    (clean : document.HasCleanContents) :
    ((∃ octets, document.encode = .ok octets) ↔ document.HasShortIds) ∧
      ∀ octets, document.encode = .ok octets →
        ∃ loaded, Document.decode octets = .ok loaded ∧
          loaded.profile = document.profile ∧
          loaded.elements = document.elements.mapIdx
            (fun place element => { element with id := .int (place + 1 : Nat) }) ∧
          loaded.emit = document.emit ∧
          ∃ rewritten, loaded.encode = .ok rewritten ∧
            ∃ again, Document.decode rewritten = .ok again ∧ again.encode = .ok rewritten := by
  constructor
  · constructor
    · rintro ⟨octets, encoded⟩
      exact .of_encode encoded
    · intro short
      rcases reachable.exists_encode clean short with ⟨octets, encoded, -⟩
      exact ⟨octets, encoded⟩
  · intro octets encoded
    have short := HasShortIds.of_encode encoded
    rcases reachable.exists_encode clean short with ⟨same, sameEncoded, decoded⟩
    obtain rfl := Except.ok.inj (sameEncoded.symm.trans encoded)
    refine ⟨document.renumbered, decoded, rfl, rfl, document.emit_renumbered, ?_⟩
    have loaded : Reachable document.renumbered := .decode decoded
    rcases loaded.exists_encode clean.renumbered (short.renumbered reachable) with
      ⟨rewritten, reencoded, redecoded⟩
    rw [renumbered_renumbered] at redecoded
    exact ⟨rewritten, reencoded, document.renumbered, redecoded, reencoded⟩

/-- A document without its first element, with a content that JSON has to escape. -/
def quoting : Document :=
  ((((empty.add (.ofString "box")).1.add (.ofString "text")).1.remove (.int 1)).update (.int 2)
    [("content".toText, .ofString "\"a\\b\"\n\x01 é 😀")]).1

/-- Quotes, control characters and characters outside ASCII survive, under a new identity. -/
theorem decode_encode_quoting :
    ∃ octets loaded, quoting.encode = .ok octets ∧ decode octets = .ok loaded ∧
      loaded.elements =
        [{ Element.ofType 1 .text with content := .ofString "\"a\\b\"\n\x01 é 😀" }] ∧
      loaded.emit = quoting.emit ∧
      ∃ rewritten, loaded.encode = .ok rewritten ∧
        ∃ again, decode rewritten = .ok again ∧ again.encode = .ok rewritten := by
  have reachable : Reachable quoting := .update (.remove (.add (.add (.empty {}) _) _) _) _ _
  have elements : quoting.elements =
      [{ Element.ofType 2 .text with content := .ofString "\"a\\b\"\n\x01 é 😀" }] := rfl
  have clean : quoting.HasCleanContents := by
    intro element member content isContent
    rw [elements, List.mem_singleton] at member
    subst member
    obtain rfl := Value.text.inj isContent
    exact Text.hasNoSurrogate_toText _
  have short : quoting.HasShortIds := by
    intro element member id isId
    rw [elements, List.mem_singleton] at member
    subst member
    have same : (2 : Int) = id := Value.int.inj isId
    have small : id < 10 ^ 1 := by omega
    exact small.trans_le (Nat.pow_le_pow_right (by decide) (by decide))
  have survives := reachable.decode_encode clean
  rcases survives.1.mpr short with ⟨octets, encoded⟩
  rcases survives.2 octets encoded with ⟨loaded, decoded, -, sameElements, sameProgram, again⟩
  rw [elements] at sameElements
  exact ⟨octets, loaded, encoded, decoded, sameElements, sameProgram, again⟩

end Document

end LabelPress

import LabelPress.Catalog.Registry
import LabelPress.Proofs.Outcome
import LabelPress.Proofs.Value.Keys

/-!
# Accepted catalogs

What holds of a registry because its catalog was accepted: every template is consistent, so its
steps are of known kinds and show fields that exist, and every template is found under its name.

Nothing more is checked. The positions, sizes and texts of a layout can be any values, and so can
titles and labels.
-/

namespace LabelPress

/-! ## Consistent templates -/

/-- The checks that a template went through. -/
structure Template.IsConsistent (template : Template) : Prop where
  keys : ∀ key ∈ template.fieldKeys, key.isHashable = true
  kinds : ∀ step ∈ template.layout, step.kind.isAmong LayoutStep.kinds = true
  /-- A step that shows a field shows one of the template. -/
  fields : ∀ step ∈ template.layout, step.showsField = true →
    step.field.isKeyAmong template.fieldKeys = true

namespace Template

theorem isHashable_of_checkFields {name : Value} {fields : List TemplateField}
    (accepted : checkFields name fields = .ok ()) :
    ∀ field ∈ fields, field.key.isHashable = true := by
  obtain ⟨⟨⟩, keys, -⟩ := bind_eq_ok_iff.mp accepted
  intro field member
  exact Value.requireHashable_eq_ok_iff.mp (forM_eq_ok_iff.mp keys field member)

/-- Keys that are not repeated are pairwise different. -/
theorem pairwise_of_hasRepeated {keys : List Value} (distinct : hasRepeated keys = false) :
    keys.Pairwise fun key other => key.isSameKey other = false := by
  induction keys with
  | nil => exact .nil
  | cons key keys ih =>
    rw [hasRepeated, Bool.or_eq_false_iff] at distinct
    refine .cons ?_ (ih distinct.2)
    simpa [Value.isKeyAmong] using distinct.1

theorem pairwise_of_checkFields {name : Value} {fields : List TemplateField}
    (accepted : checkFields name fields = .ok ()) :
    (fields.map TemplateField.key).Pairwise fun key other => key.isSameKey other = false := by
  obtain ⟨⟨⟩, -, accepted⟩ := bind_eq_ok_iff.mp accepted
  apply pairwise_of_hasRepeated
  dsimp only at accepted
  split at accepted
  · contradiction
  · rename_i distinct
    exact Bool.eq_false_iff.mpr distinct

theorem known_of_checkLayout {name : Value} {keys : List Value} {layout : List LayoutStep}
    (accepted : checkLayout name keys layout = .ok ()) :
    ∀ step ∈ layout, step.kind.isAmong LayoutStep.kinds = true ∧
      (step.showsField = true → step.field.isKeyAmong keys = true) := by
  intro step member
  have passed := forM_eq_ok_iff.mp accepted step member
  dsimp only at passed
  split at passed
  · contradiction
  · rename_i known
    split at passed
    · contradiction
    · rename_i shown
      simp_all

/-- A template that was read has passed both checks. -/
theorem checked_of_ofValue {data : Value} {template : Template}
    (accepted : ofValue data = .ok template) :
    checkFields template.name template.fields = .ok () ∧
      checkLayout template.name template.fieldKeys template.layout = .ok () := by
  obtain ⟨name, -, accepted⟩ := bind_eq_ok_iff.mp accepted
  obtain ⟨members, -, accepted⟩ := bind_eq_ok_iff.mp accepted
  obtain ⟨fieldEntries, -, accepted⟩ := bind_eq_ok_iff.mp accepted
  obtain ⟨fields, -, accepted⟩ := bind_eq_ok_iff.mp accepted
  obtain ⟨⟨⟩, fieldsAccepted, accepted⟩ := bind_eq_ok_iff.mp accepted
  obtain ⟨layoutEntries, -, accepted⟩ := bind_eq_ok_iff.mp accepted
  obtain ⟨layout, -, accepted⟩ := bind_eq_ok_iff.mp accepted
  obtain ⟨⟨⟩, layoutAccepted, accepted⟩ := bind_eq_ok_iff.mp accepted
  obtain rfl := Except.ok.inj accepted
  exact ⟨fieldsAccepted, layoutAccepted⟩

/-- A template that was read is consistent. -/
theorem isConsistent_of_ofValue {data : Value} {template : Template}
    (accepted : ofValue data = .ok template) : template.IsConsistent := by
  rcases checked_of_ofValue accepted with ⟨fieldsAccepted, layoutAccepted⟩
  have known := known_of_checkLayout layoutAccepted
  constructor
  · intro key member
    rcases List.mem_map.mp member with ⟨field, fieldMember, rfl⟩
    exact isHashable_of_checkFields fieldsAccepted field fieldMember
  · intro step member
    exact (known step member).1
  · intro step member
    exact (known step member).2

end Template

/-! ## Accepted registries -/

namespace Registry

/-- Names that were accepted can be looked up, and none was seen before. -/
theorem pairwise_of_checkNames {seen names : List Value}
    (accepted : checkNames seen names = .ok ()) :
    (∀ name ∈ names, name.isHashable = true ∧ ∀ earlier ∈ seen, name.isSameKey earlier = false) ∧
      names.Pairwise fun earlier later => later.isSameKey earlier = false := by
  -- The names that are left get fewer while the names that were seen get more.
  induction names generalizing seen with
  | nil => exact ⟨by simp, .nil⟩
  | cons name names ih =>
    obtain ⟨⟨⟩, hashable, accepted⟩ := bind_eq_ok_iff.mp accepted
    dsimp only at accepted
    split at accepted
    · contradiction
    · rename_i unseen
      rcases ih accepted with ⟨others, distinct⟩
      have unseen : ∀ earlier ∈ seen, name.isSameKey earlier = false := by
        simpa [Value.isKeyAmong] using unseen
      constructor
      · intro other member
        rcases List.mem_cons.mp member with rfl | inRest
        · exact ⟨Value.requireHashable_eq_ok_iff.mp hashable, unseen⟩
        · rcases others other inRest with ⟨otherHashable, otherUnseen⟩
          constructor
          · exact otherHashable
          · intro earlier seenBefore
            exact otherUnseen earlier (List.mem_cons_of_mem _ seenBefore)
      · apply List.Pairwise.cons
        · intro later member
          exact (others later member).2 name List.mem_cons_self
        · exact distinct

/-- The first template of a name is the only one. -/
theorem find?_eq_some_of_pairwise {templates : List Template} {template : Template}
    (distinct : (templates.map Template.name).Pairwise fun earlier later =>
      later.isSameKey earlier = false)
    (hashable : template.name.isHashable = true) (listed : template ∈ templates) :
    templates.find? (fun other => template.name.isSameKey other.name) = some template := by
  induction templates with
  | nil => contradiction
  | cons first templates ih =>
    rcases List.pairwise_cons.mp distinct with ⟨others, distinct⟩
    rcases List.mem_cons.mp listed with rfl | inRest
    · rw [List.find?_cons, Value.isSameKey_refl hashable]
    · have different := others template.name (List.mem_map_of_mem inRest)
      rw [List.find?_cons, different]
      exact ih distinct inRest

/-- What is found under a name is the first template with that name. -/
theorem find?_of_template_eq_ok {registry : Registry} {name : Value} {template : Template}
    (found : registry.template name = .ok template) :
    registry.templates.find? (fun other => name.isSameKey other.name) = some template := by
  obtain ⟨⟨⟩, -, found⟩ := bind_eq_ok_iff.mp found
  split at found
  · rename_i first isFirst
    rwa [← Except.ok.inj found]
  · contradiction

theorem exists_of_ofValue {data : Value} {registry : Registry}
    (accepted : ofValue data = .ok registry) :
    checkNames [] registry.templateNames = .ok () ∧
      ∀ category ∈ registry.categories, ∃ entry, Category.ofValue entry = .ok category := by
  obtain ⟨members, -, accepted⟩ := bind_eq_ok_iff.mp accepted
  obtain ⟨entries, -, accepted⟩ := bind_eq_ok_iff.mp accepted
  obtain ⟨categories, read, accepted⟩ := bind_eq_ok_iff.mp accepted
  obtain ⟨⟨⟩, names, accepted⟩ := bind_eq_ok_iff.mp accepted
  obtain rfl := Except.ok.inj accepted
  constructor
  · exact names
  · intro category member
    rcases exists_of_mem_of_mapM read member with ⟨entry, -, entryRead⟩
    exact ⟨entry, entryRead⟩

/-- Every template of an accepted catalog was read from an entry. -/
theorem exists_template_of_ofValue {data : Value} {registry : Registry}
    (accepted : ofValue data = .ok registry) {template : Template}
    (listed : template ∈ registry.templates) :
    ∃ stored, Template.ofValue stored = .ok template := by
  rcases List.mem_flatMap.mp listed with ⟨category, categoryMember, member⟩
  rcases (exists_of_ofValue accepted).2 category categoryMember with ⟨entry, read⟩
  obtain ⟨members, -, read⟩ := bind_eq_ok_iff.mp read
  obtain ⟨entries, -, read⟩ := bind_eq_ok_iff.mp read
  obtain ⟨templates, templatesRead, read⟩ := bind_eq_ok_iff.mp read
  obtain ⟨name, -, read⟩ := bind_eq_ok_iff.mp read
  obtain rfl := Except.ok.inj read
  rcases exists_of_mem_of_mapM templatesRead member with ⟨stored, -, templateRead⟩
  exact ⟨stored, templateRead⟩

/-- Every template of an accepted catalog is consistent. -/
theorem isConsistent_of_ofValue {data : Value} {registry : Registry}
    (accepted : ofValue data = .ok registry) {template : Template}
    (listed : template ∈ registry.templates) : template.IsConsistent := by
  rcases exists_template_of_ofValue accepted listed with ⟨stored, read⟩
  exact Template.isConsistent_of_ofValue read

/-- The keys of a template of an accepted catalog are pairwise different. -/
theorem pairwise_fieldKeys_of_ofValue {data : Value} {registry : Registry}
    (accepted : ofValue data = .ok registry) {template : Template}
    (listed : template ∈ registry.templates) :
    template.fieldKeys.Pairwise fun key other => key.isSameKey other = false := by
  rcases exists_template_of_ofValue accepted listed with ⟨stored, read⟩
  exact Template.pairwise_of_checkFields (Template.checked_of_ofValue read).1

/-- Every template of an accepted catalog is found under its name. -/
theorem template_name_of_ofValue {data : Value} {registry : Registry}
    (accepted : ofValue data = .ok registry) {template : Template}
    (listed : template ∈ registry.templates) :
    registry.template template.name = .ok template := by
  rcases pairwise_of_checkNames (exists_of_ofValue accepted).1 with ⟨known, distinct⟩
  have hashable := (known template.name (List.mem_map_of_mem listed)).1
  have found := find?_eq_some_of_pairwise distinct hashable listed
  unfold Registry.template
  rw [Value.requireHashable_eq_ok_iff.mpr hashable]
  simp only [found]
  rfl

end Registry

end LabelPress

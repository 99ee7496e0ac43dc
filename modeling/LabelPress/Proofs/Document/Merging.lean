import LabelPress.Proofs.Document.Updates

/-!
# Updates as merges

Updates that succeed are merges, so it does not matter how their fields are spread over calls.
Fields can come in any order, all at once or one at a time; of two updates of an element the later
one overrides the earlier one; and updates of different elements commute, since neither sees nor
moves what the other one writes. What an update did to an element is gone when the element is
removed.
-/

namespace LabelPress

/-! ## Elements -/

namespace Element

variable {element : Element} {fields others : List (Text × Value)}

theorem merge_of_perm (distinct : (fields.map Prod.fst).Nodup) (same : fields.Perm others) :
    element.merge others = element.merge fields := by
  simp only [merge, written?, Value.lookup?_of_perm distinct same]

/-- What overrides is written, as long as it is accepted. -/
theorem written?_overridden (distinct : (others.map Prod.fst).Nodup)
    (accepted : ∀ given ∈ others, IsAccepted given) (field : Attribute) :
    written? (Value.overridden fields others) field =
      (written? others field).or (written? fields field) := by
  simp only [written?, Value.lookup?_overridden distinct]
  cases found : Value.lookup? field.name others with
  | none => rfl
  | some value =>
    rcases accepted _ (Value.mem_of_lookup? found) with ⟨other, isName, written, passed⟩
    obtain rfl := Attribute.name_injective isName
    have passes : checked other value = .ok written := passed
    simp [passes, Except.toOption]

theorem merge_merge (distinct : (others.map Prod.fst).Nodup)
    (accepted : ∀ given ∈ others, IsAccepted given) :
    (element.merge fields).merge others = element.merge (Value.overridden fields others) := by
  apply ext_valueOf
  · rfl
  · intro field
    rw [merge, valueOf_ofValues, merge, valueOf_ofValues, merge, valueOf_ofValues,
      written?_overridden distinct accepted]
    cases written? others field <;> rfl

end Element

namespace Document

/-! ## Updates of one element -/

/-- Updates of an element with one field at a time, up to the first that fails. -/
def updateEach (document : Document) (id : Value) :
    List (Text × Value) → Document × Except Fault Unit
  | [] => (document, .ok ())
  | given :: fields =>
    proceed (document.update id [given]) fun edited => edited.updateEach id fields

variable {document : Document} {id : Value} {fields others : List (Text × Value)}

theorem merge_nil (document : Document) (id : Value) : document.merge id [] = document := by
  unfold merge
  cases found : document.get? id with
  | none => rfl
  | some element => exact put_self found

theorem updateEach_eq_update (named : ∀ given ∈ fields, IsNamed given) :
    document.updateEach id fields = document.update id fields := by
  induction fields generalizing document with
  | nil =>
    have distinct : (([] : List (Text × Value)).map Prod.fst).Nodup := List.nodup_nil
    have updated : document.update id [] = (document, .ok ()) :=
      (update_eq_ok_iff distinct).mpr ⟨List.forall_mem_nil _, document.merge_nil id⟩
    exact updated.symm
  | cons given fields ih =>
    have rest : ∀ given ∈ fields, IsNamed given := (List.forall_mem_cons.mp named).2
    have split : document.update id ([given] ++ fields) =
        proceed (document.update id [given]) fun edited => edited.update id fields :=
      update_append named
    rw [List.singleton_append] at split
    rw [updateEach, split]
    congr 1
    funext edited
    exact ih rest

theorem Takes.of_perm (same : fields.Perm others) (takes : document.Takes id fields) :
    document.Takes id others := by
  intro given member
  exact takes given (same.mem_iff.mpr member)

theorem merge_of_perm (distinct : (fields.map Prod.fst).Nodup) (same : fields.Perm others) :
    document.merge id others = document.merge id fields := by
  unfold merge
  cases document.get? id with
  | none => rfl
  | some element =>
    exact congrArg (document.put id) (Element.merge_of_perm distinct same)

theorem get?_merge (document : Document) (id : Value) (fields : List (Text × Value)) :
    (document.merge id fields).get? id =
      (document.get? id).map fun element => element.merge fields := by
  unfold merge
  cases found : document.get? id with
  | none => exact found
  | some element => exact get?_put found rfl

theorem Takes.overridden (takes : document.Takes id fields)
    (later : (document.merge id fields).Takes id others) :
    document.Takes id (Value.overridden fields others) := by
  intro given member
  rcases Value.mem_of_mem_overridden member with old | new
  · exact takes given old
  · have accepted := later given new
    rwa [get?_merge, Option.map_eq_none_iff] at accepted

theorem merge_merge (distinct : (others.map Prod.fst).Nodup)
    (later : (document.merge id fields).Takes id others) :
    (document.merge id fields).merge id others =
      document.merge id (Value.overridden fields others) := by
  have merged := document.get?_merge id fields
  cases found : document.get? id with
  | none =>
    rw [found, Option.map_none] at merged
    simp only [merge, found]
  | some element =>
    rw [found, Option.map_some] at merged
    have accepted : ∀ given ∈ others, Element.IsAccepted given := by
      intro given member
      apply (later given member).2.resolve_left
      rw [merged]
      exact Option.some_ne_none _
    have inPlace : document.merge id fields = document.put id (element.merge fields) := by
      simp only [merge, found]
    have sameId : (element.merge fields).id = element.id := rfl
    rw [inPlace] at merged ⊢
    simp only [merge, merged, found]
    rw [put_put found sameId, Element.merge_merge distinct accepted]

/-! ## Updates of different elements -/

theorem equals_int_iff {m n : Int} : (Value.int m).equals (.int n) = true ↔ m = n :=
  decide_eq_true_iff

/-- No element has both identities. -/
def AreApart (document : Document) (first second : Value) : Prop :=
  ∀ element ∈ document.elements,
    ¬(element.id.equals first = true ∧ element.id.equals second = true)

theorem AreApart.symm {first second : Value} (apart : document.AreApart first second) :
    document.AreApart second first :=
  fun element member both => apart element member both.symm

/-- Integers are different identities of a reachable document. -/
theorem Reachable.areApart (reachable : Reachable document) {first second : Int}
    (different : first ≠ second) : document.AreApart (.int first) (.int second) := by
  rintro element member ⟨isFirst, isSecond⟩
  rcases reachable.exists_id element member with ⟨id, -, isId⟩
  rw [isId, equals_int_iff] at isFirst isSecond
  exact different (isFirst.symm.trans isSecond)

theorem mem_of_get? {element : Element} (found : document.get? id = some element) :
    element ∈ document.elements :=
  List.mem_of_find?_eq_some found

/-- Another element is found as before. -/
theorem get?_put_of_areApart {first second : Value} (apart : document.AreApart first second)
    {element edited : Element} (found : document.get? first = some element)
    (sameId : edited.id = element.id) :
    (document.put first edited).get? second = document.get? second := by
  have member := mem_of_get? found
  rcases exists_append_of_get? found with ⟨here, before, after, split, -, put⟩
  have notSecond : element.id.equals second = false := by
    apply Bool.eq_false_iff.mpr
    intro isSecond
    exact apart element member ⟨here, isSecond⟩
  rw [put, get?, get?, split]
  simp [List.find?_append, sameId, notSecond]

theorem modifyFirst_comm {first second : Value} {edited other : Element}
    (editedApart : edited.id.equals second = false) (otherApart : other.id.equals first = false)
    {elements : List Element}
    (apart : ∀ element ∈ elements,
      ¬(element.id.equals first = true ∧ element.id.equals second = true)) :
    modifyFirst second (fun _ => other) (modifyFirst first (fun _ => edited) elements) =
      modifyFirst first (fun _ => edited) (modifyFirst second (fun _ => other) elements) := by
  induction elements with
  | nil => rfl
  | cons element elements ih =>
    rw [List.forall_mem_cons] at apart
    by_cases isFirst : element.id.equals first = true
    · have notSecond : element.id.equals second = false := by
        simpa [isFirst] using apart.1
      simp [modifyFirst, isFirst, notSecond, editedApart]
    · by_cases isSecond : element.id.equals second = true
      · simp [modifyFirst, isFirst, isSecond, otherApart]
      · simp [modifyFirst, isFirst, isSecond, ih apart.2]

theorem update_fst_cases (document : Document) (id : Value) (fields : List (Text × Value)) :
    (document.update id fields).1 = document ∨
      ∃ element edited, document.get? id = some element ∧ edited.id = element.id ∧
        (document.update id fields).1 = document.put id edited := by
  cases asked : editsOf fields with
  | error fault =>
    left
    simp only [update, asked]
  | ok edits =>
    obtain rfl := editsOf_eq_ok_iff.mp asked
    cases found : document.get? id with
    | none =>
      left
      rw [update_of_absent found]
    | some element =>
      right
      rw [update_of_get? found]
      exact ⟨element, _, rfl, id_assignAll element edits, rfl⟩

theorem get?_update_of_areApart {first second : Value} (apart : document.AreApart first second)
    (fields : List (Text × Value)) :
    (document.update first fields).1.get? second = document.get? second := by
  rcases document.update_fst_cases first fields with unchanged |
    ⟨element, edited, found, sameId, changed⟩
  · rw [unchanged]
  · rw [changed, get?_put_of_areApart apart found sameId]

/-- Whether an update fails depends on the element alone. -/
theorem snd_update_congr {other : Document} (same : other.get? id = document.get? id) :
    (other.update id fields).2 = (document.update id fields).2 := by
  unfold update
  cases editsOf fields with
  | error fault => rfl
  | ok edits =>
    simp only [same]
    cases document.get? id <;> rfl

theorem put_comm {first second : Value} (apart : document.AreApart first second)
    {element edited other changed : Element} (found : document.get? first = some element)
    (sameId : edited.id = element.id) (otherFound : document.get? second = some other)
    (otherSameId : changed.id = other.id) :
    (document.put first edited).put second changed =
      (document.put second changed).put first edited := by
  have editedApart : edited.id.equals second = false := by
    rw [sameId, Bool.eq_false_iff]
    exact fun isSecond => apart element (mem_of_get? found) ⟨equals_of_get? found, isSecond⟩
  have changedApart : changed.id.equals first = false := by
    rw [otherSameId, Bool.eq_false_iff]
    exact fun isFirst =>
      apart other (mem_of_get? otherFound) ⟨isFirst, equals_of_get? otherFound⟩
  exact congrArg (fun elements => { document with elements })
    (modifyFirst_comm editedApart changedApart apart)

/-- Updates of different elements can be made in either order, whether they fail or not. -/
theorem update_update_comm {first second : Value} (apart : document.AreApart first second)
    (fields others : List (Text × Value)) :
    ((document.update first fields).1.update second others).1 =
      ((document.update second others).1.update first fields).1 := by
  cases asked : editsOf fields with
  | error fault => simp only [update, asked]
  | ok edits =>
    cases otherAsked : editsOf others with
    | error fault => simp only [update, otherAsked]
    | ok later =>
      obtain rfl := editsOf_eq_ok_iff.mp asked
      obtain rfl := editsOf_eq_ok_iff.mp otherAsked
      have kept := get?_update_of_areApart apart (edits.map fieldOf)
      have otherKept := get?_update_of_areApart apart.symm (later.map fieldOf)
      cases found : document.get? first with
      | none =>
        rw [found] at otherKept
        rw [update_of_absent found, update_of_absent otherKept]
      | some element =>
        cases otherFound : document.get? second with
        | none =>
          rw [otherFound] at kept
          rw [update_of_absent otherFound, update_of_absent kept]
        | some other =>
          rw [update_of_get? found, otherFound] at kept
          rw [update_of_get? otherFound, found] at otherKept
          rw [update_of_get? found, update_of_get? otherFound, update_of_get? kept,
            update_of_get? otherKept]
          exact put_comm apart found (id_assignAll _ _) otherFound (id_assignAll _ _)

/-! ## Removal -/

/-- Removal forgets what an update wrote, even if the update failed. -/
theorem remove_update (document : Document) (id : Value) (fields : List (Text × Value)) :
    (document.update id fields).1.remove id = document.remove id := by
  rcases document.update_fst_cases id fields with unchanged |
    ⟨element, edited, found, sameId, changed⟩
  · rw [unchanged]
  · rcases exists_append_of_get? found with ⟨here, before, after, split, -, put⟩
    rw [changed, put, remove, remove, split]
    simp [List.filter_append, sameId, here]

theorem remove_of_absent (absent : document.get? id = none) : document.remove id = document := by
  have kept : document.elements.filter (fun element => !element.id.equals id) =
      document.elements := by
    rw [List.filter_eq_self]
    intro element member
    simpa using List.find?_eq_none.mp absent element member
  rw [remove, kept]

theorem fst_update_of_absent (absent : document.get? id = none)
    (fields : List (Text × Value)) : (document.update id fields).1 = document := by
  rcases document.update_fst_cases id fields with unchanged | ⟨element, -, found, -⟩
  · exact unchanged
  · rw [absent] at found
    contradiction

/-! ## Laws of updates -/

/-- Updates are merges. What succeeds with fields in one order succeeds with them in any order, all
at once or one at a time, and leaves the same document. Two updates of an element are one update with
the fields of the first overridden by those of the second. Updates under different identities
commute and do not change each other's outcome. Removing an element after an update is removing it.
Where there is no element of an identity, there is nothing to update or to remove. -/
theorem Reachable.update_merges (reachable : Reachable document) :
    (∀ (id : Value) (fields others : List (Text × Value)) (result : Document),
        (fields.map Prod.fst).Nodup → fields.Perm others →
        document.update id fields = (result, .ok ()) →
        document.update id others = (result, .ok ()) ∧
          document.updateEach id others = (result, .ok ())) ∧
      (∀ (id : Value) (fields others : List (Text × Value)) (between result : Document),
        (fields.map Prod.fst).Nodup → (others.map Prod.fst).Nodup →
        document.update id fields = (between, .ok ()) →
        between.update id others = (result, .ok ()) →
        document.update id (Value.overridden fields others) = (result, .ok ())) ∧
      (∀ (first second : Int) (fields others : List (Text × Value)), first ≠ second →
        ((document.update (.int first) fields).1.update (.int second) others).1 =
            ((document.update (.int second) others).1.update (.int first) fields).1 ∧
          ((document.update (.int first) fields).1.update (.int second) others).2 =
            (document.update (.int second) others).2) ∧
      (∀ (id : Value) (fields : List (Text × Value)),
        (document.update id fields).1.remove id = document.remove id) ∧
      ∀ id : Value, document.get? id = none →
        (∀ fields, (document.update id fields).1 = document) ∧ document.remove id = document := by
  refine ⟨?_, ?_, ?_, document.remove_update, ?_⟩
  · intro id fields others result distinct same updated
    rcases (update_eq_ok_iff distinct).mp updated with ⟨takes, rfl⟩
    have distinctOthers := (same.map Prod.fst).nodup_iff.mp distinct
    have reordered : document.update id others = (document.merge id fields, .ok ()) :=
      (update_eq_ok_iff distinctOthers).mpr ⟨takes.of_perm same, merge_of_perm distinct same⟩
    refine ⟨reordered, ?_⟩
    rw [updateEach_eq_update (isNamed_of_update reordered), reordered]
  · intro id fields others between result distinct distinctOthers updated updatedAgain
    rcases (update_eq_ok_iff distinct).mp updated with ⟨takes, rfl⟩
    rcases (update_eq_ok_iff distinctOthers).mp updatedAgain with ⟨later, rfl⟩
    apply (update_eq_ok_iff (Value.nodup_overridden distinct others)).mpr
    exact ⟨takes.overridden later, (merge_merge distinctOthers later).symm⟩
  · intro first second fields others different
    have apart := reachable.areApart different
    constructor
    · exact update_update_comm apart fields others
    · exact snd_update_congr (get?_update_of_areApart apart fields)
  · intro id absent
    exact ⟨fst_update_of_absent absent, remove_of_absent absent⟩

/-- A text and a box. -/
def pair : Document :=
  (labelled.add (.ofString "box")).1

/-- A type and a content. -/
def relabelling : List (Text × Value) :=
  [("type".toText, .ofString "barcode"), ("content".toText, .ofString "Draft")]

/-- Another content. -/
def finishing : List (Text × Value) :=
  [("content".toText, .ofString "Final")]

/-- The text becomes a barcode, whose content is then replaced, while the box is edited or not. -/
theorem update_merges_pair :
    pair.updateEach (.int 1) relabelling.reverse = pair.update (.int 1) relabelling ∧
      pair.update (.int 1)
          [("type".toText, .ofString "barcode"), ("content".toText, .ofString "Final")] =
        (pair.update (.int 1) relabelling).1.update (.int 1) finishing ∧
      ((pair.update (.int 1) relabelling).1.update (.int 2) finishing).1 =
        ((pair.update (.int 2) finishing).1.update (.int 1) relabelling).1 ∧
      (pair.update (.int 1) relabelling).1.remove (.int 1) = pair.remove (.int 1) ∧
      (pair.update (.int 3) relabelling).1 = pair := by
  have reachable : Reachable pair := .add (.add (.empty {}) _) _
  have distinct : (relabelling.map Prod.fst).Nodup := by decide
  have updated : pair.update (.int 1) relabelling =
      ((pair.update (.int 1) relabelling).1, .ok ()) := rfl
  have finished : (pair.update (.int 1) relabelling).1.update (.int 1) finishing =
      (((pair.update (.int 1) relabelling).1.update (.int 1) finishing).1, .ok ()) := rfl
  rcases reachable.update_merges with ⟨anyOrder, overriding, commuting, removing, absent⟩
  constructor
  · exact (anyOrder _ _ _ _ distinct (List.reverse_perm _).symm updated).2.trans updated.symm
  · constructor
    · exact (overriding _ _ _ _ _ distinct (by decide) updated finished).trans finished.symm
    · constructor
      · exact (commuting 1 2 relabelling finishing (by decide)).1
      · exact ⟨removing _ _, (absent (.int 3) rfl).1 _⟩

end Document

end LabelPress

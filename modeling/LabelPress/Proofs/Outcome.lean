import LabelPress.Fault
import Mathlib.Data.List.Forall2

/-!
# Outcomes

When operations that can fail succeed: one after the other, on each item of a list, or item by item
from a state to the next.
-/

namespace LabelPress

variable {α β γ δ : Type}

/-- After a success the next operation goes on with the result. -/
theorem ok_bind (value : α) (next : α → Except Fault β) : (Except.ok value >>= next) = next value :=
  rfl

theorem bind_eq_ok_iff {outcome : Except Fault α} {next : α → Except Fault β} {result : β} :
    (outcome >>= next) = .ok result ↔ ∃ value, outcome = .ok value ∧ next value = .ok result := by
  cases outcome with
  | error fault => simp [bind, Except.bind]
  | ok value => simp [bind, Except.bind]

theorem bind_eq_error_iff {outcome : Except Fault α} {next : α → Except Fault β} {fault : Fault} :
    (outcome >>= next) = .error fault ↔
      outcome = .error fault ∨ ∃ value, outcome = .ok value ∧ next value = .error fault := by
  cases outcome with
  | error reason => simp [bind, Except.bind]
  | ok value => simp [bind, Except.bind]

theorem map_eq_ok_iff {outcome : Except Fault α} {change : α → β} {result : β} :
    outcome.map change = .ok result ↔ ∃ value, outcome = .ok value ∧ change value = result := by
  cases outcome with
  | error fault => simp [Except.map]
  | ok value => simp [Except.map]

theorem map_eq_error_iff {outcome : Except Fault α} {change : α → β} {fault : Fault} :
    outcome.map change = .error fault ↔ outcome = .error fault := by
  cases outcome with
  | error reason => simp [Except.map]
  | ok value => simp [Except.map]

/-- An operation succeeds on a list if it succeeds on each item. -/
theorem mapM_eq_ok_iff {operation : α → Except Fault β} {items : List α} {results : List β} :
    items.mapM operation = .ok results ↔
      List.Forall₂ (fun item result => operation item = .ok result) items results := by
  induction items generalizing results with
  | nil => cases results <;> simp [pure, Except.pure]
  | cons item items ih =>
    rw [List.mapM_cons, bind_eq_ok_iff]
    constructor
    · rintro ⟨first, firstOk, restOk⟩
      obtain ⟨rest, itemsOk, done⟩ := bind_eq_ok_iff.mp restOk
      obtain rfl := Except.ok.inj done
      exact .cons firstOk (ih.mp itemsOk)
    · intro allOk
      cases allOk with
      | cons firstOk restOk =>
        exact ⟨_, firstOk, bind_eq_ok_iff.mpr ⟨_, ih.mpr restOk, rfl⟩⟩

/-- An operation that succeeds on each item of a list succeeds on the list. -/
theorem mapM_eq_ok_map {operation : α → Except Fault β} {change : α → β} {items : List α}
    (each : ∀ item ∈ items, operation item = .ok (change item)) :
    items.mapM operation = .ok (items.map change) := by
  rw [mapM_eq_ok_iff, List.forall₂_map_right_iff, List.forall₂_same]
  exact each

/-- An operation with one fault and a test for it fails on a list if an item fails the test. -/
theorem mapM_ite (test : α → Bool) (change : α → β) (fault : Fault) (items : List α) :
    (items.mapM fun item => if test item then Except.ok (change item) else .error fault) =
      if items.all test then .ok (items.map change) else .error fault := by
  induction items with
  | nil => rfl
  | cons item items ih =>
    rw [List.mapM_cons, ih, List.all_cons]
    cases test item <;> cases items.all test <;> rfl

/-- Operations that agree on the items of a list have one outcome. -/
theorem mapM_congr_left {operation other : α → Except Fault β} {items : List α}
    (agree : ∀ item ∈ items, operation item = other item) :
    items.mapM operation = items.mapM other := by
  induction items with
  | nil => rfl
  | cons item items ih =>
    rw [List.forall_mem_cons] at agree
    rw [List.mapM_cons, List.mapM_cons, agree.1, ih agree.2]

/-- Operations that agree on an item of a list give one result in its place. -/
theorem exists_getElem?_of_mapM {operation other : α → Except Fault β} {items : List α}
    {results others : List β} (run : items.mapM operation = .ok results)
    (otherRun : items.mapM other = .ok others) {place : Nat} {item : α}
    (inPlace : items[place]? = some item) (agree : operation item = other item) :
    ∃ result, results[place]? = some result ∧ others[place]? = some result := by
  have all := mapM_eq_ok_iff.mp run
  have otherAll := mapM_eq_ok_iff.mp otherRun
  rcases List.getElem?_eq_some_iff.mp inPlace with ⟨inside, rfl⟩
  have insideResults : place < results.length := all.length_eq ▸ inside
  have insideOthers : place < others.length := otherAll.length_eq ▸ inside
  have itemOk : operation items[place] = .ok results[place] := by
    simpa using all.get inside insideResults
  have otherOk : other items[place] = .ok others[place] := by
    simpa using otherAll.get inside insideOthers
  have same : results[place] = others[place] :=
    Except.ok.inj (itemOk.symm.trans (agree.trans otherOk))
  refine ⟨results[place], List.getElem?_eq_getElem insideResults, ?_⟩
  rw [same]
  exact List.getElem?_eq_getElem insideOthers

/-- An operation that succeeds on a list succeeds without one of the items. -/
theorem mapM_eraseIdx {operation : α → Except Fault β} {items : List α} {results : List β}
    (run : items.mapM operation = .ok results) (place : Nat) :
    (items.eraseIdx place).mapM operation = .ok (results.eraseIdx place) := by
  have all := mapM_eq_ok_iff.mp run
  rw [mapM_eq_ok_iff, List.eraseIdx_eq_take_drop_succ, List.eraseIdx_eq_take_drop_succ]
  apply List.rel_append
  · exact List.forall₂_take place all
  · exact List.forall₂_drop (place + 1) all

/-- An operation that succeeds on a list and on another item succeeds with that item in the place of
one of the list. -/
theorem mapM_set {operation : α → Except Fault β} {items : List α} {results : List β}
    (run : items.mapM operation = .ok results) {item : α} {result : β}
    (itemOk : operation item = .ok result) (place : Nat) :
    (items.set place item).mapM operation = .ok (results.set place result) := by
  have all := mapM_eq_ok_iff.mp run
  rw [mapM_eq_ok_iff, List.set_eq_take_append_cons_drop, List.set_eq_take_append_cons_drop,
    all.length_eq]
  split
  · apply List.rel_append
    · exact List.forall₂_take place all
    · exact .cons itemOk (List.forall₂_drop (place + 1) all)
  · exact all

/-- What an operation gives on a list with one item replaced is what it gave before, with one result
replaced. -/
theorem exists_of_mapM_set {operation : α → Except Fault β} {items : List α}
    {results others : List β} (run : items.mapM operation = .ok results) {place : Nat}
    (inside : place < items.length) {item : α}
    (edited : (items.set place item).mapM operation = .ok others) :
    ∃ result, others = results.set place result := by
  have all := mapM_eq_ok_iff.mp edited
  have insideSet : place < (items.set place item).length := by rwa [List.length_set]
  have insideOthers : place < others.length := all.length_eq ▸ insideSet
  have itemOk : operation item = .ok others[place] := by
    simpa using all.get insideSet insideOthers
  exact ⟨others[place], Except.ok.inj (edited.symm.trans (mapM_set run itemOk place))⟩

/-- An operation that succeeds on a list and on another item succeeds with that item behind the
list. -/
theorem mapM_concat {operation : α → Except Fault β} {items : List α} {results : List β}
    (run : items.mapM operation = .ok results) {item : α} {result : β}
    (itemOk : operation item = .ok result) :
    (items ++ [item]).mapM operation = .ok (results ++ [result]) := by
  rw [mapM_eq_ok_iff] at run ⊢
  apply List.rel_append
  · exact run
  · exact .cons itemOk .nil

/-- An operation that succeeds on the accepted items and fails on all others in one way does so on
the lists of accepted items and on all other lists. -/
theorem mapM_cases {operation : α → Except Fault β} {accepted : α → Prop} {fault : Fault}
    {items : List α}
    (each : ∀ item ∈ items, (accepted item ∧ ∃ result, operation item = .ok result) ∨
      (¬accepted item ∧ operation item = .error fault)) :
    ((∀ item ∈ items, accepted item) ∧ ∃ results, items.mapM operation = .ok results) ∨
      (¬(∀ item ∈ items, accepted item) ∧ items.mapM operation = .error fault) := by
  induction items with
  | nil => exact .inl ⟨List.forall_mem_nil _, [], rfl⟩
  | cons item items ih =>
    rw [List.forall_mem_cons] at each
    rw [List.forall_mem_cons, List.mapM_cons]
    rcases each.1 with ⟨first, result, firstOk⟩ | ⟨refused, failed⟩
    · rw [firstOk]
      rcases ih each.2 with ⟨rest, results, restOk⟩ | ⟨refused, failed⟩
      · rw [restOk]
        exact .inl ⟨⟨first, rest⟩, result :: results, rfl⟩
      · rw [failed]
        exact .inr ⟨fun all => refused all.2, rfl⟩
    · rw [failed]
      exact .inr ⟨fun all => refused all.1, rfl⟩

/-- A test that never fails selects items as its answers do. -/
theorem filterM_eq_ok_filter {test : α → Except Fault Bool} {answer : α → Bool} {items : List α}
    (each : ∀ item ∈ items, test item = .ok (answer item)) :
    items.filterM test = .ok (items.filter answer) := by
  have collected (found : List α) :
      items.filterAuxM test found = .ok ((items.filter answer).reverse ++ found) := by
    induction items generalizing found with
    | nil => rfl
    | cons item items ih =>
      rw [List.forall_mem_cons] at each
      rw [List.filterAuxM, each.1]
      refine (ih each.2 _).trans ?_
      cases chosen : answer item with
      | false => rw [List.filter_cons_of_neg (by simp [chosen]), cond_false]
      | true =>
        rw [List.filter_cons_of_pos chosen, cond_true, List.reverse_cons, List.append_assoc]
        rfl
  rw [List.filterM, collected]
  exact congrArg Except.ok (by simp)

/-- A check succeeds on a list if it succeeds on each item. -/
theorem forM_eq_ok_iff {check : α → Except Fault Unit} {items : List α} :
    items.forM check = .ok () ↔ ∀ item ∈ items, check item = .ok () := by
  induction items with
  | nil => simp [List.forM, pure, Except.pure]
  | cons item items ih =>
    rw [List.forall_mem_cons, ← ih]
    constructor
    · intro allOk
      obtain ⟨⟨⟩, itemOk, restOk⟩ := bind_eq_ok_iff.mp allOk
      exact ⟨itemOk, restOk⟩
    · rintro ⟨itemOk, restOk⟩
      exact bind_eq_ok_iff.mpr ⟨(), itemOk, restOk⟩

/-! ## The first failure -/

/-- The failure of the first item of a list on which an operation fails. -/
def FirstFails (operation : α → Except Fault β) (items : List α) (fault : Fault) : Prop :=
  ∃ before item after, items = before ++ item :: after ∧
    (∀ other ∈ before, ∃ result, operation other = .ok result) ∧ operation item = .error fault

theorem not_firstFails_nil (operation : α → Except Fault β) (fault : Fault) :
    ¬FirstFails operation [] fault := by
  rintro ⟨before, item, after, split, -⟩
  exact List.append_ne_nil_of_right_ne_nil before (List.cons_ne_nil item after) split.symm

theorem firstFails_cons_iff {operation : α → Except Fault β} {item : α} {items : List α}
    {fault : Fault} :
    FirstFails operation (item :: items) fault ↔ operation item = .error fault ∨
      (∃ result, operation item = .ok result) ∧ FirstFails operation items fault := by
  constructor
  · rintro ⟨before, failing, after, split, passed, failed⟩
    cases before with
    | nil =>
      obtain ⟨rfl, rfl⟩ := List.cons.inj split
      exact .inl failed
    | cons first before =>
      obtain ⟨rfl, rfl⟩ := List.cons.inj split
      rw [List.forall_mem_cons] at passed
      exact .inr ⟨passed.1, before, failing, after, rfl, passed.2, failed⟩
  · rintro (failed | ⟨itemOk, before, failing, after, rfl, passed, failed⟩)
    · exact ⟨[], item, items, rfl, List.forall_mem_nil _, failed⟩
    · exact ⟨item :: before, failing, after, rfl, List.forall_mem_cons.mpr ⟨itemOk, passed⟩, failed⟩

/-- There is a first failure exactly if the operation fails on an item. -/
theorem exists_firstFails_iff {operation : α → Except Fault β} {items : List α} :
    (∃ fault, FirstFails operation items fault) ↔
      ∃ item ∈ items, ∃ fault, operation item = .error fault := by
  induction items with
  | nil => simp [not_firstFails_nil]
  | cons item items ih =>
    rw [List.exists_mem_cons_iff, ← ih]
    simp only [firstFails_cons_iff, exists_or, exists_and_left]
    cases operation item with
    | error reason => simp
    | ok result => simp

/-- An operation fails on a list as it does on the first item on which it fails. -/
theorem mapM_eq_error_iff {operation : α → Except Fault β} {items : List α} {fault : Fault} :
    items.mapM operation = .error fault ↔ FirstFails operation items fault := by
  induction items with
  | nil => exact iff_of_false (fun failed => nomatch failed) (not_firstFails_nil operation fault)
  | cons item items ih =>
    rw [firstFails_cons_iff, ← ih, List.mapM_cons]
    cases operation item with
    | error reason => simp [bind, Except.bind]
    | ok result => cases items.mapM operation <;> simp [bind, Except.bind, pure, Except.pure]

/-- A check fails on a list as it does on the first item on which it fails. -/
theorem forM_eq_error_iff {check : α → Except Fault Unit} {items : List α} {fault : Fault} :
    items.forM check = .error fault ↔ FirstFails check items fault := by
  induction items with
  | nil => exact iff_of_false (fun failed => nomatch failed) (not_firstFails_nil check fault)
  | cons item items ih =>
    rw [firstFails_cons_iff, ← ih]
    change (check item >>= fun _ => items.forM check) = .error fault ↔ _
    simp only [bind_eq_error_iff, exists_and_right]

/-- Each result comes from an item. -/
theorem exists_of_mem_of_mapM {operation : α → Except Fault β} {items : List α} {results : List β}
    (run : items.mapM operation = .ok results) {result : β} (member : result ∈ results) :
    ∃ item ∈ items, operation item = .ok result := by
  have all := mapM_eq_ok_iff.mp run
  clear run
  induction all with
  | nil => contradiction
  | cons firstOk _ ih =>
    rcases List.mem_cons.mp member with rfl | inRest
    · exact ⟨_, List.mem_cons_self, firstOk⟩
    · rcases ih inRest with ⟨item, itemMember, itemOk⟩
      exact ⟨item, List.mem_cons_of_mem _ itemMember, itemOk⟩

/-- What each result tells of its item, all results tell of all items. -/
theorem map_eq_map_of_mapM {operation : α → Except Fault β} {items : List α} {results : List β}
    (run : items.mapM operation = .ok results) {ofItem : α → γ} {ofResult : β → γ}
    (each : ∀ item result, operation item = .ok result → ofItem item = ofResult result) :
    items.map ofItem = results.map ofResult := by
  have all := mapM_eq_ok_iff.mp run
  clear run
  induction all with
  | nil => rfl
  | cons firstOk _ ih => rw [List.map_cons, List.map_cons, each _ _ firstOk, ih]

/-- Results that are changed one by one can be changed together. -/
theorem mapM_map_eq_map_mapM {source : γ → α} {operation : α → Except Fault β}
    {inner : γ → Except Fault δ} {change : δ → β} {items : List γ}
    (each : ∀ item ∈ items, operation (source item) = (inner item).map change) :
    (items.map source).mapM operation = (items.mapM inner).map (List.map change) := by
  induction items with
  | nil => rfl
  | cons item items ih =>
    rw [List.forall_mem_cons] at each
    rw [List.map_cons, List.mapM_cons, List.mapM_cons, each.1, ih each.2]
    cases inner item with
    | error fault => rfl
    | ok result => cases items.mapM inner <;> rfl

/-- What each step keeps is kept by a run over a list. -/
theorem foldlM_invariant {step : β → α → Except Fault β} (kept : β → Prop)
    (stepKept : ∀ state item next, kept state → step state item = .ok next → kept next)
    {items : List α} {start last : β} (startKept : kept start)
    (run : items.foldlM step start = .ok last) : kept last := by
  induction items generalizing start with
  | nil =>
    obtain rfl := Except.ok.inj run
    exact startKept
  | cons item items ih =>
    obtain ⟨next, stepped, rest⟩ := bind_eq_ok_iff.mp run
    exact ih (stepKept start item next startKept stepped) rest

end LabelPress

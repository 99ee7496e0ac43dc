import LabelPress.Value.Basic
import Mathlib.Data.List.Nodup

/-!
# Entries under keys

A mapping is a list of entries, and what it holds under a key is its first entry of that key. If the
keys differ, that is its only entry of the key, so the order of the entries does not matter.
-/

namespace LabelPress.Value

variable {name : Text} {value : Value} {entries others : List (Text × Value)}

theorem mem_of_lookup? (found : lookup? name entries = some value) : (name, value) ∈ entries := by
  induction entries with
  | nil => contradiction
  | cons entry entries ih =>
    unfold lookup? at found
    split at found
    · rename_i same
      obtain rfl := Option.some.inj found
      rw [← same]
      exact List.mem_cons_self
    · exact List.mem_cons_of_mem _ (ih found)

theorem lookup?_filter (keep : Text → Bool) (kept : keep name = true)
    (entries : List (Text × Value)) :
    lookup? name (entries.filter fun entry => keep entry.1) = lookup? name entries := by
  induction entries with
  | nil => rfl
  | cons entry entries ih =>
    rw [List.filter_cons]
    by_cases same : entry.1 = name
    · have entryKept : keep entry.1 = true := same ▸ kept
      rw [if_pos entryKept, lookup?, lookup?, if_pos same, if_pos same]
    · split
      · rw [lookup?, lookup?, if_neg same, if_neg same, ih]
      · rw [lookup?, if_neg same, ih]

theorem lookup?_eq_none_iff : lookup? name entries = none ↔ name ∉ entries.map Prod.fst := by
  induction entries with
  | nil => simp [lookup?]
  | cons entry entries ih =>
    rw [lookup?, List.map_cons, List.mem_cons, not_or, ← ih]
    split
    · rename_i same
      simp [same]
    · rename_i other
      simp [Ne.symm other]

/-- If the keys differ, every entry is found under its key. -/
theorem lookup?_eq_some_iff (distinct : (entries.map Prod.fst).Nodup) :
    lookup? name entries = some value ↔ (name, value) ∈ entries := by
  constructor
  · exact mem_of_lookup?
  · intro member
    cases found : lookup? name entries with
    | none => exact absurd (List.mem_map_of_mem member) (lookup?_eq_none_iff.mp found)
    | some other =>
      have same := List.inj_on_of_nodup_map distinct member (mem_of_lookup? found) rfl
      rw [(Prod.mk.inj same).2]

/-- If the keys differ, what is filtered out is not found and everything else is. -/
theorem lookup?_filter_of_nodup (distinct : (entries.map Prod.fst).Nodup)
    (keep : Text × Value → Bool) :
    lookup? name (entries.filter keep) =
      (lookup? name entries).filter fun value => keep (name, value) := by
  have filtered : ((entries.filter keep).map Prod.fst).Nodup :=
    distinct.sublist (List.filter_sublist.map Prod.fst)
  apply Option.ext
  intro value
  rw [lookup?_eq_some_iff filtered, List.mem_filter, Option.filter_eq_some_iff,
    lookup?_eq_some_iff distinct]

theorem lookup?_of_perm (distinct : (entries.map Prod.fst).Nodup) (same : entries.Perm others) :
    lookup? name others = lookup? name entries := by
  apply Option.ext
  intro value
  rw [lookup?_eq_some_iff distinct, lookup?_eq_some_iff ((same.map _).nodup_iff.mp distinct),
    same.mem_iff]

/-! ## Overriding -/

/-- Entries that are overridden by others: an entry of a known key takes its place, and those of new
keys come last. -/
def overridden (entries others : List (Text × Value)) : List (Text × Value) :=
  others.foldl (fun merged entry => insertEntry entry.1 entry.2 merged) entries

theorem mem_of_mem_insertEntry {key : Text} {entry : Text × Value}
    (member : entry ∈ insertEntry key value entries) : entry = (key, value) ∨ entry ∈ entries := by
  induction entries with
  | nil => exact .inl (List.mem_singleton.mp member)
  | cons first entries ih =>
    rw [insertEntry] at member
    split at member
    · rename_i same
      rcases List.mem_cons.mp member with rfl | inRest
      · exact .inl (congrArg (·, value) same)
      · exact .inr (List.mem_cons_of_mem _ inRest)
    · rcases List.mem_cons.mp member with rfl | inRest
      · exact .inr List.mem_cons_self
      · rcases ih inRest with isNew | old
        · exact .inl isNew
        · exact .inr (List.mem_cons_of_mem _ old)

theorem nodup_insertEntry {key : Text} (distinct : (entries.map Prod.fst).Nodup) :
    ((insertEntry key value entries).map Prod.fst).Nodup := by
  induction entries with
  | nil => exact List.nodup_singleton _
  | cons first entries ih =>
    rw [List.map_cons, List.nodup_cons] at distinct
    rw [insertEntry]
    split
    · rw [List.map_cons, List.nodup_cons]
      exact distinct
    · rename_i different
      rw [List.map_cons, List.nodup_cons]
      constructor
      · intro repeated
        rcases List.mem_map.mp repeated with ⟨entry, member, same⟩
        rcases mem_of_mem_insertEntry member with rfl | old
        · exact different same.symm
        · exact distinct.1 (List.mem_map.mpr ⟨entry, old, same⟩)
      · exact ih distinct.2

theorem mem_of_mem_overridden {entry : Text × Value} (member : entry ∈ overridden entries others) :
    entry ∈ entries ∨ entry ∈ others := by
  induction others generalizing entries with
  | nil => exact .inl member
  | cons first others ih =>
    rcases ih member with inserted | later
    · rcases mem_of_mem_insertEntry inserted with rfl | old
      · exact .inr List.mem_cons_self
      · exact .inl old
    · exact .inr (List.mem_cons_of_mem _ later)

theorem nodup_overridden (distinct : (entries.map Prod.fst).Nodup)
    (others : List (Text × Value)) : ((overridden entries others).map Prod.fst).Nodup := by
  induction others generalizing entries with
  | nil => exact distinct
  | cons first others ih => exact ih (nodup_insertEntry distinct)

/-- What overrides is found first. -/
theorem lookup?_overridden (distinct : (others.map Prod.fst).Nodup) :
    lookup? name (overridden entries others) =
      (lookup? name others).or (lookup? name entries) := by
  induction others generalizing entries with
  | nil => rfl
  | cons first others ih =>
    rw [List.map_cons, List.nodup_cons] at distinct
    rw [overridden, List.foldl_cons]
    refine (ih distinct.2).trans ?_
    rw [lookup?_insertEntry, lookup?]
    by_cases same : first.1 = name
    · have absent : lookup? name others = none :=
        lookup?_eq_none_iff.mpr (same ▸ distinct.1)
      simp [same, absent]
    · simp [same]

end LabelPress.Value

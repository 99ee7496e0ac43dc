import LabelPress.Files.FileTree
import LabelPress.Proofs.Outcome

/-!
# What is written is read back

A file that is written at a path is what is then read at this path, unless a device took it, and
what was read at other places is still read there. Writing makes no directory and removes none, so
a path that led somewhere leads there afterwards.
-/

namespace LabelPress.Files.FileTree

variable {α : Type} {tree after : FileTree α} {names others directory : List Text} {name : Text}
  {path other : Path} {content : α} {target : Target}

/-! ## Directories -/

theorem hasDirectory_iff :
    tree.hasDirectory names = true ↔
      names <+: tree.working ∨ ∃ entry ∈ tree.nodes,
        names <+: entry.1 ∧ (names ≠ entry.1 ∨ ∃ making, entry.2 = .directory making) := by
  have shorter (key : List Text) (isPrefix : names <+: key) :
      names.length < key.length ↔ names ≠ key := by
    rw [Nat.lt_iff_le_and_ne, and_iff_right isPrefix.length_le]
    exact not_congr ⟨isPrefix.eq_of_length, congrArg List.length⟩
  rw [hasDirectory, Bool.or_eq_true, List.isPrefixOf_iff_prefix, List.any_eq_true]
  refine or_congr_right (exists_congr fun ⟨key, node⟩ => and_congr_right fun _ => ?_)
  rw [Bool.and_eq_true, List.isPrefixOf_iff_prefix]
  refine and_congr_right fun isPrefix => ?_
  cases node with
  | directory making => simp
  | file content => simp [shorter key isPrefix]
  | device reading writing => simp [shorter key isPrefix]

/-- The way to a directory leads through directories. -/
theorem hasDirectory_of_prefix (isPrefix : others <+: names)
    (isDirectory : tree.hasDirectory names = true) : tree.hasDirectory others = true := by
  by_cases same : others = names
  · rw [same]
    exact isDirectory
  · rw [hasDirectory_iff] at isDirectory ⊢
    refine isDirectory.imp isPrefix.trans fun ⟨entry, member, leads, _⟩ => ?_
    refine ⟨entry, member, isPrefix.trans leads, .inl ?_⟩
    rintro rfl
    exact same (isPrefix.eq_of_length_le leads.length_le)

theorem prefix_dropLast (isPrefix : others <+: names) (distinct : others ≠ names) :
    others <+: names.dropLast := by
  rcases List.eq_nil_or_concat names with rfl | ⟨above, last, rfl⟩
  · exact absurd (List.prefix_nil.mp isPrefix) distinct
  · rw [List.concat_eq_append] at isPrefix distinct ⊢
    rw [List.dropLast_concat]
    exact (List.prefix_concat_iff.mp isPrefix).resolve_left distinct

/-- Where a file is or can be made: no directory is there, but one is above. -/
structure IsPlace (tree : FileTree α) (names : List Text) : Prop where
  vacant : tree.hasDirectory names = false
  parent : tree.hasDirectory names.dropLast = true

/-- A file at its place adds no directory and takes none away. -/
theorem IsPlace.hasDirectory_insert (isPlace : tree.IsPlace names) (content : α)
    (others : List Text) :
    (tree.insert names content).hasDirectory others = tree.hasDirectory others := by
  rw [Bool.eq_iff_iff]
  constructor
  · intro isDirectory
    rw [hasDirectory_iff] at isDirectory
    rcases isDirectory with onWay | ⟨entry, member, leads, kind⟩
    · exact hasDirectory_iff.mpr (.inl onWay)
    · rcases List.mem_append.mp member with old | new
      · exact hasDirectory_iff.mpr (.inr ⟨entry, (List.mem_filter.mp old).1, leads, kind⟩)
      · obtain rfl := List.mem_singleton.mp new
        have distinct : others ≠ names := kind.resolve_right nofun
        exact hasDirectory_of_prefix (prefix_dropLast leads distinct) isPlace.parent
  · intro isDirectory
    have distinct : others ≠ names := by
      rintro rfl
      exact Bool.false_ne_true (isPlace.vacant.symm.trans isDirectory)
    rw [hasDirectory_iff] at isDirectory ⊢
    refine isDirectory.imp_right fun ⟨entry, member, leads, kind⟩ => ?_
    by_cases same : entry.1 = names
    · rw [same] at leads
      exact ⟨_, List.mem_append_right _ (List.mem_singleton_self _), leads, .inl distinct⟩
    · refine ⟨entry, List.mem_append_left _ (List.mem_filter.mpr ⟨member, ?_⟩), leads, kind⟩
      exact decide_eq_true same

/-! ## Places -/

theorem enter_eq_ok (entered : tree.enter directory name = .ok names)
    (isDirectory : tree.hasDirectory directory = true) : tree.hasDirectory names = true := by
  unfold enter at entered
  split at entered
  · obtain rfl := Except.ok.inj entered
    exact hasDirectory_of_prefix (List.dropLast_prefix _) isDirectory
  split at entered
  · contradiction
  dsimp only at entered
  split at entered
  · next found =>
    obtain rfl := Except.ok.inj entered
    exact found
  split at entered <;> contradiction

/-- The directories that a path goes through. -/
theorem hasDirectory_of_foldlM {way : List Text} (isDirectory : tree.hasDirectory directory = true)
    (entered : way.foldlM tree.enter directory = .ok names) : tree.hasDirectory names = true := by
  induction way generalizing directory with
  | nil =>
    obtain rfl := Except.ok.inj entered
    exact isDirectory
  | cons name way ih =>
    obtain ⟨next, first, rest⟩ := bind_eq_ok_iff.mp entered
    exact ih (enter_eq_ok first isDirectory) rest

theorem isPlace_of_targetIn (isDirectory : tree.hasDirectory directory = true)
    (found : tree.targetIn directory name = .ok (.file names)) : tree.IsPlace names := by
  unfold targetIn at found
  split at found
  · exact nomatch Except.ok.inj found
  split at found
  · contradiction
  dsimp only at found
  split at found
  · exact nomatch Except.ok.inj found
  · next vacant =>
    obtain rfl := Target.file.inj (Except.ok.inj found)
    exact ⟨Bool.eq_false_iff.mpr vacant, by rwa [List.dropLast_concat]⟩

/-- A path is followed in the same way with a file more. -/
theorem IsPlace.enter_insert (isPlace : tree.IsPlace names) (content : α)
    (entered : tree.enter directory name = .ok others) :
    (tree.insert names content).enter directory name = .ok others := by
  simp only [enter, isPlace.hasDirectory_insert] at entered ⊢
  split at entered
  · next up => rwa [if_pos up]
  · next notUp =>
    rw [if_neg notUp]
    split at entered
    · contradiction
    · next short =>
      rw [if_neg short]
      split at entered
      · next found => rwa [if_pos found]
      · split at entered <;> contradiction

theorem IsPlace.targetIn_insert (isPlace : tree.IsPlace names) (content : α)
    (directory : List Text) (name : Text) :
    (tree.insert names content).targetIn directory name = tree.targetIn directory name := by
  simp only [targetIn, isPlace.hasDirectory_insert]

theorem IsPlace.foldlM_enter_insert (isPlace : tree.IsPlace names) (content : α) {way : List Text}
    (entered : way.foldlM tree.enter directory = .ok others) :
    way.foldlM (tree.insert names content).enter directory = .ok others := by
  induction way generalizing directory with
  | nil => exact entered
  | cons name way ih =>
    obtain ⟨next, first, rest⟩ := bind_eq_ok_iff.mp entered
    rw [List.foldlM_cons, isPlace.enter_insert content first]
    exact ih rest

/-- A path leads where it led before. -/
theorem IsPlace.locate_insert (isPlace : tree.IsPlace names) (content : α)
    (located : tree.locate path = .ok target) :
    (tree.insert names content).locate path = .ok target := by
  obtain ⟨_, checked, followed⟩ := bind_eq_ok_iff.mp located
  refine bind_eq_ok_iff.mpr ⟨_, checked, ?_⟩
  unfold follow at followed ⊢
  split at followed
  · exact followed
  · obtain ⟨directory, entered, found⟩ := bind_eq_ok_iff.mp followed
    refine bind_eq_ok_iff.mpr ⟨directory, isPlace.foldlM_enter_insert content entered, ?_⟩
    rw [isPlace.targetIn_insert, found]

theorem isPlace_of_locate (located : tree.locate path = .ok (.file names)) :
    tree.IsPlace names := by
  obtain ⟨_, checked, followed⟩ := bind_eq_ok_iff.mp located
  unfold follow at followed
  split at followed
  · exact nomatch Except.ok.inj followed
  · obtain ⟨directory, entered, found⟩ := bind_eq_ok_iff.mp followed
    refine isPlace_of_targetIn (hasDirectory_of_foldlM ?_ entered) found
    split
    · exact hasDirectory_iff.mpr (.inl (List.prefix_refl _))
    · exact hasDirectory_iff.mpr (.inl List.nil_prefix)

/-! ## Reading and writing -/

/-- A path is written where it leads, or a device takes what is written and keeps nothing. -/
theorem write_eq_ok (written : tree.write path content = .ok after) :
    ∃ names, tree.locate path = .ok (.file names) ∧
      (after = tree.insert names content ∨ after = tree) := by
  obtain ⟨target, located, written⟩ := bind_eq_ok_iff.mp written
  cases target with
  | directory => contradiction
  | file names =>
    refine ⟨names, located, ?_⟩
    dsimp only at written
    split at written
    · exact .inl (Except.ok.inj written).symm
    · obtain ⟨_, _, kept⟩ := bind_eq_ok_iff.mp written
      exact .inr (Except.ok.inj kept).symm
    · contradiction
    · obtain ⟨_, _, made⟩ := bind_eq_ok_iff.mp written
      exact .inl (Except.ok.inj made).symm

/-- What is written at a path is read there, unless a device took it. -/
theorem read_of_write (written : tree.write path content = .ok after) :
    after.read path = .ok content ∨ after = tree := by
  obtain ⟨names, located, rfl | rfl⟩ := write_eq_ok written
  · refine .inl (bind_eq_ok_iff.mpr ⟨.file names, ?_, ?_⟩)
    · exact (isPlace_of_locate located).locate_insert content located
    · dsimp only
      rw [get?_insert_self]
      rfl
  · exact .inr rfl

/-- What is read at a path is still read there after something was written elsewhere. -/
theorem read_of_write_elsewhere {found : α} (written : tree.write path content = .ok after)
    (elsewhere : tree.locate other ≠ tree.locate path) (read : tree.read other = .ok found) :
    after.read other = .ok found := by
  obtain ⟨names, located, rfl | rfl⟩ := write_eq_ok written
  · obtain ⟨target, otherLocated, reads⟩ := bind_eq_ok_iff.mp read
    have later := (isPlace_of_locate located).locate_insert content otherLocated
    refine bind_eq_ok_iff.mpr ⟨target, later, ?_⟩
    cases target with
    | directory => contradiction
    | file others =>
      have distinct : others ≠ names := by
        rintro rfl
        exact elsewhere (otherLocated.trans located.symm)
      dsimp only at reads ⊢
      rwa [get?_insert_of_ne tree content distinct]
  · exact read

end LabelPress.Files.FileTree

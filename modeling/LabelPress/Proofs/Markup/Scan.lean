import LabelPress.Proofs.Markup.Alternatives

/-!
# The scan for placeholders

What one scan from left to right, which prefers longer matches, makes of a program: a relation
between texts that does not mention the scan. The program is cut into gaps and matches by turns.
Nothing could be found from inside a gap on, even if it went on behind the gap; no longer match
could be found where a match starts. Gaps are kept, and each match becomes the placeholder of the
key that it stands for. There is exactly one such result, and it is what the scan gives.
-/

namespace LabelPress.Markup

/-- No alternative starts inside a gap, with `rest` behind the gap. -/
def IsClean (form : Form) (gap rest : Text) : Prop :=
  ∀ done todo, gap = done ++ todo → todo ≠ [] →
    ∀ other, IsAlternative form other → ¬other <+: todo ++ rest

/-- A program, cut into gaps and matches, and the text that has placeholders for the matches. -/
inductive Scanned (form : Form) : Text → Text → Prop where
  /-- The last gap. -/
  | last {gap : Text} (clean : IsClean form gap []) : Scanned form gap gap
  /-- A gap, and the longest match behind it. -/
  | found {gap text key rest result : Text} (clean : IsClean form gap (text ++ rest))
    (alternative : IsAlternative form text)
    (longest : ∀ other, IsAlternative form other → other <+: text ++ rest →
      other.length ≤ text.length)
    (stands : StandsFor form text key) (scanned : Scanned form rest result) :
    Scanned form (gap ++ text ++ rest) (gap ++ placeholder key ++ result)

theorem IsClean.nil (form : Form) (rest : Text) : IsClean form [] rest := by
  intro done todo split nonempty
  exact absurd (List.append_eq_nil_iff.mp split.symm).2 nonempty

theorem IsClean.cons {form : Form} {c : CodePoint} {gap rest : Text}
    (here : ∀ other, IsAlternative form other → ¬other <+: c :: (gap ++ rest))
    (clean : IsClean form gap rest) : IsClean form (c :: gap) rest := by
  intro done todo split nonempty
  cases done with
  | nil =>
    rw [List.nil_append] at split
    subst split
    exact here
  | cons d done =>
    obtain ⟨-, split⟩ := List.cons.inj split
    exact clean done todo split nonempty

theorem IsClean.of_append {form : Form} {gap rest : Text} (front : Text)
    (clean : IsClean form (front ++ gap) rest) : IsClean form gap rest := by
  intro done todo split
  exact clean (front ++ done) todo (by rw [split, List.append_assoc])

/-- A match cannot start inside a gap. -/
theorem IsClean.eq_nil_of_append {form : Form} {gap todo found tail rest : Text}
    (clean : IsClean form (gap ++ todo) rest) (alternative : IsAlternative form found)
    (start : found ++ tail = todo ++ rest) : todo = [] := by
  by_contra nonempty
  exact clean gap todo rfl nonempty found alternative ⟨tail, start⟩

/-- A character at which nothing is found joins the gap behind it. -/
theorem Scanned.cons {form : Form} {c : CodePoint} {rest result : Text}
    (here : ∀ other, IsAlternative form other → ¬other <+: c :: rest)
    (scanned : Scanned form rest result) : Scanned form (c :: rest) (c :: result) := by
  cases scanned with
  | last clean =>
    refine .last (.cons ?_ clean)
    simpa using here
  | @found gap text key rest result clean alternative longest stands scanned =>
    change Scanned form (c :: gap ++ text ++ rest) (c :: gap ++ placeholder key ++ result)
    refine .found (.cons ?_ clean) alternative longest stands scanned
    simpa using here

/-- A match at the start, with no gap before it. -/
theorem Scanned.append {form : Form} {text key rest result : Text}
    (alternative : IsAlternative form text)
    (longest : ∀ other, IsAlternative form other → other <+: text ++ rest →
      other.length ≤ text.length)
    (stands : StandsFor form text key) (scanned : Scanned form rest result) :
    Scanned form (text ++ rest) (placeholder key ++ result) :=
  .found (.nil form _) alternative longest stands scanned

/-- Without entries there is nothing to be found. -/
theorem scanned_nil (markup : Text) : Scanned [] markup markup := by
  refine .last fun _ _ _ _ other alternative => ?_
  rcases alternative with ⟨_, _, member, -⟩
  contradiction

/-- There is only one result for a program. -/
theorem Scanned.unique {form : Form} {markup first second : Text}
    (scanned : Scanned form markup first) (other : Scanned form markup second) :
    first = second := by
  induction scanned generalizing second with
  | @last gap clean =>
    generalize same : gap = markup at other
    cases other with
    | last => rfl
    | @found front found _ tail _ _ alternative =>
      subst same
      rw [List.append_assoc] at clean
      have empty := clean.eq_nil_of_append alternative (List.append_nil (found ++ tail)).symm
      exact absurd (List.append_eq_nil_iff.mp empty).1 alternative.ne_nil
  | @found gap found key rest result clean alternative longest stands _ ih =>
    generalize same : gap ++ found ++ rest = markup at other
    cases other with
    | @last whole whole_clean =>
      subst same
      rw [List.append_assoc] at whole_clean
      have empty := whole_clean.eq_nil_of_append alternative (List.append_nil (found ++ rest)).symm
      exact absurd (List.append_eq_nil_iff.mp empty).1 alternative.ne_nil
    | @found gap' found' key' rest' result' clean' alternative' longest' stands' scanned' =>
      rw [List.append_assoc, List.append_assoc] at same
      -- Neither gap reaches into the other's match, so the gaps are the same.
      have sameGap : gap = gap' ∧ found ++ rest = found' ++ rest' := by
        rcases List.append_eq_append_iff.mp same with ⟨todo, rfl, start⟩ | ⟨todo, rfl, start⟩
        · obtain rfl := clean'.eq_nil_of_append alternative start
          simpa using start
        · obtain rfl := clean.eq_nil_of_append alternative' start
          simpa using start.symm
      obtain ⟨rfl, start⟩ := sameGap
      have sameLength : found.length = found'.length := by
        apply Nat.le_antisymm
        · exact longest' found alternative ⟨rest, start⟩
        · exact longest found' alternative' ⟨rest', start.symm⟩
      obtain ⟨rfl, rfl⟩ := List.append_inj start sameLength
      rw [stands.unique stands', ih scanned']

/-- Forms in which the same texts are found and stand for the same keys have the same results. -/
theorem Scanned.congr {first second : Form} {markup result : Text}
    (alternatives : ∀ text, IsAlternative first text ↔ IsAlternative second text)
    (keys : ∀ text key, IsAlternative first text → StandsFor first text key →
      StandsFor second text key)
    (scanned : Scanned first markup result) : Scanned second markup result := by
  have transfer {gap rest : Text} (clean : IsClean first gap rest) : IsClean second gap rest := by
    intro done todo split nonempty other alternative
    exact clean done todo split nonempty other ((alternatives other).mpr alternative)
  induction scanned with
  | last clean => exact .last (transfer clean)
  | found clean alternative longest stands _ ih =>
    refine .found (transfer clean) ((alternatives _).mp alternative) ?_
      (keys _ _ alternative stands) ih
    intro other isAlternative
    exact longest other ((alternatives other).mpr isAlternative)

/-! ## Scanning -/

theorem substituteFrom_eq (table : List (Text × Text)) (skip : Nat) (text : Text) :
    substituteFrom table skip text = substituteFrom table 0 (text.drop skip) := by
  induction text generalizing skip with
  | nil => cases skip <;> simp [substituteFrom]
  | cons c text ih =>
    cases skip with
    | zero => rfl
    | succ skip => rw [substituteFrom, ih, List.drop_succ_cons]

theorem pairwise_longestFirst (table : List (Text × Text)) :
    (longestFirst table).Pairwise fun first second => second.1.length ≤ first.1.length :=
  pairwise_mergeSort (fun entry : Text × Text => entry.1.length) table

/-- In a table with its longer texts first, the first text that is found is the longest one. -/
theorem matchAt?_longestFirst_eq_some {table : List (Text × Text)} {text found key : Text}
    (isFound : matchAt? (longestFirst table) text = some (found, key)) :
    (found, key) ∈ table ∧ found <+: text ∧
      ∀ other name, (other, name) ∈ table → other <+: text → other.length ≤ found.length := by
  rcases List.find?_eq_some_iff_append.mp isFound with ⟨start, before, after, split, missed⟩
  have sorted := pairwise_longestFirst table
  rw [split, List.pairwise_append, List.pairwise_cons] at sorted
  refine ⟨?_, Text.startsWith_iff.mp start, ?_⟩
  · rw [← List.mem_mergeSort, ← longestFirst, split]
    simp
  · intro other name member starts
    rw [← List.mem_mergeSort, ← longestFirst, split] at member
    rcases List.mem_append.mp member with early | late
    · have absent := missed _ early
      rw [Text.startsWith_iff.mpr starts] at absent
      contradiction
    · rcases List.mem_cons.mp late with same | later
      · rw [(Prod.mk.inj same).1]
      · exact sorted.2.1.1 _ later

theorem matchAt?_longestFirst_eq_none {table : List (Text × Text)} {text : Text}
    (notFound : matchAt? (longestFirst table) text = none) {other name : Text}
    (member : (other, name) ∈ table) : ¬other <+: text := by
  intro starts
  have absent := List.find?_eq_none.mp notFound (other, name) (List.mem_mergeSort.mpr member)
  exact absent (Text.startsWith_iff.mpr starts)

/-- The scan gives the result of the relation, from every place on. -/
theorem scanned_substituteFrom (form : Form) (markup : Text) :
    Scanned form markup (substituteFrom (longestFirst (matchTable (filled form))) 0 markup) := by
  -- The induction is on the length, since a match is passed over at once.
  induction length : markup.length using Nat.strongRecOn generalizing markup with
  | ind n ih =>
    subst length
    cases markup with
    | nil => exact .last (.nil form [])
    | cons c rest =>
      rw [substituteFrom]
      split
      · rename_i found key isFound
        rcases matchAt?_longestFirst_eq_some isFound with ⟨member, ⟨tail, start⟩, longest⟩
        rcases standsFor_of_mem_matchTable member with ⟨alternative, stands⟩
        have positive := List.length_pos_iff.mpr alternative.ne_nil
        have behind : rest.drop (found.length - 1) = tail := by
          have dropped : (c :: rest).drop found.length = tail := by
            rw [← start, List.drop_left]
          rwa [← Nat.sub_add_cancel positive, List.drop_succ_cons] at dropped
        have shorter : tail.length < (c :: rest).length := by
          rw [← start, List.length_append]
          omega
        rw [substituteFrom_eq, behind, ← start]
        refine .append alternative ?_ stands (ih _ shorter tail rfl)
        intro other isAlternative starts
        rw [start] at starts
        rcases exists_mem_matchTable isAlternative with ⟨name, inTable⟩
        exact longest other name inTable starts
      · rename_i notFound
        refine .cons ?_ (ih _ (by simp) rest rfl)
        intro other isAlternative
        rcases exists_mem_matchTable isAlternative with ⟨name, inTable⟩
        exact matchAt?_longestFirst_eq_none notFound inTable

/-- A form of texts is never refused. -/
theorem templatize_eq {form : Form} (textual : IsTextual form) (markup : Text) :
    templatize markup form = .ok (templatizeTexts markup (filled form)) := by
  rw [templatize, filledTexts_eq textual]
  rfl

/-- The table of a scan, with its entries inserted one after the other. -/
theorem longestFirst_matchTable (entries : List (Text × Text)) :
    longestFirst (matchTable entries) =
      (((firstOccurrences [] entries).insertionSort fun a b => b.2.length ≤ a.2.length).foldl
        (fun table entry =>
          addMatch (addMatch table entry.2 entry.1) (Payload.escape entry.2) entry.1)
        []).insertionSort fun a b => b.1.length ≤ a.1.length := by
  rw [longestFirst, matchTable, orderedValues,
    mergeSort_eq_insertionSort fun entry : Text × Text => entry.1.length,
    mergeSort_eq_insertionSort fun entry : Text × Text => entry.2.length]

/-- Placeholders are put in by one scan from left to right that prefers longer matches. A form of
texts is never refused; the result keeps the gaps, in which nothing could be found, and has for each
match, which could not be longer, the placeholder of the key that it stands for. No other text is a
result in this sense. -/
theorem templatize_scanned {form : Form} (textual : IsTextual form) (markup : Text) :
    ∃ result, templatize markup form = .ok result ∧ Scanned form markup result ∧
      ∀ other, Scanned form markup other → other = result := by
  have scanned := scanned_substituteFrom form markup
  refine ⟨_, ?_, scanned, fun other isResult => isResult.unique scanned⟩
  rw [templatize, filledTexts_eq textual]
  rfl

/-- A form in which one value is the hexadecimal form of another, and a third is a part of both. -/
def entangledForm : Form :=
  [("caret".toText, .ofString "A^"), ("escape".toText, .ofString "A_5E"),
    ("letter".toText, .ofString "A"), ("again".toText, .ofString "A"), ("nothing".toText, .null)]

/-- What is both a value and a hexadecimal form stands for the key under which it is a value, and
the part is only found where neither of the longer values is. -/
theorem templatize_scanned_entangled :
    templatize "AA_5EA^".toText entangledForm =
        .ok "\x7b\x7bletter\x7d\x7d\x7b\x7bescape\x7d\x7d\x7b\x7bcaret\x7d\x7d".toText ∧
      ∃ result, templatize "AA_5EA^".toText entangledForm = .ok result ∧
        Scanned entangledForm "AA_5EA^".toText result ∧
        ∀ other, Scanned entangledForm "AA_5EA^".toText other → other = result := by
  have textual : IsTextual entangledForm := by
    intro entry member
    simp only [entangledForm, List.mem_cons, List.not_mem_nil, or_false] at member
    rcases member with rfl | rfl | rfl | rfl | rfl
    · exact .inl ⟨_, rfl⟩
    · exact .inl ⟨_, rfl⟩
    · exact .inl ⟨_, rfl⟩
    · exact .inl ⟨_, rfl⟩
    · exact .inr rfl
  constructor
  · rw [templatize_eq textual, templatizeTexts, longestFirst_matchTable]
    exact congrArg Except.ok (by decide +kernel)
  · exact templatize_scanned textual _

end LabelPress.Markup

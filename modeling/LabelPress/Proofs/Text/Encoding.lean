import LabelPress.Text.Basic
import LabelPress.Text.Utf8
import Mathlib.Data.List.Basic

/-!
# Texts as bytes

A text has bytes exactly if it holds no surrogate, and from its bytes it is decoded again.
-/

namespace LabelPress

/-- A code point that is no surrogate. -/
def CodePoint.IsCharacter (c : CodePoint) : Prop :=
  ∀ distance, c ≠ .surrogate distance

namespace Text

/-! ## Characters -/

/-- A text of characters only. -/
def HasNoSurrogate (text : Text) : Prop :=
  ∀ c ∈ text, c.IsCharacter

theorem hasNoSurrogate_toText (s : String) : HasNoSurrogate s.toText := by
  intro c member distance
  rcases List.mem_map.mp member with ⟨character, -, rfl⟩
  exact CodePoint.noConfusion

theorem characters?_eq_some_iff {text : Text} {characters : List Char} :
    text.characters? = some characters ↔ text = characters.map CodePoint.scalar := by
  induction text generalizing characters with
  | nil => cases characters <;> simp [characters?]
  | cons c text ih =>
    rw [characters?, List.mapM_cons]
    cases c with
    | surrogate distance => cases characters <;> simp [CodePoint.char?]
    | scalar c =>
      simp only [CodePoint.char?, Option.pure_def, Option.bind_eq_bind, Option.bind_some,
        Option.bind_eq_some_iff, Option.some.injEq]
      constructor
      · rintro ⟨others, read, rfl⟩
        rw [List.map_cons, ← ih.mp read]
      · intro same
        cases characters with
        | nil => contradiction
        | cons first others =>
          rw [List.map_cons, List.cons.injEq, CodePoint.scalar.injEq] at same
          exact ⟨others, ih.mpr same.2, by rw [same.1]⟩

theorem HasNoSurrogate.exists_characters {text : Text} (clean : text.HasNoSurrogate) :
    ∃ characters : List Char, text = characters.map CodePoint.scalar := by
  induction text with
  | nil => exact ⟨[], rfl⟩
  | cons c text ih =>
    cases c with
    | surrogate distance => exact absurd rfl (clean _ List.mem_cons_self distance)
    | scalar c =>
      rcases ih (List.forall_mem_cons.mp clean).2 with ⟨characters, rfl⟩
      exact ⟨c :: characters, rfl⟩

/-! ## Bytes -/

theorem toList_loop_eq (bytes : ByteArray) (i : Nat) (read : List UInt8) :
    ByteArray.toList.loop bytes i read = read.reverse ++ bytes.data.toList.drop i := by
  fun_induction ByteArray.toList.loop bytes i read with
  | case1 i read within ih =>
    have inList : i < bytes.data.toList.length := by simpa using within
    have byte : bytes.get! i = bytes.data.toList[i] := by
      rw [ByteArray.get!, Array.getElem_toList]
      exact getElem!_pos bytes.data i within
    rw [ih, List.drop_eq_getElem_cons inList, byte,
      List.reverse_cons, List.append_assoc, List.singleton_append]
  | case2 i read outside =>
    have pastEnd : bytes.data.toList.length ≤ i := by simpa using outside
    rw [List.drop_eq_nil_of_le pastEnd, List.append_nil]

theorem mk_toArray_toList (bytes : ByteArray) : ByteArray.mk bytes.toList.toArray = bytes := by
  rw [ByteArray.toList, toList_loop_eq]
  rfl

theorem fromUTF8?_toUTF8 (s : String) : String.fromUTF8? s.toUTF8 = some s := by
  rw [String.fromUTF8?, String.toUTF8_eq_toByteArray, dif_pos s.isValidUTF8]
  rfl

/-- A text without surrogates has bytes. -/
theorem HasNoSurrogate.exists_toUtf8 {text : Text} (clean : text.HasNoSurrogate) :
    ∃ octets, text.toUtf8 = .ok octets := by
  rcases clean.exists_characters with ⟨characters, spelled⟩
  rw [toUtf8, characters?_eq_some_iff.mpr spelled]
  exact ⟨_, rfl⟩

/-- A text is decoded from its bytes. -/
theorem ofUtf8_of_toUtf8 {text : Text} {octets : List UInt8} (encoded : text.toUtf8 = .ok octets) :
    ofUtf8 octets = .ok text := by
  unfold toUtf8 at encoded
  split at encoded
  · rename_i characters spelled
    obtain rfl := Except.ok.inj encoded
    rw [ofUtf8, mk_toArray_toList, fromUTF8?_toUTF8, characters?_eq_some_iff.mp spelled]
    simp only [String.toText, String.toList_ofList]
  · contradiction

end Text

end LabelPress

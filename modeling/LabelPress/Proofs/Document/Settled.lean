import LabelPress.Proofs.Binary64.Integral
import LabelPress.Proofs.Document.Reachable

/-!
# Settled attributes

What a check has written, it accepts again and does not change. For the numbers this is a fact
about doubles: an integer that a double was coerced to has itself a double of exactly its value.
Every attribute of a reachable document is a default or was written by its check, so all of them
pass their checks as they stand.
-/

namespace LabelPress

/-! ## Coerced numbers -/

open Binary64 in
theorem isExact_naturalPart (x : Binary64) : IsExact (naturalPart x) := by
  cases x with
  | nan => exact isExact_zero
  | infinity negative => exact isExact_zero
  | finite negative units fits =>
    rcases truncate?_finite negative fits with ⟨n, truncated, exact⟩
    rw [naturalPart, truncated]
    exact exact

theorem isExact_of_coerceNatural {value : Value} {n : Nat}
    (coerced : coerceNatural value = .ok n) : Binary64.IsExact n := by
  unfold coerceNatural at coerced
  split at coerced
  · rename_i characters
    obtain rfl := Except.ok.inj coerced
    cases Binary64.read? characters.strip with
    | none => exact Binary64.isExact_zero
    | some x => exact isExact_naturalPart x
  · split at coerced
    · rcases map_eq_ok_iff.mp coerced with ⟨x, -, rfl⟩
      exact isExact_naturalPart x
    · obtain rfl := Except.ok.inj coerced
      exact Binary64.isExact_zero

theorem naturalPart_natCast {n : Nat} (exact : Binary64.IsExact n) :
    naturalPart (.finite false (n * Binary64.one) exact) = n := by
  rw [naturalPart, Binary64.truncate?_natCast]
  exact Int.toNat_natCast n

/-- A natural number that is a double exactly is coerced to itself. -/
theorem coerceNatural_natCast {n : Nat} (exact : Binary64.IsExact n) :
    coerceNatural (.int n) = .ok n := by
  change (Number.toBinary64 (.whole n)).map naturalPart = _
  rw [Binary64.toBinary64_natCast exact]
  exact congrArg Except.ok (naturalPart_natCast exact)

instance (n : Nat) : Decidable (Binary64.IsExact n) :=
  inferInstanceAs (Decidable (Binary64.Representable _))

namespace Element

/-! ## Attributes -/

/-- The value of an attribute. -/
def valueOf (element : Element) : Attribute → Value
  | .type => element.type
  | .content => element.content
  | .fontVariant => element.fontVariant
  | .x => element.x
  | .y => element.y
  | .width => element.width
  | .height => element.height
  | .fontSize => element.fontSize

theorem valueOf_overwrite (element : Element) (field other : Attribute) (value : Value) :
    (element.overwrite field value).valueOf other =
      if other = field then value else element.valueOf other := by
  cases field <;> cases other <;> rfl

/-! ## Checks -/

/-- The attributes that hold numbers have one check. -/
theorem checked_numeric {field : Attribute}
    (numeric : field ∉ [Attribute.type, .content, .fontVariant]) (value : Value) :
    checked field value = (coerceNatural value).map fun n : Nat => .int n := by
  cases field with
  | type => exact absurd numeric (by decide)
  | content => exact absurd numeric (by decide)
  | fontVariant => exact absurd numeric (by decide)
  | x => rfl
  | y => rfl
  | width => rfl
  | height => rfl
  | fontSize => rfl

theorem checked_of_coerceNatural {field : Attribute} {value : Value} {n : Nat}
    (numeric : field ∉ [Attribute.type, .content, .fontVariant])
    (coerced : coerceNatural value = .ok n) : checked field value = .ok (.int n) := by
  rw [checked_numeric numeric, coerced]
  rfl

theorem checked_natCast {field : Attribute} {n : Nat}
    (numeric : field ∉ [Attribute.type, .content, .fontVariant]) (exact : Binary64.IsExact n) :
    checked field (.int n) = .ok (.int n) :=
  checked_of_coerceNatural numeric (coerceNatural_natCast exact)

theorem natural_of_natural {value written : Value}
    (accepted : (coerceNatural value).map (fun n : Nat => Value.int n) = .ok written) :
    (coerceNatural written).map (fun n : Nat => Value.int n) = .ok written := by
  rcases map_eq_ok_iff.mp accepted with ⟨n, coerced, rfl⟩
  rw [coerceNatural_natCast (isExact_of_coerceNatural coerced)]
  rfl

/-- What a check has written passes the check as it stands. -/
theorem checked_of_checked {field : Attribute} {value written : Value}
    (accepted : checked field value = .ok written) : checked field written = .ok written := by
  cases field with
  | type =>
    rcases map_eq_ok_iff.mp accepted with ⟨type, -, rfl⟩
    cases type <;> rfl
  | content =>
    rcases map_eq_ok_iff.mp accepted with ⟨content, -, rfl⟩
    rfl
  | fontVariant =>
    rcases map_eq_ok_iff.mp accepted with ⟨variant, -, rfl⟩
    rw [checked, FontVariant.ofValue_text]
    rfl
  | x => exact natural_of_natural accepted
  | y => exact natural_of_natural accepted
  | width => exact natural_of_natural accepted
  | height => exact natural_of_natural accepted
  | fontSize => exact natural_of_natural accepted

/-- All attributes pass their checks as they stand. -/
def IsSettled (element : Element) : Prop :=
  ∀ field, checked field (element.valueOf field) = .ok (element.valueOf field)

theorem isSettled_ofType (id : Nat) (type : ElementType) : (ofType id type).IsSettled := by
  have place : Binary64.IsExact 50 := by decide +kernel
  have width : ∀ type : ElementType, Binary64.IsExact type.defaultSize.1.toNat := by
    intro type
    cases type <;> decide +kernel
  have height : ∀ type : ElementType, Binary64.IsExact type.defaultSize.2.toNat := by
    intro type
    cases type <;> decide +kernel
  have fontSize : ∀ type : ElementType, Binary64.IsExact type.defaultFontSize.toNat := by
    intro type
    cases type <;> decide +kernel
  intro field
  rw [← CheckedElement.element_ofType]
  cases field with
  | type => cases type <;> rfl
  | content => rfl
  | fontVariant => rfl
  | x => exact checked_natCast (by decide) place
  | y => exact checked_natCast (by decide) place
  | width => exact checked_natCast (by decide) (width type)
  | height => exact checked_natCast (by decide) (height type)
  | fontSize => exact checked_natCast (by decide) (fontSize type)

theorem IsSettled.assign {element edited : Element} (settled : element.IsSettled)
    {field : Attribute} {value : Value} (assigned : element.assign field value = .ok edited) :
    edited.IsSettled := by
  rcases map_eq_ok_iff.mp assigned with ⟨written, accepted, rfl⟩
  intro other
  rw [valueOf_overwrite]
  split
  · rename_i same
    rw [same]
    exact checked_of_checked accepted
  · exact settled other

end Element

/-- All attributes of a reachable document pass their checks as they stand. -/
theorem Document.Reachable.isSettled {document : Document} (reachable : Reachable document) :
    ∀ element ∈ document.elements, element.IsSettled := by
  apply reachable.forall_elements (motive := Element.IsSettled)
  · exact fun id type _ => Element.isSettled_ofType id type
  · exact fun element field value edited settled assigned => settled.assign assigned

end LabelPress

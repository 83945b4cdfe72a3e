import DataBinding.Repeat.Item
import DataBinding.Proofs.ComparisonOrder
import DataBinding.Proofs.NumberDisplay

namespace DataBinding

/-!
# Keys of equal items

Equality of values is equality of all that they are made of, except that the two zeros
are equal.  The JSON text of a value shows the signs of its zeros, so equal values have
one text just when the signs agree, and then they are one value.  A key is a hash of such
a text, or an `id` as it is displayed, and the display of a number shows no sign of zero.
-/

/-!
## Numbers
-/

namespace Number

/-- Whether a number is negative, if it is one of the two zeros. -/
def zeroSign? : Number → Option Bool
  | finite negative magnitude => if magnitude.units = 0 then some negative else none
  | _ => none

theorem magnitude_eq_of_units
    {first second : Magnitude}
    (sameUnits : first.units = second.units) :
    first = second := by
  cases first
  cases second
  cases sameUnits
  rfl

/-- The place of a finite number lies between those of the infinities. -/
theorem signedUnits_bounds
    (negative : Bool)
    (magnitude : Magnitude) :
    -(unitsBound : Int) < signedUnits negative magnitude ∧
      signedUnits negative magnitude < unitsBound := by
  have inFormat : magnitude.units < unitsBound := magnitude.representable.1
  cases negative
  · simp only [signedUnits, Bool.false_eq_true, if_false]
    omega
  · simp only [signedUnits, if_true]
    omega

theorem eq_or_zero_of_signedUnits
    {negative negative' : Bool}
    {magnitude magnitude' : Magnitude}
    (samePlace : signedUnits negative magnitude = signedUnits negative' magnitude') :
    magnitude = magnitude' ∧ (negative = negative' ∨ magnitude.units = 0) := by
  have sameUnits : magnitude.units = magnitude'.units := by
    cases negative <;> cases negative' <;> simp [signedUnits] at samePlace <;> omega
  refine ⟨magnitude_eq_of_units sameUnits, ?_⟩
  cases negative <;> cases negative' <;> simp [signedUnits] at samePlace ⊢ <;> omega

/-- Equal numbers are one number, or both are zeros. -/
theorem eq_or_zeros_of_equal
    {left right : Number}
    (equal : left.equal right = true) :
    left = right ∨ ∃ negative negative', left = .zero negative ∧ right = .zero negative' := by
  rw [equal_eq_compare?, beq_iff_eq, compare?_eq_some_iff] at equal
  obtain ⟨place, place', atPlace, atPlace', samePlace⟩ := equal
  obtain rfl := Std.LawfulEqCmp.compare_eq_iff_eq.mp samePlace
  have boundPositive := unitsBound_pos
  cases left with
  | nan => cases atPlace
  | infinite negative =>
      cases right with
      | nan => cases atPlace'
      | infinite negative' =>
          cases negative <;> cases negative' <;>
            simp only [position?, Option.some.injEq] at atPlace atPlace'
          · exact .inl rfl
          · omega
          · omega
          · exact .inl rfl
      | finite negative' magnitude' =>
          have bounds := signedUnits_bounds negative' magnitude'
          cases negative <;> simp only [position?, Option.some.injEq] at atPlace atPlace' <;>
            omega
  | finite negative magnitude =>
      cases right with
      | nan => cases atPlace'
      | infinite negative' =>
          have bounds := signedUnits_bounds negative magnitude
          cases negative' <;> simp only [position?, Option.some.injEq] at atPlace atPlace' <;>
            omega
      | finite negative' magnitude' =>
          obtain ⟨rfl, sameSign | isZero⟩ :=
            eq_or_zero_of_signedUnits
              (Option.some.inj (atPlace.trans atPlace'.symm))
          · exact .inl (by rw [sameSign])
          · obtain rfl : magnitude = Magnitude.zero := magnitude_eq_of_units isZero
            exact .inr ⟨negative, negative', rfl, rfl⟩

theorem display_zero (negative : Bool) :
    (Number.zero negative).display = "0" := by
  cases negative <;> decide +kernel

theorem display_of_equal
    {left right : Number}
    (equal : left.equal right = true) :
    left.display = right.display := by
  rcases eq_or_zeros_of_equal equal with rfl | ⟨negative, negative', rfl, rfl⟩
  · rfl
  · rw [display_zero, display_zero]

end Number

namespace Value

/-!
## Signs of zeros
-/

mutual

/-- The signs of the zeros in a value, in the order in which its text shows them. -/
def zeroSigns : Value → List Bool
  | number value => value.zeroSign?.toList
  | array items => itemSigns items
  | object fields => fieldSigns fields
  | null => []
  | bool _ => []
  | string _ => []

/-- The signs of the zeros in the items of an array. -/
def itemSigns : List Value → List Bool
  | [] => []
  | item :: rest => zeroSigns item ++ itemSigns rest

/-- The signs of the zeros in the fields of an object. -/
def fieldSigns : List (String × Value) → List Bool
  | [] => []
  | (_, value) :: rest => zeroSigns value ++ fieldSigns rest

end

mutual

/-- Equal values are one value if their zeros have the same signs, also where more signs
follow. -/
theorem eq_of_zeroSigns_append
    {value value' : Value}
    {signs signs' : List Bool}
    (equalValues : value.equal value' = true)
    (sameSigns : value.zeroSigns ++ signs = value'.zeroSigns ++ signs') :
    value = value' ∧ signs = signs' := by
  cases value <;> cases value' <;> try cases equalValues
  case null.null => exact ⟨rfl, sameSigns⟩
  case bool.bool truth truth' =>
      exact ⟨congrArg bool (beq_iff_eq.mp equalValues), sameSigns⟩
  case string.string text text' =>
      exact ⟨congrArg string (beq_iff_eq.mp equalValues), sameSigns⟩
  case number.number number number' =>
      rcases Number.eq_or_zeros_of_equal equalValues with rfl | ⟨negative, negative', rfl, rfl⟩
      · exact ⟨rfl, List.append_cancel_left sameSigns⟩
      · obtain ⟨rfl, sameRest⟩ := List.cons.inj sameSigns
        exact ⟨rfl, sameRest⟩
  case array.array items items' =>
      obtain ⟨sameItems, sameRest⟩ := items_eq_of_itemSigns_append equalValues sameSigns
      exact ⟨congrArg array sameItems, sameRest⟩
  case object.object fields fields' =>
      obtain ⟨sameFields, sameRest⟩ := fields_eq_of_fieldSigns_append equalValues sameSigns
      exact ⟨congrArg object sameFields, sameRest⟩

theorem items_eq_of_itemSigns_append
    {items items' : List Value}
    {signs signs' : List Bool}
    (equalValues : equalItems items items' = true)
    (sameSigns : itemSigns items ++ signs = itemSigns items' ++ signs') :
    items = items' ∧ signs = signs' := by
  cases items <;> cases items' <;> try cases equalValues
  case nil.nil => exact ⟨rfl, sameSigns⟩
  case cons.cons item items item' items' =>
      obtain ⟨equalItem, equalRest⟩ := Bool.and_eq_true_iff.mp equalValues
      rw [itemSigns, itemSigns, List.append_assoc, List.append_assoc] at sameSigns
      obtain ⟨rfl, sameRest⟩ := eq_of_zeroSigns_append equalItem sameSigns
      obtain ⟨rfl, sameBehind⟩ := items_eq_of_itemSigns_append equalRest sameRest
      exact ⟨rfl, sameBehind⟩

theorem fields_eq_of_fieldSigns_append
    {fields fields' : List (String × Value)}
    {signs signs' : List Bool}
    (equalValues : equalFields fields fields' = true)
    (sameSigns : fieldSigns fields ++ signs = fieldSigns fields' ++ signs') :
    fields = fields' ∧ signs = signs' := by
  cases fields <;> cases fields' <;> try cases equalValues
  case nil.nil => exact ⟨rfl, sameSigns⟩
  case cons.cons field fields field' fields' =>
      obtain ⟨name, value⟩ := field
      obtain ⟨name', value'⟩ := field'
      obtain ⟨equalFirst, equalRest⟩ := Bool.and_eq_true_iff.mp equalValues
      obtain ⟨sameName, equalField⟩ := Bool.and_eq_true_iff.mp equalFirst
      rw [fieldSigns, fieldSigns, List.append_assoc, List.append_assoc] at sameSigns
      obtain ⟨rfl, sameRest⟩ := eq_of_zeroSigns_append equalField sameSigns
      obtain ⟨rfl, sameBehind⟩ := fields_eq_of_fieldSigns_append equalRest sameRest
      exact ⟨by rw [beq_iff_eq.mp sameName], sameBehind⟩

end

/-!
## Texts
-/

/-- Texts with a comma in front of each. -/
def followingTexts (texts : List String) : List Char :=
  texts.flatMap fun text => ',' :: text.toList

theorem followingTexts_cons
    (text : String)
    (texts : List String) :
    followingTexts (text :: texts) = ',' :: (String.intercalate "," (text :: texts)).toList := by
  induction texts generalizing text with
  | nil => simp [followingTexts, String.intercalate_singleton]
  | cons next texts inductionHypothesis =>
      have rest := inductionHypothesis next
      rw [followingTexts, List.flatMap_cons, ← followingTexts, rest,
        String.intercalate_cons_cons]
      simp

theorem followingTexts_of_intercalate
    {texts texts' : List String}
    {chars chars' : List Char}
    (bothEmpty : texts = [] ↔ texts' = [])
    (sameText :
      (String.intercalate "," texts).toList ++ chars =
        (String.intercalate "," texts').toList ++ chars') :
    followingTexts texts ++ chars = followingTexts texts' ++ chars' := by
  cases texts with
  | nil =>
      obtain rfl := bothEmpty.mp rfl
      exact sameText
  | cons text texts =>
      cases texts' with
      | nil => cases bothEmpty.mpr rfl
      | cons text' texts' =>
          rw [followingTexts_cons, followingTexts_cons]
          exact congrArg (',' :: ·) sameText

theorem jsonItems_eq_nil_iff
    {items items' : List Value}
    (equalValues : equalItems items items' = true) :
    jsonItems items = [] ↔ jsonItems items' = [] := by
  cases items <;> cases items' <;> simp_all [equalItems, jsonItems]

theorem jsonFields_eq_nil_iff
    {fields fields' : List (String × Value)}
    (equalValues : equalFields fields fields' = true) :
    jsonFields fields = [] ↔ jsonFields fields' = [] := by
  cases fields <;> cases fields' <;> simp_all [equalFields, jsonFields]

mutual

/-- Equal values are one value if they have one text, also where more text follows. -/
theorem eq_of_json_append
    {value value' : Value}
    {chars chars' : List Char}
    (equalValues : value.equal value' = true)
    (sameText : value.json.toList ++ chars = value'.json.toList ++ chars') :
    value = value' ∧ chars = chars' := by
  cases value <;> cases value' <;> try cases equalValues
  case null.null => exact ⟨rfl, List.append_cancel_left sameText⟩
  case bool.bool truth truth' =>
      obtain rfl := beq_iff_eq.mp equalValues
      exact ⟨rfl, List.append_cancel_left sameText⟩
  case string.string text text' =>
      obtain rfl := beq_iff_eq.mp equalValues
      exact ⟨rfl, List.append_cancel_left sameText⟩
  case number.number number number' =>
      rcases Number.eq_or_zeros_of_equal equalValues with rfl | ⟨negative, negative', rfl, rfl⟩
      · exact ⟨rfl, List.append_cancel_left sameText⟩
      · obtain rfl : negative = negative' := by
          cases negative <;> cases negative' <;> first | rfl | cases sameText
        exact ⟨rfl, List.append_cancel_left sameText⟩
  case array.array items items' =>
      simp only [json, String.toList_append, List.append_assoc] at sameText
      obtain ⟨rfl, sameRest⟩ := items_eq_of_jsonItems_append equalValues
        (followingTexts_of_intercalate (jsonItems_eq_nil_iff equalValues)
          (List.append_cancel_left sameText))
      exact ⟨rfl, List.append_cancel_left sameRest⟩
  case object.object fields fields' =>
      simp only [json, String.toList_append, List.append_assoc] at sameText
      obtain ⟨rfl, sameRest⟩ := fields_eq_of_jsonFields_append equalValues
        (followingTexts_of_intercalate (jsonFields_eq_nil_iff equalValues)
          (List.append_cancel_left sameText))
      exact ⟨rfl, List.append_cancel_left sameRest⟩

theorem items_eq_of_jsonItems_append
    {items items' : List Value}
    {chars chars' : List Char}
    (equalValues : equalItems items items' = true)
    (sameText :
      followingTexts (jsonItems items) ++ chars =
        followingTexts (jsonItems items') ++ chars') :
    items = items' ∧ chars = chars' := by
  cases items <;> cases items' <;> try cases equalValues
  case nil.nil => exact ⟨rfl, sameText⟩
  case cons.cons item items item' items' =>
      obtain ⟨equalItem, equalRest⟩ := Bool.and_eq_true_iff.mp equalValues
      simp only [jsonItems, followingTexts, List.flatMap_cons, List.cons_append,
        List.append_assoc, List.cons.injEq, true_and] at sameText
      obtain ⟨rfl, sameRest⟩ := eq_of_json_append equalItem sameText
      obtain ⟨rfl, sameBehind⟩ := items_eq_of_jsonItems_append equalRest sameRest
      exact ⟨rfl, sameBehind⟩

theorem fields_eq_of_jsonFields_append
    {fields fields' : List (String × Value)}
    {chars chars' : List Char}
    (equalValues : equalFields fields fields' = true)
    (sameText :
      followingTexts (jsonFields fields) ++ chars =
        followingTexts (jsonFields fields') ++ chars') :
    fields = fields' ∧ chars = chars' := by
  cases fields <;> cases fields' <;> try cases equalValues
  case nil.nil => exact ⟨rfl, sameText⟩
  case cons.cons field fields field' fields' =>
      obtain ⟨name, value⟩ := field
      obtain ⟨name', value'⟩ := field'
      obtain ⟨equalFirst, equalRest⟩ := Bool.and_eq_true_iff.mp equalValues
      obtain ⟨sameName, equalField⟩ := Bool.and_eq_true_iff.mp equalFirst
      obtain rfl := beq_iff_eq.mp sameName
      simp only [jsonFields, followingTexts, List.flatMap_cons, List.cons_append,
        String.toList_append, List.append_assoc, List.cons.injEq, true_and,
        List.append_cancel_left_eq] at sameText
      obtain ⟨rfl, sameRest⟩ := eq_of_json_append equalField sameText
      obtain ⟨rfl, sameBehind⟩ := fields_eq_of_jsonFields_append equalRest sameRest
      exact ⟨rfl, sameBehind⟩

end

/-- Equal values have one text just when the signs of their zeros agree. -/
theorem json_eq_iff_of_equal
    {value value' : Value}
    (equalValues : value.equal value' = true) :
    value.json = value'.json ↔ value.zeroSigns = value'.zeroSigns := by
  constructor
  · intro sameText
    have sameValue :=
      eq_of_json_append equalValues (congrArg (fun text => text.toList ++ []) sameText)
    rw [sameValue.1]
  · intro sameSigns
    have sameValue := eq_of_zeroSigns_append equalValues (congrArg (· ++ []) sameSigns)
    rw [sameValue.1]

/-!
## Keys
-/

/-- Fields of one name in equal objects are equal. -/
theorem get?_of_equalFields
    {fields fields' : List (String × Value)}
    (equalValues : equalFields fields fields' = true)
    (name : String) :
    (Fields.get? name fields = none ∧ Fields.get? name fields' = none) ∨
      ∃ value value',
        Fields.get? name fields = some value ∧
          Fields.get? name fields' = some value' ∧
            value.equal value' = true := by
  induction fields generalizing fields' with
  | nil =>
      cases fields' with
      | nil => exact .inl ⟨rfl, rfl⟩
      | cons field' fields' => cases equalValues
  | cons field fields inductionHypothesis =>
      cases fields' with
      | nil => cases equalValues
      | cons field' fields' =>
          obtain ⟨other, value⟩ := field
          obtain ⟨other', value'⟩ := field'
          obtain ⟨equalFirst, equalRest⟩ := Bool.and_eq_true_iff.mp equalValues
          obtain ⟨sameName, equalField⟩ := Bool.and_eq_true_iff.mp equalFirst
          obtain rfl := beq_iff_eq.mp sameName
          by_cases found : name = other
          · exact .inr ⟨value, value', if_pos found, if_pos found, equalField⟩
          · simpa only [Fields.get?, if_neg found] using inductionHypothesis equalRest

theorem field_of_equal
    {value value' : Value}
    (equalValues : value.equal value' = true)
    (name : String) :
    (value.fields?.bind (Fields.get? name) = none ∧
        value'.fields?.bind (Fields.get? name) = none) ∨
      ∃ field field',
        value.fields?.bind (Fields.get? name) = some field ∧
          value'.fields?.bind (Fields.get? name) = some field' ∧
            field.equal field' = true := by
  cases value <;> cases value' <;> try cases equalValues
  case object.object fields fields' => exact get?_of_equalFields equalValues name
  all_goals exact .inl ⟨rfl, rfl⟩

/-- The signs of the zeros that a key depends on: none if it is an `id` as it is
displayed, and otherwise those of the value that is hashed. -/
def keyZeroSigns (value : Value) : List Bool :=
  match value.fields?.bind (Fields.get? "id") with
  | some (.string _) => []
  | some (.number _) => []
  | some id => id.zeroSigns
  | none => value.zeroSigns

theorem contentHash_of_zeroSigns
    {value value' : Value}
    (equalValues : value.equal value' = true)
    (sameSigns : value.zeroSigns = value'.zeroSigns) :
    value.contentHash = value'.contentHash := by
  rw [contentHash, (json_eq_iff_of_equal equalValues).mpr sameSigns, contentHash]

theorem itemKey_of_keyZeroSigns
    {value value' : Value}
    (equalValues : value.equal value' = true)
    (sameSigns : value.keyZeroSigns = value'.keyZeroSigns) :
    value.itemKey = value'.itemKey := by
  unfold itemKey
  unfold keyZeroSigns at sameSigns
  rcases field_of_equal equalValues "id" with ⟨noId, noId'⟩ | ⟨id, id', hasId, hasId', equalIds⟩
  · rw [noId, noId'] at sameSigns ⊢
    exact contentHash_of_zeroSigns equalValues sameSigns
  · rw [hasId, hasId'] at sameSigns ⊢
    cases id <;> cases id' <;> try cases equalIds
    case null.refl => rfl
    case string.string text text' => exact beq_iff_eq.mp equalIds
    case number.number number number' => exact Number.display_of_equal equalIds
    all_goals exact contentHash_of_zeroSigns equalIds sameSigns

/-- Equal values have one JSON text just when their zeros have the same signs, and then
one hash.  They have one key already when the zeros that the key depends on do. -/
theorem keys_ofEqual
    {value value' : Value}
    (equalValues : value.equal value' = true) :
    (value.json = value'.json ↔ value.zeroSigns = value'.zeroSigns) ∧
      (value.zeroSigns = value'.zeroSigns → value.contentHash = value'.contentHash) ∧
      (value.keyZeroSigns = value'.keyZeroSigns → value.itemKey = value'.itemKey) :=
  ⟨json_eq_iff_of_equal equalValues, contentHash_of_zeroSigns equalValues,
    itemKey_of_keyZeroSigns equalValues⟩

/-- Items whose `id`s are the two zeros have two texts and one key. -/
theorem keys_ofEqual_signedIds :
    let item (negative : Bool) : Value :=
      .object [("id", .number (.zero negative)), ("range", .array [.number (.zero true), .null])]
    (item false).equal (item true) = true ∧
      (item false).json ≠ (item true).json ∧
      (item false).itemKey = (item true).itemKey := by
  intro item
  have equalItems : (item false).equal (item true) = true := by decide +kernel
  have keys := keys_ofEqual equalItems
  refine ⟨equalItems, fun sameText => ?_, keys.2.2 rfl⟩
  exact absurd (keys.1.mp sameText) (by decide +kernel)

/-- The two zeros are equal, and are two items to a region. -/
theorem keys_ofEqual_signOfZero :
    Value.equal (.number (.zero false)) (.number (.zero true)) = true ∧
      Value.contentHash (.number (.zero false)) ≠ Value.contentHash (.number (.zero true)) ∧
      Value.itemKey (.number (.zero false)) ≠ Value.itemKey (.number (.zero true)) := by
  decide +kernel

end Value

end DataBinding

import DataBinding.Json.Lexer
import DataBinding.Proofs.TemplateSlot

namespace DataBinding

/-!
# Values in links

A link with an encoded placeholder takes its value as a component.  A component has no
characters that mean something in a link, but for the percent signs of its own escapes,
and its escapes give back the bytes of the value.  So whatever the value is, the link
around it stays as it is written.
-/

namespace Text

/-!
## Components
-/

/-- Whether a character of a link stands for nothing but itself. -/
def IsUnreservedChar (c : Char) : Prop :=
  c.isAlphanum = true ∨ c ∈ ['-', '_', '.', '!', '~', '*', '\'', '(', ')']

/-- Whether a character is a digit to base sixteen in capital letters. -/
def IsCapitalHexDigit (c : Char) : Prop :=
  c.isDigit = true ∨ ('A' ≤ c ∧ c ≤ 'F')

instance (c : Char) : Decidable (IsUnreservedChar c) :=
  inferInstanceAs (Decidable (_ ∨ _))

instance (c : Char) : Decidable (IsCapitalHexDigit c) :=
  inferInstanceAs (Decidable (_ ∨ _))

/-- Whether characters can stand in a link as a component of it. -/
inductive IsComponent : List Char → Prop where
  | nothing :
      IsComponent []
  | unreserved
      {c : Char}
      {rest : List Char} :
      IsUnreservedChar c →
      IsComponent rest →
      IsComponent (c :: rest)
  | encoded
      {high low : Char}
      {rest : List Char} :
      IsCapitalHexDigit high →
      IsCapitalHexDigit low →
      IsComponent rest →
      IsComponent ('%' :: high :: low :: rest)

theorem IsComponent.append
    {first second : List Char}
    (isFirst : IsComponent first)
    (isSecond : IsComponent second) :
    IsComponent (first ++ second) := by
  induction isFirst with
  | nothing =>
      exact isSecond
  | unreserved isChar _ inductionHypothesis =>
      exact .unreserved isChar inductionHypothesis
  | encoded isHigh isLow _ inductionHypothesis =>
      exact .encoded isHigh isLow inductionHypothesis

/-- The bytes that characters of a link stand for.  A percent sign and two digits are one
byte, and all other characters stand for themselves. -/
def percentDecode : List Char → List UInt8
  | '%' :: high :: low :: rest =>
      match Json.hexValue? high, Json.hexValue? low with
      | some high, some low => UInt8.ofNat (16 * high + low) :: percentDecode rest
      | _, _ => String.utf8EncodeChar '%' ++ percentDecode (high :: low :: rest)
  | c :: rest => String.utf8EncodeChar c ++ percentDecode rest
  | [] => []

theorem percentDecode_cons_of_ne
    {c : Char}
    (notPercent : c ≠ '%')
    (rest : List Char) :
    percentDecode (c :: rest) = String.utf8EncodeChar c ++ percentDecode rest := by
  rw [percentDecode]
  intro _ _ _ isPercent
  exact absurd isPercent notPercent

/-!
## The form of a byte
-/

theorem isCapitalHexDigit_capitalHexDigit (digit : Nat) :
    IsCapitalHexDigit (capitalHexDigit digit) := by
  have all : ∀ digit < 16, IsCapitalHexDigit (Nat.digitChar digit).toUpper := by
    decide
  exact all _ (Nat.mod_lt digit (by decide))

theorem hexValue?_capitalHexDigit (digit : Nat) :
    Json.hexValue? (capitalHexDigit digit) = some (digit % 16) := by
  have all : ∀ digit < 16, Json.hexValue? (Nat.digitChar digit).toUpper = some digit := by
    decide
  exact all _ (Nat.mod_lt digit (by decide))

/-- A byte that stands for itself is an unreserved character, and the character has that
one byte. -/
theorem unreserved_of_isUnreserved
    {byte : UInt8}
    (standsForItself : isUnreserved byte = true) :
    IsUnreservedChar (Char.ofNat byte.toNat) ∧
      String.utf8EncodeChar (Char.ofNat byte.toNat) = [byte] := by
  simp only [isUnreserved, Bool.and_eq_true, decide_eq_true_eq, Bool.or_eq_true,
    List.contains_iff_mem] at standsForItself
  obtain ⟨isAscii, isChar⟩ := standsForItself
  have all :
      ∀ code < 0x80, String.utf8EncodeChar (Char.ofNat code) = [UInt8.ofNat code] := by
    decide
  exact ⟨isChar, (all _ isAscii).trans (by rw [UInt8.ofNat_toNat])⟩

theorem ne_percent_of_isUnreservedChar
    {c : Char}
    (isChar : IsUnreservedChar c) :
    c ≠ '%' := by
  rintro rfl
  exact absurd isChar (by decide)

theorem isComponent_percentByte (byte : UInt8) :
    IsComponent (percentByte byte) := by
  unfold percentByte
  split
  · exact .unreserved (unreserved_of_isUnreserved ‹_›).1 .nothing
  · exact .encoded (isCapitalHexDigit_capitalHexDigit _) (isCapitalHexDigit_capitalHexDigit _)
      .nothing

/-- A byte is decoded from its form, whatever stands behind it. -/
theorem percentDecode_percentByte_append
    (byte : UInt8)
    (rest : List Char) :
    percentDecode (percentByte byte ++ rest) = byte :: percentDecode rest := by
  unfold percentByte
  split
  · obtain ⟨isChar, isByte⟩ := unreserved_of_isUnreserved ‹_›
    rw [List.singleton_append,
      percentDecode_cons_of_ne (ne_percent_of_isUnreservedChar isChar), isByte]
    rfl
  · have small : byte.toNat / 16 < 16 :=
      Nat.div_lt_of_lt_mul byte.toNat_lt
    have halves : 16 * (byte.toNat / 16 % 16) + byte.toNat % 16 = byte.toNat := by
      rw [Nat.mod_eq_of_lt small]
      exact Nat.div_add_mod byte.toNat 16
    simp only [List.cons_append, List.nil_append, percentDecode, hexValue?_capitalHexDigit,
      halves, UInt8.ofNat_toNat]

/-!
## The form of a text
-/

theorem isComponent_percentEncode (text : List Char) :
    IsComponent (percentEncode text) := by
  rw [percentEncode]
  induction utf8 text with
  | nil =>
      exact .nothing
  | cons byte rest inductionHypothesis =>
      rw [List.flatMap_cons]
      exact (isComponent_percentByte byte).append inductionHypothesis

/-- Decoding a component gives back the bytes of the text. -/
theorem percentDecode_percentEncode (text : List Char) :
    percentDecode (percentEncode text) = utf8 text := by
  rw [percentEncode]
  induction utf8 text with
  | nil =>
      rfl
  | cons byte rest inductionHypothesis =>
      rw [List.flatMap_cons, percentDecode_percentByte_append, inductionHypothesis]

end Text

namespace Placeholder

/-!
## The first placeholder
-/

/-- Whether a pattern stands between two parts of a text and nowhere further in front. -/
structure IsFirstBetween
    (pattern text front behind : List Char) : Prop where
  split : text = front ++ pattern ++ behind
  first :
    ∀ front' behind', text = front' ++ pattern ++ behind' → front.length ≤ front'.length

/-- A text is split at the first occurrence of a pattern. -/
theorem isFirstBetween_of_split?
    {pattern text : List Char}
    {parts : List Char × List Char}
    (splits : split? pattern text = some parts) :
    IsFirstBetween pattern text parts.1 parts.2 := by
  induction text generalizing parts with
  | nil =>
      by_cases nothing : pattern = []
      · rw [split?, if_pos nothing] at splits
        cases splits
        exact ⟨by simp [nothing], fun _ _ _ => Nat.zero_le _⟩
      · rw [split?, if_neg nothing] at splits
        cases splits
  | cons c rest inductionHypothesis =>
      by_cases begins : pattern.isPrefixOf (c :: rest) = true
      · rw [split?, if_pos begins] at splits
        cases splits
        obtain ⟨behind, same⟩ := List.isPrefixOf_iff_prefix.mp begins
        exact ⟨by simp [← same], fun _ _ _ => Nat.zero_le _⟩
      · rw [split?, if_neg begins, Option.map_eq_some_iff] at splits
        obtain ⟨parts, splitsRest, rfl⟩ := splits
        obtain ⟨split, first⟩ := inductionHypothesis splitsRest
        refine ⟨congrArg (List.cons c) split, fun front' behind' same => ?_⟩
        cases front' with
        | nil =>
            exact absurd (List.isPrefixOf_iff_prefix.mpr ⟨behind', same.symm⟩) begins
        | cons c' front' =>
            exact Nat.succ_le_succ (first front' behind' (List.cons.inj same).2)

/-- The first occurrence of a pattern is replaced, and all else is kept. -/
theorem exists_replace?_of_infix
    {pattern text : List Char}
    (occurs : pattern <:+: text)
    (replacement : List Char) :
    ∃ front behind,
      IsFirstBetween pattern text front behind ∧
        replace? pattern replacement text = some (front ++ replacement ++ behind) := by
  obtain ⟨parts, splits⟩ :=
    Option.isSome_iff_exists.mp ((split?_isSome_iff pattern text).mpr occurs)
  exact ⟨parts.1, parts.2, isFirstBetween_of_split? splits, by
    rw [replace?, splits, Option.map_some]⟩

/--
Values cannot alter the structure of a link.  In a link whose template has the encoded
placeholder of a variable and not the plain one, the first placeholder is replaced by the
component of the value and all around it is kept.  The component has nothing in it but
unreserved characters and escapes, and decoding it gives back exactly the bytes of the
value.
-/
theorem substitute_insertsComponent
    {template path name : String}
    (value : String)
    (isLink : name = "href" ∨ name = "src")
    (notPlain : ¬ofVariable path <:+: template.toList)
    (isEncoded : Text.percentEncode (ofVariable path) <:+: template.toList) :
    (∃ front behind,
        IsFirstBetween (Text.percentEncode (ofVariable path)) template.toList front behind ∧
          substitute template value (some path) (some name) =
            String.ofList (front ++ Text.percentEncode value.toList ++ behind)) ∧
      Text.IsComponent (Text.percentEncode value.toList) ∧
      (Text.percentDecode (Text.percentEncode value.toList)).toByteArray =
        value.toByteArray := by
  refine ⟨?_, Text.isComponent_percentEncode value.toList, ?_⟩
  · obtain ⟨front, behind, isFirst, replaced⟩ :=
      exists_replace?_of_infix isEncoded (Text.percentEncode value.toList)
    have inLink : linkAttributes.contains name = true := by
      rcases isLink with rfl | rfl <;> rfl
    have notReplaced : replace? (ofVariable path) value.toList template.toList = none := by
      rw [replace?, Option.map_eq_none_iff, ← Option.not_isSome_iff_eq_none, split?_isSome_iff]
      exact notPlain
    refine ⟨front, behind, isFirst, ?_⟩
    simp only [substitute, substituteChars, notReplaced, Option.any_some, inLink, ↓reduceIte,
      replaced, Option.getD_some]
  · rw [Text.percentDecode_percentEncode, Text.utf8, ← List.utf8Encode, ← String.toByteArray_ofList,
      String.ofList_toList]

/-- A value with a percent sign, a placeholder of its own and a letter of two bytes fills the
first of two placeholders. -/
theorem substitute_insertsComponent_twoPlaceholders :
    let template := "/u/%24%7Bid%7D?x=%24%7Bid%7D#$\x7buser\x7d"
    let value := "%7B&$\x7bid\x7dé"
    ¬ofVariable "id" <:+: template.toList ∧
      Text.percentEncode (ofVariable "id") <:+: template.toList ∧
      substitute template value (some "id") (some "href") =
        "/u/%257B%26%24%7Bid%7D%C3%A9?x=%24%7Bid%7D#$\x7buser\x7d" ∧
      (∃ front behind,
        IsFirstBetween (Text.percentEncode (ofVariable "id")) template.toList front behind ∧
          substitute template value (some "id") (some "href") =
            String.ofList (front ++ Text.percentEncode value.toList ++ behind)) ∧
      Text.IsComponent (Text.percentEncode value.toList) ∧
      (Text.percentDecode (Text.percentEncode value.toList)).toByteArray =
        value.toByteArray := by
  intro template value
  have notPlain : ¬ofVariable "id" <:+: template.toList := by decide
  have isEncoded : Text.percentEncode (ofVariable "id") <:+: template.toList := by decide
  exact ⟨notPlain, isEncoded, by decide,
    substitute_insertsComponent value (Or.inl rfl) notPlain isEncoded⟩

end Placeholder

end DataBinding

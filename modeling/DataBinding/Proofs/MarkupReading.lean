import DataBinding.Element.Markup
import Mathlib.Data.List.Basic

namespace DataBinding

/-!
# Markup is read in one way

Markup says where each of its parts ends, whatever the data in it: a name ends at
the first blank or mark, a value at the first quote and a content at the first
bracket, since escaped characters stand for all of these.  So two elements have
equal markup only if they are equal.  Every lemma compares two texts with anything
behind them, and says that what is behind them is equal too.
-/

/-- A name and a delimiter behind it are told apart by the first delimiter. -/
theorem eq_of_append_delimiter
    {isDelimiter : Char → Bool}
    {name other : List Char}
    (free : ∀ c ∈ name, isDelimiter c = false)
    (otherFree : ∀ c ∈ other, isDelimiter c = false)
    {delimiter otherDelimiter : Char}
    (ends : isDelimiter delimiter = true)
    (otherEnds : isDelimiter otherDelimiter = true)
    {rest otherRest : List Char}
    (same : name ++ delimiter :: rest = other ++ otherDelimiter :: otherRest) :
    name = other ∧ delimiter :: rest = otherDelimiter :: otherRest := by
  have sameName : name = other := by
    have taken := congrArg (List.takeWhile fun c => !isDelimiter c) same
    rwa [List.takeWhile_append_of_pos (by simpa using free),
      List.takeWhile_append_of_pos (by simpa using otherFree),
      List.takeWhile_cons_of_neg (by simpa using ends),
      List.takeWhile_cons_of_neg (by simpa using otherEnds), List.append_nil,
      List.append_nil] at taken
  refine ⟨sameName, ?_⟩
  rw [sameName] at same
  exact List.append_cancel_left same

/-!
## Escaped text
-/

/-- Attributes are determined by their fields. -/
theorem Attributes.eq_of_fields
    {attributes others : Attributes}
    (same : attributes.fields = others.fields) :
    attributes = others := by
  cases attributes
  cases others
  simpa using same

namespace Element

/-- Reads a character of text or of an attribute value, in whatever way it is
written. -/
def readEscaped : List Char → Option (Char × List Char)
  | '&' :: 'a' :: 'm' :: 'p' :: ';' :: rest => some ('&', rest)
  | '&' :: 'l' :: 't' :: ';' :: rest => some ('<', rest)
  | '&' :: 'g' :: 't' :: ';' :: rest => some ('>', rest)
  | '&' :: 'q' :: 'u' :: 'o' :: 't' :: ';' :: rest => some ('"', rest)
  | c :: rest => some (c, rest)
  | [] => none

theorem readEscaped_of_ne
    {c : Char}
    (plain : c ≠ '&')
    (rest : List Char) :
    readEscaped (c :: rest) = some (c, rest) := by
  unfold readEscaped
  split <;> simp_all

/-- Whether characters read back from what they are written as, which never begins
with a given character. -/
structure ReadsBack
    (written : Char → List Char)
    (stop : Char) : Prop where
  reads :
    ∀ c rest, readEscaped (written c ++ rest) = some (c, rest)
  unstopped :
    ∀ c rest further, written c ++ rest ≠ stop :: further

theorem readsBack_escapedChar :
    ReadsBack escapedChar '<' where
  reads c rest := by
    unfold escapedChar
    split_ifs with ampersand opening closing
    · subst ampersand
      rfl
    · subst opening
      rfl
    · subst closing
      rfl
    · exact readEscaped_of_ne ampersand rest
  unstopped c rest further := by
    unfold escapedChar
    split_ifs with ampersand opening closing <;> simp_all

theorem readsBack_escapedAttributeChar :
    ReadsBack escapedAttributeChar '"' where
  reads c rest := by
    unfold escapedAttributeChar
    split_ifs with quote
    · subst quote
      rfl
    · exact readsBack_escapedChar.reads c rest
  unstopped c rest further := by
    unfold escapedAttributeChar escapedChar
    split_ifs with quote ampersand opening closing <;> simp_all

/-- A text that reads back is told from what is behind it by the first stop. -/
theorem ReadsBack.eq_of_append_stop
    {written : Char → List Char}
    {stop : Char}
    (readsBack : ReadsBack written stop)
    {text other : List Char}
    {rest otherRest : List Char}
    (same : text.flatMap written ++ stop :: rest = other.flatMap written ++ stop :: otherRest) :
    text = other ∧ rest = otherRest := by
  induction text generalizing other with
  | nil =>
      cases other with
      | nil =>
          exact ⟨rfl, (List.cons.inj same).2⟩
      | cons d other =>
          rw [List.flatMap_nil, List.nil_append, List.flatMap_cons, List.append_assoc] at same
          exact absurd same.symm (readsBack.unstopped d _ _)
  | cons c text inductionHypothesis =>
      cases other with
      | nil =>
          rw [List.flatMap_nil, List.nil_append, List.flatMap_cons, List.append_assoc] at same
          exact absurd same (readsBack.unstopped c _ _)
      | cons d other =>
          rw [List.flatMap_cons, List.flatMap_cons, List.append_assoc, List.append_assoc] at same
          have sameRead := congrArg readEscaped same
          rw [readsBack.reads, readsBack.reads, Option.some.injEq, Prod.mk.injEq] at sameRead
          obtain ⟨rfl, sameBehind⟩ := sameRead
          obtain ⟨rfl, sameRest⟩ := inductionHypothesis sameBehind
          exact ⟨rfl, sameRest⟩

/-!
## Attributes
-/

/-- Whether a string can stand for a tag or the name of an attribute: it has no
blanks and none of the characters that have a meaning in markup. -/
structure IsName (name : String) : Prop where
  nonempty : name.toList ≠ []
  noBlank : ∀ c ∈ name.toList, Text.isBlank c = false
  noMark : ∀ c ∈ name.toList, c ∉ ['<', '>', '/', '=', '"', '&']

/-- Names are recognized character by character. -/
theorem isName_iff
    (name : String) :
    (!name.toList.isEmpty &&
        name.toList.all fun c =>
          !Text.isBlank c && !(['<', '>', '/', '=', '"', '&'].contains c)) = true ↔
      IsName name := by
  simp only [Bool.and_eq_true, Bool.not_eq_true', List.isEmpty_eq_false_iff, List.all_eq_true,
    List.contains_eq_mem, decide_eq_false_iff_not]
  constructor
  · rintro ⟨nonempty, spared⟩
    exact ⟨nonempty, fun c member => (spared c member).1, fun c member => (spared c member).2⟩
  · rintro ⟨nonempty, noBlank, noMark⟩
    exact ⟨nonempty, fun c member => ⟨noBlank c member, noMark c member⟩⟩

instance (name : String) : Decidable (IsName name) :=
  decidable_of_iff _ (isName_iff name)

/-- Whether a character ends a tag: attributes or the content follow. -/
def endsTag (c : Char) : Bool :=
  c == ' ' || c == '>'

namespace IsName

variable
  {name : String}
  (named : IsName name)

include named

theorem endsTag_eq_false :
    ∀ c ∈ name.toList, endsTag c = false := by
  intro c member
  have notClosing : c ≠ '>' := by
    rintro rfl
    exact named.noMark _ member (by decide)
  have notBlank : c ≠ ' ' := by
    rintro rfl
    exact absurd (named.noBlank _ member) (by decide)
  simp [endsTag, notClosing, notBlank]

theorem ne_equalsSign :
    ∀ c ∈ name.toList, (c == '=') = false := by
  intro c member
  have notEquals : c ≠ '=' := by
    rintro rfl
    exact named.noMark _ member (by decide)
  simp [notEquals]

/-- A name does not begin like the end of an element. -/
theorem append_ne_slash
    (rest further : List Char) :
    name.toList ++ rest ≠ '/' :: further := by
  intro same
  obtain ⟨c, behind, shape⟩ := List.exists_cons_of_ne_nil named.nonempty
  rw [shape, List.cons_append, List.cons.injEq] at same
  have isMark : c ∈ ['<', '>', '/', '=', '"', '&'] := by
    simp [same.1]
  exact named.noMark c (by simp [shape]) isMark

end IsName

/-- The characters of attributes, in order. -/
def attributesChars (fields : List (String × String)) : List Char :=
  fields.flatMap fun field => attributeChars field.1 field.2

theorem attributesChars_cons
    (name value : String)
    (fields : List (String × String))
    (rest : List Char) :
    attributesChars ((name, value) :: fields) ++ rest =
      ' ' :: (name.toList ++ '=' :: '"' ::
        (value.toList.flatMap escapedAttributeChar ++
          '"' :: (attributesChars fields ++ rest))) := by
  simp [attributesChars, attributeChars]

/-- Attributes are told from what is behind them by the bracket that closes a tag. -/
theorem eq_of_attributesChars
    {fields others : List (String × String)}
    (named : ∀ field ∈ fields, IsName field.1)
    (othersNamed : ∀ field ∈ others, IsName field.1)
    {rest otherRest : List Char}
    (same : attributesChars fields ++ '>' :: rest = attributesChars others ++ '>' :: otherRest) :
    fields = others ∧ rest = otherRest := by
  induction fields generalizing others with
  | nil =>
      cases others with
      | nil =>
          exact ⟨rfl, (List.cons.inj same).2⟩
      | cons other others =>
          rw [attributesChars_cons] at same
          exact absurd (List.cons.inj same).1 (by decide)
  | cons field fields inductionHypothesis =>
      rcases field with ⟨name, value⟩
      cases others with
      | nil =>
          rw [attributesChars_cons] at same
          exact absurd (List.cons.inj same).1 (by decide)
      | cons other others =>
          rcases other with ⟨otherName, otherValue⟩
          obtain ⟨nameNamed, fieldsNamed⟩ := List.forall_mem_cons.mp named
          obtain ⟨otherNamed, restNamed⟩ := List.forall_mem_cons.mp othersNamed
          rw [attributesChars_cons, attributesChars_cons, List.cons.injEq] at same
          obtain ⟨sameName, sameBehindName⟩ :=
            eq_of_append_delimiter nameNamed.ne_equalsSign otherNamed.ne_equalsSign
              (BEq.refl '=') (BEq.refl '=') same.2
          simp only [List.cons.injEq, true_and] at sameBehindName
          obtain ⟨sameValue, sameBehindValue⟩ :=
            readsBack_escapedAttributeChar.eq_of_append_stop sameBehindName
          obtain ⟨rfl, sameRest⟩ :=
            inductionHypothesis fieldsNamed restNamed sameBehindValue
          obtain rfl : name = otherName := String.toList_inj.mp sameName
          obtain rfl : value = otherValue := String.toList_inj.mp sameValue
          exact ⟨rfl, sameRest⟩

/-- A tag is followed by attributes or by the bracket that closes it. -/
theorem exists_endsTag
    (fields : List (String × String))
    (rest : List Char) :
    ∃ c behind,
      attributesChars fields ++ '>' :: rest = c :: behind ∧ endsTag c = true := by
  cases fields with
  | nil =>
      exact ⟨'>', rest, rfl, rfl⟩
  | cons field fields =>
      exact ⟨' ', _, attributesChars_cons field.1 field.2 fields _, rfl⟩

/-- Tags are told from the attributes behind them. -/
theorem eq_of_tagChars
    {tag other : String}
    (named : IsName tag)
    (otherNamed : IsName other)
    {fields others : List (String × String)}
    {rest otherRest : List Char}
    (same :
      tag.toList ++ (attributesChars fields ++ '>' :: rest) =
        other.toList ++ (attributesChars others ++ '>' :: otherRest)) :
    tag = other ∧
      attributesChars fields ++ '>' :: rest = attributesChars others ++ '>' :: otherRest := by
  obtain ⟨c, behind, shape, ends⟩ := exists_endsTag fields rest
  obtain ⟨d, otherBehind, otherShape, otherEnds⟩ := exists_endsTag others otherRest
  rw [shape, otherShape] at same ⊢
  obtain ⟨sameTag, sameBehind⟩ :=
    eq_of_append_delimiter named.endsTag_eq_false otherNamed.endsTag_eq_false ends otherEnds
      same
  exact ⟨String.toList_inj.mp sameTag, sameBehind⟩

/-!
## Elements
-/

/-- Whether an element and everything in it holds text under names, and nothing is
removed. -/
inductive IsPlain : Element → Prop where
  | ofParts
      {tag content : String}
      {attributes : Attributes}
      {children : List Element}
      (tagNamed : IsName tag)
      (attributesNamed : ∀ field ∈ attributes.fields, IsName field.1)
      (childrenPlain : ∀ child ∈ children, IsPlain child) :
      IsPlain
        { tag, attributes, content, isHtml := false, children, removed := false }

/-- The characters of a plain element with something behind it. -/
theorem markupChars_append
    (tag content : String)
    (attributes : Attributes)
    (children : List Element)
    (rest : List Char) :
    markupChars { tag, attributes, content, isHtml := false, children, removed := false } ++
        rest =
      '<' :: (tag.toList ++ (attributesChars attributes.fields ++ '>' ::
        (content.toList.flatMap escapedChar ++ (childrenChars children ++ '<' :: '/' ::
          (tag.toList ++ '>' :: rest))))) := by
  simp [markupChars, attributesChars, contentChars]

/-- Whether the characters of an element are told from what is behind them. -/
def ReadsAlone (element : Element) : Prop :=
  ∀ other, other.IsPlain →
    ∀ rest otherRest,
      element.markupChars ++ rest = other.markupChars ++ otherRest →
      element = other ∧ rest = otherRest

/-- Child elements are told from what is behind them by the end of their parent. -/
theorem eq_of_childrenChars
    {children others : List Element}
    (readAlone : ∀ child ∈ children, child.ReadsAlone)
    (plain : ∀ child ∈ children, child.IsPlain)
    (othersPlain : ∀ other ∈ others, other.IsPlain)
    {rest otherRest : List Char}
    (same :
      childrenChars children ++ '<' :: '/' :: rest =
        childrenChars others ++ '<' :: '/' :: otherRest) :
    children = others ∧ rest = otherRest := by
  induction children generalizing others with
  | nil =>
      cases others with
      | nil =>
          simpa [childrenChars] using same
      | cons other others =>
          rcases othersPlain other List.mem_cons_self with ⟨tagNamed, _, _⟩
          rw [childrenChars, childrenChars, List.append_assoc, markupChars_append,
            List.nil_append, List.cons.injEq] at same
          exact absurd same.2.symm (tagNamed.append_ne_slash _ _)
  | cons child children inductionHypothesis =>
      cases others with
      | nil =>
          rcases plain child List.mem_cons_self with ⟨tagNamed, _, _⟩
          rw [childrenChars, childrenChars, List.append_assoc, markupChars_append,
            List.nil_append, List.cons.injEq] at same
          exact absurd same.2 (tagNamed.append_ne_slash _ _)
      | cons other others =>
          obtain ⟨childAlone, childrenAlone⟩ := List.forall_mem_cons.mp readAlone
          obtain ⟨_, childrenPlain⟩ := List.forall_mem_cons.mp plain
          obtain ⟨otherPlain, restPlain⟩ := List.forall_mem_cons.mp othersPlain
          rw [childrenChars, childrenChars, List.append_assoc, List.append_assoc] at same
          obtain ⟨rfl, sameBehind⟩ := childAlone other otherPlain _ _ same
          obtain ⟨rfl, sameRest⟩ :=
            inductionHypothesis childrenAlone childrenPlain restPlain sameBehind
          exact ⟨rfl, sameRest⟩

/-- What stands behind the content of an element begins with a bracket. -/
theorem exists_opening
    {children : List Element}
    (plain : ∀ child ∈ children, child.IsPlain)
    (rest : List Char) :
    ∃ behind, childrenChars children ++ '<' :: '/' :: rest = '<' :: behind := by
  cases children with
  | nil =>
      exact ⟨'/' :: rest, rfl⟩
  | cons child children =>
      rcases plain child List.mem_cons_self with ⟨_, _, _⟩
      rw [childrenChars, List.append_assoc, markupChars_append]
      exact ⟨_, rfl⟩

/-- Contents are told from the children behind them. -/
theorem eq_of_contentChars
    {children others : List Element}
    (plain : ∀ child ∈ children, child.IsPlain)
    (othersPlain : ∀ other ∈ others, other.IsPlain)
    {content other : String}
    {rest otherRest : List Char}
    (same :
      content.toList.flatMap escapedChar ++ (childrenChars children ++ '<' :: '/' :: rest) =
        other.toList.flatMap escapedChar ++ (childrenChars others ++ '<' :: '/' :: otherRest)) :
    content = other ∧
      childrenChars children ++ '<' :: '/' :: rest =
        childrenChars others ++ '<' :: '/' :: otherRest := by
  obtain ⟨behind, shape⟩ := exists_opening plain rest
  obtain ⟨otherBehind, otherShape⟩ := exists_opening othersPlain otherRest
  rw [shape, otherShape] at same ⊢
  obtain ⟨sameContent, sameBehind⟩ := readsBack_escapedChar.eq_of_append_stop same
  exact ⟨String.toList_inj.mp sameContent, by rw [sameBehind]⟩

/-- A plain element is told from whatever is behind it. -/
theorem IsPlain.readsAlone
    {element : Element}
    (plain : element.IsPlain) :
    element.ReadsAlone := by
  induction plain with
  | @ofParts tag content attributes children tagNamed attributesNamed childrenPlain
      childrenAlone =>
      intro other otherPlain rest otherRest same
      rcases otherPlain with ⟨otherTagNamed, otherAttributesNamed, otherChildrenPlain⟩
      rw [markupChars_append, markupChars_append, List.cons.injEq] at same
      obtain ⟨rfl, sameAttributesOn⟩ := eq_of_tagChars tagNamed otherTagNamed same.2
      obtain ⟨sameFields, sameContentOn⟩ :=
        eq_of_attributesChars attributesNamed otherAttributesNamed sameAttributesOn
      obtain ⟨rfl, sameChildrenOn⟩ :=
        eq_of_contentChars childrenPlain otherChildrenPlain sameContentOn
      obtain ⟨rfl, sameTagOn⟩ :=
        eq_of_childrenChars childrenAlone childrenPlain otherChildrenPlain sameChildrenOn
      obtain rfl := Attributes.eq_of_fields sameFields
      exact ⟨rfl, (List.cons.inj (List.append_cancel_left sameTagOn)).2⟩

/--
Markup is unambiguous: two elements without markup contents and removed parts, whose
tags and attributes are named by names, have equal markup only if they are equal, down
to the attributes, contents and children at every level.  What the attributes and
contents say does not matter, so no data can pass for a tag, an attribute or a text
that is not there.
-/
theorem markup_injective
    {element other : Element}
    (plain : element.IsPlain)
    (otherPlain : other.IsPlain)
    (same : element.markup = other.markup) :
    element = other := by
  have sameChars : element.markupChars ++ [] = other.markupChars ++ [] := by
    rw [String.ofList_injective same]
  exact (plain.readsAlone other otherPlain [] [] sameChars).1

/-- A link whose attributes and text look like markup, however its attributes were
written. -/
def quotingLink (written : List (String × String)) : Element where
  tag := "a"
  attributes := .ofList written
  content := "</a><script>"
  children := [{ tag := "b", content := "&lt;" }]

theorem isPlain_quotingLink
    {written : List (String × String)}
    (named : ∀ field ∈ (Attributes.ofList written).fields, IsName field.1) :
    (quotingLink written).IsPlain := by
  have childPlain : IsPlain { tag := "b", content := "&lt;" } :=
    .ofParts (by decide +kernel) (by decide +kernel) fun _ member =>
      absurd member List.not_mem_nil
  refine .ofParts (by decide +kernel) named ?_
  intro child member
  rw [List.mem_singleton.mp member]
  exact childPlain

/-- Attributes written in another order leave the same markup, and the same element. -/
theorem markup_injective_quotingLink :
    quotingLink [("title", "\" onclick=\""), ("href", "?a&b")] =
      quotingLink [("href", "?a&b"), ("title", "\" onclick=\"")] := by
  have named :
      ∀ field ∈ [("href", "?a&b"), ("title", "\" onclick=\"")], IsName field.1 := by
    decide +kernel
  exact markup_injective (isPlain_quotingLink named) (isPlain_quotingLink named) rfl

end Element

end DataBinding

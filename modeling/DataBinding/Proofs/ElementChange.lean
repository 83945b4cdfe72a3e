import DataBinding.Projection.Immediate

namespace DataBinding

/-!
# How far changes of elements reach

A change of an element reaches one attribute, or the content, or the children,
and leaves all else alone.  Changes of classes reach the class attribute only.
-/

namespace Fields

theorem get?_of_lt
    {name : String}
    {fields : List (String × α)}
    (later : ∀ field ∈ fields, name < field.1) :
    get? name fields = none := by
  induction fields with
  | nil =>
      rfl
  | cons field rest inductionHypothesis =>
      obtain ⟨laterFirst, laterRest⟩ := List.forall_mem_cons.mp later
      have notFirst : name ≠ field.1 := by
        intro same
        exact String.lt_irrefl _ (same ▸ laterFirst)
      rw [get?, if_neg notFirst, inductionHypothesis laterRest]

theorem get?_first
    (name : String)
    (value : α)
    (rest : List (String × α)) :
    get? name ((name, value) :: rest) = some value := by
  simp [get?]

/-- No field stands in front of the first one. -/
theorem not_lt_first
    {name other : String}
    {value found : α}
    {rest : List (String × α)}
    (ordered : Ordered ((other, value) :: rest))
    (isField : get? name ((other, value) :: rest) = some found) :
    ¬name < other := by
  intro before
  obtain ⟨firstLeast, _⟩ := List.pairwise_cons.mp ordered
  have absent : get? name ((other, value) :: rest) = none := by
    apply get?_of_lt
    rw [List.forall_mem_cons]
    exact ⟨before, fun field member => String.lt_trans before (firstLeast field member)⟩
  exact nomatch absent.symm.trans isField

/-- Fields in order are told apart by their values. -/
theorem eq_of_get?
    {left right : List (String × α)}
    (leftOrdered : Ordered left)
    (rightOrdered : Ordered right)
    (same : ∀ name, get? name left = get? name right) :
    left = right := by
  induction left generalizing right with
  | nil =>
      cases right with
      | nil =>
          rfl
      | cons field right =>
          exact nomatch (same field.1).trans (get?_first field.1 field.2 right)
  | cons field left inductionHypothesis =>
      obtain ⟨name, value⟩ := field
      cases right with
      | nil =>
          exact nomatch (get?_first name value left).symm.trans (same name)
      | cons field right =>
          obtain ⟨other, otherValue⟩ := field
          have inRight : get? name ((other, otherValue) :: right) = some value :=
            (same name).symm.trans (get?_first name value left)
          have inLeft : get? other ((name, value) :: left) = some otherValue :=
            (same other).trans (get?_first other otherValue right)
          have sameName : name = other :=
            String.le_antisymm
              (String.not_lt.mp (not_lt_first leftOrdered inLeft))
              (String.not_lt.mp (not_lt_first rightOrdered inRight))
          subst sameName
          have sameValue : value = otherValue := by
            rw [get?_first] at inRight
            exact (Option.some.inj inRight).symm
          obtain ⟨leftLeast, leftRest⟩ := List.pairwise_cons.mp leftOrdered
          obtain ⟨rightLeast, rightRest⟩ := List.pairwise_cons.mp rightOrdered
          have sameRest : left = right := by
            refine inductionHypothesis leftRest rightRest fun asked => ?_
            by_cases isFirst : asked = name
            · rw [isFirst, get?_of_lt leftLeast, get?_of_lt rightLeast]
            · simpa [get?, isFirst] using same asked
          rw [sameValue, sameRest]

end Fields

namespace Attributes

theorem ext_get?
    {left right : Attributes}
    (same : ∀ name, left.get? name = right.get? name) :
    left = right := by
  obtain ⟨leftFields, leftOrdered⟩ := left
  obtain ⟨rightFields, rightOrdered⟩ := right
  congr 1
  exact Fields.eq_of_get? leftOrdered rightOrdered same

end Attributes

namespace Element

@[simp]
theorem attribute?_setAttribute_self
    (element : Element)
    (name value : String) :
    (element.setAttribute name value).attribute? name = some value :=
  element.attributes.get?_set_self name value

theorem attribute?_setAttribute_of_ne
    (element : Element)
    {name written : String}
    (different : name ≠ written)
    (value : String) :
    (element.setAttribute written value).attribute? name = element.attribute? name :=
  element.attributes.get?_set_of_ne different value

@[simp]
theorem attribute?_removeAttribute_self
    (element : Element)
    (name : String) :
    (element.removeAttribute name).attribute? name = none :=
  element.attributes.get?_erase_self name

theorem attribute?_removeAttribute_of_ne
    (element : Element)
    {name removed : String}
    (different : name ≠ removed) :
    (element.removeAttribute removed).attribute? name = element.attribute? name :=
  element.attributes.get?_erase_of_ne different

@[simp]
theorem attribute?_setText
    (element : Element)
    (text name : String) :
    (element.setText text).attribute? name = element.attribute? name :=
  rfl

@[simp]
theorem attribute?_setHtml
    (element : Element)
    (html name : String) :
    (element.setHtml html).attribute? name = element.attribute? name :=
  rfl

/-- An element without its attributes. -/
def body (element : Element) : Element :=
  { element with attributes := .empty }

@[simp]
theorem body_setAttribute
    (element : Element)
    (name value : String) :
    (element.setAttribute name value).body = element.body :=
  rfl

@[simp]
theorem body_removeAttribute
    (element : Element)
    (name : String) :
    (element.removeAttribute name).body = element.body :=
  rfl

theorem content_body
    (element : Element) :
    element.body.content = element.content :=
  rfl

theorem isHtml_body
    (element : Element) :
    element.body.isHtml = element.isHtml :=
  rfl

theorem tag_body
    (element : Element) :
    element.body.tag = element.tag :=
  rfl

theorem children_body
    (element : Element) :
    element.body.children = element.children :=
  rfl

theorem removed_body
    (element : Element) :
    element.body.removed = element.removed :=
  rfl

theorem body_eq
    {left right : Element}
    (sameTag : left.tag = right.tag)
    (sameContent : left.content = right.content)
    (sameMarkup : left.isHtml = right.isHtml)
    (sameChildren : left.children = right.children)
    (sameRemoved : left.removed = right.removed) :
    left.body = right.body := by
  simp only [body, sameTag, sameContent, sameMarkup, sameChildren, sameRemoved]

/-- Two elements that differ in one attribute at most. -/
structure SameBut
    (name : String)
    (left right : Element) : Prop where
  elsewhere :
    ∀ other, other ≠ name → left.attribute? other = right.attribute? other
  body :
    left.body = right.body

namespace SameBut

theorem refl
    (name : String)
    (element : Element) :
    SameBut name element element where
  elsewhere _ _ :=
    rfl
  body :=
    rfl

theorem trans
    {name : String}
    {first second third : Element}
    (left : SameBut name first second)
    (right : SameBut name second third) :
    SameBut name first third where
  elsewhere other different :=
    (left.elsewhere other different).trans (right.elsewhere other different)
  body :=
    left.body.trans right.body

theorem symm
    {name : String}
    {left right : Element}
    (same : SameBut name left right) :
    SameBut name right left where
  elsewhere other different :=
    (same.elsewhere other different).symm
  body :=
    same.body.symm

theorem setAttribute
    (element : Element)
    (name value : String) :
    SameBut name (element.setAttribute name value) element where
  elsewhere _ different :=
    element.attribute?_setAttribute_of_ne different value
  body :=
    rfl

theorem removeAttribute
    (element : Element)
    (name : String) :
    SameBut name (element.removeAttribute name) element where
  elsewhere _ different :=
    element.attribute?_removeAttribute_of_ne different
  body :=
    rfl

theorem content
    {name : String}
    {left right : Element}
    (same : SameBut name left right) :
    left.content = right.content :=
  (congrArg Element.content same.body :)

/-- Elements that differ in one attribute at most are equal if they have it in
common. -/
theorem eq
    {name : String}
    {left right : Element}
    (same : SameBut name left right)
    (common : left.attribute? name = right.attribute? name) :
    left = right := by
  have sameAttributes : left.attributes = right.attributes := by
    apply Attributes.ext_get?
    intro other
    by_cases isName : other = name
    · exact isName ▸ common
    · exact same.elsewhere other isName
  have sameBody := same.body
  obtain ⟨tag, attributes, content, isHtml, children, removed⟩ := left
  obtain ⟨_, _, _, _, _, _⟩ := right
  simp only [Element.body, Element.mk.injEq, true_and] at sameBody sameAttributes ⊢
  exact ⟨sameBody.1, sameAttributes, sameBody.2⟩

end SameBut

/-!
## Classes
-/

theorem addClass_sameBut
    (element : Element)
    (name : String) :
    SameBut classAttribute (element.addClass name) element := by
  unfold addClass
  split
  · exact .refl _ _
  · exact .setAttribute _ _ _

theorem removeClass_sameBut
    (element : Element)
    (name : String) :
    SameBut classAttribute (element.removeClass name) element := by
  unfold removeClass
  split
  · dsimp only
    split
    · exact .removeAttribute _ _
    · exact .setAttribute _ _ _
  · exact .refl _ _

theorem putClass_sameBut
    (element : Element)
    (name : String)
    (present : Bool) :
    SameBut classAttribute (element.putClass name present) element := by
  cases present with
  | true =>
      exact element.addClass_sameBut name
  | false =>
      exact element.removeClass_sameBut name

end Element

namespace Settings

open Element

theorem putListedClass_sameBut
    (present : Bool)
    (element : Element)
    (listed : String) :
    SameBut classAttribute (putListedClass present element listed) element := by
  unfold putListedClass
  split
  · exact element.putClass_sameBut _ _
  · exact element.putClass_sameBut _ _

theorem applyClasses_sameBut
    (present : Bool)
    (parameter : String)
    (element : Element) :
    SameBut classAttribute (applyClasses present parameter element) element := by
  unfold applyClasses
  generalize listedClasses parameter = listed
  induction listed generalizing element with
  | nil =>
      exact .refl _ _
  | cons name listed inductionHypothesis =>
      exact (inductionHypothesis _).trans (putListedClass_sameBut present element name)

theorem applyToggle_sameBut
    (settings : Settings)
    (shown : Bool)
    (element : Element) :
    SameBut classAttribute (settings.applyToggle shown element) element := by
  unfold applyToggle
  split
  · exact .refl _ _
  · split
    · exact element.addClass_sameBut _
    · exact (addClass_sameBut _ _).trans (element.removeClass_sameBut _)

end Settings

end DataBinding

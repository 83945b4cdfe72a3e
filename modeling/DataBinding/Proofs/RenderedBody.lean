import DataBinding.Proofs.CommandReach

namespace DataBinding

/-!
# What a render makes of the rest of an element

Besides attributes, commands change the children of a selection and whether the
content is markup.  In both the last command that has something to say decides.
-/

namespace Settings

theorem selectOption_sameBut
    (wanted : String)
    (child : Element) :
    Element.SameBut "selected" (selectOption wanted child) child := by
  unfold selectOption
  split
  · split
    · exact .setAttribute _ _ _
    · exact .removeAttribute _ _
  · exact .refl _ _

theorem attribute?_selectOption
    (wanted : String)
    (child : Element) :
    (selectOption wanted child).attribute? "selected" =
      if child.hasTag "option" then
        if optionValue child = wanted then some "selected" else none
      else
        child.attribute? "selected" := by
  unfold selectOption
  split
  · split
    · exact child.attribute?_setAttribute_self _ _
    · exact child.attribute?_removeAttribute_self _
  · rfl

/-- Marking an option again forgets the first mark. -/
theorem selectOption_selectOption
    (first second : String)
    (child : Element) :
    selectOption second (selectOption first child) = selectOption second child := by
  have marked := selectOption_sameBut first child
  have sameTag : (selectOption first child).hasTag "option" = child.hasTag "option" := by
    have tags : (selectOption first child).tag = child.tag :=
      (congrArg Element.tag marked.body :)
    rw [Element.hasTag, tags, Element.hasTag]
  have sameValue : optionValue (selectOption first child) = optionValue child := by
    rw [optionValue, marked.elsewhere "value" (by decide), marked.content, optionValue]
  refine (((selectOption_sameBut second _).trans marked).trans
    (selectOption_sameBut second child).symm).eq ?_
  rw [attribute?_selectOption, sameTag, sameValue, attribute?_selectOption second child,
    attribute?_selectOption first child]
  split <;> rfl

/-- The option that a command selects. -/
def selected?
    (isSelect : Bool)
    (command : Command) : Option String :=
  match command.action with
  | .value => if isSelect then some command.value.display else none
  | _ => none

/-- Whether a command makes the content markup, if it makes any content. -/
def markup?
    (isTextarea : Bool)
    (command : Command) : Option Bool :=
  match command.action with
  | .text => some false
  | .html => some true
  | .value => if isTextarea then some false else none
  | _ => none

section Bodies

variable
  (body : Element)
  (command : Command)
  (commands : List Command)

theorem removed_bodyAfter :
    (bodyAfter body command).removed = body.removed := by
  unfold bodyAfter
  split
  · rfl
  · rfl
  · split
    · rfl
    · split <;> rfl
  · rfl

theorem children_bodyAfter :
    (bodyAfter body command).children =
      (selected? (body.hasTag "select") command).elim body.children
        fun wanted => body.children.map (selectOption wanted) := by
  unfold bodyAfter selected?
  cases command.action with
  | value =>
      dsimp only
      split
      · rfl
      · split <;> rfl
  | _ =>
      rfl

theorem isHtml_bodyAfter :
    (bodyAfter body command).isHtml =
      (markup? (body.hasTag "textarea") command).getD body.isHtml := by
  unfold bodyAfter markup?
  cases command.action with
  | value =>
      dsimp only
      by_cases isSelect : body.hasTag "select" = true
      · have notTextarea : body.hasTag "textarea" = false :=
          hasTag_eq_false (by decide) isSelect
        simp only [isSelect, notTextarea, Bool.false_eq_true, ↓reduceIte]
        rfl
      · simp only [isSelect, Bool.false_eq_true, ↓reduceIte]
        split <;> rfl
  | _ =>
      rfl

theorem tag_foldl_bodyAfter :
    (commands.foldl bodyAfter body).tag = body.tag := by
  induction commands generalizing body with
  | nil =>
      rfl
  | cons command commands inductionHypothesis =>
      rw [List.foldl_cons, inductionHypothesis, tag_bodyAfter]

theorem hasTag_foldl_bodyAfter
    (tag : String) :
    (commands.foldl bodyAfter body).hasTag tag = body.hasTag tag := by
  rw [Element.hasTag, tag_foldl_bodyAfter, Element.hasTag]

theorem removed_foldl_bodyAfter :
    (commands.foldl bodyAfter body).removed = body.removed := by
  induction commands generalizing body with
  | nil =>
      rfl
  | cons command commands inductionHypothesis =>
      rw [List.foldl_cons, inductionHypothesis, removed_bodyAfter]

/-- Of all selections the last one counts. -/
theorem children_foldl_bodyAfter :
    (commands.foldl bodyAfter body).children =
      (commands.filterMap (selected? (body.hasTag "select"))).getLast?.elim body.children
        fun wanted => body.children.map (selectOption wanted) := by
  induction commands using List.reverseRecOn with
  | nil =>
      rfl
  | append_singleton commands last inductionHypothesis =>
      rw [List.foldl_append, List.foldl_cons, List.foldl_nil, children_bodyAfter,
        inductionHypothesis, hasTag_foldl_bodyAfter, List.filterMap_append,
        List.getLast?_append]
      cases selects : selected? (body.hasTag "select") last with
      | none =>
          simp [selects]
      | some wanted =>
          cases (commands.filterMap (selected? (body.hasTag "select"))).getLast? <;>
            simp [selects, selectOption_selectOption]

/-- The last command that makes content decides whether it is markup. -/
theorem isHtml_foldl_bodyAfter :
    (commands.foldl bodyAfter body).isHtml =
      (commands.filterMap (markup? (body.hasTag "textarea"))).getLast?.getD
        body.isHtml := by
  induction commands using List.reverseRecOn with
  | nil =>
      rfl
  | append_singleton commands last inductionHypothesis =>
      rw [List.foldl_append, List.foldl_cons, List.foldl_nil, isHtml_bodyAfter,
        inductionHypothesis, hasTag_foldl_bodyAfter, List.filterMap_append,
        List.getLast?_append]
      cases decided : markup? (body.hasTag "textarea") last <;> simp [decided]

end Bodies

/-!
## The whole render
-/

section Rendered

variable
  (settings : Settings)
  (commands : List Command)
  (element : Element)

theorem body_rendered :
    (settings.rendered commands element).body =
      (commands.foldl bodyAfter (settings.restore element).body).markRemoved
        (commands.any Command.removes) := by
  rw [← settings.body_applyAll]
  rfl

theorem hasTag_body_restore
    (tag : String) :
    (settings.restore element).body.hasTag tag = element.hasTag tag := by
  rw [Element.hasTag, Element.tag_body, settings.tag_restore, Element.hasTag]

theorem tag_rendered :
    (settings.rendered commands element).tag = element.tag := by
  rw [← Element.tag_body, body_rendered, Element.tag_markRemoved, tag_foldl_bodyAfter,
    Element.tag_body, settings.tag_restore]

theorem hasTag_rendered
    (tag : String) :
    (settings.rendered commands element).hasTag tag = element.hasTag tag := by
  rw [Element.hasTag, tag_rendered, Element.hasTag]

theorem children_rendered :
    (settings.rendered commands element).children =
      (commands.filterMap (selected? (element.hasTag "select"))).getLast?.elim
        element.children fun wanted => element.children.map (selectOption wanted) := by
  rw [← Element.children_body, body_rendered, Element.children_markRemoved,
    children_foldl_bodyAfter, settings.hasTag_body_restore, Element.children_body,
    settings.children_restore]

theorem children_again :
    (settings.rendered commands (settings.rendered commands element)).children =
      (settings.rendered commands element).children := by
  rw [settings.children_rendered, settings.hasTag_rendered, settings.children_rendered]
  cases (commands.filterMap (selected? (element.hasTag "select"))).getLast? with
  | none =>
      rfl
  | some wanted =>
      simp [selectOption_selectOption]

/-- What an element shows is markup if the last command that makes content says so, or
else if it was before and no text is restored. -/
theorem isHtml_rendered :
    (settings.rendered commands element).isHtml =
      (commands.filterMap (markup? (element.hasTag "textarea"))).getLast?.getD
        (element.isHtml && !element.hasAttribute settings.attributes.backup) := by
  rw [← Element.isHtml_body, body_rendered, Element.isHtml_markRemoved,
    isHtml_foldl_bodyAfter, settings.hasTag_body_restore, Element.isHtml_body,
    settings.isHtml_restore]

theorem removed_rendered :
    (settings.rendered commands element).removed =
      (element.removed || commands.any Command.removes) := by
  rw [← Element.removed_body, body_rendered, Element.removed_markRemoved,
    removed_foldl_bodyAfter, Element.removed_body, settings.removed_restore]

end Rendered

end Settings

end DataBinding

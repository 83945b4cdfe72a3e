import DataBinding.Projection.Placeholder
import Mathlib.Data.List.Infix
import Mathlib.Data.List.Induction

namespace DataBinding

/-!
# Places that show templates

The text of an element and each of its attributes is a place that shows
something and may keep a template.  Filling a template for the first time keeps
it, and restoring shows it again.  So a template survives any number of
fillings, and filling a restored place again as before changes nothing.
-/

namespace Placeholder

theorem split?_isSome_iff
    (pattern text : List Char) :
    (split? pattern text).isSome = true ↔ pattern <:+: text := by
  induction text with
  | nil =>
      by_cases empty : pattern = [] <;> simp [split?, empty]
  | cons c rest inductionHypothesis =>
      rw [List.infix_cons_iff, ← inductionHypothesis, ← List.isPrefixOf_iff_prefix]
      by_cases isPrefix : pattern.isPrefixOf (c :: rest) = true <;>
        simp [split?, isPrefix]

theorem occurs_iff
    (pattern text : List Char) :
    occurs pattern text = true ↔ pattern <:+: text :=
  split?_isSome_iff pattern text

/-- A text without the beginning of a placeholder has no placeholder. -/
theorem replace?_eq_none
    {beginning pattern text : List Char}
    (begins : beginning <+: pattern)
    (absent : occurs beginning text = false)
    (replacement : List Char) :
    replace? pattern replacement text = none := by
  have notInfix : ¬pattern <:+: text := by
    intro occursInText
    have present := (occurs_iff beginning text).mpr (begins.isInfix.trans occursInText)
    exact Bool.false_ne_true (absent.symm.trans present)
  have noSplit : split? pattern text = none := by
    rw [← Option.not_isSome_iff_eq_none, split?_isSome_iff]
    exact notInfix
  rw [replace?, noSplit, Option.map_none]

theorem begins_ofVariable
    (path : String) :
    ['$', '\x7b'] <+: ofVariable path :=
  ⟨path.toList ++ ['\x7d'], rfl⟩

theorem begins_encoded_ofVariable
    (path : String) :
    ['%', '2', '4', '%', '7', 'B'] <+: Text.percentEncode (ofVariable path) := by
  refine ⟨Text.percentEncode (path.toList ++ ['\x7d']), ?_⟩
  have split : ofVariable path = ['$', '\x7b'] ++ (path.toList ++ ['\x7d']) :=
    rfl
  have start :
      Text.percentEncode ['$', '\x7b'] = ['%', '2', '4', '%', '7', 'B'] := by
    decide
  rw [split, ← start]
  simp only [Text.percentEncode, Text.utf8, List.flatMap_append]

theorem isTemplate_of_occurs
    {text : String}
    (placeholder : occurs ['$', '\x7b'] text.toList = true) :
    isTemplate text = true := by
  rw [isTemplate, placeholder, Bool.true_or]

theorem ne_empty_of_isTemplate
    {template : String}
    (isTemplate : isTemplate template = true) :
    template ≠ "" := by
  rintro rfl
  exact absurd isTemplate (by decide)

/-- A value replaces a text that is no template. -/
theorem substitute_of_not_template
    {template : String}
    (plain : isTemplate template = false)
    (value : String)
    (path? attribute? : Option String) :
    substitute template value path? attribute? = value := by
  obtain ⟨noVariable, noEncoded⟩ := Bool.or_eq_false_iff.mp plain
  unfold substitute substituteChars
  cases path? with
  | none =>
      exact String.ofList_toList
  | some path =>
      simp [replace?_eq_none (begins_ofVariable path) noVariable,
        replace?_eq_none (begins_encoded_ofVariable path) noEncoded]

end Placeholder

/-- What a place shows, and the template that is kept for it. -/
@[ext]
structure TemplateSlot where
  shown? : Option String
  kept? : Option String

/-- A change of what a place shows. -/
inductive SlotChange where
  /-- Shows a text, or nothing, whatever was there. -/
  | put (text? : Option String)
  /-- Fills a value into the template that is shown. -/
  | fill (value : String) (path? attribute? : Option String)

namespace SlotChange

/-- What a change shows in a place that holds no template. -/
def text? : SlotChange → Option String
  | put text? => text?
  | fill value _ _ => some value

/-- Whether a change brings no new template. -/
def IsPlain (change : SlotChange) : Prop :=
  ∀ text ∈ change.text?, Placeholder.isTemplate text = false

/-- Whether a change fills in a value. -/
def IsFill : SlotChange → Prop
  | put _ => False
  | fill _ _ _ => True

end SlotChange

namespace TemplateSlot

/-- Shows the template that is kept. -/
def restore (slot : TemplateSlot) : TemplateSlot where
  shown? := slot.kept?.or slot.shown?
  kept? := slot.kept?

/-- Makes a change. -/
def change
    (slot : TemplateSlot) :
    SlotChange → TemplateSlot
  | .put text? => { slot with shown? := text? }
  | .fill value path? attribute? =>
      let template := slot.shown?.getD ""
      let result := Placeholder.substitute template value path? attribute?
      { shown? := some result
        kept? :=
          if template ≠ result ∧ template ≠ "" ∧ Placeholder.isTemplate template = true ∧
              slot.kept? = none then
            some template
          else
            slot.kept? }

/-- Makes changes one after the other. -/
def run
    (slot : TemplateSlot)
    (changes : List SlotChange) : TemplateSlot :=
  changes.foldl change slot

theorem run_append
    (slot : TemplateSlot)
    (first second : List SlotChange) :
    slot.run (first ++ second) = (slot.run first).run second := by
  simp [run]

theorem run_concat
    (slot : TemplateSlot)
    (changes : List SlotChange)
    (last : SlotChange) :
    slot.run (changes ++ [last]) = (slot.run changes).change last := by
  simp [run]

/-- What is shown in the end does not depend on what is kept. -/
theorem shown?_run
    {left right : TemplateSlot}
    (same : left.shown? = right.shown?)
    (changes : List SlotChange) :
    (left.run changes).shown? = (right.run changes).shown? := by
  induction changes using List.reverseRecOn with
  | nil =>
      exact same
  | append_singleton changes last inductionHypothesis =>
      rw [run_concat, run_concat]
      cases last with
      | put text? =>
          rfl
      | fill value path? attribute? =>
          simp only [change, inductionHypothesis]

/-- What is kept stays. -/
theorem kept?_run
    {slot : TemplateSlot}
    {template : String}
    (kept : slot.kept? = some template)
    (changes : List SlotChange) :
    (slot.run changes).kept? = some template := by
  induction changes using List.reverseRecOn with
  | nil =>
      exact kept
  | append_singleton changes last inductionHypothesis =>
      rw [run_concat]
      cases last with
      | put text? =>
          exact inductionHypothesis
      | fill value path? attribute? =>
          simp [change, inductionHypothesis]

theorem restore_of_kept
    {slot : TemplateSlot}
    {template : String}
    (kept : slot.kept? = some template) :
    slot.restore = ⟨some template, some template⟩ := by
  simp [restore, kept]

/-- Whether restoring a place shows a template. -/
def Holds
    (slot : TemplateSlot)
    (template : String) : Prop :=
  slot.restore.shown? = some template

@[simp]
theorem restore_restore
    (slot : TemplateSlot) :
    slot.restore.restore = slot.restore := by
  obtain ⟨shown?, kept?⟩ := slot
  cases kept? <;> rfl

/-- Filling a template does not lose it. -/
theorem Holds.change
    {slot : TemplateSlot}
    {template : String}
    (isTemplate : Placeholder.isTemplate template = true)
    (holds : slot.Holds template)
    {change : SlotChange}
    (fills : change.IsFill) :
    (slot.change change).Holds template := by
  have notEmpty := Placeholder.ne_empty_of_isTemplate isTemplate
  cases change with
  | put text? =>
      exact fills.elim
  | fill value path? attribute? =>
      obtain ⟨shown?, kept?⟩ := slot
      cases kept? with
      | some kept =>
          simpa [Holds, TemplateSlot.change, restore] using holds
      | none =>
          have shown : shown? = some template := by
            simpa [Holds, restore] using holds
          by_cases unchanged :
              template = Placeholder.substitute template value path? attribute?
          · simp [Holds, TemplateSlot.change, restore, shown, ← unchanged]
          · simp [Holds, TemplateSlot.change, restore, shown, unchanged, notEmpty,
              isTemplate]

theorem Holds.run
    {slot : TemplateSlot}
    {template : String}
    (isTemplate : Placeholder.isTemplate template = true)
    (holds : slot.Holds template)
    {changes : List SlotChange}
    (fill : ∀ change ∈ changes, change.IsFill) :
    (slot.run changes).Holds template := by
  induction changes using List.reverseRecOn with
  | nil =>
      exact holds
  | append_singleton changes last inductionHypothesis =>
      rw [run_concat]
      refine (inductionHypothesis ?_).change isTemplate (fill last (by simp))
      exact fun change member => fill change (by simp [member])

theorem Holds.restore
    {slot : TemplateSlot}
    {template : String}
    (holds : slot.Holds template) :
    slot.restore.Holds template := by
  rw [Holds, restore_restore]
  exact holds

/-!
## Running again
-/

/-- On a place that shows no template, a change does the same whatever is shown. -/
theorem change_of_plain
    {text? : Option String}
    (plainText : ∀ text ∈ text?, Placeholder.isTemplate text = false)
    (change : SlotChange) :
    TemplateSlot.change ⟨text?, none⟩ change = ⟨change.text?, none⟩ := by
  cases change with
  | put other? =>
      rfl
  | fill value path? attribute? =>
      have noTemplate : Placeholder.isTemplate (text?.getD "") = false := by
        cases text? with
        | none =>
            decide
        | some text =>
            exact plainText text rfl
      simp [TemplateSlot.change, SlotChange.text?, noTemplate,
        Placeholder.substitute_of_not_template noTemplate]

/-- A change either leaves a place as it is, or keeps what it shows as a template,
or does the same whatever is shown. -/
theorem change_cases
    (text? : Option String)
    (change : SlotChange) :
    TemplateSlot.change ⟨text?, none⟩ change = ⟨text?, none⟩ ∨
      (∃ template, text? = some template ∧
        (TemplateSlot.change ⟨text?, none⟩ change).kept? = some template) ∨
      TemplateSlot.change ⟨text?, none⟩ change = ⟨change.text?, none⟩ := by
  by_cases plainText : ∀ text ∈ text?, Placeholder.isTemplate text = false
  · exact Or.inr (Or.inr (change_of_plain plainText change))
  · obtain ⟨template, rfl, isTemplate⟩ :
        ∃ template, text? = some template ∧ Placeholder.isTemplate template = true := by
      simpa using plainText
    have notEmpty := Placeholder.ne_empty_of_isTemplate isTemplate
    cases change with
    | put other? =>
        exact Or.inr (Or.inr rfl)
    | fill value path? attribute? =>
        by_cases unchanged :
            template = Placeholder.substitute template value path? attribute?
        · left
          simp [TemplateSlot.change, ← unchanged]
        · right
          left
          exact ⟨template, rfl,
            by simp [TemplateSlot.change, unchanged, notEmpty, isTemplate]⟩

section RunAgain

variable
  {changes : List SlotChange}
  (plain : ∀ change ∈ changes, change.IsPlain)

include plain

/-- A place without templates shows in the end what the last change says. -/
theorem run_of_plain
    {text? : Option String}
    (plainText : ∀ text ∈ text?, Placeholder.isTemplate text = false) :
    run ⟨text?, none⟩ changes =
      ⟨(changes.getLast?.map SlotChange.text?).getD text?, none⟩ := by
  induction changes generalizing text? with
  | nil =>
      rfl
  | cons first rest inductionHypothesis =>
      obtain ⟨plainFirst, plainRest⟩ := List.forall_mem_cons.mp plain
      have step : run ⟨text?, none⟩ (first :: rest) = run ⟨first.text?, none⟩ rest := by
        rw [run, List.foldl_cons, change_of_plain plainText, ← run]
      rw [step, inductionHypothesis plainRest plainFirst, List.getLast?_cons]
      cases rest.getLast? <;> rfl

/-- What the changes make of a place for which nothing is kept. -/
theorem run_cases
    (text? : Option String) :
    run ⟨text?, none⟩ changes = ⟨text?, none⟩ ∨
      (∃ template, text? = some template ∧
        (run ⟨text?, none⟩ changes).kept? = some template) ∨
      ∃ last, changes.getLast? = some last ∧
        run ⟨text?, none⟩ changes = ⟨last.text?, none⟩ := by
  induction changes with
  | nil =>
      exact Or.inl rfl
  | cons first rest inductionHypothesis =>
      obtain ⟨plainFirst, plainRest⟩ := List.forall_mem_cons.mp plain
      have step :
          run ⟨text?, none⟩ (first :: rest) =
            (TemplateSlot.change ⟨text?, none⟩ first).run rest :=
        rfl
      rcases change_cases text? first with unchanged | ⟨template, shown, kept⟩ | changed
      · rw [step, unchanged]
        rcases inductionHypothesis plainRest with same | isKept | ⟨last, isLast, reached⟩
        · exact Or.inl same
        · exact Or.inr (Or.inl isKept)
        · exact Or.inr (Or.inr ⟨last, by simp [List.getLast?_cons, isLast], reached⟩)
      · exact Or.inr (Or.inl ⟨template, shown, kept?_run kept rest⟩)
      · rw [step, changed, run_of_plain plainRest plainFirst, List.getLast?_cons]
        refine Or.inr (Or.inr ⟨rest.getLast?.getD first, rfl, ?_⟩)
        cases rest.getLast? <;> rfl

/-- Running the changes again on the restored place changes nothing. -/
theorem run_restore_run
    {slot : TemplateSlot}
    (restored : slot.restore = slot) :
    (slot.run changes).restore.run changes = slot.run changes := by
  obtain ⟨shown?, kept?⟩ := slot
  cases kept? with
  | some template =>
      have kept : (run ⟨shown?, some template⟩ changes).kept? = some template :=
        kept?_run rfl changes
      rw [restore_of_kept kept, ← restored, restore_of_kept rfl]
  | none =>
      rcases run_cases plain shown? with
        same | ⟨template, shown, kept⟩ | ⟨last, isLast, reached⟩
      · rw [same]
        exact same
      · rw [restore_of_kept kept]
        ext1
        · exact shown?_run shown.symm changes
        · rw [kept, kept?_run rfl]
      · have plainLast := plain last (List.mem_of_getLast? isLast)
        have again : restore ⟨last.text?, none⟩ = ⟨last.text?, none⟩ :=
          rfl
        rw [reached, again, run_of_plain plain plainLast, isLast]
        rfl

end RunAgain

end TemplateSlot

end DataBinding

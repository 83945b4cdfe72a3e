import DataBinding.Repeat.EditPlan

namespace DataBinding

/-!
# Edit plans are edit scripts

A plan is an edit script when it walks both lists from front to back and leaves
nothing out: each step deals with the next instance, or places the next item, or
does both at once for an instance and an item of one key.  `Edit.Turns` is this
walk.  Reading the plan through its items gives the current items, and reading
it through its instances gives the previous ones, whatever keys repeat.
-/

namespace Edit

/--
A plan that turns previous instances into ones for current items, step by step
from the front of both lists.
-/
inductive Turns :
    List (κ × ι) → List (κ × τ) → List (Edit ι τ) → Prop where
  | done :
      Turns [] [] []
  | reuse
      (key : κ)
      (kept : ι)
      (item : τ)
      {previous : List (κ × ι)}
      {current : List (κ × τ)}
      {plan : List (Edit ι τ)} :
      Turns previous current plan →
      Turns ((key, kept) :: previous) ((key, item) :: current)
        (.reuse kept item :: plan)
  | add
      (key : κ)
      (item : τ)
      {previous : List (κ × ι)}
      {current : List (κ × τ)}
      {plan : List (Edit ι τ)} :
      Turns previous current plan →
      Turns previous ((key, item) :: current) (.add item :: plan)
  | remove
      (key : κ)
      (discarded : ι)
      {previous : List (κ × ι)}
      {current : List (κ × τ)}
      {plan : List (Edit ι τ)} :
      Turns previous current plan →
      Turns ((key, discarded) :: previous) current (.remove discarded :: plan)

namespace Turns

theorem items
    {previous : List (κ × ι)}
    {current : List (κ × τ)}
    {plan : List (Edit ι τ)}
    (turns : Turns previous current plan) :
    plan.filterMap Edit.item? = current.map Prod.snd := by
  induction turns with
  | done =>
      rfl
  | reuse key kept item _ inductionHypothesis =>
      simp [Edit.item?, inductionHypothesis]
  | add key item _ inductionHypothesis =>
      simp [Edit.item?, inductionHypothesis]
  | remove key discarded _ inductionHypothesis =>
      simpa [Edit.item?, List.filterMap_cons] using inductionHypothesis

theorem instances
    {previous : List (κ × ι)}
    {current : List (κ × τ)}
    {plan : List (Edit ι τ)}
    (turns : Turns previous current plan) :
    plan.filterMap Edit.instance? = previous.map Prod.snd := by
  induction turns with
  | done =>
      rfl
  | reuse key kept item _ inductionHypothesis =>
      simp [Edit.instance?, inductionHypothesis]
  | add key item _ inductionHypothesis =>
      simpa [Edit.instance?, List.filterMap_cons] using inductionHypothesis
  | remove key discarded _ inductionHypothesis =>
      simp [Edit.instance?, inductionHypothesis]

/-- Every item is reused for or added. -/
theorem countP_isReuse_add_isAdd
    {previous : List (κ × ι)}
    {current : List (κ × τ)}
    {plan : List (Edit ι τ)}
    (turns : Turns previous current plan) :
    plan.countP isReuse + plan.countP isAdd = current.length := by
  induction turns with
  | done =>
      rfl
  | reuse key kept item _ inductionHypothesis =>
      simp only [List.countP_cons, List.length_cons, isReuse, isAdd, ↓reduceIte,
        Bool.false_eq_true]
      omega
  | add key item _ inductionHypothesis =>
      simp only [List.countP_cons, List.length_cons, isReuse, isAdd, ↓reduceIte,
        Bool.false_eq_true]
      omega
  | remove key discarded _ inductionHypothesis =>
      simpa [List.countP_cons, isReuse, isAdd] using inductionHypothesis

/-- Every instance is reused or removed. -/
theorem countP_isReuse_add_isRemove
    {previous : List (κ × ι)}
    {current : List (κ × τ)}
    {plan : List (Edit ι τ)}
    (turns : Turns previous current plan) :
    plan.countP isReuse + plan.countP isRemove = previous.length := by
  induction turns with
  | done =>
      rfl
  | reuse key kept item _ inductionHypothesis =>
      simp only [List.countP_cons, List.length_cons, isReuse, isRemove, ↓reduceIte,
        Bool.false_eq_true]
      omega
  | add key item _ inductionHypothesis =>
      simpa [List.countP_cons, isReuse, isRemove] using inductionHypothesis
  | remove key discarded _ inductionHypothesis =>
      simp only [List.countP_cons, List.length_cons, isReuse, isRemove, ↓reduceIte,
        Bool.false_eq_true]
      omega

/--
Behind any first steps of a plan, the remaining steps turn what these have left
of the instances into what they have left of the items.
-/
theorem drop
    {previous : List (κ × ι)}
    {current : List (κ × τ)}
    (before : List (Edit ι τ))
    {after : List (Edit ι τ)}
    (turns : Turns previous current (before ++ after)) :
    Turns
      (previous.drop (before.filterMap Edit.instance?).length)
      (current.drop (before.filterMap Edit.item?).length)
      after := by
  induction before generalizing previous current with
  | nil =>
      simpa using turns
  | cons step before inductionHypothesis =>
      cases turns with
      | reuse key kept item rest =>
          simpa [Edit.instance?, Edit.item?, List.filterMap_cons] using
            inductionHypothesis rest
      | add key item rest =>
          simpa [Edit.instance?, Edit.item?, List.filterMap_cons] using
            inductionHypothesis rest
      | remove key discarded rest =>
          simpa [Edit.instance?, Edit.item?, List.filterMap_cons] using
            inductionHypothesis rest

/--
The instance and the item of a reusing step stand in their lists behind those
that the steps before it deal with, under one key.
-/
theorem reuse_key
    {previous : List (κ × ι)}
    {current : List (κ × τ)}
    {before after : List (Edit ι τ)}
    {kept : ι}
    {item : τ}
    (turns : Turns previous current (before ++ .reuse kept item :: after)) :
    ∃ key,
      previous[(before.filterMap Edit.instance?).length]? = some (key, kept) ∧
        current[(before.filterMap Edit.item?).length]? = some (key, item) := by
  have left := turns.drop before
  generalize previousLeft :
    previous.drop (before.filterMap Edit.instance?).length = instancesLeft at left
  generalize currentLeft :
    current.drop (before.filterMap Edit.item?).length = itemsLeft at left
  cases left with
  | reuse key _ _ _ =>
      refine ⟨key, ?_, ?_⟩
      · rw [← List.head?_drop, previousLeft, List.head?_cons]
      · rw [← List.head?_drop, currentLeft, List.head?_cons]

end Turns

/--
A plan is an edit script when it places the current items and deals with the
previous instances, each once and in order, and reuses an instance only for an
item of its key.
-/
structure IsScript
    (previous : List (κ × ι))
    (current : List (κ × τ))
    (plan : List (Edit ι τ)) : Prop where
  itemsPlaced :
    plan.filterMap Edit.item? = current.map Prod.snd
  instancesDealtWith :
    plan.filterMap Edit.instance? = previous.map Prod.snd
  reuseKeepsKey :
    ∀ before kept item after,
      plan = before ++ .reuse kept item :: after →
      ∃ key,
        previous[(before.filterMap Edit.instance?).length]? = some (key, kept) ∧
          current[(before.filterMap Edit.item?).length]? = some (key, item)

end Edit

/-- The plan walks both lists whatever keys it meets. -/
theorem editPlan_turns
    [DecidableEq κ]
    (previous : List (κ × ι))
    (current : List (κ × τ)) :
    Edit.Turns previous current (editPlan previous current) := by
  fun_induction editPlan previous current with
  | case1 =>
      exact .done
  | case2 key item items inductionHypothesis =>
      exact .add key item inductionHypothesis
  | case3 key kept instances inductionHypothesis =>
      exact .remove key kept inductionHypothesis
  | case4 kept instances key item items inductionHypothesis =>
      exact .reuse key kept item inductionHypothesis
  | case5 previousKey kept instances currentKey item items _ _ inductionHypothesis =>
      exact .add currentKey item inductionHypothesis
  | case6 previousKey kept instances currentKey item items _ _ inductionHypothesis =>
      exact .remove previousKey kept inductionHypothesis

/--
The plan from previous instances to current items is an edit script, for lists of
any length and with any keys repeated.
-/
theorem editPlan_isScript
    [DecidableEq κ]
    (previous : List (κ × ι))
    (current : List (κ × τ)) :
    Edit.IsScript previous current (editPlan previous current) where
  itemsPlaced :=
    (editPlan_turns previous current).items
  instancesDealtWith :=
    (editPlan_turns previous current).instances
  reuseKeepsKey before kept item after planShape := by
    have turns := editPlan_turns previous current
    rw [planShape] at turns
    exact turns.reuse_key

end DataBinding

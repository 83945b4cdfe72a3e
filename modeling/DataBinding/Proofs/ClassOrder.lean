import DataBinding.Element.Basic
import Mathlib.Data.List.Infix
import Mathlib.Data.List.Perm.Basic

namespace DataBinding

/-!
# The order of classes

Classes are added behind the others and removed wherever they are.  Running a list
of such changes twice gives the classes of running it once, though perhaps in
another order; running it a third time gives the same order as the second time.
-/

namespace Text

/-- Whether a text has no blanks. -/
def IsSolid (text : String) : Prop :=
  ∀ c ∈ text.toList, isBlank c = false

instance (text : String) : Decidable (IsSolid text) :=
  decidable_of_iff (text.toList.all fun c => !isBlank c) (by simp [IsSolid])

/-- Words are not empty and have no blanks. -/
theorem mem_words
    {text word : String}
    (member : word ∈ words text) :
    word ≠ "" ∧ IsSolid word := by
  obtain ⟨isPiece, notEmpty⟩ := List.mem_filter.mp member
  obtain ⟨piece, inPieces, rfl⟩ := List.mem_map.mp isPiece
  refine ⟨by simpa using notEmpty, ?_⟩
  intro c inWord
  rw [String.toList_ofList] at inWord
  exact (mem_of_mem_splitOnP inPieces inWord).2

theorem words_singleton
    {word : String}
    (notEmpty : word ≠ "")
    (solid : IsSolid word) :
    words word = [word] := by
  simp [words, fieldsBy, pieces, List.splitOnP_eq_singleton solid, notEmpty]

theorem words_append
    (first second : String) :
    words (first ++ " " ++ second) = words first ++ words second := by
  have separated :
      (first ++ " " ++ second).toList = first.toList ++ ' ' :: second.toList := by
    simp
  have blank : isBlank ' ' = true := by
    decide
  simp only [words, fieldsBy, pieces, separated, List.splitOnP_append_cons _ _ blank,
    List.map_append, List.filter_append]

/-- The words of texts between single spaces are the words of all the texts. -/
theorem words_intercalate
    (texts : List String) :
    words (String.intercalate " " texts) = texts.flatMap words := by
  induction texts with
  | nil =>
      rfl
  | cons first rest inductionHypothesis =>
      cases rest with
      | nil =>
          rw [String.intercalate_singleton, List.flatMap_singleton]
      | cons second others =>
          rw [String.intercalate_cons_cons, words_append, List.flatMap_cons,
            inductionHypothesis]

/-- Words are their own words. -/
theorem flatMap_words
    {names : List String}
    (areWords : ∀ name ∈ names, name ≠ "" ∧ IsSolid name) :
    names.flatMap words = names := by
  induction names with
  | nil =>
      rfl
  | cons first rest inductionHypothesis =>
      obtain ⟨firstWord, restWords⟩ := List.forall_mem_cons.mp areWords
      rw [List.flatMap_cons, words_singleton firstWord.1 firstWord.2,
        inductionHypothesis restWords, List.singleton_append]

end Text

/-- A change of the classes of an element. -/
inductive ClassChange where
  | add (name : String)
  | remove (name : String)
  deriving Repr, DecidableEq

namespace ClassChange

/-- The class that a change adds. -/
def added? : ClassChange → Option String
  | add name => some name
  | remove _ => none

/-- The class that a change removes. -/
def removed? : ClassChange → Option String
  | add _ => none
  | remove name => some name

/-- The classes that changes add. -/
def added (changes : List ClassChange) : List String :=
  changes.filterMap added?

/-- The classes that changes remove. -/
def removed (changes : List ClassChange) : List String :=
  changes.filterMap removed?

/-- Makes a change on the classes of an element. -/
def apply
    (names : List String) :
    ClassChange → List String
  | add name =>
      if name = "" ∨ name ∈ names then
        names
      else
        names ++ [name]
  | remove name =>
      names.filter fun other => other ≠ name

/-- Makes changes one after the other. -/
def run
    (changes : List ClassChange)
    (names : List String) : List String :=
  changes.foldl apply names

section Steps

variable
  (name : String)
  (changes : List ClassChange)

@[simp]
theorem removed_nil :
    removed [] = [] :=
  rfl

@[simp]
theorem removed_add :
    removed (.add name :: changes) = removed changes :=
  rfl

@[simp]
theorem removed_remove :
    removed (.remove name :: changes) = name :: removed changes :=
  rfl

@[simp]
theorem added_nil :
    added [] = [] :=
  rfl

@[simp]
theorem added_add :
    added (.add name :: changes) = name :: added changes :=
  rfl

@[simp]
theorem added_remove :
    added (.remove name :: changes) = added changes :=
  rfl

@[simp]
theorem run_nil
    (names : List String) :
    run [] names = names :=
  rfl

@[simp]
theorem run_cons
    (change : ClassChange)
    (names : List String) :
    run (change :: changes) names = run changes (apply names change) :=
  rfl

theorem run_append
    (others : List ClassChange)
    (names : List String) :
    run (changes ++ others) names = run others (run changes names) := by
  simp [run]

end Steps

/-!
## Settling

A run leaves alone the classes that it does not remove, and what it makes of the
others does not depend on where they stood.
-/

theorem mem_apply_add
    {name other : String}
    {names : List String} :
    other ∈ apply names (.add name) ↔ other ∈ names ∨ other = name ∧ name ≠ "" := by
  by_cases there : name = "" ∨ name ∈ names
  · rcases there with rfl | there
    · simp [apply]
    · simp only [apply, there, or_true, ↓reduceIte]
      constructor
      · exact Or.inl
      · rintro (member | ⟨rfl, _⟩)
        · exact member
        · exact there
  · simp_all [apply]

theorem mem_apply_remove
    {name other : String}
    {names : List String} :
    other ∈ apply names (.remove name) ↔ other ∈ names ∧ other ≠ name := by
  simp [apply]

theorem apply_remove_of_not_mem
    {name : String}
    {names : List String}
    (gone : name ∉ names) :
    apply names (.remove name) = names := by
  rw [apply, List.filter_eq_self]
  intro other member
  have different : other ≠ name := by
    rintro rfl
    exact gone member
  simpa using different

/-- Adding a class that is there, or that is not looked at, is not seen. -/
theorem filter_apply_add
    {name : String}
    {names touched : List String}
    (unseen : name ∈ touched ∨ name = "" ∨ name ∈ names) :
    (apply names (.add name)).filter (fun other => other ∉ touched) =
      names.filter fun other => other ∉ touched := by
  by_cases there : name = "" ∨ name ∈ names
  · simp only [apply, there, ↓reduceIte]
  · have isTouched : name ∈ touched :=
      unseen.resolve_right there
    simp [apply, there, List.filter_append, isTouched]

/-- Removing a class that is not looked at is not seen. -/
theorem filter_apply_remove
    {name : String}
    {touched : List String}
    (unseen : name ∈ touched)
    (names : List String) :
    (apply names (.remove name)).filter (fun other => other ∉ touched) =
      names.filter fun other => other ∉ touched := by
  rw [apply, List.filter_filter]
  apply List.filter_congr
  intro other _
  by_cases isTouched : other ∈ touched
  · simp [isTouched]
  · have different : other ≠ name := by
      rintro rfl
      exact isTouched unseen
    simp [isTouched, different]

/-- Runs that agree on the classes which are not to be removed agree in the end. -/
theorem run_eq_of_filter_eq
    {changes : List ClassChange}
    {left right : List String}
    (same :
      left.filter (fun name => name ∉ removed changes) =
        right.filter fun name => name ∉ removed changes) :
    run changes left = run changes right := by
  induction changes generalizing left right with
  | nil =>
      simpa using same
  | cons change changes inductionHypothesis =>
      rw [run_cons, run_cons]
      apply inductionHypothesis
      cases change with
      | add name =>
          rw [removed_add] at same
          by_cases toRemove : name ∈ removed changes
          · rw [filter_apply_add (Or.inl toRemove), filter_apply_add (Or.inl toRemove), same]
          · have together : name ∈ left ↔ name ∈ right := by
              have filtered := congrArg (fun names => name ∈ names) same
              simpa [toRemove] using filtered
            by_cases there : name = "" ∨ name ∈ left
            · have thereToo : name = "" ∨ name ∈ right := by
                rwa [together] at there
              rw [filter_apply_add (Or.inr there), filter_apply_add (Or.inr thereToo), same]
            · have notThere : ¬(name = "" ∨ name ∈ right) := by
                rwa [together] at there
              simp only [apply, there, notThere, ↓reduceIte, List.filter_append, same]
      | remove name =>
          have split :
              ∀ names : List String,
                (apply names (.remove name)).filter (fun other => other ∉ removed changes) =
                  names.filter fun other => other ∉ removed (.remove name :: changes) := by
            intro names
            rw [apply, List.filter_filter]
            simp [Bool.and_comm]
          rw [split, split, same]

/-- Changes keep the classes outside a list which has all that they remove and all
that they newly add. -/
theorem filter_run
    {touched : List String}
    {changes : List ClassChange}
    (removals : ∀ name ∈ removed changes, name ∈ touched)
    {names : List String}
    (additions : ∀ name ∈ added changes, name ∈ touched ∨ name = "" ∨ name ∈ names) :
    (run changes names).filter (fun name => name ∉ touched) =
      names.filter fun name => name ∉ touched := by
  induction changes generalizing names with
  | nil =>
      rfl
  | cons change changes inductionHypothesis =>
      rw [run_cons]
      cases change with
      | add name =>
          rw [added_add, List.forall_mem_cons] at additions
          rw [inductionHypothesis removals, filter_apply_add additions.1]
          intro other isAdded
          refine (additions.2 other isAdded).imp_right (Or.imp_right ?_)
          exact fun member => mem_apply_add.mpr (Or.inl member)
      | remove name =>
          rw [removed_remove, List.forall_mem_cons] at removals
          rw [inductionHypothesis removals.2, filter_apply_remove removals.1]
          intro other isAdded
          by_cases same : other = name
          · exact Or.inl (same ▸ removals.1)
          · refine (additions other isAdded).imp_right (Or.imp_right ?_)
            exact fun member => mem_apply_remove.mpr ⟨member, same⟩

/-!
## Which classes there are in the end
-/

section Membership

variable
  {changes : List ClassChange}
  {name : String}
  {names : List String}

/-- A class stays if it is not removed. -/
theorem mem_run_of_mem
    (lasting : name ∉ removed changes)
    (member : name ∈ names) :
    name ∈ run changes names := by
  induction changes generalizing names with
  | nil =>
      exact member
  | cons change changes inductionHypothesis =>
      cases change with
      | add other =>
          exact inductionHypothesis lasting (mem_apply_add.mpr (Or.inl member))
      | remove other =>
          simp only [removed_remove, List.mem_cons, not_or] at lasting
          exact inductionHypothesis lasting.2 (mem_apply_remove.mpr ⟨member, lasting.1⟩)

/-- A class is there if it is added and not removed. -/
theorem mem_run_of_added
    (isAdded : name ∈ added changes)
    (named : name ≠ "")
    (lasting : name ∉ removed changes) :
    name ∈ run changes names := by
  induction changes generalizing names with
  | nil =>
      exact absurd isAdded List.not_mem_nil
  | cons change changes inductionHypothesis =>
      cases change with
      | add other =>
          rcases List.mem_cons.mp isAdded with rfl | addedLater
          · rw [run_cons]
            exact mem_run_of_mem lasting (mem_apply_add.mpr (Or.inr ⟨rfl, named⟩))
          · exact inductionHypothesis addedLater lasting
      | remove other =>
          simp only [removed_remove, List.mem_cons, not_or] at lasting
          exact inductionHypothesis isAdded lasting.2

/-- A class stays away if it is not added. -/
theorem not_mem_run_of_not_mem
    (notAdded : name ∉ added changes)
    (notMember : name ∉ names) :
    name ∉ run changes names := by
  induction changes generalizing names with
  | nil =>
      exact notMember
  | cons change changes inductionHypothesis =>
      cases change with
      | add other =>
          simp only [added_add, List.mem_cons, not_or] at notAdded
          refine inductionHypothesis notAdded.2 ?_
          rw [mem_apply_add]
          rintro (member | ⟨same, _⟩)
          · exact notMember member
          · exact notAdded.1 same
      | remove other =>
          rw [run_cons]
          refine inductionHypothesis notAdded ?_
          exact fun member => notMember (mem_apply_remove.mp member).1

/-- A class is gone if it is removed and not added. -/
theorem not_mem_run_of_removed
    (isRemoved : name ∈ removed changes)
    (notAdded : name ∉ added changes) :
    name ∉ run changes names := by
  induction changes generalizing names with
  | nil =>
      exact absurd isRemoved List.not_mem_nil
  | cons change changes inductionHypothesis =>
      cases change with
      | add other =>
          simp only [added_add, List.mem_cons, not_or] at notAdded
          exact inductionHypothesis isRemoved notAdded.2
      | remove other =>
          rcases List.mem_cons.mp isRemoved with rfl | removedLater
          · rw [run_cons]
            refine not_mem_run_of_not_mem notAdded ?_
            exact fun member => (mem_apply_remove.mp member).2 rfl
          · exact inductionHypothesis removedLater notAdded

/-- Whether a class is there after a run depends on whether it was there before. -/
theorem mem_run_congr
    {others : List String}
    (same : name ∈ names ↔ name ∈ others) :
    name ∈ run changes names ↔ name ∈ run changes others := by
  induction changes generalizing names others with
  | nil =>
      exact same
  | cons change changes inductionHypothesis =>
      apply inductionHypothesis
      cases change with
      | add other =>
          rw [mem_apply_add, mem_apply_add, same]
      | remove other =>
          rw [mem_apply_remove, mem_apply_remove, same]

/-- Changes do nothing where they have nothing left to do. -/
theorem run_eq_self
    (there : ∀ name ∈ added changes, name = "" ∨ name ∈ names)
    (gone : ∀ name ∈ removed changes, name ∉ names) :
    run changes names = names := by
  induction changes with
  | nil =>
      rfl
  | cons change changes inductionHypothesis =>
      cases change with
      | add other =>
          obtain ⟨thereFirst, thereRest⟩ := List.forall_mem_cons.mp there
          rw [run_cons, apply, if_pos thereFirst, inductionHypothesis thereRest gone]
      | remove other =>
          obtain ⟨goneFirst, goneRest⟩ := List.forall_mem_cons.mp gone
          rw [run_cons, apply_remove_of_not_mem goneFirst, inductionHypothesis there goneRest]

end Membership

/-!
## Running again
-/

/-- The order of the classes settles with the second run. -/
theorem run_run_run
    (changes : List ClassChange)
    (names : List String) :
    run changes (run changes (run changes names)) = run changes (run changes names) := by
  apply run_eq_of_filter_eq
  refine filter_run (fun _ isRemoved => isRemoved) fun name isAdded => ?_
  by_cases isRemoved : name ∈ removed changes
  · exact Or.inl isRemoved
  · by_cases named : name = ""
    · exact Or.inr (Or.inl named)
    · exact Or.inr (Or.inr (mem_run_of_added isAdded named isRemoved))

/-- Whether all classes that are never removed are added before all those that are
also removed. -/
def SettlesAtOnce (changes : List ClassChange) : Prop :=
  ∃ lasting passing,
    changes = lasting ++ passing ∧
      (∀ name ∈ added lasting, name ∉ removed changes) ∧
        ∀ name ∈ added passing, name ∈ removed changes

/-- If lasting classes are added first, the order settles with the first run. -/
theorem run_run_of_settlesAtOnce
    {changes : List ClassChange}
    (settles : SettlesAtOnce changes)
    (names : List String) :
    run changes (run changes names) = run changes names := by
  obtain ⟨lasting, passing, rfl, addedLasting, addedPassing⟩ := settles
  have removedSplit :
      removed (lasting ++ passing) = removed lasting ++ removed passing :=
    List.filterMap_append
  rw [removedSplit] at addedLasting addedPassing
  have lastingAgain : run lasting (run lasting names) = run lasting names := by
    apply run_eq_self
    · intro name isAdded
      have notRemoved : name ∉ removed lasting :=
        fun isRemoved => addedLasting name isAdded (List.mem_append_left _ isRemoved)
      exact or_iff_not_imp_left.mpr fun named =>
        mem_run_of_added isAdded named notRemoved
    · intro name isRemoved
      refine not_mem_run_of_removed isRemoved fun isAdded => ?_
      exact addedLasting name isAdded (List.mem_append_left _ isRemoved)
  have sameLasting :
      (run passing (run lasting names)).filter
          (fun name => name ∉ removed lasting ++ removed passing) =
        (run lasting names).filter fun name => name ∉ removed lasting ++ removed passing :=
    filter_run (fun name isRemoved => List.mem_append_right _ isRemoved)
      fun name isAdded => Or.inl (addedPassing name isAdded)
  calc
    run (lasting ++ passing) (run (lasting ++ passing) names) =
        run (lasting ++ passing) (run passing (run lasting names)) := by
      rw [run_append lasting passing names]
    _ = run (lasting ++ passing) (run lasting names) :=
      run_eq_of_filter_eq (by rw [removedSplit, sameLasting])
    _ = run (lasting ++ passing) names := by
      rw [run_append, lastingAgain, ← run_append]

/-- How often a class is there after a change: as often as before but at least some
number of times, or not at all. -/
theorem count_apply
    (change : ClassChange)
    (name : String) :
    (∃ least, ∀ names, (apply names change).count name = max least (names.count name)) ∨
      ∀ names, (apply names change).count name = 0 := by
  cases change with
  | add other =>
      left
      by_cases isAdded : other = name ∧ name ≠ ""
      · obtain ⟨rfl, named⟩ := isAdded
        refine ⟨1, fun names => ?_⟩
        by_cases member : other ∈ names
        · have positive := List.count_pos_iff.mpr member
          rw [apply, if_pos (Or.inr member)]
          omega
        · rw [apply, if_neg (by simp [named, member]), List.count_append,
            List.count_eq_zero_of_not_mem member, List.count_singleton_self]
          rfl
      · refine ⟨0, fun names => ?_⟩
        rw [apply]
        split
        · simp
        · rename_i notThere
          have different : other ≠ name := by
            rintro rfl
            exact isAdded ⟨rfl, fun unnamed => notThere (Or.inl unnamed)⟩
          simp [List.count_append, different]
  | remove other =>
      by_cases same : other = name
      · right
        intro names
        rw [List.count_eq_zero, mem_apply_remove]
        exact fun both => both.2 same.symm
      · left
        refine ⟨0, fun names => ?_⟩
        rw [apply, List.count_filter (by simpa using Ne.symm same)]
        simp

/-- How often a class is there after a run: as often as before but at least some
number of times, or a fixed number of times. -/
theorem count_run
    (changes : List ClassChange)
    (name : String) :
    (∃ least, ∀ names, (run changes names).count name = max least (names.count name)) ∨
      ∃ number, ∀ names, (run changes names).count name = number := by
  induction changes with
  | nil =>
      exact Or.inl ⟨0, fun names => by simp⟩
  | cons change changes inductionHypothesis =>
      rcases inductionHypothesis with ⟨least, counted⟩ | ⟨number, counted⟩
      · rcases count_apply change name with ⟨before, countedBefore⟩ | countedBefore
        · refine Or.inl ⟨max least before, fun names => ?_⟩
          rw [run_cons, counted, countedBefore, max_assoc]
        · refine Or.inr ⟨least, fun names => ?_⟩
          rw [run_cons, counted, countedBefore, Nat.max_zero]
      · exact Or.inr ⟨number, fun names => by rw [run_cons, counted]⟩

/-- A second run finds the same classes. -/
theorem perm_run_run
    (changes : List ClassChange)
    (names : List String) :
    (run changes (run changes names)).Perm (run changes names) := by
  rw [List.perm_iff_count]
  intro name
  rcases count_run changes name with ⟨least, counted⟩ | ⟨number, counted⟩
  · rw [counted, counted]
    omega
  · rw [counted, counted]

end ClassChange

end DataBinding

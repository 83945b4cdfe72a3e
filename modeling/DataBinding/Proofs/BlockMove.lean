import DataBinding.Proofs.PlanRuns

namespace DataBinding

/-!
# Moving a block

When two neighbouring blocks change places and every key is in the lists once, the plan
gives up one of the blocks and reuses all other instances.  It gives up the shorter one:
until this is dealt with, the keys of the longer one are farther away at every step.  Of
two blocks of one length it gives up the one in front.
-/

section Plans

variable [DecidableEq κ]

/-- Items in front of a longer block of items are added, if no instance of that block has
one of their keys. -/
theorem editPlan_additions_shorter
    {block : List (κ × ι)}
    {run blockItems : List (κ × τ)}
    (agree : block.map Prod.fst = blockItems.map Prod.fst)
    (apart : ∀ key ∈ run.map Prod.fst, key ∉ block.map Prod.fst)
    (shorter : run.length < block.length)
    (previous : List (κ × ι))
    (current : List (κ × τ)) :
    editPlan (block ++ previous) (run ++ (blockItems ++ current)) =
      Edit.additions run ++ editPlan (block ++ previous) (blockItems ++ current) := by
  rcases block with _ | ⟨⟨key, kept⟩, block⟩
  · cases shorter
  rcases blockItems with _ | ⟨⟨itemKey, item⟩, blockItems⟩
  · cases agree
  obtain rfl : key = itemKey := (List.cons.inj agree).1
  simp only [List.cons_append]
  refine editPlan_additions_append ?_ ?_ kept item (blockItems ++ current)
  · exact fun used => apart key used List.mem_cons_self
  · intro other member inFront
    rw [List.take_append_of_le_length (Nat.le_of_lt_succ shorter)] at inFront
    exact apart other member
      (List.mem_cons_of_mem _ (List.map_subset _ (List.take_subset _ _) inFront))

/-- Instances in front of a block that is not shorter are removed, if no item of that block
has one of their keys. -/
theorem editPlan_removals_notLonger
    {run block : List (κ × ι)}
    {blockItems : List (κ × τ)}
    (agree : block.map Prod.fst = blockItems.map Prod.fst)
    (apart : ∀ key ∈ run.map Prod.fst, key ∉ block.map Prod.fst)
    (notLonger : run.length ≤ block.length)
    (previous : List (κ × ι))
    (current : List (κ × τ)) :
    editPlan (run ++ (block ++ previous)) (blockItems ++ current) =
      Edit.removals run ++ editPlan (block ++ previous) (blockItems ++ current) := by
  have sameLength : block.length = blockItems.length := by
    simpa using congrArg List.length agree
  rcases block with _ | ⟨⟨key, kept⟩, block⟩
  · rw [List.length_eq_zero_iff.mp (Nat.le_zero.mp notLonger)]
    rfl
  rcases blockItems with _ | ⟨⟨itemKey, item⟩, blockItems⟩
  · cases agree
  obtain rfl : key = itemKey := (List.cons.inj agree).1
  simp only [List.cons_append]
  refine editPlan_removals_append ?_ ?_ kept item (block ++ previous)
  · exact fun used => apart key used List.mem_cons_self
  · intro other member inFront
    have within : run.length - 1 ≤ blockItems.length := by
      simp only [List.length_cons] at notLonger sameLength
      omega
    rw [List.take_append_of_le_length within] at inFront
    refine apart other member ?_
    rw [agree]
    exact List.mem_cons_of_mem _ (List.map_subset _ (List.take_subset _ _) inFront)

section Blocks

variable
  {first second back : List (κ × ι)}
  {firstItems secondItems backItems : List (κ × τ)}
  (firstAgree : first.map Prod.fst = firstItems.map Prod.fst)
  (secondAgree : second.map Prod.fst = secondItems.map Prod.fst)
  (backAgree : back.map Prod.fst = backItems.map Prod.fst)
  (apart : ∀ key ∈ first.map Prod.fst, key ∉ second.map Prod.fst)

include firstAgree secondAgree backAgree apart

/-- A block that is shorter than the one in front of it is added in its new place and
removed from its old one. -/
theorem editPlan_givesUpSecond
    (apartFromBack : ∀ key ∈ second.map Prod.fst, key ∉ back.map Prod.fst)
    (shorter : second.length < first.length) :
    editPlan (first ++ (second ++ back)) (secondItems ++ (firstItems ++ backItems)) =
      Edit.additions secondItems ++
        (Edit.reusals first firstItems ++
          (Edit.removals second ++ Edit.reusals back backItems)) := by
  have itemsShorter : secondItems.length < first.length := by
    have sameLength := congrArg List.length secondAgree
    simp only [List.length_map] at sameLength
    omega
  have itemsApart : ∀ key ∈ secondItems.map Prod.fst, key ∉ first.map Prod.fst := by
    rw [← secondAgree]
    exact fun key inSecond inFirst => apart key inFirst inSecond
  rw [backAgree] at apartFromBack
  rw [editPlan_additions_shorter firstAgree itemsApart itemsShorter,
    editPlan_append firstAgree, editPlan_removals apartFromBack, editPlan_of_agree backAgree]

/-- A block that is no longer than the one behind it is removed from its old place and
added in its new one. -/
theorem editPlan_givesUpFirst
    (apartFromBack : ∀ key ∈ first.map Prod.fst, key ∉ back.map Prod.fst)
    (notLonger : first.length ≤ second.length) :
    editPlan (first ++ (second ++ back)) (secondItems ++ (firstItems ++ backItems)) =
      Edit.removals first ++
        (Edit.reusals second secondItems ++
          (Edit.additions firstItems ++ Edit.reusals back backItems)) := by
  have itemsApart : ∀ key ∈ firstItems.map Prod.fst, key ∉ back.map Prod.fst := by
    rwa [← firstAgree]
  rw [editPlan_removals_notLonger secondAgree apart notLonger, editPlan_append secondAgree,
    editPlan_additions backAgree itemsApart, editPlan_of_agree backAgree]

end Blocks

/-- The keys that are reused when two neighbouring blocks change places. -/
theorem reusedKeys_contiguousMove
    {previous : List (κ × ι)}
    {current : List (κ × τ)}
    {front first second back : List κ}
    (previousKeys : previous.map Prod.fst = front ++ (first ++ (second ++ back)))
    (currentKeys : current.map Prod.fst = front ++ (second ++ (first ++ back)))
    (distinct : (first ++ (second ++ back)).Nodup) :
    Edit.reusedKeys (editPlan previous current) previous =
      front ++ ((if second.length < first.length then first else second) ++ back) := by
  obtain ⟨front, _, rfl, rfl, behindFront⟩ := List.map_eq_append_iff.mp previousKeys
  obtain ⟨first, _, rfl, rfl, behindFirst⟩ := List.map_eq_append_iff.mp behindFront
  obtain ⟨second, back, rfl, rfl, rfl⟩ := List.map_eq_append_iff.mp behindFirst
  obtain ⟨frontItems, _, rfl, frontAgree, behindFront⟩ := List.map_eq_append_iff.mp currentKeys
  obtain ⟨secondItems, _, rfl, secondAgree, behindSecond⟩ := List.map_eq_append_iff.mp behindFront
  obtain ⟨firstItems, backItems, rfl, firstAgree, backAgree⟩ :=
    List.map_eq_append_iff.mp behindSecond
  obtain ⟨_, restDistinct, firstApart⟩ := List.nodup_append.mp distinct
  obtain ⟨_, _, secondApart⟩ := List.nodup_append.mp restDistinct
  have apart : ∀ key ∈ first.map Prod.fst, key ∉ second.map Prod.fst :=
    fun key inFirst inSecond => firstApart key inFirst key (List.mem_append_left _ inSecond) rfl
  rw [editPlan_append frontAgree.symm, Edit.reusedKeys_reusals_append frontAgree.symm]
  congr 1
  simp only [List.length_map]
  by_cases shorter : second.length < first.length
  · have apartFromBack : ∀ key ∈ second.map Prod.fst, key ∉ back.map Prod.fst :=
      fun key inSecond inBack => secondApart key inSecond key inBack rfl
    rw [if_pos shorter,
      editPlan_givesUpSecond firstAgree.symm secondAgree.symm backAgree.symm apart apartFromBack
        shorter,
      Edit.reusedKeys_additions_append, Edit.reusedKeys_reusals_append firstAgree.symm,
      Edit.reusedKeys_removals_append, Edit.reusedKeys_reusals backAgree.symm]
  · have apartFromBack : ∀ key ∈ first.map Prod.fst, key ∉ back.map Prod.fst :=
      fun key inFirst inBack =>
        firstApart key inFirst key (List.mem_append_right _ inBack) rfl
    rw [if_neg shorter,
      editPlan_givesUpFirst firstAgree.symm secondAgree.symm backAgree.symm apart apartFromBack
        (Nat.le_of_not_lt shorter),
      Edit.reusedKeys_removals_append, Edit.reusedKeys_reusals_append secondAgree.symm,
      Edit.reusedKeys_additions_append, Edit.reusedKeys_reusals backAgree.symm]

/--
A contiguous move costs the smaller block.  When every key is in the lists once and two
neighbouring blocks change places, as many items are added and as many instances are
removed as the smaller block has, and all other instances are reused.  So one item that
moves to another place costs one removal and one addition.
-/
theorem editPlan_contiguousMove
    {previous : List (κ × ι)}
    {current : List (κ × τ)}
    {front first second back : List κ}
    (previousKeys : previous.map Prod.fst = front ++ first ++ second ++ back)
    (currentKeys : current.map Prod.fst = front ++ second ++ first ++ back)
    (distinct : (front ++ first ++ second ++ back).Nodup) :
    let plan := editPlan previous current
    plan.countP Edit.isAdd = min first.length second.length ∧
      plan.countP Edit.isRemove = min first.length second.length ∧
      Edit.reusedKeys plan previous =
        front ++ (if second.length < first.length then first else second) ++ back ∧
      (first ≠ [] → second ≠ [] → first.length = 1 ∨ second.length = 1 →
        plan.countP Edit.isAdd = 1 ∧ plan.countP Edit.isRemove = 1) := by
  intro plan
  simp only [List.append_assoc] at previousKeys currentKeys distinct ⊢
  have turns := editPlan_turns previous current
  have reused :=
    reusedKeys_contiguousMove previousKeys currentKeys (List.nodup_append.mp distinct).2.1
  have reusedCount :
      plan.countP Edit.isReuse =
        front.length + (max first.length second.length + back.length) := by
    rw [← turns.length_reusedKeys, reused]
    split <;> simp only [List.length_append] <;> omega
  have previousLength := congrArg List.length previousKeys
  have currentLength := congrArg List.length currentKeys
  simp only [List.length_map, List.length_append] at previousLength currentLength
  have added : plan.countP Edit.isAdd = min first.length second.length := by
    have placed : plan.countP Edit.isReuse + plan.countP Edit.isAdd = current.length :=
      turns.countP_isReuse_add_isAdd
    omega
  have removed : plan.countP Edit.isRemove = min first.length second.length := by
    have dealtWith : plan.countP Edit.isReuse + plan.countP Edit.isRemove = previous.length :=
      turns.countP_isReuse_add_isRemove
    omega
  refine ⟨added, removed, reused, fun firstSome secondSome single => ?_⟩
  have firstPositive := List.length_pos_iff.mpr firstSome
  have secondPositive := List.length_pos_iff.mpr secondSome
  omega

/-- Two tabs change places with one behind them, which alone is given up, and two with
three behind them, where the two are given up. -/
theorem editPlan_contiguousMove_tabs :
    let tabs := [(1, 'a'), (2, 'b'), (3, 'c'), (4, 'd'), (5, 'e'), (6, 'f')]
    let oneMoved := [(1, "A"), (4, "D"), (2, "B"), (3, "C"), (5, "E"), (6, "F")]
    let threeMoved := [(3, "C"), (4, "D"), (5, "E"), (1, "A"), (2, "B"), (6, "F")]
    tabs.map Prod.fst = [1] ++ [2, 3] ++ [4] ++ [5, 6] ∧
      oneMoved.map Prod.fst = [1] ++ [4] ++ [2, 3] ++ [5, 6] ∧
      ([1] ++ [2, 3] ++ [4] ++ [5, 6]).Nodup ∧
      (editPlan tabs oneMoved).countP Edit.isAdd = 1 ∧
      (editPlan tabs oneMoved).countP Edit.isRemove = 1 ∧
      Edit.reusedKeys (editPlan tabs oneMoved) tabs = [1, 2, 3, 5, 6] ∧
      tabs.map Prod.fst = [] ++ [1, 2] ++ [3, 4, 5] ++ [6] ∧
      threeMoved.map Prod.fst = [] ++ [3, 4, 5] ++ [1, 2] ++ [6] ∧
      (editPlan tabs threeMoved).countP Edit.isAdd = 2 ∧
      (editPlan tabs threeMoved).countP Edit.isRemove = 2 ∧
      Edit.reusedKeys (editPlan tabs threeMoved) tabs = [3, 4, 5, 6] := by
  intro tabs oneMoved threeMoved
  have tabKeys : tabs.map Prod.fst = [1] ++ [2, 3] ++ [4] ++ [5, 6] := rfl
  have oneMovedKeys : oneMoved.map Prod.fst = [1] ++ [4] ++ [2, 3] ++ [5, 6] := rfl
  have distinct : ([1] ++ [2, 3] ++ [4] ++ [5, 6]).Nodup := by decide
  have splitKeys : tabs.map Prod.fst = [] ++ [1, 2] ++ [3, 4, 5] ++ [6] := rfl
  have threeMovedKeys : threeMoved.map Prod.fst = [] ++ [3, 4, 5] ++ [1, 2] ++ [6] := rfl
  obtain ⟨_, _, reusedOnce, costsOne⟩ := editPlan_contiguousMove tabKeys oneMovedKeys distinct
  obtain ⟨addedOnce, removedOnce⟩ := costsOne (by decide) (by decide) (by decide)
  obtain ⟨added, removed, reused, _⟩ :=
    editPlan_contiguousMove splitKeys threeMovedKeys (by decide)
  exact ⟨tabKeys, oneMovedKeys, distinct, addedOnce, removedOnce, reusedOnce, splitKeys,
    threeMovedKeys, added, removed, reused⟩

end Plans

end DataBinding

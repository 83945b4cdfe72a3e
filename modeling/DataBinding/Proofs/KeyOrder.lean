import DataBinding.Proofs.EditScript
import Mathlib.Data.List.Nodup

namespace DataBinding

/-!
# Which keys a plan gives up

A plan knows no moves, so some instance whose key is still wanted may be discarded.
This happens only to keys that have moved: where the two keys in front differ and
each of them turns up again in the other list, the two stand in one order among the
instances and in the other among the items, and one of the two is given up.  Keys
that keep their order are all reused, and of shared keys in any order at least one is.
-/

/-- Whether a key stands in front of another in a list. -/
def Precedes
    (first second : κ)
    (keys : List κ) : Prop :=
  [first, second].Sublist keys

namespace Precedes

theorem of_mem
    {first second : κ}
    {rest : List κ}
    (member : second ∈ rest) :
    Precedes first second (first :: rest) :=
  (List.singleton_sublist.mpr member).cons_cons first

theorem cons
    {first second : κ}
    {rest : List κ}
    (precedes : Precedes first second rest)
    (key : κ) :
    Precedes first second (key :: rest) :=
  List.Sublist.cons key precedes

theorem first_mem
    {first second : κ}
    {keys : List κ}
    (precedes : Precedes first second keys) :
    first ∈ keys :=
  precedes.subset List.mem_cons_self

theorem second_mem
    {first second : κ}
    {keys : List κ}
    (precedes : Precedes first second keys) :
    second ∈ keys :=
  precedes.subset (List.mem_cons_of_mem first List.mem_cons_self)

/-- In a list that has every key once, no key stands in front of itself. -/
theorem ne
    {first second : κ}
    {keys : List κ}
    (precedes : Precedes first second keys)
    (distinct : keys.Nodup) :
    first ≠ second :=
  distinct.forall_sublist precedes

/-- In a list that has every key once, of two keys only one stands in front of the
other. -/
theorem asymm
    {first second : κ}
    {keys : List κ}
    (precedes : Precedes first second keys)
    (distinct : keys.Nodup) :
    ¬ Precedes second first keys := by
  intro reversed
  induction keys with
  | nil =>
      cases precedes
  | cons key rest inductionHypothesis =>
      obtain ⟨fresh, restDistinct⟩ := List.nodup_cons.mp distinct
      cases precedes with
      | cons _ inRest =>
          cases reversed with
          | cons _ reversedInRest =>
              exact inductionHypothesis inRest restDistinct reversedInRest
          | cons_cons _ _ =>
              exact fresh (second_mem inRest)
      | cons_cons _ behind =>
          cases reversed with
          | cons _ reversedInRest =>
              exact fresh (second_mem reversedInRest)
          | cons_cons _ _ =>
              exact fresh (List.singleton_sublist.mp behind)

end Precedes

section Keys

variable [DecidableEq κ]

/-- The keys of a list that another list has too, in the order of the first. -/
def commonKeys
    (entries : List (κ × α))
    (others : List (κ × β)) : List κ :=
  (entries.map Prod.fst).filter fun key => key ∈ others.map Prod.fst

theorem mem_commonKeys
    {entries : List (κ × α)}
    {others : List (κ × β)}
    {key : κ} :
    key ∈ commonKeys entries others ↔
      key ∈ entries.map Prod.fst ∧ key ∈ others.map Prod.fst := by
  simp only [commonKeys, List.mem_filter, decide_eq_true_eq]

section CommonKeys

variable
  {entries : List (κ × α)}
  {others : List (κ × β)}
  {key : κ}

theorem commonKeys_cons_of_mem
    (common : key ∈ others.map Prod.fst)
    (value : α) :
    commonKeys ((key, value) :: entries) others = key :: commonKeys entries others :=
  List.filter_cons_of_pos (decide_eq_true common)

theorem commonKeys_cons_of_not_mem
    (absent : key ∉ others.map Prod.fst)
    (value : α) :
    commonKeys ((key, value) :: entries) others = commonKeys entries others :=
  List.filter_cons_of_neg (by simpa using absent)

/-- An entry of the other list adds no common key if the list has not its key. -/
theorem commonKeys_cons_right
    (absent : key ∉ entries.map Prod.fst)
    (value : β) :
    commonKeys entries ((key, value) :: others) = commonKeys entries others := by
  apply List.filter_congr
  intro other member
  have different : other ≠ key := fun same => absent (same ▸ member)
  simp only [List.map_cons, List.mem_cons, different, false_or]

end CommonKeys

/-- Two common keys stand in the order of the list among the common keys of it. -/
theorem Precedes.commonKeys
    {entries : List (κ × α)}
    {others : List (κ × β)}
    {first second : κ}
    (precedes : Precedes first second (entries.map Prod.fst))
    (firstCommon : first ∈ others.map Prod.fst)
    (secondCommon : second ∈ others.map Prod.fst) :
    Precedes first second (commonKeys entries others) := by
  have kept := List.Sublist.filter (fun key => decide (key ∈ others.map Prod.fst)) precedes
  have bothKept :
      [first, second].filter (fun key => decide (key ∈ others.map Prod.fst)) =
        [first, second] := by
    simp only [List.filter, firstCommon, secondCommon, decide_true]
  rwa [bothKept] at kept

end Keys

/-- Whether a key stands in front of another among the instances, and behind it among
the items. -/
structure Inverted
    (previous : List (κ × ι))
    (current : List (κ × τ))
    (first second : κ) : Prop where
  inPrevious : Precedes first second (previous.map Prod.fst)
  inCurrent : Precedes second first (current.map Prod.fst)

namespace Inverted

variable
  {previous : List (κ × ι)}
  {current : List (κ × τ)}
  {first second : κ}

theorem cons_previous
    (entry : κ × ι)
    (inverted : Inverted previous current first second) :
    Inverted (entry :: previous) current first second :=
  ⟨inverted.inPrevious.cons entry.1, inverted.inCurrent⟩

theorem cons_current
    (entry : κ × τ)
    (inverted : Inverted previous current first second) :
    Inverted previous (entry :: current) first second :=
  ⟨inverted.inPrevious, inverted.inCurrent.cons entry.1⟩

theorem behind
    (kept : κ × ι)
    (item : κ × τ)
    (inverted : Inverted previous current first second) :
    Inverted (kept :: previous) (item :: current) first second :=
  (inverted.cons_current item).cons_previous kept

/-- Two keys in front of their lists are inverted when each turns up again in the other
list. -/
theorem of_fronts
    {kept : ι}
    {item : τ}
    (secondBehind : second ∈ previous.map Prod.fst)
    (firstBehind : first ∈ current.map Prod.fst) :
    Inverted ((first, kept) :: previous) ((second, item) :: current) first second :=
  ⟨.of_mem secondBehind, .of_mem firstBehind⟩

end Inverted

/-- The keys of the instances that a plan reuses.  The steps deal with the previous
instances in order. -/
def Edit.reusedKeys :
    List (Edit ι τ) → List (κ × ι) → List κ
  | [], _ => []
  | .reuse _ _ :: plan, previous =>
      (previous.head?.map Prod.fst).toList ++ reusedKeys plan previous.tail
  | .add _ :: plan, previous => reusedKeys plan previous
  | .remove _ :: plan, previous => reusedKeys plan previous.tail

namespace Edit

variable
  (plan : List (Edit ι τ))
  (previous : List (κ × ι))
  (entry : κ × ι)
  (kept : ι)
  (item : τ)

@[simp]
theorem reusedKeys_reuse :
    reusedKeys (.reuse kept item :: plan) (entry :: previous) =
      entry.1 :: reusedKeys plan previous :=
  rfl

@[simp]
theorem reusedKeys_add :
    reusedKeys (.add item :: plan) previous = reusedKeys plan previous :=
  rfl

@[simp]
theorem reusedKeys_remove :
    reusedKeys (.remove kept :: plan) (entry :: previous) = reusedKeys plan previous :=
  rfl

/-- A plan reuses as many instances as it has reusing steps. -/
theorem Turns.length_reusedKeys
    {previous : List (κ × ι)}
    {current : List (κ × τ)}
    {plan : List (Edit ι τ)}
    (turns : Turns previous current plan) :
    (reusedKeys plan previous).length = plan.countP isReuse := by
  induction turns with
  | done =>
      rfl
  | reuse key kept item _ inductionHypothesis =>
      simp [List.countP_cons, isReuse, inductionHypothesis]
  | add key item _ inductionHypothesis =>
      simpa [isReuse] using inductionHypothesis
  | remove key discarded _ inductionHypothesis =>
      simpa [isReuse] using inductionHypothesis

end Edit

/-!
## What a plan waits for
-/

section Plans

variable [DecidableEq κ]

theorem distance?_eq_none_iff
    {key : κ}
    {entries : List (κ × α)} :
    distance? key entries = none ↔ key ∉ entries.map Prod.fst := by
  rw [distance?, List.findIdx?_eq_none_iff]
  simp only [decide_eq_false_iff_not, List.mem_map, not_exists, not_and]

/-- An item is added first only to wait for the key of the instance. -/
theorem mem_of_addsFirst
    {previousKey currentKey : κ}
    {instances : List (κ × ι)}
    {items : List (κ × τ)}
    (adds : addsFirst (distance? previousKey items) (distance? currentKey instances) = true) :
    previousKey ∈ items.map Prod.fst := by
  by_contra absent
  rw [distance?_eq_none_iff.mpr absent] at adds
  cases adds

/-- An instance whose key is still to come is removed first only to wait for the key of
the item. -/
theorem mem_of_not_addsFirst
    {previousKey currentKey : κ}
    {instances : List (κ × ι)}
    {items : List (κ × τ)}
    (removes : ¬ addsFirst (distance? previousKey items) (distance? currentKey instances) = true)
    (wanted : previousKey ∈ items.map Prod.fst) :
    currentKey ∈ instances.map Prod.fst := by
  by_contra absent
  rw [distance?_eq_none_iff.mpr absent] at removes
  cases ahead : distance? previousKey items with
  | none =>
      exact distance?_eq_none_iff.mp ahead wanted
  | some distance =>
      rw [ahead] at removes
      exact removes rfl

/--
A common key that is not reused is inverted with another one.  Keys may repeat: then
none of the instances with the key is reused.
-/
theorem exists_inverted_of_not_reused
    {previous : List (κ × ι)}
    {current : List (κ × τ)}
    {key : κ}
    (inPrevious : key ∈ previous.map Prod.fst)
    (inCurrent : key ∈ current.map Prod.fst)
    (given : key ∉ Edit.reusedKeys (editPlan previous current) previous) :
    ∃ other, Inverted previous current key other ∨ Inverted previous current other key := by
  fun_induction editPlan previous current with
  | case1 =>
      cases inPrevious
  | case2 =>
      cases inPrevious
  | case3 =>
      cases inCurrent
  | case4 kept instances front item items inductionHypothesis =>
      obtain ⟨different, givenBehind⟩ :
          key ≠ front ∧ key ∉ Edit.reusedKeys (editPlan instances items) instances := by
        simpa using given
      obtain ⟨other, inverted⟩ :=
        inductionHypothesis ((List.mem_cons.mp inPrevious).resolve_left different)
          ((List.mem_cons.mp inCurrent).resolve_left different) givenBehind
      exact ⟨other, inverted.imp (Inverted.behind _ _) (Inverted.behind _ _)⟩
  | case5 previousKey kept instances currentKey item items different adds inductionHypothesis =>
      by_cases isFront : key = currentKey
      · -- Its item is added because the key of the instance in front is still to come.
        subst isFront
        have behind := (List.mem_cons.mp inPrevious).resolve_left (Ne.symm different)
        exact ⟨previousKey, .inr (.of_fronts behind (mem_of_addsFirst adds))⟩
      · obtain ⟨other, inverted⟩ :=
          inductionHypothesis inPrevious ((List.mem_cons.mp inCurrent).resolve_left isFront) given
        exact ⟨other,
          inverted.imp (Inverted.cons_current _) (Inverted.cons_current _)⟩
  | case6 previousKey kept instances currentKey item items different removes inductionHypothesis =>
      by_cases isFront : key = previousKey
      · -- Its instance is removed because the key of the item in front is still to come.
        subst isFront
        have behind := (List.mem_cons.mp inCurrent).resolve_left different
        exact ⟨currentKey, .inl (.of_fronts (mem_of_not_addsFirst removes behind) behind)⟩
      · obtain ⟨other, inverted⟩ :=
          inductionHypothesis ((List.mem_cons.mp inPrevious).resolve_left isFront) inCurrent given
        exact ⟨other,
          inverted.imp (Inverted.cons_previous _) (Inverted.cons_previous _)⟩

/-- Lists with every key once, whose common keys stand in the same order in both. -/
structure KeepsOrder
    (previous : List (κ × ι))
    (current : List (κ × τ)) : Prop where
  previousDistinct : (previous.map Prod.fst).Nodup
  currentDistinct : (current.map Prod.fst).Nodup
  sameOrder : commonKeys previous current = commonKeys current previous

/-- Where the common keys keep their order, no two keys are inverted. -/
theorem KeepsOrder.not_inverted
    {previous : List (κ × ι)}
    {current : List (κ × τ)}
    (keeps : KeepsOrder previous current)
    (first second : κ) :
    ¬ Inverted previous current first second := by
  intro inverted
  have ordered :=
    inverted.inPrevious.commonKeys inverted.inCurrent.second_mem inverted.inCurrent.first_mem
  have reversed :=
    inverted.inCurrent.commonKeys inverted.inPrevious.second_mem inverted.inPrevious.first_mem
  rw [← keeps.sameOrder] at reversed
  exact ordered.asymm (keeps.previousDistinct.filter _) reversed

/--
A plan churns only what has moved.  When every key is in each list once, a common key
whose instance is not reused stands in one order with some other common key among the
instances and in the other order among the items.  So when the common keys keep their
order, the instances of all of them are reused.
-/
theorem editPlan_churnsOnlyMoved
    {previous : List (κ × ι)}
    {current : List (κ × τ)}
    (previousDistinct : (previous.map Prod.fst).Nodup)
    (currentDistinct : (current.map Prod.fst).Nodup) :
    (∀ key ∈ commonKeys previous current,
        key ∉ Edit.reusedKeys (editPlan previous current) previous →
        ∃ other ∈ commonKeys previous current,
          other ≠ key ∧
            (Inverted previous current key other ∨ Inverted previous current other key)) ∧
      (commonKeys previous current = commonKeys current previous →
        ∀ key ∈ commonKeys previous current,
          key ∈ Edit.reusedKeys (editPlan previous current) previous) := by
  refine ⟨fun key common given => ?_, fun sameOrder key common => ?_⟩
  · obtain ⟨inPrevious, inCurrent⟩ := mem_commonKeys.mp common
    obtain ⟨other, inverted⟩ := exists_inverted_of_not_reused inPrevious inCurrent given
    refine ⟨other, ?_, ?_, inverted⟩
    · rcases inverted with ⟨ordered, reversed⟩ | ⟨ordered, reversed⟩
      · exact mem_commonKeys.mpr ⟨ordered.second_mem, reversed.first_mem⟩
      · exact mem_commonKeys.mpr ⟨ordered.first_mem, reversed.second_mem⟩
    · rcases inverted with ⟨ordered, reversed⟩ | ⟨ordered, reversed⟩
      · exact reversed.ne currentDistinct
      · exact ordered.ne previousDistinct
  · obtain ⟨inPrevious, inCurrent⟩ := mem_commonKeys.mp common
    have keeps : KeepsOrder previous current := ⟨previousDistinct, currentDistinct, sameOrder⟩
    by_contra given
    obtain ⟨other, inverted | inverted⟩ := exists_inverted_of_not_reused inPrevious inCurrent given
    · exact keeps.not_inverted key other inverted
    · exact keeps.not_inverted other key inverted

/-- Of two instances that change places the one in front is given up, and its key is
inverted with that of the other.  Without the swap every common key is reused. -/
theorem editPlan_churnsOnlyMoved_swap :
    let previous := [(1, 'a'), (2, 'b'), (3, 'c'), (4, 'd')]
    let swapped := [(2, "B"), (1, "A"), (5, "E"), (4, "D")]
    let unmoved := [(2, "B"), (5, "E"), (4, "D")]
    Edit.reusedKeys (editPlan previous swapped) previous = [2, 4] ∧
      (∃ other ∈ commonKeys previous swapped,
        other ≠ 1 ∧ (Inverted previous swapped 1 other ∨ Inverted previous swapped other 1)) ∧
      commonKeys previous unmoved = [2, 4] ∧
      ∀ key ∈ commonKeys previous unmoved,
        key ∈ Edit.reusedKeys (editPlan previous unmoved) previous := by
  intro previous swapped unmoved
  have reused : Edit.reusedKeys (editPlan previous swapped) previous = [2, 4] := by
    decide +kernel
  have given : 1 ∉ Edit.reusedKeys (editPlan previous swapped) previous := by
    rw [reused]
    decide
  have distinct : (previous.map Prod.fst).Nodup := by decide
  have moved := editPlan_churnsOnlyMoved distinct (by decide : (swapped.map Prod.fst).Nodup)
  have kept := editPlan_churnsOnlyMoved distinct (by decide : (unmoved.map Prod.fst).Nodup)
  exact ⟨reused, moved.1 1 (by decide) given, by decide, kept.2 (by decide)⟩

/-!
## The last key that the lists share
-/

/-- Whether some key is in both lists. -/
def ShareKey
    (previous : List (κ × ι))
    (current : List (κ × τ)) : Prop :=
  ∃ key, key ∈ previous.map Prod.fst ∧ key ∈ current.map Prod.fst

omit [DecidableEq κ] in
theorem ShareKey.of_reuse
    {previous : List (κ × ι)}
    {current : List (κ × τ)}
    {plan : List (Edit ι τ)}
    {kept : ι}
    {item : τ}
    (turns : Edit.Turns previous current plan)
    (reused : .reuse kept item ∈ plan) :
    ShareKey previous current := by
  obtain ⟨before, after, rfl⟩ := List.append_of_mem reused
  obtain ⟨key, previousEntry, currentEntry⟩ := turns.reuse_key
  exact ⟨key, List.mem_map_of_mem (List.mem_of_getElem? previousEntry),
    List.mem_map_of_mem (List.mem_of_getElem? currentEntry)⟩

/-- An instance is removed only when the lists share a key without it: either the key of
the item in front is still to come, or that of the instance is not shared. -/
theorem ShareKey.of_removal
    {previousKey currentKey : κ}
    {kept : ι}
    {item : τ}
    {instances : List (κ × ι)}
    {items : List (κ × τ)}
    (share : ShareKey ((previousKey, kept) :: instances) ((currentKey, item) :: items))
    (different : previousKey ≠ currentKey)
    (removes :
      ¬ addsFirst (distance? previousKey items) (distance? currentKey instances) = true) :
    ShareKey instances ((currentKey, item) :: items) := by
  by_cases wanted : previousKey ∈ items.map Prod.fst
  · exact ⟨currentKey, mem_of_not_addsFirst removes wanted, List.mem_cons_self⟩
  · obtain ⟨key, inPrevious, inCurrent⟩ := share
    rcases List.mem_cons.mp inPrevious with rfl | behind
    · exact absurd ((List.mem_cons.mp inCurrent).resolve_left different) wanted
    · exact ⟨key, behind, inCurrent⟩

/--
A plan never gives up the last shared key.  It reuses an instance exactly when some key is
in both lists, whatever keys repeat and in whatever order they stand.
-/
theorem editPlan_reuses_iff_shareKey
    (previous : List (κ × ι))
    (current : List (κ × τ)) :
    (∃ kept item, .reuse kept item ∈ editPlan previous current) ↔
      ShareKey previous current := by
  refine ⟨fun ⟨_, _, reused⟩ => .of_reuse (editPlan_turns previous current) reused, ?_⟩
  intro share
  fun_induction editPlan previous current with
  | case1 | case2 =>
      obtain ⟨_, inPrevious, _⟩ := share
      cases inPrevious
  | case3 =>
      obtain ⟨_, _, inCurrent⟩ := share
      cases inCurrent
  | case4 kept instances key item items =>
      exact ⟨kept, item, List.mem_cons_self⟩
  | case5 previousKey kept instances currentKey item items different adds inductionHypothesis =>
      -- The key of the instance in front is shared, and it stays.
      obtain ⟨other, placed, reused⟩ :=
        inductionHypothesis ⟨previousKey, List.mem_cons_self, mem_of_addsFirst adds⟩
      exact ⟨other, placed, List.mem_cons_of_mem _ reused⟩
  | case6 previousKey kept instances currentKey item items different removes inductionHypothesis =>
      obtain ⟨other, placed, reused⟩ :=
        inductionHypothesis (share.of_removal different removes)
      exact ⟨other, placed, List.mem_cons_of_mem _ reused⟩

end Plans

end DataBinding

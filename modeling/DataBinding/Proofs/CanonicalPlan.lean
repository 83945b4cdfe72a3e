import DataBinding.Proofs.KeyOrder

namespace DataBinding

/-!
# The plan for lists in which nothing has moved

The common keys cut both lists into gaps.  When these keys keep their order, the plan
goes from gap to gap: it discards the instances in the gap, then makes the items in
it, and then reuses the instance at its end.  Nothing is decided by distances, since
no key in front of a common one is to come in the other list.
-/

namespace Edit

/-- The steps that discard instances in order. -/
def removals (entries : List (κ × ι)) : List (Edit ι τ) :=
  entries.map fun entry => .remove entry.2

/-- The steps that make items in order. -/
def additions (entries : List (κ × τ)) : List (Edit ι τ) :=
  entries.map fun entry => .add entry.2

end Edit

section Plans

variable [DecidableEq κ]

/-- The entries in front of the first one with a key. -/
def entriesBefore
    (key : κ)
    (entries : List (κ × α)) : List (κ × α) :=
  entries.takeWhile fun entry => entry.1 ≠ key

/-- The entries from the first one with a key on. -/
def entriesFrom
    (key : κ)
    (entries : List (κ × α)) : List (κ × α) :=
  entries.dropWhile fun entry => entry.1 ≠ key

/--
The plan that goes from one key to the next.  Up to each key it discards all
instances and then makes all items, and at the key it reuses the instance for the
item.  Behind the last key it discards the rest of the instances and makes the rest
of the items.
-/
def canonicalPlan :
    List κ → List (κ × ι) → List (κ × τ) → List (Edit ι τ)
  | [], previous, current => Edit.removals previous ++ Edit.additions current
  | key :: keys, previous, current =>
      Edit.removals (entriesBefore key previous) ++ Edit.additions (entriesBefore key current) ++
        match entriesFrom key previous, entriesFrom key current with
        | (_, kept) :: instances, (_, item) :: items =>
            .reuse kept item :: canonicalPlan keys instances items
        | _, _ => []

theorem entriesBefore_cons_self
    (key : κ)
    (value : α)
    (entries : List (κ × α)) :
    entriesBefore key ((key, value) :: entries) = [] := by
  simp [entriesBefore]

theorem entriesFrom_cons_self
    (key : κ)
    (value : α)
    (entries : List (κ × α)) :
    entriesFrom key ((key, value) :: entries) = (key, value) :: entries := by
  simp [entriesFrom]

theorem entriesBefore_cons_of_ne
    {key other : κ}
    (different : other ≠ key)
    (value : α)
    (entries : List (κ × α)) :
    entriesBefore key ((other, value) :: entries) =
      (other, value) :: entriesBefore key entries := by
  simp [entriesBefore, different]

theorem entriesFrom_cons_of_ne
    {key other : κ}
    (different : other ≠ key)
    (value : α)
    (entries : List (κ × α)) :
    entriesFrom key ((other, value) :: entries) = entriesFrom key entries := by
  simp [entriesFrom, different]

/-!
## The first step of such a plan
-/

/-- At the next key the instance is reused. -/
theorem canonicalPlan_reuse
    (key : κ)
    (keys : List κ)
    (kept : ι)
    (item : τ)
    (previous : List (κ × ι))
    (current : List (κ × τ)) :
    canonicalPlan (key :: keys) ((key, kept) :: previous) ((key, item) :: current) =
      .reuse kept item :: canonicalPlan keys previous current := by
  simp [canonicalPlan, entriesBefore_cons_self, entriesFrom_cons_self, Edit.removals,
    Edit.additions]

/-- In front of the next key an instance goes before any item comes. -/
theorem canonicalPlan_remove
    {key : κ}
    {keys : List κ}
    (outside : key ∉ keys)
    (discarded : ι)
    (previous : List (κ × ι))
    (current : List (κ × τ)) :
    canonicalPlan keys ((key, discarded) :: previous) current =
      .remove discarded :: canonicalPlan keys previous current := by
  cases keys with
  | nil =>
      rfl
  | cons next keys =>
      have different : key ≠ next := List.ne_of_not_mem_cons outside
      simp [canonicalPlan, entriesBefore_cons_of_ne different, entriesFrom_cons_of_ne different,
        Edit.removals]

/-- Where no instance is left in front of the next key, the items in front of it come. -/
theorem canonicalPlan_add
    {key other : κ}
    (different : other ≠ key)
    (keys : List κ)
    (kept : ι)
    (item : τ)
    (previous : List (κ × ι))
    (current : List (κ × τ)) :
    canonicalPlan (key :: keys) ((key, kept) :: previous) ((other, item) :: current) =
      .add item :: canonicalPlan (key :: keys) ((key, kept) :: previous) current := by
  simp [canonicalPlan, entriesBefore_cons_self, entriesFrom_cons_self,
    entriesBefore_cons_of_ne different, entriesFrom_cons_of_ne different, Edit.removals,
    Edit.additions]

/-!
## Every plan without inversions
-/

/-- Where no two keys are inverted, the plan goes from one common key to the next. -/
theorem editPlan_eq_canonicalPlan
    {previous : List (κ × ι)}
    {current : List (κ × τ)}
    (distinct : (previous.map Prod.fst).Nodup)
    (ordered : ∀ first second, ¬ Inverted previous current first second) :
    editPlan previous current =
      canonicalPlan (commonKeys previous current) previous current := by
  fun_induction editPlan previous current with
  | case1 =>
      rfl
  | case2 key item items inductionHypothesis =>
      have rest := inductionHypothesis List.nodup_nil fun first second inverted =>
        ordered first second (inverted.cons_current _)
      rw [rest]
      rfl
  | case3 key kept instances inductionHypothesis =>
      have rest := inductionHypothesis (List.nodup_cons.mp distinct).2 fun first second inverted =>
        ordered first second (inverted.cons_previous _)
      have outside : key ∉ commonKeys ((key, kept) :: instances) ([] : List (κ × τ)) :=
        fun member => List.not_mem_nil (mem_commonKeys.mp member).2
      rw [canonicalPlan_remove outside, rest,
        commonKeys_cons_of_not_mem (List.not_mem_nil : key ∉ ([] : List (κ × τ)).map Prod.fst)]
  | case4 kept instances key item items inductionHypothesis =>
      obtain ⟨fresh, restDistinct⟩ := List.nodup_cons.mp distinct
      have rest := inductionHypothesis restDistinct fun first second inverted =>
        ordered first second (inverted.behind _ _)
      have common : key ∈ ((key, item) :: items).map Prod.fst := List.mem_cons_self
      rw [commonKeys_cons_of_mem common, commonKeys_cons_right fresh, canonicalPlan_reuse, rest]
  | case5 previousKey kept instances currentKey item items different adds inductionHypothesis =>
      -- The key of the instance is to come, so that of the item is not.
      have awaited := mem_of_addsFirst adds
      have unused : currentKey ∉ ((previousKey, kept) :: instances).map Prod.fst := by
        intro used
        have behind := (List.mem_cons.mp used).resolve_left (Ne.symm different)
        exact ordered previousKey currentKey (.of_fronts behind awaited)
      have rest := inductionHypothesis distinct fun first second inverted =>
        ordered first second (inverted.cons_current _)
      rw [commonKeys_cons_right unused, rest, commonKeys_cons_of_mem awaited,
        canonicalPlan_add (Ne.symm different)]
  | case6 previousKey kept instances currentKey item items different removes inductionHypothesis =>
      -- Were the key of the instance to come, that of the item would be too.
      have unwanted : previousKey ∉ ((currentKey, item) :: items).map Prod.fst := by
        intro wanted
        have behind := (List.mem_cons.mp wanted).resolve_left different
        exact ordered previousKey currentKey
          (.of_fronts (mem_of_not_addsFirst removes behind) behind)
      have rest := inductionHypothesis (List.nodup_cons.mp distinct).2
        fun first second inverted => ordered first second (inverted.cons_previous _)
      have outside :
          previousKey ∉
            commonKeys ((previousKey, kept) :: instances) ((currentKey, item) :: items) :=
        fun member => unwanted (mem_commonKeys.mp member).2
      rw [canonicalPlan_remove outside, rest, commonKeys_cons_of_not_mem unwanted]

/--
Without moves the plan is canonical.  When every key is in each list once and the
common keys stand in one order in both, the plan goes from one common key to the next:
in each gap it discards the instances in order and then makes the items in order, at
its end it reuses the instance of the common key, and the gap behind the last common
key is treated alike.
-/
theorem editPlan_withoutMoves
    {previous : List (κ × ι)}
    {current : List (κ × τ)}
    (keeps : KeepsOrder previous current) :
    editPlan previous current =
      canonicalPlan (commonKeys previous current) previous current :=
  editPlan_eq_canonicalPlan keeps.previousDistinct keeps.not_inverted

/-- Two instances make way for one item in the first gap, none for one in the second, and
one for two behind the last common key. -/
theorem editPlan_withoutMoves_gaps :
    let previous := [(1, 'a'), (2, 'b'), (3, 'c'), (4, 'd'), (5, 'e')]
    let current := [(9, "I"), (3, "C"), (8, "H"), (4, "D"), (7, "G"), (6, "F")]
    KeepsOrder previous current ∧
      editPlan previous current =
        [.remove 'a', .remove 'b', .add "I", .reuse 'c' "C", .add "H", .reuse 'd' "D",
          .remove 'e', .add "G", .add "F"] := by
  intro previous current
  have keeps : KeepsOrder previous current := ⟨by decide, by decide, by decide⟩
  refine ⟨keeps, ?_⟩
  rw [editPlan_withoutMoves keeps]
  decide

end Plans

end DataBinding

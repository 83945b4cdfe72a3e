import DataBinding.Proofs.CanonicalPlan

namespace DataBinding

/-!
# Runs of steps

A plan takes steps of one kind in runs.  Entries in front that agree in their keys are
reused one for one.  Items are added as long as the key of the instance in front turns
up among the items sooner than theirs do among the instances, and instances are removed
as long as the key of the item in front turns up among the instances no later than
theirs do among the items.
-/

/-- The steps that reuse instances for items, one for one. -/
def Edit.reusals
    (instances : List (κ × ι))
    (items : List (κ × τ)) : List (Edit ι τ) :=
  List.zipWith (fun kept item => .reuse kept.2 item.2) instances items

/-!
## The keys that runs reuse
-/

namespace Edit

theorem reusedKeys_additions_append
    (run : List (κ × τ))
    (plan : List (Edit ι τ))
    (previous : List (κ × ι)) :
    reusedKeys (additions run ++ plan) previous = reusedKeys plan previous := by
  induction run with
  | nil =>
      rfl
  | cons entry run inductionHypothesis =>
      exact inductionHypothesis

theorem reusedKeys_removals_append
    (run : List (κ × ι))
    (plan : List (Edit ι τ))
    (previous : List (κ × ι)) :
    reusedKeys (removals run ++ plan) (run ++ previous) = reusedKeys plan previous := by
  induction run with
  | nil =>
      rfl
  | cons entry run inductionHypothesis =>
      exact inductionHypothesis

theorem reusedKeys_reusals_append
    {run : List (κ × ι)}
    {items : List (κ × τ)}
    (agree : run.map Prod.fst = items.map Prod.fst)
    (plan : List (Edit ι τ))
    (previous : List (κ × ι)) :
    reusedKeys (reusals run items ++ plan) (run ++ previous) =
      run.map Prod.fst ++ reusedKeys plan previous := by
  induction run generalizing items with
  | nil =>
      have noneAgree : items = [] := by
        simpa using agree.symm
      rw [noneAgree]
      rfl
  | cons entry run inductionHypothesis =>
      cases items with
      | nil =>
          cases agree
      | cons item items =>
          have rest := inductionHypothesis (List.cons.inj agree).2
          simpa [reusals] using rest

theorem reusedKeys_reusals
    {run : List (κ × ι)}
    {items : List (κ × τ)}
    (agree : run.map Prod.fst = items.map Prod.fst) :
    reusedKeys (reusals run items : List (Edit ι τ)) run = run.map Prod.fst := by
  simpa [reusedKeys] using reusedKeys_reusals_append agree [] []

end Edit

section Plans

variable [DecidableEq κ]

/-!
## Entries that agree
-/

/-- Entries in front that agree in their keys are reused one for one. -/
theorem editPlan_append
    {previousFront : List (κ × ι)}
    {currentFront : List (κ × τ)}
    (agree : previousFront.map Prod.fst = currentFront.map Prod.fst)
    (previous : List (κ × ι))
    (current : List (κ × τ)) :
    editPlan (previousFront ++ previous) (currentFront ++ current) =
      Edit.reusals previousFront currentFront ++ editPlan previous current := by
  induction previousFront generalizing currentFront with
  | nil =>
      have noneInFront : currentFront = [] := by
        simpa using agree.symm
      simp [noneInFront, Edit.reusals]
  | cons kept previousFront inductionHypothesis =>
      cases currentFront with
      | nil =>
          simp at agree
      | cons item currentFront =>
          obtain ⟨sameKey, restAgree⟩ := List.cons.inj agree
          rcases kept with ⟨key, kept⟩
          rcases item with ⟨itemKey, item⟩
          cases sameKey
          simp [editPlan, Edit.reusals, inductionHypothesis restAgree]

theorem editPlan_of_agree
    {previous : List (κ × ι)}
    {current : List (κ × τ)}
    (agree : previous.map Prod.fst = current.map Prod.fst) :
    editPlan previous current = Edit.reusals previous current := by
  simpa [editPlan] using editPlan_append agree [] []

/-!
## Entries whose keys the other list does not have
-/

/-- An instance whose key no item has is removed before anything else happens. -/
theorem editPlan_removal
    {key : κ}
    {current : List (κ × τ)}
    (unwanted : key ∉ current.map Prod.fst)
    (discarded : ι)
    (previous : List (κ × ι)) :
    editPlan ((key, discarded) :: previous) current =
      .remove discarded :: editPlan previous current := by
  cases current with
  | nil =>
      rw [editPlan]
  | cons item current =>
      obtain ⟨different, unwantedBehind⟩ := List.ne_and_not_mem_of_not_mem_cons unwanted
      rw [editPlan, if_neg different, distance?_eq_none_iff.mpr unwantedBehind, addsFirst,
        if_neg Bool.false_ne_true]

theorem editPlan_removals
    {run : List (κ × ι)}
    {current : List (κ × τ)}
    (unwanted : ∀ key ∈ run.map Prod.fst, key ∉ current.map Prod.fst)
    (previous : List (κ × ι)) :
    editPlan (run ++ previous) current = Edit.removals run ++ editPlan previous current := by
  induction run with
  | nil =>
      rfl
  | cons entry run inductionHypothesis =>
      obtain ⟨entryUnwanted, restUnwanted⟩ := List.forall_mem_cons.mp unwanted
      rw [List.cons_append, editPlan_removal entryUnwanted, inductionHypothesis restUnwanted]
      rfl

theorem editPlan_nil
    (run : List (κ × τ)) :
    editPlan ([] : List (κ × ι)) run = Edit.additions run := by
  induction run with
  | nil =>
      rw [editPlan]
      rfl
  | cons entry run inductionHypothesis =>
      rw [editPlan, inductionHypothesis]
      rfl

/-!
## Entries whose keys are farther away
-/

theorem distance?_take
    (key : κ)
    (entries : List (κ × α))
    (count : Nat) :
    distance? key (entries.take count) =
      (distance? key entries).bind (Option.guard fun distance => distance < count) :=
  List.findIdx?_take

/-- The first entry with a key stands behind those that have other keys. -/
theorem distance?_append_cons
    {key : κ}
    {run : List (κ × α)}
    (outside : key ∉ run.map Prod.fst)
    (value : α)
    (rest : List (κ × α)) :
    distance? key (run ++ (key, value) :: rest) = some run.length := by
  have notInRun := distance?_eq_none_iff.mpr outside
  rw [distance?] at notInRun ⊢
  simp [List.findIdx?_append, notInRun, List.findIdx?_cons]

/-- An item is added while its key is farther away than that of the instance. -/
theorem addsFirst_iff_not_mem_take
    {key : κ}
    {instances : List (κ × ι)}
    {ahead : Nat} :
    addsFirst (some ahead) (distance? key instances) = true ↔
      key ∉ (instances.take (ahead + 1)).map Prod.fst := by
  rw [← distance?_eq_none_iff, distance?_take]
  cases distance? key instances with
  | none =>
      simp [addsFirst]
  | some behind =>
      have beyond : ahead < behind ↔ ¬ behind < ahead + 1 := by
        omega
      rw [addsFirst, decide_eq_true_eq, beyond]
      simp [Option.guard]

/-- An instance is removed unless its key is nearer than that of the item. -/
theorem addsFirst_iff_mem_take
    {key : κ}
    {items : List (κ × τ)}
    {behind : Nat} :
    addsFirst (distance? key items) (some behind) = true ↔
      key ∈ (items.take behind).map Prod.fst := by
  rw [← not_iff_not, ← distance?_eq_none_iff, distance?_take]
  cases distance? key items with
  | none =>
      simp [addsFirst]
  | some ahead =>
      simp [addsFirst, Option.guard]

/-- The items in front of the one for the instance in front are added, if no instance
that is as near has one of their keys. -/
theorem editPlan_additions_append
    {key : κ}
    {run : List (κ × τ)}
    {instances : List (κ × ι)}
    (outside : key ∉ run.map Prod.fst)
    (farther :
      ∀ other ∈ run.map Prod.fst, other ∉ (instances.take run.length).map Prod.fst)
    (kept : ι)
    (item : τ)
    (items : List (κ × τ)) :
    editPlan ((key, kept) :: instances) (run ++ (key, item) :: items) =
      Edit.additions run ++
        editPlan ((key, kept) :: instances) ((key, item) :: items) := by
  induction run with
  | nil =>
      rfl
  | cons entry run inductionHypothesis =>
      obtain ⟨different, outsideRest⟩ := List.ne_and_not_mem_of_not_mem_cons outside
      obtain ⟨entryFarther, restFarther⟩ := List.forall_mem_cons.mp farther
      have adds :
          addsFirst (distance? key (run ++ (key, item) :: items))
            (distance? entry.1 instances) = true := by
        rw [distance?_append_cons outsideRest]
        exact addsFirst_iff_not_mem_take.mpr entryFarther
      have rest := inductionHypothesis outsideRest fun other member inFront =>
        restFarther other member
          (List.map_subset _ (List.take_subset_take_left _ (Nat.le_succ _)) inFront)
      rw [List.cons_append, editPlan, if_neg different, if_pos adds, rest]
      rfl

/-- The instances in front of the one for the item in front are removed, if no item that
is nearer has one of their keys. -/
theorem editPlan_removals_append
    {key : κ}
    {run : List (κ × ι)}
    {items : List (κ × τ)}
    (outside : key ∉ run.map Prod.fst)
    (notNearer :
      ∀ other ∈ run.map Prod.fst, other ∉ (items.take (run.length - 1)).map Prod.fst)
    (kept : ι)
    (item : τ)
    (instances : List (κ × ι)) :
    editPlan (run ++ (key, kept) :: instances) ((key, item) :: items) =
      Edit.removals run ++
        editPlan ((key, kept) :: instances) ((key, item) :: items) := by
  induction run with
  | nil =>
      rfl
  | cons entry run inductionHypothesis =>
      obtain ⟨different, outsideRest⟩ := List.ne_and_not_mem_of_not_mem_cons outside
      obtain ⟨entryNotNearer, restNotNearer⟩ := List.forall_mem_cons.mp notNearer
      have removes :
          ¬ addsFirst (distance? entry.1 items)
            (distance? key (run ++ (key, kept) :: instances)) = true := by
        rw [distance?_append_cons outsideRest]
        exact mt addsFirst_iff_mem_take.mp entryNotNearer
      have rest := inductionHypothesis outsideRest fun other member inFront =>
        restNotNearer other member
          (List.map_subset _ (List.take_subset_take_left _ (Nat.sub_le _ _)) inFront)
      rw [List.cons_append, editPlan, if_neg (Ne.symm different), if_neg removes, rest]
      rfl

/-- Where the entries agree in their keys, items in front whose keys no instance has are
added. -/
theorem editPlan_additions
    {previous : List (κ × ι)}
    {current run : List (κ × τ)}
    (agree : previous.map Prod.fst = current.map Prod.fst)
    (unused : ∀ key ∈ run.map Prod.fst, key ∉ previous.map Prod.fst) :
    editPlan previous (run ++ current) = Edit.additions run ++ editPlan previous current := by
  cases previous with
  | nil =>
      have noneBehind : current = [] := by
        simpa using agree.symm
      simp [noneBehind, editPlan_nil, Edit.additions]
  | cons kept previous =>
      cases current with
      | nil =>
          simp at agree
      | cons item current =>
          rcases kept with ⟨key, kept⟩
          rcases item with ⟨itemKey, item⟩
          obtain rfl : key = itemKey := (List.cons.inj agree).1
          refine editPlan_additions_append ?_ ?_ kept item current
          · exact fun used => unused key used List.mem_cons_self
          · exact fun other member inFront => unused other member
              (List.mem_cons_of_mem _ (List.map_subset _ (List.take_subset _ _) inFront))

end Plans

end DataBinding

import DataBinding.Proofs.LoggedHost
import DataBinding.Proofs.RegionRun

namespace DataBinding

/-!
# The calls of a plan, handle by handle

On a watched host every call can be told by the number of the handle that it is about.
Apart from retirements, the calls of a plan are one visit for each item: the instance that
is placed for it is rendered, and created directly before if it is new.  Retired are the
instances that the plan does not place again.
-/

namespace HostCall

/-- A call with its handle replaced. -/
def map (handleMap : η → η') : HostCall η → HostCall η'
  | create item created => .create item (handleMap created)
  | render handle item => .render (handleMap handle) item
  | retire handle => .retire (handleMap handle)

/-- The handle that a call retires. -/
def retired? : HostCall η → Option η
  | retire handle => some handle
  | _ => none

@[simp]
theorem retired?_create
    (item : RepeatItem)
    (created : η) :
    retired? (.create item created) = none :=
  rfl

@[simp]
theorem retired?_render
    (handle : η)
    (item : RepeatItem) :
    retired? (.render handle item) = none :=
  rfl

@[simp]
theorem retired?_retire (handle : η) :
    retired? (.retire handle) = some handle :=
  rfl

/-- The calls for an item, when a handle is numbered and some numbers are older: the
handle is rendered, and created before if it is none of the older ones. -/
def visit
    (older : List Nat)
    (number : Nat)
    (item : RepeatItem) : List (HostCall Nat) :=
  if number ∈ older then
    [.render number item]
  else
    [.create item number, .render number item]

/-- Whether every handle is rendered directly after it is created, for the same item. -/
def RendersCreated (calls : List (HostCall η)) : Prop :=
  ∀ place item created,
    calls[place]? = some (.create item created) →
    calls[place + 1]? = some (.render created item)

end HostCall

namespace Edit

/-- The instance that a step discards. -/
def discarded? : Edit ι τ → Option ι
  | remove discarded => some discarded
  | _ => none

/-- The calls of a plan, each told by the id of the instance that it is about, when `next`
is the next id to be given. -/
def identifiedCalls
    (next : Nat) :
    List (Edit (RegionInstance η) RepeatItem) → List (HostCall Nat)
  | [] => []
  | .reuse kept item :: plan => .render kept.id item :: identifiedCalls next plan
  | .add item :: plan =>
      .create item next :: .render next item :: identifiedCalls (next + 1) plan
  | .remove discarded :: plan => .retire discarded.id :: identifiedCalls next plan

/-!
## What the steps of a plan ask for
-/

section Calls

variable
  {plan : List (Edit (RegionInstance η) RepeatItem)}
  {calls : List (List (HostCall η))}

theorem retired_of_calls
    (areCalls : List.Forall₂ Edit.Calls plan calls) :
    calls.flatten.filterMap HostCall.retired? =
      (plan.filterMap discarded?).map RegionInstance.handle := by
  induction areCalls with
  | nil =>
      rfl
  | cons isFirst _ inductionHypothesis =>
      cases isFirst <;>
        simpa [List.filterMap_cons, discarded?] using inductionHypothesis

/-- A handle that is rendered is that of an instance, or it was created for the item. -/
theorem handle_of_rendered
    (areCalls : List.Forall₂ Edit.Calls plan calls)
    {handle : η}
    {item : RepeatItem}
    (rendered : .render handle item ∈ calls.flatten) :
    handle ∈ (plan.filterMap instance?).map RegionInstance.handle ∨
      .create item handle ∈ calls.flatten := by
  induction areCalls with
  | nil =>
      cases rendered
  | cons isFirst _ inductionHypothesis =>
      rw [List.flatten_cons, List.mem_append] at rendered ⊢
      rcases rendered with inFirst | behind
      · cases isFirst with
        | reuse kept =>
            cases List.mem_singleton.mp inFirst
            exact Or.inl List.mem_cons_self
        | add _ created =>
            rcases List.mem_pair.mp inFirst with isCreation | isRendering
            · cases isCreation
            · cases isRendering
              exact Or.inr (Or.inl List.mem_cons_self)
        | remove =>
            cases List.mem_singleton.mp inFirst
      · refine (inductionHypothesis behind).imp (fun given => ?_) Or.inr
        cases isFirst with
        | reuse | remove =>
            exact List.mem_cons_of_mem _ given
        | add =>
            exact given

theorem rendersCreated_of_calls
    (areCalls : List.Forall₂ Edit.Calls plan calls) :
    HostCall.RendersCreated calls.flatten := by
  induction areCalls with
  | nil =>
      intro place item created atPlace
      cases atPlace
  | cons isFirst _ inductionHypothesis =>
      intro place item created atPlace
      cases isFirst with
      | reuse kept =>
          cases place with
          | zero =>
              cases atPlace
          | succ place =>
              exact inductionHypothesis place item created atPlace
      | remove discarded =>
          cases place with
          | zero =>
              cases atPlace
          | succ place =>
              exact inductionHypothesis place item created atPlace
      | add =>
          match place with
          | 0 =>
              cases atPlace
              rfl
          | 1 =>
              cases atPlace
          | place + 2 =>
              exact inductionHypothesis place item created atPlace

end Calls

/-!
## What a plan places
-/

section Placed

variable
  {plan : List (Edit (RegionInstance η) RepeatItem)}
  {older : List Nat}
  {next : Nat}

/-- The instances that a plan places are among those that it deals with, or new. -/
theorem id_of_mem_placed
    {id : Nat}
    (member : id ∈ (placed next plan).map Prod.fst) :
    id ∈ (plan.filterMap instance?).map RegionInstance.id ∨ next ≤ id := by
  induction plan generalizing next with
  | nil =>
      cases member
  | cons edit plan inductionHypothesis =>
      cases edit with
      | reuse kept item =>
          rcases List.mem_cons.mp member with rfl | behind
          · exact Or.inl List.mem_cons_self
          · exact (inductionHypothesis behind).imp_left (List.mem_cons_of_mem _)
      | add item =>
          rcases List.mem_cons.mp member with rfl | behind
          · exact Or.inr (Nat.le_refl _)
          · exact (inductionHypothesis behind).imp_right Nat.le_of_succ_le
      | remove discarded =>
          exact (inductionHypothesis member).imp_left (List.mem_cons_of_mem _)

section Older

variable
  (instancesOlder : ∀ id ∈ (plan.filterMap instance?).map RegionInstance.id, id ∈ older)
  (olderGiven : ∀ id ∈ older, id < next)

include instancesOlder olderGiven

/-- Apart from retirements, the calls of a plan are a visit for each of its items. -/
theorem identifiedCalls_visits :
    (identifiedCalls next plan).filter (fun call => call.retired?.isNone) =
      (List.zipWith (HostCall.visit older) ((placed next plan).map Prod.fst)
        (plan.filterMap item?)).flatten := by
  induction plan generalizing next with
  | nil =>
      rfl
  | cons edit plan inductionHypothesis =>
      cases edit with
      | reuse kept item =>
          obtain ⟨keptOlder, restOlder⟩ := List.forall_mem_cons.mp instancesOlder
          simp [identifiedCalls, placed, item?, HostCall.visit, List.filter_cons, keptOlder,
            inductionHypothesis restOlder olderGiven]
      | add item =>
          have isNew : next ∉ older := fun member => Nat.lt_irrefl _ (olderGiven next member)
          have rest := inductionHypothesis instancesOlder fun id member =>
            Nat.lt_add_right 1 (olderGiven id member)
          simp [identifiedCalls, placed, item?, HostCall.visit, List.filter_cons, isNew, rest]
      | remove discarded =>
          obtain ⟨_, restOlder⟩ := List.forall_mem_cons.mp instancesOlder
          simpa [identifiedCalls, placed, item?, List.filterMap_cons] using
            inductionHypothesis restOlder olderGiven

/-- As many of the instances that a plan places are old as it reuses. -/
theorem countP_placed :
    ((placed next plan).map Prod.fst).countP (fun id => id ∈ older) =
      plan.countP isReuse := by
  induction plan generalizing next with
  | nil =>
      rfl
  | cons edit plan inductionHypothesis =>
      cases edit with
      | reuse kept item =>
          obtain ⟨keptOlder, restOlder⟩ := List.forall_mem_cons.mp instancesOlder
          simpa [placed, isReuse, List.countP_cons, keptOlder] using
            inductionHypothesis restOlder olderGiven
      | add item =>
          have isNew : next ∉ older := fun member => Nat.lt_irrefl _ (olderGiven next member)
          have rest := inductionHypothesis instancesOlder fun id member =>
            Nat.lt_add_right 1 (olderGiven id member)
          simpa [placed, isReuse, List.countP_cons, isNew] using rest
      | remove discarded =>
          obtain ⟨_, restOlder⟩ := List.forall_mem_cons.mp instancesOlder
          simpa [placed, isReuse, List.countP_cons] using
            inductionHypothesis restOlder olderGiven

end Older

theorem filter_not_mem_cons
    {instances : List (RegionInstance η)}
    {first : Nat}
    (others : ∀ id ∈ instances.map RegionInstance.id, id ≠ first)
    (ids : List Nat) :
    instances.filter (fun kept => kept.id ∉ first :: ids) =
      instances.filter fun kept => kept.id ∉ ids := by
  apply List.filter_congr
  intro kept member
  have different := others kept.id (List.mem_map_of_mem member)
  simp only [List.mem_cons, different, false_or]

/-- A plan discards exactly the instances that it does not place again. -/
theorem discarded_eq_filter
    (distinct : ((plan.filterMap instance?).map RegionInstance.id).Nodup)
    (given : ∀ id ∈ (plan.filterMap instance?).map RegionInstance.id, id < next) :
    plan.filterMap discarded? =
      (plan.filterMap instance?).filter fun kept =>
        kept.id ∉ (placed next plan).map Prod.fst := by
  induction plan generalizing next with
  | nil =>
      rfl
  | cons edit plan inductionHypothesis =>
      cases edit with
      | reuse kept item =>
          obtain ⟨keptOnce, restDistinct⟩ := List.nodup_cons.mp distinct
          obtain ⟨_, restGiven⟩ := List.forall_mem_cons.mp given
          have others :
              ∀ id ∈ (plan.filterMap instance?).map RegionInstance.id, id ≠ kept.id :=
            fun id member same => keptOnce (same ▸ member)
          have rest := inductionHypothesis restDistinct restGiven
          rw [← filter_not_mem_cons others] at rest
          change plan.filterMap discarded? =
            (kept :: plan.filterMap instance?).filter fun other =>
              other.id ∉ kept.id :: (placed next plan).map Prod.fst
          rw [rest, List.filter_cons_of_neg (by simp)]
      | add item =>
          have others :
              ∀ id ∈ (plan.filterMap instance?).map RegionInstance.id, id ≠ next :=
            fun id member => Nat.ne_of_lt (given id member)
          have rest := inductionHypothesis distinct fun id member =>
            Nat.lt_add_right 1 (given id member)
          rw [← filter_not_mem_cons others] at rest
          exact rest
      | remove discarded =>
          obtain ⟨discardedOnce, restDistinct⟩ := List.nodup_cons.mp distinct
          obtain ⟨discardedGiven, restGiven⟩ := List.forall_mem_cons.mp given
          have notPlaced : discarded.id ∉ (placed next plan).map Prod.fst := fun member =>
            (id_of_mem_placed member).elim discardedOnce (Nat.not_le_of_lt discardedGiven)
          have rest := inductionHypothesis restDistinct restGiven
          change discarded :: plan.filterMap discarded? =
            (discarded :: plan.filterMap instance?).filter fun other =>
              other.id ∉ (placed next plan).map Prod.fst
          rw [rest, List.filter_cons_of_pos (by simpa using notPlaced)]

end Placed

end Edit

/-!
## Watched hosts that keep a log
-/

/-- A log without the numbers of its handles. -/
def HostLog.unnumbered
    (log : HostLog (HandleRecord σ) (NumberedHandle η)) : HostLog σ η where
  calls := log.calls.map (HostCall.map NumberedHandle.handle)
  host := log.host.host

namespace SyncProgress

/-- What has been done so far, without numbers, in its instances and its log. -/
def unnumbered
    (progress : SyncProgress (HostLog (HandleRecord σ) (NumberedHandle η)) (NumberedHandle η)) :
    SyncProgress (HostLog σ η) η where
  instances := progress.instances.map RegionInstance.unnumbered
  nextId := progress.nextId
  summary := progress.summary
  host := progress.host.unnumbered

variable
  (host : RegionHost σ η)
  (progress : SyncProgress (HostLog (HandleRecord σ) (NumberedHandle η)) (NumberedHandle η))

/-- One step of a plan makes the same calls whether the host is watched or not. -/
theorem step_unnumbered
    (edit : Edit (RegionInstance (NumberedHandle η)) RepeatItem) :
    progress.unnumbered.step host.logged (edit.map RegionInstance.unnumbered id) =
      (progress.step host.watched.logged edit).unnumbered := by
  cases edit <;>
    simp [step, reuse, add, remove, unnumbered, HostLog.unnumbered, Edit.map,
      RegionHost.watched, RegionHost.logged, RegionInstance.unnumbered, HostCall.map]

theorem foldl_step_unnumbered
    (plan : List (Edit (RegionInstance (NumberedHandle η)) RepeatItem)) :
    (plan.map (Edit.map RegionInstance.unnumbered id)).foldl (step host.logged)
        progress.unnumbered =
      (plan.foldl (step host.watched.logged) progress).unnumbered := by
  rw [List.foldl_map]
  exact List.foldl_hom unnumbered (step_unnumbered host)

/-- Told by the numbers of their handles, the calls of a plan are those told by the ids of
its instances, where these agree. -/
theorem foldl_step_identifiedCalls
    {plan : List (Edit (RegionInstance (NumberedHandle η)) RepeatItem)}
    (idIsNumber : ∀ kept ∈ plan.filterMap Edit.instance?, kept.id = kept.number) :
    (plan.foldl (step host.watched.logged) progress).host.calls.map
        (HostCall.map NumberedHandle.number) =
      progress.host.calls.map (HostCall.map NumberedHandle.number) ++
        Edit.identifiedCalls progress.host.host.created plan := by
  induction plan generalizing progress with
  | nil =>
      simp [Edit.identifiedCalls]
  | cons edit plan inductionHypothesis =>
      cases edit with
      | reuse kept item =>
          obtain ⟨sameNumber, restAgree⟩ := List.forall_mem_cons.mp idIsNumber
          rw [List.foldl_cons, inductionHypothesis _ restAgree]
          simp [step, reuse, RegionHost.watched, RegionHost.logged, HostCall.map,
            Edit.identifiedCalls, sameNumber, RegionInstance.number]
      | add item =>
          rw [List.foldl_cons, inductionHypothesis _ idIsNumber]
          simp [step, add, RegionHost.watched, RegionHost.logged, HostCall.map,
            Edit.identifiedCalls]
      | remove discarded =>
          obtain ⟨sameNumber, restAgree⟩ := List.forall_mem_cons.mp idIsNumber
          rw [List.foldl_cons, inductionHypothesis _ restAgree]
          simp [step, remove, RegionHost.watched, RegionHost.logged, HostCall.map,
            Edit.identifiedCalls, sameNumber, RegionInstance.number]

end SyncProgress

end DataBinding

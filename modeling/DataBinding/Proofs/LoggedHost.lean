import DataBinding.Proofs.EditScript
import DataBinding.Repeat.Region
import Mathlib.Data.List.Forall2

namespace DataBinding

/-!
# The calls of a sync

A host that keeps a log tells what a region asks of it, call by call.  Each step
of a plan has its own calls, and the log of a sync is made up of those of its
steps, in order.  Which instances there are afterwards, under which ids and keys,
the plan says by itself, whatever the host does.
-/

/-- What a region asks of its host. -/
inductive HostCall (η : Type) where
  /-- Makes a handle for an item. -/
  | create (item : RepeatItem) (created : η)
  | render (handle : η) (item : RepeatItem)
  | retire (handle : η)
  deriving Repr

/-- The state of a host, and what has been asked of it. -/
structure HostLog (σ η : Type) where
  calls : List (HostCall η)
  host : σ

/-- Nothing asked yet. -/
def HostLog.start (state : σ) : HostLog σ η where
  calls := []
  host := state

/-- A host that does what another does and keeps a log of it. -/
def RegionHost.logged (host : RegionHost σ η) : RegionHost (HostLog σ η) η where
  create item log :=
    let (created, state) := host.create item log.host
    (created, ⟨log.calls ++ [.create item created], state⟩)
  render handle item log :=
    let (rendered, state) := host.render handle item log.host
    (rendered, ⟨log.calls ++ [.render handle item], state⟩)
  retire handle log :=
    ⟨log.calls ++ [.retire handle], host.retire handle log.host⟩

namespace Edit

/-- The calls that a step of a plan makes. -/
inductive Calls : Edit (RegionInstance η) RepeatItem → List (HostCall η) → Prop where
  | reuse
      (kept : RegionInstance η)
      (item : RepeatItem) :
      Calls (.reuse kept item) [.render kept.handle item]
  | add
      (item : RepeatItem)
      (created : η) :
      Calls (.add item) [.create item created, .render created item]
  | remove
      (discarded : RegionInstance η) :
      Calls (.remove discarded) [.retire discarded.handle]

/-- The ids and keys of the instances that a plan places, when `next` is the next
id to be given. -/
def placed
    (next : Nat) :
    List (Edit (RegionInstance η) RepeatItem) → List (Nat × String)
  | [] => []
  | .reuse kept _ :: plan => (kept.id, kept.key) :: placed next plan
  | .add item :: plan => (next, item.key) :: placed (next + 1) plan
  | .remove _ :: plan => placed next plan

/-- The key of the instance that a step places. -/
def placedKey?
    (instanceKey : ι → κ)
    (itemKey : τ → κ) :
    Edit ι τ → Option κ
  | reuse kept _ => some (instanceKey kept)
  | add item => some (itemKey item)
  | remove _ => none

/-- Instances are placed under the keys of the items. -/
theorem Turns.placedKeys
    {instanceKey : ι → κ}
    {itemKey : τ → κ}
    {previous : List (κ × ι)}
    {current : List (κ × τ)}
    {plan : List (Edit ι τ)}
    (turns : Turns previous current plan)
    (previousKeyed : ∀ entry ∈ previous, entry.1 = instanceKey entry.2)
    (currentKeyed : ∀ entry ∈ current, entry.1 = itemKey entry.2) :
    plan.filterMap (placedKey? instanceKey itemKey) = current.map Prod.fst := by
  induction turns with
  | done =>
      rfl
  | reuse key kept item _ inductionHypothesis =>
      obtain ⟨keptKeyed, previousKeyed⟩ := List.forall_mem_cons.mp previousKeyed
      obtain ⟨_, currentKeyed⟩ := List.forall_mem_cons.mp currentKeyed
      simp [placedKey?, ← keptKeyed, inductionHypothesis previousKeyed currentKeyed]
  | add key item _ inductionHypothesis =>
      obtain ⟨itemKeyed, currentKeyed⟩ := List.forall_mem_cons.mp currentKeyed
      simp [placedKey?, ← itemKeyed, inductionHypothesis previousKeyed currentKeyed]
  | remove key discarded _ inductionHypothesis =>
      obtain ⟨_, previousKeyed⟩ := List.forall_mem_cons.mp previousKeyed
      simpa [placedKey?, List.filterMap_cons] using
        inductionHypothesis previousKeyed currentKeyed

theorem map_snd_placed
    (plan : List (Edit (RegionInstance η) RepeatItem))
    (next : Nat) :
    (placed next plan).map Prod.snd =
      plan.filterMap (placedKey? RegionInstance.key RepeatItem.key) := by
  induction plan generalizing next with
  | nil =>
      rfl
  | cons edit plan inductionHypothesis =>
      cases edit <;>
        simp [placed, placedKey?, List.filterMap_cons, inductionHypothesis]

end Edit

/-- The id and the key of an instance. -/
def RegionInstance.idAndKey (kept : RegionInstance η) : Nat × String :=
  (kept.id, kept.key)

namespace SyncProgress

/-- What has been done so far, without the log. -/
def unlogged (progress : SyncProgress (HostLog σ η) η) : SyncProgress σ η where
  instances := progress.instances
  nextId := progress.nextId
  summary := progress.summary
  host := progress.host.host

variable (host : RegionHost σ η)

/-- One step of a plan does the same whether the host keeps a log or not. -/
theorem step_unlogged
    (progress : SyncProgress (HostLog σ η) η)
    (edit : Edit (RegionInstance η) RepeatItem) :
    (progress.step host.logged edit).unlogged = progress.unlogged.step host edit := by
  cases edit <;> rfl

theorem foldl_step_unlogged
    (plan : List (Edit (RegionInstance η) RepeatItem))
    (progress : SyncProgress (HostLog σ η) η) :
    (plan.foldl (step host.logged) progress).unlogged =
      plan.foldl (step host) progress.unlogged := by
  induction plan generalizing progress with
  | nil =>
      rfl
  | cons edit plan inductionHypothesis =>
      rw [List.foldl_cons, List.foldl_cons, inductionHypothesis, step_unlogged]

theorem step_calls
    (progress : SyncProgress (HostLog σ η) η)
    (edit : Edit (RegionInstance η) RepeatItem) :
    ∃ calls,
      edit.Calls calls ∧
        (progress.step host.logged edit).host.calls = progress.host.calls ++ calls := by
  cases edit with
  | reuse kept item =>
      exact ⟨_, .reuse kept item, rfl⟩
  | add item =>
      exact ⟨_, .add item (host.create item progress.host.host).1, by
        simp [step, add, RegionHost.logged]⟩
  | remove discarded =>
      exact ⟨_, .remove discarded, rfl⟩

/-- The log of a plan is made up of the calls of its steps. -/
theorem foldl_step_calls
    (plan : List (Edit (RegionInstance η) RepeatItem))
    (progress : SyncProgress (HostLog σ η) η) :
    ∃ calls,
      List.Forall₂ Edit.Calls plan calls ∧
        (plan.foldl (step host.logged) progress).host.calls =
          progress.host.calls ++ calls.flatten := by
  induction plan generalizing progress with
  | nil =>
      exact ⟨[], .nil, by simp⟩
  | cons edit plan inductionHypothesis =>
      obtain ⟨first, isFirst, logged⟩ := step_calls host progress edit
      obtain ⟨rest, areRest, loggedRest⟩ :=
        inductionHypothesis (progress.step host.logged edit)
      refine ⟨first :: rest, .cons isFirst areRest, ?_⟩
      rw [List.foldl_cons, loggedRest, logged, List.flatten_cons, List.append_assoc]

/-- A plan places its instances behind those already there. -/
theorem foldl_step_placed
    (plan : List (Edit (RegionInstance η) RepeatItem))
    (progress : SyncProgress σ η) :
    (plan.foldl (step host) progress).instances.map RegionInstance.idAndKey =
      progress.instances.map RegionInstance.idAndKey ++
        Edit.placed progress.nextId plan := by
  induction plan generalizing progress with
  | nil =>
      simp [Edit.placed]
  | cons edit plan inductionHypothesis =>
      rw [List.foldl_cons, inductionHypothesis]
      cases edit <;>
        simp [step, reuse, add, remove, Edit.placed, RegionInstance.idAndKey]

/-- The next id and the summary count the steps of a plan. -/
theorem foldl_step_counts
    (plan : List (Edit (RegionInstance η) RepeatItem))
    (progress : SyncProgress σ η) :
    let done := plan.foldl (step host) progress
    done.nextId = progress.nextId + plan.countP Edit.isAdd ∧
      done.summary =
        { reused := progress.summary.reused + plan.countP Edit.isReuse
          added := progress.summary.added + plan.countP Edit.isAdd
          removed := progress.summary.removed + plan.countP Edit.isRemove } := by
  induction plan generalizing progress with
  | nil =>
      simp
  | cons edit plan inductionHypothesis =>
      obtain ⟨nextId, summary⟩ := inductionHypothesis (progress.step host edit)
      simp only [List.foldl_cons, nextId, summary]
      cases edit <;>
        simp [step, reuse, add, remove, List.countP_cons, Edit.isAdd, Edit.isReuse,
          Edit.isRemove] <;>
        omega

end SyncProgress

namespace RepeatRegion

variable
  (host : RegionHost σ η)
  (region : RepeatRegion η)
  (items : List RepeatItem)

/-- A sync does the same whether the host keeps a log or not. -/
theorem sync_logged
    (log : HostLog σ η) :
    let synced := region.sync host.logged items log
    (synced.1, synced.2.1, synced.2.2.host) = region.sync host items log.host := by
  by_cases sequence : region.marker.isSequence = true
  · have same :=
      SyncProgress.foldl_step_unlogged host (region.plan items) (region.begin [] log)
    have begun : (region.begin [] log).unlogged = region.begin [] log.host :=
      rfl
    simp only [sync, sequence, ↓reduceIte, syncSequence]
    rw [← begun, ← same]
    rfl
  · simp only [sync, sequence, Bool.false_eq_true, ↓reduceIte, syncSingle]
    cases items with
    | nil =>
        rfl
    | cons item items =>
        cases region.instances <;> rfl

/-- What a region asks of a host when it is brought up to date. -/
def callsOf
    (state : σ) : List (HostCall η) :=
  (region.sync host.logged items (.start state)).2.2.calls

variable
  {region : RepeatRegion η}
  (sequence : region.marker.isSequence = true)

include sequence

/-- The region asks of the host what the steps of its plan ask, in order. -/
theorem callsOf_eq_flatten
    (state : σ) :
    ∃ calls,
      List.Forall₂ Edit.Calls (region.plan items) calls ∧
        region.callsOf host items state = calls.flatten := by
  obtain ⟨calls, areCalls, logged⟩ :=
    SyncProgress.foldl_step_calls host (region.plan items)
      (region.begin [] (.start state))
  refine ⟨calls, areCalls, ?_⟩
  simp only [callsOf, sync, sequence, ↓reduceIte, syncSequence, logged]
  rfl

/-- The ids and keys after a sync follow from the plan. -/
theorem idsAndKeys_sync
    (state : σ) :
    (region.sync host items state).1.instances.map RegionInstance.idAndKey =
      Edit.placed region.nextId (region.plan items) := by
  simp only [sync, sequence, ↓reduceIte, syncSequence, SyncProgress.foldl_step_placed]
  rfl

/-- After a sync the instances have the keys of the items, in their order. -/
theorem keys_sync
    (state : σ) :
    (region.sync host items state).1.keys = items.map RepeatItem.key := by
  have instancesKeyed :
      ∀ entry ∈ region.instances.map (fun kept => (kept.key, kept)),
        entry.1 = entry.2.key := by
    simp
  have itemsKeyed :
      ∀ entry ∈ items.map (fun item => (item.key, item)), entry.1 = entry.2.key := by
    simp
  have placedKeys := (editPlan_turns _ _).placedKeys instancesKeyed itemsKeyed
  calc
    (region.sync host items state).1.keys =
        ((region.sync host items state).1.instances.map
          RegionInstance.idAndKey).map Prod.snd := by
      simp [keys, RegionInstance.idAndKey, Function.comp_def]
    _ = (region.plan items).filterMap
          (Edit.placedKey? RegionInstance.key RepeatItem.key) := by
      rw [idsAndKeys_sync host items sequence, Edit.map_snd_placed]
    _ = items.map RepeatItem.key := by
      simpa [plan, Function.comp_def] using placedKeys

/-- The next id and the summary of a sync count the steps of its plan. -/
theorem counts_sync
    (state : σ) :
    let synced := region.sync host items state
    synced.1.nextId = region.nextId + (region.plan items).countP Edit.isAdd ∧
      synced.2.1 =
        { reused := (region.plan items).countP Edit.isReuse
          added := (region.plan items).countP Edit.isAdd
          removed := (region.plan items).countP Edit.isRemove } := by
  have counts :=
    SyncProgress.foldl_step_counts host (region.plan items) (region.begin [] state)
  simp only [sync, sequence, ↓reduceIte, syncSequence, counts]
  simp [begin, SyncSummary.none]

end RepeatRegion

end DataBinding

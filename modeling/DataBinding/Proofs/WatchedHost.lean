import DataBinding.Proofs.EditScript
import DataBinding.Repeat.Region
import Mathlib.Data.List.Induction

namespace DataBinding

open List

/-!
# Watched hosts

A run is any sequence of calls that bring a region up to date, each with its own
items and its own host.  To tell handles apart whatever a host puts into them, a
host is watched: every handle carries the number of the creation that it comes
from, and the state of the host a record of what was created and retired.
Watching changes nothing of what a host does.
-/

/-- One call that brings a region up to date. -/
structure SyncCall (σ η : Type) where
  host : RegionHost σ η
  items : List RepeatItem

namespace SyncCall

/-- Makes a call on a region, in a state of the world. -/
def run
    (call : SyncCall σ η)
    (reached : RepeatRegion η × σ) : RepeatRegion η × σ :=
  let synced := reached.1.sync call.host call.items reached.2
  (synced.1, synced.2.2)

/-- Makes calls one after the other on a new region. -/
def runAll
    (marker : RepeatMarker)
    (state : σ)
    (calls : List (SyncCall σ η)) : RepeatRegion η × σ :=
  calls.foldl (fun reached call => call.run reached) (.empty marker, state)

end SyncCall

/-- A handle with the number of the creation that it comes from. -/
structure NumberedHandle (η : Type) where
  handle : η
  number : Nat

/-- The state of a host, how many handles were created, and the numbers of those
that were retired. -/
structure HandleRecord (σ : Type) where
  host : σ
  created : Nat
  retired : List Nat

namespace HandleRecord

/-- Nothing created yet. -/
def start (state : σ) : HandleRecord σ where
  host := state
  created := 0
  retired := []

end HandleRecord

/-- A host that does what another does and keeps a record of it. -/
def RegionHost.watched
    (host : RegionHost σ η) :
    RegionHost (HandleRecord σ) (NumberedHandle η) where
  create item record :=
    let (handle, state) := host.create item record.host
    (⟨handle, record.created⟩,
      { record with host := state, created := record.created + 1 })
  render numbered item record :=
    let (handle, state) := host.render numbered.handle item record.host
    (⟨handle, numbered.number⟩, { record with host := state })
  retire numbered record :=
    { record with
      host := host.retire numbered.handle record.host
      retired := record.retired ++ [numbered.number] }

/-- The call of a watched host. -/
def SyncCall.watched
    (call : SyncCall σ η) :
    SyncCall (HandleRecord σ) (NumberedHandle η) where
  host := call.host.watched
  items := call.items

/-- A run with a record of its handles. -/
def SyncCall.watchedRun
    (marker : RepeatMarker)
    (state : σ)
    (calls : List (SyncCall σ η)) :
    RepeatRegion (NumberedHandle η) × HandleRecord σ :=
  runAll marker (HandleRecord.start state) (calls.map SyncCall.watched)

/-!
## Watching changes nothing
-/

namespace Edit

/-- A step with its instance and its item replaced. -/
def map
    (instanceMap : ι → ι')
    (itemMap : τ → τ') :
    Edit ι τ → Edit ι' τ'
  | reuse kept item => .reuse (instanceMap kept) (itemMap item)
  | add item => .add (itemMap item)
  | remove discarded => .remove (instanceMap discarded)

end Edit

theorem distance?_map
    [DecidableEq κ]
    (key : κ)
    (valueMap : α → β)
    (entries : List (κ × α)) :
    distance? key (entries.map (Prod.map id valueMap)) = distance? key entries := by
  simp [distance?, List.findIdx?_map, Function.comp_def]

/-- Plans depend on the keys alone. -/
theorem editPlan_map
    [DecidableEq κ]
    (instanceMap : ι → ι')
    (itemMap : τ → τ')
    (previous : List (κ × ι))
    (current : List (κ × τ)) :
    editPlan
        (previous.map (Prod.map id instanceMap))
        (current.map (Prod.map id itemMap)) =
      (editPlan previous current).map (Edit.map instanceMap itemMap) := by
  fun_induction editPlan previous current with
  | case1 =>
      simp [editPlan]
  | case2 key item items inductionHypothesis =>
      simpa [editPlan, Edit.map] using inductionHypothesis
  | case3 key kept instances inductionHypothesis =>
      simpa [editPlan, Edit.map] using inductionHypothesis
  | case4 kept instances key item items inductionHypothesis =>
      simpa [editPlan, Edit.map] using inductionHypothesis
  | case5 previousKey kept instances currentKey item items different waits
      inductionHypothesis =>
      simpa [editPlan, Edit.map, different, distance?_map, waits] using
        inductionHypothesis
  | case6 previousKey kept instances currentKey item items different waits
      inductionHypothesis =>
      simpa [editPlan, Edit.map, different, distance?_map, waits] using
        inductionHypothesis

/-- An instance without the number of its handle. -/
def RegionInstance.unnumbered
    (kept : RegionInstance (NumberedHandle η)) : RegionInstance η where
  id := kept.id
  key := kept.key
  handle := kept.handle.handle

/-- A region without the numbers of its handles. -/
def RepeatRegion.unnumbered
    (region : RepeatRegion (NumberedHandle η)) : RepeatRegion η where
  marker := region.marker
  instances := region.instances.map RegionInstance.unnumbered
  nextId := region.nextId

/-- What has been done so far, without numbers and record. -/
def SyncProgress.unwatched
    (progress : SyncProgress (HandleRecord σ) (NumberedHandle η)) :
    SyncProgress σ η where
  instances := progress.instances.map RegionInstance.unnumbered
  nextId := progress.nextId
  summary := progress.summary
  host := progress.host.host

namespace SyncProgress

/-- One step of a plan does the same whether the host is watched or not. -/
theorem step_unwatched
    (host : RegionHost σ η)
    (progress : SyncProgress (HandleRecord σ) (NumberedHandle η))
    (edit : Edit (RegionInstance (NumberedHandle η)) RepeatItem) :
    (progress.step host.watched edit).unwatched =
      progress.unwatched.step host (edit.map RegionInstance.unnumbered id) := by
  cases edit <;>
    simp [step, reuse, add, remove, unwatched, Edit.map, RegionHost.watched,
      RegionInstance.unnumbered]

theorem foldl_step_unwatched
    (host : RegionHost σ η)
    (plan : List (Edit (RegionInstance (NumberedHandle η)) RepeatItem))
    (progress : SyncProgress (HandleRecord σ) (NumberedHandle η)) :
    (plan.foldl (step host.watched) progress).unwatched =
      (plan.map (Edit.map RegionInstance.unnumbered id)).foldl (step host)
        progress.unwatched := by
  induction plan generalizing progress with
  | nil =>
      rfl
  | cons edit plan inductionHypothesis =>
      simp only [List.foldl_cons, List.map_cons]
      rw [inductionHypothesis, step_unwatched]

end SyncProgress

namespace RepeatRegion

theorem plan_unnumbered
    (region : RepeatRegion (NumberedHandle η))
    (items : List RepeatItem) :
    region.unnumbered.plan items =
      (region.plan items).map (Edit.map RegionInstance.unnumbered id) := by
  have planned :=
    editPlan_map RegionInstance.unnumbered id
      (region.instances.map fun kept => (kept.key, kept))
      (items.map fun item => (item.key, item))
  simpa [plan, unnumbered, Function.comp_def, RegionInstance.unnumbered] using planned

theorem syncSequence_unwatched
    (host : RegionHost σ η)
    (region : RepeatRegion (NumberedHandle η))
    (items : List RepeatItem)
    (record : HandleRecord σ) :
    (region.syncSequence host.watched items record).unwatched =
      region.unnumbered.syncSequence host items record.host := by
  simp only [syncSequence]
  rw [SyncProgress.foldl_step_unwatched, plan_unnumbered]
  rfl

theorem syncSingle_unwatched
    (host : RegionHost σ η)
    (region : RepeatRegion (NumberedHandle η))
    (items : List RepeatItem)
    (record : HandleRecord σ) :
    (region.syncSingle host.watched items record).unwatched =
      region.unnumbered.syncSingle host items record.host := by
  obtain ⟨marker, instances, nextId⟩ := region
  cases items with
  | nil =>
      rfl
  | cons item items =>
      cases instances with
      | nil =>
          rfl
      | cons first rest =>
          simp [syncSingle, unnumbered, SyncProgress.unwatched, SyncProgress.reuse,
            RegionInstance.unnumbered, RegionHost.watched, begin]

/-- A sync does the same whether its host is watched or not. -/
theorem sync_unwatched
    (host : RegionHost σ η)
    (region : RepeatRegion (NumberedHandle η))
    (items : List RepeatItem)
    (record : HandleRecord σ) :
    let synced := region.sync host.watched items record
    (synced.1.unnumbered, synced.2.1, synced.2.2.host) =
      region.unnumbered.sync host items record.host := by
  have sameSequence := region.syncSequence_unwatched host items record
  have sameSingle := region.syncSingle_unwatched host items record
  by_cases sequence : region.marker.isSequence = true
  · simp only [sync, unnumbered, sequence, ↓reduceIte] at sameSequence ⊢
    rw [← sameSequence]
    rfl
  · simp only [sync, unnumbered, sequence, Bool.false_eq_true, ↓reduceIte] at sameSingle ⊢
    rw [← sameSingle]
    rfl

end RepeatRegion

namespace SyncCall

/-- A call does the same whether its host is watched or not. -/
theorem run_unwatched
    (call : SyncCall σ η)
    (reached : RepeatRegion (NumberedHandle η) × HandleRecord σ) :
    ((call.watched.run reached).1.unnumbered, (call.watched.run reached).2.host) =
      call.run (reached.1.unnumbered, reached.2.host) := by
  have same := reached.1.sync_unwatched call.host call.items reached.2
  exact congrArg (fun synced => (synced.1, synced.2.2)) same

/-- A run does the same whether the hosts are watched or not. -/
theorem watchedRun_unwatched
    (marker : RepeatMarker)
    (state : σ)
    (calls : List (SyncCall σ η)) :
    ((watchedRun marker state calls).1.unnumbered,
        (watchedRun marker state calls).2.host) =
      runAll marker state calls := by
  induction calls using List.reverseRecOn with
  | nil =>
      rfl
  | append_singleton calls call inductionHypothesis =>
      simp only [watchedRun, runAll, List.map_append, List.map_cons, List.map_nil,
        List.foldl_append, List.foldl_cons, List.foldl_nil] at inductionHypothesis ⊢
      rw [← inductionHypothesis]
      exact run_unwatched call _

end SyncCall

end DataBinding

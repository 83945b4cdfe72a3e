import DataBinding.Repeat.EditPlan
import DataBinding.Repeat.Item

namespace DataBinding

/-!
# Repeated regions

A region keeps one instance for each item, in the order of the items.  What an
instance consists of is up to a host: the region holds a handle for each and
tells the host when to create, render and retire.
-/

/-- One rendered copy of the template of a region. -/
structure RegionInstance (η : Type) where
  /-- A number that no other instance of the region ever has. -/
  id : Nat
  key : String
  handle : η
  deriving Repr

/-- The instances of a region, and the number that the next one gets. -/
structure RepeatRegion (η : Type) where
  marker : RepeatMarker
  instances : List (RegionInstance η)
  nextId : Nat
  deriving Repr

/-- What a host does, each deed changing the state of the host. -/
structure RegionHost (σ η : Type) where
  create : RepeatItem → σ → η × σ
  render : η → RepeatItem → σ → η × σ
  retire : η → σ → σ

/-- How many instances were reused, added and removed. -/
structure SyncSummary where
  reused : Nat
  added : Nat
  removed : Nat
  deriving Repr, DecidableEq

namespace SyncSummary

/-- Nothing done. -/
def none : SyncSummary where
  reused := 0
  added := 0
  removed := 0

end SyncSummary

/-- What has been done so far while a region is brought up to date. -/
structure SyncProgress (σ η : Type) where
  instances : List (RegionInstance η)
  nextId : Nat
  summary : SyncSummary
  host : σ

namespace SyncProgress

/-- Renders an instance again for an item and keeps it. -/
def reuse
    (host : RegionHost σ η)
    (progress : SyncProgress σ η)
    (kept : RegionInstance η)
    (item : RepeatItem) : SyncProgress σ η :=
  let (handle, state) := host.render kept.handle item progress.host
  { instances := progress.instances ++ [{ kept with handle := handle }]
    nextId := progress.nextId
    summary := { progress.summary with reused := progress.summary.reused + 1 }
    host := state }

/-- Creates an instance for an item, renders it and keeps it. -/
def add
    (host : RegionHost σ η)
    (progress : SyncProgress σ η)
    (item : RepeatItem) : SyncProgress σ η :=
  let (created, state) := host.create item progress.host
  let (handle, state) := host.render created item state
  { instances := progress.instances ++ [⟨progress.nextId, item.key, handle⟩]
    nextId := progress.nextId + 1
    summary := { progress.summary with added := progress.summary.added + 1 }
    host := state }

/-- Retires an instance. -/
def remove
    (host : RegionHost σ η)
    (progress : SyncProgress σ η)
    (discarded : RegionInstance η) : SyncProgress σ η :=
  { progress with
    summary := { progress.summary with removed := progress.summary.removed + 1 }
    host := host.retire discarded.handle progress.host }

/-- Carries out one step of an edit plan. -/
def step
    (host : RegionHost σ η)
    (progress : SyncProgress σ η) :
    Edit (RegionInstance η) RepeatItem → SyncProgress σ η
  | .reuse kept item => progress.reuse host kept item
  | .add item => progress.add host item
  | .remove discarded => progress.remove host discarded

end SyncProgress

namespace RepeatRegion

/-- A region without instances. -/
def empty (marker : RepeatMarker) : RepeatRegion η where
  marker := marker
  instances := []
  nextId := 0

/-- The keys of the instances. -/
def keys (region : RepeatRegion η) : List String :=
  region.instances.map RegionInstance.key

/-- The plan that fits the instances of a region to items. -/
def plan
    (region : RepeatRegion η)
    (items : List RepeatItem) : List (Edit (RegionInstance η) RepeatItem) :=
  editPlan
    (region.instances.map fun kept => (kept.key, kept))
    (items.map fun item => (item.key, item))

/-- The start of bringing a region up to date, with some instances kept. -/
def begin
    (region : RepeatRegion η)
    (instances : List (RegionInstance η))
    (state : σ) : SyncProgress σ η where
  instances := instances
  nextId := region.nextId
  summary := .none
  host := state

/-- Brings a region with one instance for each item up to date. -/
def syncSequence
    (host : RegionHost σ η)
    (region : RepeatRegion η)
    (items : List RepeatItem)
    (state : σ) : SyncProgress σ η :=
  (region.plan items).foldl (SyncProgress.step host) (region.begin [] state)

/-- Brings a region with a single instance up to date.  Only the first item
counts, and the instance takes its key. -/
def syncSingle
    (host : RegionHost σ η)
    (region : RepeatRegion η)
    (items : List RepeatItem)
    (state : σ) : SyncProgress σ η :=
  match items, region.instances with
  | [], instances => region.begin instances state
  | item :: _, [] => (region.begin [] state).add host item
  | item :: _, first :: rest =>
      let progress := (region.begin [] state).reuse host { first with key := item.key } item
      { progress with instances := progress.instances ++ rest }

/-- Brings the instances of a region in line with items. -/
def sync
    (host : RegionHost σ η)
    (region : RepeatRegion η)
    (items : List RepeatItem)
    (state : σ) : RepeatRegion η × SyncSummary × σ :=
  let progress :=
    if region.marker.isSequence then
      region.syncSequence host items state
    else
      region.syncSingle host items state
  ({ region with instances := progress.instances, nextId := progress.nextId },
    progress.summary, progress.host)

end RepeatRegion

end DataBinding

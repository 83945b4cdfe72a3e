import DataBinding.Proofs.SingleElementChange
import DataBinding.Proofs.SyncCalls

namespace DataBinding

/-!
# A region in step with its items

After a sync a region has one instance for each item.  On the way each of them is rendered
once, in the order of the items, and directly after its creation if it is new.  The old
instances that are given up are retired, in their old order, and all others are kept.  All
this is told on a watched host, on which handles have numbers: a region that any run has
reached does the same there as on the host itself.
-/

namespace RepeatRegion

/-- What one sync does to a region: the instances it finds and those it leaves, what it
counts and what it asks of the host. -/
structure InStep
    (before after : RepeatRegion (NumberedHandle η))
    (items : List RepeatItem)
    (summary : SyncSummary)
    (calls : List (HostCall (NumberedHandle η))) : Prop where
  keysFollow :
    after.keys = items.map RepeatItem.key
  itemsVisited :
    (calls.map (HostCall.map NumberedHandle.number)).filter
        (fun call => call.retired?.isNone) =
      (List.zipWith (HostCall.visit (before.instances.map RegionInstance.number))
        (after.instances.map RegionInstance.number) items).flatten
  handlesGiven :
    ∀ handle item,
      .render handle item ∈ calls →
      handle ∈ before.instances.map RegionInstance.handle ∨ .create item handle ∈ calls
  createdAreRendered :
    HostCall.RendersCreated calls
  othersRetired :
    calls.filterMap HostCall.retired? =
      (before.instances.filter fun kept =>
        kept.number ∉ after.instances.map RegionInstance.number).map RegionInstance.handle
  survivorsReused :
    summary.reused = (RegionInstance.survivorsOf before.instances after.instances).length
  itemsPlaced :
    summary.reused + summary.added = after.instances.length
  instancesDealtWith :
    summary.reused + summary.removed = before.instances.length
  sameKeysKept :
    before.keys = items.map RepeatItem.key →
      summary = ⟨items.length, 0, 0⟩ ∧
        after.instances.map RegionInstance.identity =
          before.instances.map RegionInstance.identity

/-- Where the items have the keys of the instances, all instances are reused. -/
theorem plan_of_agree
    {region : RepeatRegion η}
    {items : List RepeatItem}
    (agree : region.keys = items.map RepeatItem.key) :
    region.plan items = Edit.reuses region.instances items := by
  rw [plan, editPlan_of_agree (keyed_agree agree)]
  simp [Edit.reusals, Edit.reuses, List.zipWith_map]

/-- In a region that is accounted for, ids tell handles apart. -/
theorem Accounted.identities_eq
    {region : RepeatRegion (NumberedHandle η)}
    {record : HandleRecord σ}
    (accounted : region.Accounted record) :
    region.instances.map RegionInstance.identity =
      (region.instances.map RegionInstance.idAndKey).map fun entry => (entry.1, entry) := by
  rw [List.map_map]
  refine List.map_congr_left fun kept member => ?_
  rw [RegionInstance.identity, ← accounted.idIsNumber kept member]
  rfl

section Reached

variable
  {region : RepeatRegion (NumberedHandle η)}
  {record : HandleRecord σ}
  (accounted : region.Accounted record)
  (sequence : region.marker.isSequence = true)
  (host : RegionHost σ η)
  (items : List RepeatItem)

include accounted

theorem Accounted.numbers_lt :
    ∀ number ∈ region.instances.map RegionInstance.number, number < region.nextId := by
  intro number member
  obtain ⟨kept, keptMember, rfl⟩ := List.mem_map.mp member
  exact accounted.number_lt keptMember

/-- The ids that a plan deals with are the numbers of the handles. -/
theorem Accounted.plan_ids :
    ((region.plan items).filterMap Edit.instance?).map RegionInstance.id =
      region.instances.map RegionInstance.number := by
  rw [plan_instances, accounted.ids_eq]

theorem Accounted.plan_older :
    ∀ id ∈ ((region.plan items).filterMap Edit.instance?).map RegionInstance.id,
      id ∈ region.instances.map RegionInstance.number := by
  rw [accounted.plan_ids]
  exact fun _ member => member

theorem Accounted.sync :
    (region.sync host.watched items record).1.Accounted
      (region.sync host.watched items record).2.2 := by
  have reached : (region, record).1.Accounted (region, record).2 := accounted
  exact SyncCall.accounted_run ⟨host, items⟩ reached

include sequence

/-- The handles after a sync are those of the ids that the plan places. -/
theorem numbers_sync :
    (region.sync host.watched items record).1.instances.map RegionInstance.number =
      (Edit.placed region.nextId (region.plan items)).map Prod.fst := by
  rw [← (accounted.sync host items).ids_eq,
    ← idsAndKeys_sync host.watched items sequence record, List.map_map]
  rfl

/-- What a sync asks of a watched host is told by the ids of the instances. -/
theorem numbers_callsOf :
    (region.callsOf host.watched items record).map (HostCall.map NumberedHandle.number) =
      Edit.identifiedCalls region.nextId (region.plan items) := by
  have idIsNumber :
      ∀ kept ∈ (region.plan items).filterMap Edit.instance?, kept.id = kept.number := by
    rw [plan_instances]
    exact accounted.idIsNumber
  simp only [callsOf, RepeatRegion.sync, sequence, ↓reduceIte, syncSequence]
  rw [SyncProgress.foldl_step_identifiedCalls host _ idIsNumber]
  simp [RepeatRegion.begin, HostLog.start, accounted.nextIdCounts]

/-- Apart from retirements, a sync visits the instances that it leaves, each for its item. -/
theorem visits_callsOf :
    ((region.callsOf host.watched items record).map
        (HostCall.map NumberedHandle.number)).filter (fun call => call.retired?.isNone) =
      (List.zipWith (HostCall.visit (region.instances.map RegionInstance.number))
        ((region.sync host.watched items record).1.instances.map RegionInstance.number)
        items).flatten := by
  rw [numbers_callsOf accounted sequence, numbers_sync accounted sequence,
    Edit.identifiedCalls_visits (accounted.plan_older items) accounted.numbers_lt, plan_items]

/-- A sync retires the handles of the old instances that it does not leave. -/
theorem retired_callsOf :
    (region.callsOf host.watched items record).filterMap HostCall.retired? =
      (region.instances.filter fun kept =>
        kept.number ∉
          (region.sync host.watched items record).1.instances.map
            RegionInstance.number).map RegionInstance.handle := by
  obtain ⟨calls, areCalls, flattened⟩ :=
    callsOf_eq_flatten host.watched items sequence record
  have idsDistinct :
      (((region.plan items).filterMap Edit.instance?).map RegionInstance.id).Nodup := by
    rw [plan_instances]
    exact accounted.ids_nodup
  have idsGiven :
      ∀ id ∈ ((region.plan items).filterMap Edit.instance?).map RegionInstance.id,
        id < region.nextId := by
    rw [accounted.plan_ids]
    exact accounted.numbers_lt
  rw [flattened, Edit.retired_of_calls areCalls, numbers_sync accounted sequence,
    Edit.discarded_eq_filter idsDistinct idsGiven, plan_instances]
  congr 1
  apply List.filter_congr
  intro kept member
  rw [accounted.idIsNumber kept member]

/-- A sync counts as reused the instances that it finds and leaves. -/
theorem reused_sync :
    (region.sync host.watched items record).2.1.reused =
      (RegionInstance.survivorsOf region.instances
        (region.sync host.watched items record).1.instances).length := by
  obtain ⟨_, summary⟩ := counts_sync host.watched items sequence record
  rw [summary, ← Edit.countP_placed (accounted.plan_older items) accounted.numbers_lt,
    ← numbers_sync accounted sequence host, List.countP_map, RegionInstance.survivorsOf,
    ← List.countP_eq_length_filter]
  rfl

/-- Where the items have the keys of the instances, a sync reuses all and changes no id. -/
theorem sync_of_agree
    (agree : region.keys = items.map RepeatItem.key) :
    (region.sync host.watched items record).2.1 = ⟨items.length, 0, 0⟩ ∧
      (region.sync host.watched items record).1.instances.map RegionInstance.identity =
        region.instances.map RegionInstance.identity := by
  have sameLength : region.instances.length = items.length := by
    simpa [RepeatRegion.keys] using congrArg List.length agree
  obtain ⟨_, summary⟩ := counts_sync host.watched items sequence record
  obtain ⟨reused, added, removed⟩ := Edit.counts_reuses sameLength
  constructor
  · rw [summary, plan_of_agree agree, reused, added, removed]
  · rw [(accounted.sync host items).identities_eq, accounted.identities_eq,
      idsAndKeys_sync host.watched items sequence, plan_of_agree agree,
      Edit.placed_reuses sameLength]

/-- A sync brings a region that is accounted for in step with its items. -/
theorem Accounted.inStep_sync :
    InStep region (region.sync host.watched items record).1 items
      (region.sync host.watched items record).2.1
      (region.callsOf host.watched items record) := by
  have turns := editPlan_turns
    (region.instances.map fun kept => (kept.key, kept))
    (items.map fun item => (item.key, item))
  have keys := keys_sync host.watched items sequence record
  obtain ⟨_, summary⟩ := counts_sync host.watched items sequence record
  obtain ⟨calls, areCalls, flattened⟩ := callsOf_eq_flatten host.watched items sequence record
  constructor
  case keysFollow =>
    exact keys
  case itemsVisited =>
    exact visits_callsOf accounted sequence host items
  case handlesGiven =>
    intro handle item rendered
    rw [flattened] at rendered ⊢
    rw [← region.plan_instances items]
    exact Edit.handle_of_rendered areCalls rendered
  case createdAreRendered =>
    rw [flattened]
    exact Edit.rendersCreated_of_calls areCalls
  case othersRetired =>
    exact retired_callsOf accounted sequence host items
  case survivorsReused =>
    exact reused_sync accounted sequence host items
  case itemsPlaced =>
    have sameLength := congrArg List.length keys
    have placed := turns.countP_isReuse_add_isAdd
    simp only [RepeatRegion.keys, List.length_map] at sameLength placed
    rw [summary, sameLength]
    exact placed
  case instancesDealtWith =>
    have dealtWith := turns.countP_isReuse_add_isRemove
    rw [List.length_map] at dealtWith
    rw [summary]
    exact dealtWith
  case sameKeysKept =>
    exact sync_of_agree accounted sequence host items

end Reached

/-- What a sync asks of a host does not depend on whether the host is watched. -/
theorem callsOf_unnumbered
    {region : RepeatRegion (NumberedHandle η)}
    (sequence : region.marker.isSequence = true)
    (host : RegionHost σ η)
    (items : List RepeatItem)
    (record : HandleRecord σ) :
    (region.callsOf host.watched items record).map (HostCall.map NumberedHandle.handle) =
      region.unnumbered.callsOf host items record.host := by
  have sameSequence : region.unnumbered.marker.isSequence = true := sequence
  have same :=
    SyncProgress.foldl_step_unnumbered host (region.begin [] (.start record))
      (region.plan items)
  simp only [callsOf, RepeatRegion.sync, sequence, sameSequence, ↓reduceIte, syncSequence,
    plan_unnumbered]
  exact congrArg (fun progress => progress.host.calls) same.symm

end RepeatRegion

/--
What one more call does to a sequence that some calls have reached.  Keeping a log and
watching change nothing, so what is told on the watched host holds of the host itself.
-/
structure SyncedInStep
    (name : String)
    (state : σ)
    (calls : List (SyncCall σ η))
    (call : SyncCall σ η) : Prop where
  logIsPassive :
    let reached := SyncCall.runAll ⟨name, true⟩ state calls
    let logged := reached.1.sync call.host.logged call.items (.start reached.2)
    (logged.1, logged.2.1, logged.2.2.host) =
      reached.1.sync call.host call.items reached.2
  recordIsPassive :
    let reached := SyncCall.runAll ⟨name, true⟩ state calls
    let watched := SyncCall.watchedRun ⟨name, true⟩ state calls
    let synced := watched.1.sync call.host.watched call.items watched.2
    (synced.1.unnumbered, synced.2.1, synced.2.2.host) =
        reached.1.sync call.host call.items reached.2 ∧
      (watched.1.callsOf call.host.watched call.items watched.2).map
          (HostCall.map NumberedHandle.handle) =
        reached.1.callsOf call.host call.items reached.2
  inStep :
    let watched := SyncCall.watchedRun ⟨name, true⟩ state calls
    let synced := watched.1.sync call.host.watched call.items watched.2
    watched.1.InStep synced.1 call.items synced.2.1
      (watched.1.callsOf call.host.watched call.items watched.2)

/-- Every call brings a sequence in step with its items, whatever calls went before. -/
theorem syncedInStep
    (name : String)
    (state : σ)
    (calls : List (SyncCall σ η))
    (call : SyncCall σ η) :
    SyncedInStep name state calls call := by
  have sequence :
      (SyncCall.watchedRun ⟨name, true⟩ state calls).1.marker.isSequence = true := by
    rw [SyncCall.marker_watchedRun]
  constructor
  case logIsPassive =>
    exact RepeatRegion.sync_logged _ _ _ _
  case recordIsPassive =>
    intro reached watched synced
    have unwatched : (watched.1.unnumbered, watched.2.host) = reached :=
      SyncCall.watchedRun_unwatched ⟨name, true⟩ state calls
    rw [← unwatched]
    exact ⟨watched.1.sync_unwatched call.host call.items watched.2,
      RepeatRegion.callsOf_unnumbered sequence call.host call.items watched.2⟩
  case inStep =>
    exact (SyncCall.accounted_watchedRun ⟨name, true⟩ state calls).inStep_sync sequence
      call.host call.items

end DataBinding

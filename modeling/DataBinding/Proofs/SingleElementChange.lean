import DataBinding.Proofs.LoggedHost
import DataBinding.Proofs.PlanRuns

namespace DataBinding

/-!
# Insertion and deletion of one element

When a collection gains or loses a single element and no two elements share a
key, the plan for its region keeps every other instance: in front of the change
the keys agree, at the change one key is found nowhere in the other list, and
behind it the keys agree again.
-/

/-!
## Plans for lists that agree but for one entry
-/

section Plans

variable [DecidableEq κ]

/-- An item in front whose key no instance has is added, and all instances are
reused for the items behind it. -/
theorem editPlan_insertion
    {previous : List (κ × ι)}
    {current : List (κ × τ)}
    (agree : previous.map Prod.fst = current.map Prod.fst)
    {key : κ}
    (unused : key ∉ previous.map Prod.fst)
    (item : τ) :
    editPlan previous ((key, item) :: current) =
      .add item :: Edit.reusals previous current := by
  have noneUses : ∀ other ∈ [(key, item)].map Prod.fst, other ∉ previous.map Prod.fst := by
    simpa using unused
  have added := editPlan_additions agree noneUses
  rwa [editPlan_of_agree agree] at added

/-- An instance in front whose key no item has is removed, and all other instances
are reused. -/
theorem editPlan_deletion
    {previous : List (κ × ι)}
    {current : List (κ × τ)}
    (agree : previous.map Prod.fst = current.map Prod.fst)
    {key : κ}
    (unused : key ∉ current.map Prod.fst)
    (discarded : ι) :
    editPlan ((key, discarded) :: previous) current =
      .remove discarded :: Edit.reusals previous current := by
  rw [editPlan_removal unused, editPlan_of_agree agree]

end Plans

/-!
## What the steps of such plans come to
-/

/-- The steps that reuse instances for items, one for one. -/
def Edit.reuses
    (instances : List (RegionInstance η))
    (items : List RepeatItem) : List (Edit (RegionInstance η) RepeatItem) :=
  List.zipWith Edit.reuse instances items

/-- The calls that render instances for items, one for one. -/
def HostCall.renders
    (instances : List (RegionInstance η))
    (items : List RepeatItem) : List (HostCall η) :=
  List.zipWith (fun kept item => .render kept.handle item) instances items

namespace Edit

/-- Reusing steps in front of a plan make the calls that render. -/
theorem calls_reuses_append
    {instances : List (RegionInstance η)}
    {items : List RepeatItem}
    {plan : List (Edit (RegionInstance η) RepeatItem)}
    {calls : List (List (HostCall η))}
    (areCalls : List.Forall₂ Edit.Calls (reuses instances items ++ plan) calls) :
    ∃ rest,
      List.Forall₂ Edit.Calls plan rest ∧
        calls.flatten = HostCall.renders instances items ++ rest.flatten := by
  induction instances generalizing items calls with
  | nil =>
      exact ⟨calls, areCalls, rfl⟩
  | cons kept instances inductionHypothesis =>
      cases items with
      | nil =>
          exact ⟨calls, areCalls, rfl⟩
      | cons item items =>
          rcases areCalls with _ | ⟨isFirst, areRest⟩
          cases isFirst
          obtain ⟨rest, areBehind, flattened⟩ := inductionHypothesis areRest
          refine ⟨rest, areBehind, ?_⟩
          simp [HostCall.renders, flattened]

/-- A step between two rows of reusing steps makes its calls between theirs. -/
theorem calls_around
    {kept left : List (RegionInstance η)}
    {front back : List RepeatItem}
    {edit : Edit (RegionInstance η) RepeatItem}
    {calls : List (List (HostCall η))}
    (areCalls :
      List.Forall₂ Edit.Calls (reuses kept front ++ edit :: reuses left back) calls) :
    ∃ between,
      edit.Calls between ∧
        calls.flatten =
          HostCall.renders kept front ++ between ++ HostCall.renders left back := by
  obtain ⟨rest, areRest, flattened⟩ := calls_reuses_append areCalls
  rcases areRest with _ | ⟨isBetween, areBehind⟩
  rw [← List.append_nil (reuses left back)] at areBehind
  obtain ⟨behind, areNone, flattenedBehind⟩ := calls_reuses_append areBehind
  cases areNone
  refine ⟨_, isBetween, ?_⟩
  simp [flattened, flattenedBehind]

/-- Reused instances keep their ids and keys. -/
theorem placed_reuses_append
    {instances : List (RegionInstance η)}
    {items : List RepeatItem}
    (sameLength : instances.length = items.length)
    (next : Nat)
    (plan : List (Edit (RegionInstance η) RepeatItem)) :
    placed next (reuses instances items ++ plan) =
      instances.map RegionInstance.idAndKey ++ placed next plan := by
  induction instances generalizing items with
  | nil =>
      rfl
  | cons kept instances inductionHypothesis =>
      cases items with
      | nil =>
          cases sameLength
      | cons item items =>
          simpa [reuses, placed, RegionInstance.idAndKey] using
            inductionHypothesis (Nat.succ.inj sameLength)

theorem placed_reuses
    {instances : List (RegionInstance η)}
    {items : List RepeatItem}
    (sameLength : instances.length = items.length)
    (next : Nat) :
    placed next (reuses instances items) = instances.map RegionInstance.idAndKey := by
  simpa [placed] using placed_reuses_append sameLength next []

/-- A step between two rows of reusing steps places its instance between theirs. -/
theorem placed_around
    {kept left : List (RegionInstance η)}
    {front back : List RepeatItem}
    (lengthInFront : kept.length = front.length)
    (lengthBehind : left.length = back.length)
    (next : Nat)
    (edit : Edit (RegionInstance η) RepeatItem) :
    placed next (reuses kept front ++ edit :: reuses left back) =
      kept.map RegionInstance.idAndKey ++ placed next [edit] ++
        left.map RegionInstance.idAndKey := by
  rw [placed_reuses_append lengthInFront, List.append_assoc]
  cases edit <;> simp [placed, placed_reuses lengthBehind]

theorem counts_reuses
    {instances : List (RegionInstance η)}
    {items : List RepeatItem}
    (sameLength : instances.length = items.length) :
    (reuses instances items).countP isReuse = items.length ∧
      (reuses instances items).countP isAdd = 0 ∧
        (reuses instances items).countP isRemove = 0 := by
  induction instances generalizing items with
  | nil =>
      cases items with
      | nil =>
          simp [reuses]
      | cons item items =>
          cases sameLength
  | cons kept instances inductionHypothesis =>
      cases items with
      | nil =>
          cases sameLength
      | cons item items =>
          have counts := inductionHypothesis (Nat.succ.inj sameLength)
          simpa only [reuses, List.zipWith_cons_cons, List.countP_cons, isReuse, isAdd,
            isRemove, List.length_cons, Bool.false_eq_true, ↓reduceIte, Nat.add_zero,
            Nat.succ.injEq] using counts

/-- A step between two rows of reusing steps counts for itself. -/
theorem counts_around
    {kept left : List (RegionInstance η)}
    {front back : List RepeatItem}
    (lengthInFront : kept.length = front.length)
    (lengthBehind : left.length = back.length)
    (edit : Edit (RegionInstance η) RepeatItem) :
    let plan := reuses kept front ++ edit :: reuses left back
    plan.countP isReuse = front.length + (edit.isReuse.toNat + back.length) ∧
      plan.countP isAdd = edit.isAdd.toNat ∧
        plan.countP isRemove = edit.isRemove.toNat := by
  have countsInFront := counts_reuses lengthInFront
  have countsBehind := counts_reuses lengthBehind
  simp only [List.countP_append, List.countP_cons, countsInFront, countsBehind]
  cases edit <;> simp [isReuse, isAdd, isRemove, Nat.add_comm]

end Edit

namespace RepeatRegion

section KeyedPlans

variable
  {region : RepeatRegion η}
  {kept left : List (RegionInstance η)}
  {front back : List RepeatItem}

theorem keyed_agree
    {instances : List (RegionInstance η)}
    {items : List RepeatItem}
    (agree : instances.map RegionInstance.key = items.map RepeatItem.key) :
    (instances.map fun kept => (kept.key, kept)).map Prod.fst =
      (items.map fun item => (item.key, item)).map Prod.fst := by
  simpa [Function.comp_def] using agree

/-- Where the keys of the items agree with those of the instances but for one item
with a key of its own, the plan adds that item and reuses all instances. -/
theorem plan_insertion
    (split : region.instances = kept ++ left)
    (agreeInFront : kept.map RegionInstance.key = front.map RepeatItem.key)
    (agreeBehind : left.map RegionInstance.key = back.map RepeatItem.key)
    {item : RepeatItem}
    (unused : item.key ∉ back.map RepeatItem.key) :
    region.plan (front ++ item :: back) =
      Edit.reuses kept front ++ .add item :: Edit.reuses left back := by
  rw [plan, split, List.map_append, List.map_append, List.map_cons,
    editPlan_append (keyed_agree agreeInFront),
    editPlan_insertion (keyed_agree agreeBehind)]
  · simp [Edit.reuses, Edit.reusals, List.zipWith_map]
  · simpa [Function.comp_def, agreeBehind] using unused

/-- Where the keys of the items agree with those of the instances but for one
instance with a key of its own, the plan removes that instance and reuses the
others. -/
theorem plan_deletion
    {discarded : RegionInstance η}
    (split : region.instances = kept ++ discarded :: left)
    (agreeInFront : kept.map RegionInstance.key = front.map RepeatItem.key)
    (agreeBehind : left.map RegionInstance.key = back.map RepeatItem.key)
    (unused : discarded.key ∉ back.map RepeatItem.key) :
    region.plan (front ++ back) =
      Edit.reuses kept front ++ .remove discarded :: Edit.reuses left back := by
  rw [plan, split, List.map_append, List.map_cons, List.map_append,
    editPlan_append (keyed_agree agreeInFront),
    editPlan_deletion (keyed_agree agreeBehind)]
  · simp [Edit.reuses, Edit.reusals, List.zipWith_map]
  · simpa [Function.comp_def] using unused

end KeyedPlans

/-- A sync that creates one instance, behind those of the items in front, retires
none, and renders every other instance once under its old id. -/
structure InsertsOne
    (host : RegionHost σ η)
    (region : RepeatRegion η)
    (front : List RepeatItem)
    (item : RepeatItem)
    (back : List RepeatItem)
    (state : σ) : Prop where
  lengths :
    region.instances.length = front.length + back.length
  idsAndKeys :
    (region.sync host (front ++ item :: back) state).1.instances.map
        RegionInstance.idAndKey =
      (region.instances.take front.length).map RegionInstance.idAndKey ++
        (region.nextId, item.key) ::
          (region.instances.drop front.length).map RegionInstance.idAndKey
  nextId :
    (region.sync host (front ++ item :: back) state).1.nextId = region.nextId + 1
  summary :
    (region.sync host (front ++ item :: back) state).2.1 =
      { reused := region.instances.length, added := 1, removed := 0 }
  logPassive :
    let logged := region.sync host.logged (front ++ item :: back) (.start state)
    (logged.1, logged.2.1, logged.2.2.host) =
      region.sync host (front ++ item :: back) state
  calls :
    ∃ created,
      region.callsOf host (front ++ item :: back) state =
        HostCall.renders (region.instances.take front.length) front ++
          [.create item created, .render created item] ++
          HostCall.renders (region.instances.drop front.length) back

/-- A sync that retires one instance, behind those of the items in front, creates
none, and renders every other instance once under its old id. -/
structure DeletesOne
    (host : RegionHost σ η)
    (region : RepeatRegion η)
    (front back : List RepeatItem)
    (state : σ) : Prop where
  lengths :
    region.instances.length = front.length + 1 + back.length
  idsAndKeys :
    (region.sync host (front ++ back) state).1.instances.map RegionInstance.idAndKey =
      (region.instances.take front.length).map RegionInstance.idAndKey ++
        (region.instances.drop (front.length + 1)).map RegionInstance.idAndKey
  nextId :
    (region.sync host (front ++ back) state).1.nextId = region.nextId
  summary :
    (region.sync host (front ++ back) state).2.1 =
      { reused := front.length + back.length, added := 0, removed := 1 }
  logPassive :
    let logged := region.sync host.logged (front ++ back) (.start state)
    (logged.1, logged.2.1, logged.2.2.host) = region.sync host (front ++ back) state
  calls :
    ∃ discarded,
      region.instances[front.length]? = some discarded ∧
        region.callsOf host (front ++ back) state =
          HostCall.renders (region.instances.take front.length) front ++
            [.retire discarded.handle] ++
            HostCall.renders (region.instances.drop (front.length + 1)) back

variable
  {region : RepeatRegion η}
  (sequence : region.marker.isSequence = true)
  {front back : List RepeatItem}

include sequence

/-- What a sync comes to whose plan reuses all instances but for a single step. -/
theorem sync_around
    {items : List RepeatItem}
    {kept left : List (RegionInstance η)}
    {edit : Edit (RegionInstance η) RepeatItem}
    (planned : region.plan items = Edit.reuses kept front ++ edit :: Edit.reuses left back)
    (lengthInFront : kept.length = front.length)
    (lengthBehind : left.length = back.length)
    (host : RegionHost σ η)
    (state : σ) :
    let synced := region.sync host items state
    synced.1.instances.map RegionInstance.idAndKey =
        kept.map RegionInstance.idAndKey ++ Edit.placed region.nextId [edit] ++
          left.map RegionInstance.idAndKey ∧
      synced.1.nextId = region.nextId + edit.isAdd.toNat ∧
      synced.2.1 =
        { reused := front.length + (edit.isReuse.toNat + back.length)
          added := edit.isAdd.toNat
          removed := edit.isRemove.toNat } ∧
      ∃ between,
        edit.Calls between ∧
          region.callsOf host items state =
            HostCall.renders kept front ++ between ++ HostCall.renders left back := by
  obtain ⟨reused, added, removed⟩ := Edit.counts_around lengthInFront lengthBehind edit
  obtain ⟨nextId, summary⟩ := counts_sync host items sequence state
  obtain ⟨calls, areCalls, flattened⟩ := callsOf_eq_flatten host items sequence state
  rw [planned] at nextId summary areCalls
  obtain ⟨between, isBetween, calledAround⟩ := Edit.calls_around areCalls
  refine ⟨?_, ?_, ?_, between, isBetween, flattened.trans calledAround⟩
  · rw [idsAndKeys_sync host items sequence, planned,
      Edit.placed_around lengthInFront lengthBehind]
  · rw [nextId, added]
  · rw [summary, reused, added, removed]

theorem insertsOne
    (agree : region.keys = (front ++ back).map RepeatItem.key)
    {item : RepeatItem}
    (unused : item.key ∉ back.map RepeatItem.key)
    (host : RegionHost σ η)
    (state : σ) :
    region.InsertsOne host front item back state := by
  rw [keys, List.map_append] at agree
  obtain ⟨kept, left, split, agreeInFront, agreeBehind⟩ := List.map_eq_append_iff.mp agree
  have lengthInFront : kept.length = front.length := by
    simpa using congrArg List.length agreeInFront
  have lengthBehind : left.length = back.length := by
    simpa using congrArg List.length agreeBehind
  have taken : region.instances.take front.length = kept := by
    rw [split, List.take_left' lengthInFront]
  have dropped : region.instances.drop front.length = left := by
    rw [split, List.drop_left' lengthInFront]
  have lengths : region.instances.length = front.length + back.length := by
    rw [split, List.length_append, lengthInFront, lengthBehind]
  have planned := plan_insertion split agreeInFront agreeBehind unused
  obtain ⟨idsAndKeys, nextId, summary, between, isBetween, calls⟩ :=
    sync_around sequence planned lengthInFront lengthBehind host state
  constructor
  case lengths =>
    exact lengths
  case idsAndKeys =>
    simpa [taken, dropped, Edit.placed] using idsAndKeys
  case nextId =>
    exact nextId
  case summary =>
    simpa [lengths, Edit.isReuse, Edit.isAdd, Edit.isRemove] using summary
  case logPassive =>
    exact region.sync_logged host _ (.start state)
  case calls =>
    cases isBetween with
    | add _ created =>
        exact ⟨created, by rw [taken, dropped, calls]⟩

theorem deletesOne
    {item : RepeatItem}
    {previousBack : List RepeatItem}
    (agree : region.keys = (front ++ item :: previousBack).map RepeatItem.key)
    (agreeAgain : previousBack.map RepeatItem.key = back.map RepeatItem.key)
    (unused : item.key ∉ back.map RepeatItem.key)
    (host : RegionHost σ η)
    (state : σ) :
    region.DeletesOne host front back state := by
  rw [keys, List.map_append, List.map_cons] at agree
  obtain ⟨kept, rest, split, agreeInFront, agreeRest⟩ := List.map_eq_append_iff.mp agree
  obtain ⟨discarded, left, rfl, sameKey, agreeBehind⟩ := List.map_eq_cons_iff.mp agreeRest
  rw [agreeAgain] at agreeBehind
  have lengthInFront : kept.length = front.length := by
    simpa using congrArg List.length agreeInFront
  have lengthBehind : left.length = back.length := by
    simpa using congrArg List.length agreeBehind
  have taken : region.instances.take front.length = kept := by
    rw [split, List.take_left' lengthInFront]
  have dropped : region.instances.drop (front.length + 1) = left := by
    rw [← List.drop_drop, split, List.drop_left' lengthInFront, List.drop_one, List.tail_cons]
  have planned := plan_deletion split agreeInFront agreeBehind (sameKey ▸ unused)
  obtain ⟨idsAndKeys, nextId, summary, between, isBetween, calls⟩ :=
    sync_around sequence planned lengthInFront lengthBehind host state
  constructor
  case lengths =>
    rw [split, List.length_append, List.length_cons, lengthInFront, lengthBehind]
    omega
  case idsAndKeys =>
    simpa [taken, dropped, Edit.placed] using idsAndKeys
  case nextId =>
    exact nextId
  case summary =>
    simpa [Edit.isReuse, Edit.isAdd, Edit.isRemove] using summary
  case logPassive =>
    exact region.sync_logged host _ (.start state)
  case calls =>
    refine ⟨discarded, ?_, ?_⟩
    · rw [split, ← lengthInFront, List.getElem?_append_right (Nat.le_refl _),
        Nat.sub_self, List.getElem?_cons_zero]
    · cases isBetween
      rw [taken, dropped, calls]

end RepeatRegion

namespace RepeatItem

/-- The items of elements that stand behind others in a collection. -/
def ofElementsFrom
    (start : Nat)
    (elements : List Value) : List RepeatItem :=
  elements.mapIdx fun index element => ofElement element (start + index)

theorem ofElementsFrom_cons
    (start : Nat)
    (element : Value)
    (elements : List Value) :
    ofElementsFrom start (element :: elements) =
      ofElement element start :: ofElementsFrom (start + 1) elements := by
  simp [ofElementsFrom, List.mapIdx_cons, Nat.add_assoc, Nat.add_comm 1]

/-- The keys of items do not depend on where their elements stand. -/
@[simp]
theorem map_key_ofElementsFrom
    (start : Nat)
    (elements : List Value) :
    (ofElementsFrom start elements).map key = elements.map Value.itemKey := by
  induction elements generalizing start with
  | nil =>
      rfl
  | cons element elements inductionHypothesis =>
      rw [ofElementsFrom_cons, List.map_cons, inductionHypothesis, List.map_cons]
      rfl

theorem ofElements_append
    (front back : List Value) :
    ofElements (front ++ back) = ofElementsFrom 0 front ++ ofElementsFrom front.length back := by
  simp [ofElements, ofElementsFrom, List.mapIdx_append, Nat.add_comm]

/-- The items of an array are those of its elements. -/
theorem collect?_of_array
    {marker : RepeatMarker}
    (sequence : marker.isSequence = true)
    {context : Context}
    {elements : List Value}
    (resolved : context.resolve? marker.name = some (.array elements)) :
    collect? marker context = some (ofElements elements) := by
  simp [collect?, resolved, RepeatItem.elements, sequence]

end RepeatItem

/--
One element more or less in a collection changes one instance of its region.  When
no two elements share a key, a region that shows the collection without the element
creates a single instance where the element comes in, and a region that shows it
with the element retires that instance alone.  Whatever the region and its hosts
went through before, all other instances keep their ids and are rendered once.
-/
theorem singleElement_changesOneInstance
    {marker : RepeatMarker}
    (sequence : marker.isSequence = true)
    {front back : List Value}
    {element : Value}
    (distinct : ((front ++ [element] ++ back).map Value.itemKey).Nodup)
    {without included : Context}
    (resolvedWithout : without.resolve? marker.name = some (.array (front ++ back)))
    (resolvedIncluded :
      included.resolve? marker.name = some (.array (front ++ [element] ++ back)))
    {region : RepeatRegion η}
    (marked : region.marker = marker)
    (earlierHost : RegionHost ρ η)
    (earlierState : ρ)
    (host : RegionHost σ η)
    (state : σ) :
    let itemsInFront := RepeatItem.ofElementsFrom 0 front
    let item := RepeatItem.ofElement element front.length
    let itemsBehind := RepeatItem.ofElementsFrom (front.length + 1) back
    let itemsClosedUp := RepeatItem.ofElementsFrom front.length back
    itemsInFront.length = front.length ∧
      RepeatItem.collect? marker without = some (itemsInFront ++ itemsClosedUp) ∧
      RepeatItem.collect? marker included = some (itemsInFront ++ item :: itemsBehind) ∧
      (region.sync earlierHost (itemsInFront ++ itemsClosedUp) earlierState).1.InsertsOne
        host itemsInFront item itemsBehind state ∧
      (region.sync earlierHost (itemsInFront ++ item :: itemsBehind) earlierState).1.DeletesOne
        host itemsInFront itemsClosedUp state := by
  intro itemsInFront item itemsBehind itemsClosedUp
  have isSequence :
      ∀ items, (region.sync earlierHost items earlierState).1.marker.isSequence = true :=
    fun _ => marked ▸ sequence
  have keysShown :
      ∀ items,
        (region.sync earlierHost items earlierState).1.keys = items.map RepeatItem.key :=
    fun items => RepeatRegion.keys_sync earlierHost items (marked ▸ sequence) earlierState
  have sameKeys :
      itemsBehind.map RepeatItem.key = itemsClosedUp.map RepeatItem.key := by
    rw [RepeatItem.map_key_ofElementsFrom, RepeatItem.map_key_ofElementsFrom]
  have unused : item.key ∉ itemsBehind.map RepeatItem.key := by
    rw [RepeatItem.map_key_ofElementsFrom]
    rw [List.append_assoc, List.map_append, List.singleton_append, List.map_cons] at distinct
    exact (List.nodup_cons.mp (List.nodup_append.mp distinct).2.1).1
  refine ⟨?_, ?_, ?_, ?_, ?_⟩
  · exact List.length_mapIdx
  · rw [RepeatItem.collect?_of_array sequence resolvedWithout, RepeatItem.ofElements_append]
  · rw [RepeatItem.collect?_of_array sequence resolvedIncluded, List.append_assoc,
      RepeatItem.ofElements_append, List.singleton_append, RepeatItem.ofElementsFrom_cons]
  · have shown :
        (region.sync earlierHost (itemsInFront ++ itemsClosedUp) earlierState).1.keys =
          (itemsInFront ++ itemsBehind).map RepeatItem.key := by
      rw [keysShown, List.map_append, List.map_append, sameKeys]
    exact RepeatRegion.insertsOne (isSequence _) shown unused host state
  · exact RepeatRegion.deletesOne (isSequence _) (keysShown _) sameKeys (sameKeys ▸ unused)
      host state

/-- A host that numbers its handles. -/
def RegionHost.numbering : RegionHost Nat Nat where
  create _ next := (next, next + 1)
  render handle _ next := (handle, next)
  retire _ next := next

/-- The data of a collection of marks. -/
def marks (elements : List Value) : Context :=
  .ofData (.object [("marks", .array elements)])

/-- A tag comes in between two flags, and goes again: the flag behind it moves to
another index and keeps its instance. -/
theorem singleElement_changesOneInstance_flags :
    let region := RepeatRegion.empty ⟨"marks", true⟩
    let tag : Value := .object [("id", .string "tag")]
    let flags := RepeatItem.ofElements [.bool true, .bool false]
    let tagged := RepeatItem.ofElements [.bool true, tag, .bool false]
    (region.sync .numbering flags 0).1.InsertsOne .numbering
        [.ofElement (.bool true) 0] (.ofElement tag 1) [.ofElement (.bool false) 2] 2 ∧
      (region.sync .numbering tagged 0).1.DeletesOne .numbering
        [.ofElement (.bool true) 0] [.ofElement (.bool false) 1] 3 := by
  intro region tag flags tagged
  have distinct :
      (([.bool true] ++ [tag] ++ [.bool false] : List Value).map Value.itemKey).Nodup := by
    decide +kernel
  have resolvedFlags :
      (marks [.bool true, .bool false]).resolve? "marks" =
        some (.array ([.bool true] ++ [.bool false])) := by
    rfl
  have resolvedTagged :
      (marks [.bool true, tag, .bool false]).resolve? "marks" =
        some (.array ([.bool true] ++ [tag] ++ [.bool false])) := by
    rfl
  have isSequence : region.marker.isSequence = true := by
    rfl
  have inserted :=
    singleElement_changesOneInstance isSequence distinct resolvedFlags resolvedTagged rfl
      RegionHost.numbering 0 RegionHost.numbering 2
  have deleted :=
    singleElement_changesOneInstance isSequence distinct resolvedFlags resolvedTagged rfl
      RegionHost.numbering 0 RegionHost.numbering 3
  exact ⟨inserted.2.2.2.1, deleted.2.2.2.2⟩

end DataBinding

import DataBinding.Proofs.WatchedHost
import Mathlib.Data.List.Perm.Basic

namespace DataBinding

open List

/-!
# Runs of a repeated region

The record of watched hosts accounts for every handle ever created: a live
instance holds it, or it was retired, once.  Every step of a plan keeps this
account, and with it the order and the identities of the instances that survive.
-/

namespace RegionInstance

/-- The number of the creation that the handle of an instance comes from. -/
def number (kept : RegionInstance (NumberedHandle η)) : Nat :=
  kept.handle.number

/-- What an instance of a sequence keeps while it lives. -/
def identity (kept : RegionInstance (NumberedHandle η)) : Nat × Nat × String :=
  (kept.number, kept.id, kept.key)

/-- The instances whose handles already belong to previous instances. -/
def survivorsOf
    (previous instances : List (RegionInstance (NumberedHandle η))) :
    List (RegionInstance (NumberedHandle η)) :=
  instances.filter fun kept => kept.number ∈ previous.map number

theorem survivorsOf_concat_of_mem
    {previous : List (RegionInstance (NumberedHandle η))}
    (instances : List (RegionInstance (NumberedHandle η)))
    {kept : RegionInstance (NumberedHandle η)}
    (member : kept.number ∈ previous.map number) :
    survivorsOf previous (instances ++ [kept]) =
      survivorsOf previous instances ++ [kept] := by
  simp only [survivorsOf, List.filter_append]
  rw [List.filter_cons_of_pos (by simpa using member), List.filter_nil]

theorem survivorsOf_concat_of_not_mem
    {previous : List (RegionInstance (NumberedHandle η))}
    (instances : List (RegionInstance (NumberedHandle η)))
    {kept : RegionInstance (NumberedHandle η)}
    (notMember : kept.number ∉ previous.map number) :
    survivorsOf previous (instances ++ [kept]) =
      survivorsOf previous instances := by
  simp only [survivorsOf, List.filter_append]
  rw [List.filter_cons_of_neg (by simpa using notMember), List.filter_nil,
    List.append_nil]

end RegionInstance

namespace SyncProgress

/--
The handles created so far are those of the instances kept, those of the previous
instances that are `left`, and those retired.
-/
structure Accounted
    (progress : SyncProgress (HandleRecord σ) (NumberedHandle η))
    (left : List (RegionInstance (NumberedHandle η))) : Prop where
  nextIdCounts :
    progress.nextId = progress.host.created
  idIsNumber :
    ∀ kept ∈ progress.instances ++ left, kept.id = kept.number
  handles :
    ((progress.instances ++ left).map RegionInstance.number ++
        progress.host.retired).Perm
      (List.range progress.host.created)

namespace Accounted

/-- One step of a plan keeps the account. -/
theorem step
    (host : RegionHost σ η)
    (edit : Edit (RegionInstance (NumberedHandle η)) RepeatItem)
    {progress : SyncProgress (HandleRecord σ) (NumberedHandle η)}
    {left : List (RegionInstance (NumberedHandle η))}
    (accounted : Accounted progress (edit.instance?.toList ++ left)) :
    Accounted (progress.step host.watched edit) left := by
  obtain ⟨nextIdCounts, idIsNumber, handles⟩ := accounted
  cases edit with
  | reuse kept item =>
      constructor
      · exact nextIdCounts
      · simp only [Edit.instance?, Option.toList_some, List.mem_append,
          List.mem_singleton] at idIsNumber
        simp only [SyncProgress.step, reuse, List.mem_append, List.mem_singleton]
        rintro other ((inKept | isKept) | inLeft)
        · exact idIsNumber other (Or.inl inKept)
        · subst isKept
          exact idIsNumber kept (Or.inr (Or.inl rfl))
        · exact idIsNumber other (Or.inr (Or.inr inLeft))
      · simpa [SyncProgress.step, reuse, RegionHost.watched, Edit.instance?,
          RegionInstance.number] using handles
  | add item =>
      constructor
      · simpa [SyncProgress.step, add, RegionHost.watched] using nextIdCounts
      · simp only [Edit.instance?, Option.toList_none, List.nil_append,
          List.mem_append] at idIsNumber
        simp only [SyncProgress.step, add, List.mem_append, List.mem_singleton]
        rintro other ((inKept | isNew) | inLeft)
        · exact idIsNumber other (Or.inl inKept)
        · subst isNew
          exact nextIdCounts
        · exact idIsNumber other (Or.inr inLeft)
      · have grown := (List.Perm.append_right [progress.host.created] handles)
        rw [← List.range_succ] at grown
        refine List.Perm.trans ?_ grown
        simp only [SyncProgress.step, add, RegionHost.watched, Edit.instance?,
          Option.toList_none, List.nil_append, List.map_append, List.map_cons,
          RegionInstance.number, List.append_assoc, List.cons_append]
        refine List.Perm.append_left _ ?_
        exact (List.perm_append_singleton _ _).symm.trans (by simp)
  | remove discarded =>
      constructor
      · exact nextIdCounts
      · intro other member
        refine idIsNumber other ?_
        simp only [SyncProgress.step, remove, List.mem_append] at member
        simp only [Edit.instance?, Option.toList_some, List.mem_append,
          List.mem_singleton]
        rcases member with inKept | inLeft
        · exact Or.inl inKept
        · exact Or.inr (Or.inr inLeft)
      · refine List.Perm.trans ?_ handles
        simp only [SyncProgress.step, remove, RegionHost.watched, Edit.instance?,
          Option.toList_some, List.map_append, List.map_cons, List.append_assoc,
          List.cons_append]
        refine List.Perm.append_left _ ?_
        rw [← List.append_assoc]
        exact List.perm_append_singleton _ _

theorem foldl_step
    (host : RegionHost σ η)
    {plan : List (Edit (RegionInstance (NumberedHandle η)) RepeatItem)}
    {progress : SyncProgress (HandleRecord σ) (NumberedHandle η)}
    (accounted : Accounted progress (plan.filterMap Edit.instance?)) :
    Accounted (plan.foldl (SyncProgress.step host.watched) progress) [] := by
  induction plan generalizing progress with
  | nil =>
      exact accounted
  | cons edit plan inductionHypothesis =>
      refine inductionHypothesis (Accounted.step host edit ?_)
      cases edit <;>
        simpa [Edit.instance?, List.filterMap_cons] using accounted

end Accounted

/--
The previous instances that are kept or left stand in their old order under their
old identities, and all other instances have ids that were never given before.
-/
structure Continues
    (previous : List (RegionInstance (NumberedHandle η)))
    (firstNew : Nat)
    (progress : SyncProgress (HandleRecord σ) (NumberedHandle η))
    (left : List (RegionInstance (NumberedHandle η))) : Prop where
  nextIdGrows :
    firstNew ≤ progress.nextId
  newcomers :
    ∀ kept ∈ progress.instances,
      kept.id ∈ previous.map RegionInstance.id ∨ firstNew ≤ kept.id
  survivors :
    (RegionInstance.survivorsOf previous progress.instances ++ left).map
        RegionInstance.identity <+
      previous.map RegionInstance.identity

namespace Continues

theorem identity_mem
    {previous left : List (RegionInstance (NumberedHandle η))}
    {firstNew : Nat}
    {progress : SyncProgress (HandleRecord σ) (NumberedHandle η)}
    (continues : Continues previous firstNew progress left)
    {kept : RegionInstance (NumberedHandle η)}
    (member : kept ∈ left) :
    kept.identity ∈ previous.map RegionInstance.identity := by
  apply continues.survivors.subset
  exact List.mem_map_of_mem (List.mem_append_right _ member)

/-- One step of a plan keeps the previous instances in order. -/
theorem step
    {host : RegionHost σ η}
    {previous left : List (RegionInstance (NumberedHandle η))}
    {firstNew : Nat}
    {progress : SyncProgress (HandleRecord σ) (NumberedHandle η)}
    {edit : Edit (RegionInstance (NumberedHandle η)) RepeatItem}
    (older : ∀ kept ∈ previous, kept.number < firstNew)
    (nextIdCounts : progress.nextId = progress.host.created)
    (continues :
      Continues previous firstNew progress (edit.instance?.toList ++ left)) :
    Continues previous firstNew (progress.step host.watched edit) left := by
  have keepsIdentity :
      ∀ kept ∈ edit.instance?.toList ++ left,
        kept.identity ∈ previous.map RegionInstance.identity :=
    fun _ member => continues.identity_mem member
  obtain ⟨nextIdGrows, newcomers, survivors⟩ := continues
  cases edit with
  | reuse kept item =>
      obtain ⟨old, oldMember, oldIdentity⟩ :=
        List.mem_map.mp (keepsIdentity kept (by simp [Edit.instance?]))
      simp only [RegionInstance.identity, Prod.mk.injEq] at oldIdentity
      obtain ⟨sameNumber, sameId, _⟩ := oldIdentity
      have numberMember : kept.number ∈ previous.map RegionInstance.number :=
        List.mem_map.mpr ⟨old, oldMember, sameNumber⟩
      constructor
      · exact nextIdGrows
      · simp only [SyncProgress.step, reuse, List.mem_append, List.mem_singleton]
        rintro other (inKept | isKept)
        · exact newcomers other inKept
        · subst isKept
          exact Or.inl (List.mem_map.mpr ⟨old, oldMember, sameId⟩)
      · have rendered :
            RegionInstance.survivorsOf previous
                (progress.reuse host.watched kept item).instances =
              RegionInstance.survivorsOf previous progress.instances ++
                [{ kept with handle :=
                    (host.watched.render kept.handle item progress.host).1 }] :=
          RegionInstance.survivorsOf_concat_of_mem _ numberMember
        rw [SyncProgress.step, rendered]
        simpa [Edit.instance?, RegionInstance.identity, RegionInstance.number,
          RegionHost.watched] using survivors
  | add item =>
      have numberNew :
          progress.host.created ∉ previous.map RegionInstance.number := by
        intro member
        obtain ⟨old, oldMember, oldNumber⟩ := List.mem_map.mp member
        have := older old oldMember
        omega
      constructor
      · exact Nat.le_succ_of_le nextIdGrows
      · simp only [SyncProgress.step, add, List.mem_append, List.mem_singleton]
        rintro other (inKept | isNew)
        · exact newcomers other inKept
        · subst isNew
          exact Or.inr nextIdGrows
      · simp only [SyncProgress.step, add]
        rw [RegionInstance.survivorsOf_concat_of_not_mem _ numberNew]
        exact survivors
  | remove discarded =>
      constructor
      · exact nextIdGrows
      · exact newcomers
      · refine List.Sublist.trans ?_ survivors
        refine List.Sublist.map _ ((List.Sublist.refl _).append ?_)
        exact List.sublist_cons_self _ _

theorem foldl_step
    (host : RegionHost σ η)
    {plan : List (Edit (RegionInstance (NumberedHandle η)) RepeatItem)}
    {previous : List (RegionInstance (NumberedHandle η))}
    {firstNew : Nat}
    {progress : SyncProgress (HandleRecord σ) (NumberedHandle η)}
    (older : ∀ kept ∈ previous, kept.number < firstNew)
    (accounted : Accounted progress (plan.filterMap Edit.instance?))
    (continues :
      Continues previous firstNew progress (plan.filterMap Edit.instance?)) :
    Continues previous firstNew
      (plan.foldl (SyncProgress.step host.watched) progress) [] := by
  induction plan generalizing progress with
  | nil =>
      exact continues
  | cons edit plan inductionHypothesis =>
      have split :
          (edit :: plan).filterMap Edit.instance? =
            edit.instance?.toList ++ plan.filterMap Edit.instance? := by
        cases edit <;> simp [Edit.instance?, List.filterMap_cons]
      rw [split] at accounted continues
      exact inductionHypothesis (accounted.step host edit)
        (continues.step older accounted.nextIdCounts)

end Continues

end SyncProgress

namespace RepeatRegion

/-- The plan for a region deals with its instances in order. -/
theorem plan_instances
    (region : RepeatRegion η)
    (items : List RepeatItem) :
    (region.plan items).filterMap Edit.instance? = region.instances := by
  have dealtWith :=
    (editPlan_turns
      (region.instances.map fun kept => (kept.key, kept))
      (items.map fun item => (item.key, item))).instances
  simpa [plan, Function.comp_def] using dealtWith

/-- The plan for a region places the items in order. -/
theorem plan_items
    (region : RepeatRegion η)
    (items : List RepeatItem) :
    (region.plan items).filterMap Edit.item? = items := by
  have placed :=
    (editPlan_turns
      (region.instances.map fun kept => (kept.key, kept))
      (items.map fun item => (item.key, item))).items
  simpa [plan, Function.comp_def] using placed

/--
The account of a region: its instances are numbered by the creations they come
from, every handle created is held or retired, and a single instance is never
given up.
-/
structure Accounted
    (region : RepeatRegion (NumberedHandle η))
    (record : HandleRecord σ) : Prop where
  nextIdCounts :
    region.nextId = record.created
  idIsNumber :
    ∀ kept ∈ region.instances, kept.id = kept.number
  handles :
    (region.instances.map RegionInstance.number ++ record.retired).Perm
      (List.range record.created)
  single :
    region.marker.isSequence = false →
      region.instances.length ≤ 1 ∧ record.retired = []

namespace Accounted

theorem number_lt
    {region : RepeatRegion (NumberedHandle η)}
    {record : HandleRecord σ}
    (accounted : region.Accounted record)
    {kept : RegionInstance (NumberedHandle η)}
    (member : kept ∈ region.instances) :
    kept.number < region.nextId := by
  rw [accounted.nextIdCounts, ← List.mem_range]
  apply accounted.handles.subset
  exact List.mem_append_left _ (List.mem_map_of_mem member)

theorem ids_eq
    {region : RepeatRegion (NumberedHandle η)}
    {record : HandleRecord σ}
    (accounted : region.Accounted record) :
    region.instances.map RegionInstance.id =
      region.instances.map RegionInstance.number :=
  List.map_congr_left accounted.idIsNumber

theorem ids_nodup
    {region : RepeatRegion (NumberedHandle η)}
    {record : HandleRecord σ}
    (accounted : region.Accounted record) :
    (region.instances.map RegionInstance.id).Nodup := by
  rw [accounted.ids_eq]
  have accountNodup := accounted.handles.nodup_iff.mpr List.nodup_range
  exact (List.nodup_append.mp accountNodup).1

theorem begin
    {region : RepeatRegion (NumberedHandle η)}
    {record : HandleRecord σ}
    (accounted : region.Accounted record) :
    SyncProgress.Accounted (region.begin [] record) region.instances where
  nextIdCounts :=
    accounted.nextIdCounts
  idIsNumber :=
    accounted.idIsNumber
  handles :=
    accounted.handles

theorem ofProgress
    {region : RepeatRegion (NumberedHandle η)}
    {progress : SyncProgress (HandleRecord σ) (NumberedHandle η)}
    (accounted : SyncProgress.Accounted progress [])
    (single :
      region.marker.isSequence = false →
        progress.instances.length ≤ 1 ∧ progress.host.retired = []) :
    RepeatRegion.Accounted
      { region with
        instances := progress.instances
        nextId := progress.nextId }
      progress.host where
  nextIdCounts :=
    accounted.nextIdCounts
  idIsNumber := by
    simpa using accounted.idIsNumber
  handles := by
    simpa using accounted.handles
  single :=
    single

theorem syncSequence
    {region : RepeatRegion (NumberedHandle η)}
    {record : HandleRecord σ}
    (accounted : region.Accounted record)
    (host : RegionHost σ η)
    (items : List RepeatItem) :
    SyncProgress.Accounted (region.syncSequence host.watched items record) [] := by
  apply SyncProgress.Accounted.foldl_step
  rw [plan_instances]
  exact accounted.begin

/-- Bringing a single instance up to date keeps the account and retires nothing. -/
theorem syncSingle
    {region : RepeatRegion (NumberedHandle η)}
    {record : HandleRecord σ}
    (accounted : region.Accounted record)
    (single : region.marker.isSequence = false)
    (host : RegionHost σ η)
    (items : List RepeatItem) :
    let progress := region.syncSingle host.watched items record
    SyncProgress.Accounted progress [] ∧
      progress.instances.length ≤ 1 ∧ progress.host.retired = [] := by
  obtain ⟨atMostOne, noneRetired⟩ := accounted.single single
  have started := accounted.begin
  obtain ⟨marker, instances, nextId⟩ := region
  cases items with
  | nil =>
      have unchanged :
          SyncProgress.Accounted (RepeatRegion.begin ⟨marker, instances, nextId⟩
            instances record) [] := by
        refine ⟨accounted.nextIdCounts, ?_, ?_⟩
        · simpa [RepeatRegion.begin] using accounted.idIsNumber
        · simpa [RepeatRegion.begin] using accounted.handles
      exact ⟨unchanged, atMostOne, noneRetired⟩
  | cons item items =>
      cases instances with
      | nil =>
          have added :=
            SyncProgress.Accounted.step host (.add item) started
          exact ⟨added, by simp [RepeatRegion.syncSingle, SyncProgress.add,
            RepeatRegion.begin], noneRetired⟩
      | cons first rest =>
          have alone : rest = [] := by
            simpa using atMostOne
          subst alone
          have renamed :
              SyncProgress.Accounted
                (RepeatRegion.begin ⟨marker, [first], nextId⟩ [] record)
                [{ first with key := item.key }] := by
            refine ⟨started.nextIdCounts, ?_, started.handles⟩
            intro kept member
            obtain rfl : kept = { first with key := item.key } := by
              simpa [RepeatRegion.begin] using member
            exact accounted.idIsNumber first (by simp)
          have reused :=
            SyncProgress.Accounted.step host
              (.reuse { first with key := item.key } item) renamed
          exact ⟨reused, by simp [RepeatRegion.syncSingle, SyncProgress.reuse,
            RepeatRegion.begin], noneRetired⟩

end Accounted

/-!
## From one call to a run
-/

/-- What one call keeps of the ids and the instances of a region. -/
structure Keeps (before after : RepeatRegion (NumberedHandle η)) : Prop where
  nextIdGrows :
    before.nextId ≤ after.nextId
  newcomers :
    ∀ kept ∈ after.instances,
      kept.id ∈ before.instances.map RegionInstance.id ∨ before.nextId ≤ kept.id
  survivors :
    before.marker.isSequence = true →
      (RegionInstance.survivorsOf before.instances after.instances).map
          RegionInstance.identity <+
        before.instances.map RegionInstance.identity
  single :
    before.marker.isSequence = false →
      ∀ kept ∈ before.instances,
        after.instances.map (fun other => (other.number, other.id)) =
          [(kept.number, kept.id)]

theorem keeps_syncSequence
    {region : RepeatRegion (NumberedHandle η)}
    {record : HandleRecord σ}
    (accounted : region.Accounted record)
    (sequence : region.marker.isSequence = true)
    (host : RegionHost σ η)
    (items : List RepeatItem) :
    let progress := region.syncSequence host.watched items record
    Keeps region
      { region with
        instances := progress.instances
        nextId := progress.nextId } := by
  have started :
      SyncProgress.Continues region.instances region.nextId (region.begin [] record)
        ((region.plan items).filterMap Edit.instance?) := by
    refine ⟨Nat.le_refl _, ?_, ?_⟩
    · simp [RepeatRegion.begin]
    · simp [RepeatRegion.begin, RegionInstance.survivorsOf, plan_instances]
  have beginning := accounted.begin
  rw [← region.plan_instances items] at beginning
  obtain ⟨nextIdGrows, newcomers, survivors⟩ :=
    started.foldl_step host
      (fun kept member => accounted.number_lt member) beginning
  refine ⟨nextIdGrows, newcomers, fun _ => ?_, fun single => ?_⟩
  · simpa [syncSequence] using survivors
  · exact absurd (sequence.symm.trans single) (by decide)

theorem keeps_syncSingle
    {region : RepeatRegion (NumberedHandle η)}
    {record : HandleRecord σ}
    (accounted : region.Accounted record)
    (single : region.marker.isSequence = false)
    (host : RegionHost σ η)
    (items : List RepeatItem) :
    let progress := region.syncSingle host.watched items record
    Keeps region
      { region with
        instances := progress.instances
        nextId := progress.nextId } := by
  have atMostOne := (accounted.single single).1
  obtain ⟨marker, instances, nextId⟩ := region
  have notSequence {goal : Prop} (sequence : marker.isSequence = true) : goal :=
    absurd (sequence.symm.trans single) (by decide)
  match instances, items with
  | [], [] =>
      refine ⟨Nat.le_refl _, ?_, notSequence, ?_⟩ <;>
        simp [syncSingle, RepeatRegion.begin]
  | [], item :: items =>
      refine ⟨Nat.le_succ _, ?_, notSequence, ?_⟩ <;>
        simp [syncSingle, RepeatRegion.begin, SyncProgress.add]
  | [first], [] =>
      refine ⟨Nat.le_refl _, ?_, notSequence, ?_⟩ <;>
        simp [syncSingle, RepeatRegion.begin]
  | [first], item :: items =>
      refine ⟨Nat.le_refl _, ?_, notSequence, ?_⟩ <;>
        simp [syncSingle, RepeatRegion.begin, SyncProgress.reuse,
          RegionHost.watched, RegionInstance.number]
  | first :: second :: rest, _ =>
      simp at atMostOne

end RepeatRegion

namespace SyncCall

/-- One call keeps the account of a region. -/
theorem accounted_run
    (call : SyncCall σ η)
    {reached : RepeatRegion (NumberedHandle η) × HandleRecord σ}
    (accounted : reached.1.Accounted reached.2) :
    (call.watched.run reached).1.Accounted (call.watched.run reached).2 := by
  obtain ⟨region, record⟩ := reached
  cases sequence : region.marker.isSequence with
  | true =>
      have synced := accounted.syncSequence call.host call.items
      simp only [run, RepeatRegion.sync, watched, sequence, ↓reduceIte]
      refine RepeatRegion.Accounted.ofProgress synced fun single => ?_
      exact absurd (sequence.symm.trans single) (by decide)
  | false =>
      have synced := accounted.syncSingle sequence call.host call.items
      simp only [run, RepeatRegion.sync, watched, sequence, Bool.false_eq_true,
        ↓reduceIte]
      exact RepeatRegion.Accounted.ofProgress synced.1 fun _ => synced.2

/-- One call keeps the ids and the surviving instances of a region. -/
theorem keeps_run
    (call : SyncCall σ η)
    {reached : RepeatRegion (NumberedHandle η) × HandleRecord σ}
    (accounted : reached.1.Accounted reached.2) :
    reached.1.Keeps (call.watched.run reached).1 := by
  obtain ⟨region, record⟩ := reached
  cases sequence : region.marker.isSequence with
  | true =>
      have kept :=
        RepeatRegion.keeps_syncSequence accounted sequence call.host call.items
      simpa only [run, RepeatRegion.sync, watched, sequence, ↓reduceIte] using kept
  | false =>
      have kept :=
        RepeatRegion.keeps_syncSingle accounted sequence call.host call.items
      simpa only [run, RepeatRegion.sync, watched, sequence, Bool.false_eq_true,
        ↓reduceIte] using kept

theorem watchedRun_concat
    (marker : RepeatMarker)
    (state : σ)
    (calls : List (SyncCall σ η))
    (call : SyncCall σ η) :
    watchedRun marker state (calls ++ [call]) =
      call.watched.run (watchedRun marker state calls) := by
  simp [watchedRun, runAll]

theorem marker_watchedRun
    (marker : RepeatMarker)
    (state : σ)
    (calls : List (SyncCall σ η)) :
    (watchedRun marker state calls).1.marker = marker := by
  induction calls using List.reverseRecOn with
  | nil =>
      rfl
  | append_singleton calls call inductionHypothesis =>
      rw [watchedRun_concat]
      exact inductionHypothesis

/-- After every run, the handles of the region are accounted for. -/
theorem accounted_watchedRun
    (marker : RepeatMarker)
    (state : σ)
    (calls : List (SyncCall σ η)) :
    (watchedRun marker state calls).1.Accounted (watchedRun marker state calls).2 := by
  induction calls using List.reverseRecOn with
  | nil =>
      constructor <;> simp [watchedRun, runAll, RepeatRegion.empty, HandleRecord.start]
  | append_singleton calls call inductionHypothesis =>
      rw [watchedRun_concat]
      exact call.accounted_run inductionHypothesis

/-- An id that was given and is not in use is never in use again. -/
theorem id_not_mem_watchedRun
    (marker : RepeatMarker)
    (state : σ)
    (calls later : List (SyncCall σ η))
    {id : Nat}
    (given : id < (watchedRun marker state calls).1.nextId)
    (unused :
      id ∉ (watchedRun marker state calls).1.instances.map RegionInstance.id) :
    id < (watchedRun marker state (calls ++ later)).1.nextId ∧
      id ∉ (watchedRun marker state (calls ++ later)).1.instances.map
        RegionInstance.id := by
  induction later using List.reverseRecOn with
  | nil =>
      simpa using And.intro given unused
  | append_singleton later call inductionHypothesis =>
      obtain ⟨givenBefore, unusedBefore⟩ := inductionHypothesis
      have kept := call.keeps_run (accounted_watchedRun marker state (calls ++ later))
      rw [← List.append_assoc, watchedRun_concat]
      refine ⟨Nat.lt_of_lt_of_le givenBefore kept.nextIdGrows, ?_⟩
      intro member
      obtain ⟨user, userMember, rfl⟩ := List.mem_map.mp member
      rcases kept.newcomers user userMember with old | new
      · exact unusedBefore old
      · exact absurd givenBefore (Nat.not_lt.mpr new)

/-- A run gives the ids and the next id that it gives when it is watched. -/
theorem ids_runAll
    (marker : RepeatMarker)
    (state : σ)
    (calls : List (SyncCall σ η)) :
    (runAll marker state calls).1.instances.map RegionInstance.id =
        (watchedRun marker state calls).1.instances.map RegionInstance.id ∧
      (runAll marker state calls).1.nextId =
        (watchedRun marker state calls).1.nextId := by
  rw [← watchedRun_unwatched]
  simp [RepeatRegion.unnumbered, RegionInstance.unnumbered, Function.comp_def]

end SyncCall

/--
What holds after any calls on a new region, and for any calls that follow.  The
record of the handles is that of hosts that do what the hosts of the calls do.
-/
structure SoundRun
    (marker : RepeatMarker)
    (state : σ)
    (calls : List (SyncCall σ η)) : Prop where
  recordIsPassive :
    ((SyncCall.watchedRun marker state calls).1.unnumbered,
        (SyncCall.watchedRun marker state calls).2.host) =
      SyncCall.runAll marker state calls
  idsDistinct :
    ((SyncCall.runAll marker state calls).1.instances.map RegionInstance.id).Nodup
  idsBelowNext :
    ∀ kept ∈ (SyncCall.runAll marker state calls).1.instances,
      kept.id < (SyncCall.runAll marker state calls).1.nextId
  nextIdCountsCreations :
    (SyncCall.runAll marker state calls).1.nextId =
      (SyncCall.watchedRun marker state calls).2.created
  idsNotReused :
    ∀ id later,
      id < (SyncCall.runAll marker state calls).1.nextId →
      id ∉ (SyncCall.runAll marker state calls).1.instances.map RegionInstance.id →
      id ∉ (SyncCall.runAll marker state (calls ++ later)).1.instances.map
        RegionInstance.id
  handlesHeldOrRetiredOnce :
    ((SyncCall.watchedRun marker state calls).1.instances.map RegionInstance.number ++
        (SyncCall.watchedRun marker state calls).2.retired).Perm
      (List.range (SyncCall.watchedRun marker state calls).2.created)
  survivorsKeepIdentityAndOrder :
    marker.isSequence = true →
      ∀ call,
        (RegionInstance.survivorsOf
              (SyncCall.watchedRun marker state calls).1.instances
              (SyncCall.watchedRun marker state (calls ++ [call])).1.instances).map
            RegionInstance.identity <+
          (SyncCall.watchedRun marker state calls).1.instances.map
            RegionInstance.identity
  singleKept :
    marker.isSequence = false →
      (SyncCall.runAll marker state calls).1.instances.length ≤ 1 ∧
        (SyncCall.watchedRun marker state calls).2.retired = [] ∧
        ∀ call,
          ∀ kept ∈ (SyncCall.watchedRun marker state calls).1.instances,
            (SyncCall.watchedRun marker state (calls ++ [call])).1.instances.map
                (fun other => (other.number, other.id)) =
              [(kept.number, kept.id)]

/-- Every run of a region is sound, whatever its items and hosts. -/
theorem soundRun
    (marker : RepeatMarker)
    (state : σ)
    (calls : List (SyncCall σ η)) :
    SoundRun marker state calls := by
  have accounted := SyncCall.accounted_watchedRun marker state calls
  obtain ⟨sameIds, sameNextId⟩ := SyncCall.ids_runAll marker state calls
  have sameMarker := SyncCall.marker_watchedRun marker state calls
  constructor
  case recordIsPassive =>
    exact SyncCall.watchedRun_unwatched marker state calls
  case idsDistinct =>
    rw [sameIds]
    exact accounted.ids_nodup
  case idsBelowNext =>
    intro kept member
    have idMember :
        kept.id ∈
          (SyncCall.runAll marker state calls).1.instances.map RegionInstance.id :=
      List.mem_map_of_mem member
    rw [sameIds, accounted.ids_eq] at idMember
    obtain ⟨numbered, numberedMember, sameId⟩ := List.mem_map.mp idMember
    rw [sameNextId, ← sameId]
    exact accounted.number_lt numberedMember
  case nextIdCountsCreations =>
    rw [sameNextId]
    exact accounted.nextIdCounts
  case idsNotReused =>
    intro id later given unused
    rw [sameNextId] at given
    rw [sameIds] at unused
    rw [(SyncCall.ids_runAll marker state (calls ++ later)).1]
    exact (SyncCall.id_not_mem_watchedRun marker state calls later given unused).2
  case handlesHeldOrRetiredOnce =>
    exact accounted.handles
  case survivorsKeepIdentityAndOrder =>
    intro sequence call
    rw [SyncCall.watchedRun_concat]
    exact (call.keeps_run accounted).survivors (by rw [sameMarker]; exact sequence)
  case singleKept =>
    intro single
    have markedSingle :
        (SyncCall.watchedRun marker state calls).1.marker.isSequence = false := by
      rw [sameMarker]
      exact single
    have sameLength := congrArg List.length sameIds
    rw [List.length_map, List.length_map] at sameLength
    rw [sameLength]
    obtain ⟨atMostOne, noneRetired⟩ := accounted.single markedSingle
    refine ⟨atMostOne, noneRetired, fun call kept member => ?_⟩
    rw [SyncCall.watchedRun_concat]
    exact (call.keeps_run accounted).single markedSingle kept member

end DataBinding

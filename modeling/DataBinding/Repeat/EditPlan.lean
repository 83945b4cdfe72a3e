namespace DataBinding

/-!
# Edit plans

An edit plan turns a list of instances into one that fits a list of items.  Both
lists carry keys.  The plan is made in one pass: equal keys in front are reused,
and where they differ, the key that turns up again sooner in the other list is
worth waiting for.  Only insertions and removals are known, so an item that
moved is removed and added again.
-/

/-- One step of an edit plan. -/
inductive Edit (ι τ : Type) where
  /-- Keeps an instance for an item. -/
  | reuse (kept : ι) (item : τ)
  /-- Makes an instance for an item. -/
  | add (item : τ)
  /-- Discards an instance. -/
  | remove (discarded : ι)
  deriving Repr, DecidableEq

namespace Edit

/-- The item that a step places. -/
def item? : Edit ι τ → Option τ
  | reuse _ item => some item
  | add item => some item
  | remove _ => none

/-- The instance that a step deals with. -/
def instance? : Edit ι τ → Option ι
  | reuse kept _ => some kept
  | add _ => none
  | remove discarded => some discarded

/-- Whether a step keeps an instance. -/
def isReuse : Edit ι τ → Bool
  | reuse _ _ => true
  | _ => false

/-- Whether a step makes an instance. -/
def isAdd : Edit ι τ → Bool
  | add _ => true
  | _ => false

/-- Whether a step discards an instance. -/
def isRemove : Edit ι τ → Bool
  | remove _ => true
  | _ => false

end Edit

/-- How many entries stand in front of the first one with a key. -/
def distance?
    [DecidableEq κ]
    (key : κ)
    (entries : List (κ × α)) : Option Nat :=
  entries.findIdx? fun entry => decide (entry.1 = key)

/-- Whether the item in front is added before the instance in front is dealt
with.  `ahead` is how far away the key of the instance is among the items, and
`behind` how far the key of the item is among the instances. -/
def addsFirst : Option Nat → Option Nat → Bool
  | none, _ => false
  | some _, none => true
  | some ahead, some behind => ahead < behind

/-- The plan that turns the previous instances into ones for the current items. -/
def editPlan
    [DecidableEq κ]
    (previous : List (κ × ι))
    (current : List (κ × τ)) : List (Edit ι τ) :=
  match previous, current with
  | [], [] => []
  | [], (_, item) :: items => .add item :: editPlan [] items
  | (_, kept) :: instances, [] => .remove kept :: editPlan instances []
  | (previousKey, kept) :: instances, (currentKey, item) :: items =>
      if previousKey = currentKey then
        .reuse kept item :: editPlan instances items
      else if addsFirst (distance? previousKey items) (distance? currentKey instances) then
        .add item :: editPlan ((previousKey, kept) :: instances) items
      else
        .remove kept :: editPlan instances ((currentKey, item) :: items)
  termination_by previous.length + current.length

end DataBinding

import DataBinding.Value.Context

namespace DataBinding

/-!
# Paths put together

A dot puts two paths together: the whole leads where the second path leads from the end
of the first.  A path that leads outwards first leads, from data inside a context, where
the rest of it leads from the context.
-/

/-- The segment in front of the first dot of a path. -/
def firstSegment (path : String) : String :=
  String.ofList (path.toList.takeWhile (· != '.'))

/-- A path behind a number of segments that lead outwards. -/
def outwards : Nat → String → String
  | 0, path => path
  | count + 1, path => outwards count (parentSegment ++ "." ++ path)

/-!
## Segments
-/

theorem Text.head?_splitOnP
    (separates : α → Bool)
    (text : List α) :
    (text.splitOnP separates).head? = some (text.takeWhile fun c => !separates c) := by
  induction text with
  | nil =>
      rfl
  | cons c rest inductionHypothesis =>
      rw [List.splitOnP_cons_eq_if_modifyHead]
      cases separated : separates c with
      | true =>
          simp [separated]
      | false =>
          simp [separated, inductionHypothesis]

theorem head?_pathSegments
    (path : String) :
    (pathSegments path).head? = some (firstSegment path) := by
  rw [pathSegments, Text.pieces, List.head?_map, Text.head?_splitOnP, Option.map_some,
    firstSegment]
  rfl

theorem pathSegments_ne_nil
    (path : String) :
    pathSegments path ≠ [] := by
  intro nothing
  have first := head?_pathSegments path
  rw [nothing] at first
  cases first

theorem pathSegments_append
    (path following : String) :
    pathSegments (path ++ "." ++ following) = pathSegments path ++ pathSegments following := by
  have dotted :
      (path ++ "." ++ following).toList = path.toList ++ '.' :: following.toList := by
    simp
  have parted := List.splitOnP_append_cons (p := (· == '.')) path.toList following.toList
    (beq_self_eq_true '.')
  rw [pathSegments, Text.pieces, dotted, parted, List.map_append]
  rfl

/-- What stands behind a dot is not in the first segment. -/
theorem firstSegment_append
    (path following : String) :
    firstSegment (path ++ "." ++ following) = firstSegment path := by
  have first := head?_pathSegments (path ++ "." ++ following)
  rw [pathSegments_append, List.head?_append, head?_pathSegments, Option.some_or] at first
  exact (Option.some.inj first).symm

theorem pathSegments_parentSegment :
    pathSegments parentSegment = [parentSegment] := by
  decide

theorem unreserved_parentSegment
    (path : String) :
    reservedValue? (firstSegment (parentSegment ++ "." ++ path)) = none := by
  rw [firstSegment_append]
  decide

/-!
## Walking on
-/

theorem readIndex?_lengthSegment :
    readIndex? lengthSegment = none := by
  decide

namespace Value

/-- Segments with others behind them lead where the others lead from their end.  A
length has to be the last of all segments, but nothing leads on from one either. -/
theorem follow?_append
    (segments : List String)
    {rest : List String}
    (goesOn : rest ≠ [])
    (value : Value) :
    follow? (segments ++ rest) value = (follow? segments value).bind (follow? rest) := by
  induction segments generalizing value with
  | nil =>
      rw [List.nil_append, follow?, Option.bind_some]
  | cons segment segments inductionHypothesis =>
      have notLast : segments ++ rest ≠ [] := by
        simp [goesOn]
      obtain ⟨next, others, following⟩ := List.exists_cons_of_ne_nil goesOn
      have walksOn :
          follow? (segments ++ rest) = fun value =>
            (follow? segments value).bind (follow? rest) :=
        funext inductionHypothesis
      rw [List.cons_append]
      cases value with
      | null | bool _ | number _ =>
          rfl
      | object fields =>
          simp only [follow?, walksOn, Option.bind_assoc]
      | string text =>
          rw [follow?, follow?, if_neg (by simp [notLast])]
          split
          · rw [Option.bind_some, following]
            rfl
          · rfl
      | array items =>
          rw [follow?, follow?, if_neg (by simp [notLast])]
          split
          · rename_i asksLength
            rw [asksLength.1, readIndex?_lengthSegment, Option.bind_some, following]
            rfl
          · rw [walksOn, ← Option.bind_assoc]

end Value

namespace Context

/-- The context of data that stand one inside the other, the outermost of them inside a
context. -/
def nested
    (context : Context)
    (items : List Value) : Context :=
  items.foldl child context

@[simp]
theorem parent?_child
    (context : Context)
    (data : Value) :
    (context.child data).parent? = some context :=
  rfl

theorem resolve?_of_unreserved
    (context : Context)
    {path : String}
    (unreserved : reservedValue? (firstSegment path) = none) :
    context.resolve? path = context.resolveSegments? (pathSegments path) := by
  rw [resolve?, head?_pathSegments, Option.bind_some, unreserved]

theorem resolveSegments?_of_head
    (context : Context)
    {segments : List String}
    (stays : segments.head? ≠ some parentSegment) :
    context.resolveSegments? segments = context.data.follow? segments := by
  cases segments with
  | nil =>
      rw [resolveSegments?, Value.follow?]
  | cons segment rest =>
      have notParent : segment ≠ parentSegment :=
        fun same => stays (congrArg some same)
      rw [resolveSegments?, if_neg notParent]

/-- Leading outwards ends in front of the segments behind, wherever these are put. -/
theorem resolveSegments?_append
    (segments : List String)
    {rest : List String}
    (goesOn : rest ≠ [])
    (stays : rest.head? ≠ some parentSegment)
    (context : Context) :
    context.resolveSegments? (segments ++ rest) =
      (context.resolveSegments? segments).bind (Value.follow? rest) := by
  induction segments generalizing context with
  | nil =>
      rw [List.nil_append, context.resolveSegments?_of_head stays, resolveSegments?,
        Option.bind_some]
  | cons segment segments inductionHypothesis =>
      rw [List.cons_append, resolveSegments?, resolveSegments?]
      split
      · rw [Option.bind_assoc]
        exact congrArg context.parent?.bind (funext inductionHypothesis)
      · rw [← List.cons_append, Value.follow?_append _ goesOn]

/-- What leads to a second path from the end of the first leads there at once. -/
theorem resolve?_append
    (context : Context)
    {path following : String}
    (unreserved : reservedValue? (firstSegment path) = none)
    (unreservedToo : reservedValue? (firstSegment following) = none)
    (stays : firstSegment following ≠ parentSegment) :
    context.resolve? (path ++ "." ++ following) =
      (context.resolve? path).bind fun held => (ofData held).resolve? following := by
  have headStays : (pathSegments following).head? ≠ some parentSegment := by
    rw [head?_pathSegments]
    exact fun same => stays (Option.some.inj same)
  have fromHeld :
      (fun held => (ofData held).resolve? following) =
        Value.follow? (pathSegments following) := by
    funext held
    rw [resolve?_of_unreserved _ unreservedToo, resolveSegments?_of_head _ headStays, ofData]
  have wholeUnreserved :
      reservedValue? (firstSegment (path ++ "." ++ following)) = none := by
    rw [firstSegment_append, unreserved]
  rw [context.resolve?_of_unreserved wholeUnreserved, pathSegments_append,
    context.resolve?_of_unreserved unreserved, fromHeld,
    resolveSegments?_append _ (pathSegments_ne_nil following) headStays]

/-- One segment outwards leads from data inside a context to the context. -/
theorem resolve?_child
    (context : Context)
    (data : Value)
    {path : String}
    (unreserved : reservedValue? (firstSegment path) = none) :
    (context.child data).resolve? (parentSegment ++ "." ++ path) = context.resolve? path := by
  have outwardsFirst :
      pathSegments (parentSegment ++ "." ++ path) = parentSegment :: pathSegments path := by
    rw [pathSegments_append, pathSegments_parentSegment, List.singleton_append]
  rw [resolve?_of_unreserved _ (unreserved_parentSegment path), outwardsFirst,
    resolveSegments?, if_pos rfl, parent?_child, Option.bind_some,
    context.resolve?_of_unreserved unreserved]

/-- As many segments outwards as data stand inside a context lead to the context. -/
theorem resolve?_nested
    (context : Context)
    (items : List Value)
    {path : String}
    (unreserved : reservedValue? (firstSegment path) = none) :
    (context.nested items).resolve? (outwards items.length path) = context.resolve? path := by
  induction items generalizing context path with
  | nil =>
      rfl
  | cons data items inductionHypothesis =>
      have fromInside :=
        inductionHypothesis (context.child data) (unreserved_parentSegment path)
      rw [context.resolve?_child data unreserved] at fromInside
      exact fromInside

end Context

/--
Paths compose.  Where no segment in front is a name of a constant, and the second path
does not lead outwards, two paths with a dot between them lead exactly where the second
leads from the end of the first.  From data inside a context, however deep, a path behind
as many segments outwards leads where it leads from the context itself.
-/
theorem paths_compose
    (context : Context)
    (path : String)
    (unreserved : reservedValue? (firstSegment path) = none) :
    (∀ following,
      reservedValue? (firstSegment following) = none →
      firstSegment following ≠ parentSegment →
      ∀ value,
        context.resolve? (path ++ "." ++ following) = some value ↔
          ∃ held,
            context.resolve? path = some held ∧
              (Context.ofData held).resolve? following = some value) ∧
      ∀ items,
        (context.nested items).resolve? (outwards items.length path) =
          context.resolve? path := by
  refine ⟨fun following unreservedToo stays value => ?_,
    fun items => context.resolve?_nested items unreserved⟩
  rw [context.resolve?_append unreserved unreservedToo stays, Option.bind_eq_some_iff]

/-- The length of a text in an item of an array, from the context and from data two levels
inside it. -/
theorem paths_compose_orders :
    let orders := Value.object [("orders", .array [.null, .object [("tags", .string "né")]])]
    let context := (Context.ofData .null).child orders
    reservedValue? (firstSegment "orders.1") = none ∧
      reservedValue? (firstSegment "tags.length") = none ∧
      firstSegment "tags.length" ≠ parentSegment ∧
      context.resolve? "orders.1.tags.length" = some (.size 2) ∧
      (context.nested [.null, .bool true]).resolve? "_parent_._parent_.orders.1.tags.length" =
        some (.size 2) := by
  intro orders context
  have unreserved : reservedValue? (firstSegment "orders.1") = none := by decide
  have unreservedToo : reservedValue? (firstSegment "tags.length") = none := by decide
  have stays : firstSegment "tags.length" ≠ parentSegment := by decide
  have composed := (paths_compose context "orders.1" unreserved).1 "tags.length" unreservedToo stays
  have found : context.resolve? "orders.1.tags.length" = some (.size 2) :=
    (composed (.size 2)).mpr ⟨.object [("tags", .string "né")], rfl, rfl⟩
  have wholeUnreserved : reservedValue? (firstSegment "orders.1.tags.length") = none := by decide
  have climbed := (paths_compose context "orders.1.tags.length" wholeUnreserved).2
    [.null, .bool true]
  exact ⟨unreserved, unreservedToo, stays, found, climbed.trans found⟩

end DataBinding

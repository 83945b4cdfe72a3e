namespace DataBinding

/-!
# Fields in the order of their names

A list of named values, kept in the order of the names by code points.  Objects
of data and attributes of elements are such lists.  Reading after a write gives
what was written, whatever the list was before.
-/

namespace Fields

/-- The value of the first field with a name. -/
def get?
    (name : String) :
    List (String × α) → Option α
  | [] => none
  | (other, value) :: rest =>
      if name = other then
        some value
      else
        get? name rest

/-- Writes a field: in the place of the one with its name if there is one, and
otherwise before the first one with a greater name. -/
def insert
    (name : String)
    (value : α) :
    List (String × α) → List (String × α)
  | [] => [(name, value)]
  | (other, held) :: rest =>
      if name = other then
        (name, value) :: rest
      else if name < other then
        (name, value) :: (other, held) :: rest
      else
        (other, held) :: insert name value rest

/-- Removes the fields with a name. -/
def erase
    (name : String)
    (fields : List (String × α)) : List (String × α) :=
  fields.filter fun field => field.1 ≠ name

/-- Writes fields one after the other; of two with one name the last stays. -/
def insertAll
    (fields : List (String × α))
    (written : List (String × α)) : List (String × α) :=
  written.foldl (fun kept field => insert field.1 field.2 kept) fields

/-- The fields of a list in the order of their names. -/
def ofList
    (written : List (String × α)) : List (String × α) :=
  insertAll [] written

/-- Whether there is a field with a name. -/
def contains
    (name : String)
    (fields : List (String × α)) : Bool :=
  (get? name fields).isSome

@[simp]
theorem get?_insert_self
    (name : String)
    (value : α)
    (fields : List (String × α)) :
    get? name (insert name value fields) = some value := by
  induction fields with
  | nil =>
      simp [insert, get?]
  | cons field rest inductionHypothesis =>
      obtain ⟨other, held⟩ := field
      by_cases same : name = other
      · simp [insert, get?, same]
      · by_cases before : name < other
        · simp [insert, get?, same, before]
        · simp [insert, get?, same, before, inductionHypothesis]

theorem get?_insert_of_ne
    {name written : String}
    (different : name ≠ written)
    (value : α)
    (fields : List (String × α)) :
    get? name (insert written value fields) = get? name fields := by
  induction fields with
  | nil =>
      simp [insert, get?, different]
  | cons field rest inductionHypothesis =>
      obtain ⟨other, held⟩ := field
      by_cases same : written = other
      · subst same
        simp [insert, get?, different]
      · by_cases before : written < other
        · simp [insert, get?, same, before, different]
        · simp [insert, get?, same, before, inductionHypothesis]

@[simp]
theorem get?_erase_self
    (name : String)
    (fields : List (String × α)) :
    get? name (erase name fields) = none := by
  induction fields with
  | nil =>
      rfl
  | cons field rest inductionHypothesis =>
      obtain ⟨other, held⟩ := field
      by_cases same : other = name
      · simpa [erase, same] using inductionHypothesis
      · simpa [erase, get?, same, Ne.symm same] using inductionHypothesis

theorem get?_erase_of_ne
    {name erased : String}
    (different : name ≠ erased)
    (fields : List (String × α)) :
    get? name (erase erased fields) = get? name fields := by
  induction fields with
  | nil =>
      rfl
  | cons field rest inductionHypothesis =>
      obtain ⟨other, held⟩ := field
      by_cases same : other = erased
      · subst same
        simpa [erase, get?, different] using inductionHypothesis
      · by_cases found : name = other
        · simp [erase, get?, same, found]
        · simpa [erase, get?, same, found] using inductionHypothesis

/-- Whether the names of fields stand in strictly ascending order. -/
def Ordered (fields : List (String × α)) : Prop :=
  fields.Pairwise fun left right => left.1 < right.1

instance (fields : List (String × α)) : Decidable (Ordered fields) :=
  inferInstanceAs (Decidable (fields.Pairwise _))

theorem mem_insert
    {name : String}
    {value : α}
    {fields : List (String × α)}
    {field : String × α}
    (member : field ∈ insert name value fields) :
    field = (name, value) ∨ field ∈ fields := by
  induction fields with
  | nil =>
      simpa [insert] using member
  | cons first rest inductionHypothesis =>
      obtain ⟨other, held⟩ := first
      by_cases same : name = other
      · simp [insert, same] at member
        rcases member with isNew | inRest
        · exact Or.inl (by simp [isNew, same])
        · exact Or.inr (by simp [inRest])
      · by_cases before : name < other
        · simpa [insert, same, before] using member
        · simp [insert, same, before] at member
          rcases member with isFirst | inRest
          · exact Or.inr (by simp [isFirst])
          · rcases inductionHypothesis inRest with isNew | inOld
            · exact Or.inl isNew
            · exact Or.inr (by simp [inOld])

theorem ordered_insert
    (name : String)
    (value : α)
    {fields : List (String × α)}
    (ordered : Ordered fields) :
    Ordered (insert name value fields) := by
  induction fields with
  | nil =>
      simp [Ordered, insert]
  | cons first rest inductionHypothesis =>
      obtain ⟨other, held⟩ := first
      obtain ⟨firstLeast, restOrdered⟩ := List.pairwise_cons.mp ordered
      by_cases same : name = other
      · subst same
        simp only [insert, ↓reduceIte]
        exact List.pairwise_cons.mpr ⟨firstLeast, restOrdered⟩
      · by_cases before : name < other
        · simp only [insert, same, before, ↓reduceIte]
          refine List.pairwise_cons.mpr ⟨?_, ordered⟩
          intro field member
          rcases List.mem_cons.mp member with isFirst | inRest
          · simpa [isFirst] using before
          · exact String.lt_trans before (firstLeast field inRest)
        · simp only [insert, same, before, ↓reduceIte]
          refine List.pairwise_cons.mpr ⟨?_, inductionHypothesis restOrdered⟩
          intro field member
          rcases mem_insert member with isNew | inRest
          · subst isNew
            apply Classical.byContradiction
            intro notAfter
            exact same
              (String.le_antisymm (String.not_lt.mp notAfter) (String.not_lt.mp before))
          · exact firstLeast field inRest

theorem ordered_erase
    (name : String)
    {fields : List (String × α)}
    (ordered : Ordered fields) :
    Ordered (erase name fields) :=
  List.Pairwise.filter _ ordered

end Fields

end DataBinding

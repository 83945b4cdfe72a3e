import DataBinding.Proofs.ElementChange
import Mathlib.Data.List.Basic

namespace DataBinding

/-!
# What is restored before a render

Each backup attribute of an element names one thing: the text, or one other
attribute.  So restoring the backups one after the other gives every attribute
its template if there is a backup of it, and leaves it alone if there is none,
whatever the order of the backups.  The class attribute also loses the markers.
-/

namespace Settings

/-- Whether the name of an attribute begins with the prefix of backups. -/
def HasBackupPrefix
    (settings : Settings)
    (name : String) : Prop :=
  settings.attributes.backup.toList <+: name.toList

instance
    (settings : Settings)
    (name : String) :
    Decidable (settings.HasBackupPrefix name) :=
  inferInstanceAs (Decidable (_ <+: _))

/-- Whether an attribute is neither that of the instructions nor one whose name
begins like those of backups. -/
def IsFree
    (settings : Settings)
    (name : String) : Prop :=
  name ≠ settings.attributes.instruction ∧ ¬settings.HasBackupPrefix name

instance
    (settings : Settings)
    (name : String) :
    Decidable (settings.IsFree name) :=
  inferInstanceAs (Decidable (_ ∧ _))

theorem toList_backupAttribute
    (settings : Settings)
    (name : String) :
    (settings.backupAttribute (some name)).toList =
      settings.attributes.backup.toList ++ '-' :: name.toList := by
  simp [backupAttribute]

theorem backupAttribute_none
    (settings : Settings) :
    settings.backupAttribute none = settings.attributes.backup :=
  rfl

@[simp]
theorem hasBackupPrefix_backupAttribute
    (settings : Settings)
    (attribute? : Option String) :
    settings.HasBackupPrefix (settings.backupAttribute attribute?) := by
  cases attribute? with
  | none =>
      exact List.prefix_rfl
  | some name =>
      rw [HasBackupPrefix, toList_backupAttribute]
      exact List.prefix_append _ _

theorem backupAttribute_injective
    (settings : Settings) :
    Function.Injective settings.backupAttribute := by
  rintro (_ | left) (_ | right) same
  · rfl
  · have lengths := congrArg (fun name => name.toList.length) same
    simp [toList_backupAttribute, backupAttribute_none] at lengths
  · have lengths := congrArg (fun name => name.toList.length) same
    simp [toList_backupAttribute, backupAttribute_none] at lengths
  · have lists := congrArg String.toList same
    rw [toList_backupAttribute, toList_backupAttribute, List.append_cancel_left_eq,
      List.cons.injEq, String.toList_inj] at lists
    exact congrArg some lists.2

theorem ne_backupAttribute
    {settings : Settings}
    {name : String}
    (noPrefix : ¬settings.HasBackupPrefix name)
    (attribute? : Option String) :
    name ≠ settings.backupAttribute attribute? := by
  rintro rfl
  exact noPrefix (settings.hasBackupPrefix_backupAttribute attribute?)

theorem IsFree.ne_backupAttribute
    {settings : Settings}
    {name : String}
    (free : settings.IsFree name)
    (attribute? : Option String) :
    name ≠ settings.backupAttribute attribute? :=
  Settings.ne_backupAttribute free.2 attribute?

/-- Backups of attributes have a dash in their names. -/
theorem backupAttribute_ne
    (settings : Settings)
    {name : String}
    (noDash : '-' ∉ name.toList)
    (owner : String) :
    settings.backupAttribute (some owner) ≠ name := by
  rintro rfl
  apply noDash
  simp [toList_backupAttribute]

/-- Whether the backups of an element are all of free attributes. -/
def BackupsFree
    (settings : Settings)
    (element : Element) : Prop :=
  ∀ owner, owner ≠ "" →
    element.hasAttribute (settings.backupAttribute (some owner)) = true →
      settings.IsFree owner

section NoBackups

variable
  {settings : Settings}
  {element : Element}
  (noBackups :
    ∀ name, element.hasAttribute name = true → ¬settings.HasBackupPrefix name)

include noBackups

theorem attribute?_backupAttribute_eq_none
    (attribute? : Option String) :
    element.attribute? (settings.backupAttribute attribute?) = none := by
  by_contra present
  exact noBackups _ (Option.isSome_iff_ne_none.mpr present)
    (settings.hasBackupPrefix_backupAttribute attribute?)

theorem backupsFree_of_noBackups :
    settings.BackupsFree element := by
  intro owner _ kept
  exact absurd (settings.hasBackupPrefix_backupAttribute (some owner)) (noBackups _ kept)

end NoBackups

/-!
## One backup
-/

section RestoreField

variable
  (settings : Settings)
  (element : Element)

theorem restoreField_text
    (template : String) :
    settings.restoreField element settings.attributes.backup template =
      element.setText template := by
  simp [restoreField]

theorem restoreField_attribute
    {name : String}
    (named : name ≠ "")
    (template : String) :
    settings.restoreField element (settings.backupAttribute (some name)) template =
      element.setAttribute name template := by
  have characters : name.toList ≠ [] := by
    simpa using named
  obtain ⟨first, rest, split⟩ := List.exists_cons_of_ne_nil characters
  have rebuilt : String.ofList (first :: rest) = name := by
    rw [← split, String.ofList_toList]
  have behind :
      settings.attributes.backup.toList.isPrefixOf
        (settings.attributes.backup.toList ++ '-' :: first :: rest) = true := by
    simp
  unfold restoreField
  simp only [toList_backupAttribute, split, behind, ↓reduceIte, List.drop_left, rebuilt]

/-- An attribute that is no backup restores nothing. -/
theorem restoreField_other
    {name : String}
    (notText : name ≠ settings.attributes.backup)
    (notAttribute :
      ∀ owner, owner ≠ "" → name ≠ settings.backupAttribute (some owner))
    (template : String) :
    settings.restoreField element name template = element := by
  unfold restoreField
  dsimp only
  split
  · rename_i isPrefix
    obtain ⟨rest, split⟩ := List.isPrefixOf_iff_prefix.mp isPrefix
    rw [← split, List.drop_left]
    split
    · rw [List.append_nil, String.toList_inj] at split
      exact absurd split.symm notText
    · rename_i first others
      have isBackup :
          name = settings.backupAttribute (some (String.ofList (first :: others))) := by
        rw [← String.toList_inj, toList_backupAttribute, String.toList_ofList, split]
      refine absurd isBackup (notAttribute _ ?_)
      simp [← String.toList_inj]
    · rfl
  · rfl

/-- An attribute is a backup of the text, one of another attribute, or none. -/
theorem restoreField_cases
    (name template : String) :
    (name = settings.attributes.backup ∧
        settings.restoreField element name template = element.setText template) ∨
      (∃ owner,
        owner ≠ "" ∧ name = settings.backupAttribute (some owner) ∧
          settings.restoreField element name template =
            element.setAttribute owner template) ∨
      (name ≠ settings.attributes.backup ∧
        (∀ owner, owner ≠ "" → name ≠ settings.backupAttribute (some owner)) ∧
          settings.restoreField element name template = element) := by
  by_cases isText : name = settings.attributes.backup
  · subst isText
    exact Or.inl ⟨rfl, settings.restoreField_text element template⟩
  · by_cases isAttribute :
        ∃ owner, owner ≠ "" ∧ name = settings.backupAttribute (some owner)
    · obtain ⟨owner, named, rfl⟩ := isAttribute
      exact Or.inr (Or.inl
        ⟨owner, named, rfl, settings.restoreField_attribute element named template⟩)
    · have notAttribute :
          ∀ owner, owner ≠ "" → name ≠ settings.backupAttribute (some owner) := by
        intro owner named isBackup
        exact isAttribute ⟨owner, named, isBackup⟩
      exact Or.inr (Or.inr ⟨isText, notAttribute,
        settings.restoreField_other element isText notAttribute template⟩)

theorem attribute?_restoreField
    (name template owner : String) :
    (settings.restoreField element name template).attribute? owner =
      if owner ≠ "" ∧ settings.backupAttribute (some owner) = name then
        some template
      else
        element.attribute? owner := by
  rcases settings.restoreField_cases element name template with
    ⟨isText, restored⟩ | ⟨other, named, isBackup, restored⟩ | ⟨_, noBackup, restored⟩
  · have notBackup : settings.backupAttribute (some owner) ≠ name := by
      rw [isText, ← backupAttribute_none]
      exact fun same => nomatch settings.backupAttribute_injective same
    rw [restored, if_neg fun both => notBackup both.2, Element.attribute?_setText]
  · by_cases same : owner = other
    · subst same
      rw [restored, if_pos ⟨named, isBackup.symm⟩, Element.attribute?_setAttribute_self]
    · have notBackup : settings.backupAttribute (some owner) ≠ name := by
        rw [isBackup]
        exact fun sameBackup =>
          same (Option.some.inj (settings.backupAttribute_injective sameBackup))
      rw [restored, if_neg fun both => notBackup both.2,
        element.attribute?_setAttribute_of_ne same]
  · rw [restored, if_neg fun both => noBackup owner both.1 both.2.symm]

/-- What restoring a backup does to the rest of an element. -/
theorem body_restoreField
    (name template : String) :
    (settings.restoreField element name template).body =
      if settings.attributes.backup = name then
        element.body.setText template
      else
        element.body := by
  rcases settings.restoreField_cases element name template with
    ⟨isText, restored⟩ | ⟨other, _, isBackup, restored⟩ | ⟨notText, _, restored⟩
  · rw [restored, if_pos isText.symm]
    rfl
  · have notText : settings.attributes.backup ≠ name := by
      rw [isBackup, ← backupAttribute_none]
      exact fun same => nomatch settings.backupAttribute_injective same
    rw [restored, if_neg notText, Element.body_setAttribute]
  · rw [restored, if_neg (Ne.symm notText)]

end RestoreField

/-!
## All backups
-/

theorem attribute?_foldl_restoreField
    (settings : Settings)
    {fields : List (String × String)}
    (ordered : Fields.Ordered fields)
    (element : Element)
    (owner : String) :
    (fields.foldl
        (fun changed field => settings.restoreField changed field.1 field.2)
        element).attribute? owner =
      (if owner = "" then
        none
      else
        Fields.get? (settings.backupAttribute (some owner)) fields).or
          (element.attribute? owner) := by
  induction fields generalizing element with
  | nil =>
      simp [Fields.get?]
  | cons field rest inductionHypothesis =>
      obtain ⟨name, template⟩ := field
      obtain ⟨firstLeast, restOrdered⟩ := List.pairwise_cons.mp ordered
      rw [List.foldl_cons, inductionHypothesis restOrdered, attribute?_restoreField]
      by_cases named : owner = ""
      · simp [named]
      · by_cases isBackup : settings.backupAttribute (some owner) = name
        · have onlyOnce :
              Fields.get? (settings.backupAttribute (some owner)) rest = none :=
            Fields.get?_of_lt (isBackup ▸ firstLeast)
          simp [named, isBackup, Fields.get?, isBackup ▸ onlyOnce]
        · simp [named, isBackup, Fields.get?]

theorem body_foldl_restoreField
    (settings : Settings)
    {fields : List (String × String)}
    (ordered : Fields.Ordered fields)
    (element : Element) :
    (fields.foldl
        (fun changed field => settings.restoreField changed field.1 field.2)
        element).body =
      match Fields.get? settings.attributes.backup fields with
      | some template => element.body.setText template
      | none => element.body := by
  induction fields generalizing element with
  | nil =>
      rfl
  | cons field rest inductionHypothesis =>
      obtain ⟨name, template⟩ := field
      obtain ⟨firstLeast, restOrdered⟩ := List.pairwise_cons.mp ordered
      rw [List.foldl_cons, inductionHypothesis restOrdered, body_restoreField]
      by_cases isBackup : settings.attributes.backup = name
      · have onlyOnce : Fields.get? settings.attributes.backup rest = none :=
          Fields.get?_of_lt (isBackup ▸ firstLeast)
        simp [isBackup, Fields.get?, isBackup ▸ onlyOnce]
      · simp [isBackup, Fields.get?]

/-- Restoring takes an attribute from its backup, if there is one. -/
theorem attribute?_restore
    (settings : Settings)
    (element : Element)
    {owner : String}
    (notClass : owner ≠ Element.classAttribute) :
    (settings.restore element).attribute? owner =
      (if owner = "" then
        none
      else
        element.attribute? (settings.backupAttribute (some owner))).or
          (element.attribute? owner) := by
  rw [restore, (Element.removeClass_sameBut _ _).elsewhere owner notClass,
    (Element.removeClass_sameBut _ _).elsewhere owner notClass]
  exact settings.attribute?_foldl_restoreField element.attributes.ordered element owner

/-- Restoring takes the text from its backup, if there is one. -/
theorem body_restore
    (settings : Settings)
    (element : Element) :
    (settings.restore element).body =
      match element.attribute? settings.attributes.backup with
      | some template => element.body.setText template
      | none => element.body := by
  rw [restore, (Element.removeClass_sameBut _ _).body,
    (Element.removeClass_sameBut _ _).body]
  exact settings.body_foldl_restoreField element.attributes.ordered element

theorem content_restore
    (settings : Settings)
    (element : Element) :
    (settings.restore element).content =
      (element.attribute? settings.attributes.backup).getD element.content := by
  rw [← (settings.restore element).content_body, settings.body_restore]
  cases element.attribute? settings.attributes.backup <;> rfl

theorem tag_restore
    (settings : Settings)
    (element : Element) :
    (settings.restore element).tag = element.tag := by
  rw [← (settings.restore element).tag_body, settings.body_restore]
  cases element.attribute? settings.attributes.backup <;> rfl

theorem children_restore
    (settings : Settings)
    (element : Element) :
    (settings.restore element).children = element.children := by
  rw [← (settings.restore element).children_body, settings.body_restore]
  cases element.attribute? settings.attributes.backup <;> rfl

theorem removed_restore
    (settings : Settings)
    (element : Element) :
    (settings.restore element).removed = element.removed := by
  rw [← (settings.restore element).removed_body, settings.body_restore]
  cases element.attribute? settings.attributes.backup <;> rfl

theorem isHtml_restore
    (settings : Settings)
    (element : Element) :
    (settings.restore element).isHtml =
      (element.isHtml && !element.hasAttribute settings.attributes.backup) := by
  rw [← (settings.restore element).isHtml_body, settings.body_restore, Element.hasAttribute]
  cases element.attribute? settings.attributes.backup with
  | none =>
      exact (Bool.and_true _).symm
  | some template =>
      exact (Bool.and_false _).symm

/-- Restoring leaves attributes alone that are not free. -/
theorem BackupsFree.attribute?_restore
    {settings : Settings}
    {element : Element}
    (backups : settings.BackupsFree element)
    {name : String}
    (notClass : name ≠ Element.classAttribute)
    (notFree : ¬settings.IsFree name) :
    (settings.restore element).attribute? name = element.attribute? name := by
  rw [settings.attribute?_restore element notClass]
  by_cases named : name = ""
  · simp [named]
  · have noBackup : element.attribute? (settings.backupAttribute (some name)) = none := by
      by_contra present
      exact notFree (backups name named (Option.isSome_iff_ne_none.mpr present))
    simp [named, noBackup]

theorem BackupsFree.restore
    {settings : Settings}
    {element : Element}
    (backups : settings.BackupsFree element) :
    settings.BackupsFree (settings.restore element) := by
  intro owner named kept
  have notClass : settings.backupAttribute (some owner) ≠ Element.classAttribute :=
    settings.backupAttribute_ne (by decide) owner
  have notFree : ¬settings.IsFree (settings.backupAttribute (some owner)) :=
    fun free => free.ne_backupAttribute (some owner) rfl
  rw [Element.hasAttribute, backups.attribute?_restore notClass notFree] at kept
  exact backups owner named kept

end Settings

end DataBinding

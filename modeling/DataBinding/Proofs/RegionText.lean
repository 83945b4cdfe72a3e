import DataBinding.Proofs.RegionRun
import DataBinding.Proofs.TextTemplate
import Mathlib.Data.List.Forall2

namespace DataBinding

/-!
# Repeated regions of texts

The instances of a region are copies of a template that are rendered again and
again, and which copy an item gets depends on all that happened before.  What the
copies show does not: every copy still holds the text of the template, and a
render starts from there.
-/

namespace SyncProgress

variable
  {host : RegionHost σ η}
  {fits : η → Prop}
  {shows : RepeatItem → η → Prop}
  (created : ∀ item state, fits (host.create item state).1)
  (rendered :
    ∀ handle item state, fits handle → shows item (host.render handle item state).1)

include created rendered

/-- A step that places an item leaves behind an instance that shows it. -/
theorem step_shows
    (edit : Edit (RegionInstance η) RepeatItem)
    (fitting : ∀ kept ∈ edit.instance?, fits kept.handle)
    {placed : List RepeatItem}
    {progress : SyncProgress σ η}
    (shown : List.Forall₂ (fun item kept => shows item kept.handle) placed
      progress.instances) :
    List.Forall₂ (fun item kept => shows item kept.handle)
      (placed ++ edit.item?.toList) (progress.step host edit).instances := by
  cases edit with
  | reuse kept item =>
      refine List.rel_append shown (List.Forall₂.cons ?_ List.Forall₂.nil)
      exact rendered kept.handle item progress.host (fitting kept rfl)
  | add item =>
      refine List.rel_append shown (List.Forall₂.cons ?_ List.Forall₂.nil)
      exact rendered _ item _ (created item progress.host)
  | remove discarded =>
      simpa [Edit.item?, step, remove] using shown

theorem foldl_step_shows
    (plan : List (Edit (RegionInstance η) RepeatItem))
    (fitting : ∀ kept ∈ plan.filterMap Edit.instance?, fits kept.handle)
    {placed : List RepeatItem}
    {progress : SyncProgress σ η}
    (shown : List.Forall₂ (fun item kept => shows item kept.handle) placed
      progress.instances) :
    List.Forall₂ (fun item kept => shows item kept.handle)
      (placed ++ plan.filterMap Edit.item?)
      (plan.foldl (step host) progress).instances := by
  induction plan generalizing placed progress with
  | nil =>
      simpa using shown
  | cons edit plan inductionHypothesis =>
      have fittingFirst : ∀ kept ∈ edit.instance?, fits kept.handle := by
        intro kept isKept
        exact fitting kept (List.mem_filterMap.mpr ⟨edit, by simp, isKept⟩)
      have fittingRest : ∀ kept ∈ plan.filterMap Edit.instance?, fits kept.handle := by
        intro kept member
        obtain ⟨other, inPlan, isKept⟩ := List.mem_filterMap.mp member
        exact fitting kept (List.mem_filterMap.mpr ⟨other, by simp [inPlan], isKept⟩)
      have stepped := step_shows created rendered edit fittingFirst shown
      have placedAll :
          placed ++ (edit :: plan).filterMap Edit.item? =
            placed ++ edit.item?.toList ++ plan.filterMap Edit.item? := by
        cases edit <;> simp [Edit.item?, List.filterMap_cons]
      rw [placedAll]
      exact inductionHypothesis fittingRest stepped

end SyncProgress

namespace RepeatRegion

/-- What a host makes of its instances, each sync finds again: if it renders what
fits into what shows an item, then afterwards the instances show the items. -/
theorem sync_shows
    {host : RegionHost σ η}
    {fits : η → Prop}
    {shows : RepeatItem → η → Prop}
    (created : ∀ item state, fits (host.create item state).1)
    (rendered :
      ∀ handle item state, fits handle → shows item (host.render handle item state).1)
    {region : RepeatRegion η}
    (sequence : region.marker.isSequence = true)
    (fitting : ∀ kept ∈ region.instances, fits kept.handle)
    (items : List RepeatItem)
    (state : σ) :
    List.Forall₂ (fun item kept => shows item kept.handle) items
      (region.sync host items state).1.instances := by
  have begun :
      List.Forall₂ (fun item kept => shows item kept.handle) []
        (region.begin [] state).instances :=
    List.Forall₂.nil
  have shown :=
    SyncProgress.foldl_step_shows created rendered (region.plan items)
      ((region.plan_instances items).symm ▸ fitting) begun
  rw [List.nil_append, region.plan_items items] at shown
  simp only [sync, sequence, ↓reduceIte, syncSequence]
  exact shown

end RepeatRegion

namespace Settings

/-- Whether an element may have come about from a template by renders. -/
structure IsCopy
    (settings : Settings)
    (template element : Element) : Prop extends settings.KeepsText template element where
  uninstructed :
    template.attribute? settings.attributes.instruction = none → element = template

variable
  {settings : Settings}
  {template : Element}
  (apart : settings.KeepsApart)
  (isTemplate : settings.IsTextTemplate template)

include isTemplate

theorem isCopy_self :
    settings.IsCopy template template where
  toKeepsText :=
    isTemplate.keepsText
  uninstructed _ :=
    rfl

theorem IsTextTemplate.spares
    {source : String}
    (instructed : template.attribute? settings.attributes.instruction = some source)
    (context : Context) :
    ∀ command ∈ activeCommands context source, settings.SparesText command := by
  intro command member
  obtain ⟨⟨instruction, inSource, isCommand⟩, _⟩ := mem_activeCommands.mp member
  exact isTemplate.instructions source instructed instruction inSource context command
    isCommand

include apart

/-- Rendering a copy gives a copy, which shows what the template would. -/
theorem IsCopy.render
    {element : Element}
    (copy : settings.IsCopy template element)
    {dispatcher : Dispatcher σ}
    (leaves : dispatcher.LeavesElements)
    (context : Context)
    (state fresh : σ) :
    settings.IsCopy template (settings.render dispatcher context element state).2.1 ∧
      (settings.render dispatcher context element state).2.1.shows =
        (settings.render dispatcher context template fresh).2.1.shows := by
  cases instructed : template.attribute? settings.attributes.instruction with
  | none =>
      have same := copy.uninstructed instructed
      subst same
      rw [render_element_of_none instructed, render_element_of_none instructed]
      exact ⟨copy, rfl⟩
  | some source =>
      have instructedCopy := copy.instruction.trans instructed
      have noPrefix :=
        isTemplate.noBackups _ (Option.isSome_iff_exists.mpr ⟨source, instructed⟩)
      have spare := isTemplate.spares instructed context
      rw [render_element instructed leaves, render_element instructedCopy leaves]
      constructor
      · have hasPlaceholder := Placeholder.isTemplate_of_occurs isTemplate.placeholder
        refine ⟨copy.toKeepsText.rendered apart noPrefix hasPlaceholder spare, ?_⟩
        exact fun uninstructed => nomatch instructed.symm.trans uninstructed
      · have content := copy.toKeepsText.shows_rendered apart spare
        rw [← isTemplate.keepsText.shows_rendered apart spare] at content
        simp only [Element.shows, copy.toKeepsText.isHtml_rendered spare,
          isTemplate.keepsText.isHtml_rendered spare, Option.some.inj content]

end Settings

/-- One sync of a region whose instances are copies of a template.  Each is rendered
in the context of its item; what else the host does when instances come and go is
its own affair. -/
structure TemplateSync (σ : Type) where
  items : List RepeatItem
  contextOf : RepeatItem → Context
  dispatcher : Dispatcher σ
  created : RepeatItem → σ → σ
  retired : Element → σ → σ

/-- The call that a sync makes on a region. -/
def TemplateSync.call
    (settings : Settings)
    (template : Element)
    (sync : TemplateSync σ) : SyncCall σ Element where
  items := sync.items
  host :=
    { create := fun item state => (template, sync.created item state)
      render := fun element item state =>
        (settings.render sync.dispatcher (sync.contextOf item) element state).2
      retire := sync.retired }

theorem SyncCall.runAll_concat
    (marker : RepeatMarker)
    (state : σ)
    (calls : List (SyncCall σ η))
    (call : SyncCall σ η) :
    runAll marker state (calls ++ [call]) = call.run (runAll marker state calls) := by
  simp [runAll]

theorem SyncCall.marker_runAll
    (marker : RepeatMarker)
    (state : σ)
    (calls : List (SyncCall σ η)) :
    (runAll marker state calls).1.marker = marker := by
  induction calls using List.reverseRecOn with
  | nil =>
      rfl
  | append_singleton calls call inductionHypothesis =>
      rw [runAll_concat]
      exact inductionHypothesis

namespace TemplateSync

/-- Whether a copy of the template shows an item as a fresh copy would. -/
def Shows
    (settings : Settings)
    (template : Element)
    (sync : TemplateSync σ)
    (fresh : σ)
    (item : RepeatItem)
    (element : Element) : Prop :=
  settings.IsCopy template element ∧
    element.shows =
      (settings.render sync.dispatcher (sync.contextOf item) template fresh).2.1.shows

variable
  {settings : Settings}
  (apart : settings.KeepsApart)
  {marker : RepeatMarker}
  (sequence : marker.isSequence = true)
  {template : Element}
  (isTemplate : settings.IsTextTemplate template)

include apart sequence isTemplate

/-- A sync turns copies of the template into copies that show their items. -/
theorem call_shows
    {region : RepeatRegion Element}
    (marked : region.marker = marker)
    (copies : ∀ kept ∈ region.instances, settings.IsCopy template kept.handle)
    {sync : TemplateSync σ}
    (leaves : sync.dispatcher.LeavesElements)
    (state fresh : σ) :
    let synced := ((sync.call settings template).run (region, state)).1.instances
    (∀ kept ∈ synced, settings.IsCopy template kept.handle) ∧
      synced.map (fun kept => kept.handle.shows) =
        sync.items.map fun item =>
          (settings.render sync.dispatcher (sync.contextOf item) template fresh).2.1.shows := by
  intro synced
  have created :
      ∀ item state,
        settings.IsCopy template ((sync.call settings template).host.create item state).1 :=
    fun _ _ => Settings.isCopy_self isTemplate
  have rendered :
      ∀ element item state, settings.IsCopy template element →
        sync.Shows settings template fresh item
          ((sync.call settings template).host.render element item state).1 :=
    fun element item state copy =>
      copy.render apart isTemplate leaves (sync.contextOf item) state fresh
  have shown :=
    RepeatRegion.sync_shows created rendered (marked ▸ sequence) copies sync.items state
  have flipped :
      List.Forall₂
        (fun kept item =>
          settings.IsCopy template kept.handle ∧
            kept.handle.shows =
              (settings.render sync.dispatcher (sync.contextOf item) template fresh).2.1.shows)
        synced sync.items :=
    shown.flip
  obtain ⟨areCopies, sameShown⟩ := (List.forall₂_and_left _ _).mp flipped
  refine ⟨areCopies, ?_⟩
  rw [← List.forall₂_eq_eq_eq, List.forall₂_map_left_iff, List.forall₂_map_right_iff]
  exact sameShown

/-- Every instance of every run is a copy of the template. -/
theorem isCopy_of_mem_runAll
    {syncs : List (TemplateSync σ)}
    (leave : ∀ sync ∈ syncs, sync.dispatcher.LeavesElements)
    (state : σ) :
    ∀ kept ∈ (SyncCall.runAll marker state (syncs.map (call settings template))).1.instances,
      settings.IsCopy template kept.handle := by
  induction syncs using List.reverseRecOn with
  | nil =>
      intro kept member
      exact absurd member List.not_mem_nil
  | append_singleton syncs sync inductionHypothesis =>
      have copies :=
        inductionHypothesis fun other inSyncs => leave other (by simp [inSyncs])
      rw [List.map_append, List.map_singleton, SyncCall.runAll_concat]
      exact
        (call_shows apart sequence isTemplate (SyncCall.marker_runAll marker state _) copies
          (leave sync (by simp)) _ state).1

end TemplateSync

/--
What a region of texts shows depends on its last sync alone: after any number of
syncs, with any items, contexts and hosts that leave elements unchanged, each
instance shows what a fresh copy of the template shows when it is rendered once
for the item.
-/
theorem region_showsLatestData
    {settings : Settings}
    (apart : settings.KeepsApart)
    {marker : RepeatMarker}
    (sequence : marker.isSequence = true)
    {template : Element}
    (isTemplate : settings.IsTextTemplate template)
    (history : List (TemplateSync σ))
    (last : TemplateSync σ)
    (leave : ∀ sync ∈ history ++ [last], sync.dispatcher.LeavesElements)
    (state fresh : σ) :
    (SyncCall.runAll marker state
          ((history ++ [last]).map (TemplateSync.call settings template))).1.instances.map
        (fun kept => kept.handle.shows) =
      last.items.map fun item =>
        (settings.render last.dispatcher (last.contextOf item) template fresh).2.1.shows := by
  have copies :=
    TemplateSync.isCopy_of_mem_runAll apart sequence isTemplate
      (fun sync inHistory => leave sync (List.mem_append_left _ inHistory)) state
  rw [List.map_append, List.map_singleton, SyncCall.runAll_concat]
  exact
    (TemplateSync.call_shows apart sequence isTemplate
      (SyncCall.marker_runAll marker state _) copies
      (leave last (List.mem_append_right _ (List.mem_singleton_self last))) _ fresh).2

/-- A template that greets people by name. -/
def greeting : Element where
  tag := "li"
  attributes := .ofList [("z-var", "name .")]
  content := "Hello $\x7bname\x7d!"

/-- A sync that greets people. -/
def greetingSync (people : List (String × Value)) : TemplateSync Unit where
  items := people.map fun person => ⟨person.1, .object [("name", person.2)]⟩
  contextOf item := .ofData item.data
  dispatcher := .unattended
  created _ state := state
  retired _ state := state

theorem isTextTemplate_greeting :
    Settings.IsTextTemplate {} greeting where
  isText :=
    rfl
  noBackups name has := by
    have isInstruction : name = "z-var" := by
      by_contra other
      simp [greeting, Element.hasAttribute, Element.attribute?, Attributes.ofList,
        Attributes.get?_set_of_ne _ other] at has
    rw [isInstruction]
    decide
  placeholder := by
    decide
  instructions source instructed instruction member context command isCommand := by
    have sourceText : source = "name ." :=
      (Option.some.inj (instructed : some "name ." = some source)).symm
    have single :
        instructions "name ." =
          [⟨"name .", ⟨0, 6⟩, [.name "name" ⟨0, 4⟩, .name "." ⟨5, 6⟩]⟩] :=
      rfl
    rw [sourceText, single, List.mem_singleton] at member
    have isText :
        Instruction.command context
            ⟨"name .", ⟨0, 6⟩, [.name "name" ⟨0, 4⟩, .name "." ⟨5, 6⟩]⟩ =
          .ok
            { Command.ofAction .text ((context.lookup "name").toScalar.negate 0) with
              path? := some "name" } :=
      rfl
    rw [member, isText] at isCommand
    cases isCommand
    refine ⟨?_, ?_, ?_⟩
    · intro isHtml
      cases isHtml
    · intro isValue
      cases isValue
    · intro name isAttr
      cases isAttr

/-- A greeting that has been filled in is greeted anew, also when its name is gone. -/
theorem region_showsLatestData_greetings :
    (SyncCall.runAll ⟨"people", true⟩ ()
          (([greetingSync [("1", .string "Ann"), ("2", .string "Eve")]] ++
              [greetingSync [("3", .string "Bob"), ("1", .null)]]).map
            (TemplateSync.call {} greeting))).1.instances.map
        (fun kept => kept.handle.shows) =
      [("Hello Bob!", false), ("Hello $\x7bname\x7d!", false)] := by
  rw [region_showsLatestData (by decide) rfl isTextTemplate_greeting _ _ ?_ () ()]
  · rfl
  · intro sync member
    simp only [List.singleton_append, List.mem_cons, List.not_mem_nil, or_false] at member
    rcases member with rfl | rfl <;> exact Dispatcher.unattended_leavesElements

end DataBinding

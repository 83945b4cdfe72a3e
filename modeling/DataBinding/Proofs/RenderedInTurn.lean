import DataBinding.Proofs.RegionText

namespace DataBinding

/-!
# Renders in turn

An element is rendered for as long as it lives, and every render starts from what
the last one left.  A text template outlives them all: whatever was filled in
before, was skipped or went wrong, the text is the one that the last data give.
-/

namespace Settings

/-- Renders an element in one context after the other, with what the last render
left, and the host as the last render left it. -/
def renderInTurn
    (settings : Settings)
    (dispatcher : Dispatcher σ)
    (contexts : List Context)
    (element : Element)
    (state : σ) : Element × σ :=
  contexts.foldl
    (fun reached context => (settings.render dispatcher context reached.1 reached.2).2)
    (element, state)

theorem renderInTurn_concat
    (settings : Settings)
    (dispatcher : Dispatcher σ)
    (contexts : List Context)
    (context : Context)
    (element : Element)
    (state : σ) :
    settings.renderInTurn dispatcher (contexts ++ [context]) element state =
      (settings.render dispatcher context
        (settings.renderInTurn dispatcher contexts element state).1
        (settings.renderInTurn dispatcher contexts element state).2).2 := by
  rw [renderInTurn, List.foldl_append, ← renderInTurn]
  rfl

/-- What every render keeps, all renders in turn keep. -/
theorem renderInTurn_keeps
    {settings : Settings}
    {dispatcher : Dispatcher σ}
    {holds : Element → Prop}
    (keeps :
      ∀ context element state,
        holds element → holds (settings.render dispatcher context element state).2.1)
    (contexts : List Context)
    {element : Element}
    (begun : holds element)
    (state : σ) :
    holds (settings.renderInTurn dispatcher contexts element state).1 := by
  induction contexts using List.reverseRecOn with
  | nil =>
      exact begun
  | append_singleton contexts context inductionHypothesis =>
      rw [renderInTurn_concat]
      exact keeps context _ _ inductionHypothesis

theorem renderInTurn_of_none
    {settings : Settings}
    {element : Element}
    (uninstructed : element.attribute? settings.attributes.instruction = none)
    (dispatcher : Dispatcher σ)
    (contexts : List Context)
    (state : σ) :
    (settings.renderInTurn dispatcher contexts element state).1 = element := by
  have keeps :
      ∀ context reached state,
        reached = element → (settings.render dispatcher context reached state).2.1 = element := by
    rintro context _ state rfl
    exact render_element_of_none uninstructed dispatcher context state
  exact renderInTurn_keeps keeps contexts rfl state

/-- Renders in turn leave a copy of the template. -/
theorem IsTextTemplate.isCopy_renderInTurn
    {settings : Settings}
    {template : Element}
    (apart : settings.KeepsApart)
    (isTemplate : settings.IsTextTemplate template)
    {dispatcher : Dispatcher σ}
    (leaves : dispatcher.LeavesElements)
    (contexts : List Context)
    (state : σ) :
    settings.IsCopy template (settings.renderInTurn dispatcher contexts template state).1 :=
  renderInTurn_keeps
    (fun context _ reached copy => (copy.render apart isTemplate leaves context reached reached).1)
    contexts (isCopy_self isTemplate) state

end Settings

/--
A text template is never lost: an element with a text template that is rendered in
one context after the other shows in the end what the template shows when it is
rendered in the last context alone, whatever the hosts' states.
-/
theorem renderInTurn_showsLatestData
    {settings : Settings}
    (apart : settings.KeepsApart)
    {template : Element}
    (isTemplate : settings.IsTextTemplate template)
    {dispatcher : Dispatcher σ}
    (leaves : dispatcher.LeavesElements)
    (earlier : List Context)
    (last : Context)
    (state fresh : σ) :
    (settings.renderInTurn dispatcher (earlier ++ [last]) template state).1.shows =
      (settings.render dispatcher last template fresh).2.1.shows := by
  have copy := isTemplate.isCopy_renderInTurn apart leaves earlier state
  rw [Settings.renderInTurn_concat]
  exact (copy.render apart isTemplate leaves last _ fresh).2

/-- The data of something that has a name. -/
def nameContext (name : Value) : Context :=
  .ofData (.object [("name", name)])

/-- A greeting of somebody, then of nobody, then of somebody else. -/
theorem renderInTurn_showsLatestData_greetings :
    (Settings.renderInTurn {} .unattended
        ([.string "Ann", .null, .bool false].map nameContext ++
          [nameContext (.string "Bob")])
        greeting ()).1.shows =
      ("Hello Bob!", false) := by
  rw [renderInTurn_showsLatestData (by decide) isTextTemplate_greeting
    Dispatcher.unattended_leavesElements _ _ () ()]
  rfl

end DataBinding

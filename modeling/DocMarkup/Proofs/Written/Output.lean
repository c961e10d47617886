import DocMarkup.Proofs.Compiler.Effect
import DocMarkup.Proofs.Written.BlockTree

namespace DocMarkup.CompilerState

/-!
# The output of blocks in the state

What is added to the output of a state, and to the identifiers in it, is put
together from what its parts add. Titles take an identifier that is free, and a
section is left as it was entered, with what was output in it.
-/

/-- Where no paragraph is pending, events are output like any other. -/
theorem replay_eq_withOutput
    {state : CompilerState}
    (settled : state.pendingParagraph = false)
    (events : List Event) :
    state.replay events = state.withOutput { events := events } := by
  rw [replay_of_settled settled]
  simp [withOutput]

/-- Adding a text is adding its event, if it has one. -/
theorem text_eq_replay
    (state : CompilerState)
    (content : String) :
    state.text content = state.replay (textEvents content) := by
  unfold text textEvents
  split <;> rfl

/-- An element that holds character data. -/
theorem leaf_eq_replay
    (state : CompilerState)
    (name content : String) :
    state.leaf name content =
      state.replay (.opening name [] :: (textEvents content ++ [.closing name])) := by
  rw [leaf, text_eq_replay]
  exact (replay_append (state.startElement name) (textEvents content) [.closing name]).symm

/-- Where no paragraph is pending, code is output between its marks. -/
theorem codeBlock_eq_withOutput
    {state : CompilerState}
    (settled : state.pendingParagraph = false)
    (content : String) :
    state.codeBlock content = state.withOutput { events := codeEvents content } := by
  rw [← replay_eq_withOutput settled]
  exact leaf_eq_replay state "programlisting" content

/-- Output that follows other output. -/
theorem withOutput_withOutput
    (state : CompilerState)
    (first second : BlockOutput) :
    (state.withOutput first).withOutput second =
      state.withOutput
        { events := first.events ++ second.events
          identifiers := first.identifiers ++ second.identifiers } := by
  simp [withOutput, Array.append_assoc]

/-- Without output, a state is as it was. -/
theorem withOutput_nothing (state : CompilerState) : state.withOutput {} = state := by
  simp [withOutput]

/-- An identifier for a title is taken from those that are free. -/
theorem elementId_eq
    (state : CompilerState)
    (given : Option String)
    (title : String) :
    state.elementId given title =
      (state.naming.qualified (localId given title),
        state.withOutput { identifiers := [state.naming.qualified (localId given title)] }) := by
  have sameParent : state.idPrefix = state.naming.parent := by
    unfold idPrefix Naming.parent naming
    cases state.sectionIds <;> simp
  simp [elementId, localId, reserveId, Naming.qualified, sameParent, withOutput, naming]

/-- A heading is output with an identifier for its title. -/
theorem beginHeading_text_endHeading
    {state : CompilerState}
    (settled : state.pendingParagraph = false)
    (level : Int)
    (content title : String) :
    ((state.beginHeading (some level) title).text content).endHeading =
      state.withOutput
        { events :=
            .opening "heading"
                [("level", toString level), ("id", state.naming.identifier title)] ::
              (textEvents content ++ [.closing "heading"])
          identifiers := [state.naming.identifier title] } := by
  let identifier := state.naming.identifier title
  let reserved := state.withOutput { identifiers := [identifier] }
  let opening := Event.opening "heading" [("level", toString level), ("id", identifier)]
  have stillSettled : reserved.pendingParagraph = false := settled
  calc
    ((state.beginHeading (some level) title).text content).endHeading =
        ((reserved.replay [opening]).replay (textEvents content)).replay [.closing "heading"] := by
      rw [beginHeading, elementId_eq, text_eq_replay]
      rfl
    _ = reserved.replay ([opening] ++ (textEvents content ++ [.closing "heading"])) := by
      rw [replay_append, replay_append]
    _ = _ := by
      rw [replay_eq_withOutput stillSettled, withOutput_withOutput]
      rfl

/-- Inside a section. -/
def inSection (state : CompilerState) (identifier : String) : CompilerState :=
  { state with
    sectionLevel := state.sectionLevel + 1
    sectionIds := identifier :: state.sectionIds }

/-- The start of a section is output with an identifier for its title. -/
theorem beginSection_text_endSectionTitle
    {state : CompilerState}
    (settled : state.pendingParagraph = false)
    (given : Option String)
    (content title : String) :
    let identifier := state.naming.qualified (localId given title)
    ((state.beginSection given title).text content).endSectionTitle =
      (state.inSection identifier).withOutput
        { events :=
            .opening "section" [("id", identifier)] :: .opening "title" [] ::
              (textEvents content ++ [.closing "title"])
          identifiers := [identifier] } := by
  intro identifier
  let opened := (state.inSection identifier).withOutput { identifiers := [identifier] }
  let front := [Event.opening "section" [("id", identifier)], .opening "title" []]
  have stillSettled : opened.pendingParagraph = false := settled
  calc
    ((state.beginSection given title).text content).endSectionTitle =
        ((opened.replay front).replay (textEvents content)).replay [.closing "title"] := by
      rw [beginSection, elementId_eq, text_eq_replay]
      rfl
    _ = opened.replay (front ++ (textEvents content ++ [.closing "title"])) := by
      rw [replay_append, replay_append]
    _ = _ := by
      rw [replay_eq_withOutput stillSettled, withOutput_withOutput]
      rfl

/-- Enclosed blocks are output inside their element. -/
theorem withOutput_enclosed
    {state : CompilerState}
    (settled : state.pendingParagraph = false)
    (name : String)
    (inside : BlockOutput) :
    ((state.beginNestedBlock name).withOutput inside).endNestedBlock name =
      state.withOutput
        { events := .opening name [] :: (inside.events ++ [.closing name])
          identifiers := inside.identifiers } := by
  have opened : state.beginNestedBlock name =
      { state.withOutput { events := [.opening name []] } with
        blockNesting := state.blockNesting + 1 } := by
    rw [← replay_eq_withOutput settled]
    rfl
  have closed :
      ((state.withOutput { events := [.opening name []] }).withOutput inside).replay
          [.closing name] =
        state.withOutput
          { events := .opening name [] :: (inside.events ++ [.closing name])
            identifiers := inside.identifiers } := by
    rw [withOutput_withOutput]
    have stillSettled :
        (state.withOutput
          { events := [.opening name []] ++ inside.events
            identifiers := [] ++ inside.identifiers }).pendingParagraph = false :=
      settled
    rw [replay_eq_withOutput stillSettled, withOutput_withOutput]
    simp
  rw [opened, ← closed]
  simp [endNestedBlock, withOutput, replay, endElement]

end DocMarkup.CompilerState

import DocMarkup.Proofs.Compiler.Lookup
import DocMarkup.Proofs.Grammar.Parser

namespace DocMarkup

/-!
# Phrases only look names up

No rule of a phrase defines a template. A rule asks what a name stands for, opens scopes
for arguments and closes them again. Each of them therefore comes to the same in other
surroundings in which every name stands for the same.
-/

open Compile

/-- The parser of phrases only looks names up. -/
def Inner.LooksUp (inner : Inner) : Prop :=
  ∀ {here there : Surroundings},
    here.SameNames there →
      ∀ mode depth buffer cursor,
        Compile.LooksUp here there (inner.phraseFrom mode depth buffer cursor)
          (inner.phraseFrom mode depth buffer cursor)

variable {here there : Surroundings} {inner : Inner} {cursor : Cursor}

namespace Compile

/-- The text of an expansion that is no block is a phrase. -/
theorem expansion_looksUp
    (innerLooks : inner.LooksUp)
    (same : here.SameNames there)
    (source : Source) :
    LooksUp here there (inner.expansion source) (inner.expansion source) :=
  (innerLooks same .expansion 0 "" source.cursor).bind fun _ => .pure _

/-- So is what is read one level deeper, and going back restores the templates. -/
theorem expand_looksUp
    (innerLooks : inner.LooksUp)
    (same : here.SameNames there)
    (source : Source)
    (position : Position)
    (what : String) :
    LooksUp here there (expand inner source false position what)
      (expand inner source false position what) := by
  unfold expand
  refine .state fun before found => ?_
  refine (LooksUp.update fun _ _ => rfl).bind fun _ => ?_
  refine LooksUp.bind ((expansion_looksUp innerLooks same source).thenAlways .surface) ?_
  rintro (_ | _)
  · exact .rollbackThen found (.error position _)
  · exact .pure ()

private theorem expandMacro_looksUp
    (innerLooks : inner.LooksUp)
    (same : here.SameNames there)
    (position : Position)
    (name : String) :
    LooksUp here there (expandMacro inner position name) (expandMacro inner position name) := by
  unfold expandMacro
  refine .state fun before _ => ?_
  have sameMacros : (before.amid there).macros = before.macros := rfl
  rw [sameMacros]
  cases before.macros.find? name with
  | none => exact .update (.text _)
  | some body =>
      refine (LooksUp.mayExpand position _).bind ?_
      rintro (_ | _)
      · exact .pure ()
      · exact expand_looksUp innerLooks same _ position _

private theorem captureArgument_looksUp
    (innerLooks : inner.LooksUp)
    (same : here.SameNames there)
    (source : Source) :
    LooksUp here there (captureArgument inner source) (captureArgument inner source) := by
  unfold captureArgument
  refine .state fun before found => ?_
  refine (LooksUp.update fun _ _ => rfl).bind fun _ => ?_
  refine (expansion_looksUp innerLooks same source).bind ?_
  rintro (_ | _)
  · exact (LooksUp.rollback found).bind fun _ => .pure none
  · refine .state fun after _ => ?_
    exact (LooksUp.update fun _ _ => rfl).bind fun _ => .pure _

private theorem bindArguments_looksUp
    (innerLooks : inner.LooksUp)
    (same : here.SameNames there)
    (position : Position)
    (template : Template)
    (index : Nat)
    (bindings : NameTable Template)
    (arguments : List (String × String)) :
    LooksUp here there (bindArguments inner position template index bindings arguments)
      (bindArguments inner position template index bindings arguments) := by
  induction arguments generalizing index bindings with
  | nil => exact .pure _
  | cons argument rest inductionHypothesis =>
      unfold bindArguments
      refine (captureArgument_looksUp innerLooks same _).bind ?_
      rintro (_ | events)
      · exact (LooksUp.update (.error _ _)).bind fun _ => .pure none
      · exact inductionHypothesis (index + 1) _

private theorem expandBody_looksUp
    (innerLooks : inner.LooksUp)
    (same : here.SameNames there)
    (position : Position)
    (template : Template)
    (bindings : NameTable Template) :
    LooksUp here there (expandBody inner position template false bindings)
      (expandBody inner position template false bindings) := by
  unfold expandBody
  rw [Bool.and_false]
  exact .inScope (expand_looksUp innerLooks (same.pushScope bindings) _ position _)

private theorem invokeTemplate_looksUp
    (innerLooks : inner.LooksUp)
    (same : here.SameNames there)
    (position : Position)
    (template : Template)
    (arguments : String) :
    LooksUp here there (invokeTemplate inner position template arguments)
      (invokeTemplate inner position template arguments) := by
  unfold invokeTemplate
  split
  · exact .update (.replay _)
  · split
    · exact .update (.error _ _)
    · refine (LooksUp.mayExpand position _).bind ?_
      rintro (_ | _)
      · exact .pure ()
      · refine (bindArguments_looksUp innerLooks same position template 1 {} _).bind ?_
        rintro (_ | bindings)
        · exact .pure ()
        · exact expandBody_looksUp innerLooks same position template bindings

end Compile

namespace Phrase

theorem nested_looksUp (innerLooks : inner.LooksUp) (same : here.SameNames there) :
    LooksUp here there (nested inner cursor) (nested inner cursor) := by
  unfold nested
  refine .isKnownUnclosed cursor ?_
  rintro (_ | _)
  · refine (LooksUp.enterPhrase cursor).bind ?_
    rintro (_ | _)
    · simp only [Bool.false_eq_true, ↓reduceIte]
      split
      · exact .pure _
      · exact (LooksUp.rememberUnclosed cursor).bind fun _ => .pure none
    · refine LooksUp.bind ((innerLooks same .bracketed 0 "" cursor).thenAlways .leavePhrase) ?_
      rintro ⟨_ | _, next⟩
      · exact (LooksUp.rememberUnclosed cursor).bind fun _ => .pure none
      · exact .pure (some next)
  · exact .pure none

private theorem bracketed_looksUp
    (innerLooks : inner.LooksUp)
    (same : here.SameNames there)
    (name : String)
    (attributes : List Attribute) :
    LooksUp here there (bracketed inner name attributes cursor)
      (bracketed inner name attributes cursor) := by
  unfold bracketed
  refine (LooksUp.update (.startElement name attributes)).bind fun _ => ?_
  refine (nested_looksUp innerLooks same).bind ?_
  rintro (_ | next)
  · exact .pure none
  · exact (LooksUp.update (.endElement name)).bind fun _ => .pure _

private theorem linked_looksUp
    (innerLooks : inner.LooksUp)
    (same : here.SameNames there)
    (name key target : String) :
    LooksUp here there (linked inner name key target cursor)
      (linked inner name key target cursor) := by
  unfold linked
  simp only
  split
  · refine (LooksUp.update ?_).bind fun _ => .pure _
    exact ((CompilerState.IgnoresSurroundings.startElement _ _).comp (.text _)).comp (.endElement _)
  · exact bracketed_looksUp innerLooks same name _

/-- Rules that apply only behind a front go on behind it. -/
private theorem styled_looksUp (innerLooks : inner.LooksUp) (same : here.SameNames there) :
    LooksUp here there (styled inner cursor) (styled inner cursor) := by
  unfold styled
  split
  · exact bracketed_looksUp innerLooks same _ []
  · exact .pure none

private theorem url_looksUp (innerLooks : inner.LooksUp) (same : here.SameNames there) :
    LooksUp here there (url inner cursor) (url inner cursor) := by
  unfold url
  split
  · exact linked_looksUp innerLooks same _ _ _
  · exact .pure none

private theorem link_looksUp (innerLooks : inner.LooksUp) (same : here.SameNames there) :
    LooksUp here there (link inner cursor) (link inner cursor) := by
  unfold link
  split
  · exact linked_looksUp innerLooks same _ _ _
  · exact .pure none

private theorem footnote_looksUp (innerLooks : inner.LooksUp) (same : here.SameNames there) :
    LooksUp here there (footnote inner cursor) (footnote inner cursor) := by
  unfold footnote
  split
  · exact bracketed_looksUp innerLooks same _ []
  · exact .pure none

/-- What is written without looking inside does not depend on any name. -/
private theorem anchor_looksUp : LooksUp here there (anchor cursor) (anchor cursor) := by
  unfold anchor
  split
  · exact (LooksUp.update (.element _ _)).bind fun _ => .pure _
  · exact .pure none

private theorem image_looksUp : LooksUp here there (image cursor) (image cursor) := by
  unfold image
  split
  · exact (LooksUp.update fun _ _ => rfl).bind fun _ => .pure _
  · exact .pure none

private theorem lineBreak_looksUp : LooksUp here there (lineBreak cursor) (lineBreak cursor) := by
  unfold lineBreak
  split
  · exact (LooksUp.update (.element _ _)).bind fun _ => .pure _
  · exact .pure none

private theorem inlineCode_looksUp :
    LooksUp here there (inlineCode cursor) (inlineCode cursor) := by
  unfold inlineCode
  split
  · exact (LooksUp.update (.inlineCode _)).bind fun _ => .pure _
  · exact .pure none

private theorem rawEscape_looksUp : LooksUp here there (rawEscape cursor) (rawEscape cursor) := by
  unfold rawEscape
  split
  · exact (LooksUp.update (.raw _ _)).bind fun _ => .pure _
  · exact .pure none

private theorem conditional_looksUp (innerLooks : inner.LooksUp) (same : here.SameNames there) :
    LooksUp here there (conditional inner cursor) (conditional inner cursor) := by
  unfold conditional
  split
  next => exact .pure none
  next name afterName _ =>
    refine .state fun before _ => ?_
    show LooksUp here there _ (if before.macros.contains name then _ else _)
    split
    · refine (nested_looksUp innerLooks same).bind ?_
      rintro (_ | next)
      · exact .pure none
      · exact .pure _
    · exact .pure _

/-- A call comes to the same, as its name stands for the same. -/
private theorem templateCall_looksUp (innerLooks : inner.LooksUp) (same : here.SameNames there) :
    LooksUp here there (templateCall inner cursor) (templateCall inner cursor) := by
  unfold templateCall
  split
  next => exact .pure none
  next name afterName _ =>
    split
    next => exact .pure none
    next arguments next _ =>
      refine .state fun before found => ?_
      have sameName : there.templates.find? name = before.templates.find? name :=
        (same name).trans (congrArg (fun around => around.templates.find? name) found.symm)
      simp only [CompilerState.amid, sameName]
      cases before.templates.find? name with
      | none =>
          refine LooksUp.bind (.update ?_) fun _ => .pure _
          exact CompilerState.IgnoresSurroundings.comp (fun _ _ => rfl) (.text _)
      | some template =>
          exact (invokeTemplate_looksUp innerLooks same _ template arguments).bind
            fun _ => .pure _

/-- None of what a bracket may start defines a template. -/
private theorem elements_lookUp (innerLooks : inner.LooksUp) (same : here.SameNames there) :
    List.Forall₂ (fun rule reflected => LooksUp here there (rule cursor) (reflected cursor))
      (elements inner) (elements inner) :=
  .cons (.pure _) <|
    .cons (styled_looksUp innerLooks same) <|
    .cons (url_looksUp innerLooks same) <|
    .cons (link_looksUp innerLooks same) <|
    .cons anchor_looksUp <|
    .cons image_looksUp <|
    .cons (footnote_looksUp innerLooks same) <|
    .cons lineBreak_looksUp <|
    .cons (conditional_looksUp innerLooks same) <|
    .cons (templateCall_looksUp innerLooks same) .nil

/-- Nor does what a quote may start. -/
private theorem quotations_lookUp :
    List.Forall₂ (fun rule reflected => LooksUp here there (rule cursor) (reflected cursor))
      quotations quotations :=
  .cons inlineCode_looksUp (.cons rawEscape_looksUp .nil)

private theorem flush_looksUp (buffer : String) :
    LooksUp here there (flush buffer) (flush buffer) :=
  .update (.text buffer)

private theorem name_looksUp
    (innerLooks : inner.LooksUp)
    (same : here.SameNames there)
    (mode : PhraseMode)
    (depth : Nat)
    (buffer word : String)
    (next : Cursor) :
    LooksUp here there (name inner mode depth buffer cursor word next)
      (name inner mode depth buffer cursor word next) := by
  unfold name
  refine .state fun before _ => ?_
  show LooksUp here there _ (if before.macros.contains word && startsWord cursor then _ else _)
  split
  · refine (flush_looksUp buffer).bind fun _ => ?_
    refine (expandMacro_looksUp innerLooks same cursor.position word).bind fun _ => ?_
    exact innerLooks same mode depth "" next
  · exact innerLooks same mode depth _ next

/-- Whether a line goes on a phrase depends on what names stand for, and on nothing else. -/
private theorem lineContinues_eq
    (same : here.SameNames there)
    (mode : PhraseMode)
    (line : List Char) :
    lineContinues there.templates mode line = lineContinues here.templates mode line := by
  have sameNames : there.templates.find? = here.templates.find? := funext same
  unfold lineContinues startsBlock
  rw [sameNames]

private theorem stopsAtLineFeed_looksUp (same : here.SameNames there) (mode : PhraseMode) :
    LooksUp here there (stopsAtLineFeed mode cursor) (stopsAtLineFeed mode cursor) := by
  unfold stopsAtLineFeed
  split
  · refine .state fun before found => ?_
    rw [CompilerState.amid, lineContinues_eq same, ← found]
    exact .pure _
  · exact .pure false

private theorem plain_looksUp
    (innerLooks : inner.LooksUp)
    (same : here.SameNames there)
    (mode : PhraseMode)
    (depth : Nat)
    (buffer : String)
    (first : Char) :
    LooksUp here there (plain inner mode depth buffer cursor first)
      (plain inner mode depth buffer cursor first) := by
  unfold plain
  split
  · exact innerLooks same mode depth _ _
  · exact innerLooks same mode depth _ _

/-- One step of a phrase only looks names up. -/
theorem step_looksUp
    (innerLooks : inner.LooksUp)
    (same : here.SameNames there)
    (mode : PhraseMode)
    (depth : Nat)
    (buffer : String) :
    LooksUp here there (step inner mode depth buffer cursor)
      (step inner mode depth buffer cursor) := by
  have rest := innerLooks same
  unfold step
  split
  next => exact (flush_looksUp buffer).bind fun _ => .pure _
  next first _ _ =>
    split
    · split
      · exact (flush_looksUp buffer).bind fun _ => .pure _
      · exact rest mode _ _ _
    split
    · refine (stopsAtLineFeed_looksUp same mode).bind ?_
      rintro (_ | _)
      · exact rest mode depth _ _
      · exact (flush_looksUp buffer).bind fun _ => .pure _
    split
    · refine (flush_looksUp buffer).bind fun _ => ?_
      refine (LooksUp.firstOf (elements_lookUp innerLooks same)).bind ?_
      rintro (_ | next)
      · exact rest mode _ _ _
      · exact rest mode depth "" next
    split
    · exact rest mode depth _ _
    split
    · refine (flush_looksUp buffer).bind fun _ => ?_
      refine (LooksUp.firstOf quotations_lookUp).bind ?_
      rintro (_ | next)
      · exact rest mode depth _ _
      · exact rest mode depth "" next
    split
    · exact name_looksUp innerLooks same mode depth buffer _ _
    · exact plain_looksUp innerLooks same mode depth buffer first

end Phrase

/-- Phrases only look names up, with any number of steps. -/
theorem Inner.within_looksUp (environment : Environment) (steps : Nat) :
    (Inner.within environment steps).LooksUp := by
  induction steps with
  | zero =>
      intro here there _ _ _ _ _
      exact LooksUp.throw
  | succ steps inductionHypothesis =>
      intro here there same mode depth buffer cursor
      rw [Inner.within_succ]
      exact Phrase.step_looksUp inductionHypothesis same mode depth buffer

end DocMarkup

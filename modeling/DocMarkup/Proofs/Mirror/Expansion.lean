import DocMarkup.Grammar.Expansion
import DocMarkup.Proofs.Compiler.Mirror

namespace DocMarkup

/-!
# Expansions in a frame

The body of a macro or of a template is read as a source of its own, and so is an
argument. Its name tells what is expanded. The output of an argument is taken out again
by counting, and the count is relative to what was there before.
-/

/-- The names of the sources that macros, arguments and templates are expanded from. -/
inductive IsExpansionName : String → Prop where
  | ofMacro (file name : String) : IsExpansionName (file ++ " (macro " ++ name ++ ")")
  | ofArgument (file : String) (index : Nat) (name : String) :
      IsExpansionName (file ++ " (argument " ++ toString index ++ " of " ++ name ++ ")")
  | ofTemplate (file name : String) : IsExpansionName (file ++ " (template " ++ name ++ ")")

/-- Such a name ends with a bracket. -/
theorem IsExpansionName.last_eq {name : String} (isExpansion : IsExpansionName name) :
    name.toList.getLast? = some ')' := by
  cases isExpansion <;> exact (String.toList_append ▸ List.getLast?_concat)

/--
A setting knows what is expanded and, with a source, the titles in it, which are read
as sources of their own.
-/
structure Setting.IsClosed (setting : Setting) : Prop where
  expansion :
    ∀ {name}, IsExpansionName name → ∀ text, setting.known { text := text, name := name }
  title :
    ∀ source offset title,
      setting.known source →
        offset ≤ source.text.length →
          title.toList <+: source.text.toList.drop offset →
            (∀ first ∈ title.toList.head?, first ≠ '\n' ∧ ¬ Text.isHorizontal first) →
              setting.known
                { text := Text.trimmed title
                  name := (source.position offset).file
                  origin := some (source.position offset) }

open Compile

/-- The parsers of what is inside constructs come to the same in a frame. -/
structure Inner.Mirrors
    (setting : Setting)
    (stack : List Path)
    (inner reflection : Inner) :
    Prop where
  phraseFrom :
    ∀ {cursor : Cursor} (mode depth buffer),
      cursor.IsIn setting.known →
        Compile.Mirrors setting stack (inner.phraseFrom mode depth buffer cursor)
          (reflection.phraseFrom mode depth buffer cursor)
          fun result => cursor.Leads result.2
  blocks :
    ∀ {cursor : Cursor} (nested),
      cursor.IsIn setting.known →
        Compile.Mirrors setting stack (inner.blocks nested cursor)
          (reflection.blocks nested cursor)
          cursor.Leads
  items :
    ∀ {cursor : Cursor} (lists),
      cursor.IsIn setting.known →
        Compile.Mirrors setting stack (inner.items lists cursor) (reflection.items lists cursor)
          cursor.Leads
  includeFile :
    ∀ {position : Position} (name id),
      position.IsIn setting.known →
        Compile.Mirrors setting stack (inner.includeFile position name id)
          (reflection.includeFile position name id)
          fun _ => True

namespace Compile

variable {setting : Setting} {stack : List Path} {inner reflection : Inner}

/-- The text of an expansion is read alike. -/
theorem expansion_mirrors
    (mirror : inner.Mirrors setting stack reflection)
    {source : Source}
    (isKnown : setting.known source)
    (block : Bool) :
    Mirrors setting stack (inner.expansion source block) (reflection.expansion source block)
      fun _ => True := by
  unfold Inner.expansion
  cases block with
  | true =>
      exact (mirror.blocks false (.start isKnown)).bind fun _ _ => .pure trivial
  | false =>
      exact (mirror.phraseFrom .expansion 0 "" (.start isKnown)).bind fun _ _ => .pure trivial

/-- An expansion that fails is taken back and reported where it was called. -/
private theorem expand_mirrors
    (mirror : inner.Mirrors setting stack reflection)
    {source : Source}
    (isKnown : setting.known source)
    (block : Bool)
    {position : Position}
    (isIn : position.IsIn setting.known)
    (what : String) :
    Mirrors setting stack (expand inner source block position what)
      (expand reflection source block position what)
      fun _ => True := by
  unfold expand
  refine .state fun before _ => ?_
  refine .updateThen (fun _ => rfl) (fun _ reported => reported) ?_
  refine Mirrors.bind
    ((expansion_mirrors mirror isKnown block).thenAlways (fun _ => rfl)
      fun _ reported => reported) ?_
  rintro (_ | _) -
  · simp only [Bool.false_eq_true, ↓reduceIte]
    refine .update (by simp) (fun _ reported => ?_) trivial
    exact (reported.rollback _).reportError _ isIn (ne_undefinedMessage (by simp))
  · exact .pure trivial

/-- A macro is expanded alike. -/
theorem expandMacro_mirrors
    (closed : setting.IsClosed)
    (mirror : inner.Mirrors setting stack reflection)
    {position : Position}
    (isIn : position.IsIn setting.known)
    (name : String) :
    Mirrors setting stack (expandMacro inner position name) (expandMacro reflection position name)
      fun _ => True := by
  unfold expandMacro
  refine .state fun before _ => ?_
  simp only [CompilerState.macros_behind]
  cases before.macros.find? name with
  | none =>
    exact .update (by simp) (by simp) trivial
  | some body =>
    refine (Mirrors.mayExpand isIn _ fun _ => trivial).bind ?_
    rintro (_ | _) -
    · exact .pure trivial
    · exact expand_mirrors mirror (closed.expansion (.ofMacro ..) body) false isIn _

/-- The output of an argument is the same, whatever was written before it. -/
private theorem captureArgument_mirrors
    (mirror : inner.Mirrors setting stack reflection)
    {source : Source}
    (isKnown : setting.known source) :
    Mirrors setting stack (captureArgument inner source) (captureArgument reflection source)
      fun _ => True := by
  unfold captureArgument
  refine .state fun before _ => ?_
  refine .updateThen (fun _ => rfl) (fun _ reported => reported) ?_
  refine (expansion_mirrors mirror isKnown false).bind ?_
  rintro (_ | _) -
  · exact .rollback before (.pure trivial)
  · simp only [↓reduceIte]
    refine .state fun after _ => ?_
    rw [CompilerState.drop_events_behind]
    refine .updateThen (fun state => ?_) (fun _ reported => reported) (.pure trivial)
    simp only [CompilerState.shrink_events_behind]
    rfl

/-- Arguments are bound alike. -/
private theorem bindArguments_mirrors
    (closed : setting.IsClosed)
    (mirror : inner.Mirrors setting stack reflection)
    {position : Position}
    (isIn : position.IsIn setting.known)
    (template : Template)
    (index : Nat)
    (bindings : NameTable Template)
    (arguments : List (String × String)) :
    Mirrors setting stack (bindArguments inner position template index bindings arguments)
      (bindArguments reflection position template index bindings arguments)
      fun _ => True := by
  induction arguments generalizing index bindings with
  | nil =>
      exact .pure trivial
  | cons argument rest inductionHypothesis =>
      unfold bindArguments
      refine (captureArgument_mirrors mirror (closed.expansion (.ofArgument ..) _)).bind ?_
      rintro (_ | events) -
      · refine .updateThen (by simp) (fun _ reported => ?_) (.pure trivial)
        exact reported.reportError _ isIn (ne_undefinedMessage (by simp))
      · exact inductionHypothesis (index + 1) _

/-- The body of a template is read alike in a scope of its own. -/
private theorem expandBody_mirrors
    (closed : setting.IsClosed)
    (mirror : inner.Mirrors setting stack reflection)
    {position : Position}
    (isIn : position.IsIn setting.known)
    (template : Template)
    (blockContext : Bool)
    (bindings : NameTable Template) :
    Mirrors setting stack (expandBody inner position template blockContext bindings)
      (expandBody reflection position template blockContext bindings)
      fun _ => True := by
  unfold expandBody
  refine .updateThen (fun _ => rfl) (fun _ reported => reported) ?_
  exact (expand_mirrors mirror (closed.expansion (.ofTemplate ..) _) _ isIn _).thenAlways (fun _ => rfl)
    fun _ reported => reported

/-- A template is called alike. -/
theorem invokeTemplate_mirrors
    (closed : setting.IsClosed)
    (mirror : inner.Mirrors setting stack reflection)
    {position : Position}
    (isIn : position.IsIn setting.known)
    (template : Template)
    (arguments : String)
    (blockContext : Bool) :
    Mirrors setting stack (invokeTemplate inner position template arguments blockContext)
      (invokeTemplate reflection position template arguments blockContext)
      fun _ => True := by
  unfold invokeTemplate
  split
  · exact .update (by simp) (by simp) trivial
  · split
    · refine .update (by simp) (fun _ reported => ?_) trivial
      exact reported.reportError _ isIn (ne_undefinedMessage (by simp))
    · refine (Mirrors.mayExpand isIn _ fun _ => trivial).bind ?_
      rintro (_ | _) -
      · exact .pure trivial
      · simp only [↓reduceIte]
        refine (bindArguments_mirrors closed mirror isIn template 1 {} _).bind ?_
        rintro (_ | bindings) -
        · exact .pure trivial
        · exact expandBody_mirrors closed mirror isIn template blockContext bindings

/-- A call of something that is not defined keeps its text, and is reported where it stands. -/
theorem keepUndefined_mirrors
    {cursor : Cursor}
    (isIn : cursor.IsIn setting.known)
    {name : String}
    (stands : '[' :: name.toList <+: cursor.rest)
    (rawText : String) :
    Mirrors setting stack (keepUndefined cursor.position name rawText)
      (keepUndefined cursor.position name rawText)
      fun _ => True := by
  unfold keepUndefined
  refine .update (by simp) (fun _ reported => ?_) trivial
  rw [CompilerState.reported_text]
  exact reported.undefinedName isIn stands

end Compile

end DocMarkup

import DocMarkup.Proofs.Compilation.Start
import DocMarkup.Proofs.Compiler.IdContext
import DocMarkup.Proofs.Grammar.Supervision

namespace DocMarkup

open CompilerState Compile

/-!
# Identifiers of sections nest

Parsers may be given the context that they are called in: the identifier that the
document or the innermost inclusion with an identifier has set, and the sections that
were open at that point. They look at every section right after it was opened, and
raise the alarm if its identifier is not one that the context asks for. Apart from
that they do what parsers do, and they never raise it.
-/

/-- What is known of the state in a context: all is in order, and identifiers follow the context. -/
def IdContext.order (context : IdContext) : Order where
  holds state := state.IsConsistent ∧ context.Holds state
  isConsistent known := known.1
  blockEffect effect known := ⟨known.1.blockEffect effect, known.2.blockEffect effect⟩
  beginNestedBlock isNested known :=
    ⟨Order.consistent.beginNestedBlock isNested known.1,
      { known.2 with since := { known.2.since with } }⟩
  beginExpansion bindingsKnown known :=
    ⟨Order.consistent.beginExpansion bindingsKnown known.1,
      { known.2 with since := { known.2.since with } }⟩

/-- Where a document begins, its identifier is followed, and no section is open. -/
theorem Compile.Begins.holds
    {docId : Option String}
    {state : CompilerState}
    (begins : Begins docId 0 state) :
    IdContext.Holds { id := docId.getD "", outer := [] } state where
  since :=
    { split := ⟨[], [], begins.sectionIds, List.suffix_refl _, by simp⟩
      taken := by simp [begins.sectionIds]
      named := by simp [begins.sectionIds] }
  docId := begins.docId.trans (eq_some_of_isGiven begins.given)
  idScope := begins.idScope
  named := getD_ne_empty_of_isGiven begins.given

/-- Open a section, and look at the identifier that it was given in a context. -/
def IdContext.openSection
    (context : IdContext)
    (given : Option String)
    (title : String) :
    Compile Unit :=
  (Block.openSection given title).compared (context.Opens (localId given title))

/-- In a context that holds, looking at the identifiers of sections changes nothing. -/
theorem IdContext.opens_openSection
    {context : IdContext}
    {files : FileTree}
    {affordable calm : Prop}
    {before : CompilerState}
    (isCalm : calm → context.order.holds before) :
    Block.Opens files affordable calm before context.openSection := by
  intro given title
  have opening : Block.Opens files affordable calm before Block.openSection :=
    Block.opens_openSection
  refine (opening given title).compared ?_
  rintro _ after rfl refused calmBefore
  exact refused ((isCalm calmBefore).2.opens given title)

namespace Inner

/-- The parsers in a context that take one step more, with those for every context further on. -/
def inContext
    (environment : Environment)
    (inner : IdContext → Inner)
    (context : IdContext) :
    Inner :=
  { (inner context).extend environment with
    blocks := Block.stepWith context.openSection (inner context)
    includeFile := fun position name id => do
      let around ← state
      Compile.includeFile environment (inner (context.entering id around)) position name id }

/-- The parsers with a number of steps that are given the context that they are called in. -/
def contextual (environment : Environment) : Nat → IdContext → Inner
  | 0, _ => within environment 0
  | steps + 1, context => inContext environment (contextual environment steps) context

variable {environment : Environment} {longest steps : Nat} {affordable : Prop}

/-- Parsers in a context that take one step more may be relied on where the context holds. -/
theorem Sound.inContext
    {inner : IdContext → Inner}
    {reference : Inner}
    (sound :
      ∀ context,
        (inner context).Sound environment.files longest steps affordable reference context.order)
    (filesBounded : environment.files.Bounded longest)
    (context : IdContext) :
    (Inner.inContext environment inner context).Sound environment.files longest (steps + 1)
      affordable (reference.extend environment) context.order where
  phraseFrom mode depth buffer ready := Phrase.step_ends (sound context) ready mode depth buffer
  blocks nested ready isCalm :=
    Block.stepWith_ends (sound context) (context.opens_openSection isCalm) nested ready isCalm
  items _ ready areLists := Listing.step_ends (sound context) ready areLists
  includeFile := by
    intro before calm position name id ready isCalm
    have soundInside := sound (context.entering id before)
    refine .look (includeFile_ends soundInside filesBounded position name id ready ?_)
    intro calmBefore file
    obtain ⟨isConsistent, holds⟩ := isCalm calmBefore
    exact ⟨isConsistent.beginInclusion file _ _, holds.beginInclusion file id⟩

/-- Where their context holds, the parsers may be relied on to do the same as those without one. -/
theorem contextual_sound
    (filesBounded : environment.files.Bounded longest)
    (steps : Nat)
    (context : IdContext) :
    (contextual environment steps context).Sound environment.files longest steps affordable
      (within environment steps) context.order := by
  induction steps generalizing context with
  | zero =>
      exact .zero
  | succ steps inductionHypothesis =>
      exact .inContext inductionHypothesis filesBounded context

end Inner

/--
The identifiers of sections nest. In every compilation and in all that it includes,
a section gets the identifier of the innermost open section, a dot and its local
identifier, and perhaps a number, if that section was opened since the innermost
inclusion with an identifier began, or the document, and more sections are open than
then; the latter is so unless sections were closed that were open then. If no section
is open that was opened since, it gets the identifier of the inclusion or of the
document, a dot and its local identifier, and perhaps a number.
-/
theorem section_ids_nest
    (options : Options)
    (files : FileTree)
    (document : Document)
    (steps : Nat) :
    (∀ (context : IdContext) (state : CompilerState),
      context.outer <:+ state.sectionIds →
        ∀ innermost ∈ state.sectionIds.head?,
          innermost ∉ context.outer → context.outer.length < state.sectionIds.length) ∧
    let environment := options.environment files
    let context : IdContext := { id := (document.id? environment).getD "", outer := [] }
    let run := document.parse environment (Inner.within environment steps)
    let watched := document.parse environment (Inner.contextual environment steps context)
    let start : Workspace := { state := options.initialState }
    watched start = run start ∧
      ∀ fault after, watched start = .error fault after → fault ≠ Compile.alarm := by
  refine ⟨fun context state noneClosed _ => context.length_outer_lt noneClosed, ?_⟩
  intro environment context run watched start
  have ends :=
    options.parse_ends_in_order files document False.elim
      (Inner.contextual_sound (options.files_bounded files document) steps context)
      fun _ begins => ⟨begins.isConsistent, begins.holds⟩
  have noAlarm : ¬ Compile.Expected files False True Compile.alarm := fun raised => raised trivial
  refine ⟨ends.eq_reference noAlarm rfl, ?_⟩
  rintro fault after outcome rfl
  exact noAlarm (ends.of_error rfl outcome)

/--
The included file closes the section around its inclusion, so that no more sections
are open inside C than were before. The section D has the identifier of the inclusion
in front of its own, although the section C is open, which was opened inside it.
-/
theorem new_section_is_not_followed :
    let given := "[article T\n[id t]\n]\n[section A]\n[include:x f.qbk]\n"
    let included := "[endsect]\n[section C]\n[section D]\n[endsect]\n[endsect]\n"
    let files : FileTree :=
      { entries := [(["doc", "f.qbk"], .file (Text.encodeUtf8 included.toList))]
        workingDirectory := ["doc"]
        homeDirectory := [] }
    let compiled := compileSource { prettyPrint := false } files given "doc.qbk"
    let events := compiled.toOption.toList.flatMap CompilationResult.events
    let before := events.takeWhile fun event => event.reservedId? ≠ some "x.d"
    reservedIds events = ["t.a", "x.c", "x.d"] ∧
      (openElementsAfter? [] before).bind List.head? = some (sectionElement "x.c") ∧
        ∀ number, numberedId ("x.c" ++ "." ++ "d") number ≠ "x.d" := by
  refine ⟨by decide +kernel, by decide +kernel, ?_⟩
  intro number same
  have sameFront := congrArg (fun identifier => identifier.toList.take 3) same
  unfold numberedId at sameFront
  split at sameFront
  · revert sameFront
    decide
  · simp at sameFront

end DocMarkup

import DocMarkup.Proofs.Compiler.Entries

namespace DocMarkup

/-!
# Journals in place of snapshots

Macros and templates are taken back to a checkpoint by undoing what their journals hold
since then. A checkpoint is no more than the lengths of the journals, and the journal of
the templates names scopes by a depth at which scopes come and go. While scopes and
checkpoints are nested like brackets, what comes back is exactly what was there when the
checkpoint was taken, and no name has to be taken out that is not there.
-/

/-! ## Undoing without missing names -/

namespace NameTable

variable {α : Type}

/-- Put back what was under a name, unless the name has to be taken out and is not there. -/
def restore? (table : NameTable α) (name : String) (previous : Option α) : Option (NameTable α) :=
  match previous with
  | none => if table.contains name then some (table.erase name) else none
  | some value => some (table.insert name value)

theorem restore_of_restore?
    {table restored : NameTable α}
    {name : String}
    {previous : Option α}
    (isRestored : table.restore? name previous = some restored) :
    table.restore name previous = restored := by
  unfold restore? at isRestored
  unfold restore
  cases previous with
  | none =>
      simp only at isRestored ⊢
      split at isRestored
      · exact Option.some.inj isRestored
      · simp at isRestored
  | some value =>
      exact Option.some.inj isRestored

/-- What was entered last is there, so that it can be taken out. -/
theorem restore?_insert (table : NameTable α) (name : String) (value : α) :
    (table.insert name value).restore? name (table.find? name) = some table := by
  have restored := restore_insert table name value
  have isThere : (table.insert name value).contains name = true := by
    simp [contains, find?_insert]
  unfold restore at restored
  unfold restore?
  split <;> simp_all

end NameTable

namespace MacroTable

/-- Undo the given number of definitions, newest first, unless a missing name is to be taken out. -/
def undo? : Nat → MacroTable → Option MacroTable
  | 0, table => some table
  | count + 1, table =>
      match table.journal with
      | [] => some table
      | (name, previous) :: older =>
          (table.bodies.restore? name previous).bind fun bodies =>
            undo? count { bodies := bodies, journal := older }

/-- Undo the definitions made since a checkpoint, unless a missing name is to be taken out. -/
def rollback? (table : MacroTable) (checkpoint : Nat) : Option MacroTable :=
  undo? (table.journal.length - checkpoint) table

/-- Definitions of which none is missing are undone as they are without asking. -/
theorem undo_of_undo?
    {count : Nat}
    {table earlier : MacroTable}
    (undone : undo? count table = some earlier) :
    undo count table = earlier := by
  induction count generalizing table with
  | zero =>
      exact Option.some.inj undone
  | succ count inductionHypothesis =>
      unfold undo? at undone
      split at undone
      next journal =>
        simp only [undo, journal]
        exact Option.some.inj undone
      next name previous older journal =>
        obtain ⟨bodies, restored, undoneRest⟩ := Option.bind_eq_some_iff.mp undone
        simp only [undo, journal, NameTable.restore_of_restore? restored]
        exact inductionHypothesis undoneRest

/-- Undoing some definitions and then some more is undoing them all together. -/
theorem undo?_add
    {first second : Nat}
    {table between : MacroTable}
    (undone : undo? first table = some between) :
    undo? (first + second) table = undo? second between := by
  induction first generalizing table with
  | zero =>
      obtain rfl := Option.some.inj undone
      rw [Nat.zero_add]
  | succ count inductionHypothesis =>
      rw [Nat.succ_add]
      unfold undo? at undone
      split at undone
      next journal =>
        -- With nothing left in the journal, however many are undone makes no difference.
        have stuck : ∀ number, undo? number table = some table := by
          intro number
          cases number <;> simp [undo?, journal]
        obtain rfl := Option.some.inj undone
        rw [stuck, stuck]
      next name previous older journal =>
        obtain ⟨bodies, restored, undoneRest⟩ := Option.bind_eq_some_iff.mp undone
        rw [undo?, journal]
        simp only [restored, Option.bind_some]
        exact inductionHypothesis undoneRest

/-- A later table gives an earlier one when its newest definitions are undone, none missing. -/
def PrecedesWhole (earlier later : MacroTable) : Prop :=
  ∃ count,
    later.journal.length = earlier.journal.length + count ∧
      undo? count later = some earlier

namespace PrecedesWhole

theorem refl (table : MacroTable) : table.PrecedesWhole table :=
  ⟨0, rfl, rfl⟩

theorem trans
    {first second third : MacroTable}
    (firstSecond : first.PrecedesWhole second)
    (secondThird : second.PrecedesWhole third) :
    first.PrecedesWhole third := by
  obtain ⟨early, earlyLength, earlyUndone⟩ := firstSecond
  obtain ⟨late, lateLength, lateUndone⟩ := secondThird
  exact ⟨late + early, by omega, by rw [undo?_add lateUndone, earlyUndone]⟩

theorem define (table : MacroTable) (name body : String) :
    table.PrecedesWhole (table.define name body) := by
  refine ⟨1, rfl, ?_⟩
  simp [undo?, MacroTable.define, NameTable.restore?_insert]

/-- A rollback restores the earlier table and misses nothing. -/
theorem rollback?
    {earlier later : MacroTable}
    (precedes : earlier.PrecedesWhole later) :
    later.rollback? earlier.checkpoint = some earlier := by
  obtain ⟨count, lengths, undone⟩ := precedes
  rw [MacroTable.rollback?, checkpoint, lengths, Nat.add_sub_cancel_left, undone]

end PrecedesWhole

end MacroTable

/-- A table with an inner scope can close it. -/
theorem TemplateTable.popScope?_eq {table : TemplateTable} (opened : table.inner ≠ []) :
    table.popScope? = some table.dropScope := by
  obtain ⟨document, inner, journal⟩ := table
  cases inner with
  | nil => exact (opened rfl).elim
  | cons innermost outer => rfl

/-! ## Sequences of operations -/

/-- The macros and the templates. -/
structure SymbolTables where
  macros : MacroTable := {}
  templates : TemplateTable := {}
deriving DecidableEq

namespace SymbolTables

/-- The lengths of both journals. -/
def checkpoint (tables : SymbolTables) : Nat × Nat :=
  (tables.macros.checkpoint, tables.templates.checkpoint)

/-- Undo the definitions made since a checkpoint. -/
def rollback (tables : SymbolTables) (checkpoint : Nat × Nat) : SymbolTables :=
  { macros := tables.macros.rollback checkpoint.1
    templates := tables.templates.rollback checkpoint.2 }

/-- Undo the definitions made since a checkpoint, unless a missing macro is to be taken out. -/
def rollback? (tables : SymbolTables) (checkpoint : Nat × Nat) : Option SymbolTables :=
  (tables.macros.rollback? checkpoint.1).map fun macros =>
    { macros := macros
      templates := tables.templates.rollback checkpoint.2 }

/--
What can be done with the tables. A checkpoint is told by the number of those that were
taken after it in its scope and can still be gone back to.
-/
inductive Operation where
  | defineMacro (name body : String)
  | defineTemplate (template : Template)
  | pushScope (bindings : NameTable Template)
  | popScope
  | checkpoint
  | rollback (newer : Nat)
deriving DecidableEq

/--
The tables while operations are carried out. Checkpoints that can be gone back to are
kept as the tables stood when they were taken, newest first: those of the innermost
scope, and those of the scopes around it from the inside.
-/
structure Session where
  tables : SymbolTables
  marks : List SymbolTables := []
  around : List (List SymbolTables) := []

/--
Carry out an operation. It fails if the document's scope would be closed, and if there is
no such checkpoint or going back to it misses something. Of the checkpoint gone back to,
only the lengths are used.
-/
def Session.step (session : Session) : Operation → Option Session
  | .defineMacro name body =>
      some { session with
        tables := { session.tables with macros := session.tables.macros.define name body } }
  | .defineTemplate template =>
      some { session with
        tables := { session.tables with templates := session.tables.templates.define template } }
  | .pushScope bindings =>
      some
        { tables := { session.tables with templates := session.tables.templates.pushScope bindings }
          marks := []
          around := session.marks :: session.around }
  | .popScope =>
      match session.around, session.tables.templates.popScope? with
      | marks :: around, some templates =>
          some
            { tables := { session.tables with templates := templates }
              marks := marks
              around := around }
      | _, _ => none
  | .checkpoint => some { session with marks := session.tables :: session.marks }
  | .rollback newer =>
      match session.marks.drop newer with
      | [] => none
      | mark :: older =>
          (session.tables.rollback? mark.checkpoint).map fun tables =>
            { session with
              tables := tables
              marks := mark :: older }

/-- Carry out operations one after the other, with no checkpoints before them. -/
def run? (start : SymbolTables) (operations : List Operation) : Option Session :=
  operations.foldlM Session.step { tables := start }

/--
How many checkpoints can be gone back to in each scope that was opened, innermost first,
and in the one in which the operations begin. None if a scope is closed that was not
opened, or if there is no such checkpoint.
-/
def usableAfter? : List Nat → Operation → Option (List Nat)
  | own :: around, .pushScope _ => some (0 :: own :: around)
  | _ :: next :: around, .popScope => some (next :: around)
  | own :: around, .checkpoint => some ((own + 1) :: around)
  | own :: around, .rollback newer =>
      if newer < own then some ((own - newer) :: around) else none
  | usable, .defineMacro _ _ => some usable
  | usable, .defineTemplate _ => some usable
  | _, _ => none

/-- Scopes are closed after they were opened, and checkpoints gone back to in their scope. -/
def AreWellBracketed (operations : List Operation) : Prop :=
  (operations.foldlM usableAfter? [0]).isSome = true

instance : DecidablePred AreWellBracketed :=
  fun operations =>
    inferInstanceAs (Decidable ((operations.foldlM usableAfter? [0]).isSome = true))

/-- Later tables give earlier ones when they are taken back. -/
structure Precedes (earlier later : SymbolTables) : Prop where
  macros : earlier.macros.PrecedesWhole later.macros
  templates : earlier.templates.Precedes later.templates

namespace Precedes

variable {earlier later : SymbolTables}

theorem refl (tables : SymbolTables) : tables.Precedes tables :=
  ⟨.refl _, .refl _⟩

theorem trans
    {between : SymbolTables}
    (first : earlier.Precedes between)
    (second : between.Precedes later) :
    earlier.Precedes later :=
  ⟨first.macros.trans second.macros, first.templates.trans second.templates⟩

theorem rollback? (precedes : earlier.Precedes later) :
    later.rollback? earlier.checkpoint = some earlier := by
  simp [SymbolTables.rollback?, checkpoint, precedes.macros.rollback?, precedes.templates.rollback]

end Precedes

/-- Going back without missing anything is going back. -/
theorem rollback_of_rollback?
    {tables earlier : SymbolTables}
    {lengths : Nat × Nat}
    (back : tables.rollback? lengths = some earlier) :
    tables.rollback lengths = earlier := by
  obtain ⟨macros, macrosBack, rfl⟩ := Option.map_eq_some_iff.mp back
  rw [rollback, MacroTable.rollback, MacroTable.undo_of_undo? macrosBack]

/-! ## What is kept from operation to operation -/

/-- The tables now, when checkpoints were taken, and when the scope began, each after the next. -/
def AreInOrder (start tables : SymbolTables) (marks : List SymbolTables) : Prop :=
  (tables :: (marks ++ [start])).Pairwise fun later earlier => earlier.Precedes later

namespace AreInOrder

variable {start tables later mark : SymbolTables} {marks older : List SymbolTables}

theorem nil (start : SymbolTables) : AreInOrder start start [] :=
  List.pairwise_pair.mpr (.refl start)

theorem start_precedes (inOrder : AreInOrder start tables marks) : start.Precedes tables :=
  (List.pairwise_cons.mp inOrder).1 start (by simp)

/-- What comes later comes after everything before. -/
theorem extend (inOrder : AreInOrder start tables marks) (precedes : tables.Precedes later) :
    AreInOrder start later marks := by
  obtain ⟨beforeTables, beforeMarks⟩ := List.pairwise_cons.mp inOrder
  refine List.pairwise_cons.mpr ⟨?_, beforeMarks⟩
  intro earlier isEarlier
  exact (beforeTables earlier isEarlier).trans precedes

/-- A checkpoint is taken of the tables as they are. -/
theorem checkpoint (inOrder : AreInOrder start tables marks) :
    AreInOrder start tables (tables :: marks) := by
  refine List.pairwise_cons.mpr ⟨?_, inOrder⟩
  intro earlier isEarlier
  rcases List.mem_cons.mp isEarlier with rfl | isBefore
  · exact .refl _
  · exact (List.pairwise_cons.mp inOrder).1 earlier isBefore

/-- A checkpoint of the scope can be gone back to. -/
theorem mark_precedes (inOrder : AreInOrder start tables marks) (isMark : mark ∈ marks) :
    mark.Precedes tables :=
  (List.pairwise_cons.mp inOrder).1 mark (List.mem_append_left _ isMark)

/-- Behind a checkpoint that was gone back to are the ones taken before it. -/
theorem rollback
    {newer : Nat}
    (inOrder : AreInOrder start tables marks)
    (left : marks.drop newer = mark :: older) :
    AreInOrder start mark (mark :: older) := by
  have isKept : (mark :: older ++ [start]).Sublist (marks ++ [start]) :=
    (left ▸ List.drop_sublist newer marks).append_right _
  exact checkpoint ((List.pairwise_cons.mp inOrder).2.sublist isKept)

end AreInOrder

/-- How scopes were opened inside one another, with the tables at the start of the innermost. -/
inductive AreOpened (start : SymbolTables) : SymbolTables → List (List SymbolTables) → Prop where
  | document : AreOpened start start []
  | scope {outerStart tables marks around} {bindings : NameTable Template} :
      AreOpened start outerStart around →
      AreInOrder outerStart tables marks →
      AreOpened start
        { tables with templates := tables.templates.pushScope bindings }
        (marks :: around)

namespace Session

variable {start : SymbolTables} {session : Session}

/-- Every checkpoint that can be gone back to comes before the tables, since its scope began. -/
def IsInOrder (start : SymbolTables) (session : Session) : Prop :=
  ∃ scopeStart,
    AreOpened start scopeStart session.around ∧
      AreInOrder scopeStart session.tables session.marks

/-- How many checkpoints can be gone back to in each scope. -/
def usable (session : Session) : List Nat :=
  session.marks.length :: session.around.map List.length

theorem IsInOrder.extend
    {tables : SymbolTables}
    (inOrder : session.IsInOrder start)
    (precedes : session.tables.Precedes tables) :
    IsInOrder start { session with tables := tables } := by
  obtain ⟨scopeStart, opened, sinceStart⟩ := inOrder
  exact ⟨scopeStart, opened, sinceStart.extend precedes⟩

/-- In order, every operation that the brackets allow is carried out, and keeps the order. -/
theorem IsInOrder.step
    (inOrder : session.IsInOrder start)
    {operation : Operation}
    {usable : List Nat}
    (allowed : usableAfter? session.usable operation = some usable) :
    ∃ next,
      session.step operation = some next ∧ next.IsInOrder start ∧ next.usable = usable := by
  have unchanged := inOrder
  obtain ⟨scopeStart, opened, sinceStart⟩ := inOrder
  cases operation with
  | defineMacro name body =>
      obtain rfl := Option.some.inj allowed
      exact ⟨_, rfl, unchanged.extend ⟨.define _ name body, .refl _⟩, rfl⟩
  | defineTemplate template =>
      obtain rfl := Option.some.inj allowed
      exact ⟨_, rfl, unchanged.extend ⟨.refl _, .define _ template⟩, rfl⟩
  | pushScope bindings =>
      obtain rfl := Option.some.inj allowed
      exact ⟨_, rfl, ⟨_, .scope opened sinceStart, .nil _⟩, rfl⟩
  | popScope =>
      obtain ⟨tables, marks, around⟩ := session
      cases opened with
      | document =>
          simp [Session.usable, usableAfter?] at allowed
      | @scope outerStart before outerMarks outer bindings openedOuter sinceOuter =>
          obtain rfl := Option.some.inj allowed
          have precedes := sinceStart.start_precedes
          -- The scope is still there: only definitions were made since it was opened.
          have innerLength := precedes.templates.length_inner
          have isInside : tables.templates.inner ≠ [] := by
            rw [← List.length_pos_iff, innerLength]
            simp [TemplateTable.pushScope]
          have outerPrecedes :
              before.Precedes { tables with templates := tables.templates.dropScope } :=
            ⟨precedes.macros, precedes.templates.dropScope⟩
          refine ⟨⟨{ tables with templates := tables.templates.dropScope }, outerMarks, outer⟩,
            ?_, ⟨outerStart, openedOuter, sinceOuter.extend outerPrecedes⟩, rfl⟩
          simp only [Session.step, TemplateTable.popScope?_eq isInside]
  | checkpoint =>
      obtain rfl := Option.some.inj allowed
      exact ⟨_, rfl, ⟨scopeStart, opened, sinceStart.checkpoint⟩, rfl⟩
  | rollback newer =>
      simp only [Session.usable, usableAfter?] at allowed
      split at allowed
      next isTaken =>
        obtain rfl := Option.some.inj allowed
        obtain ⟨mark, older, left⟩ := List.exists_cons_of_length_pos
          (List.length_drop ▸ Nat.sub_pos_of_lt isTaken : 0 < (session.marks.drop newer).length)
        have isMark : mark ∈ session.marks :=
          List.mem_of_mem_drop (left ▸ List.mem_cons_self)
        have back := (sinceStart.mark_precedes isMark).rollback?
        refine ⟨{ session with tables := mark, marks := mark :: older }, ?_,
          ⟨scopeStart, opened, sinceStart.rollback left⟩, ?_⟩
        · simp only [Session.step, left, back, Option.map_some]
        · rw [Session.usable, ← left, List.length_drop]
      next =>
        simp at allowed

/-- Well-bracketed operations are carried out, and keep the order. -/
theorem IsInOrder.run
    (inOrder : session.IsInOrder start)
    {operations : List Operation}
    (allowed : (operations.foldlM usableAfter? session.usable).isSome = true) :
    ∃ last, operations.foldlM Session.step session = some last ∧ last.IsInOrder start := by
  induction operations generalizing session with
  | nil =>
      exact ⟨session, rfl, inOrder⟩
  | cons operation rest inductionHypothesis =>
      obtain ⟨counts, allowedAll⟩ := Option.isSome_iff_exists.mp allowed
      rw [List.foldlM_cons] at allowedAll
      obtain ⟨usable, allowedFirst, allowedRest⟩ := Option.bind_eq_some_iff.mp allowedAll
      obtain ⟨next, carriedOut, nextInOrder, rfl⟩ := inOrder.step allowedFirst
      obtain ⟨last, carriedOutRest, lastInOrder⟩ :=
        inductionHypothesis nextInOrder (by rw [allowedRest]; rfl)
      exact ⟨last, by rw [List.foldlM_cons, carriedOut]; exact carriedOutRest, lastInOrder⟩

end Session

/--
Journals are exact snapshots. Well-bracketed operations are all carried out: no scope that
is closed is the document's, and no going back misses a name. After them, and so at any
point among further ones, going back to a checkpoint of the innermost scope gives exactly
the tables of the time at which it was taken: every scope holds what it held, and every
name stands for what it stood for.
-/
theorem journals_are_snapshots
    (start : SymbolTables)
    {operations : List Operation}
    (wellBracketed : AreWellBracketed operations) :
    ∃ session,
      run? start operations = some session ∧
        ∀ mark ∈ session.marks,
          session.tables.rollback? mark.checkpoint = some mark ∧
            session.tables.rollback mark.checkpoint = mark := by
  have inOrder : Session.IsInOrder start { tables := start } :=
    ⟨start, .document, .nil start⟩
  obtain ⟨session, carriedOut, scopeStart, -, sinceStart⟩ := inOrder.run wellBracketed
  refine ⟨session, carriedOut, fun mark isMark => ?_⟩
  have back := (sinceStart.mark_precedes isMark).rollback?
  exact ⟨back, rollback_of_rollback? back⟩

/-- Two scopes at one depth, with going back inside the first and redefinitions in both. -/
def scopesAtOneDepth : List Operation :=
  [.defineMacro "m" "1", .defineTemplate { name := "a", body := "1" }, .checkpoint,
    .pushScope { entries := [("x", { name := "x", body := "1" })] }, .checkpoint,
    .defineTemplate { name := "x", body := "2" }, .defineMacro "n" "1", .rollback 0,
    .defineTemplate { name := "a", body := "2" }, .popScope,
    .pushScope {}, .defineTemplate { name := "x", body := "3" }, .popScope,
    .checkpoint, .defineMacro "m" "2"]

/-- Behind the two scopes, both checkpoints of the document's scope can be gone back to. -/
theorem journals_are_snapshots_of_scopesAtOneDepth :
    AreWellBracketed scopesAtOneDepth ∧
      ∃ session,
        run? {} scopesAtOneDepth = some session ∧ session.marks.length = 2 ∧
          ∀ mark ∈ session.marks,
            session.tables.rollback? mark.checkpoint = some mark ∧
              session.tables.rollback mark.checkpoint = mark := by
  have wellBracketed : AreWellBracketed scopesAtOneDepth := by decide
  have twoMarks :
      (run? {} scopesAtOneDepth).map (fun session => session.marks.length) = some 2 := by
    decide
  obtain ⟨session, carriedOut, restores⟩ := journals_are_snapshots {} wellBracketed
  rw [carriedOut] at twoMarks
  exact ⟨wellBracketed, session, carriedOut, Option.some.inj twoMarks, restores⟩

end SymbolTables

end DocMarkup

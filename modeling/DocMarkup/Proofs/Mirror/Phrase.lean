import DocMarkup.Grammar.Phrase
import DocMarkup.Proofs.Mirror.Expansion

namespace DocMarkup

/-!
# Phrases in a frame

Every rule of a phrase writes output, reports at its own cursor and goes on inside.
Which rule applies is told from the text, from the names that are defined and from
how deep brackets are nested, and never from what was written before.
-/

namespace Cursor

/-- The name of a template call stands behind its bracket. -/
theorem prefix_of_templateCall?
    {cursor next : Cursor}
    {name : String}
    (read : cursor.templateCall? = some (name, next)) :
    '[' :: name.toList <+: cursor.rest := by
  unfold templateCall? at read
  split at read
  next content remaining =>
    obtain ⟨found, called, shape⟩ := Option.map_eq_some_iff.mp read
    obtain ⟨rfl, _⟩ := Prod.mk.inj shape
    rw [remaining]
    refine List.prefix_cons_inj _ |>.mpr ?_
    unfold calledName? at called
    split at called
    next first rest =>
      simp only at called
      split at called
      · split at called
        · obtain rfl := Option.some.inj called
          rw [String.toList_ofList]
          exact (List.prefix_cons_inj _).mpr (List.takeWhile_prefix _)
        · simp at called
      · simp at called
    next =>
      simp at called
  next =>
    simp at read

end Cursor

open Compile

namespace Phrase

variable {setting : Setting} {stack : List Path} {inner reflection : Inner} {cursor : Cursor}

/-- A phrase in brackets is read alike, up to the bracket that closes it. -/
theorem nested_mirrors
    (mirror : inner.Mirrors setting stack reflection)
    (isIn : cursor.IsIn setting.known) :
    Mirrors setting stack (nested inner cursor) (nested reflection cursor) (LeadsOn cursor) := by
  unfold nested
  refine .isKnownUnclosed cursor ?_
  rintro (_ | _)
  · simp only [Bool.false_eq_true, ↓reduceIte]
    refine (Mirrors.enterPhrase isIn fun _ => trivial).bind ?_
    rintro (_ | _) -
    · simp only [Bool.false_eq_true, ↓reduceIte]
      split
      next next balanced =>
        exact .pure (.some (.balanced? balanced))
      next =>
        exact .rememberUnclosed cursor (.pure (.none cursor))
    · simp only [↓reduceIte]
      refine Mirrors.bind
        ((mirror.phraseFrom .bracketed 0 "" isIn).thenAlways (fun _ => rfl)
          fun _ reported => reported) ?_
      rintro ⟨closed, next⟩ leads
      cases closed with
      | true =>
          exact .pure (.some leads)
      | false =>
          exact .rememberUnclosed cursor (.pure (.none cursor))
  · exact .pure (.none cursor)

/-- The phrase inside an element is read alike. -/
theorem bracketed_mirrors
    (mirror : inner.Mirrors setting stack reflection)
    (isIn : cursor.IsIn setting.known)
    (name : String)
    (attributes : List Attribute) :
    Mirrors setting stack (bracketed inner name attributes cursor)
      (bracketed reflection name attributes cursor)
      (LeadsOn cursor) := by
  unfold bracketed
  refine .updateThen (by simp) (by simp) ?_
  refine (nested_mirrors mirror isIn).bind ?_
  rintro (_ | next) leadsOn
  · exact .pure (.none cursor)
  · exact .updateThen (by simp) (by simp) (.pure (.close (leadsOn next rfl)))

/-- The content of a link is read alike. -/
private theorem linked_mirrors
    (mirror : inner.Mirrors setting stack reflection)
    (isIn : cursor.IsIn setting.known)
    (name key target : String) :
    Mirrors setting stack (linked inner name key target cursor)
      (linked reflection name key target cursor)
      (LeadsOn cursor) := by
  have blanks : cursor.Leads cursor.skipBlank := (Cursor.Leads.refl cursor).skipBlank
  unfold linked
  simp only
  split
  · exact .updateThen (by simp) (by simp) (.pure (.close blanks))
  · exact (bracketed_mirrors mirror (isIn.leads blanks) name _).imp fun _ => .trans blanks

/-- Rules that apply only behind a front go on behind it. -/
private theorem styled_mirrors
    (mirror : inner.Mirrors setting stack reflection)
    (isIn : cursor.IsIn setting.known) :
    Mirrors setting stack (styled inner cursor) (styled reflection cursor) (LeadsOn cursor) := by
  unfold styled
  split
  next name next read =>
    have leads := Cursor.Leads.style? read
    exact (bracketed_mirrors mirror (isIn.leads leads) name []).imp fun _ => .trans leads
  next =>
    exact .pure (.none cursor)

private theorem url_mirrors
    (mirror : inner.Mirrors setting stack reflection)
    (isIn : cursor.IsIn setting.known) :
    Mirrors setting stack (url inner cursor) (url reflection cursor) (LeadsOn cursor) := by
  unfold url
  split
  next target next read =>
    have leads := Cursor.Leads.url? read
    exact (linked_mirrors mirror (isIn.leads leads) _ _ target).imp fun _ => .trans leads
  next =>
    exact .pure (.none cursor)

private theorem link_mirrors
    (mirror : inner.Mirrors setting stack reflection)
    (isIn : cursor.IsIn setting.known) :
    Mirrors setting stack (link inner cursor) (link reflection cursor) (LeadsOn cursor) := by
  unfold link
  split
  next target next read =>
    have leads := Cursor.Leads.link? read
    exact (linked_mirrors mirror (isIn.leads leads) _ _ target).imp fun _ => .trans leads
  next =>
    exact .pure (.none cursor)

private theorem footnote_mirrors
    (mirror : inner.Mirrors setting stack reflection)
    (isIn : cursor.IsIn setting.known) :
    Mirrors setting stack (footnote inner cursor) (footnote reflection cursor)
      (LeadsOn cursor) := by
  unfold footnote
  split
  next next read =>
    have leads := (Cursor.Leads.keyword? read).skipBlank
    exact (bracketed_mirrors mirror (isIn.leads leads) _ []).imp fun _ => .trans leads
  next =>
    exact .pure (.none cursor)

/-- What is written without looking inside is written alike. -/
private theorem anchor_mirrors :
    Mirrors setting stack (anchor cursor) (anchor cursor) (LeadsOn cursor) := by
  unfold anchor
  split
  next identifier next read =>
    exact .updateThen (by simp) (by simp) (.pure (.some (.anchor? read)))
  next =>
    exact .pure (.none cursor)

private theorem image_mirrors :
    Mirrors setting stack (image cursor) (image cursor) (LeadsOn cursor) := by
  unfold image
  split
  next file next read =>
    exact .updateThen (by simp) (by simp) (.pure (.some (.image? read)))
  next =>
    exact .pure (.none cursor)

private theorem lineBreak_mirrors :
    Mirrors setting stack (lineBreak cursor) (lineBreak cursor) (LeadsOn cursor) := by
  unfold lineBreak
  split
  next next read =>
    exact .updateThen (by simp) (by simp) (.pure (.some (.lineBreak? read)))
  next =>
    exact .pure (.none cursor)

private theorem inlineCode_mirrors :
    Mirrors setting stack (inlineCode cursor) (inlineCode cursor) (LeadsOn cursor) := by
  unfold inlineCode
  split
  next code next read =>
    exact .updateThen (by simp) (by simp) (.pure (.some (.inlineCode? read)))
  next =>
    exact .pure (.none cursor)

private theorem rawEscape_mirrors (isIn : cursor.IsIn setting.known) :
    Mirrors setting stack (rawEscape cursor) (rawEscape cursor) (LeadsOn cursor) := by
  unfold rawEscape
  split
  next content next read =>
    refine .updateThen (by simp) (fun _ reported => ?_) (.pure (.some (.rawEscape? read)))
    exact reported.raw isIn.position content
  next =>
    exact .pure (.none cursor)

/-- A conditional phrase is read or skipped alike, as the same macros are defined. -/
private theorem conditional_mirrors
    (mirror : inner.Mirrors setting stack reflection)
    (isIn : cursor.IsIn setting.known) :
    Mirrors setting stack (conditional inner cursor) (conditional reflection cursor)
      (LeadsOn cursor) := by
  unfold conditional
  split
  next =>
    exact .pure (.none cursor)
  next name afterName read =>
    have leads := (Cursor.Leads.conditional? read).skipHorizontal
    refine .state fun before _ => ?_
    rw [CompilerState.macros_behind]
    by_cases known : before.macros.contains name
    · simp only [known, ↓reduceIte]
      refine (nested_mirrors mirror (isIn.leads leads)).bind ?_
      rintro (_ | next) leadsOn
      · exact .pure (.none cursor)
      · exact .pure (.close (leads.trans (leadsOn next rfl)))
    · simp only [known, Bool.false_eq_true, ↓reduceIte]
      refine .pure fun next through => ?_
      obtain ⟨⟨content, after⟩, balanced, rfl⟩ := Option.map_eq_some_iff.mp through
      exact leads.trans (.balancedThrough? balanced)

/-- A template is called alike, as the same templates are defined. -/
private theorem templateCall_mirrors
    (closed : setting.IsClosed)
    (mirror : inner.Mirrors setting stack reflection)
    (isIn : cursor.IsIn setting.known) :
    Mirrors setting stack (templateCall inner cursor) (templateCall reflection cursor)
      (LeadsOn cursor) := by
  unfold templateCall
  split
  next =>
    exact .pure (.none cursor)
  next name afterName read =>
    split
    next =>
      exact .pure (.none cursor)
    next arguments next balanced =>
      have leads := (Cursor.Leads.templateCall? read).trans (.balancedThrough? balanced)
      refine .state fun before _ => ?_
      simp only [CompilerState.templates_behind]
      cases before.templates.find? name with
      | none =>
          exact (keepUndefined_mirrors isIn (Cursor.prefix_of_templateCall? read) _).bind
            fun _ _ => .pure (.some leads)
      | some template =>
          exact (invokeTemplate_mirrors closed mirror isIn.position template arguments false).bind
            fun _ _ => .pure (.some leads)

/-- Everything that a bracket may start is read alike. -/
private theorem elements_mirror
    (closed : setting.IsClosed)
    (mirror : inner.Mirrors setting stack reflection)
    (isIn : cursor.IsIn setting.known) :
    List.Forall₂
      (fun rule reflected =>
        Mirrors setting stack (rule cursor) (reflected cursor) (LeadsOn cursor))
      (elements inner) (elements reflection) :=
  .cons (.pure fun _ read => .comment? read) <|
    .cons (styled_mirrors mirror isIn) <|
    .cons (url_mirrors mirror isIn) <|
    .cons (link_mirrors mirror isIn) <|
    .cons anchor_mirrors <|
    .cons image_mirrors <|
    .cons (footnote_mirrors mirror isIn) <|
    .cons lineBreak_mirrors <|
    .cons (conditional_mirrors mirror isIn) <|
    .cons (templateCall_mirrors closed mirror isIn) .nil

/-- Everything that a quote may start is read alike. -/
private theorem quotations_mirror (isIn : cursor.IsIn setting.known) :
    List.Forall₂
      (fun rule reflected =>
        Mirrors setting stack (rule cursor) (reflected cursor) (LeadsOn cursor))
      quotations quotations :=
  .cons inlineCode_mirrors (.cons (rawEscape_mirrors isIn) .nil)

/-- Collected text is written alike. -/
private theorem flush_mirrors (buffer : String) :
    Mirrors setting stack (flush buffer) (flush buffer) fun _ => True :=
  .update (by simp) (by simp) trivial

/-- The rest of a phrase is read alike from a cursor further on. -/
private theorem rest_mirrors
    (mirror : inner.Mirrors setting stack reflection)
    (isIn : cursor.IsIn setting.known)
    {next : Cursor}
    (leads : cursor.Leads next)
    (mode : PhraseMode)
    (depth : Nat)
    (buffer : String) :
    Mirrors setting stack (inner.phraseFrom mode depth buffer next)
      (reflection.phraseFrom mode depth buffer next)
      fun result => cursor.Leads result.2 :=
  (mirror.phraseFrom mode depth buffer (isIn.leads leads)).imp fun _ => leads.trans

/-- A name is a macro in both or a word in both. -/
private theorem name_mirrors
    (closed : setting.IsClosed)
    (mirror : inner.Mirrors setting stack reflection)
    (isIn : cursor.IsIn setting.known)
    (mode : PhraseMode)
    (depth : Nat)
    (buffer word : String)
    {next : Cursor}
    (leads : cursor.Leads next) :
    Mirrors setting stack (name inner mode depth buffer cursor word next)
      (name reflection mode depth buffer cursor word next)
      fun result => cursor.Leads result.2 := by
  unfold name
  refine .state fun before _ => ?_
  rw [CompilerState.macros_behind]
  by_cases isMacro : before.macros.contains word && startsWord cursor
  · simp only [isMacro, ↓reduceIte]
    refine (flush_mirrors buffer).bind fun _ _ => ?_
    refine (expandMacro_mirrors closed mirror isIn.position word).bind fun _ _ => ?_
    exact rest_mirrors mirror isIn leads mode depth ""
  · simp only [isMacro, Bool.false_eq_true, ↓reduceIte]
    exact rest_mirrors mirror isIn leads mode depth _

/-- A phrase stops at a line feed in both or goes on in both. -/
private theorem stopsAtLineFeed_mirrors (mode : PhraseMode) :
    Mirrors setting stack (stopsAtLineFeed mode cursor) (stopsAtLineFeed mode cursor)
      fun _ => True := by
  unfold stopsAtLineFeed
  split
  · exact .state fun before _ => .pure trivial
  · exact .pure trivial

/-- Text that means nothing is collected alike. -/
private theorem plain_mirrors
    (mirror : inner.Mirrors setting stack reflection)
    (isIn : cursor.IsIn setting.known)
    (mode : PhraseMode)
    (depth : Nat)
    (buffer : String)
    (first : Char) :
    Mirrors setting stack (plain inner mode depth buffer cursor first)
      (plain reflection mode depth buffer cursor first)
      fun result => cursor.Leads result.2 := by
  unfold plain
  split
  next run next read =>
    exact rest_mirrors mirror isIn (.plainRun? read) mode depth _
  next =>
    exact rest_mirrors mirror isIn (.advance cursor 1) mode depth _

/-- One of some rules applies in both, or the character is text in both. -/
private theorem firstOf_mirrors
    (mirror : inner.Mirrors setting stack reflection)
    (isIn : cursor.IsIn setting.known)
    {rules reflections : List Rule}
    (rulesMirror :
      List.Forall₂
        (fun rule reflected =>
          Mirrors setting stack (rule cursor) (reflected cursor) (LeadsOn cursor))
        rules reflections)
    (mode : PhraseMode)
    (depth otherDepth : Nat)
    (buffer : String) :
    Mirrors setting stack
      (do
        match ← firstOf rules cursor with
        | some next => inner.phraseFrom mode depth "" next
        | none => inner.phraseFrom mode otherDepth buffer (cursor.advance 1))
      (do
        match ← firstOf reflections cursor with
        | some next => reflection.phraseFrom mode depth "" next
        | none => reflection.phraseFrom mode otherDepth buffer (cursor.advance 1))
      fun result => cursor.Leads result.2 := by
  refine (Mirrors.firstOf rulesMirror).bind ?_
  rintro (_ | next) leadsOn
  · exact rest_mirrors mirror isIn (.advance cursor 1) mode otherDepth buffer
  · exact rest_mirrors mirror isIn (leadsOn next rfl) mode depth ""

/-- One step of a phrase is the same in both. -/
theorem step_mirrors
    (closed : setting.IsClosed)
    (mirror : inner.Mirrors setting stack reflection)
    (isIn : cursor.IsIn setting.known)
    (mode : PhraseMode)
    (depth : Nat)
    (buffer : String) :
    Mirrors setting stack (step inner mode depth buffer cursor)
      (step reflection mode depth buffer cursor)
      fun result => cursor.Leads result.2 := by
  have stays : cursor.Leads cursor := .refl cursor
  have one : cursor.Leads (cursor.advance 1) := .advance cursor 1
  unfold step
  split
  next =>
    exact (flush_mirrors buffer).bind fun _ _ => .pure stays
  next first rest _ =>
    by_cases isClosing : first == ']'
    · simp only [isClosing, ↓reduceIte]
      by_cases isLast : depth = 0
      · simp only [isLast, ↓reduceIte]
        exact (flush_mirrors buffer).bind fun _ _ => .pure stays
      · simp only [isLast, ↓reduceIte]
        exact rest_mirrors mirror isIn one mode _ _
    simp only [isClosing, Bool.false_eq_true, ↓reduceIte]
    by_cases isLineFeed : first == '\n'
    · simp only [isLineFeed, ↓reduceIte]
      refine (stopsAtLineFeed_mirrors mode).bind ?_
      rintro (_ | _) -
      · exact rest_mirrors mirror isIn one mode depth _
      · exact (flush_mirrors buffer).bind fun _ _ => .pure stays
    simp only [isLineFeed, Bool.false_eq_true, ↓reduceIte]
    by_cases isOpening : first == '['
    · simp only [isOpening, ↓reduceIte]
      refine (flush_mirrors buffer).bind fun _ _ => ?_
      exact firstOf_mirrors mirror isIn (elements_mirror closed mirror isIn) mode depth _ _
    simp only [isOpening, Bool.false_eq_true, ↓reduceIte]
    by_cases isBackslash : first == '\\'
    · simp only [isBackslash, ↓reduceIte]
      exact rest_mirrors mirror isIn (.advance cursor 2) mode depth _
    simp only [isBackslash, Bool.false_eq_true, ↓reduceIte]
    by_cases isQuote : (first == codeQuote || escapeQuotes.isPrefixOf cursor.rest) = true
    · simp only [isQuote, ↓reduceIte]
      refine (flush_mirrors buffer).bind fun _ _ => ?_
      exact firstOf_mirrors mirror isIn (quotations_mirror isIn) mode depth _ _
    simp only [isQuote, Bool.false_eq_true, ↓reduceIte]
    split
    next word next read =>
      exact name_mirrors closed mirror isIn mode depth buffer word (.name? read)
    next =>
      exact plain_mirrors mirror isIn mode depth buffer first

end Phrase

end DocMarkup

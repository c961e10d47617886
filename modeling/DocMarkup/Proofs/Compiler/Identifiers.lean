import Mathlib.Data.List.Nodup
import Mathlib.Data.List.Perm.Subperm
import DocMarkup.Compiler.Structure
import DocMarkup.Proofs.Compiler.Undo

namespace DocMarkup

/-!
# Free identifiers

The numbers behind a candidate make different identifiers, so that among the first
of them there is one more than identifiers can be taken. The identifier that is
reserved was therefore free, and giving it up again leaves no trace of it.
-/

namespace NameTable

variable {α : Type}

/-- The names of a table. -/
def names (table : NameTable α) : List String :=
  table.entries.map Prod.fst

/-- The values under a name are those of the entries that have it. -/
theorem contains_iff_mem_names
    {table : NameTable α}
    {name : String} :
    table.contains name = true ↔ name ∈ table.names := by
  simp [contains, find?, names]

/-- A new name is the last of the names. -/
theorem names_insert
    {table : NameTable α}
    {name : String}
    (absent : table.contains name = false)
    (value : α) :
    (table.insert name value).names = table.names ++ [name] := by
  obtain ⟨entries⟩ := table
  have isNew : name ∉ names ⟨entries⟩ := by
    rw [← contains_iff_mem_names, absent]
    exact Bool.false_ne_true
  simp only [names, insert] at isNew ⊢
  induction entries with
  | nil =>
      simp [insertEntry]
  | cons entry rest inductionHypothesis =>
      obtain ⟨key, old⟩ := entry
      simp only [List.map_cons, List.mem_cons, not_or] at isNew
      obtain ⟨different, isNewInRest⟩ := isNew
      have later := inductionHypothesis (by
        simpa [← Bool.not_eq_true, contains_iff_mem_names, names] using isNewInRest) isNewInRest
      simp [insertEntry, Ne.symm different, later]

/-- The names that are left when one is taken out. -/
theorem names_erase (table : NameTable α) (name : String) :
    (table.erase name).names = table.names.filter fun key => key != name := by
  rw [names, names, List.filter_map]
  rfl

/-- What is left when a name is taken out was there before. -/
theorem contains_of_contains_erase
    {table : NameTable α}
    {erased name : String}
    (found : (table.erase erased).contains name = true) :
    table.contains name = true := by
  rw [contains_iff_mem_names] at found ⊢
  rw [names_erase] at found
  exact List.mem_of_mem_filter found

/-- A name that was not there is gone again after it was entered and taken out. -/
theorem erase_insert
    {table : NameTable α}
    {name : String}
    (absent : table.contains name = false)
    (value : α) :
    (table.insert name value).erase name = table := by
  have nothing : table.find? name = none := by
    simpa [contains] using absent
  have restored := restore_insert table name value
  rw [nothing] at restored
  exact restored

end NameTable

/-- An identifier that is made from a text is not empty. -/
theorem generateId_ne_empty (text : String) : generateId text ≠ "" := by
  unfold generateId generateIdWith
  simp only
  split
  · decide
  · split <;> simp [← String.toList_inj]

/-- Behind the identifier of a parent, one that is not empty is not either. -/
theorem qualify_ne_empty
    (parent : Option String)
    {identifier : String}
    (named : identifier ≠ "") :
    qualify parent identifier ≠ "" := by
  unfold qualify
  split
  · exact named
  · split
    · exact named
    · simp

namespace CompilerState

/-- Different numbers make different identifiers of a candidate. -/
theorem numberedId_injective (candidate : String) :
    Function.Injective (numberedId candidate) := by
  have separated :
      ∀ number : Nat, number ≠ 0 →
        (numberedId candidate number).toList =
          candidate.toList ++ '_' :: Nat.toDigits 10 number := by
    intro number isNumbered
    simp [numberedId, isNumbered, Nat.toString_eq_repr]
  have numbered :
      ∀ number : Nat, number ≠ 0 → numberedId candidate number ≠ candidate := by
    intro number isNumbered same
    have sameCharacters := congrArg String.toList same
    rw [separated number isNumbered] at sameCharacters
    simpa using congrArg List.length sameCharacters
  intro first second same
  by_cases firstPlain : first = 0
  · by_cases secondPlain : second = 0
    · rw [firstPlain, secondPlain]
    · subst firstPlain
      exact (numbered second secondPlain same.symm).elim
  · by_cases secondPlain : second = 0
    · subst secondPlain
      exact (numbered first firstPlain same).elim
    · have sameCharacters := congrArg String.toList same
      rw [separated first firstPlain, separated second secondPlain] at sameCharacters
      have sameDigits :=
        List.tail_eq_of_cons_eq (List.append_cancel_left sameCharacters)
      have sameValues := congrArg (fun digits => Nat.ofDigitChars 10 digits 0) sameDigits
      simpa using sameValues

/-- One of the first numbers makes a candidate free. -/
theorem exists_free
    (taken : NameTable Unit)
    (candidate : String) :
    ∃ number ∈ List.range (taken.size + 1),
      taken.contains (numberedId candidate number) = false := by
  by_contra allTaken
  simp only [not_exists, not_and, Bool.not_eq_false] at allTaken
  let candidates := (List.range (taken.size + 1)).map (numberedId candidate)
  have distinct : candidates.Nodup :=
    List.Nodup.map (numberedId_injective candidate) List.nodup_range
  have areTaken : candidates ⊆ taken.names := by
    intro identifier isCandidate
    obtain ⟨number, isFirst, rfl⟩ := List.mem_map.mp isCandidate
    exact NameTable.contains_iff_mem_names.mp (allTaken number isFirst)
  have atMost := (List.subperm_of_subset distinct areTaken).length_le
  simp only [candidates, List.length_map, List.length_range, NameTable.names] at atMost
  exact absurd atMost (by simp [NameTable.size])

/-- The identifier that is made from a candidate has the least number that makes it free. -/
theorem exists_leastNumber
    (taken : NameTable Unit)
    (candidate : String) :
    ∃ number ∈ List.range (taken.size + 1),
      freeId taken candidate = numberedId candidate number ∧
        taken.contains (numberedId candidate number) = false ∧
          ∀ smaller < number, taken.contains (numberedId candidate smaller) = true := by
  unfold freeId
  simp only
  split
  next number found =>
    obtain ⟨isFree, isFirst, areTaken⟩ := List.find?_range_eq_some.mp found
    exact ⟨number, isFirst, rfl, by simpa using isFree, by simpa using areTaken⟩
  next noneFree =>
    obtain ⟨number, isFirst, isFree⟩ := exists_free taken candidate
    have isTaken := List.find?_eq_none.mp noneFree number isFirst
    simp [isFree] at isTaken

/-- The identifier that is made from a candidate is free. -/
theorem contains_freeId
    (taken : NameTable Unit)
    (candidate : String) :
    taken.contains (freeId taken candidate) = false := by
  obtain ⟨number, -, made, isFree, -⟩ := exists_leastNumber taken candidate
  rw [made, isFree]

/-- The identifier that is made from a candidate is the candidate or it with a number behind it. -/
theorem exists_freeId_eq
    (taken : NameTable Unit)
    (candidate : String) :
    ∃ number ∈ List.range (taken.size + 1), freeId taken candidate = numberedId candidate number := by
  obtain ⟨number, isFirst, made, -⟩ := exists_leastNumber taken candidate
  exact ⟨number, isFirst, made⟩

/-- The identifier that is made from a candidate is not empty if the candidate is not. -/
theorem freeId_ne_empty
    (taken : NameTable Unit)
    {candidate : String}
    (named : candidate ≠ "") :
    freeId taken candidate ≠ "" := by
  obtain ⟨number, -, made⟩ := exists_freeId_eq taken candidate
  rw [made, numberedId]
  split
  · exact named
  · simp

/-- The list and the table of identifiers both hold the given ones, which are all different. -/
structure HoldsIds (state : CompilerState) (kept : List String) : Prop where
  usedIds : state.usedIds.toList = kept
  distinct : kept.Nodup
  names : state.takenIds.names = kept

namespace HoldsIds

variable {state : CompilerState} {kept : List String}

/-- The identifiers that are held are those that are found taken. -/
theorem contains_iff (holds : state.HoldsIds kept) (identifier : String) :
    state.takenIds.contains identifier = true ↔ identifier ∈ kept := by
  rw [NameTable.contains_iff_mem_names, holds.names]

/-- There are as many names in the table as identifiers are held. -/
theorem size_eq (holds : state.HoldsIds kept) : state.takenIds.size = kept.length := by
  rw [← holds.names, NameTable.names, List.length_map, NameTable.size]

/-- What is reserved is held from then on. -/
theorem reserveId (holds : state.HoldsIds kept) (candidate : String) :
    (state.reserveId candidate).2.HoldsIds (kept ++ [(state.reserveId candidate).1]) := by
  have isFree := contains_freeId state.takenIds candidate
  have isNew : freeId state.takenIds candidate ∉ kept := by
    rw [← holds.contains_iff, isFree]
    exact Bool.false_ne_true
  refine ⟨?_, ?_, ?_⟩
  · rw [← holds.usedIds]
    exact Array.toList_push ..
  · rw [← List.concat_eq_append]
    exact holds.distinct.concat isNew
  · rw [← holds.names]
    exact NameTable.names_insert isFree ()

end HoldsIds

/-- Identifiers that are given up in two goes are given up together. -/
theorem releaseIds_append
    (taken : NameTable Unit)
    (early late : List String) :
    releaseIds taken (early ++ late) = releaseIds (releaseIds taken late) early :=
  List.foldr_append

/-- Giving up the identifier that was just reserved leaves no trace of it. -/
theorem releaseIds_freeId
    (taken : NameTable Unit)
    (candidate : String) :
    releaseIds (taken.insert (freeId taken candidate) ()) [freeId taken candidate] = taken :=
  NameTable.erase_insert (contains_freeId taken candidate) ()

/-- The identifier that is given for a title, or else is made from it. -/
def localId (given : Option String) (title : String) : String :=
  if (given.getD "").isEmpty then generateId title else given.getD ""

/-- A title always gives an identifier. -/
theorem localId_ne_empty
    (given : Option String)
    (title : String) :
    localId given title ≠ "" := by
  unfold localId
  split
  · exact generateId_ne_empty title
  next isGiven =>
    simpa using isGiven

/-- A section has a free identifier, from its local one and what that follows. -/
theorem sectionIds_beginSection
    (state : CompilerState)
    (given : Option String)
    (title : String) :
    (state.beginSection given title).sectionIds =
      freeId state.takenIds (qualify state.idPrefix (localId given title)) :: state.sectionIds :=
  rfl

end CompilerState

end DocMarkup

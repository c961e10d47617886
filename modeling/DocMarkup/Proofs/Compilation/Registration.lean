import DocMarkup.Proofs.Compilation.Completion

namespace DocMarkup

open CompilerState

/-!
# Identifiers of the output

Every section, every heading and every table with an identifier has one of its own.
An identifier is reserved when its element is written, and what is abandoned gives
its identifiers back.
-/

/-- The elements with identifiers in the events of a result have different ones. -/
def CompilationResult.HasOwnIds (result : CompilationResult) : Prop :=
  (reservedIds result.events).Nodup

/-- The events of a result are those of the state in which reading has ended. -/
theorem Options.events_of_result
    (options : Options)
    {parsed : Bool}
    {state : CompilerState}
    {result : CompilationResult}
    (made : options.result parsed state = .ok result) :
    result.events = state.events.toList := by
  unfold Options.result at made
  simp only at made
  split at made
  next =>
    split at made
    next =>
      simp at made
    next =>
      obtain rfl := Except.ok.inj made
      rfl
  next =>
    obtain rfl := Except.ok.inj made
    rfl

/-- Where reading has ended, the elements with identifiers have different ones. -/
theorem Options.result_hasOwnIds
    (options : Options)
    {parsed : Bool}
    {state : CompilerState}
    {result : CompilationResult}
    (finished : Finished parsed state)
    (made : options.result parsed state = .ok result) :
    result.HasOwnIds := by
  obtain ⟨shown, distinct, _⟩ := finished.accounted.2
  unfold CompilationResult.HasOwnIds
  rw [options.events_of_result made, ← shown]
  exact distinct

/-- An identifier is taken exactly if the output shows it. -/
theorem CompilerState.IsRegistered.contains_iff
    {state : CompilerState}
    (registered : state.IsRegistered)
    (identifier : String) :
    state.takenIds.contains identifier = true ↔
      identifier ∈ reservedIds state.events.toList :=
  registered.holdsIds.contains_iff identifier

/--
Whenever blocks have been read and whenever reading has ended, the reserved
identifiers are those of the elements of the output, in order and all different,
and they are the ones that are looked up as taken: a watch on this never raises the
alarm. So no two elements of a result share an identifier.
-/
theorem identifiers_are_registered
    (options : Options)
    (files : FileTree) :
    (∀ (document : Document) (steps : Nat),
        let environment := options.environment files
        let run := document.parse environment (Inner.within environment steps)
        let watched := document.parse environment (Inner.observed environment IsRegistered steps)
        let start : Workspace := { state := options.initialState }
        watched start = run start ∧
          match watched start with
          | .ok _ after =>
              after.state.IsRegistered ∧
                ∀ identifier,
                  after.state.takenIds.contains identifier = true ↔
                    identifier ∈ reservedIds after.state.events.toList
          | .error fault _ => fault ≠ Compile.alarm) ∧
      (∀ text name,
        match compileSource options files text name with
        | .ok result => result.HasOwnIds
        | .error _ => True) ∧
        ∀ path,
          match compileFile options files path with
          | .ok result => result.HasOwnIds
          | .error _ => True := by
  refine ⟨?_, ?_, ?_⟩
  · intro document steps environment run watched start
    obtain ⟨same, ended, noAlarm⟩ :=
      options.observed_ends files document steps fun _ => IsConsistent.isRegistered
    refine ⟨same, ?_⟩
    split
    next parsed after outcome =>
      have finished := ended parsed after outcome
      exact ⟨finished.accounted.2, finished.accounted.2.contains_iff⟩
    next fault after outcome =>
      exact noAlarm fault after outcome
  · exact compileSource_of_finished fun _ _ _ => options.result_hasOwnIds
  · exact compileFile_of_finished fun _ _ _ => options.result_hasOwnIds

end DocMarkup

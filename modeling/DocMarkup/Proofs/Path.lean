import DocMarkup.FileTree
import DocMarkup.Proofs.Text.Pieces

namespace DocMarkup

/-!
# Paths and their texts

The components of a path that was read from a text are names: none of them is empty,
a single dot, or holds a slash. A path of such components is read back from the text
that shows it, so that the text can stand for the path.
-/

namespace Path

/-- The name of a directory or a file: something without slashes that is not a single dot. -/
structure IsName (component : String) : Prop where
  notEmpty : component.toList ≠ []
  notDot : component ≠ "."
  noSlash : ∀ character ∈ component.toList, (character == '/') = false

/-- All components of a path are names. -/
def IsNormal (path : Path) : Prop :=
  ∀ component ∈ path.components, IsName component

/-- A path that was read from a text is made of names. -/
theorem isNormal_ofText (text : String) : (ofText text).IsNormal := by
  intro component member
  simp only [ofText, List.mem_filter, List.mem_map, bne_iff_ne, ne_eq] at member
  obtain ⟨⟨piece, isPiece, rfl⟩, notDot⟩ := member
  obtain ⟨notEmpty, noSlash⟩ := Text.piecesFrom_clean (by simp) isPiece
  exact
    { notEmpty := by simpa using notEmpty
      notDot := notDot
      noSlash := by simpa using noSlash }

/-- The text of names with slashes between them. -/
private def joinedNames (components : List String) : List Char :=
  List.intercalate ['/'] (components.map String.toList)

/-- What stands between slashes are the names. -/
private theorem pieces_joinedNames
    {components : List String}
    (normal : ∀ component ∈ components, IsName component) :
    Text.piecesFrom (fun character => character == '/') [] (joinedNames components) =
      components.map String.toList := by
  refine Text.piecesFrom_intercalate rfl ?_
  intro word member
  obtain ⟨component, isComponent, rfl⟩ := List.mem_map.mp member
  exact ⟨(normal component isComponent).notEmpty, (normal component isComponent).noSlash⟩

/-- No slash comes before the first name. -/
private theorem runLength_joinedNames
    {components : List String}
    (normal : ∀ component ∈ components, IsName component) :
    Text.runLength (fun character => character == '/') (joinedNames components) = 0 := by
  cases components with
  | nil =>
      rfl
  | cons first others =>
      have isName := normal first (by simp)
      obtain ⟨front, rest, shape⟩ := List.exists_cons_of_ne_nil isName.notEmpty
      have noSlash := isName.noSlash front (by simp [shape])
      have starts : ∃ behind, joinedNames (first :: others) = front :: behind := by
        unfold joinedNames
        cases others with
        | nil => exact ⟨rest, by simp [shape]⟩
        | cons next more => exact ⟨_, by simp [shape, List.intercalate_cons_cons]; rfl⟩
      obtain ⟨behind, shown⟩ := starts
      rw [shown, Text.runLength, List.takeWhile_cons]
      simp [noSlash]

/-- The slashes of a root are not part of any name. -/
private theorem pieces_root (root : Root) (characters : List Char) :
    Text.piecesFrom (fun character => character == '/') [] (root.shown.toList ++ characters) =
      Text.piecesFrom (fun character => character == '/') [] characters := by
  cases root <;> rfl

/-- A root is told from its slashes. -/
private theorem rootOf_root
    (root : Root)
    {characters : List Char}
    (noSlash : Text.runLength (fun character => character == '/') characters = 0) :
    rootOf (root.shown.toList ++ characters) = root := by
  have counted :
      Text.runLength (fun character => character == '/') (root.shown.toList ++ characters) =
        root.shown.toList.length := by
    unfold Text.runLength at noSlash ⊢
    cases root with
    | relative => exact noSlash
    | slash => exact congrArg (· + 1) noSlash
    | doubleSlash => exact congrArg (· + 2) noSlash
  unfold rootOf
  rw [counted]
  cases root <;> rfl

/-- A path of names is read back from the text that shows it. -/
theorem ofText_shown {path : Path} (normal : path.IsNormal) : ofText path.shown = path := by
  have notDots :
      ∀ component ∈ path.components, (component != ".") = true := by
    intro component member
    simpa using (normal component member).notDot
  have whole :
      ofText (path.root.shown ++ Text.joined "/" path.components) = path := by
    have characters :
        (path.root.shown ++ Text.joined "/" path.components).toList =
          path.root.shown.toList ++ joinedNames path.components := by
      rw [String.toList_append, Text.joined, String.toList_intercalate]
      rfl
    unfold ofText
    simp only [characters, pieces_root, pieces_joinedNames normal,
      rootOf_root _ (runLength_joinedNames normal), List.map_map]
    have names : path.components.map (String.ofList ∘ String.toList) = path.components := by
      simp [Function.comp_def]
    rw [names, List.filter_eq_self.mpr notDots]
  unfold shown
  simp only
  split
  next isEmpty =>
    -- Only the current directory has an empty text, and it is shown as a single dot.
    have empty : path.root.shown ++ Text.joined "/" path.components = "" := by
      simpa using isEmpty
    rw [empty] at whole
    rw [← whole]
    rfl
  next =>
    exact whole

/-! ## Paths that are put together -/

/-- Following names from names comes to names. -/
theorem areNames_follow
    {directory components : List String}
    (areNames : ∀ component ∈ directory, IsName component)
    (areFollowed : ∀ component ∈ components, IsName component) :
    ∀ component ∈ follow directory components, IsName component := by
  induction components generalizing directory with
  | nil => exact areNames
  | cons first rest inductionHypothesis =>
      rw [List.forall_mem_cons] at areFollowed
      refine inductionHypothesis ?_ areFollowed.2
      intro component member
      split at member
      · exact areNames component (List.dropLast_subset _ member)
      · rcases List.mem_append.mp member with earlier | last
        · exact areNames component earlier
        · obtain rfl := List.mem_singleton.mp last
          exact areFollowed.1

/-- A path seen from a directory is made of names if both are. -/
theorem IsNormal.join
    {directory path : Path}
    (isNormal : directory.IsNormal)
    (pathIsNormal : path.IsNormal) :
    (directory.join path).IsNormal := by
  unfold Path.join
  split
  · exact pathIsNormal
  · intro component member
    rcases List.mem_append.mp member with inDirectory | inPath
    · exact isNormal component inDirectory
    · exact pathIsNormal component inPath

/-- The directory that holds a path of names is one as well. -/
theorem IsNormal.parent {path : Path} (isNormal : path.IsNormal) : path.parent.IsNormal :=
  fun component member => isNormal component (List.dropLast_subset _ member)

end Path

namespace FileTree

/-- The directories that paths are seen from are made of names. -/
structure IsNormal (files : FileTree) : Prop where
  workingDirectory : ∀ component ∈ files.workingDirectory, Path.IsName component
  homeDirectory : ∀ component ∈ files.homeDirectory, Path.IsName component

variable {files : FileTree} {path file : Path}

/-- What a path of names means is a path of names. -/
theorem IsNormal.resolve
    (normal : files.IsNormal)
    (isNormal : path.IsNormal)
    (resolved : files.resolve path = .ok file) :
    file.IsNormal := by
  unfold FileTree.resolve Path.resolve at resolved
  split at resolved
  · simp at resolved
  · obtain rfl := Except.ok.inj resolved
    refine Path.areNames_follow ?_ isNormal
    split
    · simp
    · exact normal.workingDirectory

/-- So is one whose first component stands for the home directory. -/
theorem IsNormal.expandHome
    (normal : files.IsNormal)
    (isNormal : path.IsNormal)
    {expanded : Path}
    (isExpanded : path.expandHome files.homeDirectory = .ok expanded) :
    expanded.IsNormal := by
  unfold Path.expandHome at isExpanded
  split at isExpanded
  next first rest _ shape =>
    split at isExpanded
    · obtain rfl := Except.ok.inj isExpanded
      intro component member
      rcases List.mem_append.mp member with inHome | inRest
      · exact normal.homeDirectory component inHome
      · exact isNormal component (by rw [shape]; exact List.mem_cons_of_mem _ inRest)
    · split at isExpanded
      · split at isExpanded <;> simp at isExpanded
      · obtain rfl := Except.ok.inj isExpanded
        exact isNormal
  next =>
    obtain rfl := Except.ok.inj isExpanded
    exact isNormal

/-- And so is the file that an inclusion in a file of such a path names. -/
theorem IsNormal.resolveInclude
    (normal : files.IsNormal)
    {name : String}
    {including : Option Path}
    {includePaths : List String}
    (isNormal : ∀ source ∈ including, source.IsNormal)
    (named : files.resolveInclude name including includePaths = .ok path) :
    path.IsNormal := by
  unfold FileTree.resolveInclude at named
  split at named
  · simp at named
  next requested expanded =>
    obtain rfl := Except.ok.inj named
    have requestedIsNormal := normal.expandHome (Path.isNormal_ofText name) expanded
    have areNormal :
        ∀ place ∈ files.includePlaces requested including includePaths, place.IsNormal := by
      unfold FileTree.includePlaces
      split
      · simpa using requestedIsNormal
      · rw [List.forall_mem_cons]
        constructor
        · cases including with
          | none => exact Path.IsNormal.join normal.workingDirectory requestedIsNormal
          | some source => exact (isNormal source rfl).parent.join requestedIsNormal
        · intro place member
          obtain ⟨directory, -, rfl⟩ := List.mem_map.mp member
          exact (Path.isNormal_ofText directory).join requestedIsNormal
    unfold FileTree.firstFile
    cases found : (files.includePlaces requested including includePaths).find? files.isFile with
    | some place => exact areNormal place (List.mem_of_find?_eq_some found)
    | none =>
        cases places : files.includePlaces requested including includePaths with
        | nil => exact requestedIsNormal
        | cons first rest => exact areNormal first (by simp [places])

end FileTree

end DocMarkup

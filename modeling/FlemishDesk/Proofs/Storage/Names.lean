import FlemishDesk.Storage.Path

/-!
# The names of a path

The steps of a path are its names without the single dots, which lead nowhere.  Trimming
a path keeps its steps, and the parent of a path has all of its steps but the last one.
So the paths of the directories that a path lies in have beginnings of its steps.
-/

namespace FlemishDesk
namespace Storage
namespace Path

/-- Names without the single dots, which lead nowhere. -/
def withoutDots (names : List Name) : List Name :=
  names.filter (· != [dot])

/-- The names of a path that lead somewhere else. -/
def steps (path : Path) : List Name :=
  withoutDots (names path)

@[simp] theorem withoutDots_nil : withoutDots [] = [] := rfl

theorem withoutDots_append (first second : List Name) :
    withoutDots (first ++ second) = withoutDots first ++ withoutDots second :=
  List.filter_append first second

@[simp] theorem withoutDots_cons_dot (names : List Name) :
    withoutDots ([dot] :: names) = withoutDots names := rfl

theorem withoutDots_cons_of_ne
    {name : Name}
    (noDot : name ≠ [dot])
    (names : List Name) :
    withoutDots (name :: names) = name :: withoutDots names :=
  List.filter_cons_of_pos (by simpa using noDot)

theorem mem_withoutDots {name : Name} {names : List Name} :
    name ∈ withoutDots names ↔ name ∈ names ∧ name ≠ [dot] := by
  simp [withoutDots]

theorem withoutDots_eq_self
    {names : List Name}
    (noDot : ∀ name ∈ names, name ≠ [dot]) :
    withoutDots names = names :=
  List.filter_eq_self.mpr fun name present => by simpa using noDot name present

/-! ## Names -/

theorem pieces_ne_nil (path : Path) : pieces path ≠ [] := by
  induction path with
  | nil => simp [pieces]
  | cons byte rest inductionHypothesis =>
      rw [pieces]
      split
      · simp
      · simpa using inductionHypothesis

/-- A slash ends a piece, wherever it stands. -/
theorem pieces_append_slash (left right : Path) :
    pieces (left ++ slash :: right) = pieces left ++ pieces right := by
  induction left with
  | nil => simp [pieces]
  | cons byte rest inductionHypothesis =>
      rw [List.cons_append, pieces, pieces, inductionHypothesis]
      split
      · rfl
      · obtain ⟨first, others, isPieces⟩ :=
          List.exists_cons_of_ne_nil (pieces_ne_nil rest)
        rw [isPieces]
        rfl

theorem pieces_of_not_mem {name : Name} (noSlash : slash ∉ name) :
    pieces name = [name] := by
  induction name with
  | nil => rfl
  | cons byte rest inductionHypothesis =>
      obtain ⟨different, noSlash⟩ := not_or.mp (mt List.mem_cons.mpr noSlash)
      rw [pieces, if_neg (by simpa using Ne.symm different), inductionHypothesis noSlash]
      rfl

theorem names_append_slash (left right : Path) :
    names (left ++ slash :: right) = names left ++ names right := by
  rw [names, pieces_append_slash, List.filter_append]
  rfl

theorem names_of_not_mem {name : Name} (nonempty : name ≠ []) (noSlash : slash ∉ name) :
    names name = [name] := by
  rw [names, pieces_of_not_mem noSlash]
  simp [nonempty]

@[simp] theorem names_nil : names [] = [] := rfl

/-- The names of a path below a directory. -/
theorem names_below
    {name : Name}
    (nonempty : name ≠ [])
    (noSlash : slash ∉ name)
    (directory : Path) :
    names (below directory name) = names directory ++ [name] := by
  rw [below]
  split
  · next closed =>
      simp only [Bool.or_eq_true, List.isEmpty_iff, endsInSlash, beq_iff_eq] at closed
      rcases closed with rfl | ends
      · rw [List.nil_append, names_nil, names_of_not_mem nonempty noSlash,
          List.nil_append]
      · obtain ⟨start, rfl⟩ := List.getLast?_eq_some_iff.mp ends
        rw [List.append_assoc, List.singleton_append, names_append_slash,
          names_append_slash, names_nil, List.append_nil,
          names_of_not_mem nonempty noSlash]
  · rw [names_append_slash, names_of_not_mem nonempty noSlash]

/-- A path below a directory starts like that of the directory. -/
theorem head?_below
    {directory : Path}
    (nonempty : directory ≠ [])
    (name : Name) :
    (below directory name).head? = directory.head? := by
  obtain ⟨byte, others, rfl⟩ := List.exists_cons_of_ne_nil nonempty
  rw [below]
  split <;> rfl

theorem steps_append_slash (left right : Path) :
    steps (left ++ slash :: right) = steps left ++ steps right := by
  rw [steps, names_append_slash, withoutDots_append]
  rfl

@[simp] theorem steps_nil : steps [] = [] := by
  rw [steps, names_nil, withoutDots_nil]

@[simp] theorem steps_dot : steps [dot] = [] := by
  rw [steps, names_of_not_mem (by simp) (by decide), withoutDots_cons_dot,
    withoutDots_nil]

theorem steps_concat_slash (path : Path) : steps (path ++ [slash]) = steps path := by
  rw [steps_append_slash, steps_nil, List.append_nil]

/-! ## Trimming -/

/-- Trimming keeps the steps. -/
theorem steps_trimmed (path : Path) : steps (trimmed path) = steps path := by
  have kept (backwards : Path) :
      steps (trimBackwards backwards).reverse = steps backwards.reverse := by
    fun_induction trimBackwards backwards with
    | case1 first second rest dropped inductionHypothesis =>
        rw [inductionHypothesis]
        simp only [Bool.or_eq_true, Bool.and_eq_true, beq_iff_eq] at dropped
        rcases dropped with rfl | ⟨rfl, rfl⟩
        · rw [List.reverse_cons (a := slash), steps_concat_slash]
        · have isPath : (dot :: slash :: rest).reverse =
              rest.reverse ++ slash :: [dot] := by simp
          rw [isPath, steps_append_slash, steps_dot, List.append_nil, List.reverse_cons,
            steps_concat_slash]
    | case2 => rfl
    | case3 => rfl
  rw [trimmed, kept, List.reverse_reverse]

/-- Trimming keeps the first byte. -/
theorem head?_trimmed (path : Path) : (trimmed path).head? = path.head? := by
  have kept (backwards : Path) :
      (trimBackwards backwards).getLast? = backwards.getLast? := by
    fun_induction trimBackwards backwards with
    | case1 first second rest _ inductionHypothesis =>
        rw [inductionHypothesis, List.getLast?_cons_cons]
    | case2 => rfl
    | case3 => rfl
  rw [trimmed, List.head?_reverse, kept, List.getLast?_reverse]

/-- A trimmed path is the root, or it does not end in a slash, nor in a slash and a
dot. -/
theorem trimBackwards_cases (backwards : Path) :
    trimBackwards backwards = [slash] ∨
      (trimBackwards backwards).head? ≠ some slash ∧
        ¬ [dot, slash] <+: trimBackwards backwards := by
  fun_induction trimBackwards backwards with
  | case1 first second rest _ inductionHypothesis => exact inductionHypothesis
  | case2 first second rest kept =>
      simp only [Bool.or_eq_true, Bool.and_eq_true, beq_iff_eq, not_or] at kept
      refine Or.inr ⟨by simpa using kept.1, ?_⟩
      rintro ⟨others, isPath⟩
      simp only [List.cons_append, List.cons.injEq] at isPath
      exact kept.2 ⟨isPath.1.symm, isPath.2.1.symm⟩
  | case3 path short =>
      match path, short with
      | [], _ => simp
      | [byte], _ =>
          by_cases root : byte = slash
          · exact Or.inl (by rw [root])
          · refine Or.inr ⟨by simpa using root, ?_⟩
            rintro ⟨others, isPath⟩
            simp at isPath
      | first :: second :: rest, short => exact absurd rfl (short first second rest)

/-! ## Parents -/

/-- What stands behind the last slash of a path without trailing slashes and dots. -/
def lastName (path : Path) : Name :=
  ((trimmed path).reverse.takeWhile (· != slash)).reverse

theorem slash_not_mem_lastName (path : Path) : slash ∉ lastName path := by
  intro present
  have kept := List.all_eq_true.mp List.all_takeWhile _ (List.mem_reverse.mp present)
  simp at kept

theorem fileName?_eq (path : Path) :
    fileName? path =
      if (lastName path).isEmpty || isDots (lastName path) then none
      else some (lastName path) :=
  rfl

/-- A path is its last name alone, or it is the path of its parent, a slash and its last
name. -/
theorem parent?_cases {path parent : Path} (found : parent? path = some parent) :
    lastName path ≠ [] ∧
      (trimmed path = lastName path ∧ parent = [] ∨
        ∃ front, trimmed path = front ++ slash :: lastName path ∧
          parent = trimmed (front ++ [slash]) ∧ lastName path ≠ [dot]) := by
  simp only [parent?, Option.ite_none_left_eq_some, Bool.or_eq_true, not_or,
    List.isEmpty_iff, beq_iff_eq, Option.some.injEq] at found
  obtain ⟨⟨nonempty, noRoot⟩, isParent⟩ := found
  have split :=
    List.takeWhile_append_dropWhile (p := (· != slash)) (l := (trimmed path).reverse)
  have ends : (trimmed path).reverse.head? ≠ some slash ∧
      ¬ [dot, slash] <+: (trimmed path).reverse := by
    rw [trimmed, List.reverse_reverse]
    exact (trimBackwards_cases path.reverse).resolve_left fun root =>
      noRoot (by rw [trimmed, root]; rfl)
  have name : (trimmed path).reverse.takeWhile (· != slash) =
      (lastName path).reverse := by
    rw [lastName, List.reverse_reverse]
  rw [name] at split
  cases rest : (trimmed path).reverse.dropWhile (· != slash) with
  | nil =>
      rw [rest, List.append_nil, List.reverse_inj] at split
      rw [rest] at isParent
      exact ⟨fun empty => nonempty (by rw [← split, empty]),
        Or.inl ⟨split.symm, isParent.symm⟩⟩
  | cons mark front =>
      have isSlash : mark = slash := by
        have stopped := List.head?_dropWhile_not (· != slash) (trimmed path).reverse
        rw [rest] at stopped
        simpa using stopped
      subst isSlash
      rw [rest] at split isParent
      refine ⟨?_, Or.inr ⟨front.reverse, ?_, ?_, ?_⟩⟩
      · intro empty
        rw [empty] at split
        exact ends.1 (by rw [← split]; rfl)
      · rw [← List.reverse_reverse (trimmed path), ← split]
        simp
      · rw [← isParent, List.reverse_cons]
      · intro dot
        rw [dot] at split
        exact ends.2 ⟨front, split⟩

/-- The steps of a path are those of its parent and its last name. -/
theorem steps_of_parent? {path parent : Path} (found : parent? path = some parent) :
    steps path = steps parent ++ steps (lastName path) := by
  rw [← steps_trimmed path]
  obtain ⟨isName, rfl⟩ | ⟨front, isPath, rfl, _⟩ := (parent?_cases found).2
  · rw [steps_nil, List.nil_append]
    exact congrArg steps isName
  · rw [isPath, steps_append_slash, steps_trimmed, steps_concat_slash]

/-- A path starts at the root if its parent does. -/
theorem isAbsolute_of_parent? {path parent : Path} (found : parent? path = some parent) :
    isAbsolute parent = isAbsolute path := by
  rw [isAbsolute, isAbsolute, ← head?_trimmed path]
  obtain ⟨isName, rfl⟩ | ⟨front, isPath, rfl, _⟩ := (parent?_cases found).2
  · cases first : (trimmed path).head? with
    | none => rfl
    | some c =>
        have present : c ∈ lastName path := isName ▸ List.mem_of_head? first
        have different : c ≠ slash := fun same =>
          slash_not_mem_lastName path (same ▸ present)
        simp [different]
  · rw [head?_trimmed, isPath, List.head?_append, List.head?_append]
    rfl

/-- The paths of the directories that a path lies in start like it. -/
theorem steps_of_mem_ancestors
    {path ancestor : Path}
    (present : ancestor ∈ ancestors path) :
    steps ancestor <+: steps path ∧ isAbsolute ancestor = isAbsolute path := by
  rw [ancestors] at present
  generalize path.length = count at present
  induction count generalizing path with
  | zero => cases present
  | succ count inductionHypothesis =>
      rw [ancestorsUpTo] at present
      cases found : parent? path with
      | none =>
          rw [found] at present
          cases present
      | some parent =>
          rw [found] at present
          rcases List.mem_cons.mp present with rfl | above
          · exact ⟨List.prefix_rfl, rfl⟩
          · obtain ⟨start, sameRoot⟩ := inductionHypothesis above
            rw [steps_of_parent? found, ← isAbsolute_of_parent? found]
            exact ⟨start.trans (List.prefix_append _ _), sameRoot⟩

theorem steps_lastName
    {path : Path}
    (nonempty : lastName path ≠ [])
    (noDot : lastName path ≠ [dot]) :
    steps (lastName path) = [lastName path] := by
  rw [steps, names_of_not_mem nonempty (slash_not_mem_lastName path),
    withoutDots_cons_of_ne noDot, withoutDots_nil]

/-- A path that names nothing has no steps. -/
theorem steps_of_parent?_eq_none {path : Path} (missing : parent? path = none) :
    steps path = [] := by
  simp only [parent?] at missing
  split at missing
  · next namesNothing =>
      simp only [Bool.or_eq_true, List.isEmpty_iff, beq_iff_eq] at namesNothing
      rw [← steps_trimmed path]
      rcases namesNothing with empty | root
      · rw [empty, steps_nil]
      · rw [root]
        exact (steps_concat_slash []).trans steps_nil
  · cases missing

end Path
end Storage
end FlemishDesk

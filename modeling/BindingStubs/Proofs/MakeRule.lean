import BindingStubs.MakeRule
import BindingStubs.Proofs.Text.Replacing

namespace BindingStubs.MakeRule

/-!
# Dependency rules read back

A rule is read in three passes: lines that a backslash continues are joined, the colon behind the
target is looked for, and the paths behind it are separated.  What is written for a path is opaque
to the first two passes, and the third gives the path back, because no blank in it stands without a
backslash and its last character escapes nothing of what follows.
-/

/-- Whether a rule can name a path: no white space but the space can be escaped, and a backslash at
the end would escape what follows. -/
structure IsNameable
    (path : List Char) :
    Prop where
  blank_eq : ∀ character ∈ path, Text.isWhite character = true → character = ' '
  last_ne : path.getLast? ≠ some '\\'

instance
    (path : List Char) :
    Decidable (IsNameable path) :=
  decidable_of_iff
    (path.all (fun character => decide (Text.isWhite character = true → character = ' ')) = true ∧
      path.getLast? ≠ some '\\')
    (by
      simp only [List.all_eq_true, decide_eq_true_eq]
      exact ⟨fun parts => ⟨parts.1, parts.2⟩, fun nameable =>
        ⟨nameable.blank_eq, nameable.last_ne⟩⟩)

namespace IsNameable

variable {path : List Char}

theorem tail
    {first : Char}
    (nameable : IsNameable (first :: path)) :
    IsNameable path := by
  refine ⟨fun character member => nameable.blank_eq character (.tail _ member), fun last => ?_⟩
  exact nameable.last_ne (by rw [List.getLast?_cons, last]; rfl)

/-- The last character of a path is no backslash, so another one follows a backslash. -/
theorem ne_nil_of_backslash
    (nameable : IsNameable ('\\' :: path)) :
    path ≠ [] := by
  rintro rfl
  exact nameable.last_ne rfl

theorem isWhite_eq_false
    {first : Char}
    (nameable : IsNameable (first :: path))
    (notSpace : first ≠ ' ') :
    Text.isWhite first = false :=
  Bool.eq_false_iff.mpr fun white => notSpace (nameable.blank_eq first (.head _) white)

theorem newline_not_mem
    (nameable : IsNameable path) :
    '\n' ∉ path := fun member =>
  absurd (nameable.blank_eq _ member (by decide)) (by decide)

theorem carriageReturn_not_mem
    (nameable : IsNameable path) :
    '\r' ∉ path := fun member =>
  absurd (nameable.blank_eq _ member (by decide)) (by decide)

end IsNameable

/-! ## What is written for a path -/

section Escape

variable {path : List Char}

theorem escape_cons
    (first : Char)
    (path : List Char) :
    escape (first :: path) = escapeCharacter first ++ escape path :=
  rfl

/-- Escaping brings in backslashes and doubles characters, and nothing else. -/
theorem mem_of_mem_escape
    {character : Char}
    (member : character ∈ escape path)
    (notBackslash : character ≠ '\\') :
    character ∈ path := by
  obtain ⟨source, inPath, written⟩ := List.mem_flatMap.mp member
  suffices character = source from this ▸ inPath
  rw [escapeCharacter] at written
  split at written
  · simp_all
  · split at written
    · simp_all
    · split at written <;> simp_all

theorem getLast?_escape
    (path : List Char) :
    (escape path).getLast? = path.getLast? := by
  induction path with
  | nil => rfl
  | cons first path inductionHypothesis =>
      have own : (escapeCharacter first).getLast? = some first := by
        rw [escapeCharacter]
        split
        · simp_all
        · split
          · simp_all
          · split <;> simp_all
      rw [escape_cons, List.getLast?_append, inductionHypothesis, own, List.getLast?_cons]
      cases path.getLast? <;> rfl

/-- What is written for a path begins with no blank, and with no character that a backslash before
it would escape. -/
theorem head_escape_append
    (nameable : IsNameable path)
    (notEmpty : path ≠ [])
    (rest : List Char) :
    ∃ first others,
      escape path ++ rest = first :: others ∧
        Text.isWhite first = false ∧ first ≠ ' ' ∧ first ≠ '#' := by
  obtain ⟨first, path, rfl⟩ := List.exists_cons_of_ne_nil notEmpty
  rw [escape_cons, escapeCharacter]
  split
  · exact ⟨'\\', _, rfl, by decide, by decide, by decide⟩
  · rename_i notSpace
    split
    · exact ⟨'\\', _, rfl, by decide, by decide, by decide⟩
    · rename_i notHash
      split
      · exact ⟨'$', _, rfl, by decide, by decide, by decide⟩
      · exact ⟨first, _, rfl, nameable.isWhite_eq_false notSpace, notSpace, notHash⟩

end Escape

/-! ## Joining lines -/

/-- Joining goes past a text without line feeds that does not end in a backslash. -/
theorem replaceContinuation_append
    {passed : List Char}
    (noNewline : '\n' ∉ passed)
    (last : passed.getLast? ≠ some '\\')
    (rest : List Char) :
    Text.replaceAll ['\\', '\n'] [' '] (passed ++ rest) =
      passed ++ Text.replaceAll ['\\', '\n'] [' '] rest := by
  induction passed with
  | nil => rfl
  | cons first passed inductionHypothesis =>
      have apart : List.isPrefixOf ['\\', '\n'] (first :: (passed ++ rest)) = false := by
        rw [Bool.eq_false_iff]
        intro isPrefix
        obtain ⟨after, whole⟩ := List.isPrefixOf_iff_prefix.mp isPrefix
        obtain ⟨rfl, behind⟩ := List.cons.inj whole
        cases passed with
        | nil => exact last rfl
        | cons second passed =>
            obtain ⟨rfl, _⟩ := List.cons.inj behind
            exact noNewline (.tail _ (.head _))
      have lastBehind : passed.getLast? ≠ some '\\' := fun isLast =>
        last (by rw [List.getLast?_cons, isLast]; rfl)
      rw [List.cons_append, Text.replaceAll_cons_of_mismatch [' '] apart,
        inductionHypothesis (fun member => noNewline (.tail _ member)) lastBehind]
      rfl

/-- The dependencies on one line: four blanks before each. -/
def joinedDependencies
    (dependencies : List (List Char)) :
    List Char :=
  dependencies.flatMap fun path => "    ".toList ++ escape path

theorem not_mem_escape
    {path : List Char}
    {character : Char}
    (missing : character ∉ path)
    (notBackslash : character ≠ '\\') :
    character ∉ escape path := fun member =>
  missing (mem_of_mem_escape member notBackslash)

theorem replaceContinuation_dependencies
    {dependencies : List (List Char)}
    (nameable : ∀ path ∈ dependencies, IsNameable path)
    (rest : List Char) :
    Text.replaceAll ['\\', '\n'] [' ']
        (dependencies.flatMap (fun path => " \\\n  ".toList ++ escape path) ++ rest) =
      joinedDependencies dependencies ++ Text.replaceAll ['\\', '\n'] [' '] rest := by
  induction dependencies with
  | nil => rfl
  | cons path dependencies inductionHypothesis =>
      obtain ⟨first, others⟩ := List.forall_mem_cons.mp nameable
      have noNewline : '\n' ∉ [' ', ' '] ++ escape path := by
        simpa using not_mem_escape first.newline_not_mem (by decide)
      have last : ([' ', ' '] ++ escape path).getLast? ≠ some '\\' := by
        rw [List.getLast?_append, getLast?_escape]
        cases isLast : path.getLast? with
        | none => decide
        | some character =>
            rw [Option.some_or, ← isLast]
            exact first.last_ne
      calc
        _ = Text.replaceAll ['\\', '\n'] [' '] ([' '] ++ (['\\', '\n'] ++
              (([' ', ' '] ++ escape path) ++ (dependencies.flatMap
                (fun path => " \\\n  ".toList ++ escape path) ++ rest)))) := by
            simp
        _ = [' '] ++ ([' '] ++ (([' ', ' '] ++ escape path) ++
              (joinedDependencies dependencies ++
                Text.replaceAll ['\\', '\n'] [' '] rest))) := by
            rw [replaceContinuation_append (by decide) (by decide), Text.replaceAll_append_self,
              replaceContinuation_append noNewline last, inductionHypothesis others]
        _ = _ := by simp [joinedDependencies]

/-- Joining the lines of a written rule leaves one line. -/
theorem joinContinued_render
    {target : List Char}
    {dependencies : List (List Char)}
    (nameableTarget : IsNameable target)
    (nameable : ∀ path ∈ dependencies, IsNameable path) :
    joinContinued (render target dependencies) =
      escape target ++ ':' :: joinedDependencies dependencies ++ ['\n'] := by
  have noReturn : '\r' ∉ render target dependencies := by
    have inPath {path : List Char} (nameable : IsNameable path) : '\r' ∉ escape path :=
      not_mem_escape nameable.carriageReturn_not_mem (by decide)
    simp only [render, List.mem_append, List.mem_cons, List.mem_flatMap, not_or, not_exists,
      not_and]
    exact ⟨⟨inPath nameableTarget, by decide, fun path member =>
      ⟨by decide, inPath (nameable path member)⟩⟩, by decide⟩
  have noNewline : '\n' ∉ escape target ++ [':'] := by
    simpa using not_mem_escape nameableTarget.newline_not_mem (by decide)
  rw [joinContinued, Text.replaceAll_of_not_mem [' '] (by decide) noReturn]
  calc
    _ = Text.replaceAll ['\\', '\n'] [' '] ((escape target ++ [':']) ++
          (dependencies.flatMap (fun path => " \\\n  ".toList ++ escape path) ++ ['\n'])) := by
        simp [render]
    _ = (escape target ++ [':']) ++ (joinedDependencies dependencies ++
          Text.replaceAll ['\\', '\n'] [' '] ['\n']) := by
        rw [replaceContinuation_append noNewline (by simp),
          replaceContinuation_dependencies nameable]
    _ = _ := by
        simp [Text.replaceAll, Text.replaceAfter, List.isPrefixOf]

/-- The joined line is the first one that is not blank. -/
theorem line_render
    {target : List Char}
    {dependencies : List (List Char)}
    (nameableTarget : IsNameable target)
    (nameable : ∀ path ∈ dependencies, IsNameable path) :
    (Text.lines (joinContinued (render target dependencies))).find?
        (fun line => !Text.isBlank line) =
      some (escape target ++ ':' :: joinedDependencies dependencies) := by
  have missing (character : Char)
      (white : Text.isWhite character = true)
      (notSpace : character ≠ ' ')
      (notBackslash : character ≠ '\\')
      (notColon : character ≠ ':') :
      character ∉ escape target ++ ':' :: joinedDependencies dependencies := by
    have inPath {path : List Char} (nameable : IsNameable path) : character ∉ escape path :=
      not_mem_escape (fun member => notSpace (nameable.blank_eq _ member white)) notBackslash
    simp only [joinedDependencies, List.mem_append, List.mem_cons, List.mem_flatMap, not_or,
      not_exists, not_and]
    exact ⟨inPath nameableTarget, notColon, fun path member =>
      ⟨by simpa using notSpace, inPath (nameable path member)⟩⟩
  have noNewline := missing '\n' (by decide) (by decide) (by decide) (by decide)
  have noReturn := missing '\r' (by decide) (by decide) (by decide) (by decide)
  have notBlank : Text.isBlank (escape target ++ ':' :: joinedDependencies dependencies) = false :=
    List.all_eq_false.mpr ⟨':', by simp, by decide⟩
  rw [joinContinued_render nameableTarget nameable]
  generalize escape target ++ ':' :: joinedDependencies dependencies = line at *
  have kept : Text.dropCarriageReturn line = line := by
    rw [Text.dropCarriageReturn]
    cases found : List.isSuffixOf? ['\r'] line with
    | none => rfl
    | some before =>
        have whole := Text.append_eq_of_isSuffixOf? found
        exact absurd (whole ▸ by simp) noReturn
  rw [Text.lines, List.splitOn_append_cons_self, List.splitOn_eq_singleton noNewline,
    List.splitOn_nil]
  simp [Text.linesOfPieces, kept, notBlank]

/-! ## Finding the separator -/

theorem afterSeparator?_cons_of_ne
    {character : Char}
    (noColon : character ≠ ':')
    (escaped : Bool)
    (rest : List Char) :
    afterSeparator? escaped (character :: rest) = afterSeparator? (character == '\\') rest := by
  cases rest <;> simp [afterSeparator?, noColon]

/-- A colon inside a word is passed. -/
theorem afterSeparator?_cons_of_word
    {next : Char}
    (inWord : Text.isWhite next = false)
    (escaped : Bool)
    (character : Char)
    (rest : List Char) :
    afterSeparator? escaped (character :: next :: rest) =
      afterSeparator? (character == '\\') (next :: rest) := by
  rw [afterSeparator?]
  simp [inWord]

/-- The colon behind the target is the first that ends a word and is not escaped. -/
theorem afterSeparator?_escape
    {target : List Char}
    (nameable : IsNameable target)
    {rest : List Char}
    (ends : ∀ character ∈ rest.head?, Text.isWhite character = true)
    {escaped : Bool}
    (unescaped : target = [] → escaped = false) :
    afterSeparator? escaped (escape target ++ ':' :: rest) = some rest := by
  induction target generalizing escaped with
  | nil =>
      rw [unescaped rfl]
      cases rest with
      | nil => rfl
      | cons next rest => simp [escape, afterSeparator?, ends next rfl]
  | cons first target inductionHypothesis =>
      have behind {escaped : Bool} := @inductionHypothesis nameable.tail escaped
      rw [escape_cons, escapeCharacter, List.append_assoc]
      split
      · rw [List.cons_append, List.cons_append, afterSeparator?_cons_of_ne (by decide),
          afterSeparator?_cons_of_ne (by decide)]
        exact behind fun _ => rfl
      · split
        · rw [List.cons_append, List.cons_append, afterSeparator?_cons_of_ne (by decide),
            afterSeparator?_cons_of_ne (by decide)]
          exact behind fun _ => rfl
        · split
          · rw [List.cons_append, List.cons_append, afterSeparator?_cons_of_ne (by decide),
              afterSeparator?_cons_of_ne (by decide)]
            exact behind fun _ => rfl
          · obtain ⟨next, others, begins, inWord⟩ :
                ∃ next others,
                  escape target ++ ':' :: rest = next :: others ∧ Text.isWhite next = false := by
              cases target with
              | nil => exact ⟨':', rest, rfl, by decide⟩
              | cons second target =>
                  obtain ⟨next, others, begins, inWord, _⟩ :=
                    head_escape_append nameable.tail (List.cons_ne_nil _ _) (':' :: rest)
                  exact ⟨next, others, begins, inWord⟩
            rw [begins] at behind ⊢
            rw [List.singleton_append, afterSeparator?_cons_of_word inWord]
            refine behind fun noMore => Bool.eq_false_iff.mpr fun isBackslash => ?_
            rw [eq_of_beq isBackslash] at nameable
            exact nameable.ne_nil_of_backslash noMore

/-! ## Separating the paths -/

theorem readPaths_blank
    (current rest : List Char) :
    readPaths current (' ' :: rest) = closePath current.reverse (readPaths [] rest) := by
  rw [readPaths]
  · rfl
  all_goals simp

/-- A character that is not blank and begins no escape belongs to the path. -/
theorem readPaths_cons
    {character : Char}
    (notWhite : Text.isWhite character = false)
    (notDollar : character ≠ '$')
    {rest : List Char}
    (escapesNothing : character = '\\' → ∀ next ∈ rest.head?, next ≠ ' ' ∧ next ≠ '#')
    (current : List Char) :
    readPaths current (character :: rest) = readPaths (character :: current) rest := by
  rw [readPaths.eq_def]
  split
  · simp_all
  · simp_all
  · simp_all
  · simp_all
  · rename_i other _ _ _ _ same
    obtain ⟨rfl, rfl⟩ := List.cons.inj same
    rw [notWhite]
    rfl

/-- What is written for a path is read as the path. -/
theorem readPaths_escape
    {path : List Char}
    (nameable : IsNameable path)
    (current rest : List Char) :
    readPaths current (escape path ++ rest) = readPaths (path.reverse ++ current) rest := by
  induction path generalizing current with
  | nil => rfl
  | cons first path inductionHypothesis =>
      rw [escape_cons, escapeCharacter, List.append_assoc, List.reverse_cons, List.append_assoc,
        List.singleton_append, ← inductionHypothesis nameable.tail]
      split
      · rename_i isSpace
        rw [isSpace]
        rfl
      · rename_i notSpace
        split
        · rename_i isHash
          rw [isHash]
          rfl
        · split
          · rename_i isDollar
            rw [isDollar]
            rfl
          · rename_i notDollar
            refine readPaths_cons (nameable.isWhite_eq_false notSpace) notDollar ?_ current
            rintro rfl next isNext
            obtain ⟨begins, others, isBegin, _, apart⟩ :=
              head_escape_append nameable.tail nameable.ne_nil_of_backslash rest
            rw [isBegin] at isNext
            exact Option.some.inj isNext ▸ apart

/-- The paths behind the separator are read one by one; before the first, another one may have
begun. -/
theorem readPaths_joinedDependencies
    {dependencies : List (List Char)}
    (nameable : ∀ path ∈ dependencies, IsNameable path)
    (notEmpty : [] ∉ dependencies)
    (current : List Char) :
    readPaths current (joinedDependencies dependencies) =
      closePath current.reverse dependencies := by
  induction dependencies generalizing current with
  | nil => rfl
  | cons path dependencies inductionHypothesis =>
      obtain ⟨first, others⟩ := List.forall_mem_cons.mp nameable
      have pathNotEmpty : path ≠ [] := fun isEmpty => notEmpty (isEmpty ▸ .head _)
      have behind := inductionHypothesis others fun member => notEmpty (.tail _ member)
      have isLine : joinedDependencies (path :: dependencies) =
          ' ' :: ' ' :: ' ' :: ' ' :: (escape path ++ joinedDependencies dependencies) :=
        rfl
      rw [isLine, readPaths_blank, readPaths_blank, readPaths_blank, readPaths_blank,
        readPaths_escape first, behind]
      simp [closePath, pathNotEmpty]

/-! ## Reading a rule back -/

theorem parse_render
    {target : List Char}
    {dependencies : List (List Char)}
    (nameableTarget : IsNameable target)
    (nameable : ∀ path ∈ dependencies, IsNameable path)
    (notEmpty : [] ∉ dependencies) :
    parse (render target dependencies) = dependencies := by
  have ends : ∀ character ∈ (joinedDependencies dependencies).head?,
      Text.isWhite character = true := by
    cases dependencies with
    | nil => exact nofun
    | cons path dependencies =>
        rintro character isFirst
        obtain rfl : ' ' = character := Option.some.inj isFirst
        decide
  rw [parse, line_render nameableTarget nameable]
  simp only [Option.getD_some, afterSeparator?_escape nameableTarget ends fun _ => rfl,
    readPaths_joinedDependencies nameable notEmpty]
  rfl

/--
The dependencies of a written rule are read back in order: no path is empty, and none, nor the
target, holds white space other than spaces or ends in a backslash.
-/
theorem dependencies_text
    {target : String}
    {paths : List String}
    (nameableTarget : IsNameable target.toList)
    (nameable : ∀ path ∈ paths, IsNameable path.toList)
    (notEmpty : "" ∉ paths) :
    dependencies (text target paths) = paths := by
  have noneEmpty : [] ∉ paths.map String.toList := by
    intro member
    obtain ⟨path, inPaths, isEmpty⟩ := List.mem_map.mp member
    exact notEmpty (String.toList_eq_nil_iff.mp isEmpty ▸ inPaths)
  have areNameable : ∀ path ∈ paths.map String.toList, IsNameable path := by
    simpa using nameable
  rw [dependencies, text, String.toList_ofList,
    parse_render nameableTarget areNameable noneEmpty, List.map_map]
  simp

/-- Colons before escaped spaces, backslashes before every escape, and doubled dollars at the ends
of paths. -/
theorem dependencies_text_of_special_characters :
    let target := "C:\\out: dir\\v\\:"
    let paths := ["a\\ b\\#$", ": ", "$$\\$", "#\\\\x ", ":"]
    IsNameable target.toList ∧
      (∀ path ∈ paths, IsNameable path.toList) ∧
      "" ∉ paths ∧
      dependencies (text target paths) = paths := by
  intro target paths
  have nameableTarget : IsNameable target.toList := by decide +kernel
  have nameable : ∀ path ∈ paths, IsNameable path.toList := by decide +kernel
  have notEmpty : "" ∉ paths := by decide
  exact ⟨nameableTarget, nameable, notEmpty, dependencies_text nameableTarget nameable notEmpty⟩

end BindingStubs.MakeRule

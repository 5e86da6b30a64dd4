import BindingStubs.Proofs.CppType.Brackets
import BindingStubs.Proofs.CppType.Weight
import Mathlib.Algebra.Ring.Int.Defs
import Mathlib.Algebra.Ring.Nat

namespace BindingStubs.OffsetReader

/-!
# Reading types by byte offsets

`CppType.parse` takes spellings apart as lists of characters.  The reader of this module goes over
their bytes instead: it cuts pieces out at byte offsets, counts brackets in counters of a limited
range, and repeats its loops until the text stays as it is.  A cut inside a character, a counter
that leaves its range and a loop that does not end are hazards.  No spelling with fewer than
`2 ^ 31` characters runs into one, whatever its brackets, and what is read is what `CppType.parse`
reads.
-/

/-! ## The reader -/

/-- What can go wrong while a spelling is read. -/
inductive Hazard where
  /-- A cut at an offset at which no character begins. -/
  | insideCharacter
  /-- An unsigned counter below zero. -/
  | belowZero
  /-- A signed counter outside its 32 bits. -/
  | outOfRange
  /-- A loop or a recursion that takes more rounds than it is given. -/
  | endless
  deriving Repr, DecidableEq

/-- The number of bytes of a text in UTF-8. -/
def byteCount
    (text : List Char) :
    Nat :=
  (text.map Char.utf8Size).sum

/-- Cut a text at a byte offset, at which a character begins or the text ends. -/
def cut :
    (offset : Nat) → (text : List Char) → Except Hazard (List Char × List Char)
  | 0, text => .ok ([], text)
  | _ + 1, [] => .error .insideCharacter
  | offset + 1, character :: rest =>
      if character.utf8Size ≤ offset + 1 then
        (cut (offset + 1 - character.utf8Size) rest).map fun parts =>
          (character :: parts.1, parts.2)
      else .error .insideCharacter

/-- The part of a text between two byte offsets. -/
def slice
    (text : List Char)
    (start stop : Nat) :
    Except Hazard (List Char) := do
  let front ← cut stop text
  let parts ← cut start front.1
  return parts.2

/-- The characters of a text with the offsets at which they begin. -/
def positions : (offset : Nat) → List Char → List (Nat × Char)
  | _, [] => []
  | offset, character :: rest =>
      (offset, character) :: positions (offset + character.utf8Size) rest

/-- Repeat a step until it leaves the text of the state as it is. -/
def settle
    {State : Type}
    (text : State → List Char)
    (step : State → State) :
    (rounds : Nat) → State → Except Hazard State
  | 0, _ => .error .endless
  | rounds + 1, state =>
      if text (step state) = text state then .ok (step state)
      else settle text step rounds (step state)

/-- One round that drops decorations from the end and counts the pointer marks. -/
def dropMarksOnce
    (state : List Char × Nat) :
    List Char × Nat :=
  let shorter := Spelling.dropPointerMark (Spelling.dropSuffixesOnce state.1)
  (shorter.1, state.2 + shorter.2)

/-- Drop the decorations at both ends of a spelling. -/
def strip
    (rounds : Nat)
    (text : List Char) :
    Except Hazard (List Char × Nat) := do
  let led ← settle id Spelling.dropKeywordsOnce rounds (Text.trim text)
  let stripped ← settle Prod.fst dropMarksOnce rounds (led, 0)
  return (Text.trim stripped.1, stripped.2)

/-- The offset of the angle bracket that closes the first one among the positions.  The angle
counter is unsigned, the one for parentheses stays at zero. -/
def closeAmong :
    (angle parenthesis : Nat) → List (Nat × Char) → Except Hazard (Option Nat)
  | _, _, [] => .ok none
  | angle, parenthesis, (offset, character) :: rest =>
      if character = '<' ∧ parenthesis = 0 then closeAmong (angle + 1) parenthesis rest
      else if character = '>' ∧ parenthesis = 0 then
        if angle = 0 then .error .belowZero
        else if angle - 1 = 0 then .ok (some offset)
        else closeAmong (angle - 1) parenthesis rest
      else if character = '(' then closeAmong angle (parenthesis + 1) rest
      else if character = ')' then closeAmong angle (parenthesis - 1) rest
      else closeAmong angle parenthesis rest

/-- The offset of the bracket that closes the one at an offset. -/
def close?
    (text : List Char)
    (opening : Nat) :
    Except Hazard (Option Nat) :=
  closeAmong 0 0 ((positions 0 text).dropWhile fun position => position.1 < opening)

/-- Split `name<arguments>` at the offsets of its brackets. -/
def splitTemplate
    (base : List Char) :
    Except Hazard (Option (List Char × List Char)) :=
  match (positions 0 base).find? fun position => position.2 = '<' with
  | none => .ok none
  | some (opening, _) =>
      if opening = 0 then .ok none
      else do
        match ← close? base opening with
        | none => return none
        | some closing =>
            let after ← slice base (closing + 1) (byteCount base)
            if Text.trim after = [] then
              let inside ← slice base (opening + 1) closing
              let name ← slice base 0 opening
              return some (Text.trimEnd name, inside)
            else return none

/-- Move a signed counter of 32 bits. -/
def move
    (counter step : Int) :
    Except Hazard Int :=
  if -(2 ^ 31) ≤ counter + step ∧ counter + step < 2 ^ 31 then .ok (counter + step)
  else .error .outOfRange

/-- Cut a text at the commas outside every bracket, from the offset where a piece starts. -/
def piecesFrom
    (text : List Char) :
    (start : Nat) → (depth : Int) → List (Nat × Char) → Except Hazard (List (List Char))
  | start, _, [] => do
      let last ← slice text start (byteCount text)
      return [Text.trim last]
  | start, depth, (offset, character) :: rest =>
      if character = '<' ∨ character = '(' ∨ character = '[' then do
        let deeper ← move depth 1
        piecesFrom text start deeper rest
      else if character = '>' ∨ character = ')' ∨ character = ']' then do
        let higher ← move depth (-1)
        piecesFrom text start higher rest
      else if character = ',' ∧ depth = 0 then do
        let piece ← slice text start offset
        let others ← piecesFrom text (offset + 1) depth rest
        return Text.trim piece :: others
      else piecesFrom text start depth rest

/-- The trimmed pieces between top-level commas; a blank text has none. -/
def topLevel
    (text : List Char) :
    Except Hazard (List (List Char)) := do
  match ← piecesFrom text 0 0 (positions 0 text) with
  | [[]] => return []
  | pieces => return pieces

/-- Read a type; the rounds bound every loop and the depth of the recursion. -/
def read : (rounds : Nat) → List Char → Except Hazard CppType
  | 0, _ => .error .endless
  | rounds + 1, text => do
      let declarator ← strip (rounds + 1) text
      let marks := List.replicate declarator.2 CppType.pointerMark
      match ← splitTemplate declarator.1 with
      | none => return .plain (String.ofList (declarator.1 ++ marks))
      | some parts =>
          let pieces ← topLevel parts.2
          let arguments ← (pieces.filter fun piece => !piece.isEmpty).mapM (read rounds)
          return .applied (String.ofList (parts.1 ++ marks)) arguments

/-! ## Offsets -/

section Offsets

@[simp] theorem byteCount_nil : byteCount [] = 0 := rfl

@[simp] theorem byteCount_cons
    (character : Char)
    (rest : List Char) :
    byteCount (character :: rest) = character.utf8Size + byteCount rest :=
  rfl

@[simp] theorem byteCount_append
    (first second : List Char) :
    byteCount (first ++ second) = byteCount first + byteCount second := by
  simp [byteCount]

theorem cut_append
    (before after : List Char) :
    cut (byteCount before) (before ++ after) = .ok (before, after) := by
  induction before with
  | nil => rw [List.nil_append, byteCount_nil, cut]
  | cons character before inductionHypothesis =>
      obtain ⟨offset, sized⟩ :=
        Nat.exists_eq_add_of_lt (Nat.lt_add_right (byteCount before) character.utf8Size_pos)
      rw [Nat.zero_add] at sized
      have rest : offset + 1 - character.utf8Size = byteCount before := by omega
      rw [byteCount_cons, sized, List.cons_append, cut, if_pos (by omega), rest,
        inductionHypothesis]
      rfl

/-- Cutting at the ends of a part gives the part. -/
theorem slice_append
    {text before inside after : List Char}
    {start stop : Nat}
    (whole : text = before ++ inside ++ after)
    (starts : start = byteCount before)
    (stops : stop = byteCount before + byteCount inside) :
    slice text start stop = .ok inside := by
  subst whole starts stops
  rw [slice, ← byteCount_append, cut_append]
  exact congrArg (· >>= fun parts => pure parts.2) (cut_append before inside)

theorem positions_append
    (offset : Nat)
    (first second : List Char) :
    positions offset (first ++ second) =
      positions offset first ++ positions (offset + byteCount first) second := by
  induction first generalizing offset with
  | nil => rfl
  | cons character first inductionHypothesis =>
      rw [List.cons_append, positions, positions, inductionHypothesis, byteCount_cons,
        Nat.add_assoc, List.cons_append]

/-- Passing over the offsets before a part leaves the offsets of the part. -/
theorem dropWhile_positions
    (offset : Nat)
    (before after : List Char) :
    (positions offset (before ++ after)).dropWhile
        (fun position => position.1 < offset + byteCount before) =
      positions (offset + byteCount before) after := by
  induction before generalizing offset with
  | nil => cases after <;> simp [positions]
  | cons character before inductionHypothesis =>
      have passes : offset < offset + byteCount (character :: before) := by
        have := character.utf8Size_pos
        rw [byteCount_cons]
        omega
      rw [List.cons_append, positions, List.dropWhile_cons_of_pos (by simpa using passes),
        byteCount_cons, ← Nat.add_assoc]
      exact inductionHypothesis _

theorem find?_positions_of_not_mem
    {sought : Char}
    {text : List Char}
    (missing : sought ∉ text)
    (offset : Nat) :
    (positions offset text).find? (fun position => position.2 = sought) = none := by
  induction text generalizing offset with
  | nil => rfl
  | cons character rest inductionHypothesis =>
      rw [List.mem_cons, not_or] at missing
      rw [positions, List.find?_cons_of_neg (by simpa using Ne.symm missing.1)]
      exact inductionHypothesis missing.2 _

theorem find?_positions_append
    {sought : Char}
    {before : List Char}
    (missing : sought ∉ before)
    (after : List Char) :
    (positions 0 (before ++ sought :: after)).find? (fun position => position.2 = sought) =
      some (byteCount before, sought) := by
  rw [positions_append, List.find?_append, find?_positions_of_not_mem missing, Option.none_or,
    positions, List.find?_cons_of_pos (by simp), Nat.zero_add]

end Offsets

/-! ## Loops -/

section Loops

theorem shortens_dropKeywordsOnce : Spelling.Shortens Spelling.dropKeywordsOnce :=
  Spelling.shortens_foldl Spelling.shortens_dropKeyword Spelling.leadingKeywords

/-- The rounds that drop keywords end, and where the text stays as it is. -/
theorem settle_dropKeywordsOnce
    {text : List Char}
    {rounds : Nat}
    (enough : text.length < rounds) :
    settle id Spelling.dropKeywordsOnce rounds text = .ok (Spelling.dropLeadingKeywords text) := by
  fun_induction Spelling.dropLeadingKeywords text generalizing rounds
  case case1 text shorter decreases inductionHypothesis =>
      obtain ⟨rounds, rfl⟩ := Nat.exists_eq_add_one_of_ne_zero (Nat.ne_zero_of_lt enough)
      have changes : Spelling.dropKeywordsOnce text ≠ text := fun same =>
        absurd (congrArg List.length same) (Nat.ne_of_lt decreases)
      rw [settle, id_eq, id_eq, if_neg changes]
      exact inductionHypothesis (by omega)
  case case2 text shorter stays =>
      obtain ⟨rounds, rfl⟩ := Nat.exists_eq_add_one_of_ne_zero (Nat.ne_zero_of_lt enough)
      have same := shortens_dropKeywordsOnce.fixed (Nat.le_of_not_lt stays)
      rw [settle, id_eq, id_eq, if_pos same]

/-- A round at the end of a text shortens it or leaves it alone. -/
theorem shortens_dropMarksOnce :
    Spelling.Shortens fun text =>
      (Spelling.dropPointerMark (Spelling.dropSuffixesOnce text)).1 :=
  Spelling.shortens_of_sublist fun text =>
    (Spelling.dropPointerMark_prefix _).sublist.trans (Spelling.dropSuffixesOnce_sublist text)

/-- The rounds that drop decorations from the end end, and where the text stays as it is. -/
theorem settle_dropMarksOnce
    {text : List Char}
    {depth rounds : Nat}
    (enough : text.length < rounds) :
    settle Prod.fst dropMarksOnce rounds (text, depth) =
      .ok (Spelling.dropTrailingMarks text depth) := by
  fun_induction Spelling.dropTrailingMarks text depth generalizing rounds
  case case1 text depth shorter decreases inductionHypothesis =>
      obtain ⟨rounds, rfl⟩ := Nat.exists_eq_add_one_of_ne_zero (Nat.ne_zero_of_lt enough)
      have round : dropMarksOnce (text, depth) = (shorter.1, depth + shorter.2) := rfl
      have changes : shorter.1 ≠ text := fun same =>
        absurd (congrArg List.length same) (Nat.ne_of_lt decreases)
      rw [settle, round, if_neg changes]
      exact inductionHypothesis (by omega)
  case case2 text depth shorter stays =>
      obtain ⟨rounds, rfl⟩ := Nat.exists_eq_add_one_of_ne_zero (Nat.ne_zero_of_lt enough)
      have round : dropMarksOnce (text, depth) = (shorter.1, depth + shorter.2) := rfl
      have same : shorter.1 = text := shortens_dropMarksOnce.fixed (Nat.le_of_not_lt stays)
      rw [settle, round, if_pos same]

theorem strip_eq_ok
    {text : List Char}
    {rounds : Nat}
    (enough : text.length < rounds) :
    strip rounds text = .ok (Spelling.dropDeclarator text) := by
  have trimmed := Text.length_trim_le text
  have led := Spelling.length_dropLeadingKeywords_le (Text.trim text)
  rw [strip, settle_dropKeywordsOnce (by omega)]
  change (settle Prod.fst dropMarksOnce rounds
    (Spelling.dropLeadingKeywords (Text.trim text), 0) >>= _) = _
  rw [settle_dropMarksOnce (by omega)]
  rfl

end Loops

/-! ## Brackets -/

section Brackets

/-- Behind an opening bracket the angle counter stays above zero until its bracket closes. -/
theorem closeAmong_positions
    {angle : Nat}
    (opened : 0 < angle)
    (parenthesis offset : Nat)
    (text : List Char) :
    closeAmong angle parenthesis (positions offset text) =
      .ok ((Spelling.splitAtClose angle parenthesis text).map fun parts =>
        offset + byteCount parts.1) := by
  induction text generalizing angle parenthesis offset with
  | nil => rfl
  | cons character rest inductionHypothesis =>
      have behind :
          ∀ {angle : Nat} (parenthesis : Nat), 0 < angle →
            closeAmong angle parenthesis (positions (offset + character.utf8Size) rest) =
              .ok (((Spelling.splitAtClose angle parenthesis rest).map fun parts =>
                (character :: parts.1, parts.2)).map fun parts => offset + byteCount parts.1) := by
        intro angle parenthesis opened
        rw [inductionHypothesis opened, Option.map_map]
        simp only [Function.comp_def, byteCount_cons, Nat.add_assoc]
      rw [positions, closeAmong, Spelling.splitAtClose]
      split
      · exact behind parenthesis (Nat.succ_pos angle)
      · split
        · rw [if_neg (Nat.ne_of_gt opened)]
          by_cases last : angle ≤ 1
          · rw [if_pos (by omega), if_pos last]
            rfl
          · rw [if_neg (by omega), if_neg last]
            exact behind parenthesis (by omega)
        · split
          · exact behind (parenthesis + 1) opened
          · split
            · exact behind (parenthesis - 1) opened
            · exact behind parenthesis opened

/-- The scan for the closing bracket starts at the opening one. -/
theorem close?_append
    (before after : List Char) :
    close? (before ++ '<' :: after) (byteCount before) =
      .ok ((Spelling.splitAtClose 1 0 after).map fun parts =>
        byteCount before + 1 + byteCount parts.1) := by
  have behind := dropWhile_positions 0 before ('<' :: after)
  rw [Nat.zero_add] at behind
  rw [close?, behind, positions, closeAmong, if_pos ⟨rfl, rfl⟩]
  exact closeAmong_positions Nat.one_pos 0 _ after

theorem byteCount_eq_zero_iff
    {text : List Char} :
    byteCount text = 0 ↔ text = [] := by
  cases text with
  | nil => simp
  | cons character rest =>
      have := character.utf8Size_pos
      simp only [byteCount_cons, reduceCtorEq, iff_false]
      omega

/-- Every cut of a template falls beside one of its brackets or at an end of it. -/
theorem splitTemplate_eq_ok
    (base : List Char) :
    splitTemplate base = .ok (Spelling.splitTemplate? base) := by
  by_cases opens : '<' ∈ base
  · obtain ⟨before, after, rfl, missing⟩ := List.eq_append_cons_of_mem opens
    rw [splitTemplate, find?_positions_append missing, Spelling.splitTemplate?_append missing]
    simp only [byteCount_eq_zero_iff]
    split
    · rfl
    · rw [close?_append]
      cases closed : Spelling.splitAtClose 1 0 after with
      | none => rfl
      | some parts =>
          obtain ⟨inside, behind⟩ := parts
          have whole := Spelling.append_eq_of_splitAtClose closed
          have sizeOpen : '<'.utf8Size = 1 := rfl
          have sizeClose : '>'.utf8Size = 1 := rfl
          have cutBehind :
              slice (before ++ '<' :: after) (byteCount before + 1 + byteCount inside + 1)
                  (byteCount (before ++ '<' :: after)) = .ok behind := by
            have parts :
                before ++ '<' :: after = before ++ '<' :: inside ++ ['>'] ++ behind ++ [] := by
              simp [whole]
            refine slice_append parts ?_ ?_
            · simp only [byteCount_append, byteCount_cons, byteCount_nil, sizeOpen, sizeClose]
              omega
            · simp only [whole, byteCount_append, byteCount_cons, byteCount_nil, sizeOpen,
                sizeClose]
              omega
          have cutInside :
              slice (before ++ '<' :: after) (byteCount before + 1)
                  (byteCount before + 1 + byteCount inside) = .ok inside := by
            have parts : before ++ '<' :: after = before ++ ['<'] ++ inside ++ '>' :: behind := by
              simp [whole]
            refine slice_append parts ?_ ?_
            · simp [sizeOpen]
            · simp [sizeOpen]
          have cutName : slice (before ++ '<' :: after) 0 (byteCount before) = .ok before := by
            have parts : before ++ '<' :: after = [] ++ before ++ '<' :: after := rfl
            exact slice_append parts rfl (by simp)
          simp only [Option.map_some, Option.bind_some, bind, Except.bind, cutBehind, cutInside,
            cutName, Text.trim_eq_nil_iff]
          split <;> rfl
  · rw [splitTemplate, find?_positions_of_not_mem opens,
      Spelling.splitTemplate?_of_not_mem opens]

end Brackets

/-! ## Commas -/

section Commas

theorem move_eq_ok
    {counter step : Int}
    (lower : -(2 ^ 31) ≤ counter + step)
    (upper : counter + step < 2 ^ 31) :
    move counter step = .ok (counter + step) :=
  if_pos ⟨lower, upper⟩

/-- The depth counter moves by one for a character, so the characters that are left bound it. -/
theorem piecesFrom_positions
    {text done current rest : List Char}
    {depth : Int}
    (whole : text = done ++ current ++ rest)
    (short : depth.natAbs + rest.length < 2 ^ 31) :
    piecesFrom text (byteCount done) depth
        (positions (byteCount done + byteCount current) rest) =
      .ok ((current.foldr Spelling.extendFirst (Spelling.splitCommas depth rest)).map
        Text.trim) := by
  induction rest generalizing done current depth with
  | nil =>
      have last : slice text (byteCount done) (byteCount text) = .ok current :=
        slice_append whole rfl (by simp [whole])
      rw [positions, piecesFrom, last, Spelling.splitCommas, Spelling.foldr_extendFirst,
        List.append_nil]
      rfl
  | cons character rest inductionHypothesis =>
      rw [List.length_cons] at short
      have behind :
          ∀ depth : Int, depth.natAbs + rest.length < 2 ^ 31 →
            piecesFrom text (byteCount done) depth
                (positions (byteCount done + byteCount current + character.utf8Size) rest) =
              .ok ((current.foldr Spelling.extendFirst
                (Spelling.extendFirst character (Spelling.splitCommas depth rest))).map
                  Text.trim) := by
        intro depth short
        have grown : text = done ++ (current ++ [character]) ++ rest := by simp [whole]
        simpa [Nat.add_assoc] using inductionHypothesis grown short
      rw [positions, piecesFrom, Spelling.splitCommas]
      split
      · rw [move_eq_ok (by omega) (by omega)]
        exact behind (depth + 1) (by omega)
      · split
        · rw [move_eq_ok (by omega) (by omega)]
          exact behind (depth - 1) (by omega)
        · split
          · rename_i isComma
            have sizeComma : ','.utf8Size = 1 := rfl
            obtain ⟨rfl, -⟩ := isComma
            have piece :
                slice text (byteCount done) (byteCount done + byteCount current) =
                  .ok current :=
              slice_append whole rfl rfl
            have emptied : text = done ++ current ++ [','] ++ [] ++ rest := by simp [whole]
            have fewer : depth.natAbs + rest.length < 2 ^ 31 := by omega
            have further := inductionHypothesis emptied fewer
            simp only [byteCount_append, byteCount_cons, byteCount_nil, sizeComma,
              Nat.add_zero, List.foldr_nil] at further
            rw [piece, sizeComma, Spelling.foldr_extendFirst, List.append_nil, List.map_cons]
            simp only [bind, Except.bind, further]
            rfl
          · exact behind depth (by omega)

theorem topLevel_eq_ok
    {text : List Char}
    (short : text.length < 2 ^ 31) :
    topLevel text = .ok (Spelling.splitTopLevel text) := by
  have whole : text = [] ++ [] ++ text := rfl
  have fits : (0 : Int).natAbs + text.length < 2 ^ 31 := by simpa using short
  have pieces := piecesFrom_positions whole fits
  simp only [byteCount_nil, Nat.add_zero, List.foldr_nil] at pieces
  rw [topLevel, pieces, Spelling.splitTopLevel]
  generalize (Spelling.splitCommas 0 text).map Text.trim = pieces
  match pieces with
  | [] => rfl
  | [[]] => rfl
  | [] :: _ :: _ => rfl
  | (_ :: _) :: _ => rfl

end Commas

/-! ## Reading -/

/-- Reading pieces that can all be read reads all of them. -/
theorem mapM_eq_ok
    {readPiece : List Char → Except Hazard CppType}
    {type : List Char → CppType}
    {pieces : List (List Char)}
    (reads : ∀ piece ∈ pieces, readPiece piece = .ok (type piece)) :
    pieces.mapM readPiece = .ok (pieces.map type) := by
  induction pieces with
  | nil => rfl
  | cons piece pieces inductionHypothesis =>
      obtain ⟨first, others⟩ := List.forall_mem_cons.mp reads
      rw [List.mapM_cons, first, inductionHypothesis others]
      rfl

/-- More rounds than a text has characters are enough for reading it. -/
theorem read_eq_ok
    {text : List Char}
    (short : text.length < 2 ^ 31)
    {rounds : Nat}
    (enough : text.length < rounds) :
    read rounds text = .ok (CppType.parse text) := by
  induction rounds generalizing text with
  | zero => exact absurd enough (Nat.not_lt_zero _)
  | succ rounds inductionHypothesis =>
      have stripped := Spelling.length_dropDeclarator_le text
      rw [read, strip_eq_ok enough, CppType.parse_eq]
      simp only [bind, Except.bind, splitTemplate_eq_ok]
      cases split : Spelling.splitTemplate? (Spelling.dropDeclarator text).1 with
      | none => rfl
      | some parts =>
          have inside := Spelling.length_inside_lt_of_splitTemplate? split
          have insideShort : parts.2.length < 2 ^ 31 := by omega
          simp only [topLevel_eq_ok insideShort]
          rw [mapM_eq_ok fun piece member => ?_]
          · rfl
          · have piece := Spelling.length_le_of_mem_splitTopLevel (List.mem_filter.mp member).1
            exact inductionHypothesis (by omega) (by omega)

/--
A spelling with fewer than `2 ^ 31` characters, whatever its brackets, is read by offsets without a
hazard.  One round more than it has characters is enough for each loop and for the recursion, every
cut falls between characters, and no counter leaves its range.  What is read is what is read of the
characters, and its text has no more characters other than white space than the spelling.
-/
theorem reading_is_safe_and_never_grows
    (spelling : String)
    (short : spelling.length < 2 ^ 31) :
    (∀ rounds,
        spelling.length < rounds →
          read rounds spelling.toList = .ok (CppType.ofString spelling)) ∧
      Text.visibleCount (CppType.ofString spelling).text.toList ≤
        Text.visibleCount spelling.toList := by
  rw [← String.length_toList] at short
  constructor
  · intro rounds enough
    rw [← String.length_toList] at enough
    exact read_eq_ok short enough
  · rw [CppType.text, String.toList_ofList]
    exact CppType.visibleCount_spell_parse_le spelling.toList

theorem reading_is_safe_and_never_grows_of_unbalanced :
    let spelling := "const Maß<é *, B<)>, ]> *const &"
    spelling.length < 2 ^ 31 ∧
      CppType.ofString spelling =
        .applied "Maß*" [.plain "é*", .plain "B<)>, ]"] ∧
      Text.visibleCount (CppType.ofString spelling).text.toList ≤ 26 := by
  intro spelling
  have short : spelling.length < 2 ^ 31 := by decide +kernel
  obtain ⟨reads, shrinks⟩ := reading_is_safe_and_never_grows spelling short
  have byOffsets :
      read 40 spelling.toList = .ok (.applied "Maß*" [.plain "é*", .plain "B<)>, ]"]) := by
    decide +kernel
  refine ⟨short, ?_, ?_⟩
  · exact Except.ok.inj ((reads 40 (by decide +kernel)).symm.trans byOffsets)
  · exact Nat.le_trans shrinks (by decide +kernel)

end BindingStubs.OffsetReader

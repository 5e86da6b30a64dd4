import BindingStubs.Proofs.Text.Replacing
import BindingStubs.Proofs.Text.Trimming
import BindingStubs.Stub.Line

namespace BindingStubs.Docstring

/-!
# Docstrings read back

A docstring ends at the first three quotes that no backslash takes.  Every backslash of a
documentation text is doubled, and every three quotes are escaped, so inside a text at most two
unescaped quotes stand together.  They can meet the closing mark only where nothing stands between,
that is when the text is a single line.
-/

/-! ## Reading -/

/-- The mark at both ends of a docstring. -/
def mark : List Char := ['"', '"', '"']

/-- What stands before the first three quotes that no backslash takes, and what follows them. -/
def close? : List Char → Option (List Char × List Char)
  | '\\' :: character :: rest =>
      (close? rest).map fun found => ('\\' :: character :: found.1, found.2)
  | '"' :: '"' :: '"' :: rest => some ([], rest)
  | character :: rest => (close? rest).map fun found => (character :: found.1, found.2)
  | [] => none

/-- The text that escaped characters stand for: a backslash takes the next character with it. -/
def unescape : List Char → List Char
  | '\\' :: character :: rest => character :: unescape rest
  | character :: rest => character :: unescape rest
  | [] => []

/-- What a docstring is meant to hold: the trimmed text, if that is a single line, and otherwise its
lines without trailing white space, between two line feeds. -/
def content
    (doc : String) :
    List Char :=
  let text := Text.trim doc.toList
  let lines := Text.lines text
  if lines.length ≤ 1 then text
  else '\n' :: List.intercalate ['\n'] (lines.map Text.trimEnd) ++ ['\n']

/-- How many quotes a text ends in. -/
def trailingQuotes
    (text : List Char) :
    Nat :=
  (text.rtakeWhile (· == '"')).length

/-! ## Escaping -/

/-- Double the backslashes and escape every three quotes, in one pass. -/
def escape : List Char → List Char
  | '\\' :: rest => '\\' :: '\\' :: escape rest
  | '"' :: '"' :: '"' :: rest => '\\' :: '"' :: '\\' :: '"' :: '\\' :: '"' :: escape rest
  | character :: rest => character :: escape rest
  | [] => []

/-- Neither an escape nor three quotes begin at a character. -/
structure BeginsPlain
    (character : Char)
    (rest : List Char) :
    Prop where
  ne_backslash : character ≠ '\\'
  ne_mark : ∀ others, character :: rest ≠ '"' :: '"' :: '"' :: others

/-- Texts are told along their escapes. -/
theorem escape_induction
    {motive : List Char → Prop}
    (nil : motive [])
    (backslash : ∀ rest, motive rest → motive ('\\' :: rest))
    (quotes : ∀ rest, motive rest → motive ('"' :: '"' :: '"' :: rest))
    (plain : ∀ character rest, BeginsPlain character rest → motive rest →
      motive (character :: rest))
    (text : List Char) :
    motive text := by
  induction text using escape.induct with
  | case1 rest inductionHypothesis => exact backslash rest inductionHypothesis
  | case2 rest inductionHypothesis => exact quotes rest inductionHypothesis
  | case3 character rest notBackslash notQuotes inductionHypothesis =>
      refine plain character rest ⟨notBackslash, fun others same => ?_⟩ inductionHypothesis
      obtain ⟨isQuote, areQuotes⟩ := List.cons.inj same
      exact notQuotes others isQuote areQuotes
  | case4 => exact nil

theorem escape_cons
    {character : Char}
    {rest : List Char}
    (plain : BeginsPlain character rest) :
    escape (character :: rest) = character :: escape rest := by
  rw [escape.eq_def]
  split
  · rename_i same
    exact absurd (List.cons.inj same).1 plain.ne_backslash
  · rename_i same
    exact absurd same (plain.ne_mark _)
  · rename_i same
    obtain ⟨rfl, rfl⟩ := List.cons.inj same
    rfl
  · rename_i same
    cases same

theorem beginsPlain_of_ne
    {character : Char}
    (notBackslash : character ≠ '\\')
    (notQuote : character ≠ '"')
    (rest : List Char) :
    BeginsPlain character rest :=
  ⟨notBackslash, fun _ same => notQuote (List.cons.inj same).1⟩

/-- What is escaped begins like the text, unless that begins with a quote. -/
theorem exists_escape_cons
    {character : Char}
    (notQuote : character ≠ '"')
    (rest : List Char) :
    ∃ others, escape (character :: rest) = character :: others := by
  by_cases isBackslash : character = '\\'
  · subst isBackslash
    exact ⟨_, rfl⟩
  · exact ⟨_, escape_cons (beginsPlain_of_ne isBackslash notQuote rest)⟩

/-- What is doubled begins with a quote only if the text does. -/
theorem exists_of_doubled_eq_cons
    {text others : List Char}
    (begins :
      (text.flatMap fun character => if character = '\\' then ['\\', '\\'] else [character]) =
        '"' :: others) :
    ∃ rest,
      text = '"' :: rest ∧
        others =
          rest.flatMap fun character =>
            if character = '\\' then ['\\', '\\'] else [character] := by
  cases text with
  | nil => cases begins
  | cons first rest =>
      rw [List.flatMap_cons] at begins
      split at begins
      · cases begins
      · obtain ⟨rfl, rfl⟩ := List.cons.inj begins
        exact ⟨rest, rfl, rfl⟩

/-- The two replacements that escape a text are one pass. -/
theorem replaceAll_eq_escape
    (text : List Char) :
    Text.replaceAll mark ['\\', '"', '\\', '"', '\\', '"']
        (Text.replaceAll ['\\'] ['\\', '\\'] text) =
      escape text := by
  rw [Text.replaceAll_singleton]
  induction text using escape_induction with
  | nil => rfl
  | backslash rest inductionHypothesis =>
      rw [List.flatMap_cons, if_pos rfl, escape, ← inductionHypothesis]
      exact (Text.replaceAll_cons_of_mismatch _ rfl).trans
        (congrArg _ (Text.replaceAll_cons_of_mismatch _ rfl))
  | quotes rest inductionHypothesis =>
      rw [escape, ← inductionHypothesis]
      exact Text.replaceAll_append_self '"' ['"', '"'] _ _
  | plain character rest plain inductionHypothesis =>
      rw [List.flatMap_cons, if_neg plain.ne_backslash, escape_cons plain, ← inductionHypothesis]
      refine Text.replaceAll_cons_of_mismatch _ (Bool.eq_false_iff.mpr fun isPrefix => ?_)
      obtain ⟨others, whole⟩ := List.isPrefixOf_iff_prefix.mp isPrefix
      obtain ⟨rfl, second⟩ := List.cons.inj whole
      obtain ⟨rest, rfl, third⟩ := exists_of_doubled_eq_cons second.symm
      obtain ⟨rest, rfl, _⟩ := exists_of_doubled_eq_cons third.symm
      exact plain.ne_mark rest rfl

/-- Whether no quotes of two texts come to stand together. -/
def Apart
    (text rest : List Char) :
    Prop :=
  text.getLast? ≠ some '"' ∨ rest.head? ≠ some '"'

theorem Apart.tail
    {first : Char}
    {text rest : List Char}
    (apart : Apart (first :: text) rest) :
    Apart text rest := by
  refine apart.imp_left fun lastNot last => lastNot ?_
  rw [List.getLast?_cons, last]
  rfl

/-- Where no quotes come to stand together a plain beginning stays plain. -/
theorem BeginsPlain.append
    {character : Char}
    {text rest : List Char}
    (plain : BeginsPlain character text)
    (apart : Apart (character :: text) rest) :
    BeginsPlain character (text ++ rest) := by
  refine ⟨plain.ne_backslash, fun others same => ?_⟩
  match text with
  | [] =>
      simp only [List.nil_append, List.cons.injEq] at same
      obtain ⟨rfl, rfl⟩ := same
      exact apart.elim (· rfl) (· rfl)
  | [second] =>
      simp only [List.cons_append, List.nil_append, List.cons.injEq] at same
      obtain ⟨rfl, rfl, rfl⟩ := same
      exact apart.elim (· rfl) (· rfl)
  | second :: third :: text =>
      simp only [List.cons_append, List.cons.injEq] at same
      obtain ⟨rfl, rfl, rfl, _⟩ := same
      exact plain.ne_mark text rfl

/-- Where no quotes come to stand together a plain beginning stays plain before what is escaped. -/
theorem BeginsPlain.escape_append
    {character : Char}
    {text rest : List Char}
    (plain : BeginsPlain character text)
    (apart : Apart (character :: text) rest) :
    BeginsPlain character (escape text ++ rest) := by
  refine ⟨plain.ne_backslash, fun others same => ?_⟩
  obtain ⟨isQuote, behind⟩ := List.cons.inj same
  subst isQuote
  match text with
  | [] =>
      rw [escape, List.nil_append] at behind
      subst behind
      exact apart.elim (· rfl) (· rfl)
  | second :: text =>
      by_cases isQuote : second = '"'
      · subst isQuote
        have plainSecond : BeginsPlain '"' text :=
          ⟨by decide, fun others same => plain.ne_mark _ (congrArg _ same)⟩
        rw [escape_cons plainSecond, List.cons_append] at behind
        match text with
        | [] =>
            simp only [escape, List.nil_append, List.cons.injEq, true_and] at behind
            subst behind
            exact apart.elim (· rfl) (· rfl)
        | third :: text =>
            have notQuote : third ≠ '"' := by
              rintro rfl
              exact plain.ne_mark _ rfl
            obtain ⟨escaped, begins⟩ := exists_escape_cons notQuote text
            rw [begins] at behind
            exact notQuote (List.cons.inj (List.cons.inj behind).2).1
      · obtain ⟨escaped, begins⟩ := exists_escape_cons isQuote text
        rw [begins] at behind
        exact isQuote (List.cons.inj behind).1

theorem escape_append
    {text rest : List Char}
    (apart : Apart text rest) :
    escape (text ++ rest) = escape text ++ escape rest := by
  induction text using escape_induction with
  | nil => rfl
  | backslash text inductionHypothesis =>
      rw [List.cons_append, escape, escape, inductionHypothesis apart.tail]
      rfl
  | quotes text inductionHypothesis =>
      rw [List.cons_append, List.cons_append, List.cons_append, escape, escape,
        inductionHypothesis apart.tail.tail.tail]
      rfl
  | plain character text plain inductionHypothesis =>
      rw [List.cons_append, escape_cons plain, escape_cons (plain.append apart),
        inductionHypothesis apart.tail, List.cons_append]

/-- A text without backslashes and quotes is not changed. -/
theorem escape_of_forall_ne
    {text : List Char}
    (plain : ∀ character ∈ text, character ≠ '\\' ∧ character ≠ '"') :
    escape text = text := by
  induction text with
  | nil => rfl
  | cons first text inductionHypothesis =>
      obtain ⟨⟨notBackslash, notQuote⟩, others⟩ := List.forall_mem_cons.mp plain
      rw [escape_cons (beginsPlain_of_ne notBackslash notQuote text), inductionHypothesis others]

theorem getLast?_escape
    (text : List Char) :
    (escape text).getLast? = text.getLast? := by
  induction text using escape_induction with
  | nil => rfl
  | backslash text inductionHypothesis =>
      simp only [escape, List.getLast?_cons, inductionHypothesis]
      cases text.getLast? <;> rfl
  | quotes text inductionHypothesis =>
      simp only [escape, List.getLast?_cons, inductionHypothesis]
      cases text.getLast? <;> rfl
  | plain character text plain inductionHypothesis =>
      rw [escape_cons plain, List.getLast?_cons, List.getLast?_cons, inductionHypothesis]

theorem unescape_escape
    (text : List Char) :
    unescape (escape text) = text := by
  induction text using escape_induction with
  | nil => rfl
  | backslash text inductionHypothesis => rw [escape, unescape, inductionHypothesis]
  | quotes text inductionHypothesis =>
      rw [escape, unescape, unescape, unescape, inductionHypothesis]
  | plain character text plain inductionHypothesis =>
      rw [escape_cons plain, unescape, inductionHypothesis]
      exact fun _ _ isBackslash => absurd isBackslash plain.ne_backslash

theorem close?_cons
    {character : Char}
    {rest : List Char}
    (plain : BeginsPlain character rest) :
    close? (character :: rest) =
      (close? rest).map fun found => (character :: found.1, found.2) := by
  rw [close?.eq_def]
  split
  · rename_i same
    exact absurd (List.cons.inj same).1 plain.ne_backslash
  · rename_i same
    exact absurd same (plain.ne_mark _)
  · rename_i same
    obtain ⟨rfl, rfl⟩ := List.cons.inj same
    rfl
  · rename_i same
    cases same

/-- Reading goes past an escaped text, as long as no quotes come to stand together at its end. -/
theorem close?_escape_append
    {text rest : List Char}
    (apart : Apart text rest) :
    close? (escape text ++ rest) =
      (close? rest).map fun found => (escape text ++ found.1, found.2) := by
  induction text using escape_induction with
  | nil => simp [escape]
  | backslash text inductionHypothesis =>
      rw [escape, List.cons_append, List.cons_append, close?, inductionHypothesis apart.tail,
        Option.map_map]
      rfl
  | quotes text inductionHypothesis =>
      simp only [escape, List.cons_append, close?, inductionHypothesis apart.tail.tail.tail,
        Option.map_map]
      rfl
  | plain character text plain inductionHypothesis =>
      rw [escape_cons plain, List.cons_append, close?_cons (plain.escape_append apart),
        inductionHypothesis apart.tail, Option.map_map]
      rfl

/-! ## The closing mark -/

/-- Quotes before the closing mark leave it to the end only if they come in threes. -/
theorem close?_escape_quotes :
    ∀ count,
      close? (escape (List.replicate count '"') ++ mark) =
          some (escape (List.replicate count '"'), []) ↔
        count % 3 = 0
  | 0 => by decide
  | 1 => by decide
  | 2 => by decide
  | count + 3 => by
      have isEscaped : escape (List.replicate (count + 3) '"') =
          '\\' :: '"' :: '\\' :: '"' :: '\\' :: '"' :: escape (List.replicate count '"') :=
        rfl
      rw [isEscaped, Nat.add_mod_right, ← close?_escape_quotes count]
      simp only [List.cons_append, close?, Option.map_map]
      cases close? (escape (List.replicate count '"') ++ mark) <;> simp [Prod.ext_iff]

theorem exists_append_trailingQuotes
    (text : List Char) :
    ∃ before,
      text = before ++ List.replicate (trailingQuotes text) '"' ∧ before.getLast? ≠ some '"' := by
  refine ⟨text.rdropWhile (· == '"'), ?_, fun last => ?_⟩
  · have areQuotes : text.rtakeWhile (· == '"') = List.replicate (trailingQuotes text) '"' :=
      List.eq_replicate_of_mem fun character member => by
        simpa using List.mem_rtakeWhile_imp member
    rw [← areQuotes, List.rdropWhile_append_rtakeWhile]
  · have notEmpty : text.rdropWhile (· == '"') ≠ [] := by
      intro isEmpty
      rw [isEmpty] at last
      cases last
    rw [List.getLast?_eq_some_getLast notEmpty, Option.some.injEq] at last
    exact List.rdropWhile_last_not _ _ notEmpty (beq_iff_eq.mpr last)

/-- The closing mark is found where it stands, unless unescaped quotes stand before it. -/
theorem close?_escape_mark
    (text : List Char) :
    close? (escape text ++ mark) = some (escape text, []) ↔ trailingQuotes text % 3 = 0 := by
  obtain ⟨before, isText, lastNot⟩ := exists_append_trailingQuotes text
  generalize trailingQuotes text = count at isText ⊢
  subst isText
  rw [escape_append (.inl lastNot), List.append_assoc, close?_escape_append (.inl lastNot),
    ← close?_escape_quotes count]
  cases close? (escape (List.replicate count '"') ++ mark) <;> simp [Prod.ext_iff]

/-! ## Lines -/

theorem newline_not_mem_escape
    {text : List Char}
    (missing : '\n' ∉ text) :
    '\n' ∉ escape text := by
  induction text using escape_induction with
  | nil => exact missing
  | backslash text inductionHypothesis =>
      simpa [escape] using inductionHypothesis fun member => missing (.tail _ member)
  | quotes text inductionHypothesis =>
      simpa [escape] using inductionHypothesis fun member =>
        missing (.tail _ (.tail _ (.tail _ member)))
  | plain character text plain inductionHypothesis =>
      rw [escape_cons plain]
      rintro (_ | ⟨_, member⟩)
      · exact missing (.head _)
      · exact inductionHypothesis (fun member => missing (.tail _ member)) member

/-- Line feeds are kept, so a text is escaped line by line. -/
theorem escape_intercalate
    (lines : List (List Char)) :
    escape (List.intercalate ['\n'] lines) = List.intercalate ['\n'] (lines.map escape) := by
  induction lines with
  | nil => rfl
  | cons line lines inductionHypothesis =>
      cases lines with
      | nil => simp
      | cons second lines =>
          have apart (rest : List Char) : Apart line ('\n' :: rest) := .inr (by simp)
          rw [List.map_cons, List.map_cons, List.intercalate_cons_cons,
            List.intercalate_cons_cons, ← List.map_cons, ← inductionHypothesis,
            List.append_assoc, List.singleton_append, escape_append (apart _),
            escape_cons (beginsPlain_of_ne (by decide) (by decide) _)]
          simp

theorem splitOn_escape
    (text : List Char) :
    (escape text).splitOn '\n' = (text.splitOn '\n').map escape := by
  induction length : text.length using Nat.strongRecOn generalizing text with
  | ind length inductionHypothesis =>
      by_cases member : '\n' ∈ text
      · obtain ⟨before, after, rfl⟩ := List.append_of_mem member
        rw [List.length_append, List.length_cons] at length
        have first := inductionHypothesis before.length (by omega) before rfl
        have second := inductionHypothesis after.length (by omega) after rfl
        rw [escape_append (.inr (by simp)),
          escape_cons (beginsPlain_of_ne (by decide) (by decide) _),
          List.splitOn_append_cons_self, List.splitOn_append_cons_self, first, second,
          List.map_append]
      · rw [List.splitOn_eq_singleton member,
          List.splitOn_eq_singleton (newline_not_mem_escape member), List.map_singleton]

theorem dropCarriageReturn_concat
    (line : List Char) :
    Text.dropCarriageReturn (line ++ ['\r']) = line := by
  simp [Text.dropCarriageReturn, List.isSuffixOf?, List.isPrefixOf?]

theorem dropCarriageReturn_of_getLast?_ne
    {line : List Char}
    (last : line.getLast? ≠ some '\r') :
    Text.dropCarriageReturn line = line := by
  rw [Text.dropCarriageReturn]
  cases found : List.isSuffixOf? ['\r'] line with
  | none => rfl
  | some before =>
      have whole := Text.append_eq_of_isSuffixOf? found
      exact absurd (by simp [← whole]) last

theorem dropCarriageReturn_escape
    (line : List Char) :
    Text.dropCarriageReturn (escape line) = escape (Text.dropCarriageReturn line) := by
  by_cases last : line.getLast? = some '\r'
  · obtain ⟨before, rfl⟩ := List.getLast?_eq_some_iff.mp last
    have plain : escape ['\r'] = ['\r'] := escape_of_forall_ne (by simp)
    rw [escape_append (.inr (by simp)), plain, dropCarriageReturn_concat,
      dropCarriageReturn_concat]
  · rw [dropCarriageReturn_of_getLast?_ne last,
      dropCarriageReturn_of_getLast?_ne ((getLast?_escape line).symm ▸ last)]

theorem escape_eq_nil_iff
    {text : List Char} :
    escape text = [] ↔ text = [] := by
  rw [← List.getLast?_eq_none_iff, getLast?_escape, List.getLast?_eq_none_iff]

theorem lines_escape
    (text : List Char) :
    Text.lines (escape text) = (Text.lines text).map escape := by
  rw [Text.lines, Text.lines, splitOn_escape]
  generalize text.splitOn '\n' = pieces
  induction pieces with
  | nil => rfl
  | cons line rest inductionHypothesis =>
      cases rest with
      | nil =>
          simp only [List.map_singleton, Text.linesOfPieces, List.isEmpty_iff, escape_eq_nil_iff]
          split <;> rfl
      | cons second rest =>
          change Text.dropCarriageReturn (escape line) ::
              Text.linesOfPieces ((second :: rest).map escape) =
            (Text.dropCarriageReturn line :: Text.linesOfPieces (second :: rest)).map escape
          rw [inductionHypothesis, dropCarriageReturn_escape, List.map_cons]

theorem trimEnd_escape
    (line : List Char) :
    Text.trimEnd (escape line) = escape (Text.trimEnd line) := by
  have isLine : Text.trimEnd line ++ line.rtakeWhile Text.isWhite = line :=
    List.rdropWhile_append_rtakeWhile
  have blank : ∀ character ∈ line.rtakeWhile Text.isWhite, Text.isWhite character = true :=
    fun _ => List.mem_rtakeWhile_imp
  have trimmed : Text.trimEnd (Text.trimEnd line) = Text.trimEnd line :=
    List.rdropWhile_idempotent ..
  generalize Text.trimEnd line = kept at isLine trimmed ⊢
  generalize line.rtakeWhile Text.isWhite = dropped at isLine blank
  have plain : ∀ character ∈ dropped, character ≠ '\\' ∧ character ≠ '"' := by
    intro character member
    constructor <;> rintro rfl <;> exact absurd (blank _ member) (by decide)
  have apart : Apart kept dropped := by
    refine .inr fun first => (plain '"' ?_).2 rfl
    exact List.mem_of_mem_head? first
  have keptEscape : Text.trimEnd (escape kept) = escape kept := by
    rw [Text.trimEnd_eq_self_iff] at trimmed ⊢
    rwa [getLast?_escape]
  rw [← isLine, escape_append apart, escape_of_forall_ne plain,
    Text.trimEnd_append_of_blank _ blank, keptEscape]

/-! ## Reading back -/

theorem intercalate_concat
    {lines : List (List Char)}
    (notEmpty : lines ≠ [])
    (last : List Char) :
    List.intercalate ['\n'] (lines ++ [last]) = List.intercalate ['\n'] lines ++ '\n' :: last := by
  induction lines with
  | nil => exact absurd rfl notEmpty
  | cons line rest inductionHypothesis =>
      cases rest with
      | nil => simp
      | cons second rest =>
          rw [List.cons_append, List.cons_append, List.intercalate_cons_cons, ← List.cons_append,
            inductionHypothesis (List.cons_ne_nil _ _), List.intercalate_cons_cons]
          simp

/-- The lines of a docstring are the escaped content between two marks. -/
theorem toList_intercalate_docstringLines
    (doc : String) :
    (String.intercalate "\n" (docstringLines doc)).toList =
      mark ++ escape (content doc) ++ mark := by
  have isEscaped := replaceAll_eq_escape (Text.trim doc.toList)
  rw [mark] at isEscaped
  simp only [docstringLines, isEscaped, lines_escape, List.length_map, content]
  generalize Text.trim doc.toList = text
  split
  · simp [mark]
  · rename_i severalLines
    have escapeNewline (rest : List Char) : escape ('\n' :: rest) = '\n' :: escape rest :=
      escape_cons (beginsPlain_of_ne (by decide) (by decide) rest)
    have notEmpty : (Text.lines text).map (fun line => escape (Text.trimEnd line)) ≠ [] := by
      intro isEmpty
      rw [List.map_eq_nil_iff] at isEmpty
      exact severalLines (by simp [isEmpty])
    rw [escape_append (.inr (by simp)), escapeNewline, escapeNewline, escape_intercalate,
      String.toList_intercalate]
    simp only [List.map_cons, List.map_append, List.map_map, Function.comp_def,
      String.toList_ofList, List.map_nil, trimEnd_escape]
    generalize (Text.lines text).map (fun line => escape (Text.trimEnd line)) = lines at notEmpty ⊢
    have isNewline : "\n".toList = ['\n'] := rfl
    rw [isNewline, intercalate_concat (List.cons_ne_nil _ _)]
    obtain ⟨line, rest, rfl⟩ := List.exists_cons_of_ne_nil notEmpty
    rw [List.intercalate_cons_cons]
    simp [mark, escape]

/--
The lines of a docstring begin with three quotes and end with three.  What lies between stands for
the trimmed text, if that is a single line, and otherwise for its lines without trailing white
space, between two line feeds.  The first three unescaped quotes behind the opening ones are those
at the end, unless the text is a single line that ends in one or two quotes more than a multiple of
three.
-/
theorem docstring_reads_back
    (doc : String) :
    ∃ body,
      (String.intercalate "\n" (docstringLines doc)).toList = mark ++ body ++ mark ∧
        unescape body = content doc ∧
        (close? (body ++ mark) = some (body, []) ↔
          ((Text.lines (Text.trim doc.toList)).length ≤ 1 →
            trailingQuotes (Text.trim doc.toList) % 3 = 0)) := by
  refine ⟨escape (content doc), toList_intercalate_docstringLines doc, unescape_escape _, ?_⟩
  rw [close?_escape_mark, content]
  split
  · rename_i oneLine
    exact ⟨fun inThrees _ => inThrees, fun inThrees => inThrees oneLine⟩
  · rename_i severalLines
    refine ⟨fun _ oneLine => absurd oneLine severalLines, fun _ => ?_⟩
    rw [trailingQuotes, List.rtakeWhile_concat_neg _ _ _ (by decide)]
    rfl

/-- A single line that ends in a quote closes its docstring one character too early: the last quote
is left over. -/
theorem docstring_closes_before_final_quote :
    let text := (String.intercalate "\n" (docstringLines "Say \"hi\"")).toList
    text = mark ++ "Say \"hi\"".toList ++ mark ∧
      close? (text.drop 3) = some ("Say \"hi".toList, ['"']) ∧
      ∀ body, text = mark ++ body ++ mark → close? (body ++ mark) ≠ some (body, []) := by
  intro text
  have isText : text = mark ++ "Say \"hi\"".toList ++ mark := by decide +kernel
  have closes : close? (text.drop 3) = some ("Say \"hi".toList, ['"']) := by decide +kernel
  refine ⟨isText, closes, fun body isWhole closesAtEnd => ?_⟩
  have isRest : text.drop 3 = body ++ mark := by rw [isWhole]; rfl
  rw [isRest, closesAtEnd] at closes
  cases closes

end BindingStubs.Docstring

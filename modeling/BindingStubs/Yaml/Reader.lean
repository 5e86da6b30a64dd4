import BindingStubs.Text.Basic
import BindingStubs.Yaml.Basic

namespace BindingStubs

/-!
# Reading YAML

The reader covers block and flow collections, comments, plain and quoted scalars and literal
blocks.  Indentation decides where a block collection ends; inside brackets and braces it
does not count.  Every step of the reader passes over at least one character or hands the
rest to a smaller step, so a number of steps proportional to the text suffices.
-/

namespace YamlReader

/-- A place in a text: what follows and its column. -/
structure Cursor where
  rest : List Char
  column : Nat
  deriving Repr, DecidableEq, Inhabited

namespace Cursor

/-- The place behind the next character. -/
def advance
    (cursor : Cursor) :
    Cursor :=
  match cursor.rest with
  | [] => cursor
  | '\n' :: rest => ⟨rest, 0⟩
  | _ :: rest => ⟨rest, cursor.column + 1⟩

/-- Whether the text ends here. -/
def isAtEnd
    (cursor : Cursor) :
    Bool :=
  cursor.rest.isEmpty

/-- Whether two places are on the same line of one text. -/
def isOnLineOf
    (cursor other : Cursor) :
    Bool :=
  cursor.rest.count '\n' == other.rest.count '\n'

end Cursor

/-- Whether a character separates words on a line. -/
def isBlank
    (character : Char) :
    Bool :=
  character == ' ' || character == '\t'

/-- Whether a blank, a line end or the end of the text comes next. -/
def endsWord : List Char → Bool
  | [] => true
  | character :: _ => isBlank character || character == '\n'

/-- Whether a dash that starts an item comes next. -/
def startsItem : List Char → Bool
  | '-' :: rest => endsWord rest
  | _ => false

/-- Whether a colon that ends a key of a block mapping comes next. -/
def endsKey : List Char → Bool
  | ':' :: rest => endsWord rest
  | _ => false

/-- Whether a line that ends or starts a document comes next. -/
def isDocumentMark
    (cursor : Cursor) :
    Bool :=
  cursor.column == 0
    && (match cursor.rest with
        | '-' :: '-' :: '-' :: rest => endsWord rest
        | '.' :: '.' :: '.' :: rest => endsWord rest
        | _ => false)

/-- Pass over blanks, comments and line ends to the next token; tells whether a line end
was among them.  In blocks a tab must not stand where a key could start. -/
def skipBlanks
    (inFlow : Bool) :
    (tabsAllowed inComment crossed : Bool) → (column : Nat) → List Char → Cursor × Bool
  | _, _, crossed, column, [] => (⟨[], column⟩, crossed)
  | tabsAllowed, inComment, crossed, column, character :: rest =>
      if character = '\n' then skipBlanks inFlow inFlow false true 0 rest
      else if inComment || character = ' ' || (character = '\t' && (inFlow || tabsAllowed)) then
        skipBlanks inFlow tabsAllowed inComment crossed (column + 1) rest
      else if character = '#' then
        skipBlanks inFlow tabsAllowed true crossed (column + 1) rest
      else (⟨character :: rest, column⟩, crossed)

/-- The next token in a block, where tabs may stand before it on this line. -/
def nextToken
    (cursor : Cursor) :
    Cursor × Bool :=
  skipBlanks false true false false cursor.column cursor.rest

/-- The next token behind a dash, where a key could start. -/
def nextKeyToken
    (cursor : Cursor) :
    Cursor × Bool :=
  skipBlanks false false false false cursor.column cursor.rest

/-- The next token in a flow collection. -/
def nextFlowToken
    (cursor : Cursor) :
    Cursor :=
  (skipBlanks true true false false cursor.column cursor.rest).1

/-- Pass over blanks on this line. -/
def skipLineBlanks
    (cursor : Cursor) :
    Cursor :=
  let blanks := cursor.rest.takeWhile isBlank
  ⟨cursor.rest.drop blanks.length, cursor.column + blanks.length⟩

/-- Characters that have a meaning of their own at the start of a token. -/
def indicators : List Char :=
  ['-', '?', ':', ',', '[', ']', '\x7b', '\x7d', '#', '&', '*', '!', '|', '>', '\'', '"',
   '%', '@', '\x60']

/-- Characters that end a plain scalar in a flow collection. -/
def flowIndicators : List Char := [',', '[', ']', '\x7b', '\x7d']

/-- Whether a plain scalar starts here. -/
def startsPlain
    (inFlow : Bool) :
    List Char → Bool
  | [] => false
  | character :: rest =>
      if character = '-' then !endsWord rest
      else if character = '?' || character = ':' then !inFlow && !endsWord rest
      else !indicators.contains character && !isBlank character && character != '\n'

/-- The part of a plain scalar on one line, without blanks at its end.  In a flow
collection a colon must not touch an indicator. -/
def plainLine?
    (inFlow : Bool) :
    (text blanks : List Char) → (column : Nat) → List Char → Option (List Char × Cursor)
  | text, _, column, [] => some (text.reverse, ⟨[], column⟩)
  | text, blanks, column, character :: rest =>
      let stop : Option (List Char × Cursor) :=
        some (text.reverse, ⟨character :: rest, column⟩)
      if character = '\n' then stop
      else if isBlank character then
        plainLine? inFlow text (character :: blanks) (column + 1) rest
      else if character = '#' && !blanks.isEmpty then stop
      else if endsKey (character :: rest) then stop
      else if inFlow && character = ':'
          && (match rest with
              | next :: _ => next == '?' || flowIndicators.contains next
              | [] => false) then none
      else if inFlow && flowIndicators.contains character then stop
      else plainLine? inFlow (character :: (blanks ++ text)) [] (column + 1) rest

/-- What joins two lines of a scalar: a single line end is a space, each further one stays. -/
def fold
    (lineEnds : Nat) :
    List Char :=
  if lineEnds = 1 then [' '] else List.replicate (lineEnds - 1) '\n'

/-- The next line with text, and the number of line ends before it. -/
def nextTextLine
    (cursor : Cursor) :
    Cursor × Nat :=
  let blanks := cursor.rest.takeWhile fun character => isBlank character || character == '\n'
  let lastLine := blanks.reverse.takeWhile (· != '\n')
  (⟨cursor.rest.drop blanks.length, lastLine.length⟩, blanks.count '\n')

/-- Read further lines of a plain scalar.  In a block they must be indented more than the
collection that the scalar is in. -/
def plainLines?
    (inFlow : Bool)
    (least : Nat) :
    (steps : Nat) → List Char → Cursor → Option (List Char × Cursor)
  | 0, _, _ => none
  | steps + 1, text, cursor =>
      let (line, lineEnds) := nextTextLine cursor
      if lineEnds = 0 || line.isAtEnd || line.rest.head? == some '#'
          || (!inFlow && line.column < least) || isDocumentMark line then
        some (text, cursor)
      else
        match plainLine? inFlow [] [] line.column line.rest with
        | none => none
        | some (more, behind) =>
            if more.isEmpty then some (text, cursor)
            else plainLines? inFlow least steps (text ++ fold lineEnds ++ more) behind

/-! ## Quoted scalars -/

/-- What a quoted scalar holds so far: its text and the blanks behind it, both reversed, and
the number of line ends since. -/
structure QuotedState where
  text : List Char := []
  blanks : List Char := []
  lineEnds : Nat := 0
  deriving Repr, DecidableEq

namespace QuotedState

/-- The text with what joins it to the next character. -/
def joined
    (state : QuotedState) :
    List Char :=
  if state.lineEnds = 0 then state.blanks ++ state.text
  else (fold state.lineEnds).reverse ++ state.text

/-- Add a character that is no blank. -/
def push
    (state : QuotedState)
    (character : Char) :
    QuotedState :=
  { text := character :: state.joined }

/-- Add a blank or a line end. -/
def pushBlank
    (state : QuotedState)
    (character : Char) :
    QuotedState :=
  if character = '\n' then { state with blanks := [], lineEnds := state.lineEnds + 1 }
  else if state.lineEnds = 0 then { state with blanks := character :: state.blanks }
  else state

end QuotedState

/-- Read a scalar in single quotes, behind the opening one. -/
def singleQuoted?
    (state : QuotedState)
    (column : Nat) :
    List Char → Option (List Char × Cursor)
  | [] => none
  | '\'' :: '\'' :: rest => singleQuoted? (state.push '\'') (column + 2) rest
  | '\'' :: rest => some (state.joined.reverse, ⟨rest, column + 1⟩)
  | '\n' :: rest => singleQuoted? (state.pushBlank '\n') 0 rest
  | character :: rest =>
      if isBlank character then singleQuoted? (state.pushBlank character) (column + 1) rest
      else singleQuoted? (state.push character) (column + 1) rest

/-- The characters that an escape of one letter stands for. -/
def letterEscapes : List (Char × Char) :=
  [('0', '\x00'), ('a', '\x07'), ('b', '\x08'), ('t', '\t'), ('\t', '\t'), ('n', '\n'),
   ('v', '\x0b'), ('f', '\x0c'), ('r', '\r'), ('e', '\x1b'), (' ', ' '), ('"', '"'),
   ('/', '/'), ('\\', '\\'), ('N', '\u0085'), ('_', '\u00a0'), ('L', '\u2028'),
   ('P', '\u2029')]

/-- The number of hexadecimal digits that an escape takes. -/
def escapeWidths : List (Char × Nat) := [('x', 2), ('u', 4), ('U', 8)]

/-- The character with a hexadecimal number of a fixed width. -/
def numbered?
    (width : Nat)
    (following : List Char) :
    Option Char :=
  let digits := following.take width
  if digits.length = width then
    match Text.readHexDigits? digits with
    | some value => if value.isValidChar then some (Char.ofNat value) else none
    | none => none
  else none

/-- Read a scalar in double quotes, behind the opening one. -/
def doubleQuoted? :
    (steps : Nat) → QuotedState → Cursor → Option (List Char × Cursor)
  | 0, _, _ => none
  | steps + 1, state, cursor =>
      match cursor.rest with
      | [] => none
      | '"' :: rest => some (state.joined.reverse, ⟨rest, cursor.column + 1⟩)
      | '\\' :: '\n' :: rest =>
          let blanks := rest.takeWhile isBlank
          doubleQuoted? steps { text := state.joined }
            ⟨rest.drop blanks.length, blanks.length⟩
      | '\\' :: escape :: rest =>
          match letterEscapes.lookup escape with
          | some character =>
              doubleQuoted? steps (state.push character) ⟨rest, cursor.column + 2⟩
          | none =>
              match escapeWidths.lookup escape with
              | some width =>
                  match numbered? width rest with
                  | some character =>
                      doubleQuoted? steps (state.push character)
                        ⟨rest.drop width, cursor.column + 2 + width⟩
                  | none => none
              | none => none
      | character :: _ =>
          if isBlank character || character = '\n' then
            doubleQuoted? steps (state.pushBlank character) cursor.advance
          else doubleQuoted? steps (state.push character) cursor.advance

/-- Read a quoted scalar. -/
def quoted?
    (cursor : Cursor) :
    Option (Yaml × Cursor) :=
  let read :=
    match cursor.rest with
    | '\'' :: rest => singleQuoted? {} (cursor.column + 1) rest
    | '"' :: _ => doubleQuoted? (cursor.rest.length + 1) {} cursor.advance
    | _ => none
  read.map fun (text, behind) => (.scalar (String.ofList text) false, behind)

/-- Read a plain scalar. -/
def plain?
    (inFlow : Bool)
    (least : Nat)
    (cursor : Cursor) :
    Option (Yaml × Cursor) :=
  match plainLine? inFlow [] [] cursor.column cursor.rest with
  | none => none
  | some (first, behind) =>
      (plainLines? inFlow least (behind.rest.length + 1) first behind).map
        fun (text, last) => (.scalar (String.ofList text) true, last)

/-! ## Literal blocks -/

/-- The lines of a literal block and what follows them.  A line that is indented less than
the block ends it, unless it is empty. -/
def literalLines
    (indentation : Nat) :
    (steps : Nat) → List Char → List (List Char) × List Char
  | 0, text => ([], text)
  | steps + 1, text =>
      let line := text.takeWhile (· != '\n')
      let margin := (line.takeWhile (· == ' ')).length
      if text.isEmpty then ([], [])
      else if margin < indentation && margin < line.length then ([], text)
      else
        let (lines, rest) := literalLines indentation steps (text.drop (line.length + 1))
        (line.drop indentation :: lines, rest)

/-- The margin of the first line that is not empty. -/
def firstMargin
    (text : List Char) :
    Nat :=
  (((text.splitOn '\n').find? fun line => line.any (· != ' ')).map
    fun line => (line.takeWhile (· == ' ')).length).getD 0

/-- Read a literal block, behind its bar: optional hints for indentation and for line ends
at the end, and then the lines. -/
def literal?
    (least : Nat)
    (cursor : Cursor) :
    Option (Yaml × Cursor) :=
  let header := cursor.rest.takeWhile (· != '\n')
  let hints := header.takeWhile fun character => !isBlank character
  let comment := (header.drop hints.length).dropWhile isBlank
  let digits := hints.filter fun character => '1' ≤ character && character ≤ '9'
  let chomping := hints.filter fun character => character == '-' || character == '+'
  if digits.length + chomping.length != hints.length || 1 < digits.length
      || 1 < chomping.length || !(comment.isEmpty || comment.head? == some '#') then none
  else
    let body := cursor.rest.drop (header.length + 1)
    let indentation :=
      match digits with
      | digit :: _ => least - 1 + (digit.toNat - '0'.toNat)
      | [] => max least (firstMargin body)
    let (lines, rest) := literalLines indentation (body.length + 1) body
    let kept := (lines.reverse.dropWhile List.isEmpty).reverse
    let ends := lines.length - kept.length
    let text := List.intercalate ['\n'] kept
    let whole :=
      if chomping == ['-'] then text
      else if chomping == ['+'] then
        text ++ List.replicate (if kept.isEmpty then ends else ends + 1) '\n'
      else if kept.isEmpty then []
      else text ++ ['\n']
    some (.scalar (String.ofList whole) false, ⟨'\n' :: rest, 0⟩)

/-! ## Collections -/

mutual

/-- Read a value in a flow collection. -/
def flowNode? :
    (steps : Nat) → Cursor → Option (Yaml × Cursor)
  | 0, _ => none
  | steps + 1, cursor =>
      match cursor.rest with
      | '[' :: _ =>
          (flowItems? steps cursor.advance).map fun (items, behind) => (.sequence items, behind)
      | '\x7b' :: _ =>
          (flowEntries? steps cursor.advance).map
            fun (entries, behind) => (.mapping entries, behind)
      | '\'' :: _ => quoted? cursor
      | '"' :: _ => quoted? cursor
      | text => if startsPlain true text then plain? true 0 cursor else none

/-- Read what follows a key in a flow collection: a colon and a value, or nothing. -/
def flowValue? :
    (steps : Nat) → (key behindKey : Cursor) → Option (Option Yaml × Cursor)
  | 0, _, _ => none
  | steps + 1, key, behindKey =>
      let colon := nextFlowToken behindKey
      if colon.rest.head? == some ':' then
        if colon.isOnLineOf key then
          let start := nextFlowToken colon.advance
          match start.rest with
          | ',' :: _ => some (some .empty, start)
          | ']' :: _ => some (some .empty, start)
          | '\x7d' :: _ => some (some .empty, start)
          | _ => (flowNode? steps start).map fun (value, behind) => (some value, behind)
        else none
      else some (none, behindKey)

/-- Read the items of a flow sequence up to its bracket. -/
def flowItems? :
    (steps : Nat) → Cursor → Option (List Yaml × Cursor)
  | 0, _ => none
  | steps + 1, cursor =>
      let start := nextFlowToken cursor
      if start.rest.head? == some ']' then some ([], start.advance)
      else
        match flowNode? steps start with
        | none => none
        | some (key, behindKey) =>
            match flowValue? steps start behindKey with
            | none => none
            | some (value, behind) =>
                let item : Yaml :=
                  match value with
                  | some value => .mapping [(key, value)]
                  | none => key
                let next := nextFlowToken behind
                match next.rest with
                | ',' :: _ =>
                    (flowItems? steps next.advance).map fun (items, last) => (item :: items, last)
                | ']' :: _ => some ([item], next.advance)
                | _ => none

/-- Read the entries of a flow mapping up to its brace. -/
def flowEntries? :
    (steps : Nat) → Cursor → Option (List (Yaml × Yaml) × Cursor)
  | 0, _ => none
  | steps + 1, cursor =>
      let start := nextFlowToken cursor
      if start.rest.head? == some '\x7d' then some ([], start.advance)
      else
        match flowNode? steps start with
        | none => none
        | some (key, behindKey) =>
            match flowValue? steps start behindKey with
            | none => none
            | some (value, behind) =>
                let entry := (key, value.getD .empty)
                let next := nextFlowToken behind
                match next.rest with
                | ',' :: _ =>
                    (flowEntries? steps next.advance).map
                      fun (entries, last) => (entry :: entries, last)
                | '\x7d' :: _ => some ([entry], next.advance)
                | _ => none

end

/-- Read a value that stands on the current line of a block: a flow collection, a quoted
scalar, or the first line of a plain one. -/
def lineNode?
    (cursor : Cursor) :
    Option (Yaml × Cursor) :=
  match cursor.rest with
  | '[' :: _ => flowNode? (4 * cursor.rest.length + 4) cursor
  | '\x7b' :: _ => flowNode? (4 * cursor.rest.length + 4) cursor
  | '\'' :: _ => quoted? cursor
  | '"' :: _ => quoted? cursor
  | text =>
      if startsPlain false text then
        (plainLine? false [] [] cursor.column text).map
          fun (characters, behind) => (.scalar (String.ofList characters) true, behind)
      else none

/-- Read a key of a block mapping; leads to the colon behind it. -/
def key?
    (cursor : Cursor) :
    Option (Yaml × Cursor) :=
  match lineNode? cursor with
  | none => none
  | some (key, behind) =>
      let colon := skipLineBlanks behind
      if endsKey colon.rest && colon.isOnLineOf cursor then some (key, colon) else none

mutual

/-- Read a value of a block whose lines are indented to at least a column.  A collection may
only start where a key could stand. -/
def blockNode? :
    (steps : Nat) → (least : Nat) → (canStart : Bool) → Cursor → Option (Yaml × Cursor)
  | 0, _, _, _ => none
  | steps + 1, least, canStart, cursor =>
      if startsItem cursor.rest then
        if canStart then
          (blockItems? steps false cursor).map fun (items, behind) => (.sequence items, behind)
        else none
      else if cursor.rest.head? == some '|' then literal? least cursor.advance
      else
        match key? cursor with
        | some (key, colon) =>
            if canStart then
              (blockEntries? steps cursor.column key colon).map
                fun (entries, behind) => (.mapping entries, behind)
            else none
        | none =>
            if startsPlain false cursor.rest then
              match plain? false least cursor with
              | some (value, behind) =>
                  if endsKey behind.rest then none else some (value, behind)
              | none => none
            else
              match lineNode? cursor with
              | some (value, behind) =>
                  if endsKey (skipLineBlanks behind).rest then none else some (value, behind)
              | none => none

/-- Read the items of a block sequence from its first dash on.  A sequence that is not
indented below its key ends at the next key. -/
def blockItems? :
    (steps : Nat) → (isUnindented : Bool) → Cursor → Option (List Yaml × Cursor)
  | 0, _, _ => none
  | steps + 1, isUnindented, cursor =>
      let behindDash := cursor.advance
      let (start, crossed) := nextKeyToken behindDash
      let item :=
        if start.isAtEnd || (crossed && start.column ≤ cursor.column) then
          some (Yaml.empty, behindDash)
        else blockNode? steps (cursor.column + 1) true start
      match item with
      | none => none
      | some (item, behind) =>
          let (next, isNewLine) := nextToken behind
          if next.isAtEnd || (isNewLine && isDocumentMark next) then some ([item], behind)
          else if !isNewLine || cursor.column < next.column then none
          else if next.column < cursor.column then some ([item], behind)
          else if startsItem next.rest then
            (blockItems? steps isUnindented next).map fun (items, last) => (item :: items, last)
          else if isUnindented then some ([item], behind)
          else none

/-- Read the entries of a block mapping from the colon behind its first key on. -/
def blockEntries? :
    (steps : Nat) → (column : Nat) → (key : Yaml) → Cursor → Option (List (Yaml × Yaml) × Cursor)
  | 0, _, _, _ => none
  | steps + 1, column, key, colon =>
      let behindColon := colon.advance
      let (start, crossed) := nextToken behindColon
      let value :=
        if start.isAtEnd then some (Yaml.empty, behindColon)
        else if crossed && start.column ≤ column then
          if start.column = column && startsItem start.rest then
            (blockItems? steps true start).map fun (items, behind) => (.sequence items, behind)
          else some (Yaml.empty, behindColon)
        else blockNode? steps (column + 1) crossed start
      match value with
      | none => none
      | some (value, behind) =>
          let (next, isNewLine) := nextToken behind
          if next.isAtEnd || (isNewLine && isDocumentMark next) then some ([(key, value)], behind)
          else if !isNewLine || column < next.column then none
          else if next.column < column then some ([(key, value)], behind)
          else
            match key? next with
            | none => none
            | some (nextKey, nextColon) =>
                (blockEntries? steps column nextKey nextColon).map
                  fun (entries, last) => ((key, value) :: entries, last)

end

/-! ## Documents -/

/-- Line ends of every kind become line feeds. -/
def normalizeLineEnds : List Char → List Char
  | [] => []
  | '\r' :: '\n' :: rest => '\n' :: normalizeLineEnds rest
  | '\r' :: rest => '\n' :: normalizeLineEnds rest
  | '\u0085' :: rest => '\n' :: normalizeLineEnds rest
  | character :: rest => character :: normalizeLineEnds rest

/-- Whether a character may stand in a document. -/
def isAllowed
    (character : Char) :
    Bool :=
  let code := character.toNat
  character == '\t' || character == '\n' || (0x20 ≤ code && code ≤ 0x7e)
    || (0xa0 ≤ code && code != 0xfeff && code != 0xfffe && code != 0xffff)

/-- The document behind a mark that starts it. -/
def documentStart
    (cursor : Cursor) :
    Cursor × Bool :=
  let (start, _) := nextKeyToken cursor
  match start.rest with
  | '-' :: '-' :: '-' :: rest =>
      if isDocumentMark start then nextToken ⟨rest, 3⟩ else (start, true)
  | _ => (start, true)

/-- Whether nothing but a mark that ends the document follows. -/
def isDocumentEnd
    (cursor : Cursor) :
    Bool :=
  let (next, crossed) := nextToken cursor
  next.isAtEnd
    || (crossed && isDocumentMark next && next.rest.head? == some '.'
        && (nextToken ⟨next.rest.drop 3, 3⟩).1.isAtEnd)

/-- Read a text with a single document. -/
def document?
    (text : List Char) :
    Option Yaml :=
  let normalized := normalizeLineEnds (if text.head? == some '\uFEFF' then text.drop 1 else text)
  if normalized.all isAllowed then
    let (start, canStart) := documentStart ⟨normalized, 0⟩
    if start.isAtEnd then some .empty
    else
      match blockNode? (4 * normalized.length + 4) 0 canStart start with
      | some (value, behind) => if isDocumentEnd behind then some value else none
      | none => none
  else none

end YamlReader

/-- Read a YAML document. -/
def Yaml.read?
    (text : String) :
    Option Yaml :=
  YamlReader.document? text.toList

end BindingStubs

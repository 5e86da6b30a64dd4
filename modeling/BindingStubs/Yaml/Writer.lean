import BindingStubs.Yaml.Basic

namespace BindingStubs

/-!
# Writing YAML

Text stands without quotes where it can be read back as text.  Text that would be read as
something else and text with special characters stands in single quotes, text with
characters that cannot be shown in double quotes, and text of several lines in a literal
block.  Lists stand below their key, an item to a line.
-/

namespace YamlWriter

/-- Whether a character ends a line. -/
def isBreak
    (character : Char) :
    Bool :=
  ['\n', '\r', '\u0085', '\u2028', '\u2029'].contains character

/-- Whether a character separates words. -/
def isBlank
    (character : Char) :
    Bool :=
  character == ' ' || character == '\t' || character == '\x00' || isBreak character

/-- Whether a character can be shown as it is. -/
def isShown
    (character : Char) :
    Bool :=
  let code := character.toNat
  character == '\n' || (0x20 ≤ code && code ≤ 0x7e)
    || (0xa0 ≤ code && code != 0xfeff && code != 0xfffe && code != 0xffff)

/-- Characters that text without quotes must not start with. -/
def indicators : List Char :=
  ['#', ',', '[', ']', '\x7b', '\x7d', '&', '*', '!', '|', '>', '\'', '"', '%', '@', '\x60']

/-- Whether a blank or the end of the text comes next. -/
def endsWord : List Char → Bool
  | [] => true
  | character :: _ => isBlank character

/-- Whether text starts with a character or a mark that has a meaning of its own. -/
def startsWithIndicator : List Char → Bool
  | [] => false
  | '-' :: '-' :: '-' :: _ => true
  | '.' :: '.' :: '.' :: _ => true
  | character :: rest =>
      indicators.contains character
        || ((character == '?' || character == ':' || character == '-') && endsWord rest)

/-- Whether a colon that would end a key, or a comment, stands behind the first character. -/
def hasIndicatorBehind
    (previous : Char) :
    List Char → Bool
  | [] => false
  | character :: rest =>
      (character == ':' && endsWord rest) || (character == '#' && isBlank previous)
        || hasIndicatorBehind character rest

/-- Whether two characters of the given kinds stand side by side. -/
def hasPair
    (isFirst isSecond : Char → Bool) :
    List Char → Bool
  | first :: second :: rest =>
      (isFirst first && isSecond second) || hasPair isFirst isSecond (second :: rest)
  | _ => false

/-- Whether a character is a space. -/
def isSpace
    (character : Char) :
    Bool :=
  character == ' '

/-- Whether text has characters that only stand in double quotes: one that cannot be shown,
or a space at the end of a line. -/
def needsEscapes
    (text : List Char) :
    Bool :=
  text.any (fun character => !isShown character) || hasPair isSpace isBreak text

/-- Whether text can stand in single quotes; a line must not start with a space. -/
def fitsSingleQuotes
    (text : List Char) :
    Bool :=
  !needsEscapes text && !hasPair isBreak isSpace text

/-- Whether text can stand in a literal block; it must not end with a space. -/
def fitsLiteral
    (text : List Char) :
    Bool :=
  !text.isEmpty && !needsEscapes text && text.getLast? != some ' '

/-- Whether text can stand without quotes. -/
def fitsPlain
    (text : List Char) :
    Bool :=
  match text with
  | [] => false
  | first :: rest =>
      fitsSingleQuotes text && !text.any isBreak && first != ' ' && text.getLast? != some ' '
        && !startsWithIndicator text && !hasIndicatorBehind first rest

/-- The letters that stand for characters in double quotes. -/
def letterEscapes : List (Char × Char) :=
  [('\x00', '0'), ('\x07', 'a'), ('\x08', 'b'), ('\t', 't'), ('\n', 'n'), ('\x0b', 'v'),
   ('\x0c', 'f'), ('\r', 'r'), ('\x1b', 'e'), ('"', '"'), ('\\', '\\'), ('\u0085', 'N'),
   ('\u2028', 'L'), ('\u2029', 'P')]

/-- The number of a character in capital hexadecimal digits of a fixed width. -/
def numbered
    (width : Nat)
    (character : Char) :
    List Char :=
  (Text.hexPadded width character.toNat).map Char.toUpper

/-- One character in double quotes. -/
def escaped
    (character : Char) :
    List Char :=
  match letterEscapes.lookup character with
  | some letter => ['\\', letter]
  | none =>
      if isShown character then [character]
      else if character.toNat ≤ 0xff then '\\' :: 'x' :: numbered 2 character
      else if character.toNat ≤ 0xffff then '\\' :: 'u' :: numbered 4 character
      else '\\' :: 'U' :: numbered 8 character

/-- Text in double quotes. -/
def doubleQuoted
    (text : List Char) :
    List Char :=
  '"' :: text.flatMap escaped ++ ['"']

/-- The spaces before a line inside a value. -/
def margin : List Char := [' ', ' ']

/-- Text in single quotes: a quote is doubled, and lines behind the first are indented. -/
def singleQuotedRest
    (behindBreak : Bool) :
    List Char → List Char
  | [] => if behindBreak then margin else []
  | character :: rest =>
      if isBreak character then character :: singleQuotedRest true rest
      else
        (if behindBreak then margin else [])
          ++ (if character = '\'' then ['\'', '\''] else [character])
          ++ singleQuotedRest false rest

/-- Text in single quotes. -/
def singleQuoted
    (text : List Char) :
    List Char :=
  '\'' :: singleQuotedRest false text ++ ['\'']

/-- The lines of a literal block; lines without text are not indented. -/
def literalLines
    (behindBreak : Bool) :
    List Char → List Char
  | [] => []
  | character :: rest =>
      if isBreak character then character :: literalLines true rest
      else (if behindBreak then margin else []) ++ character :: literalLines false rest

/-- The hint on the line ends at the end of a literal block: none is kept, or all are. -/
def chompingHint
    (text : List Char) :
    List Char :=
  match text.reverse with
  | [] => ['-']
  | [last] => if isBreak last then ['+'] else ['-']
  | last :: before :: _ =>
      if !isBreak last then ['-'] else if isBreak before then ['+'] else []

/-- Text in a literal block, without a line end of its own behind it. -/
def literal
    (text : List Char) :
    List Char :=
  let startsBlank :=
    match text with
    | first :: _ => isSpace first || isBreak first
    | [] => false
  '|' :: (if startsBlank then ['2'] else []) ++ chompingHint text ++ '\n' :: literalLines true text

/-- Text as a scalar. -/
def scalarCharacters
    (text : List Char) :
    List Char :=
  if text.contains '\n' then
    if fitsLiteral text then literal text else doubleQuoted text
  else if !Yaml.readsAsOther (String.ofList text) && fitsPlain text then text
  else if fitsSingleQuotes text then singleQuoted text
  else doubleQuoted text

end YamlWriter

namespace Yaml

/-- A value on the line of its key or dash, and the lines behind it. -/
def inlineText : Yaml → String
  | .scalar text true => text
  | .scalar text false => String.ofList (YamlWriter.scalarCharacters text.toList)
  | .sequence _ => "[]"
  | .mapping _ => "\x7b\x7d"

/-- A text that ends its line. -/
def endLine
    (text : String) :
    String :=
  if text.toList.getLast?.any YamlWriter.isBreak then text else text ++ "\n"

/-- An entry of a mapping: a scalar stands behind its key, items stand below it. -/
def entryText
    (key : String)
    (value : Yaml) :
    String :=
  match value with
  | .sequence (item :: items) =>
      key ++ ":\n"
        ++ String.join ((item :: items).map fun item => endLine ("- " ++ inlineText item))
  | _ => endLine (key ++ ": " ++ inlineText value)

/-- Entries of a mapping, one after another. -/
def entriesText
    (entries : List (String × Yaml)) :
    String :=
  String.join (entries.map fun entry => entryText entry.1 entry.2)

end Yaml

end BindingStubs

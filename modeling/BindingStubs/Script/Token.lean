import BindingStubs.Script.Basic
import BindingStubs.Text.Decimal

namespace BindingStubs

/-!
# Tokens of shell scripts

A script is split into words, operators and redirections.  Quotes and backslashes take away
the meaning of characters; a number sign starts a comment where a word could start.
-/

/-- A token of a script. -/
inductive ScriptToken where
  | word (parts : ScriptWord)
  | operator (text : String)
  | redirection (descriptor : Nat) (isDuplicate appends : Bool)
  deriving Repr, DecidableEq

namespace ScriptToken

/-- Add a character to the parts of a word, which are reversed. -/
def pushCharacter
    (isQuoted : Bool)
    (character : Char) :
    List WordPart → List WordPart
  | .text characters quoted :: rest =>
      if quoted = isQuoted then .text (characters.push character) quoted :: rest
      else .text (String.singleton character) isQuoted :: .text characters quoted :: rest
  | parts => .text (String.singleton character) isQuoted :: parts

/-- Make sure that a word has a quoted part, even if nothing stands between the quotes. -/
def pushQuote : List WordPart → List WordPart
  | .text characters true :: rest => .text characters true :: rest
  | parts => .text "" true :: parts

/-- Whether a character may start the name of a variable. -/
def startsName
    (character : Char) :
    Bool :=
  character.isAlpha || character == '_'

/-- Whether a character may stand in the name of a variable. -/
def continuesName
    (character : Char) :
    Bool :=
  character.isAlphanum || character == '_'

/-- Parameters that are named by a single character. -/
def specialNames : List Char := ['*', '@', '#', '?', '$', '!', '-']

/-- The parameter behind a dollar sign and what follows it. -/
def parameter? : List Char → Option (String × List Char)
  | '\x7b' :: rest =>
      let name := rest.takeWhile (· != '\x7d')
      match rest.drop name.length with
      | '\x7d' :: behind =>
          if !name.isEmpty && (name.all continuesName || name.length = 1) then
            some (String.ofList name, behind)
          else none
      | _ => none
  | character :: rest =>
      if startsName character then
        let name := character :: rest.takeWhile continuesName
        some (String.ofList name, rest.dropWhile continuesName)
      else if character.isDigit || specialNames.contains character then
        some (String.singleton character, rest)
      else none
  | [] => none

/-- Characters that a backslash escapes inside double quotes. -/
def escapable : List Char := ['$', '\x60', '"', '\\']

/-- Read the inside of double quotes; the parts are reversed. -/
def doubleQuoted? :
    (steps : Nat) → List WordPart → List Char → Option (List WordPart × List Char)
  | 0, _, _ => none
  | steps + 1, parts, text =>
      match text with
      | [] => none
      | '"' :: rest => some (parts, rest)
      | '\\' :: '\n' :: rest => doubleQuoted? steps parts rest
      | '\\' :: character :: rest =>
          if escapable.contains character then
            doubleQuoted? steps (pushCharacter true character parts) rest
          else
            doubleQuoted? steps
              (pushCharacter true character (pushCharacter true '\\' parts)) rest
      | '$' :: rest =>
          match parameter? rest with
          | some (name, behind) => doubleQuoted? steps (.parameter name true :: parts) behind
          | none => doubleQuoted? steps (pushCharacter true '$' parts) rest
      | '\x60' :: _ => none
      | character :: rest => doubleQuoted? steps (pushCharacter true character parts) rest

/-- Characters that end a word. -/
def wordEnds : List Char := [' ', '\t', '\n', ';', '&', '|', '<', '>', '(', ')']

/-- Read a word; the parts are reversed. -/
def word? :
    (steps : Nat) → List WordPart → List Char → Option (List WordPart × List Char)
  | 0, _, _ => none
  | steps + 1, parts, text =>
      match text with
      | [] => some (parts, [])
      | '\'' :: rest =>
          let quoted := rest.takeWhile (· != '\'')
          match rest.drop quoted.length with
          | _ :: behind =>
              word? steps
                (quoted.foldl (fun parts character => pushCharacter true character parts)
                  (pushQuote parts))
                behind
          | [] => none
      | '"' :: rest =>
          match doubleQuoted? (rest.length + 1) (pushQuote parts) rest with
          | some (more, behind) => word? steps more behind
          | none => none
      | '\\' :: '\n' :: rest => word? steps parts rest
      | '\\' :: character :: rest => word? steps (pushCharacter true character parts) rest
      | '$' :: rest =>
          match parameter? rest with
          | some (name, behind) => word? steps (.parameter name false :: parts) behind
          | none => word? steps (pushCharacter false '$' parts) rest
      | '\x60' :: _ => none
      | character :: rest =>
          if wordEnds.contains character then some (parts, character :: rest)
          else word? steps (pushCharacter false character parts) rest

/-- The descriptor of a redirection that starts here, and the redirection without it. -/
def descriptor? : List Char → Option (Nat × List Char)
  | '>' :: rest => some (1, '>' :: rest)
  | digit :: '>' :: rest => (Text.digitValue? digit).map fun number => (number, '>' :: rest)
  | _ => none

/-- Read a redirection to a file or to another descriptor. -/
def readRedirection
    (descriptor : Nat) :
    List Char → ScriptToken × List Char
  | '>' :: '>' :: rest => (.redirection descriptor false true, rest)
  | '>' :: '&' :: rest => (.redirection descriptor true false, rest)
  | text => (.redirection descriptor false false, text.drop 1)

/-- Split a script into tokens. -/
def readAll? :
    (steps : Nat) → List Char → Option (List ScriptToken)
  | 0, _ => none
  | steps + 1, text =>
      match text with
      | [] => some []
      | ' ' :: rest => readAll? steps rest
      | '\t' :: rest => readAll? steps rest
      | '\\' :: '\n' :: rest => readAll? steps rest
      | '#' :: rest => readAll? steps (rest.dropWhile (· != '\n'))
      | '\n' :: rest => (readAll? steps rest).map (.operator "\n" :: ·)
      | ';' :: ';' :: rest => (readAll? steps rest).map (.operator ";;" :: ·)
      | ';' :: rest => (readAll? steps rest).map (.operator ";" :: ·)
      | '&' :: '&' :: rest => (readAll? steps rest).map (.operator "&&" :: ·)
      | '|' :: '|' :: rest => (readAll? steps rest).map (.operator "||" :: ·)
      | '|' :: rest => (readAll? steps rest).map (.operator "|" :: ·)
      | '(' :: rest => (readAll? steps rest).map (.operator "(" :: ·)
      | ')' :: rest => (readAll? steps rest).map (.operator ")" :: ·)
      | character :: rest =>
          match descriptor? (character :: rest) with
          | some (descriptor, behind) =>
              let (token, following) := readRedirection descriptor behind
              (readAll? steps following).map (token :: ·)
          | none =>
              match word? (text.length + 1) [] text with
              | some (part :: parts, behind) =>
                  (readAll? steps behind).map (.word (part :: parts).reverse :: ·)
              | _ => none

/-- Whether a token is a given word without quotes. -/
def isKeyword
    (name : String) :
    ScriptToken → Bool
  | .word parts => parts == [.text name false]
  | _ => false

/-- Whether a token is a given operator. -/
def isOperator
    (text : String) :
    ScriptToken → Bool
  | .operator other => other == text
  | _ => false

end ScriptToken

end BindingStubs

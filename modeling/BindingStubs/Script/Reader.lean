import BindingStubs.Script.Token

namespace BindingStubs

/-!
# Reading shell scripts

Commands are separated by semicolons or line ends and joined by operators.  Words such as
`for` and `case` have a meaning only where a command starts.
-/

namespace ScriptReader

/-- Pass over line ends. -/
def skipLines
    (tokens : List ScriptToken) :
    List ScriptToken :=
  tokens.dropWhile (ScriptToken.isOperator "\n")

/-- Pass over line ends and semicolons. -/
def skipSeparators
    (tokens : List ScriptToken) :
    List ScriptToken :=
  tokens.dropWhile fun token =>
    ScriptToken.isOperator "\n" token || ScriptToken.isOperator ";" token

/-- Words that end a list of commands. -/
def closingWords : List String :=
  ["do", "done", "then", "else", "elif", "fi", "esac", "\x7d"]

/-- Whether a list of commands ends before a token. -/
def endsList
    (token : ScriptToken) :
    Bool :=
  ScriptToken.isOperator ")" token || ScriptToken.isOperator ";;" token
    || closingWords.any fun name => ScriptToken.isKeyword name token

/-- Pass over a word that must come next. -/
def expect?
    (name : String) :
    List ScriptToken → Option (List ScriptToken)
  | token :: rest => if ScriptToken.isKeyword name token then some rest else none
  | [] => none

/-- The words up to a separator. -/
def words : List ScriptToken → List ScriptWord × List ScriptToken
  | .word parts :: rest =>
      let (more, behind) := words rest
      (parts :: more, behind)
  | tokens => ([], tokens)

/-- The assignment that a word is: a name, an equals sign and a value. -/
def assignment? : ScriptWord → Option (String × ScriptWord)
  | .text characters false :: rest =>
      let name := characters.toList.takeWhile (· != '=')
      match characters.toList.drop name.length with
      | '=' :: value =>
          if name.head?.any ScriptToken.startsName && name.all ScriptToken.continuesName then
            some (String.ofList name,
              if value.isEmpty then rest else .text (String.ofList value) false :: rest)
          else none
      | _ => none
  | _ => none

/-- A redirection and what follows it. -/
def redirection? : List ScriptToken → Option (Redirection × List ScriptToken)
  | .redirection descriptor false appends :: .word path :: rest =>
      some ({ descriptor, target := .file path appends }, rest)
  | .redirection descriptor true _ :: .word [.text number false] :: rest =>
      (Text.readDigits? number.toList).map fun value =>
        ({ descriptor, target := .descriptor value }, rest)
  | _ => none

/-- The redirections behind a command. -/
def redirections? :
    (steps : Nat) → List ScriptToken → Option (List Redirection × List ScriptToken)
  | 0, _ => none
  | steps + 1, tokens =>
      match tokens with
      | .redirection .. :: _ =>
          match redirection? tokens with
          | some (first, rest) =>
              (redirections? steps rest).map fun (more, behind) => (first :: more, behind)
          | none => none
      | _ => some ([], tokens)

/-- A simple command: assignments, words and redirections. -/
def simple? :
    (steps : Nat) → List (String × ScriptWord) → List ScriptWord → List Redirection →
      List ScriptToken → Option (Script × List ScriptToken)
  | 0, _, _, _, _ => none
  | steps + 1, assignments, found, redirections, tokens =>
      match tokens with
      | .word parts :: rest =>
          match (if found.isEmpty then assignment? parts else none) with
          | some assignment => simple? steps (assignments ++ [assignment]) found redirections rest
          | none => simple? steps assignments (found ++ [parts]) redirections rest
      | .redirection .. :: _ =>
          match redirection? tokens with
          | some (redirection, rest) =>
              simple? steps assignments found (redirections ++ [redirection]) rest
          | none => none
      | _ =>
          if assignments.isEmpty && found.isEmpty && redirections.isEmpty then none
          else some (.simple assignments found redirections, tokens)

/-- The patterns of a branch up to its parenthesis. -/
def patterns? : List ScriptToken → Option (List ScriptWord × List ScriptToken)
  | .word pattern :: .operator ")" :: rest => some ([pattern], rest)
  | .word pattern :: .operator "|" :: rest =>
      (patterns? rest).map fun (more, behind) => (pattern :: more, behind)
  | _ => none

/-- Pass over the parenthesis that may open a branch. -/
def skipParenthesis : List ScriptToken → List ScriptToken
  | .operator "(" :: rest => rest
  | tokens => tokens

/-- A compound command with the redirections behind it. -/
def withRedirections
    (command : Option (Script × List ScriptToken)) :
    Option (Script × List ScriptToken) :=
  match command with
  | none => none
  | some (script, tokens) =>
      match redirections? (tokens.length + 1) tokens with
      | none => none
      | some ([], rest) => some (script, rest)
      | some (found, rest) => some (.redirected script found, rest)

mutual

/-- Read commands up to a word that ends the list. -/
def sequence? :
    (steps : Nat) → List ScriptToken → Option (Script × List ScriptToken)
  | 0, _ => none
  | steps + 1, tokens =>
      match skipSeparators tokens with
      | [] => some (.skip, [])
      | token :: rest =>
          if endsList token then some (.skip, token :: rest)
          else
            match joined? steps (token :: rest) with
            | none => none
            | some (first, behind) =>
                (sequence? steps behind).map fun (second, last) => (.sequence first second, last)

/-- Read commands joined by operators, from left to right. -/
def joined? :
    (steps : Nat) → List ScriptToken → Option (Script × List ScriptToken)
  | 0, _ => none
  | steps + 1, tokens =>
      match negated? steps tokens with
      | none => none
      | some (first, rest) => joinedRest? steps first rest

/-- Read the commands that are joined to one. -/
def joinedRest? :
    (steps : Nat) → Script → List ScriptToken → Option (Script × List ScriptToken)
  | 0, _, _ => none
  | steps + 1, first, tokens =>
      match tokens with
      | .operator "&&" :: rest =>
          match negated? steps (skipLines rest) with
          | some (second, behind) => joinedRest? steps (.both first second) behind
          | none => none
      | .operator "||" :: rest =>
          match negated? steps (skipLines rest) with
          | some (second, behind) => joinedRest? steps (.either first second) behind
          | none => none
      | .operator "|" :: _ => none
      | _ => some (first, tokens)

/-- Read a command that may be negated. -/
def negated? :
    (steps : Nat) → List ScriptToken → Option (Script × List ScriptToken)
  | 0, _ => none
  | steps + 1, tokens =>
      match tokens with
      | [] => none
      | token :: rest =>
          if ScriptToken.isKeyword "!" token then
            (command? steps rest).map fun (body, behind) => (.negation body, behind)
          else command? steps tokens

/-- Read a command. -/
def command? :
    (steps : Nat) → List ScriptToken → Option (Script × List ScriptToken)
  | 0, _ => none
  | steps + 1, tokens =>
      match tokens with
      | [] => none
      | token :: rest =>
          if ScriptToken.isKeyword "for" token then withRedirections (loop? steps rest)
          else if ScriptToken.isKeyword "case" token then withRedirections (choice? steps rest)
          else if ScriptToken.isKeyword "if" token then withRedirections (condition? steps rest)
          else if ScriptToken.isKeyword "\x7b" token then
            match sequence? steps rest with
            | some (body, behind) =>
                withRedirections ((expect? "\x7d" behind).map fun last => (body, last))
            | none => none
          else simple? (tokens.length + 1) [] [] [] tokens

/-- Read a loop behind its first word. -/
def loop? :
    (steps : Nat) → List ScriptToken → Option (Script × List ScriptToken)
  | 0, _ => none
  | steps + 1, tokens =>
      match tokens with
      | .word [.text name false] :: rest =>
          let (values, behind) : Option (List ScriptWord) × List ScriptToken :=
            match expect? "in" (skipLines rest) with
            | some listed => ((some (words listed).1), (words listed).2)
            | none => (none, rest)
          match expect? "do" (skipSeparators behind) with
          | none => none
          | some body =>
              match sequence? steps body with
              | none => none
              | some (script, last) =>
                  (expect? "done" last).map fun final =>
                    (.forEach name values script, final)
      | _ => none

/-- Read a choice behind its first word. -/
def choice? :
    (steps : Nat) → List ScriptToken → Option (Script × List ScriptToken)
  | 0, _ => none
  | steps + 1, tokens =>
      match tokens with
      | .word subject :: rest =>
          match expect? "in" (skipLines rest) with
          | some branches => branches? steps subject branches
          | none => none
      | _ => none

/-- Read the branches of a choice. -/
def branches? :
    (steps : Nat) → ScriptWord → List ScriptToken → Option (Script × List ScriptToken)
  | 0, _, _ => none
  | steps + 1, subject, tokens =>
      let start := skipLines tokens
      match expect? "esac" start with
      | some rest => some (.skip, rest)
      | none =>
          match patterns? (skipParenthesis start) with
          | none => none
          | some (patterns, rest) =>
              match sequence? steps rest with
              | none => none
              | some (body, behind) =>
                  let following :=
                    match behind with
                    | .operator ";;" :: last => last
                    | _ => behind
                  (branches? steps subject following).map fun (otherwise, last) =>
                    (.matching subject patterns body otherwise, last)

/-- Read a condition behind its first word. -/
def condition? :
    (steps : Nat) → List ScriptToken → Option (Script × List ScriptToken)
  | 0, _ => none
  | steps + 1, tokens =>
      match sequence? steps tokens with
      | none => none
      | some (condition, rest) =>
          match (expect? "then" rest).bind fun body => sequence? steps body with
          | none => none
          | some (body, behind) =>
              match behind with
              | [] => none
              | token :: last =>
                  if ScriptToken.isKeyword "fi" token then
                    some (.conditional condition body .skip, last)
                  else if ScriptToken.isKeyword "elif" token then
                    (condition? steps last).map fun (otherwise, final) =>
                      (.conditional condition body otherwise, final)
                  else if ScriptToken.isKeyword "else" token then
                    match sequence? steps last with
                    | none => none
                    | some (otherwise, final) =>
                        (expect? "fi" final).map fun following =>
                          (.conditional condition body otherwise, following)
                  else none

end

end ScriptReader

/-- Read a shell script. -/
def Script.read?
    (text : String) :
    Option Script :=
  match ScriptToken.readAll? (text.length + 1) text.toList with
  | none => none
  | some tokens =>
      match ScriptReader.sequence? (8 * tokens.length + 8) tokens with
      | some (script, []) => some script
      | _ => none

end BindingStubs

import ImageSwap.Shell.Syntax

/-!
# Reading shell scripts

Words are separated by blanks and commands by semicolons and line ends; a hash sign at the start of
a word begins a comment.
-/

namespace ImageSwap.Shell

/-- A word, or what separates commands. -/
inductive Token where
  | word (w : Word)
  /-- Sends the output of a command to the error stream. -/
  | toStderr
  | semicolon
  | newline
  /-- Something that no script may hold here, with the complaint about it. -/
  | bad (complaint : String)
  deriving DecidableEq, Repr

/-- Whether a character may begin a name. -/
private def beginsName (c : Char) : Bool := c.isAlpha || c == '_'

/-- Whether a character may go on in a name. -/
private def continuesName (c : Char) : Bool := c.isAlphanum || c == '_'

/-- The parameter after a dollar sign, and what follows it. -/
private def readParameter? : List Char → Option (Parameter × List Char)
  | '#' :: rest => some (.count, rest)
  | '@' :: rest | '*' :: rest => some (.all, rest)
  | '$' :: rest => some (.process, rest)
  | '?' :: rest => some (.status, rest)
  | c :: rest =>
    if c.isDigit then some (.positional (c.toNat - '0'.toNat), rest)
    else if beginsName c then
      some (.variable (c :: rest.takeWhile continuesName), rest.dropWhile continuesName)
    else none
  | [] => none

/-- Whether a character ends a word that is not quoted. -/
private def endsWord (c : Char) : Bool := " \t\n;&|<>()".toList.contains c

/-- Reads the parts of a word, put after those already read backwards, with the number of
characters still to be read as a bound. Nothing is read when the word never ends. -/
private def partsOnto : Nat → Bool → List Part → List Char → Option (Word × List Char)
  | 0, _, _, _ => none
  | _ + 1, true, _, [] => none
  | _ + 1, false, read, [] => some (read.reverse, [])
  | n + 1, quoted, read, c :: rest =>
    if c == '"' then partsOnto n (!quoted) (if quoted then read else .literal [] :: read) rest
    else if c == '$' then
      match readParameter? rest with
      | some (p, rest) =>
        let read := match quoted, p, read with
          | true, .all, .literal [] :: read => read
          | _, _, read => read
        partsOnto n quoted (.parameter p quoted :: read) rest
      | none => partsOnto n quoted (.literal ['$'] :: read) rest
    else if c == '\x60' then none
    else if quoted then
      match c, rest with
      | '\\', e :: rest =>
        if e == '\n' then partsOnto n quoted read rest
        else if "$\"\\".toList.contains e then partsOnto n quoted (.literal [e] :: read) rest
        else partsOnto n quoted (.literal ['\\', e] :: read) rest
      | c, rest => partsOnto n quoted (.literal [c] :: read) rest
    else if c == '\'' then
      match rest.dropWhile (· != '\'') with
      | _ :: after => partsOnto n quoted (.literal (rest.takeWhile (· != '\'')) :: read) after
      | [] => none
    else if endsWord c then some (read.reverse, c :: rest)
    else match c, rest with
      | '\\', e :: rest =>
        if e == '\n' then partsOnto n quoted read rest
        else partsOnto n quoted (.literal [e] :: read) rest
      | c, rest => partsOnto n quoted (.literal [c] :: read) rest

/-- The tokens of a script, put after those already read backwards, with the number of characters
still to be read as a bound. -/
private def tokensOnto : Nat → List Token → List Char → List Token
  | 0, read, _ => read.reverse
  | _ + 1, read, [] => read.reverse
  | n + 1, read, c :: rest =>
    match c, rest with
    | ' ', _ | '\t', _ => tokensOnto n read rest
    | '\n', _ => tokensOnto n (.newline :: read) rest
    | ';', ';' :: _ => (.bad "\";;\" unexpected" :: read).reverse
    | ';', _ => tokensOnto n (.semicolon :: read) rest
    | '#', _ => tokensOnto n read (rest.dropWhile (· != '\n'))
    | '>', '&' :: '2' :: rest => tokensOnto n (.toStderr :: read) rest
    | c, rest =>
      if endsWord c then (.bad s!"\"{c}\" unexpected" :: read).reverse
      else match partsOnto (rest.length + 2) false [] (c :: rest) with
        | some (w, rest) => tokensOnto n (.word w :: read) rest
        | none => (.bad "Unterminated quoted string" :: read).reverse

/-- The tokens of a script. -/
def tokens (script : List Char) : List Token := tokensOnto (script.length + 1) [] script

/-- The letters of a word that holds nothing but letters as they stand. -/
private def plain? (w : Word) : Option (List Char) :=
  w.foldlM (fun text part => match part with
    | .literal t => some (text ++ t)
    | .parameter .. => none) []

/-- Whether a token is a given word of the language. -/
private def isKeyword (keyword : String) : Token → Bool
  | .word w => plain? w == some keyword.toList
  | _ => false

/-- The words of a simple command and whether its output goes to the error stream, with what
follows it. -/
private def readSimple : List Token → List Word × Bool × List Token
  | .word w :: rest =>
    let (words, toStderr, rest) := readSimple rest
    (w :: words, toStderr, rest)
  | .toStderr :: rest =>
    let (words, _, rest) := readSimple rest
    (words, true, rest)
  | rest => ([], false, rest)

/-- Whether a token ends a command. -/
private def isSeparator (t : Token) : Bool := t == .semicolon || t == .newline

/-- The words of the language that only stand inside a loop. -/
private def innerKeywords : List String := ["do", "done"]

/-- The complaint about a token that is not expected. -/
private def unexpected (t : Token) : String :=
  match t with
  | .word _ =>
    match innerKeywords.find? (isKeyword · t) with
    | some keyword => s!"\"{keyword}\" unexpected"
    | none => "word unexpected"
  | .toStderr => "redirection unexpected"
  | .semicolon => "\";\" unexpected"
  | .newline => "newline unexpected"
  | .bad complaint => complaint

/-- A complaint and the line that it is about. -/
private abbrev Complaint := Nat × String

/-- The complaint about what comes next on a line. -/
private def complain (line : Nat) (rest : List Token) : Except Complaint α :=
  .error (line, match rest with
    | t :: _ => unexpected t
    | [] => "end of file unexpected")

/-- The head of a loop up to its body: the name and the words, with the line of the body. -/
private def readHead (line : Nat) :
    List Token → Except Complaint (List Char × List Word × Nat × List Token)
  | .word name :: keyword :: rest =>
    match plain? name, isKeyword "in" keyword with
    | some name, true =>
      let (words, _, rest) := readSimple rest
      let line := line + (rest.takeWhile isSeparator).count .newline
      match rest.dropWhile isSeparator with
      | t :: rest =>
        if isKeyword "do" t then .ok (name, words, line, rest) else complain line (t :: rest)
      | [] => complain line []
    | _, _ => complain line (keyword :: rest)
  | rest => complain line rest

mutual
/-- One command, and the line and the tokens after it. The number bounds how deep loops may lie in
one another and how many commands they hold. -/
private def readCommand (n line : Nat) (ts : List Token) :
    Except Complaint (Command × Nat × List Token) :=
  match n, ts with
  | n + 1, .word w :: rest =>
    if isKeyword "for" (.word w) then do
      let (name, words, line, rest) ← readHead line rest
      let (body, line, rest) ← readList n line true rest
      return (.loop name words body, line, rest)
    else if innerKeywords.any (isKeyword · (.word w)) then complain line (.word w :: rest)
    else
      let (words, toStderr, rest) := readSimple (.word w :: rest)
      .ok (.simple line words toStderr, line, rest)
  | _, ts => complain line ts

/-- Commands up to the end of a line, or up to the end of a loop. -/
private def readList (n line : Nat) (inLoop : Bool) (ts : List Token) :
    Except Complaint (List Command × Nat × List Token) :=
  match n, ts with
  | 0, ts => complain line ts
  | _ + 1, [] =>
    if inLoop then .error (line, "end of file unexpected (expecting \"done\")")
    else .ok ([], line, [])
  | n + 1, t :: rest =>
    if t == .newline then
      if inLoop then readList n (line + 1) inLoop rest else .ok ([], line + 1, rest)
    else if inLoop && isKeyword "done" t then .ok ([], line, rest)
    else do
      let (command, line, rest) ← readCommand n line (t :: rest)
      let rest ← match rest with
        | .semicolon :: rest => .ok rest
        | .newline :: _ | [] => .ok rest
        | _ => complain line rest
      let (commands, line, rest) ← readList n line inLoop rest
      return (command :: commands, line, rest)
end

/-- The commands of a script from a line on. A line that cannot be read stands for itself, and
nothing after it is read. The number bounds how many lines there are. -/
private def readLines : Nat → Nat → List Token → List Command
  | 0, _, _ => []
  | _ + 1, _, [] => []
  | n + 1, line, ts =>
    match readList (2 * ts.length + 2) line false ts with
    | .ok (commands, line, rest) => commands ++ readLines n line rest
    | .error (line, complaint) => [.malformed line complaint]

/-- The commands of a script. -/
def commands (script : List Char) : List Command :=
  let ts := tokens script
  readLines (ts.length + 1) 1 ts

end ImageSwap.Shell

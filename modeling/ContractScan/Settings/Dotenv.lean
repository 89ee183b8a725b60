import ContractScan.Text.Blank

/-!
# Dotenv texts -- named values, one per line

A line names a value: a key, an equals sign, and the value, which may stand in quotes. A leading word
`export`, blanks around key and value, comments and empty lines do not count. In a value, a name in
braces after a dollar sign stands for another value, with an optional default. A line that breaks these
rules is skipped. All ways to end a line count as a line feed, also within quotes.
-/

namespace ContractScan.Dotenv

open ContractScan.Text

/-- The text with a line feed at the end of each line. -/
def withLineFeeds : List Char → List Char
  | '\r' :: '\n' :: cs => '\n' :: withLineFeeds cs
  | '\r' :: cs => '\n' :: withLineFeeds cs
  | c :: cs => c :: withLineFeeds cs
  | [] => []

/-- A blank that does not end a line. -/
def isInlineBlank (c : Char) : Bool := isBlank c && c != '\n'

/-- The text from the next line on. -/
def nextLine (cs : List Char) : List Char := (cs.dropWhile (· != '\n')).drop 1

/-- The text after the end of a line, before which only blanks and a comment may stand. -/
def endOfLine? (cs : List Char) : Option (List Char) :=
  match cs.dropWhile isInlineBlank with
  | [] => some []
  | '#' :: r => some (nextLine r)
  | '\n' :: r => some r
  | _ => none

/-- The text before a closing quote and the text after it. A quote after a backslash closes only if no
later one does. -/
def untilQuote (q : Char) : List Char → Option (List Char × List Char)
  | [] => none
  | '\\' :: c :: cs =>
    if c = q then
      match untilQuote q cs with
      | some (inner, rest) => some ('\\' :: q :: inner, rest)
      | none => some (['\\'], cs)
    else (untilQuote q (c :: cs)).map fun (inner, rest) => ('\\' :: inner, rest)
  | c :: cs =>
    if c = q then some ([], cs)
    else (untilQuote q cs).map fun (inner, rest) => (c :: inner, rest)

/-- What a backslash and `c` stand for between single quotes. -/
def singleEscape? (c : Char) : Option Char := if c = '\\' || c = '\'' then some c else none

/-- What a backslash and `c` stand for between double quotes. -/
def doubleEscape? (c : Char) : Option Char :=
  if c = '\\' || c = '\'' || c = '"' then some c
  else if c = 'a' then some '\x07'
  else if c = 'b' then some '\x08'
  else if c = 'f' then some '\x0c'
  else if c = 'n' then some '\n'
  else if c = 'r' then some '\r'
  else if c = 't' then some '\t'
  else if c = 'v' then some '\x0b'
  else none

/-- A text with its escapes replaced. -/
def unescape (escape? : Char → Option Char) : List Char → List Char
  | '\\' :: c :: cs =>
    match escape? c with
    | some d => d :: unescape escape? cs
    | none => '\\' :: unescape escape? (c :: cs)
  | c :: cs => c :: unescape escape? cs
  | [] => []

/-- The text without a comment at its end; a comment begins with `#` after a blank. `held` are the
blanks just passed, last first. -/
def dropComment : List Char → List Char → List Char
  | held, [] => held.reverse
  | held, c :: cs =>
    if isBlank c then dropComment (c :: held) cs
    else if c = '#' && !held.isEmpty then []
    else held.reverse ++ c :: dropComment [] cs

/-- A value that does not stand in quotes. -/
def plainValue (line : List Char) : List Char :=
  ((dropComment [] line).reverse.dropWhile isBlank).reverse

/-- Reads a value. -/
def readValue (cs : List Char) : Option (List Char × List Char) :=
  match cs with
  | '\'' :: r => (untilQuote '\'' r).map fun (v, rest) => (unescape singleEscape? v, rest)
  | '"' :: r => (untilQuote '"' r).map fun (v, rest) => (unescape doubleEscape? v, rest)
  | _ =>
    let line := cs.takeWhile (· != '\n')
    some (plainValue line, cs.drop line.length)

/-- Whether a character may stand in a key without quotes. -/
def isKeyChar (c : Char) : Bool := c != '=' && c != '#' && !isBlank c

/-- Reads a key; a comment has none. -/
def readKey (cs : List Char) : Option (Option (List Char) × List Char) :=
  match cs with
  | '#' :: _ => some (none, cs)
  | '\'' :: r =>
    let key := r.takeWhile (· != '\'')
    match r.drop key.length with
    | _ :: rest => if key.isEmpty then none else some (some key, rest)
    | [] => none
  | _ =>
    let key := cs.takeWhile isKeyChar
    if key.isEmpty then none else some (some key, cs.drop key.length)

/-- The text without the word `export` and the blanks after it. -/
def dropExport (cs : List Char) : List Char :=
  let rest := cs.drop 6
  if "export".toList.isPrefixOf cs && rest.head?.any isInlineBlank then rest.dropWhile isInlineBlank
  else cs

/-- A named value; a key without an equals sign has none. -/
abbrev Binding := List Char × Option (List Char)

/-- What is read from one line: a binding, if there is one, and the text after it. A line that is broken
gives none, and the reader goes on where it stood, at the next line. -/
def readLine (cs : List Char) : Option Binding × List Char :=
  match readKey (dropExport cs) with
  | none => (none, nextLine (dropExport cs))
  | some (key, rest) =>
    let rest := rest.dropWhile isInlineBlank
    let value :=
      match rest with
      | '=' :: r =>
        let r := r.dropWhile isInlineBlank
        match readValue r with
        | some (v, after) => (some (some v), after)
        | none => (none, r)
      | _ => (some none, rest)
    match value with
    | (none, after) => (none, nextLine after)
    | (some v, after) =>
      match endOfLine? after with
      | some next => (key.map fun k => (k, v), next)
      | none => (none, nextLine after)

/-- The bindings of a text, in order; the bound is the number of lines at most. -/
def readLines : Nat → List Char → List Binding
  | 0, _ => []
  | n + 1, cs =>
    match cs.dropWhile isBlank with
    | [] => []
    | start =>
      let (b, rest) := readLine start
      b.toList ++ readLines n rest

/-- The value of a name among bindings, the last one of that name. -/
def valueOf? (bs : List (List Char × List Char)) (name : List Char) : Option (List Char) :=
  (bs.reverse.find? (·.1 == name)).map (·.2)

/-- What stands in braces: a name, a default if there is one, and the text after the closing brace. -/
def reference? (cs : List Char) : Option (List Char × List Char × List Char) :=
  let name := cs.takeWhile fun c => c != '\x7d' && c != ':'
  match cs.drop name.length with
  | '\x7d' :: rest => some (name, [], rest)
  | ':' :: '-' :: r =>
    let default := r.takeWhile (· != '\x7d')
    match r.drop default.length with
    | _ :: rest => some (name, default, rest)
    | [] => none
  | _ => none

/-- A value with its references replaced; the bound is the length of the text. -/
def expand (known : List (List Char × List Char)) : Nat → List Char → List Char
  | 0, cs => cs
  | n + 1, cs =>
    match cs with
    | [] => []
    | '$' :: '\x7b' :: r =>
      match reference? r with
      | some (name, default, rest) => (valueOf? known name).getD default ++ expand known n rest
      | none => '$' :: expand known n ('\x7b' :: r)
    | c :: r => c :: expand known n r

/-- The bindings with all references replaced, from what is known before and the bindings above. -/
def expandAll (known : List (List Char × List Char)) : List Binding → List Binding
  | [] => []
  | (k, none) :: rest => (k, none) :: expandAll (known ++ [(k, [])]) rest
  | (k, some v) :: rest =>
    let w := expand known v.length v
    (k, some w) :: expandAll (known ++ [(k, w)]) rest

/-- The named values of a text, in an environment that references may name. -/
def read (environment : List (String × String)) (text : String) : List (String × Option String) :=
  let cs := withLineFeeds text.toList
  let known := environment.map fun e => (e.1.toList, e.2.toList)
  (expandAll known (readLines (cs.length + 1) cs)).map fun b =>
    (String.ofList b.1, b.2.map String.ofList)

end ContractScan.Dotenv
